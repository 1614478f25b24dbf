/-
  A template is text with expressions in braces. This module cuts a template into its texts and the
  bodies of its expressions, without looking into the bodies further than needed to find their ends.

  In text, `\{` and `\}` stand for the braces and every other backslash for itself. In a body,
  braces count only outside of string literals; inside of those a backslash takes the character
  after it along.
-/
import LiveForm.Template.Error

namespace LiveForm

/-- A piece of a template. -/
inductive Segment where
  | text (s : String)
  /-- The body of an expression and the offset of its first byte. -/
  | body (s : String) (start : Nat)
deriving DecidableEq, Inhabited

namespace Segment

/-- The text gathered so far, last character first, as a segment; empty text is none. -/
def flush (gathered : List Char) : List Segment :=
  if gathered.isEmpty then [] else [.text (String.ofList gathered.reverse)]

/-- A string literal that is open: its quote and the offset of that quote. -/
abbrev Quote := Char × Nat

mutual

/-- Cuts text from offset `pos` on. -/
def splitText (gathered : List Char) (pos : Nat) : List Char → Except SyntaxError (List Segment)
  | [] => .ok (flush gathered)
  | '\\' :: '{' :: r => splitText ('{' :: gathered) (pos + 2) r
  | '\\' :: '}' :: r => splitText ('}' :: gathered) (pos + 2) r
  | c :: r =>
    if c = '{' then (splitBody pos [] none (pos + 1) r).map (flush gathered ++ ·)
    else if c = '}' then .error (.unexpectedCloseBrace pos)
    else splitText (c :: gathered) (pos + c.utf8Size) r

/-- Cuts the body whose opening brace stands at `start`, from offset `pos` on. -/
def splitBody (start : Nat) (gathered : List Char) (quote : Option Quote) (pos : Nat) :
    List Char → Except SyntaxError (List Segment)
  | [] =>
    match quote with
    | some (_, at_) => .error (.unclosedString at_)
    | none => .error (.unclosedBrace start)
  | c :: r =>
    match quote with
    | some (q, at_) =>
      if c = '\\' then
        match r with
        | [] => .error (.unclosedString at_)
        | d :: r' => splitBody start (d :: c :: gathered) quote (pos + 1 + d.utf8Size) r'
      else splitBody start (c :: gathered) (if c = q then none else quote) (pos + c.utf8Size) r
    | none =>
      if c = '{' then .error (.nestedBrace pos)
      else if c = '}' then
        if gathered.all Text.isBlank then .error (.emptyExpression start)
        else (splitText [] (pos + 1) r).map
          (.body (String.ofList gathered.reverse) (start + 1) :: ·)
      else splitBody start (c :: gathered)
        (if c = '\'' ∨ c = '"' then some (c, pos) else none) (pos + c.utf8Size) r

end

/-- The segments of a template. -/
def split (template : List Char) : Except SyntaxError (List Segment) := splitText [] 0 template

end Segment

end LiveForm
