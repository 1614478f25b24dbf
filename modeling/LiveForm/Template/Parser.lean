/-
  Reading expressions from tokens, and templates from text.

    expression := pipeline ('?' source ':' source)?
    pipeline   := source ('|' name (':' source)*)*
    source     := literal | root path | '(' expression ')'
    path       := name ('.' name)*

  A reading step returns what it read together with the tokens after it and a proof that they are
  fewer, so the readers end by the number of tokens.
-/
import LiveForm.Template.Expression
import LiveForm.Template.Segment
import LiveForm.Template.Token

namespace LiveForm

namespace Parser

/-- The offset of the next token, the end of the body if there is none. -/
def offset (stop : Nat) : List Lexeme → Nat
  | [] => stop
  | l :: _ => l.start

/-- Reads the names of a path up to its end. `afterDot` is the offset of the point before them. -/
def segments (stop : Nat) (afterDot : Option Nat) :
    List Lexeme → Except SyntaxError (List String × List Lexeme)
  | ⟨.identifier name, _, _⟩ :: ⟨.dot, at_, _⟩ :: ts =>
    (segments stop (some at_) ts).map fun (names, rest) => (name :: names, rest)
  | ⟨.identifier name, _, _⟩ :: ts => .ok ([name], ts)
  | ⟨.dot, at_, _⟩ :: _ =>
    .error (.invalidPath (if afterDot.isSome then "empty segment between '.' separators"
      else "path cannot start with '.'") at_)
  | ts =>
    match afterDot with
    | some dot => .error (.invalidPath "path cannot end with '.'" dot)
    | none => .error (.expectedToken "property name" (offset stop ts))

theorem segments_length {stop : Nat} {afterDot : Option Nat} {ts rest : List Lexeme}
    {names : List String} (h : segments stop afterDot ts = .ok (names, rest)) :
    rest.length < ts.length := by
  fun_induction segments stop afterDot ts generalizing names rest with
  | case1 afterDot name _ _ dot _ ts ih =>
    revert h
    cases hx : segments stop (some dot) ts with
    | error e => simp [Except.map]
    | ok r =>
      obtain ⟨ns, r⟩ := r
      simp only [Except.map, Except.ok.injEq, Prod.mk.injEq]
      rintro ⟨-, rfl⟩
      have := ih hx
      simp only [List.length_cons]; omega
  | case2 => simp only [Except.ok.injEq, Prod.mk.injEq] at h; simp [← h.2]
  | case3 => simp at h
  | case4 => simp at h
  | case5 => simp at h

/-- The literal that a token is. -/
def literal? : Token → Option Literal
  | .string s => some (.string s)
  | .integer n => some (.integer n)
  | .decimal d => some (.decimal d)
  | .boolean b => some (.boolean b)
  | .null => some .null
  | _ => none

/-- Something read from tokens, and the tokens after it, of which there are fewer. -/
structure Shorter (α : Type) (ts : List Lexeme) where
  value : α
  rest : List Lexeme
  length_lt : rest.length < ts.length

/-- Something read from tokens, perhaps from none of them, and the tokens after it. -/
structure NoLonger (α : Type) (ts : List Lexeme) where
  value : α
  rest : List Lexeme
  length_le : rest.length ≤ ts.length

/-- The given token, if it comes next. -/
def next? (t : Token) : (ts : List Lexeme) → Option (Shorter Unit ts)
  | [] => none
  | l :: ts => if l.token = t then some ⟨(), ts, by simp⟩ else none

/-- The name that comes next. -/
def name? : (ts : List Lexeme) → Option (Shorter String ts)
  | ⟨.identifier name, _, _⟩ :: ts => some ⟨name, ts, by simp⟩
  | _ => none

mutual

def expression (stop : Nat) (ts : List Lexeme) : Except SyntaxError (Shorter Expression ts) :=
  match pipeline stop ts with
  | .error e => .error e
  | .ok ⟨condition, ts₁, h₁⟩ =>
    match next? .question ts₁ with
    | none => .ok ⟨condition, ts₁, h₁⟩
    | some ⟨_, ts₂, h₂⟩ =>
      match source stop ts₂ with
      | .error e => .error e
      | .ok ⟨whenTrue, ts₃, h₃⟩ =>
        match next? .colon ts₃ with
        | none => .error (.expectedToken "':' between conditional branches" (offset stop ts₃))
        | some ⟨_, ts₄, h₄⟩ =>
          match source stop ts₄ with
          | .error e => .error e
          | .ok ⟨whenFalse, ts₅, h₅⟩ =>
            .ok ⟨.conditional condition whenTrue whenFalse, ts₅, by omega⟩
termination_by 3 * ts.length + 2

def pipeline (stop : Nat) (ts : List Lexeme) : Except SyntaxError (Shorter Expression ts) :=
  match source stop ts with
  | .error e => .error e
  | .ok ⟨node, ts₁, h₁⟩ =>
    match calls stop node ts₁ with
    | .error e => .error e
    | .ok ⟨piped, ts₂, h₂⟩ => .ok ⟨piped, ts₂, by omega⟩
termination_by 3 * ts.length + 1

/-- Applies the filters that follow `node`. -/
def calls (stop : Nat) (node : Expression) (ts : List Lexeme) :
    Except SyntaxError (NoLonger Expression ts) :=
  match next? .pipe ts with
  | none => .ok ⟨node, ts, Nat.le_refl _⟩
  | some ⟨_, ts₁, h₁⟩ =>
    match name? ts₁ with
    | none => .error (.emptyFilterName (offset stop ts₁))
    | some ⟨filter, ts₂, h₂⟩ =>
      match arguments stop ts₂ with
      | .error e => .error e
      | .ok ⟨args, ts₃, h₃⟩ =>
        match calls stop (.pipe node filter args) ts₃ with
        | .error e => .error e
        | .ok ⟨piped, ts₄, h₄⟩ => .ok ⟨piped, ts₄, by omega⟩
termination_by 3 * ts.length

def arguments (stop : Nat) (ts : List Lexeme) :
    Except SyntaxError (NoLonger (List Expression) ts) :=
  match next? .colon ts with
  | none => .ok ⟨[], ts, Nat.le_refl _⟩
  | some ⟨_, ts₁, h₁⟩ =>
    match source stop ts₁ with
    | .error e => .error e
    | .ok ⟨arg, ts₂, h₂⟩ =>
      match arguments stop ts₂ with
      | .error e => .error e
      | .ok ⟨args, ts₃, h₃⟩ => .ok ⟨arg :: args, ts₃, by omega⟩
termination_by 3 * ts.length

def source (stop : Nat) (ts : List Lexeme) : Except SyntaxError (Shorter Expression ts) :=
  match ts with
  | [] => .error (.unexpectedEnd stop)
  | l :: ts₁ =>
    match l.token with
    | .identifier word =>
      match Root.ofKeyword? word with
      | none => .error (.unknownSource word l.start)
      | some root =>
        match h : segments stop none ts₁ with
        | .error e => .error e
        | .ok (names, ts₂) =>
          .ok ⟨.path ⟨root, names⟩, ts₂, Nat.lt_succ_of_lt (segments_length h)⟩
    | .leftParen =>
      match expression stop ts₁ with
      | .error e => .error e
      | .ok ⟨inner, ts₂, h₂⟩ =>
        match next? .rightParen ts₂ with
        | none => .error (.expectedToken "')'" (offset stop ts₂))
        | some ⟨_, ts₃, h₃⟩ => .ok ⟨inner, ts₃, by simp only [List.length_cons]; omega⟩
    | t =>
      match literal? t with
      | some literal => .ok ⟨.literal literal, ts₁, Nat.lt_succ_self _⟩
      | none => .error (.unexpectedToken t.text l.start)
termination_by 3 * ts.length

end

/-- Reads tokens as one expression, with none left over. -/
def whole (stop : Nat) (ts : List Lexeme) : Except SyntaxError Expression :=
  match expression stop ts with
  | .error e => .error e
  | .ok ⟨e, rest, _⟩ =>
    match rest with
    | [] => .ok e
    | l :: _ => .error (.unexpectedToken l.token.text l.start)

/-- Reads the body of an expression whose first byte has offset `start`. -/
def body (s : String) (start : Nat) : Except SyntaxError Expression := do
  whole (start + Text.width s.toList) (← Lexeme.scanAll start s.toList)

/-- The part of an interpolation that a segment is. -/
def part : Segment → Except SyntaxError Part
  | .text s => .ok (.text s)
  | .body s start => (body s start).map .expression

/-- What the parts of a template amount to: a single part is itself, no part is empty text. -/
def ofParts : List Part → Expression
  | [] => .literal (.string "")
  | [.text s] => .literal (.string s)
  | [.expression e] => e
  | parts => .interpolation parts

/-- Reads a template. -/
def template (s : String) : Except SyntaxError Expression := do
  let segments ← Segment.split s.toList
  let parts ← segments.mapM part
  return ofParts parts

end Parser

end LiveForm
