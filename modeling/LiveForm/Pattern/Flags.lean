/-
  Flags, which change what the pattern after them means, and the blanks and comments that one of
  them allows inside patterns.
-/
import LiveForm.Pattern.Basic
import LiveForm.Unicode.Folding
import LiveForm.Unicode.Property

namespace LiveForm.Pattern

structure Flags where
  ignoreCase : Bool := false
  multiLine : Bool := false
  dotAll : Bool := false
  /-- Whether a carriage return ends a line too. -/
  orReturn : Bool := false
  /-- Whether classes and conditions on words know ASCII only. -/
  ascii : Bool := false
  /-- Whether blanks and comments are passed over. -/
  spaced : Bool := false
deriving Inhabited

namespace Flags

/-- Changes one flag. A change of greed does not matter to whether a text matches. -/
def put? (f : Flags) (c : Char) (on : Bool) : Option Flags :=
  match c with
  | 'i' => some { f with ignoreCase := on }
  | 'm' => some { f with multiLine := on }
  | 's' => some { f with dotAll := on }
  | 'U' => some f
  | 'u' => some { f with ascii := !on }
  | 'R' => some { f with orReturn := on }
  | 'x' => some { f with spaced := on }
  | _ => none

/-- Adds to a set what differs from it in case alone, if case is ignored. -/
def fold (f : Flags) (s : CharSet) : CharSet :=
  if !f.ignoreCase then s
  else if f.ascii then s ∪ ((s ∩ CharSet.ascii).foldCase ∩ CharSet.ascii)
  else s.foldCase

/-- The complement of a set where it is `negated`. In ASCII it would hold bytes that are no
    characters, so there is none. -/
def negate? (f : Flags) (negated : Bool) (s : CharSet) : Option CharSet :=
  if !negated then some s else if f.ascii then none else some s.compl

/-- The set that a class stands for: case is looked at before the complement is taken. -/
def finish? (f : Flags) (negated : Bool) (s : CharSet) : Option CharSet :=
  f.negate? negated (f.fold s)

/-! ## Blanks and comments -/

/-- What a character is in a text with blanks and comments, where `inComment` says whether a comment
    has begun before it: nothing, or something that counts; and whether a comment goes on. -/
def passesOver (f : Flags) (inComment : Bool) (c : Char) : Bool :=
  f.spaced && (inComment || Text.isBlank c || c == '#')

/-- Whether a character that is passed over begins or continues a comment. -/
def comments (inComment : Bool) (c : Char) : Bool :=
  if inComment then c != '\n' else c == '#'

/-- The text after the blanks and comments at its front. -/
def skipFrom (f : Flags) (inComment : Bool) : List Char → List Char
  | [] => []
  | c :: r => if f.passesOver inComment c then skipFrom f (comments inComment c) r else c :: r

def skip (f : Flags) (cs : List Char) : List Char := f.skipFrom false cs

/-- The characters that count up to a closing sign, and the text after that. -/
def untilFrom (f : Flags) (stop : Char) (inComment : Bool) :
    List Char → Option (List Char × List Char)
  | [] => none
  | c :: r =>
    if f.passesOver inComment c then untilFrom f stop (comments inComment c) r
    else if c = stop then some ([], r)
    else (untilFrom f stop false r).map fun (cs, rest) => (c :: cs, rest)

def until? (f : Flags) (stop : Char) (cs : List Char) : Option (List Char × List Char) :=
  f.untilFrom stop false cs

/-- The first `n` characters that count, and the text after them. -/
def takeFrom (f : Flags) (n : Nat) (inComment : Bool) : List Char → Option (List Char × List Char)
  | [] => if n = 0 then some ([], []) else none
  | c :: r =>
    if n = 0 then some ([], c :: r)
    else if f.passesOver inComment c then takeFrom f n (comments inComment c) r
    else (takeFrom f (n - 1) false r).map fun (cs, rest) => (c :: cs, rest)

def take? (f : Flags) (n : Nat) (cs : List Char) : Option (List Char × List Char) :=
  f.takeFrom n false cs

/-- The characters at the front that satisfy a condition, and the text from the first one on that
    does not. -/
def spanFrom (f : Flags) (p : Char → Bool) (inComment : Bool) :
    List Char → List Char × List Char
  | [] => ([], [])
  | c :: r =>
    if f.passesOver inComment c then spanFrom f p (comments inComment c) r
    else if p c then
      let (cs, rest) := spanFrom f p false r
      (c :: cs, rest)
    else ([], c :: r)

def span (f : Flags) (p : Char → Bool) (cs : List Char) : List Char × List Char :=
  f.spanFrom p false cs

end Flags

end LiveForm.Pattern
