/-
  Bracket expressions: characters, ranges and classes between brackets, which may be negated, nested
  and joined by set operations.
-/
import LiveForm.Pattern.Escape

namespace LiveForm.Pattern

/-- The set operations between two lists of items. -/
inductive SetOp where
  | inter
  | diff
  | symmDiff

def SetOp.apply : SetOp → CharSet → CharSet → CharSet
  | .inter, s, t => s ∩ t
  | .diff, s, t => s \ t
  | .symmDiff, s, t => s.symmDiff t

/-- A set with the number of levels that its text is nested. -/
structure Nested where
  set : CharSet
  height : Nat

/-- An open bracket: whether it is negated, the operand and operation before the current items, the
    number of these items, and their union. -/
structure Bracket where
  negated : Bool
  pending : Option (Nested × SetOp)
  count : Nat
  items : Nested

namespace Bracket

def ofNegated (negated : Bool) : Bracket := ⟨negated, none, 0, ⟨.empty, 0⟩⟩

def add (b : Bracket) (x : Nested) : Bracket :=
  { b with count := b.count + 1, items := ⟨b.items.set ∪ x.set, max b.items.height x.height⟩ }

/-- The items so far, with the operation before them. Two items or more are a level of their own,
    and so is an operation. -/
def combined (f : Flags) (b : Bracket) : Nested :=
  let items := if b.count < 2 then b.items else { b.items with height := b.items.height + 1 }
  match b.pending with
  | none => items
  | some (lhs, op) =>
    ⟨op.apply (f.fold lhs.set) (f.fold items.set), max lhs.height items.height + 1⟩

/-- The whole bracket expression. -/
def close? (f : Flags) (b : Bracket) : Option Nested :=
  let x := b.combined f
  (f.finish? b.negated x.set).map fun s => ⟨s, x.height + 1⟩

/-- The bracket behind an operation, whose right side is still to come. -/
def waiting (b : Bracket) (f : Flags) (op : SetOp) : Bracket :=
  ⟨b.negated, some (b.combined f, op), 0, ⟨.empty, 0⟩⟩

end Bracket

/-- Begins a bracket after its opening sign. Hyphens at the front, and a closing sign before
    anything else, stand for themselves. -/
def openBracket (f : Flags) (cs : List Char) : Bracket × List Char :=
  let (negated, cs) := match f.skip cs with
    | '^' :: r => (true, r)
    | r => (false, r)
  let (hyphens, cs) := f.span (· == '-') cs
  let b := hyphens.foldl (fun b c => b.add ⟨.single c, 0⟩) (Bracket.ofNegated negated)
  match cs with
  | ']' :: r => if hyphens.isEmpty then (b.add ⟨.single ']', 0⟩, r) else (b, cs)
  | _ => (b, cs)

/-! ## Items -/

/-- The classes of ASCII characters by their names. -/
def asciiClasses : List NamedSet := [
  ⟨["alnum"], .ofTable "30-39 41-5A 61-7A"⟩,
  ⟨["alpha"], .ofTable "41-5A 61-7A"⟩,
  ⟨["ascii"], .ofTable "0-7F"⟩,
  ⟨["blank"], .ofTable "9 20"⟩,
  ⟨["cntrl"], .ofTable "0-1F 7F"⟩,
  ⟨["digit"], .ofTable "30-39"⟩,
  ⟨["graph"], .ofTable "21-7E"⟩,
  ⟨["lower"], .ofTable "61-7A"⟩,
  ⟨["print"], .ofTable "20-7E"⟩,
  ⟨["punct"], .ofTable "21-2F 3A-40 5B-60 7B-7E"⟩,
  ⟨["space"], .ofTable "9-D 20"⟩,
  ⟨["upper"], .ofTable "41-5A"⟩,
  ⟨["word"], .ofTable "30-39 41-5A 5F 61-7A"⟩,
  ⟨["xdigit"], .ofTable "30-39 41-46 61-66"⟩]

/-- A class by a name between `[:` and `:]`, after the first bracket: whether it is negated, and its
    set. -/
def asciiClass? (cs : List Char) : Option ((Bool × CharSet) × List Char) :=
  match cs with
  | ':' :: r =>
    let (negated, r) := match r with
      | '^' :: r' => (true, r')
      | _ => (false, r)
    match splitAtText? [':'] r with
    | some (name, ']' :: rest) =>
      (NamedSet.find? asciiClasses (String.ofList name)).map fun s => ((negated, s), rest)
    | _ => none
  | _ => none

/-- One character or class inside a bracket. -/
def readItem (f : Flags) : List Char → Option (Atom × List Char)
  | [] => none
  | '\\' :: r => readEscape f r
  | c :: r => some (.char c, r)

/-- The character of an item that may stand in a range. In ASCII there are no others. -/
def Atom.char? (f : Flags) : Atom → Option Char
  | .char c => if f.ascii ∧ 0x80 ≤ c.toNat then none else some c
  | _ => none

/-- The set that an item inside a bracket is; conditions on places have no place there. -/
def Atom.set? (f : Flags) : Atom → Option CharSet
  | .set s => some s
  | a => (a.char? f).map .single

/-- The sign after the first one of a text, as far as it decides whether that is the hyphen of a
    range. Blanks are passed over; a comment is not, but its first sign that is no blank is taken.
    Where only blanks are left, the first of them is taken. -/
def signAfter (f : Flags) (r : List Char) : Option Char :=
  if !f.spaced then r.head?
  else
    let rest := r.dropWhile Text.isBlank
    let rest := match rest with
      | '#' :: r => r.dropWhile Text.isBlank
      | r => r
    if rest.isEmpty then r.head? else rest.head?

/-- An item or a range of characters. -/
def readRange (f : Flags) (cs : List Char) : Option (CharSet × List Char) := do
  let (a, r) ← readItem f cs
  match f.skip r with
  | [] => none
  | '-' :: r' =>
    if signAfter f r' = some ']' ∨ signAfter f r' = some '-' then some (← a.set? f, '-' :: r')
    else
      let (b, rest) ← readItem f (f.skip r')
      let lo ← a.char? f
      let hi ← b.char? f
      if lo ≤ hi then some (.range lo hi, rest) else none
  | r => some (← a.set? f, r)

/-! ## Whole brackets -/

/-- Reads the rest of a bracket expression under the brackets around it. Each round takes at least
    one character. -/
def readBracket (f : Flags) (outer : List Bracket) (b : Bracket) (cs : List Char) :
    Option (Nested × List Char) :=
  match f.skip cs with
  | [] => none
  | c :: r =>
    let continue_ := fun (outer : List Bracket) (b : Bracket) (rest : List Char) =>
      if _h : rest.length < cs.length then readBracket f outer b rest else none
    match c, r with
    | '[', r =>
      match asciiClass? r with
      | some ((negated, s), rest) =>
        match f.finish? negated s with
        | some s => continue_ outer (b.add ⟨s, 0⟩) rest
        | none => none
      | none => let (inner, rest) := openBracket f r; continue_ (b :: outer) inner rest
    | ']', r =>
      match b.close? f, outer with
      | none, _ => none
      | some x, [] => some (x, r)
      | some x, parent :: outer => continue_ outer (parent.add x) r
    | '&', '&' :: r => continue_ outer (b.waiting f .inter) r
    | '-', '-' :: r => continue_ outer (b.waiting f .diff) r
    | '~', '~' :: r => continue_ outer (b.waiting f .symmDiff) r
    | c, r =>
      match readRange f (c :: r) with
      | some (s, rest) => continue_ outer (b.add ⟨s, 0⟩) rest
      | none => none
termination_by cs.length

end LiveForm.Pattern
