/-
  Reading patterns from their text.

  The dialect has groups, alternatives, counted and uncounted repetition, anchors, Unicode classes,
  bracket expressions with set operations, and flags. It has no references to groups and no looking
  around. A pattern that breaks a rule of the dialect, is nested too deeply or is too large has no
  meaning at all, so reading gives an option and no reasons.
-/
import LiveForm.Pattern.Bracket
import LiveForm.Pattern.Group
import LiveForm.Pattern.Size

namespace LiveForm.Pattern

/-! ## Repetition -/

/-- A number with blanks around it, none without digits or above 32 bits. -/
def readCount (f : Flags) (cs : List Char) : Option Nat × List Char :=
  let (ds, rest) := f.span Char.isDigit (cs.dropWhile Text.isBlank)
  (if ds.isEmpty ∨ 0x100000000 ≤ Text.numeral ds then none else some (Text.numeral ds),
    f.skip (rest.dropWhile Text.isBlank))

/-- How often something is repeated. -/
structure Bounds where
  min : Nat
  max : Option Nat

/-- The bounds between braces, after the opening one. -/
def readBounds (f : Flags) (cs : List Char) : Option (Bounds × List Char) := do
  let (n, r) := readCount f (f.skip cs)
  let n ← n
  match r with
  | '}' :: rest => some (⟨n, some n⟩, rest)
  | ',' :: r =>
    match f.skip r with
    | '}' :: rest => some (⟨n, none⟩, rest)
    | r =>
      let (m, r) := readCount f r
      let m ← m
      match r with
      | '}' :: rest => if n ≤ m then some (⟨n, some m⟩, rest) else none
      | _ => none
  | _ => none

/-- Passes over the sign that makes a repetition lazy. -/
def skipLazy : List Char → List Char
  | '?' :: r => r
  | r => r

/-- The bounds of a repetition sign. -/
def readRepetition (f : Flags) (c : Char) (r : List Char) : Option (Bounds × List Char) :=
  match c with
  | '*' => some (⟨0, none⟩, skipLazy r)
  | '+' => some (⟨1, none⟩, skipLazy r)
  | '?' => some (⟨0, some 1⟩, skipLazy r)
  | '{' => (readBounds f r).map fun (b, rest) => (b, skipLazy (f.skip rest))
  | _ => none

/-! ## Pieces -/

/-- A part of a pattern, with the number of levels that its text is nested. -/
structure Piece where
  pattern : Pattern
  height : Nat
  /-- Whether a repetition sign may follow. -/
  isRepeatable : Bool := true

namespace Piece

/-- What flags leave behind among the pieces. -/
def ofFlags : Piece := ⟨.empty, 0, false⟩

/-- Pieces together; two or more are a level of their own. -/
def join (build : List Pattern → Pattern) (ps : List Piece) : Piece :=
  let height := (ps.map height).foldl max 0
  ⟨build (ps.map pattern), if ps.length < 2 then height else height + 1, true⟩

def repeat? (p : Piece) (b : Bounds) : Option Piece :=
  if p.isRepeatable then some ⟨times p.pattern b.min b.max, p.height + 1, true⟩ else none

/-- The piece in parentheses. -/
def enclose (p : Piece) (captures : Bool) : Piece :=
  ⟨if captures then .group p.pattern else p.pattern, p.height + 1, true⟩

end Piece

/-- A character, which stands for all that differ from it in case alone if case is ignored. -/
def ofChar (f : Flags) (c : Char) : Pattern :=
  if f.ignoreCase then ofSet (f.fold (.single c)) else .literal [c]

/-- What an escape matches. -/
def Atom.pattern (f : Flags) : Atom → Pattern
  | .char c => ofChar f c
  | .set s => ofSet s
  | .anchor a => .anchor a

/-- What the point matches. In ASCII that would be bytes that are no characters, so there is no
    such set. -/
def dot? (f : Flags) : Option CharSet :=
  if f.ascii then none
  else if f.dotAll then some .full
  else some (CharSet.compl (if f.orReturn then .ofTable "A D" else .single '\n'))

/-- Reads a piece that is no group and no repetition, after its first character. -/
def readPiece (f : Flags) (c : Char) (r : List Char) : Option (Piece × List Char) :=
  match c with
  | '[' =>
    let (b, rest) := openBracket f r
    (readBracket f [] b rest).map fun (x, rest) => (⟨ofSet x.set, x.height, true⟩, rest)
  | '.' => (dot? f).map fun s => (⟨ofSet s, 0, true⟩, r)
  | '^' => some (⟨.anchor (if f.multiLine then .lineStart f.orReturn else .textStart), 0, true⟩, r)
  | '$' => some (⟨.anchor (if f.multiLine then .lineEnd f.orReturn else .textEnd), 0, true⟩, r)
  | '\\' => (readEscape f r).map fun (a, rest) => (⟨a.pattern f, 0, true⟩, rest)
  | c => some (⟨ofChar f c, 0, true⟩, r)

/-! ## Groups -/

/-- An open group: the flags that hold again after it, whether it captures, its complete branches
    and the pieces of the current branch, the last ones first. -/
structure Frame where
  flags : Flags
  captures : Bool
  branches : List Piece := []
  pieces : List Piece := []

namespace Frame

def branch (g : Frame) : Piece := .join inSequence g.pieces.reverse

/-- Ends a branch. -/
def nextBranch (g : Frame) : Frame := { g with branches := g.branch :: g.branches, pieces := [] }

/-- What stands in the group. -/
def content (g : Frame) : Piece := .join anyOf g.nextBranch.branches.reverse

def add (g : Frame) (p : Piece) : Frame := { g with pieces := p :: g.pieces }

/-- Repeats the last piece. -/
def repeat? (g : Frame) (b : Bounds) : Option Frame :=
  match g.pieces with
  | [] => none
  | p :: ps => (p.repeat? b).map fun p => { g with pieces := p :: ps }

end Frame

/-- The state of reading: the flags that hold, the names of groups, and the open groups, the
    innermost one apart. -/
structure Reading where
  flags : Flags
  names : List (List Char)
  outer : List Frame
  inner : Frame

namespace Reading

def start : Reading := ⟨{}, [], [], { flags := {}, captures := false }⟩

/-- What begins with a parenthesis. Names are given once. -/
def begin? (s : Reading) : Opening → Option Reading
  | .flags f => some { s with flags := f, inner := s.inner.add .ofFlags }
  | .group captures name f =>
    if name.any s.names.contains then none
    else some ⟨f, name.toList ++ s.names, s.inner :: s.outer,
      { flags := s.flags, captures := captures }⟩

/-- Ends the innermost group. -/
def close? (s : Reading) : Option Reading :=
  match s.outer with
  | [] => none
  | g :: outer =>
    some ⟨s.inner.flags, s.names, outer, g.add (s.inner.content.enclose s.inner.captures)⟩

/-- Reads on by one sign or piece. Flags that are set in a branch hold in those after it too. -/
def step (s : Reading) (c : Char) (r : List Char) : Option (Reading × List Char) :=
  match c with
  | '(' => do
    let (opening, rest) ← readOpening s.flags r
    some (← s.begin? opening, rest)
  | ')' => s.close?.map fun s => (s, r)
  | '|' => some ({ s with inner := s.inner.nextBranch }, r)
  | c => do
    if ['*', '+', '?', '{'].contains c then
      let (b, rest) ← readRepetition s.flags c r
      some ({ s with inner := ← s.inner.repeat? b }, rest)
    else
      let (p, rest) ← readPiece s.flags c r
      some ({ s with inner := s.inner.add p }, rest)

/-- Reads the rest of a pattern. Each round takes at least one character. -/
def finish? (s : Reading) (cs : List Char) : Option Piece :=
  match s.flags.skip cs with
  | [] => if s.outer.isEmpty then some s.inner.content else none
  | c :: r =>
    match s.step c r with
    | none => none
    | some (s', rest) => if rest.length < cs.length then s'.finish? rest else none
termination_by cs.length

end Reading

/-! ## Whole patterns -/

/-- The levels that the text of a pattern may be nested. -/
def heightLimit : Nat := 250

/-- Reads a pattern. -/
def read? (s : String) : Option Pattern := do
  let p ← Reading.start.finish? s.toList
  if p.height ≤ heightLimit ∧ p.pattern.fits then some p.pattern else none

end LiveForm.Pattern
