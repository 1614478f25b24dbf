/-
  Patterns of text.

  Patterns are kept in a plain form, which the functions that build them from parts see to: no
  sequence stands directly in a sequence and no choice in a choice, neighbouring literals are one,
  a set of one character is a literal, and a choice between sets is a set. The plain form decides
  how large a pattern is (`Pattern.fits`).
-/
import LiveForm.Text.Basic

namespace LiveForm

/-- Conditions on words at a place. -/
inductive WordAnchor where
  | boundary
  | noBoundary
  | start
  | finish
  /-- No word ends here. -/
  | startHalf
  /-- No word begins here. -/
  | finishHalf
deriving DecidableEq

/-- Conditions on a place between two characters. -/
inductive Anchor where
  | textStart
  | textEnd
  /-- The start of a line, which ends in a line feed, or in a carriage return as well. -/
  | lineStart (orReturn : Bool)
  | lineEnd (orReturn : Bool)
  /-- A condition on words, of ASCII or of all scripts. -/
  | word (a : WordAnchor) (ascii : Bool)
deriving DecidableEq

inductive Pattern where
  | empty
  | literal (cs : List Char)
  /-- One character of a set. -/
  | oneOf (s : CharSet)
  | anchor (a : Anchor)
  | sequence (ps : List Pattern)
  | choice (ps : List Pattern)
  /-- At least `min` matches one after the other, and at most `max` if that is given. -/
  | repeated (p : Pattern) (min : Nat) (max : Option Nat)
  /-- A group that could be asked for what it matched. -/
  | group (p : Pattern)
deriving Inhabited

namespace Pattern

/-! ## Width -/

mutual

/-- The fewest bytes that a match takes, none if there are no matches. -/
def leastWidth : Pattern → Option Nat
  | .empty => some 0
  | .literal cs => some (Text.width cs)
  | .oneOf s => s.flips.head?.map fun n => (Char.ofNat n).utf8Size
  | .anchor _ => some 0
  | .sequence ps => leastWidths ps (fun w v => do return (← w) + (← v)) (some 0)
  | .choice [] => none
  | .choice (p :: ps) => leastWidths ps (fun w v => do return Nat.min (← w) (← v)) p.leastWidth
  | .repeated p min _ => p.leastWidth.map (· * min)
  | .group p => p.leastWidth

/-- Combines the least widths of patterns with `w`. -/
def leastWidths (ps : List Pattern) (f : Option Nat → Option Nat → Option Nat) (w : Option Nat) :
    Option Nat :=
  match ps with
  | [] => w
  | p :: ps => leastWidths ps f (f w p.leastWidth)

end

mutual

/-- Whether the pattern matches nowhere but between characters. -/
def isEmptyOnly : Pattern → Bool
  | .empty => true
  | .literal cs => cs.isEmpty
  | .oneOf _ => false
  | .anchor _ => true
  | .sequence ps => areEmptyOnly ps
  | .choice ps => areEmptyOnly ps
  | .repeated p _ max => max.isSome && p.isEmptyOnly
  | .group p => p.isEmptyOnly

def areEmptyOnly : List Pattern → Bool
  | [] => true
  | p :: ps => p.isEmptyOnly && areEmptyOnly ps

end

mutual

/-- Whether each match begins at the start of the text, as far as the form of the pattern shows. -/
def isAtStart : Pattern → Bool
  | .anchor a => a = .textStart
  | .sequence ps => isSequenceAtStart ps
  | .choice ps => areAtStart ps
  | .repeated p min _ => 0 < min && p.isAtStart
  | .group p => p.isAtStart
  | _ => false

/-- Looks for the start of the text up to the first part that takes characters. -/
def isSequenceAtStart : List Pattern → Bool
  | [] => false
  | p :: ps => p.isAtStart || (p.isEmptyOnly && isSequenceAtStart ps)

def areAtStart : List Pattern → Bool
  | [] => true
  | p :: ps => p.isAtStart && areAtStart ps

end

mutual

/-- Whether each match ends at the end of the text, as far as the form of the pattern shows. -/
def isAtEnd : Pattern → Bool
  | .anchor a => a = .textEnd
  | .sequence ps => isSequenceAtEnd ps
  | .choice ps => areAtEnd ps
  | .repeated p min _ => 0 < min && p.isAtEnd
  | .group p => p.isAtEnd
  | _ => false

/-- Looks for the end of the text from the last part that takes characters on. -/
def isSequenceAtEnd : List Pattern → Bool
  | [] => false
  | p :: ps => isSequenceAtEnd ps || (p.isAtEnd && areEmptyOnly ps)

def areAtEnd : List Pattern → Bool
  | [] => true
  | p :: ps => p.isAtEnd && areAtEnd ps

end

mutual

/-- Whether two patterns have the same form. Each group is one of its own. -/
def same : Pattern → Pattern → Bool
  | .empty, .empty => true
  | .literal cs, .literal ds => cs == ds
  | .oneOf s, .oneOf t => s = t
  | .anchor a, .anchor b => a = b
  | .sequence ps, .sequence qs => areSame ps qs
  | .choice ps, .choice qs => areSame ps qs
  | .repeated p m n, .repeated q m' n' => m == m' && n == n' && same p q
  | _, _ => false

def areSame : List Pattern → List Pattern → Bool
  | [], [] => true
  | p :: ps, q :: qs => same p q && areSame ps qs
  | _, _ => false

end

/-! ## Building -/

/-- A pattern that matches nowhere. -/
def nothing : Pattern := .oneOf .empty

def ofSet (s : CharSet) : Pattern :=
  match s.single? with
  | some c => .literal [c]
  | none => .oneOf s

/-- The parts of a sequence. -/
def parts : Pattern → List Pattern
  | .empty => []
  | .sequence ps => ps
  | p => [p]

/-- Puts a part in front of others; two literals become one. -/
def joinLiteral (p : Pattern) (ps : List Pattern) : List Pattern :=
  match p, ps with
  | .literal cs, .literal ds :: ps => .literal (cs ++ ds) :: ps
  | p, ps => p :: ps

/-- One pattern after the other. -/
def inSequence (ps : List Pattern) : Pattern :=
  match (ps.flatMap parts).foldr joinLiteral [] with
  | [] => .empty
  | [p] => p
  | ps => .sequence ps

/-- The branches of a choice. -/
def branches : Pattern → List Pattern
  | .choice ps => ps
  | p => [p]

/-- The set of a literal of one character. -/
def charSet? : Pattern → Option CharSet
  | .literal [c] => some (.single c)
  | _ => none

/-- The set of a pattern that is one. -/
def oneOf? : Pattern → Option CharSet
  | .oneOf s => some s
  | _ => none

/-- The parts of a pattern that is a sequence. -/
def sequence? : Pattern → Option (List Pattern)
  | .sequence ps => some ps
  | _ => none

/-- The number of parts at the front that two sequences share. -/
def sharedLength : List Pattern → List Pattern → Nat
  | p :: ps, q :: qs => if same p q then sharedLength ps qs + 1 else 0
  | _, _ => 0

/-- The number of parts at the front that all sequences share. -/
def commonLength : List (List Pattern) → Nat
  | [] => 0
  | ps :: rest => rest.foldl (fun n qs => Nat.min n (sharedLength ps qs)) ps.length

/-- A choice between two or more branches. Where all of them are sequences that begin alike, the
    beginning is taken out, at most `fuel` times. -/
def choiceOf (fuel : Nat) (ps : List Pattern) : Pattern :=
  match ps.mapM charSet?, ps.mapM oneOf?, ps.mapM sequence?, fuel with
  | some ss, _, _, _ => ofSet (.unions ss)
  | _, some ss, _, _ => ofSet (.unions ss)
  | _, _, some (qs :: rest), fuel + 1 =>
    let n := commonLength (qs :: rest)
    if n = 0 then .choice ps
    else
      let tails := ((qs :: rest).map fun qs => inSequence (qs.drop n)).flatMap branches
      inSequence (qs.take n ++ [choiceOf fuel tails])
  | _, _, _, _ => .choice ps

/-- A match of any of the patterns. -/
def anyOf (ps : List Pattern) : Pattern :=
  match ps.flatMap branches with
  | [] => nothing
  | [p] => p
  | ps => choiceOf ((ps.filterMap sequence?).foldl (fun n qs => n + qs.length) 0) ps

/-- Matches of a pattern one after the other. What takes no characters need not be matched more than
    once. -/
def times (p : Pattern) (min : Nat) (max : Option Nat) : Pattern :=
  let (min, max) := if p.isEmptyOnly then (Nat.min min 1, some (Nat.min (max.getD 1) 1))
    else (min, max)
  if min = 0 ∧ max = some 0 then .empty
  else if min = 1 ∧ max = some 1 then p
  else .repeated p min max

end Pattern

end LiveForm
