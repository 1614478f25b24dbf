/-
  Sets of characters, given by the code points at which membership changes.

  The operations on two sets run along the changes of both (`combine`). Halves of surrogate pairs
  are no characters: `full`, and with it complements and ranges, leave them out.
-/

namespace LiveForm

/-- A set of code points, as the ascending list of the points at which membership changes; the
    points below the first one are outside. -/
structure CharSet where
  flips : List Nat
deriving DecidableEq, Inhabited

namespace CharSet

/-- Membership of a code point, by the number of changes at or below it. -/
def memberOf : List Nat → Nat → Bool
  | [], _ => false
  | b :: bs, n => if n < b then false else !memberOf bs n

def contains (s : CharSet) (c : Char) : Bool := memberOf s.flips c.toNat

/-! ## Ranges -/

def empty : CharSet := ⟨[]⟩

/-- Every character. -/
def full : CharSet := ⟨[0, 0xD800, 0xE000, 0x110000]⟩

def single (c : Char) : CharSet := ⟨[c.toNat, c.toNat + 1]⟩

def isEmpty (s : CharSet) : Bool := s.flips.isEmpty

/-- The character of a set that has no other. -/
def single? (s : CharSet) : Option Char :=
  match s.flips with
  | [a, b] => if b = a + 1 then some (Char.ofNat a) else none
  | _ => none

/-- The changes of ascending ranges, both ends included. Ranges that touch are one. -/
def flipsOf : List (Nat × Nat) → List Nat
  | [] => []
  | (lo, hi) :: rs =>
    match flipsOf rs with
    | [] => [lo, hi + 1]
    | b :: bs => if b = hi + 1 then lo :: bs else lo :: (hi + 1) :: b :: bs

/-- The set of ascending ranges of code points. -/
def ofRanges (rs : List (Nat × Nat)) : CharSet := ⟨flipsOf rs⟩

/-- The ranges between changes, both ends included. -/
def rangesOf : List Nat → List (Nat × Nat)
  | a :: b :: bs => (a, b - 1) :: rangesOf bs
  | [a] => [(a, 0x10FFFF)]
  | [] => []

/-- The ranges of a set, in ascending order. -/
def ranges (s : CharSet) : List (Nat × Nat) := rangesOf s.flips

/-- Whether all members have code points below 128. -/
def isAscii (s : CharSet) : Bool := s.flips.all (· ≤ 0x80)

/-! ## Operations -/

/-- The changes of what `f` makes of two memberships, where `p` and `q` are the memberships before
    all the changes that are left. -/
def combineFlips (f : Bool → Bool → Bool) (p q : Bool) (xs ys : List Nat) : List Nat :=
  let change := fun (n : Nat) (p' q' : Bool) (rest : List Nat) =>
    if f p q = f p' q' then rest else n :: rest
  match xs, ys with
  | [], [] => []
  | x :: xs, [] => change x (!p) q (combineFlips f (!p) q xs [])
  | [], y :: ys => change y p (!q) (combineFlips f p (!q) [] ys)
  | x :: xs, y :: ys =>
    if x < y then change x (!p) q (combineFlips f (!p) q xs (y :: ys))
    else if y < x then change y p (!q) (combineFlips f p (!q) (x :: xs) ys)
    else change x (!p) (!q) (combineFlips f (!p) (!q) xs ys)
termination_by xs.length + ys.length

/-- The points whose two memberships `f` accepts, for an `f` that accepts no point outside both. -/
def combine (f : Bool → Bool → Bool) (s t : CharSet) : CharSet :=
  ⟨combineFlips f false false s.flips t.flips⟩

instance : Union CharSet := ⟨combine fun p q => p || q⟩

instance : Inter CharSet := ⟨combine fun p q => p && q⟩

instance : SDiff CharSet := ⟨combine fun p q => p && !q⟩

/-- The characters of one of the sets but not of both. -/
def symmDiff (s t : CharSet) : CharSet := combine (fun p q => p != q) s t

def compl (s : CharSet) : CharSet := full \ s

/-- The characters of any of the sets. -/
def unions (ss : List CharSet) : CharSet := ss.foldr (· ∪ ·) empty

/-- The characters from `lo` to `hi`, both included. -/
def range (lo hi : Char) : CharSet :=
  if lo ≤ hi then full ∩ ⟨[lo.toNat, hi.toNat + 1]⟩ else empty

end CharSet

end LiveForm
