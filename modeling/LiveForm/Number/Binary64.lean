/-
  Finite binary floating-point numbers of 64 bits, as a significand and a power of two.

  Each operation gives the number nearest to its exact result, which is found in natural numbers. As
  text a number has the fewest decimal digits that read back as the same number.
-/
import LiveForm.Text.Basic

namespace LiveForm

/-- The number `significand · 2 ^ exponent`, negated where `negative` holds. -/
structure Binary64 where
  negative : Bool
  significand : Nat
  exponent : Int
deriving DecidableEq, Inhabited

namespace Binary64

/-- A rational number that is not negative. -/
structure Ratio where
  num : Nat
  den : Nat

namespace Ratio

/-- `r · b ^ e`. -/
def scaleBy (r : Ratio) (b : Nat) (e : Int) : Ratio :=
  if e < 0 then ⟨r.num, r.den * Nat.pow b e.natAbs⟩ else ⟨r.num * Nat.pow b e.natAbs, r.den⟩

def floor (r : Ratio) : Nat := r.num / r.den

/-- The nearest integer, the even one of two. -/
def round (r : Ratio) : Nat :=
  let q := r.num / r.den
  let rest := 2 * (r.num % r.den)
  if rest < r.den ∨ (rest = r.den ∧ q % 2 = 0) then q else q + 1

def le (r s : Ratio) : Bool := r.num * s.den ≤ s.num * r.den

def lt (r s : Ratio) : Bool := r.num * s.den < s.num * r.den

def mul (r s : Ratio) : Ratio := ⟨r.num * s.num, r.den * s.den⟩

def div (r s : Ratio) : Ratio := ⟨r.num * s.den, r.den * s.num⟩

end Ratio

/-- The exponent of the smallest numbers. -/
def minExponent : Int := -1074

/-- The exponent of the largest numbers. -/
def maxExponent : Int := 971

/-- The exponent at which the significand of `r` has 53 bits, or the least exponent. -/
def exponentOf (r : Ratio) : Int :=
  let e := max ((Nat.log2 r.num : Int) - Nat.log2 r.den - 53) minExponent
  if (r.scaleBy 2 (-e)).floor < 0x20000000000000 then e else e + 1

/-- The nearest number to a rational, none if that is too large. -/
def ofRatio? (negative : Bool) (r : Ratio) : Option Binary64 :=
  if r.num = 0 then some ⟨negative, 0, minExponent⟩
  else
    let e := exponentOf r
    let m := (r.scaleBy 2 (-e)).round
    let (m, e) := if m = 0x20000000000000 then (0x10000000000000, e + 1) else (m, e)
    if e ≤ maxExponent then some ⟨negative, m, e⟩ else none

def zero : Binary64 := ⟨false, 0, minExponent⟩

/-- The nearest number to a natural number, none if that is too large. -/
def ofNat? (n : Nat) : Option Binary64 := ofRatio? false ⟨n, 1⟩

/-! ## Arithmetic -/

/-- A number of units of `2 ^ (exponent + shift)`. -/
def magnitude (x : Binary64) (units : Nat) (shift : Int) : Ratio :=
  Ratio.scaleBy ⟨units, 1⟩ 2 (x.exponent + shift)

/-- The number without its sign. -/
def ratio (x : Binary64) : Ratio := x.magnitude x.significand 0

/-- The nearest number to a product, none if that is too large. -/
def mul? (x y : Binary64) : Option Binary64 :=
  ofRatio? (x.negative != y.negative) (x.ratio.mul y.ratio)

/-- The nearest number to a quotient, none if that is too large or not a number. -/
def div? (x y : Binary64) : Option Binary64 :=
  if y.significand = 0 then none else ofRatio? (x.negative != y.negative) (x.ratio.div y.ratio)

/-- The nearest integer, a half going away from zero. -/
def rounded (x : Binary64) : Int :=
  let n := (2 * x.ratio.num + x.ratio.den) / (2 * x.ratio.den)
  if x.negative then -n else n

/-- The largest power of ten that is a number. -/
def maxTenPower : Nat := 308

/-- `x · 10 ^ e`, none if that is too large. The power is rounded before the product is; a power
    below the range is taken in several steps, of which each is rounded. -/
def scaleTen? (x : Binary64) (e : Int) : Option Binary64 :=
  if e.natAbs ≤ maxTenPower then do
    let power ← ofNat? (Nat.pow 10 e.natAbs)
    if e < 0 then x.div? power else x.mul? power
  else if x.significand = 0 then some x
  else if 0 ≤ e then none
  else do
    let y ← x.div? (← ofNat? (Nat.pow 10 maxTenPower))
    scaleTen? y (e + maxTenPower)
termination_by e.natAbs
decreasing_by simp only [maxTenPower] at *; omega

/-! ## Shortest digits -/

/-- Whether a rational reads as the number: it lies no further than halfway to either neighbour,
    and a halfway point counts for even significands. The lower neighbour of a power of two is
    closer. -/
def readsBack (x : Binary64) (r : Ratio) : Bool :=
  let low := if x.significand = 0x10000000000000 ∧ x.exponent > minExponent
    then x.magnitude (4 * x.significand - 1) (-2) else x.magnitude (2 * x.significand - 1) (-1)
  let high := x.magnitude (2 * x.significand + 1) (-1)
  if x.significand % 2 = 0 then low.le r && r.le high else low.lt r && r.lt high

/-- The power of ten of the leading digit: the greatest one not above the number. It is sought down
    from `start`. -/
def leadingPower (r : Ratio) (start : Int) : Nat → Int
  | 0 => start
  | k + 1 => if (Ratio.scaleBy ⟨1, 1⟩ 10 start).le r then start else leadingPower r (start - 1) k

/-- The better of the two grid points around `r` that reads back, on the grid of `10 ^ place`. -/
def nearestOn (x : Binary64) (r : Ratio) (place : Int) : Option Nat :=
  let scaled := r.scaleBy 10 (-place)
  let below := scaled.floor
  let reads := fun n => x.readsBack (Ratio.scaleBy ⟨n, 1⟩ 10 place)
  let near := scaled.round
  let far := if near = below then below + 1 else below
  if reads near then some near else if reads far then some far else none

/-- The first grid, from coarse to fine, with a point that reads back: the point and its place. -/
def shortestFrom (x : Binary64) (r : Ratio) (place : Int) : Nat → Nat × Int
  | 0 => (r.scaleBy 10 (-place) |>.round, place)
  | k + 1 =>
    match x.nearestOn r place with
    | some n => (n, place)
    | none => shortestFrom x r (place - 1) k

/-- Digits without trailing zeros, and the place of the last one. -/
def dropZeros (n : Nat) (place : Int) : Nat → Nat × Int
  | 0 => (n, place)
  | k + 1 => if n % 10 = 0 ∧ n ≠ 0 then dropZeros (n / 10) (place + 1) k else (n, place)

/-- The fewest digits that read back as the number, and the power of ten of the last digit. -/
def shortest (x : Binary64) : Nat × Int :=
  if x.significand = 0 then (0, 0)
  else
    let r := x.ratio
    let (n, place) := shortestFrom x r (leadingPower r 308 640) 17
    dropZeros n place 20

/-! ## Text -/

/-- How numbers are written: the powers of ten of the leading digit that are written without an
    exponent lie in `[positionalFrom, positionalBelow)`. -/
structure Format where
  positionalFrom : Int
  positionalBelow : Int

/-- Numbers from `1e-5` up to `1e16` are written without an exponent. -/
def format : Format := ⟨-5, 16⟩

/-- The number with its shortest digits, with at least one place where no exponent is written. -/
def render (x : Binary64) : List Char :=
  let (n, place) := x.shortest
  let ds := Text.digits n
  let lead : Int := place + ds.length - 1
  let body :=
    if n = 0 then ['0', '.', '0']
    else if format.positionalFrom ≤ lead ∧ lead < format.positionalBelow then
      if place ≥ 0 then ds ++ List.replicate place.toNat '0' ++ ['.', '0']
      else if lead ≥ 0 then ds.take (lead.toNat + 1) ++ '.' :: ds.drop (lead.toNat + 1)
      else '0' :: '.' :: (List.replicate (-lead - 1).toNat '0' ++ ds)
    else
      ds.take 1 ++ (if ds.length = 1 then [] else '.' :: ds.drop 1) ++ 'e' ::
        ((if lead < 0 then ['-'] else []) ++ Text.digits lead.natAbs)
  (if x.negative then ['-'] else []) ++ body

end Binary64

end LiveForm
