/-
  Decimal numbers with a coefficient of 96 bits and up to 28 places.

  A decimal is a coefficient over a power of ten. The number of places (the scale) is part of the
  decimal and is shown, but two decimals are compared as numbers: `1.50` and `1.5` are different
  decimals of the same value.
-/
import LiveForm.Text.Basic

namespace LiveForm

structure Decimal where
  coefficient : Int
  scale : Nat
  coefficient_lt : coefficient.natAbs < 0x1000000000000000000000000
  scale_le : scale ≤ 28
deriving DecidableEq

namespace Decimal

/-- One more than the largest coefficient. -/
def bound : Nat := 0x1000000000000000000000000

/-- The largest number of places. -/
def maxScale : Nat := 28

/-- The decimal of a coefficient and a scale, where both are in range. -/
def ofParts? (coefficient : Int) (scale : Nat) : Option Decimal :=
  if h : coefficient.natAbs < 0x1000000000000000000000000 ∧ scale ≤ 28 then
    some ⟨coefficient, scale, h.1, h.2⟩
  else none

/-- A signed coefficient. -/
def signed (negative : Bool) (n : Nat) : Int := if negative then -n else n

instance : Inhabited Decimal := ⟨⟨0, 0, by decide, by decide⟩⟩

/-- A 64-bit integer as a decimal without places. -/
def ofInt64 (n : Int64) : Decimal where
  coefficient := n.toInt
  scale := 0
  coefficient_lt := by
    have h₁ := n.toInt_lt
    have h₂ := n.le_toInt
    omega
  scale_le := by decide

def isZero (d : Decimal) : Bool := d.coefficient == 0

/-- The order of the values: both coefficients are brought to the sum of the scales. -/
def compare (a b : Decimal) : Ordering :=
  Ord.compare (a.coefficient * Nat.pow 10 b.scale) (b.coefficient * Nat.pow 10 a.scale)

/-- The value without its places. -/
def truncated (d : Decimal) : Int := d.coefficient.tdiv (Nat.pow 10 d.scale)

/-- The coefficient without its last `k` digits, a half going away from zero. -/
def dropDigits (coefficient : Int) (k : Nat) : Int :=
  signed (coefficient < 0) ((coefficient.natAbs + Nat.pow 10 k / 2) / Nat.pow 10 k)

/-! ## Text -/

/-- The digits of a coefficient with a point before the last `scale` of them. -/
def pointed (n scale : Nat) : List Char :=
  let ds := Text.digits n
  let ds := List.replicate (scale + 1 - ds.length) '0' ++ ds
  if scale = 0 then ds
  else ds.take (ds.length - scale) ++ '.' :: ds.drop (ds.length - scale)

/-- The decimal with all its places. -/
def render (d : Decimal) : List Char :=
  (if d.coefficient < 0 then ['-'] else []) ++ pointed d.coefficient.natAbs d.scale

/-- A coefficient with its last digit raised by one; where that needs a 97th bit, the last place is
    given up. -/
def raised? (n scale : Nat) : Option (Nat × Nat) :=
  if n + 1 < bound then some (n + 1, scale)
  else if scale = 0 then none
  else some ((n + 5) / 10, scale - 1)

/-- A coefficient that is rounded by the digit after its last one, a five going up. -/
def roundedBy? (n scale digit : Nat) : Option (Nat × Nat) :=
  if digit < 5 then some (n, scale) else raised? n scale

/-- Reads the places after the point. The first digit without room decides how the last one is
    rounded, and what follows it counts for nothing. Low lines are passed over; behind the last
    place there may be, they and points are like a zero. -/
def readPlaces (n scale : Nat) : List Char → Option (Nat × Nat)
  | [] => some (n, scale)
  | c :: cs =>
    match Text.digit? c with
    | some d =>
      if scale < maxScale ∧ 10 * n + d < bound then readPlaces (10 * n + d) (scale + 1) cs
      else roundedBy? n scale d
    | none =>
      if scale < maxScale then if c = '_' then readPlaces n scale cs else none
      else if c = '_' ∨ c = '.' then roundedBy? n scale 0
      else none

/-- Reads the digits before the point, which must all have room. Low lines are passed over. -/
def readWhole (n : Nat) : List Char → Option (Nat × Nat)
  | [] => some (n, 0)
  | '.' :: cs => readPlaces n 0 cs
  | '_' :: cs => readWhole n cs
  | c :: cs =>
    match Text.digit? c with
    | none => none
    | some d => if 10 * n + d < bound then readWhole (10 * n + d) cs else none

/-- Whether the text begins with a digit, before which a point may stand. -/
def beginsWithDigit : List Char → Bool
  | '.' :: c :: _ => (Text.digit? c).isSome
  | c :: _ => (Text.digit? c).isSome
  | [] => false

/-- Reads an optional sign, digits and an optional point with further digits. -/
def read? (cs : List Char) : Option Decimal := do
  let (negative, body) := match cs with
    | '-' :: r => (true, r)
    | '+' :: r => (false, r)
    | r => (false, r)
  if beginsWithDigit body then
    let (n, scale) ← readWhole 0 body
    ofParts? (signed negative n) scale
  else none

/-! ## Powers of ten -/

/-- A coefficient and a scale without trailing zeros among the places. -/
def stripZeros (n : Int) : Nat → Int × Nat
  | 0 => (n, 0)
  | scale + 1 => if n % 10 = 0 then stripZeros (n / 10) scale else (n, scale + 1)

/-- The decimal times a power of ten. A negative exponent adds places, and where there are too many
    the last ones are rounded off, a half away from zero; a positive one takes places away first and
    then needs room for the whole value. Exponents of more than 28 in size are refused. -/
def shifted? (d : Decimal) (exponent : Int) : Option Decimal :=
  if exponent < 0 then
    let k := exponent.natAbs
    if k > maxScale then none
    else if d.scale + k > maxScale then
      ofParts? (dropDigits d.coefficient (d.scale + k - maxScale)) maxScale
    else ofParts? d.coefficient (d.scale + k)
  else
    let k := exponent.natAbs
    if k ≤ d.scale then ofParts? d.coefficient (d.scale - k)
    else if k > maxScale then none
    else
      let (n, scale) := stripZeros (d.coefficient * Nat.pow 10 k) d.scale
      ofParts? n scale

/-- Reads an exponent: an optional minus, an optional plus, and digits. -/
def readExponent? (cs : List Char) : Option Int :=
  let (negative, body) := match cs with
    | '-' :: r => (true, r)
    | r => (false, r)
  let digits := match body with
    | '+' :: r => r
    | r => r
  if digits.isEmpty ∨ digits.any (fun c => (Text.digit? c).isNone) then none
  else some (signed negative (Text.numeral digits))

/-- Whether an exponent follows this letter. -/
def isExponentSign (c : Char) : Bool := c == 'e' || c == 'E'

/-- Reads a decimal times a power of ten. -/
def readScientific? (cs : List Char) : Option Decimal :=
  match cs.dropWhile (!isExponentSign ·) with
  | [] => none
  | _ :: exponent => do
    (← read? (cs.takeWhile (!isExponentSign ·))).shifted? (← readExponent? exponent)

/-- Reads a decimal, as it is or times a power of ten. -/
def ofText? (cs : List Char) : Option Decimal := (read? cs).orElse fun _ => readScientific? cs

end Decimal

end LiveForm
