/-
  Numerals of JSON, and the numbers that they stand for.

  A numeral that is written as a whole number and fits 64 bits stands for just that number. All
  others stand for floating-point numbers, which are found quickly rather than exactly: digits
  go into a significand of 64 bits, those without room count by their place alone, and the power of
  ten is multiplied or divided by afterwards.
-/
import LiveForm.Json.Basic

namespace LiveForm.Json

/-- A numeral: its sign, its digits before and after the point, and its exponent if it is written
    with one. -/
structure Numeral where
  negative : Bool
  whole : List Nat
  places : List Nat
  exponent : Option Int

namespace Numeral

/-- One more than the largest significand. -/
def bound : Nat := 0x10000000000000000

/-- Puts digits behind those of `n` until there is no room for one: the significand, and how many
    digits are left. -/
def fill (n : Nat) : List Nat → Nat × Nat
  | [] => (n, 0)
  | d :: ds => if 10 * n + d < bound then fill (10 * n + d) ds else (n, ds.length + 1)

/-- The integer of a numeral without point and exponent, where it fits 64 bits. Negative zero is no
    integer. -/
def integer? (n : Numeral) : Option Int :=
  match n.places, n.exponent, fill 0 n.whole with
  | [], none, (m, 0) =>
    if !n.negative then some m
    else if 0 < m ∧ m ≤ 0x8000000000000000 then some (-m)
    else none
  | _, _, _ => none

/-- The floating-point number of a numeral, none if that is too large. Digits before the point
    without room raise the power of ten, and such digits after it change nothing. -/
def float? (n : Numeral) : Option Binary64 := do
  let (m, left) := fill 0 n.whole
  let (m, dropped) := fill m n.places
  let power : Int := left + dropped - n.places.length + n.exponent.getD 0
  let x ← (← Binary64.ofNat? m).scaleTen? power
  some { x with negative := n.negative }

/-- The number that a numeral stands for, none if it is too large. -/
def json? (n : Numeral) : Option Json :=
  match n.integer? with
  | some i => some (.integer i)
  | none => n.float?.map .float

end Numeral

end LiveForm.Json
