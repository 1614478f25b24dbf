/-
  Tests of lengths.

  The argument of such a test may be any number. It becomes a bound by leaving its places away, and a
  number that is negative or needs more than 64 bits becomes none, so that every length passes. Only
  where there is a bound does the test for the largest length compare the length with the number, and
  the one for the least length lets pass what the places alone would refuse.

  * `lengthBound?_of_number?`: the bound that a number becomes;
  * `length_tests`: what passes, for every value and every argument, and where that is what the
    numbers say;
  * `length_tests_deviate`: it is not for fractions, negative numbers and large ones.
-/
import LiveForm.Proofs.Ranking

namespace LiveForm

namespace Decimal

theorem toRat_nonneg_iff (d : Decimal) : 0 ≤ d.toRat ↔ 0 ≤ d.coefficient := by
  have place : (0 : ℚ) < 10 ^ d.scale := pow_pos (by norm_num) _
  rw [toRat, le_div_iff₀ place, zero_mul]
  exact_mod_cast Iff.rfl

/-- To leave the places of a number away that is not negative is to round it down. -/
theorem truncated_eq_floor {d : Decimal} (h : 0 ≤ d.toRat) : d.truncated = ⌊d.toRat⌋ := by
  have floor := Rat.floor_intCast_div_natCast d.coefficient (10 ^ d.scale)
  push_cast at floor
  rw [truncated, Int.tdiv_eq_ediv_of_nonneg ((toRat_nonneg_iff d).1 h), toRat, floor, Nat.pow_eq]
  push_cast
  rfl

end Decimal

namespace Comparator

variable {v arg : Value} {n : ℚ}

/-- The bound of a number is its whole part. Numbers that are negative have none, nor have numbers of
    more than 64 bits. -/
theorem lengthBound?_of_number? (h : arg.number? = some n) :
    lengthBound? arg = if 0 ≤ n ∧ n < 2 ^ 64 then some ⌊n⌋₊ else none := by
  obtain ⟨d, hd, rfl⟩ := Value.exists_decimal h
  rw [lengthBound?_of_decimal? hd]
  simp only [lengthBound?, ← Decimal.toRat_nonneg_iff]
  by_cases nonneg : 0 ≤ d.toRat
  · have room : d.truncated < 0x10000000000000000 ↔ d.toRat < 2 ^ 64 := by
      rw [Decimal.truncated_eq_floor nonneg, Int.floor_lt]
      norm_num
    simp only [room]
    rw [Decimal.truncated_eq_floor nonneg, Int.floor_toNat]
  · simp only [nonneg, false_and, if_false]

theorem lengthBound?_of_no_number (h : arg.number? = none) : lengthBound? arg = none := by
  cases arg <;> first | rfl | cases h

theorem test_minLength_iff (h : arg.number? = some n) :
    minLength.test v arg ↔ n < lengthOf v + 1 ∨ 2 ^ 64 ≤ n := by
  rw [test, lengthBound?_of_number? h]
  split_ifs with bound
  · rw [Option.all_some, decide_eq_true_iff, ← Nat.lt_succ_iff, Nat.floor_lt bound.1]
    push_cast
    exact (or_iff_left bound.2.not_ge).symm
  · refine iff_of_true rfl ?_
    rcases not_and_or.1 bound with negative | large
    · have := (lengthOf v).cast_nonneg (α := ℚ)
      exact .inl (by linarith)
    · exact .inr (not_lt.1 large)

theorem test_maxLength_iff (h : arg.number? = some n) :
    maxLength.test v arg ↔ lengthOf v ≤ n ∨ n < 0 ∨ 2 ^ 64 ≤ n := by
  rw [test, lengthBound?_of_number? h]
  split_ifs with bound
  · rw [Option.all_some, decide_eq_true_iff, Nat.le_floor_iff bound.1]
    exact (or_iff_left (not_or.2 ⟨bound.1.not_gt, bound.2.not_ge⟩)).symm
  · refine iff_of_true rfl ?_
    rw [not_and_or, not_le, not_lt] at bound
    exact .inr bound

/-- Against an argument that is no number every value passes both tests. Against a number, the test for
    the least length asks for more than the number less one, and the test for the largest length for no
    more than the number; but the latter asks nothing where the number is negative, and neither does
    where it needs more than 64 bits. So a test is what the length and the number say, except that a
    length is large enough where only places are missing or the number is that large, and small enough
    where the number is negative or that large. -/
theorem length_tests (v arg : Value) :
    match arg.number? with
    | none => minLength.test v arg ∧ maxLength.test v arg
    | some n =>
      (minLength.test v arg ↔ n < lengthOf v + 1 ∨ 2 ^ 64 ≤ n) ∧
        (maxLength.test v arg ↔ lengthOf v ≤ n ∨ n < 0 ∨ 2 ^ 64 ≤ n) ∧
        ((minLength.test v arg ↔ n ≤ lengthOf v) ↔
          ¬(lengthOf v < n ∧ (n < lengthOf v + 1 ∨ 2 ^ 64 ≤ n))) ∧
        ((maxLength.test v arg ↔ lengthOf v ≤ n) ↔
          ¬(n < lengthOf v ∧ (n < 0 ∨ 2 ^ 64 ≤ n))) := by
  cases h : arg.number? with
  | none =>
    have bound := lengthBound?_of_no_number h
    simp only [test, bound, Option.all_none, and_self]
  | some n =>
    have least := test_minLength_iff (v := v) h
    have most := test_maxLength_iff (v := v) h
    have deviates {p q r : Prop} (hp : p ↔ q ∨ r) : (p ↔ q) ↔ ¬(¬q ∧ r) := by
      by_cases hq : q <;> simp [hp, hq]
    have within : n ≤ lengthOf v → n < lengthOf v + 1 := fun hn => by linarith
    refine ⟨least, most, ?_, ?_⟩
    · rw [deviates (least.trans (or_iff_right_of_imp fun hn => .inl (within hn)).symm), not_le]
    · rw [deviates most, not_le]

/-- Two is let pass as a length of at least two and a half, nothing as one of at least 2^64, and nothing
    as one of at most minus one. -/
theorem length_tests_deviate :
    (∃ n ∈ (Value.decimal ⟨25, 1, by decide, by decide⟩).number?,
      minLength.test (.string "ab") (.decimal ⟨25, 1, by decide, by decide⟩) ∧
        ¬n ≤ lengthOf (.string "ab")) ∧
    (∃ n ∈ (Value.decimal ⟨2 ^ 64, 0, by decide, by decide⟩).number?,
      minLength.test (.string "") (.decimal ⟨2 ^ 64, 0, by decide, by decide⟩) ∧
        ¬n ≤ lengthOf (.string "")) ∧
    ∃ n ∈ (Value.integer (-1)).number?,
      maxLength.test (.string "") (.integer (-1)) ∧ ¬lengthOf (.string "") ≤ n := by
  have two : lengthOf (.string "ab") = 2 := by decide
  have nothing : lengthOf (.string "") = 0 := by decide
  refine ⟨⟨_, rfl, by decide, ?_⟩, ⟨_, rfl, by decide, ?_⟩, ⟨_, rfl, by decide, ?_⟩⟩
  · rw [two]
    norm_num [Decimal.toRat]
  · rw [nothing]
    norm_num [Decimal.toRat]
  · rw [nothing, show (-1 : Int64).toInt = -1 from rfl]
    norm_num

end Comparator

end LiveForm
