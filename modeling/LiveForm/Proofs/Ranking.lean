/-
  The numbers that values are, and the order of values.

  Integers and decimals of any number of places are rational numbers, and as such they are equal and
  come before one another. So the laws of equality and order hold across both kinds of numbers, and
  no law needs to look at coefficients and places.

  * `Decimal.toRat` and `Value.number?`: the rational number that a decimal is, and a value;
  * `Value.order?_eq_some_iff`: which values have an order, and which one;
  * `Value.Coherent`: the laws of an equality and an order of values; `Value.coherent_same_order`:
    they hold.
-/
import LiveForm.Proofs.Likeness
import Mathlib.Data.Rat.Floor

namespace LiveForm

/-! ## Numbers -/

namespace Decimal

/-- The rational number that a decimal is. -/
def toRat (d : Decimal) : ℚ := d.coefficient / 10 ^ d.scale

theorem toRat_ofInt64 (n : Int64) : (ofInt64 n).toRat = n.toInt := by
  simp [toRat, ofInt64]

theorem toRat_lt_iff (a b : Decimal) : a.toRat < b.toRat ↔
    a.coefficient * Nat.pow 10 b.scale < b.coefficient * Nat.pow 10 a.scale := by
  have place (n : Nat) : (0 : ℚ) < 10 ^ n := pow_pos (by norm_num) n
  rw [toRat, toRat, div_lt_div_iff₀ (place _) (place _)]
  simp only [Nat.pow_eq]
  exact_mod_cast Iff.rfl

/-- Decimals are compared as rational numbers, however many places they have. -/
theorem compare_eq_compare_toRat (a b : Decimal) : a.compare b = Ord.compare a.toRat b.toRat := by
  rcases lt_trichotomy a.toRat b.toRat with h | h | h
  · rw [compare_lt_iff_lt.2 h]
    exact Int.compare_eq_lt.2 ((toRat_lt_iff a b).1 h)
  · rw [compare_eq_iff_eq.2 h, compare_eq_iff]
    have hab := (toRat_lt_iff a b).not.1 h.not_lt
    have hba := (toRat_lt_iff b a).not.1 h.not_gt
    exact Int.le_antisymm (Int.not_lt.1 hba) (Int.not_lt.1 hab)
  · rw [compare_gt_iff_gt.2 h]
    exact Int.compare_eq_gt.2 ((toRat_lt_iff b a).1 h)

end Decimal

namespace Value

variable {u v w : Value}

/-- The rational number that a value is. -/
def number? : Value → Option ℚ
  | .integer n => some n.toInt
  | .decimal d => some d.toRat
  | _ => none

theorem number?_eq_map (v : Value) : v.number? = v.decimal?.map Decimal.toRat := by
  cases v with
  | integer n => exact congrArg some (Decimal.toRat_ofInt64 n).symm
  | _ => rfl

theorem exists_decimal {q : ℚ} (h : v.number? = some q) : ∃ d, v.decimal? = some d ∧ d.toRat = q := by
  rwa [number?_eq_map, Option.map_eq_some_iff] at h

/-- Numbers have the order of rational numbers, whether they are integers or decimals. -/
theorem order?_of_number? {q r : ℚ} (hv : v.number? = some q) (hw : w.number? = some r) :
    v.order? w = some (compare q r) := by
  obtain ⟨a, ha, rfl⟩ := exists_decimal hv
  obtain ⟨b, hb, rfl⟩ := exists_decimal hw
  rw [order?_of_decimal? ha hb, Decimal.compare_eq_compare_toRat]

theorem same_iff_of_number? {q r : ℚ} (hv : v.number? = some q) (hw : w.number? = some r) :
    v.same w ↔ q = r := by
  obtain ⟨a, ha, rfl⟩ := exists_decimal hv
  obtain ⟨b, hb, rfl⟩ := exists_decimal hw
  rw [same_of_decimal? ha hb, beq_iff_eq, Decimal.compare_eq_compare_toRat, compare_eq_iff_eq]

/-! ## The order of values -/

/-- There is an order between two numbers, two strings and two booleans, and no other one. -/
theorem order?_eq_some_iff {o : Ordering} : v.order? w = some o ↔
    (∃ q r, v.number? = some q ∧ w.number? = some r ∧ compare q r = o) ∨
      (∃ a b, v = .string a ∧ w = .string b ∧ compare a b = o) ∨
      ∃ a b, v = .boolean a ∧ w = .boolean b ∧ compare a b = o := by
  constructor
  · intro h
    have number {q r : ℚ} (hv : v.number? = some q) (hw : w.number? = some r) :
        ∃ q r, v.number? = some q ∧ w.number? = some r ∧ compare q r = o :=
      ⟨q, r, hv, hw, Option.some.inj ((order?_of_number? hv hw).symm.trans h)⟩
    cases v with
    | integer | decimal => cases w with
      | integer | decimal => exact .inl (number rfl rfl)
      | _ => cases h
    | string a => cases w with
      | string b => exact .inr (.inl ⟨a, b, rfl, rfl, Option.some.inj h⟩)
      | _ => cases h
    | boolean a => cases w with
      | boolean b => exact .inr (.inr ⟨a, b, rfl, rfl, Option.some.inj h⟩)
      | _ => cases h
    | _ => cases w <;> cases h
  · rintro (⟨q, r, hv, hw, rfl⟩ | ⟨a, b, rfl, rfl, rfl⟩ | ⟨a, b, rfl, rfl, rfl⟩)
    · exact order?_of_number? hv hw
    · rfl
    · rfl

/-- Two steps that do not go against each other make one: the way on which there is any, and no way
    if there is none. -/
theorem compare_trans {α : Type} [Ord α] [Std.TransOrd α] {a b c : α} {o o' : Ordering}
    (h : compare a b = o) (h' : compare b c = o') (ho : o = .eq ∨ o' = .eq ∨ o = o') :
    compare a c = o.then o' := by
  cases o with
  | eq => exact (Std.TransCmp.congr_left h).trans h'
  | lt => cases o' with
    | lt => exact Std.TransCmp.lt_trans h h'
    | eq => exact Std.TransCmp.lt_of_lt_of_eq h h'
    | gt => simp at ho
  | gt => cases o' with
    | lt => simp at ho
    | eq => exact Std.TransCmp.gt_of_gt_of_eq h h'
    | gt => exact Std.TransCmp.gt_trans h h'

theorem order?_trans {o o' : Ordering} (h : u.order? v = some o) (h' : v.order? w = some o')
    (ho : o = .eq ∨ o' = .eq ∨ o = o') : u.order? w = some (o.then o') := by
  rw [order?_eq_some_iff] at h h' ⊢
  rcases h with ⟨p, q, hu, hv, h⟩ | ⟨a, b, rfl, rfl, h⟩ | ⟨a, b, rfl, rfl, h⟩
  · rcases h' with ⟨q', r, hv', hw, h'⟩ | ⟨_, _, rfl, _⟩ | ⟨_, _, rfl, _⟩
    · obtain rfl : q = q' := Option.some.inj (hv.symm.trans hv')
      exact .inl ⟨p, r, hu, hw, compare_trans h h' ho⟩
    · cases hv
    · cases hv
  · rcases h' with ⟨_, _, hv, _⟩ | ⟨_, c, hb, rfl, h'⟩ | ⟨_, _, hb, _⟩
    · cases hv
    · cases hb
      exact .inr (.inl ⟨a, c, rfl, rfl, compare_trans h h' ho⟩)
    · cases hb
  · rcases h' with ⟨_, _, hv, _⟩ | ⟨_, _, hb, _⟩ | ⟨_, c, hb, rfl, h'⟩
    · cases hv
    · cases hb
    · cases hb
      exact .inr (.inr ⟨a, c, rfl, rfl, compare_trans h h' ho⟩)

/-- Of two values with an order neither comes before the other exactly if they are equal. -/
theorem eq_iff_same_of_order? {o : Ordering} (h : v.order? w = some o) : o = .eq ↔ v.same w := by
  rcases order?_eq_some_iff.1 h with ⟨q, r, hv, hw, rfl⟩ | ⟨a, b, rfl, rfl, rfl⟩ | ⟨a, b, rfl, rfl, rfl⟩
  · rw [same_iff_of_number? hv hw, compare_eq_iff_eq]
  · rw [same, beq_iff_eq, Std.compare_eq_iff_eq]
  · rw [same, beq_iff_eq, Std.compare_eq_iff_eq]

/-! ## The laws -/

/-- The laws of an equality and an order of values: what each of them is by itself, how they belong
    together, and that they are those of the rational numbers where values are numbers. -/
structure Coherent (same : Value → Value → Bool) (order? : Value → Value → Option Ordering) :
    Prop where
  refl : ∀ v, same v v
  symm : ∀ v w, same v w → same w v
  trans : ∀ u v w, same u v → same v w → same u w
  /-- Two values have an order in both directions or in none, and the one is the reverse of the
      other. -/
  swap : ∀ v w, order? w v = (order? v w).map Ordering.swap
  /-- The order goes on from one value to the next, upwards and downwards, and past equal ones. -/
  chain : ∀ u v w o o', order? u v = some o → order? v w = some o' →
    o = .eq ∨ o' = .eq ∨ o = o' → order? u w = some (o.then o')
  eq_iff : ∀ v w o, order? v w = some o → (o = .eq ↔ same v w)
  same_numbers : ∀ v w q r, v.number? = some q → w.number? = some r → (same v w ↔ q = r)
  /-- An order there is between two numbers, which is theirs, two strings and two booleans. -/
  order_iff : ∀ v w o, order? v w = some o ↔
    (∃ q r, v.number? = some q ∧ w.number? = some r ∧ compare q r = o) ∨
      (∃ a b, v = .string a ∧ w = .string b ∧ compare a b = o) ∨
      ∃ a b, v = .boolean a ∧ w = .boolean b ∧ compare a b = o

/-- The equality and the order of values are coherent, across integers and decimals of any number of
    places and in collections of any depth. -/
theorem coherent_same_order : Coherent same order? where
  refl := same_refl
  symm _ _ h := (same_comm ..).trans h
  trans _ _ _ := same_trans
  swap := order?_swap
  chain _ _ _ _ _ := order?_trans
  eq_iff _ _ _ := eq_iff_same_of_order?
  same_numbers _ _ _ _ := same_iff_of_number?
  order_iff _ _ _ := order?_eq_some_iff

example : (collection [.integer 1, .collection [.integer 2, .null]]).same
    (.collection [.decimal ⟨100, 2, by decide, by decide⟩,
      .collection [.decimal ⟨20, 1, by decide, by decide⟩, .null]]) := by decide

end Value

end LiveForm
