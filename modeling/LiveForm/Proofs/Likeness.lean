/-
  Values that are equal, and values that stand for one document.

  Two values that are equal may have different texts, but no condition tells them apart, nor does a
  comparator of which they are the argument. The values of a document, made twice, differ in the
  identity of their objects alone, and no comparator tells these apart as long as the value that it
  tests has none of them.

  * `Value.isTruthy_of_same` and `Visibility.ofValue_of_same`: conditions on equal values;
  * `Comparator.test_of_same` and `Comparator.test_newValue`: tests against equal arguments, and
    against the two values of a document.
-/
import LiveForm.Form.Visibility
import LiveForm.Proofs.Reading
import LiveForm.Store.Document

namespace LiveForm

/-! ## Numbers -/

namespace Decimal

theorem place_pos (n : Nat) : 0 < ((Nat.pow 10 n : Nat) : Int) :=
  Int.natCast_pos.2 (Nat.pow_pos (by decide))

theorem compare_eq_iff {a b : Decimal} : a.compare b = .eq ↔
    a.coefficient * Nat.pow 10 b.scale = b.coefficient * Nat.pow 10 a.scale := by
  rw [compare, Std.compare_eq_iff_eq]

theorem compare_comm (a b : Decimal) : (a.compare b == .eq) = (b.compare a == .eq) := by
  rw [Bool.eq_iff_iff, beq_iff_eq, beq_iff_eq, compare_eq_iff, compare_eq_iff, eq_comm]

/-- A number that is equal to zero is zero. -/
theorem isZero_of_compare {a b : Decimal} (h : a.compare b = .eq) : a.isZero = b.isZero := by
  have pow (n : Nat) : ((Nat.pow 10 n : Nat) : Int) ≠ 0 := Int.ne_of_gt (place_pos n)
  have key := compare_eq_iff.1 h
  rw [Bool.eq_iff_iff, isZero, isZero, beq_iff_eq, beq_iff_eq]
  constructor
  · intro ha
    rw [ha, Int.zero_mul] at key
    exact (Int.mul_eq_zero.1 key.symm).resolve_right (pow _)
  · intro hb
    rw [hb, Int.zero_mul] at key
    exact (Int.mul_eq_zero.1 key).resolve_right (pow _)

theorem isZero_ofInt64 (n : Int64) : (ofInt64 n).isZero = (n == 0) := by
  rw [Bool.eq_iff_iff, isZero, beq_iff_eq, beq_iff_eq]
  exact Int64.toInt_inj (y := 0)

/-- A common factor does not change the order. -/
theorem compare_mul_right {k : Int} (hk : 0 < k) (m n : Int) :
    Ord.compare (m * k) (n * k) = Ord.compare m n := by
  rcases Int.lt_trichotomy m n with h | rfl | h
  · rw [Int.compare_eq_lt.2 h, Int.compare_eq_lt.2 ((Int.mul_lt_mul_right hk).2 h)]
  · rw [Std.compare_eq_iff_eq.2 rfl, Std.compare_eq_iff_eq.2 rfl]
  · rw [Int.compare_eq_gt.2 h, Int.compare_eq_gt.2 ((Int.mul_lt_mul_right hk).2 h)]

/-- Equal numbers have the same place in the order. -/
theorem compare_congr {a b b' : Decimal} (h : b.compare b' = .eq) : a.compare b = a.compare b' := by
  have key := compare_eq_iff.1 h
  rw [compare, compare, ← compare_mul_right (place_pos b'.scale) (_ * _),
    ← compare_mul_right (place_pos b.scale) (a.coefficient * _)]
  congr 1
  · exact Int.mul_right_comm ..
  · rw [Int.mul_right_comm, key, Int.mul_right_comm]

theorem compare_ofInt64 (m n : Int64) :
    (ofInt64 m).compare (ofInt64 n) = Ord.compare m.toInt n.toInt :=
  compare_mul_right (place_pos 0) ..

theorem truncated_ofInt64 (n : Int64) : (ofInt64 n).truncated = n.toInt := Int.tdiv_one _

theorem truncated_of_compare {a b : Decimal} (h : a.compare b = .eq) : a.truncated = b.truncated := by
  have key := compare_eq_iff.1 h
  rw [truncated, truncated, ← Int.mul_tdiv_mul_of_pos _ _ (place_pos b.scale),
    ← Int.mul_tdiv_mul_of_pos b.coefficient _ (place_pos a.scale), Int.mul_comm _ a.coefficient, key]
  rw [Int.mul_comm b.coefficient, Int.mul_comm (Nat.pow 10 b.scale : Nat)]

theorem nonneg_of_compare {a b : Decimal} (h : a.compare b = .eq) :
    0 ≤ a.coefficient ↔ 0 ≤ b.coefficient := by
  have key := compare_eq_iff.1 h
  rw [← Int.mul_nonneg_iff_of_pos_right (place_pos b.scale), key,
    Int.mul_nonneg_iff_of_pos_right (place_pos a.scale)]

end Decimal

/-! ## Equal values -/

namespace Value

mutual

theorem same_comm (v w : Value) : v.same w = w.same v := by
  cases v with
  | noValue | null => cases w <;> rfl
  | boolean a => cases w with
    | boolean b => simp only [same, BEq.comm]
    | _ => rfl
  | integer a => cases w with
    | integer b => simp only [same, BEq.comm]
    | _ => rfl
  | decimal a => cases w with
    | decimal b => simpa only [same] using a.compare_comm b
    | _ => rfl
  | string a => cases w with
    | string b => simp only [same, BEq.comm]
    | _ => rfl
  | collection as => cases w with
    | collection bs => simpa only [same] using sameItems_comm as bs
    | _ => rfl
  | object a => cases w with
    | object b => simp only [same, BEq.comm]
    | _ => rfl

theorem sameItems_comm (vs ws : List Value) : sameItems vs ws = sameItems ws vs := by
  match vs, ws with
  | [], [] => rfl
  | [], _ :: _ => rfl
  | _ :: _, [] => rfl
  | v :: vs, w :: ws => rw [sameItems, sameItems, same_comm v w, sameItems_comm vs ws]

end

theorem isEmpty_of_sameItems {vs ws : List Value} (h : sameItems vs ws) :
    vs.isEmpty = ws.isEmpty := by
  cases vs <;> cases ws <;> first | rfl | cases h

/-- A condition holds on a value if it holds on an equal one. -/
theorem isTruthy_of_same {v w : Value} (h : v.same w) : v.isTruthy = w.isTruthy := by
  cases v with
  | noValue | null => cases w <;> first | rfl | cases h
  | boolean a => cases w with
    | boolean b => exact beq_iff_eq.1 h
    | _ => cases h
  | integer a => cases w with
    | integer b => rw [beq_iff_eq.1 h]
    | decimal b =>
      simp only [isTruthy, bne, ← Decimal.isZero_ofInt64, Decimal.isZero_of_compare (beq_iff_eq.1 h)]
    | _ => cases h
  | decimal a => cases w with
    | integer b =>
      simp only [isTruthy, bne, ← Decimal.isZero_ofInt64, Decimal.isZero_of_compare (beq_iff_eq.1 h)]
    | decimal b => simp only [isTruthy, Decimal.isZero_of_compare (beq_iff_eq.1 h)]
    | _ => cases h
  | string a => cases w with
    | string b => rw [beq_iff_eq.1 h]
    | _ => cases h
  | collection as => cases w with
    | collection bs => simp only [isTruthy, isEmpty_of_sameItems h]
    | _ => cases h
  | object a => cases w <;> first | rfl | cases h

/-- Of two equal values both are numbers, and the numbers are equal, or neither is. -/
theorem decimal?_of_same {v w : Value} (h : v.same w) :
    Option.Rel (fun a b => a.compare b = .eq) v.decimal? w.decimal? := by
  cases v with
  | integer a => cases w with
    | integer b =>
      obtain rfl := beq_iff_eq.1 h
      exact .some (Decimal.compare_self _)
    | decimal b => exact .some (beq_iff_eq.1 h)
    | _ => cases h
  | decimal a => cases w with
    | integer b => exact .some (beq_iff_eq.1 ((Decimal.compare_comm ..).trans h))
    | decimal b => exact .some (beq_iff_eq.1 h)
    | _ => cases h
  | _ => cases w <;> first | exact .none | cases h

/-- Integers and decimals alike are compared as decimals. -/
theorem same_of_decimal? {v w : Value} {a b : Decimal} (hv : v.decimal? = some a)
    (hw : w.decimal? = some b) : v.same w = (a.compare b == .eq) := by
  cases v with
  | integer m => cases w with
    | integer n =>
      cases hv
      cases hw
      rw [Decimal.compare_ofInt64, Bool.eq_iff_iff, beq_iff_eq, Std.compare_eq_iff_eq]
      exact beq_iff_eq.trans Int64.toInt_inj.symm
    | decimal b => cases hv; cases hw; rfl
    | _ => cases hw
  | decimal a => cases w with
    | integer n => cases hv; cases hw; exact Decimal.compare_comm ..
    | decimal b => cases hv; cases hw; rfl
    | _ => cases hw
  | _ => cases hv

theorem order?_of_decimal? {v w : Value} {a b : Decimal} (hv : v.decimal? = some a)
    (hw : w.decimal? = some b) : v.order? w = some (a.compare b) := by
  cases v with
  | integer m => cases w with
    | integer n => cases hv; cases hw; rw [Decimal.compare_ofInt64]; rfl
    | decimal b => cases hv; cases hw; rfl
    | _ => cases hw
  | decimal a => cases w with
    | integer n => cases hv; cases hw; rfl
    | decimal b => cases hv; cases hw; rfl
    | _ => cases hw
  | _ => cases hv

theorem same_trans_of_decimal? {u v w : Value} {a : Decimal} (hu : u.decimal? = some a)
    (h : u.same v) (h' : v.same w) : u.same w := by
  have hv := decimal?_of_same h
  have hw := decimal?_of_same h'
  rw [hu] at hv
  generalize v.decimal? = b, ew : w.decimal? = c at hv hw
  cases hv with
  | some hv => cases hw with
    | some hw => rw [same_of_decimal? hu ew, ← Decimal.compare_congr hw, hv, beq_self_eq_true]

mutual

theorem same_trans {u v w : Value} (h : u.same v) (h' : v.same w) : u.same w := by
  cases u with
  | noValue | null => cases v <;> first | exact h' | cases h
  | boolean a => cases v with
    | boolean b => rwa [beq_iff_eq.1 h]
    | _ => cases h
  | string a => cases v with
    | string b => rwa [beq_iff_eq.1 h]
    | _ => cases h
  | integer a => exact same_trans_of_decimal? rfl h h'
  | decimal a => exact same_trans_of_decimal? rfl h h'
  | collection us => cases v with
    | collection vs => cases w with
      | collection ws => exact sameItems_trans h h'
      | _ => cases h'
    | _ => cases h
  | object a => cases v with
    | object b => cases w with
      | object c => exact beq_iff_eq.2 ((beq_iff_eq.1 h).trans (beq_iff_eq.1 h'))
      | _ => cases h'
    | _ => cases h

theorem sameItems_trans {us vs ws : List Value} (h : sameItems us vs) (h' : sameItems vs ws) :
    sameItems us ws := by
  match us, vs, ws with
  | [], [], _ => exact h'
  | _ :: _, _ :: _, _ :: _ =>
    obtain ⟨h₁, h₂⟩ := Bool.and_eq_true_iff.1 h
    obtain ⟨h₁', h₂'⟩ := Bool.and_eq_true_iff.1 h'
    exact Bool.and_eq_true_iff.2 ⟨same_trans h₁ h₁', sameItems_trans h₂ h₂'⟩

end

/-- A value is equal to both of two equal values or to none. -/
theorem same_congr {v w w' : Value} (h : w.same w') : v.same w = v.same w' :=
  Bool.eq_iff_iff.2 ⟨fun hw => same_trans hw h, fun hw => same_trans hw ((same_comm ..).trans h)⟩

theorem order?_swap (v w : Value) : w.order? v = (v.order? w).map Ordering.swap := by
  have number {a b : Decimal} : b.compare a = (a.compare b).swap := by
    unfold Decimal.compare
    exact Std.OrientedCmp.eq_swap
  cases v <;> cases w <;>
    first
    | rfl
    | exact congrArg some Std.OrientedCmp.eq_swap
    | exact congrArg some number

/-- Equal values have the same place in the order. -/
theorem order?_of_same {v w w' : Value} (h : w.same w') : v.order? w = v.order? w' := by
  have number {w : Value} {a : Decimal} (hw : w.decimal? = some a) :
      v.order? w = v.decimal?.map fun b => b.compare a := by
    cases hv : v.decimal? with
    | some b => exact order?_of_decimal? hv hw
    | none => cases w with
      | integer | decimal => cases v <;> first | rfl | cases hv
      | _ => cases hw
  have hd := decimal?_of_same h
  generalize hw : w.decimal? = a, hw' : w'.decimal? = b at hd
  cases hd with
  | some hd =>
    rw [number hw, number hw']
    exact congrArg (v.decimal?.map ·) (funext fun b => Decimal.compare_congr hd)
  | none => cases w with
    | string a => cases w' with
      | string b => rw [beq_iff_eq.1 h]
      | _ => cases h
    | boolean a => cases w' with
      | boolean b => rw [beq_iff_eq.1 h]
      | _ => cases h
    | integer | decimal => cases hw
    | _ => cases w' <;> first | rfl | cases h | cases v <;> rfl

theorem holds_of_same {v : Value} {ws ws' : List Value} (h : sameItems ws ws') :
    holds ws v = holds ws' v := by
  match ws, ws' with
  | [], [] => rfl
  | w :: ws, w' :: ws' =>
    obtain ⟨hw, h⟩ := Bool.and_eq_true_iff.1 h
    have hv : w.same v = w'.same v := by rw [same_comm w, same_comm w', same_congr hw]
    have ih := holds_of_same (v := v) h
    simp only [holds, List.any_cons] at ih ⊢
    rw [hv, ih]

end Value

/-- A value shows a field if an equal one does. -/
theorem Visibility.ofValue_of_same {v w : Value} (h : v.same w) (hidden : Bool) :
    ofValue v hidden = ofValue w hidden := by
  cases v with
  | boolean a => cases w with
    | boolean b => rw [beq_iff_eq.1 h]
    | _ => cases h
  | _ => cases w <;> first | rfl | cases h

/-! ## Documents -/

namespace Store

variable {H : Type} (s t : Store H)

/-- A condition holds on the value of a document whenever it is made. -/
theorem isTruthy_newValue (j : Json) : (s.newValue j).2.isTruthy = (t.newValue j).2.isTruthy := by
  cases j with
  | array items => cases items <;> rfl
  | _ => rfl

theorem ofValue_newValue (j : Json) (hidden : Bool) :
    Visibility.ofValue (s.newValue j).2 hidden = Visibility.ofValue (t.newValue j).2 hidden := by
  cases j <;> rfl

mutual

/-- The text of the value of a document is the same whenever it is made. -/
theorem format_newValue (c : Culture) (s t : Store H) (j : Json) :
    c.format (s.newValue j).2 = c.format (t.newValue j).2 := by
  match j with
  | .null | .boolean _ | .integer _ | .float _ | .string _ | .object _ => rfl
  | .array items => exact format_newValues c s t items

theorem format_newValues (c : Culture) (s t : Store H) (js : List Json) :
    c.formatItems (s.newValues js).2 = c.formatItems (t.newValues js).2 := by
  match js with
  | [] => rfl
  | [j] => exact format_newValue c s t j
  | j :: k :: js =>
    have rest := format_newValues c (s.newValue j).1 (t.newValue j).1 (k :: js)
    simp only [newValues, Culture.formatItems] at rest ⊢
    rw [rest, format_newValue c s t j]

end

mutual

/-- A value that has none of the objects of a document is equal to both values of the document or to
    none. -/
theorem same_newValue {s t : Store H} {w : Value} {j : Json}
    (hs : ∀ o ∈ w.objects, o ∉ (s.newValue j).2.objects)
    (ht : ∀ o ∈ w.objects, o ∉ (t.newValue j).2.objects) :
    w.same (s.newValue j).2 = w.same (t.newValue j).2 := by
  cases j with
  | array items => cases w with
    | collection ws => exact sameItems_newValues hs ht
    | _ => rfl
  | object members => cases w with
    | object o =>
      have apart {r : ObjectRef} (h : ∀ o' ∈ [o.id], o' ∉ [r.id]) : (o == r) = false := by
        rw [beq_eq_false_iff_ne]
        rintro rfl
        exact h o.id (List.mem_singleton_self _) (List.mem_singleton_self _)
      exact (apart hs).trans (apart ht).symm
    | _ => rfl
  | _ => rfl

theorem sameItems_newValues {s t : Store H} {ws : List Value} {js : List Json}
    (hs : ∀ o ∈ Value.objectsOfItems ws, o ∉ Value.objectsOfItems (s.newValues js).2)
    (ht : ∀ o ∈ Value.objectsOfItems ws, o ∉ Value.objectsOfItems (t.newValues js).2) :
    Value.sameItems ws (s.newValues js).2 = Value.sameItems ws (t.newValues js).2 := by
  cases js with
  | nil => rfl
  | cons j js => cases ws with
    | nil => rfl
    | cons w ws =>
      simp only [newValues, Value.objectsOfItems, List.mem_append, not_or] at hs ht
      simp only [newValues, Value.sameItems]
      rw [same_newValue (fun o ho => (hs o (Or.inl ho)).1) fun o ho => (ht o (Or.inl ho)).1,
        sameItems_newValues (fun o ho => (hs o (Or.inr ho)).2) fun o ho => (ht o (Or.inr ho)).2]

end

/-- A value that has none of the objects of a list of documents is held by both lists of values or by
    none. -/
theorem holds_newValues {s t : Store H} {w : Value} {js : List Json}
    (hs : ∀ o ∈ w.objects, o ∉ Value.objectsOfItems (s.newValues js).2)
    (ht : ∀ o ∈ w.objects, o ∉ Value.objectsOfItems (t.newValues js).2) :
    Value.holds (s.newValues js).2 w = Value.holds (t.newValues js).2 w := by
  induction js generalizing s t with
  | nil => rfl
  | cons j js ih =>
    simp only [newValues, Value.objectsOfItems, List.mem_append, not_or] at hs ht
    simp only [newValues, Value.holds, List.any_cons]
    rw [Value.same_comm _ w, Value.same_comm _ w,
      same_newValue (fun o ho => (hs o ho).1) fun o ho => (ht o ho).1]
    congr 1
    exact ih (fun o ho => (hs o ho).2) fun o ho => (ht o ho).2

theorem order?_newValue (w : Value) (j : Json) :
    w.order? (s.newValue j).2 = w.order? (t.newValue j).2 := by
  cases j with
  | array items => cases w <;> rfl
  | object members => cases w <;> rfl
  | _ => rfl

end Store

/-! ## Comparators -/

namespace Comparator

def IsBuiltIn : Comparator → Prop
  | .custom .. => False
  | _ => True

theorem isBuiltIn_of_ofName? {name : String} {c : Comparator} (h : ofName? name = some c) :
    c.IsBuiltIn := by
  have hc : ∀ c ∈ builtIn, c.IsBuiltIn := by simp [builtIn, IsBuiltIn]
  exact hc c (List.mem_of_find?_eq_some h)

theorem lengthBound?_ofInt64 (n : Int64) :
    lengthBound? (.decimal (.ofInt64 n)) = lengthBound? (.integer n) := by
  have h₁ := n.toInt_lt
  simp only [lengthBound?, Decimal.truncated_ofInt64]
  congr 1
  simp only [Decimal.ofInt64, eq_iff_iff, and_iff_left_iff_imp]
  intro _
  omega

/-- Integers and decimals alike are bounds as decimals. -/
theorem lengthBound?_of_decimal? {v : Value} {a : Decimal} (hv : v.decimal? = some a) :
    lengthBound? v = lengthBound? (.decimal a) := by
  cases v with
  | integer n => cases hv; exact (lengthBound?_ofInt64 n).symm
  | decimal a => cases hv; rfl
  | _ => cases hv

theorem lengthBound?_of_same {v w : Value} (h : v.same w) : lengthBound? v = lengthBound? w := by
  have none {v : Value} (hv : v.decimal? = none) : lengthBound? v = none := by
    cases v <;> first | rfl | cases hv
  have hd := Value.decimal?_of_same h
  generalize hv : v.decimal? = a, hw : w.decimal? = b at hd
  cases hd with
  | none => rw [none hv, none hw]
  | some hd =>
    rw [lengthBound?_of_decimal? hv, lengthBound?_of_decimal? hw]
    simp only [lengthBound?, Decimal.nonneg_of_compare hd, Decimal.truncated_of_compare hd]

/-- What a test makes of its argument. -/
theorem test_congr {c : Comparator} (hc : c.IsBuiltIn) {v w w' : Value} (same : v.same w = v.same w')
    (order : v.order? w = v.order? w')
    (items : w.items?.map (Value.holds · v) = w'.items?.map (Value.holds · v))
    (string : w.string? = w'.string?) (bound : lengthBound? w = lengthBound? w') :
    c.test v w = c.test v w' := by
  have ordered (accept : Ordering → Bool) : ordered v w accept = ordered v w' accept := by
    rw [Comparator.ordered, Comparator.ordered, order]
  have held (p : Bool → Bool) :
      w.items?.all (fun vs => p (Value.holds vs v)) =
        w'.items?.all fun vs => p (Value.holds vs v) := by
    simpa only [Option.all_map] using congrArg (Option.all p) items
  cases c with
  | required | isTrue | isFalse => rfl
  | existsIn => exact held id
  | notExistsIn => exact held (!·)
  | equal => exact same
  | notEqual => exact congrArg (!·) same
  | greaterThan | greaterThanOrEqual | lessThan | lessThanOrEqual => exact ordered _
  | matchPattern | notMatchPattern => simp only [test, matches?, string]
  | minLength | maxLength => simp only [test, bound]
  | custom name f => exact hc.elim

/-- A test is passed against both of two equal arguments or against none. -/
theorem test_of_same {c : Comparator} (hc : c.IsBuiltIn) {v w w' : Value} (h : w.same w') :
    c.test v w = c.test v w' := by
  refine test_congr hc (Value.same_congr h) (Value.order?_of_same h) ?items ?string
    (lengthBound?_of_same h)
  case items =>
    cases w with
    | collection ws => cases w' with
      | collection ws' => exact congrArg some (Value.holds_of_same h)
      | _ => cases h
    | _ => cases w' <;> first | rfl | cases h
  case string =>
    cases w with
    | string a => cases w' with
      | string b => exact congrArg some (beq_iff_eq.1 h)
      | _ => cases h
    | _ => cases w' <;> first | rfl | cases h

/-- A test of a value that has none of the objects of a document is passed against both values of the
    document or against none. -/
theorem test_newValue {H : Type} {s t : Store H} {c : Comparator} (hc : c.IsBuiltIn) {w : Value}
    {j : Json} (hs : ∀ o ∈ w.objects, o ∉ (s.newValue j).2.objects)
    (ht : ∀ o ∈ w.objects, o ∉ (t.newValue j).2.objects) :
    c.test w (s.newValue j).2 = c.test w (t.newValue j).2 := by
  refine test_congr hc (Store.same_newValue hs ht) (Store.order?_newValue s t w j) ?items
    (by cases j <;> rfl) (by cases j <;> rfl)
  cases j with
  | array items => exact congrArg some (Store.holds_newValues hs ht)
  | _ => rfl

end Comparator

end LiveForm
