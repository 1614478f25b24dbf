/-
  The making of objects.

  New objects have no subscribers, and nobody is told of what is put into them. `Builds.trans` puts
  together what is made one after the other; `newValue_spec` and `resolve_spec` say that the values of
  documents and of operands are of objects that are alive.
-/
import LiveForm.Proofs.Order
import LiveForm.Session.Effect

namespace LiveForm

variable {H : Type}

namespace Store

variable {s t u : Store H}

theorem Builds.refl (s : Store H) : s.Builds s where
  proxies := rfl
  validators := rfl
  forms := rfl
  next := Nat.le_refl _
  old _ _ := rfl
  fresh _ _ h hx := absurd (Roster.lt_next_of_get? hx) (Nat.not_lt_of_le h)

theorem Builds.trans (h₁ : s.Builds t) (h₂ : t.Builds u) : s.Builds u where
  proxies := h₂.proxies.trans h₁.proxies
  validators := h₂.validators.trans h₁.validators
  forms := h₂.forms.trans h₁.forms
  next := Nat.le_trans h₁.next h₂.next
  old o ho := (h₂.old o (Nat.lt_of_lt_of_le ho h₁.next)).trans (h₁.old o ho)
  fresh o x ho hx := by
    by_cases ht : o.index < t.objects.next
    · rw [h₂.old o ht] at hx
      obtain ⟨hs, ha⟩ := h₁.fresh o x ho hx
      exact ⟨hs, fun e he => h₂.alive (ha e he)⟩
    · exact h₂.fresh o x (Nat.le_of_not_lt ht) hx

theorem object?_newObject (s : Store H) (typeName : String) (o : ObjectId) :
    (s.newObject typeName).1.object? o =
      if o.index = s.objects.next then some ⟨typeName, [], .startingAt 1⟩ else s.object? o :=
  Roster.get?_add ..

theorem builds_newObject (s : Store H) (typeName : String) :
    s.Builds (s.newObject typeName).1 where
  proxies := rfl
  validators := rfl
  forms := rfl
  next := Nat.le_succ _
  old o ho := by rw [object?_newObject, if_neg (Nat.ne_of_lt ho)]
  fresh o x ho hx := by
    rw [object?_newObject] at hx
    split at hx
    · cases hx
      exact ⟨fun _ => rfl, nofun⟩
    · exact absurd (Roster.lt_next_of_get? hx) (Nat.not_lt_of_le ho)

theorem lives_newObject (s : Store H) (typeName : String) :
    (s.newObject typeName).1.Lives (s.newObject typeName).2.id := by
  rw [Lives, object?_newObject]
  simp [newObject]

theorem mem_putProperty {name : String} {v : Value} {ps : List (String × Value)}
    {z : String × Value} (h : z ∈ putProperty name v ps) : z ∈ ps ∨ z.2 = v := by
  induction ps with
  | nil =>
    obtain rfl := List.mem_singleton.1 h
    exact Or.inr rfl
  | cons p ps ih =>
    unfold putProperty at h
    split at h
    · rcases List.mem_cons.1 h with rfl | h
      · exact Or.inr rfl
      · exact Or.inl (List.mem_cons_of_mem _ h)
    · rcases List.mem_cons.1 h with rfl | h
      · exact Or.inl (List.mem_cons_self ..)
      · exact (ih h).imp_left (List.mem_cons_of_mem _)

theorem lookup_putProperty {name m : String} (v : Value) (ps : List (String × Value))
    (h : m ≠ name) : (putProperty name v ps).lookup m = ps.lookup m := by
  have hb : (m == name) = false := by simpa using h
  induction ps with
  | nil => simp [putProperty, List.lookup_cons, hb]
  | cons p ps ih =>
    obtain ⟨n, w⟩ := p
    unfold putProperty
    split
    · next e => simp [List.lookup_cons, e, hb]
    · simp only [List.lookup_cons, ih]

theorem lookup_filter_of_ne {name m : String} (ps : List (String × Value)) (h : m ≠ name) :
    (ps.filter fun p => p.1 != name).lookup m = ps.lookup m := by
  induction ps with
  | nil => rfl
  | cons p ps ih =>
    obtain ⟨n, w⟩ := p
    by_cases hn : n = name
    · have hb : (m == n) = false := by simpa [hn] using h
      rw [List.filter_cons_of_neg (by simpa using hn), ih, List.lookup_cons, hb]
    · rw [List.filter_cons_of_pos (by simpa using hn), List.lookup_cons, List.lookup_cons, ih]

/-- To give a property a value is a change of this property alone. -/
theorem touches_setProperty {name : String} {v : Value} (h : ∀ e ∈ v.entities, s.Alive e) :
    s.Touches name fun x => { x with properties := putProperty name v x.properties } where
  subscribers _ := rfl
  others x _ hm := lookup_putProperty v x.properties hm
  alive x z hz := by
    refine (mem_putProperty hz).imp_right fun e r hr => h (.object r) ?_
    rw [← e]
    exact List.mem_map_of_mem hr

theorem touches_removeProperty {name : String} :
    s.Touches name fun x => { x with properties := x.properties.filter fun p => p.1 != name } where
  subscribers _ := rfl
  others x _ hm := lookup_filter_of_ne x.properties hm
  alive _ _ hz := Or.inl (List.mem_filter.1 hz).1

/-- What is new may get any value that is alive. -/
theorem Builds.setProperty (h : s.Builds t) {o : ObjectId} (ho : s.objects.next ≤ o.index)
    {name : String} {v : Value} (hv : ∀ e ∈ v.entities, t.Alive e) :
    s.Builds (t.setProperty o name v) where
  proxies := h.proxies
  validators := h.validators
  forms := h.forms
  next := h.next
  old o' ho' := by
    have e : o' ≠ o := fun e => Nat.not_lt_of_le ho (e ▸ ho')
    rw [Store.setProperty, object?_modifyObject, if_neg e, h.old o' ho']
  fresh o' x ho' hx := by
    have alive : ∀ e, t.Alive e → (t.setProperty o name v).Alive e := fun e =>
      alive_modifyObject.2
    rw [Store.setProperty, object?_modifyObject] at hx
    split at hx
    · obtain ⟨y, hy, rfl⟩ := Option.map_eq_some_iff.1 hx
      obtain ⟨hs, ha⟩ := h.fresh o' y ho' hy
      refine ⟨hs, fun e he => alive e ?_⟩
      obtain ⟨z, hz, he⟩ := List.mem_flatMap.1 he
      rcases mem_putProperty hz with hz | hz
      · exact ha e (List.mem_flatMap.2 ⟨z, hz, he⟩)
      · exact hv e (hz ▸ he)
    · obtain ⟨hs, ha⟩ := h.fresh o' x ho' hx
      exact ⟨hs, fun e he => alive e (ha e he)⟩

/-! ## Documents -/

theorem entities_ofInt (n : Int) : (Value.ofInt n).entities = [] := by
  unfold Value.ofInt
  split
  · rfl
  · cases Decimal.ofParts? n 0 <;> rfl

theorem entities_ofBinary64 (x : Binary64) : (Value.ofBinary64 x).entities = [] := by
  unfold Value.ofBinary64
  cases Decimal.ofText? x.render <;> rfl

theorem entities_collection (vs : List Value) :
    (Value.collection vs).entities = vs.flatMap Value.entities := by
  simp only [Value.entities, Value.objects, Value.objectsOfItems_eq_flatMap, List.map_flatMap]
  rfl

theorem alive_of_objectRef {o : ObjectRef} (h : s.Lives o.id) :
    ∀ e ∈ (Value.object o).entities, s.Alive e := by
  intro e he
  obtain rfl : e = .object o.id := by simpa [Value.entities, Value.objects] using he
  exact h

mutual

/-- The value of a document is of objects that are alive. -/
theorem newValue_spec (s : Store H) (j : Json) :
    s.Builds (s.newValue j).1 ∧ ∀ e ∈ (s.newValue j).2.entities, (s.newValue j).1.Alive e := by
  match j with
  | .null | .boolean b | .string x => exact ⟨.refl s, nofun⟩
  | .integer n => exact ⟨.refl s, by simp [newValue, entities_ofInt]⟩
  | .float x => exact ⟨.refl s, by simp [newValue, entities_ofBinary64]⟩
  | .array items =>
    obtain ⟨hb, ha⟩ := newValues_spec s items
    refine ⟨hb, fun e he => ha e ?_⟩
    rwa [newValue, entities_collection] at he
  | .object members =>
    obtain ⟨hb, hl⟩ := setMembers_spec (s.newObject documentType).1 ⟨s.objects.next⟩ s
      (builds_newObject s documentType) (Nat.le_refl _) members
    exact ⟨hb, alive_of_objectRef (hl (lives_newObject s documentType))⟩

theorem newValues_spec (s : Store H) (js : List Json) :
    s.Builds (s.newValues js).1 ∧
      ∀ e ∈ (s.newValues js).2.flatMap Value.entities, (s.newValues js).1.Alive e := by
  match js with
  | [] => exact ⟨.refl s, nofun⟩
  | j :: js =>
    obtain ⟨hb, ha⟩ := newValue_spec s j
    obtain ⟨hb', ha'⟩ := newValues_spec (s.newValue j).1 js
    refine ⟨hb.trans hb', ?_⟩
    intro e he
    rcases List.mem_append.1 he with he | he
    · exact hb'.alive (ha e he)
    · exact ha' e he

/-- What is put into a new object is of objects that are alive. -/
theorem setMembers_spec (t : Store H) (o : ObjectId) (s : Store H) (h : s.Builds t)
    (ho : s.objects.next ≤ o.index) (ms : List (String × Json)) :
    s.Builds (t.setMembers o ms) ∧ (t.Lives o → (t.setMembers o ms).Lives o) := by
  match ms with
  | [] => exact ⟨h, id⟩
  | (name, j) :: ms =>
    obtain ⟨hb, ha⟩ := newValue_spec t j
    obtain ⟨hb', hl⟩ := setMembers_spec ((t.newValue j).1.setProperty o name (t.newValue j).2) o s
      ((h.trans hb).setProperty ho ha) ho ms
    exact ⟨hb', fun ht => hl (lives_modifyObject.2 (hb.lives ht))⟩

end

mutual

/-- The objects of the value of a document are new. -/
theorem le_of_mem_newValue (s : Store H) (j : Json) :
    ∀ o ∈ (s.newValue j).2.objects, s.objects.next ≤ o.index := by
  match j with
  | .null | .boolean b | .string x => exact nofun
  | .integer n =>
    have h : (Value.ofInt n).objects = [] := List.map_eq_nil_iff.1 (entities_ofInt n)
    simp [newValue, h]
  | .float x =>
    have h : (Value.ofBinary64 x).objects = [] := List.map_eq_nil_iff.1 (entities_ofBinary64 x)
    simp [newValue, h]
  | .array items => exact le_of_mem_newValues s items
  | .object members =>
    intro o ho
    obtain rfl := List.mem_singleton.1 ho
    exact Nat.le_refl _

theorem le_of_mem_newValues (s : Store H) (js : List Json) :
    ∀ o ∈ Value.objectsOfItems (s.newValues js).2, s.objects.next ≤ o.index := by
  match js with
  | [] => exact nofun
  | j :: js =>
    intro o ho
    rcases List.mem_append.1 ho with ho | ho
    · exact le_of_mem_newValue s j o ho
    · exact Nat.le_trans (newValue_spec s j).1.next (le_of_mem_newValues (s.newValue j).1 js o ho)

end

theorem newObjectOf_spec (s : Store H) (j : Json) :
    s.Builds (s.newObjectOf j).1 ∧ (s.newObjectOf j).1.Lives (s.newObjectOf j).2.id := by
  have hb := builds_newObject s documentType
  have hl := lives_newObject s documentType
  cases j with
  | object members =>
    obtain ⟨hb', hl'⟩ := setMembers_spec (s.newObject documentType).1 ⟨s.objects.next⟩ s hb
      (Nat.le_refl _) members
    exact ⟨hb', hl' hl⟩
  | null | boolean | string | integer | float | array => exact ⟨hb, hl⟩

end Store

/-! ## Operands -/

namespace Session

variable {objects : List (String × ObjectRef)} {e : Option Occasion}

mutual

/-- The value of an operand is of objects that are alive, if the objects that have names are and what
    the handler is told is. -/
theorem resolve_spec (t : Store Script) (x : Operand) (ho : ∀ n ∈ objects, t.Lives n.2.id)
    (he : ∀ o ∈ e, ∀ z ∈ o.value.entities, t.Alive z) {t' : Store Script} {v : Value}
    (h : resolve objects e t x = .ok (t', v)) : t.Builds t' ∧ ∀ z ∈ v.entities, t'.Alive z := by
  match x with
  | .value v =>
    cases h
    exact ⟨.refl t, by simp [Value.entities]⟩
  | .collection items =>
    rw [resolve] at h
    split at h
    · next hi =>
      cases h
      rw [Store.entities_collection]
      exact resolveAll_spec t items ho he hi
    · cases h
  | .object name =>
    rw [resolve] at h
    split at h
    · next hn =>
      cases h
      exact ⟨.refl t, Store.alive_of_objectRef (ho _ (mem_of_lookup hn))⟩
    · cases h
  | .document j =>
    rw [resolve, Except.ok.injEq] at h
    have hj := t.newValue_spec j
    rwa [h] at hj
  | .event =>
    cases e with
    | none => cases h
    | some o =>
      cases h
      exact ⟨.refl t, he o rfl⟩
  | .eventPlus n =>
    cases e with
    | none => cases h
    | some o =>
      obtain ⟨w, k⟩ := o
      cases w <;> cases h <;> exact ⟨.refl t, he _ rfl⟩
  | .errorCount =>
    cases e with
    | none => cases h
    | some o =>
      cases h
      exact ⟨.refl t, nofun⟩

theorem resolveAll_spec (t : Store Script) (xs : List Operand) (ho : ∀ n ∈ objects, t.Lives n.2.id)
    (he : ∀ o ∈ e, ∀ z ∈ o.value.entities, t.Alive z) {t' : Store Script} {vs : List Value}
    (h : resolveAll objects e t xs = .ok (t', vs)) :
    t.Builds t' ∧ ∀ z ∈ vs.flatMap Value.entities, t'.Alive z := by
  match xs with
  | [] =>
    cases h
    exact ⟨.refl t, nofun⟩
  | x :: xs =>
    rw [resolveAll] at h
    split at h
    · cases h
    · next u w hx =>
      obtain ⟨hb, ha⟩ := resolve_spec t x ho he hx
      split at h
      · cases h
      · next u' ws hxs =>
        cases h
        obtain ⟨hb', ha'⟩ := resolveAll_spec u xs (fun n hn => hb.lives (ho n hn))
          (fun o h' z hz => hb.alive (he o h' z hz)) hxs
        refine ⟨hb.trans hb', ?_⟩
        intro z hz
        rcases List.mem_append.1 hz with hz | hz
        · exact hb'.alive (ha z hz)
        · exact ha' z hz

end

/-- What is put into a new object is of objects that are alive. -/
theorem setAll_spec {s t t' : Store Script} {o : ObjectId} {ps : List (String × Operand)}
    (hb : s.Builds t) (hn : s.objects.next ≤ o.index) (ho : ∀ n ∈ objects, t.Lives n.2.id)
    (he : ∀ x ∈ e, ∀ z ∈ x.value.entities, t.Alive z) (h : setAll objects e t o ps = .ok t') :
    s.Builds t' ∧ ∀ o', t.Lives o' → t'.Lives o' := by
  induction ps generalizing t with
  | nil =>
    cases h
    exact ⟨hb, fun _ => id⟩
  | cons p ps ih =>
    obtain ⟨name, x⟩ := p
    rw [setAll] at h
    split at h
    · cases h
    · next u v hx =>
      obtain ⟨hb', ha⟩ := resolve_spec t x ho he hx
      have alive : ∀ z, t.Alive z → (u.setProperty o name v).Alive z := fun z hz =>
        Store.alive_modifyObject.2 (hb'.alive hz)
      obtain ⟨hb'', hl⟩ := ih ((hb.trans hb').setProperty hn ha)
        (fun n hn => alive (.object n.2.id) (ho n hn)) (fun o h' z hz => alive z (he o h' z hz)) h
      exact ⟨hb'', fun o' ho' => hl o' (alive (.object o') ho')⟩

end Session

end LiveForm
