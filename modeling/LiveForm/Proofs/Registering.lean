/-
  Who is registered where events come from.

  Listeners of an object are registered for one of its properties, listeners of a node for the node.
  Whatever happens, a number that has been given out is never given to another listener, so that who is
  registered under an old number has been so all the time.

  * `Store.Registered` and `Store.Issued`: somebody is registered under a number, and a number has been
    given out;
  * `Store.Succeeds` and `Sound.succeeds`: under the numbers that had been given out there is nobody but
    who was there before;
  * `Store.mem_roundOf` and `Store.pairwise_roundOf`: a round that begins is for those who are registered,
    in the order of their numbers.
-/
import LiveForm.Proofs.Muting

namespace LiveForm

namespace Store

variable {H : Type} {s t u : Store H} {e : Event} {k : Nat} {l : Listener H}

/-- A listener is registered under a number: for the property that an event is about, or with the
    node. -/
def Registered (s : Store H) (e : Event) (k : Nat) (l : Listener H) : Prop :=
  match e with
  | .property o name => ∃ x, s.object? o = some x ∧ x.subscribers.get? k = some ⟨name, l⟩
  | .value p _ => ∃ r, s.listeners? (.proxy p) = some r ∧ r.get? k = some l
  | .result v _ => ∃ r, s.listeners? (.validator v) = some r ∧ r.get? k = some l

/-- A number has been given out where an event comes from. -/
def Issued (s : Store H) (e : Event) (k : Nat) : Prop :=
  match e with
  | .property o _ =>
    o.index < s.objects.next ∧ ∀ x, s.object? o = some x → k < x.subscribers.next
  | .value p _ => s.Made (.proxy p) ∧ ∀ r, s.listeners? (.proxy p) = some r → k < r.next
  | .result v _ => s.Made (.validator v) ∧ ∀ r, s.listeners? (.validator v) = some r → k < r.next

/-- Whoever is registered under a number that has been given out was so before. -/
def Succeeds (s t : Store H) : Prop :=
  ∀ e k, s.Issued e k → t.Issued e k ∧ ∀ l, t.Registered e k l → s.Registered e k l

/-! ## Numbers -/

theorem issued_of_listeners? {n : Node} {r : Roster (Listener H)} (hr : s.listeners? n = some r)
    (hk : r.get? k = some l) : s.Made n ∧ ∀ r', s.listeners? n = some r' → k < r'.next := by
  refine ⟨made_of_listeners? hr, fun r' hr' => ?_⟩
  obtain rfl := Option.some.inj (hr.symm.trans hr')
  exact Roster.lt_next_of_get? hk

theorem Registered.issued (h : s.Registered e k l) : s.Issued e k := by
  cases e with
  | property o name =>
    obtain ⟨x, hx, hk⟩ := h
    refine ⟨Roster.lt_next_of_get? hx, fun y hy => ?_⟩
    obtain rfl := Option.some.inj (hx.symm.trans hy)
    exact Roster.lt_next_of_get? hk
  | value p v =>
    obtain ⟨r, hr, hk⟩ := h
    exact issued_of_listeners? hr hk
  | result v r =>
    obtain ⟨r, hr, hk⟩ := h
    exact issued_of_listeners? hr hk

/-- Numbers are given out in order. -/
theorem Issued.of_le (h : s.Issued e k) {m : Nat} (hm : m ≤ k) : s.Issued e m := by
  cases e with
  | property | value | result => exact ⟨h.1, fun x hx => Nat.lt_of_le_of_lt hm (h.2 x hx)⟩

theorem Succeeds.refl (s : Store H) : s.Succeeds s := fun _ _ h => ⟨h, fun _ => id⟩

theorem Succeeds.trans (h₁ : s.Succeeds t) (h₂ : t.Succeeds u) : s.Succeeds u := by
  intro e k h
  obtain ⟨ht, back⟩ := h₁ e k h
  obtain ⟨hu, back'⟩ := h₂ e k ht
  exact ⟨hu, fun l hl => back l (back' l hl)⟩

/-- Under a number that has been given out to somebody there is nobody else. -/
theorem Succeeds.registered_of_listener? (h : s.Succeeds t) {m : Listener H}
    (hs : s.Registered e k m) (hl : t.listener? e k = some l) : t.Registered e k l := by
  cases e with
  | property o name =>
    obtain ⟨y, hy, hl⟩ := Option.bind_eq_some_iff.1 hl
    obtain ⟨⟨name', l'⟩, he, e⟩ := Option.bind_eq_some_iff.1 hl
    obtain rfl : l' = l := Option.some.inj e
    -- the property for which somebody is registered now is the one of the beginning
    have now : t.Registered (.property o name') k l' := ⟨y, hy, he⟩
    have issued : s.Issued (.property o name') k := hs.issued
    obtain ⟨x, hx, hk⟩ := hs
    obtain ⟨x', hx', hk'⟩ := (h _ k issued).2 l' now
    obtain rfl := Option.some.inj (hx.symm.trans hx')
    obtain ⟨rfl, -⟩ := Subscriber.mk.inj (Option.some.inj (hk.symm.trans hk'))
    exact now
  | value p v =>
    rw [listener?_of_node rfl] at hl
    exact Option.bind_eq_some_iff.1 hl
  | result v r =>
    rw [listener?_of_node rfl] at hl
    exact Option.bind_eq_some_iff.1 hl

theorem Registered.listener? (h : s.Registered e k l) : s.listener? e k = some l := by
  cases e with
  | property o name =>
    obtain ⟨x, hx, hk⟩ := h
    simp [Store.listener?, hx, hk]
  | value p v =>
    rw [listener?_of_node rfl]
    exact Option.bind_eq_some_iff.2 h
  | result v r =>
    rw [listener?_of_node rfl]
    exact Option.bind_eq_some_iff.2 h

/-- Numbers stay given out as long as listeners come and go. -/
theorem Succeeds.of_later (objects : s.objects.Later ObjectState.Later t.objects)
    (nodes : t.All s.succession) : s.Succeeds t := by
  intro e k h
  have listeners : ∀ n, (s.Made n ∧ ∀ r, s.listeners? n = some r → k < r.next) →
      (t.Made n ∧ ∀ r, t.listeners? n = some r → k < r.next) ∧
        ∀ l, (∃ r, t.listeners? n = some r ∧ r.get? k = some l) →
          ∃ r, s.listeners? n = some r ∧ r.get? k = some l := by
    intro n ⟨made, hk⟩
    refine ⟨⟨nodes.made made, fun r' hr' => ?_⟩, fun l ⟨r', hr', hl⟩ => ?_⟩
    · obtain ⟨r, hr, later⟩ := nodes.listeners? made hr'
      exact Nat.lt_of_lt_of_le (hk r hr) later.next
    · obtain ⟨r, hr, later⟩ := nodes.listeners? made hr'
      obtain ⟨_, hl', rfl⟩ := later.old k l (hk r hr) hl
      exact ⟨r, hr, hl'⟩
  cases e with
  | property o name =>
    obtain ⟨made, hk⟩ := h
    refine ⟨⟨Nat.lt_of_lt_of_le made objects.next, fun y hy => ?_⟩, fun l ⟨y, hy, hl⟩ => ?_⟩
    · obtain ⟨x, hx, later⟩ := objects.old _ y made hy
      exact Nat.lt_of_lt_of_le (hk x hx) later.next
    · obtain ⟨x, hx, later⟩ := objects.old _ y made hy
      obtain ⟨_, hl', rfl⟩ := later.old k _ (hk x hx) hl
      exact ⟨x, hx, hl'⟩
  | value p v => exact listeners (.proxy p) h
  | result v r => exact listeners (.validator v) h

/-! ## Rounds -/

/-- A round that begins is for all that are registered. -/
theorem mem_roundOf {ks : List Nat} (h : s.roundOf e = .round e ks) :
    k ∈ ks ↔ ∃ l, s.Registered e k l := by
  cases e with
  | property o name =>
    obtain rfl : s.subscribersOf o name = ks := by simpa [roundOf] using h
    unfold subscribersOf Registered
    cases hx : s.object? o with
    | none => simp [hx]
    | some x =>
      simp only [hx, List.mem_map, List.mem_filter, Prod.exists, Option.some.injEq, exists_eq_left',
        Roster.get?_eq_some_iff]
      constructor
      · rintro ⟨_, ⟨m, l⟩, ⟨hm, hn⟩, rfl⟩
        obtain rfl : m = name := by simpa using hn
        exact ⟨l, hm⟩
      · rintro ⟨l, hl⟩
        exact ⟨k, ⟨name, l⟩, ⟨hl, by simp⟩, rfl⟩
  | value p v =>
    obtain rfl : ((s.proxy? p).map fun x => x.listeners.numbers).getD [] = ks := by
      simpa [roundOf] using h
    unfold Registered listeners?
    cases hx : s.proxy? p <;> simp [hx, Roster.mem_numbers_iff, Option.isSome_iff_exists]
  | result v r =>
    obtain rfl : ((s.validator? v).map fun x => x.listeners.numbers).getD [] = ks := by
      simpa [roundOf] using h
    unfold Registered listeners?
    cases hx : s.validator? v <;> simp [hx, Roster.mem_numbers_iff, Option.isSome_iff_exists]

/-- A round that begins goes by the numbers. -/
theorem pairwise_roundOf {ks : List Nat} (h : s.roundOf e = .round e ks) : ks.Pairwise (· < ·) := by
  cases e with
  | property o name =>
    obtain rfl : s.subscribersOf o name = ks := by simpa [roundOf] using h
    unfold subscribersOf
    split
    · exact .nil
    · next x _ => exact x.subscribers.increasing.sublist (List.filter_sublist.map _)
  | value p v =>
    obtain rfl : ((s.proxy? p).map fun x => x.listeners.numbers).getD [] = ks := by
      simpa [roundOf] using h
    cases s.proxy? p with
    | none => exact .nil
    | some x => exact x.listeners.increasing
  | result v r =>
    obtain rfl : ((s.validator? v).map fun x => x.listeners.numbers).getD [] = ks := by
      simpa [roundOf] using h
    cases s.validator? v with
    | none => exact .nil
    | some x => exact x.listeners.increasing

end Store

namespace Session

variable {s t : Session}

/-- Whatever happens, numbers stay given out. -/
theorem Sound.succeeds (h : s.Sound) (hm : s.Move t) : s.store.Succeeds t.store :=
  .of_later (h.move hm).later.objects hm.turn.succession

end Session

end LiveForm
