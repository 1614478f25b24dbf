/-
  Objects that properties do not lead to.

  The documents that the rules of a form are given become objects when the form is made. No name, no
  property of another object and no operand of a later command leads to them. So the value of a template
  has none of them, whatever the caller writes, as long as handlers write nothing.

  * `Store.enclosed`: some objects lead to some objects only;
  * `Session.Secluded`: so do the names; `Secluded.execute`: it stays so when the caller gives commands;
  * `secluded_of_compile`: the objects that are made with a form are secluded from all others;
  * `Secluded.objects_sourceValue`: the value of a template has none of them.
-/
import LiveForm.Proofs.Observing

namespace LiveForm

/-! ## Stores -/

namespace Store

variable {H : Type} {L : Licence H} {s : Store H} {n : Nat} {P : ObjectId → Prop}

/-- The properties of some objects lead to such objects only. -/
def enclosed (n : Nat) (P : ObjectId → Prop) : Trait H where
  objects := n
  proxies := 0
  validators := 0
  object o x := P o → ∀ z ∈ x.properties, ∀ r ∈ z.2.objects, P r
  proxy _ _ := True
  validator _ _ := True

/-- Objects go on leading to such objects only, if those that are made do so and only such values may be
    put into properties. -/
theorem stable_enclosed (fresh : ∀ o r : ObjectId, n ≤ o.index → n ≤ r.index → P o → P r)
    (puts : L.writes → ∀ v, L.puts v → ∀ r ∈ v.objects, P r) :
    (enclosed n P : Trait H).Stable L where
  newObject ho _ hx h z hz r hr := fresh _ r ho (hx z hz r hr) h
  setProperty hw _ _ name v hv h hP z hz := by
    rcases mem_putProperty hz with hz | hz
    · exact h hP z hz
    · exact hz ▸ puts hw v hv
  removeProperty _ _ _ name h hP z hz := h hP z (List.mem_filter.1 hz).1
  subscribe _ _ _ h := h
  attach _ _ h := h
  unsubscribe _ h := h
  newProxy _ _ _ _ _ := trivial
  subscriptions _ _ := trivial
  listen _ _ _ := trivial
  hear _ _ := trivial
  unlisten _ _ := trivial
  disposeProxy _ _ _ _ := trivial
  clear _ := trivial
  newValidator _ _ _ _ _ := trivial
  notes _ _ := trivial
  watch _ _ _ := trivial
  unwatch _ _ := trivial
  disposeValidator _ _ _ _ := trivial
  clearValidator _ := trivial

theorem ofListeners_enclosed : (enclosed n P : Trait H).OfListeners :=
  ⟨fun _ _ => trivial, fun _ _ => trivial⟩

theorem All.enclosed_property (h : s.All (enclosed n P)) {o : ObjectId} (ho : P o) {name : String}
    {v : Value} (hv : s.property o name = some v) : ∀ r ∈ v.objects, P r := by
  obtain ⟨x, hx, hv⟩ := exists_of_property hv
  exact h.object o x hx ho (name, v) hv

/-- The value of a template has only objects to which its objects lead. -/
theorem All.enclosed_sourceValue (h : s.All (enclosed n P)) {b : Binding}
    (hb : ∀ r o, b.root r = some o → P o) (ev : Evaluator) (T : Template) :
    ∀ o ∈ (s.sourceValue b (.template ev T)).objects, P o := by
  classical
  -- the same objects, where nothing can be read from others
  let sc : Scope := ⟨fun o name => if P o then s.property o name else none, (s.scope b).root⟩
  have watched : ∀ z ∈ (s.scope b).watches T, P z.1 :=
    Scope.watches_closed (fun o name r ho hr => h.enclosed_property ho hr r.id (by simp [Value.objects]))
      fun r o ho => hb r o (scope_root_eq_some_iff.1 ho).1
  have same : ev.valueOf sc T.root = ev.valueOf (s.scope b) T.root :=
    Scope.valueOf_congr ev rfl fun z hz => if_pos (watched z hz)
  show ∀ o ∈ (ev.valueOf (s.scope b) T.root).objects, P o
  rw [← same]
  refine ev.objects_valueOf (fun o name v hv => ?_) T.root
  dsimp only [sc] at hv
  split at hv
  · next ho => exact h.enclosed_property ho hv
  · cases hv

end Store

/-! ## Operands -/

namespace Session

variable {n : Nat} {P : ObjectId → Prop} {objects : List (String × ObjectRef)}

mutual

/-- The caller has no more objects than those that have names, and new ones. -/
theorem enclosed_resolve (names : ∀ k ∈ objects, P k.2.id) (hn : ∀ o : ObjectId, n ≤ o.index → P o)
    {t t' : Store Script} (ht : n ≤ t.objects.next) {x : Operand} {v : Value}
    (h : resolve objects none t x = .ok (t', v)) : ∀ o ∈ v.objects, P o := by
  match x with
  | .value w =>
    cases h
    cases w <;> exact List.forall_mem_nil _
  | .collection items =>
    rw [resolve] at h
    split at h
    · next hi =>
      cases h
      rw [Value.objects, Value.objectsOfItems_eq_flatMap]
      exact enclosed_resolveAll names hn ht hi
    · cases h
  | .object name =>
    rw [resolve] at h
    split at h
    · next hk =>
      cases h
      exact List.forall_mem_singleton.2 (names _ (mem_of_lookup hk))
    · cases h
  | .document j =>
    rw [resolve, Except.ok.injEq] at h
    have made := Store.le_of_mem_newValue t j
    rw [h] at made
    exact fun o ho => hn o (Nat.le_trans ht (made o ho))
  | .event | .eventPlus _ | .errorCount => cases h

theorem enclosed_resolveAll (names : ∀ k ∈ objects, P k.2.id)
    (hn : ∀ o : ObjectId, n ≤ o.index → P o) {t t' : Store Script} (ht : n ≤ t.objects.next)
    {xs : List Operand} {vs : List Value} (h : resolveAll objects none t xs = .ok (t', vs)) :
    ∀ o ∈ vs.flatMap Value.objects, P o := by
  match xs with
  | [] =>
    cases h
    exact List.forall_mem_nil _
  | x :: xs =>
    rw [resolveAll] at h
    split at h
    · cases h
    · next u w hx =>
      split at h
      · cases h
      · next u' ws hxs =>
        cases h
        have hu := (Store.spares_of_changes (changes_resolve (L := .all) hx)).objects
        exact List.forall_mem_append.2 ⟨enclosed_resolve names hn ht hx,
          enclosed_resolveAll names hn (Nat.le_trans ht hu) hxs⟩

end

/-! ## Sessions -/

/-- No handler writes, and names and some objects lead to such objects only. -/
structure Secluded (n : Nat) (P : ObjectId → Prop) (s : Session) : Prop where
  observing : s.Observing
  store : s.store.All (Store.enclosed n P)
  names : ∀ k ∈ s.objects, P k.2.id

namespace Secluded

variable {s t : Session}

theorem step (fresh : ∀ o r : ObjectId, n ≤ o.index → n ≤ r.index → P o → P r)
    (h : s.Secluded n P) : s.step.Secluded n P where
  observing := h.observing.step
  store := h.observing.turn.all (Store.stable_enclosed fresh False.elim)
    Store.ofListeners_enclosed h.store
  names := by
    rw [h.observing.turn.objects id]
    exact h.names

theorem finish (fresh : ∀ o r : ObjectId, n ≤ o.index → n ≤ r.index → P o → P r)
    (h : s.Secluded n P) {fuel : Nat} (ht : Session.finish fuel s = some t) : t.Secluded n P :=
  (of_finish (P := Secluded n P) (fun _ => step fresh) h ht).1

/-- What the caller writes leads to no other objects. -/
theorem initiated (hn : ∀ o : ObjectId, n ≤ o.index → P o) (h : s.Secluded n P)
    (idle : s.agenda = []) {c : Command} (hc : c.Observes) : (s.initiated c).Secluded n P := by
  obtain ⟨_, _, -, -, hu, names⟩ := start_spec (L := .writing fun v => ∀ o ∈ v.objects, P o)
    ({ s with log := [], answer := none } : Session) none (hc.isAllowed _)
    (fun _ u u' x v hu hx => enclosed_resolve h.names hn (Nat.le_trans h.store.objects hu) hx) none
  refine ⟨h.observing.initiated idle hc,
    h.store.changes (Store.stable_enclosed (fun _ r _ hr _ => hn r hr) fun _ _ => id) hu, ?_⟩
  rcases names with names | ⟨-, names⟩
  · rw [Session.initiated, names]
    exact h.names
  · intro k hk
    exact (names k hk).elim (h.names k) fun hk => hn _ (Nat.le_trans h.store.objects hk)

theorem execute (hn : ∀ o : ObjectId, n ≤ o.index → P o) (h : s.Secluded n P)
    (idle : s.agenda = []) {c : Command} (hc : c.Observes) {fuel : Nat}
    (ht : s.execute fuel c = some t) : t.Secluded n P :=
  (h.initiated hn idle hc).finish (fun _ r _ hr _ => hn r hr) ht

/-- The value of a template for objects that have names has only objects to which these lead. -/
theorem objects_sourceValue (h : s.Secluded n P) {b : Binding} (hb : s.Names b) (ev : Evaluator)
    (T : Template) : ∀ o ∈ (s.store.sourceValue b (.template ev T)).objects, P o := by
  refine h.store.enclosed_sourceValue (fun r o ho => ?_) ev T
  obtain ⟨k, hk, rfl⟩ := hb r o ho
  exact h.names k hk

end Secluded

/-! ## Forms -/

variable {s t : Session}

/-- A command that does not write leaves those objects alone that were there before it. -/
theorem secluded_of_execute (h : s.Sound) (idle : s.agenda = []) (observed : s.store.Observed)
    {c : Command} (hc : c.writes = false) {fuel : Nat} (ht : s.execute fuel c = some t) :
    t.Secluded s.store.objects.next fun o => o.index < s.store.objects.next := by
  have fresh : ∀ o r : ObjectId, s.store.objects.next ≤ o.index → s.store.objects.next ≤ r.index →
      o.index < s.store.objects.next → r.index < s.store.objects.next :=
    fun o r ho _ h => absurd h (Nat.not_lt.2 ho)
  obtain ⟨_, _, -, -, hu, names⟩ := start_spec (L := .observing)
    ({ s with log := [], answer := none } : Session) none (c.isAllowed_observing hc)
    False.elim none
  refine Secluded.finish fresh ⟨?observing, ?store, ?names⟩ ht
  case observing =>
    have observing : s.Observing := ⟨observed, by rw [idle]; exact List.forall_mem_nil _⟩
    exact observing.initiated idle (.of_not_writes hc)
  case store =>
    refine Store.All.changes (Store.stable_enclosed fresh False.elim) ⟨Nat.le_refl _,
      fun o x hx _ z hz r hr => ?_, Nat.zero_le _, fun _ _ _ => trivial, Nat.zero_le _,
      fun _ _ _ => trivial⟩ hu
    have hc : s.store.contents o = some x.properties := by
      rw [Store.contents, show s.store.object? o = some x from hx]
      rfl
    exact (h.situation.sealed o x.properties hc z hz r hr).lt_next
  case names =>
    rw [names.resolve_right fun hw => hw.1]
    exact fun k hk => (h.object hk).lt_next

/-- What was made by a command that does not write is secluded from what was there before it, and from
    what comes after. -/
theorem secluded_between (h : s.Sound) (idle : s.agenda = []) (observed : s.store.Observed)
    {c : Command} (hc : c.writes = false) {fuel : Nat} (ht : s.execute fuel c = some t) :
    t.Secluded t.store.objects.next fun o =>
      o.index < s.store.objects.next ∨ t.store.objects.next ≤ o.index := by
  have old := secluded_of_execute h idle observed hc ht
  refine ⟨old.observing, ⟨Nat.le_refl _, fun o x hx ho z hz r hr => ?_, Nat.zero_le _,
    fun _ _ _ => trivial, Nat.zero_le _, fun _ _ _ => trivial⟩, fun k hk => Or.inl (old.names k hk)⟩
  have ho := ho.resolve_right (Nat.not_le.2 (Roster.lt_next_of_get? hx))
  exact Or.inl (old.store.object o x hx ho z hz r hr)

end Session

end LiveForm
