/-
  Forms that fail leave nothing behind.

  The making of a form may end with an error when many proxies and validators have been made and
  subscribed already. They belong to nobody, so the next sweep takes them away, and their
  subscriptions with them.

  * `Store.Beside`: a store has all that another one has, and beside it only new things that are
    subscribed to the old ones. `Beside.kept`: the making of fields leads to such a store;
  * `Beside.drop`: so does taking away what is new;
  * `Reachable.unchanged_of_compile_error`: when nobody holds what is new, all is as it was.
-/
import LiveForm.Proofs.Keeping
import LiveForm.Proofs.Sweeping

namespace LiveForm

variable {H : Type}

/-- The entries of a roster are determined by what is under its numbers. -/
theorem Roster.entries_congr {α : Type} {r r' : Roster α} (h : ∀ n, r.get? n = r'.get? n) :
    r.entries = r'.entries := by
  have sorted : ∀ q : Roster α, q.entries.Pairwise fun a b => a.1 < b.1 :=
    fun q => List.pairwise_map.1 q.increasing
  have nodup : ∀ q : Roster α, q.entries.Nodup := fun q =>
    (sorted q).imp fun hab e => by rw [e] at hab; exact Nat.lt_irrefl _ hab
  have perm : r.entries.Perm r'.entries := by
    rw [List.perm_ext_iff_of_nodup (nodup r) (nodup r')]
    rintro ⟨n, a⟩
    rw [← get?_eq_some_iff, ← get?_eq_some_iff, h]
  exact perm.eq_of_pairwise (fun a b _ _ hab hba => absurd hab (Nat.lt_asymm hba)) (sorted r)
    (sorted r')

/-! ## What is beside -/

/-- An object has its properties and its subscribers, and beside them only proxies from number `n`
    on. -/
structure ObjectState.Beside (n : Nat) (x y : ObjectState H) : Prop where
  typeName : y.typeName = x.typeName
  properties : y.properties = x.properties
  next : x.subscribers.next ≤ y.subscribers.next
  old : ∀ k, k < x.subscribers.next → y.subscribers.get? k = x.subscribers.get? k
  new : ∀ k e, x.subscribers.next ≤ k → y.subscribers.get? k = some e →
    ∃ p, e.listener = .proxy p ∧ n ≤ p.index

namespace ObjectState.Beside

variable {n : Nat} {x y : ObjectState H}

theorem refl (n : Nat) (x : ObjectState H) : x.Beside n x where
  typeName := rfl
  properties := rfl
  next := Nat.le_refl _
  old _ _ := rfl
  new _ _ hk he := absurd (Roster.lt_next_of_get? he) (Nat.not_lt.2 hk)

/-- A new proxy subscribes. -/
theorem add (h : x.Beside n y) (name : String) {p : ProxyId} (hp : n ≤ p.index) :
    x.Beside n { y with subscribers := y.subscribers.add ⟨name, .proxy p⟩ } where
  typeName := h.typeName
  properties := h.properties
  next := Nat.le_succ_of_le h.next
  old k hk := by
    rw [Roster.get?_add, if_neg (Nat.ne_of_lt (Nat.lt_of_lt_of_le hk h.next))]
    exact h.old k hk
  new k e hk he := by
    rw [Roster.get?_add] at he
    split at he
    · cases he
      exact ⟨p, rfl, hp⟩
    · exact h.new k e hk he

/-- Whoever is not there of old goes. -/
theorem remove (h : x.Beside n y) {k : Nat} (hk : x.subscribers.get? k = none) :
    x.Beside n { y with subscribers := y.subscribers.remove k } where
  typeName := h.typeName
  properties := h.properties
  next := h.next
  old j hj := by
    rw [Roster.get?_remove]
    split
    · next e => rw [e, hk]
    · exact h.old j hj
  new j e hj he := by
    rw [Roster.get?_remove] at he
    split at he
    · cases he
    · exact h.new j e hj he

end ObjectState.Beside

namespace Store

/-- A store has all that another one has, and beside it only new things, which do not show but in the
    subscribers of objects. -/
structure Beside (s t : Store H) : Prop where
  object : ∀ o x, s.object? o = some x →
    ∃ y, t.object? o = some y ∧ x.Beside s.proxies.next y
  objects : s.objects.next ≤ t.objects.next
  proxy : ∀ p : ProxyId, p.index < s.proxies.next → t.proxy? p = s.proxy? p
  proxies : s.proxies.next ≤ t.proxies.next
  validator : ∀ v : ValidatorId, v.index < s.validators.next → t.validator? v = s.validator? v
  validators : s.validators.next ≤ t.validators.next
  /-- New validators listen to new proxies only. -/
  notes : ∀ v y, s.validators.next ≤ v.index → t.validator? v = some y →
    ∀ w ∈ y.subscriptions, s.proxies.next ≤ w.1.index
  forms : t.forms = s.forms

namespace Beside

variable {s t u : Store H}

theorem refl (s : Store H) : s.Beside s where
  object _ x hx := ⟨x, hx, .refl _ x⟩
  objects := Nat.le_refl _
  proxy _ _ := rfl
  proxies := Nat.le_refl _
  validator _ _ := rfl
  validators := Nat.le_refl _
  notes _ _ hv hy := absurd (Roster.lt_next_of_get? hy) (Nat.not_lt.2 hv)
  forms := rfl

/-! ### Small changes -/

theorem modifyObject (h : s.Beside t) {o : ObjectId} {f : ObjectState H → ObjectState H}
    (hf : ∀ x y, s.object? o = some x → x.Beside s.proxies.next y →
      x.Beside s.proxies.next (f y)) : s.Beside (t.modifyObject o f) where
  object o' x hx := by
    obtain ⟨y, hy, hxy⟩ := h.object o' x hx
    rw [object?_modifyObject]
    split
    · next e =>
      subst e
      exact ⟨f y, by rw [hy, Option.map_some], hf x y hx hxy⟩
    · exact ⟨y, hy, hxy⟩
  objects := h.objects
  proxy := h.proxy
  proxies := h.proxies
  validator := h.validator
  validators := h.validators
  notes := h.notes
  forms := h.forms

theorem modifyProxy (h : s.Beside t) {p : ProxyId} (hp : s.proxies.next ≤ p.index)
    (f : ProxyState H → ProxyState H) : s.Beside (t.modifyProxy p f) where
  object := h.object
  objects := h.objects
  proxy q hq := by
    have hqp : q ≠ p := by
      rintro rfl
      exact Nat.not_lt.2 hp hq
    rw [proxy?_modifyProxy_of_ne hqp]
    exact h.proxy q hq
  proxies := h.proxies
  validator := h.validator
  validators := h.validators
  notes := h.notes
  forms := h.forms

theorem modifyValidator (h : s.Beside t) {v : ValidatorId} (hv : s.validators.next ≤ v.index)
    {f : ValidatorState H → ValidatorState H}
    (hf : ∀ y, t.validator? v = some y → ∀ w ∈ (f y).subscriptions, s.proxies.next ≤ w.1.index) :
    s.Beside (t.modifyValidator v f) where
  object := h.object
  objects := h.objects
  proxy := h.proxy
  proxies := h.proxies
  validator w hw := by
    have hwv : w ≠ v := by
      rintro rfl
      exact Nat.not_lt.2 hv hw
    rw [validator?_modifyValidator, if_neg hwv]
    exact h.validator w hw
  validators := h.validators
  notes w y hw hy := by
    rw [validator?_modifyValidator] at hy
    split at hy
    · next e =>
      subst e
      obtain ⟨z, hz, rfl⟩ := Option.map_eq_some_iff.1 hy
      exact hf z hz
    · exact h.notes w y hw hy
  forms := h.forms

theorem addProxy (h : s.Beside t) (x : ProxyState H) :
    s.Beside { t with proxies := t.proxies.add x } where
  object := h.object
  objects := h.objects
  proxy p hp := by
    rw [← h.proxy p hp, proxy?, Roster.get?_add,
      if_neg (Nat.ne_of_lt (Nat.lt_of_lt_of_le hp h.proxies))]
    rfl
  proxies := Nat.le_succ_of_le h.proxies
  validator := h.validator
  validators := h.validators
  notes := h.notes
  forms := h.forms

theorem addValidator (h : s.Beside t) {x : ValidatorState H} (hx : x.subscriptions = []) :
    s.Beside { t with validators := t.validators.add x } where
  object := h.object
  objects := h.objects
  proxy := h.proxy
  proxies := h.proxies
  validator v hv := by
    rw [← h.validator v hv, validator?, Roster.get?_add,
      if_neg (Nat.ne_of_lt (Nat.lt_of_lt_of_le hv h.validators))]
    rfl
  validators := Nat.le_succ_of_le h.validators
  notes v y hv hy := by
    rw [validator?, Roster.get?_add] at hy
    split at hy
    · cases hy
      rw [hx]
      exact List.forall_mem_nil _
    · exact h.notes v y hv hy
  forms := h.forms

theorem build (h : s.Beside t) (hb : t.Builds u) : s.Beside u where
  object o x hx := by
    obtain ⟨y, hy, hxy⟩ := h.object o x hx
    exact ⟨y, by rw [hb.old o (Roster.lt_next_of_get? hy), hy], hxy⟩
  objects := Nat.le_trans h.objects hb.next
  proxy p hp := by
    rw [proxy?, hb.proxies]
    exact h.proxy p hp
  proxies := hb.proxies ▸ h.proxies
  validator v hv := by
    rw [validator?, hb.validators]
    exact h.validator v hv
  validators := hb.validators ▸ h.validators
  notes v y hv hy := by
    rw [validator?, hb.validators] at hy
    exact h.notes v y hv hy
  forms := hb.forms.trans h.forms

/-! ### New proxies and validators -/

theorem subscribeProxy (h : s.Beside t) {p : ProxyId} (hp : s.proxies.next ≤ p.index)
    (ws : List (ObjectId × String)) : s.Beside (subscribeProxy p t ws).1 := by
  induction ws generalizing t with
  | nil => exact h
  | cons z ws ih => exact ih (h.modifyObject fun x y _ hxy => hxy.add z.2 hp)

theorem attach (h : s.Beside t) {p : ProxyId} (hp : s.proxies.next ≤ p.index) :
    s.Beside (t.attach p) := by
  unfold Store.attach
  split
  · exact h
  · exact (h.subscribeProxy hp _).modifyProxy hp _

theorem newProxy (h : s.Beside t) (source : ProxySource) (b : Binding)
    (limit : Nat) : s.Beside (t.newProxy source b limit).1 :=
  (h.addProxy _).attach h.proxies

theorem listenAll (h : s.Beside t) (v : ValidatorId) {ps : List ProxyId}
    (hp : ∀ p ∈ ps, s.proxies.next ≤ p.index) :
    s.Beside (listenAll v t ps).1 ∧
      ∀ w ∈ (Store.listenAll v t ps).2, s.proxies.next ≤ w.1.index := by
  induction ps generalizing t with
  | nil => exact ⟨h, List.forall_mem_nil _⟩
  | cons p ps ih =>
    have hp' := hp p (List.mem_cons_self ..)
    obtain ⟨h₁, h₂⟩ := ih (t := (t.listen p (.validator v)).1) (h.modifyProxy hp' _)
      fun q hq => hp q (List.mem_cons_of_mem _ hq)
    refine ⟨h₁, ?_⟩
    intro w hw
    rcases List.mem_cons.1 hw with rfl | hw
    · exact hp'
    · exact h₂ w hw

theorem newValidator (h : s.Beside t) (ev : Evaluator) {field : ProxyId}
    {rules : List (Rule ProxyId)} (limit : Nat)
    (hp : ∀ p ∈ field :: rules.flatMap Rule.sources, s.proxies.next ≤ p.index) :
    s.Beside (t.newValidator ev field rules limit).1 := by
  obtain ⟨h₁, h₂⟩ := (h.addValidator (x := .fresh field rules (t.validate ev field rules) limit)
    rfl).listenAll ⟨t.validators.next⟩ hp
  exact h₁.modifyValidator h.validators fun _ _ => h₂

/-- All that is made for a form is new. -/
theorem kept (s : Store H) (b : Binding) :
    Compilation.Kept b s.Beside fun p => s.proxies.next ≤ p.index where
  template _ _ _ h := ⟨h.newProxy .., h.proxies⟩
  constant _ h := ⟨h.newProxy .., h.proxies⟩
  document j h := h.build (newValue_spec _ j).1
  validator ev _ _ limit h hp := h.newValidator ev limit hp

/-! ### What is new goes -/

theorem unsubscribeAll (h : s.Beside t) {ws : List (ObjectId × Nat)}
    (hw : ∀ w ∈ ws, ∀ x, s.object? w.1 = some x → x.subscribers.get? w.2 = none) :
    s.Beside (t.unsubscribeAll ws) := by
  unfold Store.unsubscribeAll
  induction ws generalizing t with
  | nil => exact h
  | cons w ws ih =>
    refine ih (t := t.unsubscribe w.1 w.2) (h.modifyObject fun x y hx hxy => hxy.remove ?_)
      fun w' hw' => hw w' (List.mem_cons_of_mem _ hw')
    exact hw w (List.mem_cons_self ..) x hx

theorem unlistenAll (h : s.Beside t) {ws : List (ProxyId × Nat)}
    (hw : ∀ w ∈ ws, s.proxies.next ≤ w.1.index) : s.Beside (t.unlistenAll ws) := by
  unfold Store.unlistenAll
  induction ws generalizing t with
  | nil => exact h
  | cons w ws ih =>
    exact ih (t := t.unlisten w.1 w.2) (h.modifyProxy (hw w (List.mem_cons_self ..)) _)
      fun w' hw' => hw w' (List.mem_cons_of_mem _ hw')

/-- The seats of a new proxy are not those of old subscribers. -/
theorem get?_eq_none (h : s.Beside t) (hs : ∀ p, s.Ledger p) {p : ProxyId}
    (hp : s.proxies.next ≤ p.index) {o : ObjectId} {k : Nat} (hk : t.Seat (· = .proxy p) o k)
    {x : ObjectState H} (hx : s.object? o = some x) : x.subscribers.get? k = none := by
  rw [Option.eq_none_iff_forall_ne_some]
  rintro ⟨name, l⟩ hl
  obtain ⟨y, hy, hxy⟩ := h.object o x hx
  have hk' : k < x.subscribers.next := Roster.lt_next_of_get? hl
  obtain rfl : l = .proxy p := (hk.2 y hy).2 ⟨name, l⟩ ((hxy.old k hk').trans hl)
  obtain ⟨z, hz, -⟩ := (hs p).recorded o k name ⟨x, hx, hl⟩
  exact Nat.not_lt.2 hp (Roster.lt_next_of_get? hz)

theorem detach (h : s.Beside t) (hs : ∀ p, s.Ledger p) {p : ProxyId}
    (hp : s.proxies.next ≤ p.index) (ht : t.Ledger p) : s.Beside (t.detach p) := by
  unfold Store.detach
  split
  · exact h
  · next x hx =>
    refine (h.unsubscribeAll fun w hw y hy => ?_).modifyProxy hp _
    exact h.get?_eq_none hs hp (ht.genuine x hx w hw) hy

theorem silence (h : s.Beside t) {v : ValidatorId} (hv : s.validators.next ≤ v.index) :
    s.Beside (t.silence v) := by
  unfold Store.silence
  split
  · exact h
  · next x hx =>
    refine (h.unlistenAll (h.notes v x hv hx)).modifyValidator hv fun y _ w hw => ?_
    cases hw

/-- An entity that is not there of old goes. -/
theorem drop (h : s.Beside t) (hs : ∀ p, s.Ledger p) (ht : ∀ p, t.Ledger p) {e : Entity}
    (hn : ¬ s.Alive e) (he : t.Alive e) : s.Beside (t.drop e) := by
  cases e with
  | object o =>
    refine { h with object := fun o' x hx => ?_, objects := h.objects }
    obtain ⟨y, hy, hxy⟩ := h.object o' x hx
    refine ⟨y, ?_, hxy⟩
    have ho : o' ≠ o := by
      rintro rfl
      exact hn (lives_iff.2 ⟨x, hx⟩)
    simpa only [Store.drop, object?, Roster.get?_remove, ObjectId.index_inj, if_neg ho] using hy
  | proxy p =>
    have hp : s.proxies.next ≤ p.index := Nat.le_of_not_lt fun hp => hn (by
      rwa [Alive, ← h.proxy p hp])
    have hd := h.detach hs hp (ht p)
    refine { hd with proxy := fun q hq => ?_ }
    have hq' : q ≠ p := fun e => Nat.not_lt.2 hp (e ▸ hq)
    rw [← hd.proxy q hq]
    simp only [Store.drop, proxy?, Roster.get?_remove, ProxyId.index_inj, if_neg hq']
  | validator v =>
    have hv : s.validators.next ≤ v.index := Nat.le_of_not_lt fun hv => hn (by
      rwa [Alive, ← h.validator v hv])
    have hd := h.silence hv
    refine { hd with validator := fun w hw => ?_, notes := fun w y hw hy => ?_ }
    · have hw' : w ≠ v := fun e => Nat.not_lt.2 hv (e ▸ hw)
      rw [← hd.validator w hw]
      simp only [Store.drop, validator?, Roster.get?_remove, ValidatorId.index_inj, if_neg hw']
    · simp only [Store.drop, validator?, Roster.get?_remove] at hy
      split at hy
      · cases hy
      · exact hd.notes w y hw hy
  | form f =>
    refine absurd ?_ hn
    rwa [Alive, form?, ← h.forms]

/-- What is held by old entities is held by them still. -/
theorem refers (h : s.Beside t) {e : Entity} (he : s.Refers e) : t.Refers e := by
  rcases he with ⟨o, x, hx, he⟩ | ⟨p, x, hx, he⟩ | ⟨v, x, hx, he⟩ | ⟨f, x, hx, he⟩
  · obtain ⟨y, hy, hxy⟩ := h.object o x hx
    refine Or.inl ⟨o, y, hy, ?_⟩
    rwa [ObjectState.entities, hxy.properties]
  · exact Or.inr (Or.inl ⟨p, x, by rwa [h.proxy p (Roster.lt_next_of_get? hx)], he⟩)
  · exact Or.inr (Or.inr (Or.inl ⟨v, x, by rwa [h.validator v (Roster.lt_next_of_get? hx)], he⟩))
  · exact Or.inr (Or.inr (Or.inr ⟨f, x, by rwa [form?, h.forms], he⟩))

end Beside

/-- The objects of a store have the same properties and the same subscribers in the same order as in
    another one, and there are the same proxies, validators and forms. -/
structure Same (s t : Store H) : Prop where
  object : ∀ o x, s.object? o = some x → ∃ y, t.object? o = some y ∧ y.typeName = x.typeName ∧
    y.properties = x.properties ∧ y.subscribers.entries = x.subscribers.entries
  proxies : t.proxies.entries = s.proxies.entries
  validators : t.validators.entries = s.validators.entries
  forms : t.forms = s.forms

end Store

namespace Session

open Situation

variable {g : Engine} {s t : Session}

/-- To sweep takes away only what is new, where all that is old is held. -/
theorem beside_sweepUpTo {ev : Evaluator} (h : s.situation.Sound ev) (hc : s.Clean) (n : Nat)
    {u : Store Script} (hu : s.store.Beside u)
    (hs : Situation.Sound ev ⟨u, s.situation.tasks, s.situation.held⟩) :
    s.store.Beside (u.sweepUpTo s.held n) := by
  induction n generalizing u with
  | zero => exact hu
  | succ n ih =>
    rw [Store.sweepUpTo]
    split
    · exact hu
    · next e he =>
      have hn : e ∉ s.held ++ u.references := by simpa using List.find?_some he
      rw [List.mem_append, Store.mem_references_iff] at hn
      have ha : u.Alive e := Store.mem_entities_iff.1 (List.mem_of_find?_eq_some he)
      have new : ¬ s.store.Alive e := fun ho => hn ((hc e ho).imp_right hu.refers)
      have loose : ¬ Keeps ⟨u, s.situation.tasks, s.situation.held⟩ e :=
        fun hk => hn ((keeps_situation (s := s.withStore u)).1 hk)
      exact ih (hu.drop h.ledger hs.ledger new ha) (hs.step (.drop e loose))

/-- A session is as another one: its store is the same, nothing more is to be done, and no handler has
    been told of anything. -/
structure Unchanged (s t : Session) : Prop extends s.store.Same t.store where
  agenda : t.agenda = s.agenda
  log : t.log = s.log

section

variable {u : Store Script} (h : s.Sound) (hu : s.store.Beside u)
  (hc : ∀ e, u.Alive e → e ∈ s.held ∨ u.Refers e)

include h hu hc

/-- A validator that is held in the end was there before. -/
theorem validator_of_beside {v : ValidatorId} (hv : u.Alive (.validator v)) :
    s.store.Alive (.validator v) := by
  rcases hc _ hv with hv | ⟨o, x, -, hv⟩ | ⟨p, x, -, hv⟩ | ⟨w, x, -, hv⟩ | ⟨f, x, hx, hv⟩
  · exact h.alive hv
  · simp [ObjectState.entities, Value.entities] at hv
  · cases hs : x.source <;> simp [ProxyState.entities, Value.entities, hs] at hv
  · simp [ValidatorState.entities] at hv
  · rw [Store.form?, hu.forms] at hx
    exact h.situation.alive _ (Or.inr (Or.inr (Or.inr (Or.inr (Or.inr ⟨f, x, hx, hv⟩)))))

/-- A proxy that is held in the end was there before. -/
theorem proxy_of_beside {p : ProxyId} (hp : u.Alive (.proxy p)) : s.store.Alive (.proxy p) := by
  rcases hc _ hp with hp | ⟨o, x, -, hp⟩ | ⟨q, x, -, hp⟩ | ⟨v, x, hx, hp⟩ | ⟨f, x, hx, hp⟩
  · exact h.alive hp
  · simp [ObjectState.entities, Value.entities] at hp
  · cases hs : x.source <;> simp [ProxyState.entities, Value.entities, hs] at hp
  · have hv : s.store.Alive (.validator v) :=
      validator_of_beside h hu hc (Option.isSome_iff_exists.2 ⟨x, hx⟩)
    obtain ⟨y, hy⟩ := Option.isSome_iff_exists.1 hv
    rw [hu.validator v (Roster.lt_next_of_get? hy)] at hx
    exact h.situation.alive _ (Or.inr (Or.inr (Or.inr (Or.inr (Or.inl ⟨v, x, hx, hp⟩)))))
  · rw [Store.form?, hu.forms] at hx
    exact h.situation.alive _ (Or.inr (Or.inr (Or.inr (Or.inr (Or.inr ⟨f, x, hx, hp⟩)))))

theorem proxies_of_beside : u.proxies.entries = s.store.proxies.entries := by
  refine Roster.entries_congr fun n => ?_
  by_cases hn : n < s.store.proxies.next
  · exact hu.proxy ⟨n⟩ hn
  · have hs : s.store.proxy? ⟨n⟩ = none := by
      rw [Option.eq_none_iff_forall_ne_some]
      exact fun x hx => hn (Roster.lt_next_of_get? hx)
    refine Eq.trans (b := none) (?_ : u.proxy? ⟨n⟩ = none) hs.symm
    rw [Option.eq_none_iff_forall_ne_some]
    intro x hx
    have hp := proxy_of_beside h hu hc (p := ⟨n⟩) (Option.isSome_iff_exists.2 ⟨x, hx⟩)
    rw [Store.Alive, hs] at hp
    cases hp

theorem validators_of_beside : u.validators.entries = s.store.validators.entries := by
  refine Roster.entries_congr fun n => ?_
  by_cases hn : n < s.store.validators.next
  · exact hu.validator ⟨n⟩ hn
  · have hs : s.store.validator? ⟨n⟩ = none := by
      rw [Option.eq_none_iff_forall_ne_some]
      exact fun x hx => hn (Roster.lt_next_of_get? hx)
    refine Eq.trans (b := none) (?_ : u.validator? ⟨n⟩ = none) hs.symm
    rw [Option.eq_none_iff_forall_ne_some]
    intro x hx
    have hv := validator_of_beside h hu hc (v := ⟨n⟩) (Option.isSome_iff_exists.2 ⟨x, hx⟩)
    rw [Store.Alive, hs] at hv
    cases hv

/-- Whoever has subscribed meanwhile is gone with its subscriptions. -/
theorem subscribers_of_beside (hl : ∀ p, u.Ledger p) {o : ObjectId} {x y : ObjectState Script}
    (hy : u.object? o = some y) (hxy : x.Beside s.store.proxies.next y) :
    y.subscribers.entries = x.subscribers.entries := by
  refine Roster.entries_congr fun k => ?_
  by_cases hk : k < x.subscribers.next
  · exact hxy.old k hk
  · have hx : x.subscribers.get? k = none := by
      rw [Option.eq_none_iff_forall_ne_some]
      exact fun e he => hk (Roster.lt_next_of_get? he)
    rw [hx, Option.eq_none_iff_forall_ne_some]
    rintro ⟨name, l⟩ he
    obtain ⟨p, hp, hn⟩ := hxy.new k _ (Nat.le_of_not_lt hk) he
    obtain rfl : l = .proxy p := hp
    obtain ⟨z, hz, -⟩ := (hl p).recorded o k name ⟨y, hy, he⟩
    have hp := proxy_of_beside h hu hc (p := p) (Option.isSome_iff_exists.2 ⟨z, hz⟩)
    obtain ⟨z, hz⟩ := Option.isSome_iff_exists.1 hp
    exact Nat.not_lt.2 hn (Roster.lt_next_of_get? hz)

end

/-- A form that fails leaves nothing behind. -/
theorem Sound.same_of_beside (h : s.Sound) (hc : s.Clean) {u : Store Script}
    (hu : s.store.Beside u)
    (hs : Situation.Sound s.engine.evaluator ⟨u, s.situation.tasks, s.situation.held⟩) :
    s.store.Same (u.sweep s.held) := by
  have hb : s.store.Beside (u.sweep s.held) := beside_sweepUpTo h.situation hc _ hu hs
  have hl : ∀ p, (u.sweep s.held).Ledger p := by
    refine (hs.steps (steps_sweepUpTo ?_ _ u)).ledger
    exact fun u e hk => (keeps_situation (s := s.withStore u)).1 hk
  have hg : ∀ e, (u.sweep s.held).Alive e → e ∈ s.held ∨ (u.sweep s.held).Refers e :=
    Store.garbage?_eq_none_iff.1 (Store.garbage?_sweep u s.held)
  refine ⟨?_, proxies_of_beside h hb hg, validators_of_beside h hb hg, hb.forms⟩
  intro o x hx
  obtain ⟨y, hy, hxy⟩ := hb.object o x hx
  exact ⟨y, hy, hxy.typeName, hxy.properties, subscribers_of_beside h hb hg hl hy hxy⟩

section

variable {b : Binding} {ds : List FieldDefinition} {text : String} {e : FormError}
  {w : Workspace Script}

theorem Reachable.same_of_compile_error (h : Reachable g s) (hb : s.store.Knows b)
    (he : s.workspace.compile b ds = (.error e, w)) : s.store.Same (w.store.sweep s.held) := by
  have failed : (s.workspace.compile b ds).1 = .error e := by rw [he]
  have hw := Workspace.compile_error_keeps (Store.Beside.kept s.store b) (.refl _) failed
  have hg := (s.workspace.compile_spec ds h.sound.situation hb).2.1
  rw [he] at hw hg
  exact h.sound.same_of_beside h.clean hw (hg.sound h.sound.situation)

theorem Reachable.same_of_compileText_error (h : Reachable g s) (hb : s.store.Knows b)
    (he : s.workspace.compileText b text = (.error e, w)) :
    s.store.Same (w.store.sweep s.held) := by
  unfold Workspace.compileText at he
  split at he
  · cases he
    exact h.sound.same_of_beside h.clean (.refl _) h.sound.situation
  · exact h.same_of_compile_error hb he

/-- When the making of a form ends with an error, at whatever point, then every object has the same
    properties and the same subscribers in the same order as before, nobody has been told of anything,
    and there is no proxy and no validator but those of before. Custom filters are taken to be pure and
    to make no objects, as `Filter` has them. -/
theorem Reachable.unchanged_of_compile_error (h : Reachable g s) (hb : s.store.Knows b)
    (he : s.workspace.compile b ds = (.error e, w) ∨
      s.workspace.compileText b text = (.error e, w)) :
    s.Unchanged ({ s with workspace := w } : Session).sweep := by
  rcases he with he | he
  · exact ⟨h.same_of_compile_error hb he, rfl, rfl⟩
  · exact ⟨h.same_of_compileText_error hb he, rfl, rfl⟩

end

/-- Definitions of a field with a label and a rule with an argument and a message, and of a second
    field of the same key. -/
def doubledField : List FieldDefinition := [
  { key := "n", name := some "\x7bBinding n\x7d of \x7bBinding child.n\x7d", tooltip := none,
    isVisible := none, isEnabled := none, hiddenOnFalse := false,
    validators := [{
      comparator := "LessThan", argument := some (.value (.object [("limit", .integer 3)])),
      isEnforced := some "\x7bBinding child.n\x7d", message := some "not below \x7bBinding n\x7d",
      nullPolicy := .skip, strict := none, converter := none, onTargetUpdated := none }] },
  { key := "n", name := none, tooltip := none, isVisible := none, isEnabled := none,
    hiddenOnFalse := false, validators := [] }]

/-- The second field fails when the first one has been made: the objects have got new subscribers by
    then, and they have none of them after the next sweep. -/
theorem unchanged_doubledField : ∃ s e w, Reachable (.ofConfiguration .testing .empty) s ∧
    s.store.Knows ⟨some ⟨0⟩, none⟩ ∧
    s.workspace.compile ⟨some ⟨0⟩, none⟩ doubledField = (.error e, w) ∧
    s.store.subscribersOf ⟨0⟩ "n" = [1, 2] ∧ w.store.subscribersOf ⟨0⟩ "n" = [1, 2, 3, 4, 7] ∧
    s.store.validators.size = 0 ∧ w.store.validators.size = 1 ∧
    s.Unchanged ({ s with workspace := w } : Session).sweep := by
  have run : (trial (.ofConfiguration .testing .empty) 40
      [("m", [("n", .value (.integer 5)), ("child", .object "a")]),
        ("a", [("n", .value (.integer 9))])]
      [.bind "p" "\x7bBinding n\x7d" none ⟨some "m", none⟩, .observe "m" "n" (.mk "h" [])]).any
        (fun s => match s.workspace.compile ⟨some ⟨0⟩, none⟩ doubledField with
          | (.ok _, _) => false
          | (.error _, w) => decide (0 < s.store.objects.next ∧
              s.store.subscribersOf ⟨0⟩ "n" = [1, 2] ∧
              w.store.subscribersOf ⟨0⟩ "n" = [1, 2, 3, 4, 7] ∧
              s.store.validators.size = 0 ∧ w.store.validators.size = 1)) = true := by
    decide +kernel
  obtain ⟨s, hs, hp⟩ := (Option.any_eq_true _ _).1 run
  split at hp
  · cases hp
  · next e w hw =>
    obtain ⟨hn, h₁, h₂, h₃, h₄⟩ := of_decide_eq_true hp
    have h := (reachable_of_trial hs).1
    have hb : s.store.Knows ⟨some ⟨0⟩, none⟩ := by
      intro r o ho
      cases r with
      | model => cases ho; exact hn
      | context => cases ho
    exact ⟨s, e, w, h, hb, hw, h₁, h₂, h₃, h₄,
      @Reachable.unchanged_of_compile_error _ _ _ _ "" _ _ h hb (Or.inl hw)⟩

end Session

end LiveForm
