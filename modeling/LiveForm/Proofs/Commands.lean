/-
  Every command of a session leads it onward.

  * `leads_given`, `leads_ruled` and the like: what a command names is alive, and so is what is made
    for it;
  * `leads_set`, `leads_rebindForm` and the like: what a command does comes to steps;
  * `Sound.leads`: every command leads a sound session onward.
-/
import LiveForm.Proofs.Making
import LiveForm.Proofs.Standing

namespace LiveForm

open Situation

namespace Store

variable {H : Type} {s : Store H}

theorem modifyObject_id (s : Store H) (o : ObjectId) : (s.modifyObject o fun x => x) = s := by
  have h : s.objects.modify o.index (fun x => x) = s.objects := by
    have he : (s.objects.entries.map fun e => if e.1 = o.index then (o.index, e.2) else e) =
        s.objects.entries := by
      refine (List.map_congr_left fun e _ => ?_).trans (List.map_id _)
      split
      · next hn => rw [← hn]; rfl
      · rfl
    cases hs : s.objects
    rw [hs] at he
    simp only [Roster.modify, he]
  rw [modifyObject, h]

theorem touches_nothing (s : Store H) (name : String) : s.Touches name fun x => x where
  subscribers _ := rfl
  others _ _ _ := rfl
  alive _ _ hz := Or.inl hz

/-- A subscriber gets a number that is its own. -/
theorem seat_subscribe {o : ObjectId} {name : String} {l : Listener H} (h : s.Lives o) :
    (s.subscribe o name l).1.Seat (· = l) o (s.subscribe o name l).2 := by
  obtain ⟨x, hx⟩ := lives_iff.1 h
  have hy : (s.subscribe o name l).1.object? o =
      some { x with subscribers := x.subscribers.add ⟨name, l⟩ } := by
    rw [subscribe, object?_modifyObject, if_pos rfl, hx, Option.map_some]
  have hk : (s.subscribe o name l).2 = x.subscribers.next := by simp only [subscribe, hx]; rfl
  refine ⟨Roster.lt_next_of_get? hy, ?_⟩
  intro y hy'
  obtain rfl := Option.some.inj (hy.symm.trans hy')
  rw [hk]
  refine ⟨Nat.lt_succ_self _, ?_⟩
  intro e he
  rw [Roster.get?_add, if_pos rfl] at he
  rw [← Option.some.inj he]

theorem Seat.mono {L L' : Listener H → Prop} {o : ObjectId} {n : Nat} (h : s.Seat L o n)
    (hL : ∀ l, L l → L' l) : s.Seat L' o n :=
  ⟨h.1, fun x hx => ⟨(h.2 x hx).1, fun e he => hL _ ((h.2 x hx).2 e he)⟩⟩

theorem Ear.mono {L L' : Listener H → Prop} {p : ProxyId} {n : Nat} (h : s.Ear L p n)
    (hL : ∀ l, L l → L' l) : s.Ear L' p n :=
  ⟨h.1, fun x hx => ⟨(h.2 x hx).1, fun l hl => hL _ ((h.2 x hx).2 l hl)⟩⟩

theorem Knows.withModel {b : Binding} (h : s.Knows b) {o : ObjectId} (ho : s.Lives o) :
    s.Knows { b with model := some o } := by
  intro r o' hr
  cases r with
  | model => cases hr; exact ho.lt_next
  | context => exact h .context o' hr

theorem Knows.withContext {b : Binding} (h : s.Knows b) {o : ObjectId} (ho : s.Lives o) :
    s.Knows { b with context := some o } := by
  intro r o' hr
  cases r with
  | model => exact h .model o' hr
  | context => cases hr; exact ho.lt_next

end Store

namespace Session

variable {s t : Session} {e : Option Occasion}

/-- What a handler is told is alive. -/
def Aware (s : Session) (e : Option Occasion) : Prop :=
  ∀ o ∈ e, ∀ z ∈ o.value.entities, s.store.Alive z

theorem Aware.extends (h : s.Aware e) (hs : s.Extends t) : t.Aware e :=
  fun o ho z hz => hs.alive z (h o ho z hz)

/-! ## What commands name -/

theorem ok_of_orMissing {α : Type} {m : Missing} {x : Option α} {a : α}
    (h : orMissing m x = .ok a) : x = some a := by
  cases x with
  | none => cases h
  | some b => cases h; rfl

theorem leads_onObject (h : s.Sound) {name : String} {f : ObjectRef → Effect}
    (hf : ∀ o, s.store.Lives o.id → (f o).Leads s) : (s.onObject name f).Leads s :=
  leads_present h fun o ho => hf o (h.object (mem_of_lookup (ok_of_orMissing ho)))

theorem leads_onProxy (h : s.Sound) {name : String} {f : ProxyId → Effect}
    (hf : ∀ p, s.store.Alive (.proxy p) → (f p).Leads s) : (s.onProxy name f).Leads s :=
  leads_present h fun p hp => hf p (h.proxy (mem_of_lookup (ok_of_orMissing hp)))

theorem leads_onValidator (h : s.Sound) {name : String} {f : ValidatorId → Effect}
    (hf : ∀ v, s.store.Alive (.validator v) → (f v).Leads s) : (s.onValidator name f).Leads s :=
  leads_present h fun v hv => hf v (h.validator (mem_of_lookup (ok_of_orMissing hv)))

theorem leads_given (h : s.Sound) (he : s.Aware e) {x : Operand} {f : Session → Value → Effect}
    (hf : ∀ t v, s.Extends t → (∀ z ∈ v.entities, t.store.Alive z) → (f t v).Leads t) :
    (s.given e x f).Leads s := by
  refine leads_present h fun ⟨u, v⟩ hx => ?_
  obtain ⟨hb, ha⟩ := resolve_spec s.store x (fun _ => h.object) he hx
  have ht := Extends.of_builds h hb
  exact leads_of_onward ht.toOnward (hf _ v ht ha)

theorem leads_givenAll (h : s.Sound) (he : s.Aware e) {xs : List Operand}
    {f : Session → List Value → Effect} (hf : ∀ t vs, s.Extends t → (f t vs).Leads t) :
    (s.givenAll e xs f).Leads s := by
  refine leads_present h fun ⟨u, vs⟩ hx => ?_
  have ht := Extends.of_builds h (resolveAll_spec s.store xs (fun _ => h.object) he hx).1
  exact leads_of_onward ht.toOnward (hf _ vs ht)

/-- The objects of a binding have names. -/
def Names (s : Session) (b : Binding) : Prop := ∀ r o, b.root r = some o → ∃ n ∈ s.objects, n.2.id = o

theorem exists_name_of_objectOf {name : Option String} {o : Option ObjectId}
    (ho : s.objectOf name = .ok o) : ∀ i ∈ o, ∃ n ∈ s.objects, n.2.id = i := by
  intro i hi
  cases name with
  | none => cases ho; cases hi
  | some name =>
    rw [objectOf] at ho
    cases hx : orMissing (.object name) (s.objects.lookup name) with
    | error m => rw [hx] at ho; cases ho
    | ok x =>
      rw [hx] at ho
      cases ho
      cases hi
      exact ⟨_, mem_of_lookup (ok_of_orMissing hx), rfl⟩

theorem names_of_objectOf {names : BindingNames} {b : Binding}
    (hm : s.objectOf names.model = .ok b.model) (hc : s.objectOf names.context = .ok b.context) :
    s.Names b := by
  intro r o ho
  cases r with
  | model => exact exists_name_of_objectOf hm o ho
  | context => exact exists_name_of_objectOf hc o ho

theorem Sound.holds (h : s.Sound) {b : Binding} (hb : s.Names b) : s.store.Holds b := by
  intro r o ho
  obtain ⟨n, hn, rfl⟩ := hb r o ho
  exact h.object hn

/-- A binding of objects that have names is known. -/
theorem Sound.knows (h : s.Sound) {b : Binding} (hb : s.Names b) : s.store.Knows b :=
  fun r o ho => (h.holds hb r o ho).lt_next

theorem leads_bound (h : s.Sound) {b : BindingNames} {f : Binding → Effect}
    (hf : ∀ b, s.store.Knows b → (f b).Leads s) : (s.bound b f).Leads s :=
  leads_present h fun model hm => leads_present h fun context hc =>
    hf ⟨model, context⟩ (h.knows (names_of_objectOf hm hc))

theorem leads_formed (h : s.Sound) {name : String} {f : FormId → FormState → Effect}
    (hf : ∀ i x, s.store.form? i = some x → (f i x).Leads s) : (s.formed name f).Leads s := by
  refine leads_present h fun ⟨i, x⟩ hx => hf i x ?_
  obtain ⟨j, hj, hx⟩ := Option.bind_eq_some_iff.1 (ok_of_orMissing hx)
  obtain ⟨y, hy, hx⟩ := Option.bind_eq_some_iff.1 hx
  cases hx
  exact hy

/-! ## Names, handlers and work -/

/-- Handlers may be taken back by their numbers. -/
theorem Extends.handlers (h : s.Sound) {observers : List (String × ObjectId × Nat)}
    {listeners : List (String × ProxyId × Nat)} {watchers : List (String × ValidatorId × Nat)}
    (ho : ∀ x ∈ observers, s.store.Seat Listener.IsHandler x.2.1 x.2.2)
    (hl : ∀ x ∈ listeners, s.store.Ear Listener.IsHandler x.2.1 x.2.2) :
    s.Extends { s with observers := observers, listeners := listeners, watchers := watchers } :=
  ⟨.of_steps h (.refl _) .refl (fun x hx => Or.inr (ho x hx)) (fun x hx => Or.inr (hl x hx))
    fun _ _ _ _ => Or.inl, fun _ => id⟩

/-- Names may be given up. -/
theorem Extends.forget (h : s.Sound) {objects : List (String × ObjectRef)}
    {proxies : List (String × ProxyId)} {validators : List (String × ValidatorId)}
    {forms : List (String × FormId)} (ho : objects ⊆ s.objects) (hp : proxies ⊆ s.proxies)
    (hv : validators ⊆ s.validators) (hf : forms ⊆ s.forms) :
    s.Extends { s with
      objects := objects, proxies := proxies, validators := validators, forms := forms } :=
  .names h (fun _ hx => h.object (ho hx)) (fun _ hx => h.proxy (hp hx))
    (fun _ hx => h.validator (hv hx)) fun _ hx => h.form (hf hx)

/-- A command that goes on and is over then. -/
theorem Extends.leads (hs : s.Extends t) {a : Answer}
    (ha : ∀ e ∈ (Reply.answer a).entities, t.store.Alive e) : (t.answering a).Leads s :=
  leads_of_onward hs.toOnward (leads_answering hs.sound ha)

theorem Extends.leads_of_empty (hs : s.Extends t) {a : Answer}
    (ha : (Reply.answer a).entities = []) : (t.answering a).Leads s :=
  leads_of_onward hs.toOnward (leads_answering_of_empty hs.sound ha)

/-- A node that is alive may be asked to recompute. -/
theorem leads_recompute (h : s.Sound) {n : Node} (hn : s.store.Alive n.entity) {r : Reply}
    (hr : ∀ e ∈ r.entities, s.store.Alive e) (hb : ∀ f b named, r ≠ .formBound f b named) :
    Effect.Leads s ⟨s, [.recompute n false], r⟩ :=
  leads_of_steps h (u := s.store) (.single (.ask n hn)) hr fun f b named e => absurd e (hb f b named)

/-! ## Objects -/

theorem leads_newObject (h : s.Sound) (he : s.Aware e) (name typeName : String)
    (ps : List (String × Operand)) : (s.newObject e name typeName ps).Leads s := by
  have hb := s.store.builds_newObject typeName
  refine leads_present h ?_
  intro u hu
  obtain ⟨hb', hl⟩ := setAll_spec hb (Nat.le_refl _) (fun n hn => hb.lives (h.object hn))
    (fun o ho z hz => hb.alive (he o ho z hz)) hu
  have ht := Extends.of_builds h hb'
  exact (ht.trans (.nameObject ht.sound name (hl _ (s.store.lives_newObject typeName)))).leads_of_empty rfl

theorem leads_newObjectOf (h : s.Sound) (name : String) (j : Json) :
    (s.carryOut e (.newObjectOf name j)).Leads s := by
  obtain ⟨hb, hl⟩ := s.store.newObjectOf_spec j
  have ht := Extends.of_builds h hb
  exact (ht.trans (.nameObject ht.sound name hl)).leads_of_empty rfl

theorem leads_set (h : s.Sound) {o : ObjectId} (ho : s.store.Lives o) (property : String) {v : Value}
    (hv : ∀ z ∈ v.entities, s.store.Alive z) : (s.set o property v).Leads s := by
  unfold Session.set
  split
  · exact leads_answering_of_empty h rfl
  · exact leads_of_steps_of_empty h (.single (.change ho (Store.touches_setProperty hv))) rfl

theorem leads_remove (h : s.Sound) {o : ObjectId} (ho : s.store.Lives o) (property : String) :
    (s.remove o property).Leads s := by
  unfold Session.remove
  split
  · exact leads_answering_of_empty h rfl
  · next v hv =>
    refine leads_of_steps h (.single (.change ho Store.touches_removeProperty)) (fun z hz => ?_) nofun
    obtain ⟨i, hi, rfl⟩ := List.mem_map.1 hz
    exact Store.alive_modifyObject.2 (h.situation.sealed.property hv i hi)

theorem leads_notify (h : s.Sound) {o : ObjectId} (ho : s.store.Lives o) (property : String) :
    Effect.Leads s ⟨s, s.announce o property, .answer .done⟩ := by
  have hs : Step s.engine.evaluator s.situation ⟨s.store.modifyObject o fun x => x,
      (s.store.modifyObject o fun x => x).roundOf (.property o property) :: s.situation.tasks,
      s.situation.held⟩ :=
    .change ho (s.store.touches_nothing property)
  rw [Store.modifyObject_id] at hs
  exact leads_of_steps_of_empty h (u := s.store) (.single hs) rfl

theorem leads_observe (h : s.Sound) {o : ObjectId} (ho : s.store.Lives o) (property : String)
    (script : Script) : (s.observe o property script).Leads s := by
  have ht : s.Extends (s.withStore (s.store.subscribe o property (.handler script)).1) :=
    .of_frame h (.subscribe fun _ _ => nofun)
  refine (ht.trans (.handlers ht.sound (fun x hx => ?_) ht.sound.listeners)).leads_of_empty rfl
  rcases mem_putName hx with hx | rfl
  · exact ht.sound.observers x hx
  · exact (Store.seat_subscribe ho).mono fun l e => e ▸ trivial

theorem leads_unobserve (h : s.Sound) (name : String) :
    (s.carryOut e (.unobserve name)).Leads s := by
  refine leads_present h fun ⟨o, n⟩ hx => ?_
  have hs := h.observers _ (mem_of_lookup (ok_of_orMissing hx))
  exact (Extends.of_frame h (.unsubscribe hs fun _ _ => id)).leads_of_empty rfl

/-! ## Templates -/

theorem leads_evaluate (h : s.Sound) (template : String) (b : Binding) :
    (s.evaluate template b).Leads s := by
  have hev := s.engine.later_template template
  unfold Session.evaluate
  split
  · next err g hg =>
    rw [hg] at hev
    exact (Extends.of_grows h (w := ⟨g, s.store⟩) hev (.refl s.situation)).leads_of_empty rfl
  · next t g hg =>
    rw [hg] at hev
    exact (Extends.of_grows h (w := ⟨(g.template template).2, s.store⟩)
      (hev.trans (g.later_template template)) (.refl s.situation)).leads_of_empty rfl

/-! ## Proxies -/

theorem leads_nameProxy (h : s.Sound) (name : String) {p : ProxyId}
    (hp : s.store.Alive (.proxy p)) : (s.nameProxy name p).Leads s :=
  (Extends.nameProxy h name hp).leads_of_empty rfl

theorem leads_bind (h : s.Sound) (name template : String) (limit : Option Nat) {b : Binding}
    (hb : s.store.Knows b) : (s.bind name template limit b).Leads s := by
  obtain ⟨he, hg, ha⟩ := s.workspace.bind_spec template
    (limit.getD s.engine.configuration.maxPasses) h.situation.toOrdered hb
  have ht := Extends.of_grows h he hg
  unfold Session.bind
  split
  · next err w hw =>
    rw [hw] at ht
    exact ht.leads_of_empty rfl
  · next p w hw =>
    rw [hw] at ht ha
    exact leads_of_onward ht.toOnward (leads_nameProxy ht.sound name (ha p rfl))

theorem leads_constant (h : s.Sound) (name : String) {v : Value}
    (hv : ∀ z ∈ v.entities, s.store.Alive z) :
    Effect.Leads s (({ s with workspace := (s.workspace.constant v).2 } : Session).nameProxy name
      (s.workspace.constant v).1) := by
  obtain ⟨hg, ha⟩ := s.workspace.constant_spec h.situation.toOrdered hv
  have ht := Extends.of_grows h (w := (s.workspace.constant v).2) (.refl _) hg
  exact leads_of_onward ht.toOnward (leads_nameProxy ht.sound name ha)

theorem knows_bindingOf (h : s.Sound) (p : ProxyId) : s.store.Knows (s.bindingOf p) := by
  unfold bindingOf
  split
  · next x hx => exact h.situation.knows _ (Or.inl ⟨p, x, hx, rfl⟩)
  · intro r o ho
    cases r <;> cases ho

/-- A proxy may be bound to other objects. -/
theorem leads_rebind (h : s.Sound) {p : ProxyId} (hp : s.store.Alive (.proxy p)) {b : Binding}
    (hb : s.store.Knows b) {named : Option ObjectId} (hn : ∀ o ∈ named, s.store.Lives o) :
    (s.rebind p b named).Leads s := by
  refine leads_of_steps h (u := s.store) (.single (.rebind (fun q hq => ?_) hb)) (fun z hz => ?_)
    nofun
  · obtain rfl := List.mem_singleton.1 hq
    exact hp
  · rcases List.mem_cons.1 hz with rfl | hz
    · exact hp
    · obtain ⟨o, ho, rfl⟩ := List.mem_map.1 hz
      exact hn o (Option.mem_toList.1 ho)

theorem Extends.unlisten (h : s.Sound) (name : String) : s.Extends (s.unlisten name) := by
  unfold Session.unlisten
  split
  · exact .refl h
  · next p n hx =>
    have hs := h.listeners _ (mem_of_lookup hx)
    have ht : s.Extends (s.withStore (s.store.unlisten p n)) :=
      .of_frame h (.unlisten hs fun _ _ => id)
    exact ht.trans (.handlers ht.sound ht.sound.observers fun x hx =>
      ht.sound.listeners x (mem_dropName hx))

theorem leads_listen (h : s.Sound) {p : ProxyId} (hp : s.store.Alive (.proxy p)) (kept : Bool)
    (script : Script) : (s.listen p kept script).Leads s := by
  have ht : s.Extends (s.withStore (s.store.listen p (.handler script)).1) :=
    .of_frame h (.listen fun _ _ => nofun)
  unfold Session.listen
  dsimp only
  split
  · have hu := Extends.unlisten ht.sound script.id
    refine ((ht.trans hu).trans (.handlers hu.sound hu.sound.observers fun x hx => ?_)).leads_of_empty rfl
    rcases mem_putName hx with hx | rfl
    · exact hu.sound.listeners x hx
    · exact ((Store.ear_listen hp).mono fun l e => e ▸ trivial).later hu.later
  · exact ht.leads_of_empty rfl

/-! ## Validation -/

/-- What a rule reads is alive. -/
theorem sourceOf_spec (h : s.Sound) (he : s.Aware e) {x : SourceNames} {p : ProxyId}
    (hx : s.sourceOf e x = .ok (t, p)) : s.Extends t ∧ t.store.Alive (.proxy p) := by
  cases x with
  | proxy name =>
    rw [sourceOf] at hx
    cases hp : orMissing (.proxy name) (s.proxies.lookup name) with
    | error m => rw [hp] at hx; cases hx
    | ok q =>
      rw [hp] at hx
      cases hx
      exact ⟨.refl h, h.proxy (mem_of_lookup (ok_of_orMissing hp))⟩
  | constant x =>
    rw [sourceOf] at hx
    split at hx
    · cases hx
    · next u v hu =>
      obtain ⟨hb, ha⟩ := resolve_spec s.store x (fun _ => h.object) he hu
      have hs := Extends.of_builds h hb
      obtain ⟨hg, hp⟩ := (s.withStore u).workspace.constant_spec hs.sound.situation.toOrdered ha
      cases hx
      exact ⟨hs.trans (.of_grows hs.sound (w := ((s.withStore u).workspace.constant v).2) (.refl _) hg), hp⟩

theorem ok_of_bind {α β : Type} {x : Except Missing α} {f : α → Except Missing β} {b : β}
    (h : (x >>= f) = .ok b) : ∃ a, x = .ok a ∧ f a = .ok b := by
  cases x with
  | error m => cases h
  | ok a => exact ⟨a, rfl, h⟩

theorem messageOf_spec (h : s.Sound) (he : s.Aware e) {x : Option (Message SourceNames)}
    {m : Message ProxyId} (hx : s.messageOf e x = .ok (t, m)) :
    s.Extends t ∧ ∀ p ∈ m.source?.toList, t.store.Alive (.proxy p) := by
  match x with
  | none =>
    cases hx
    exact ⟨.refl h, List.forall_mem_nil _⟩
  | some (.fixed text) =>
    cases hx
    exact ⟨.refl h, List.forall_mem_nil _⟩
  | some (.live source) =>
    obtain ⟨⟨u, p⟩, hu, hx⟩ := ok_of_bind hx
    obtain ⟨hs, hp⟩ := sourceOf_spec h he hu
    cases hx
    refine ⟨hs, ?_⟩
    intro q hq
    obtain rfl := List.mem_singleton.1 hq
    exact hp

theorem ruleOf_spec (h : s.Sound) (he : s.Aware e) {x : RuleNames} {r : Rule ProxyId}
    (hx : s.ruleOf e x = .ok (t, r)) :
    s.Extends t ∧ ∀ p ∈ r.sources, t.store.Alive (.proxy p) := by
  obtain ⟨⟨s₁, argument⟩, h₁, hx⟩ := ok_of_bind hx
  obtain ⟨⟨s₂, enforcement⟩, h₂, hx⟩ := ok_of_bind hx
  obtain ⟨⟨s₃, message⟩, h₃, hx⟩ := ok_of_bind hx
  obtain ⟨converter, -, hx⟩ := ok_of_bind hx
  cases hx
  obtain ⟨e₁, a₁⟩ := sourceOf_spec h he h₁
  obtain ⟨e₂, a₂⟩ := sourceOf_spec e₁.sound (he.extends e₁) h₂
  obtain ⟨e₃, a₃⟩ := messageOf_spec e₂.sound (he.extends (e₁.trans e₂)) h₃
  refine ⟨(e₁.trans e₂).trans e₃, ?_⟩
  intro p hp
  rcases List.mem_cons.1 hp with rfl | hp
  · exact e₃.alive _ (e₂.alive _ a₁)
  · rcases List.mem_cons.1 hp with rfl | hp
    · exact e₃.alive _ a₂
    · exact a₃ p hp

theorem rulesOf_spec (h : s.Sound) (he : s.Aware e) {xs : List RuleNames} {rs : List (Rule ProxyId)}
    (hx : s.rulesOf e xs = .ok (t, rs)) :
    s.Extends t ∧ ∀ p ∈ rs.flatMap Rule.sources, t.store.Alive (.proxy p) := by
  induction xs generalizing s rs with
  | nil =>
    cases hx
    exact ⟨.refl h, List.forall_mem_nil _⟩
  | cons x xs ih =>
    obtain ⟨⟨s₁, r⟩, h₁, hx⟩ := ok_of_bind hx
    obtain ⟨⟨s₂, rs'⟩, h₂, hx⟩ := ok_of_bind hx
    cases hx
    obtain ⟨e₁, a₁⟩ := ruleOf_spec h he h₁
    obtain ⟨e₂, a₂⟩ := ih e₁.sound (he.extends e₁) h₂
    refine ⟨e₁.trans e₂, ?_⟩
    intro p hp
    rcases List.mem_append.1 hp with hp | hp
    · exact e₂.alive _ (a₁ p hp)
    · exact a₂ p hp

theorem leads_ruled (h : s.Sound) (he : s.Aware e) {rules : List RuleNames}
    {f : Session → List (Rule ProxyId) → Effect}
    (hf : ∀ t rs, s.Extends t → (∀ p ∈ rs.flatMap Rule.sources, t.store.Alive (.proxy p)) →
      (f t rs).Leads t) : (s.ruled e rules f).Leads s := by
  refine leads_present h fun ⟨t, rs⟩ hx => ?_
  obtain ⟨ht, ha⟩ := rulesOf_spec h he hx
  exact leads_of_onward ht.toOnward (hf t rs ht ha)

theorem leads_nameValidator (h : s.Sound) (name : String) {v : ValidatorId}
    (hv : s.store.Alive (.validator v)) : (s.nameValidator name v).Leads s :=
  (Extends.nameValidator h name hv).leads_of_empty rfl

theorem leads_newValidator (h : s.Sound) (name : String) {field : ProxyId}
    {rules : List (Rule ProxyId)} (limit : Option Nat)
    (hp : ∀ p ∈ field :: rules.flatMap Rule.sources, s.store.Alive (.proxy p)) :
    (s.newValidator name field rules limit).Leads s := by
  obtain ⟨hg, hv⟩ := Grows.newValidator (c := s.situation) s.engine.evaluator field rules
    (limit.getD s.engine.configuration.maxPasses) hp
  have ht := Extends.withStore h hg
  exact leads_of_onward ht.toOnward (leads_nameValidator ht.sound name hv)

theorem leads_targetUpdated (h : s.Sound) {v : ValidatorId} (hv : s.store.Alive (.validator v)) :
    (s.targetUpdated v).Leads s := by
  unfold targetUpdated
  split
  · split
    · exact leads_recompute h (n := .validator v) hv nofun nofun
    · exact leads_answering_of_empty h rfl
  · exact leads_answering_of_empty h rfl

theorem Extends.unwatch (h : s.Sound) (name : String) : s.Extends (s.unwatch name) := by
  unfold Session.unwatch
  split
  · exact .refl h
  · next v n hx =>
    have ht : s.Extends (s.withStore (s.store.unwatch v n)) := .of_frame h .unwatch
    exact ht.trans (.handlers ht.sound ht.sound.observers ht.sound.listeners)

theorem leads_watch (h : s.Sound) (v : ValidatorId) (script : Script) :
    (s.watch v script).Leads s := by
  have ht : s.Extends (s.withStore (s.store.watch v (.handler script)).1) := .of_frame h .watch
  have hu := Extends.unwatch ht.sound script.id
  exact ((ht.trans hu).trans (.handlers hu.sound hu.sound.observers hu.sound.listeners)).leads_of_empty rfl

/-! ## Forms -/

theorem leads_nameForm (h : s.Sound) (name : String)
    {r : Except FormError FormId × Workspace Script} (he : s.workspace.engine.Later r.2.engine)
    (hg : (s.situation).Grows s.engine.evaluator r.2.store)
    (ha : ∀ f, r.1 = .ok f → r.2.store.Alive (.form f)) : (s.nameForm name r).Leads s := by
  have ht := Extends.of_grows h he hg
  rcases r with ⟨err | f, w⟩
  · exact ht.leads_of_empty rfl
  · have hu := ht.trans (.nameForm ht.sound name (ha f rfl))
    unfold nameForm
    dsimp only
    split
    · exact hu.leads_of_empty rfl
    · exact hu.leads_of_empty rfl

/-- What a field of a form is made of is alive. -/
theorem alive_of_field (h : s.Sound) {i : FormId} {x : FormState} (hx : s.store.form? i = some x)
    {f : Field} (hf : f ∈ x.fields) :
    s.store.Alive (.validator f.validator) ∧
      ∀ p ∈ s.store.proxiesOf f, s.store.Alive (.proxy p) := by
  have alive : ∀ e ∈ x.entities, s.store.Alive e := fun e he => h.situation.alive e
    (Or.inr (Or.inr (Or.inr (Or.inr (Or.inr ⟨i, x, hx, he⟩)))))
  have field : ∀ e ∈ Compilation.ofField f, s.store.Alive e := fun e he =>
    alive e (List.mem_flatMap.2 ⟨f, hf, he⟩)
  refine ⟨field _ (List.mem_cons_self ..), ?_⟩
  intro p hp
  rcases List.mem_append.1 hp with hp | hp
  · exact field _ (List.mem_cons_of_mem _ (List.mem_map_of_mem hp))
  · unfold Store.rulesOf at hp
    split at hp
    · next y hy => exact h.situation.watched hy p (List.mem_cons_of_mem _ hp)
    · cases hp

theorem mem_proxiesOf_of_partOf? {f : Field} {part : FieldPart} {p : ProxyId}
    (hp : s.partOf? f part = some p) : p ∈ s.store.proxiesOf f := by
  cases part with
  | nth n => exact List.mem_of_getElem? hp
  | value | visible | enabled =>
    cases hp
    exact List.mem_append_left _ (by simp [Field.ownProxies])

/-- The proxies of a form may be bound to other objects. -/
theorem leads_rebindForm (h : s.Sound) {i : FormId} {x : FormState} (hx : s.store.form? i = some x)
    {b : Binding} (hb : s.store.Knows b) {named : Option ObjectId}
    (hn : ∀ o ∈ named, s.store.Lives o) : (s.rebindForm i x b named).Leads s := by
  refine leads_of_steps h (u := s.store) (.single (.rebind (fun p hp => ?_) hb)) (fun z hz => ?_)
    fun f b' n e => by cases e; exact hb
  · obtain ⟨f, hf, hp⟩ := List.mem_flatMap.1 (List.mem_filter.1 hp).1
    exact (alive_of_field h hx hf).2 p hp
  · rcases List.mem_cons.1 hz with rfl | hz
    · exact Option.isSome_iff_exists.2 ⟨x, hx⟩
    · obtain ⟨o, ho, rfl⟩ := List.mem_map.1 hz
      exact hn o (Option.mem_toList.1 ho)

theorem knows_of_form (h : s.Sound) {i : FormId} {x : FormState} (hx : s.store.form? i = some x) :
    s.store.Knows x.binding := h.situation.knows _ (Or.inr (Or.inl ⟨i, x, hx, rfl⟩))

theorem leads_validateForm (h : s.Sound) {i : FormId} {x : FormState}
    (hx : s.store.form? i = some x) :
    Effect.Leads s ⟨s, [],
      .failing i none (x.fields.map fun field => (field.key, field.validator)) []⟩ := by
  refine leads_of_steps h (u := s.store) .refl (fun z hz => ?_) nofun
  rcases List.mem_cons.1 hz with rfl | hz
  · exact Option.isSome_iff_exists.2 ⟨x, hx⟩
  · rw [List.map_map] at hz
    obtain ⟨f, hf, rfl⟩ := List.mem_map.1 hz
    exact (alive_of_field h hx hf).1

/-- To dispose of proxies comes to steps. -/
theorem steps_disposeProxies (ev : Evaluator) (u : Store Script) (ps : List ProxyId)
    (ts : List (Task Script)) (held : List Entity) :
    Steps ev ⟨u, ts, held⟩ ⟨ps.foldl Store.disposeProxy u, ts, held⟩ := by
  induction ps generalizing u with
  | nil => exact .refl
  | cons p ps ih => exact .head (.disposeProxy p) (ih _)

theorem steps_disposeField (ev : Evaluator) (u : Store Script) (f : Field) (ts : List (Task Script))
    (held : List Entity) : Steps ev ⟨u, ts, held⟩ ⟨u.disposeField f, ts, held⟩ :=
  .head (.disposeValidator f.validator) (steps_disposeProxies ..)

theorem steps_disposeFields (ev : Evaluator) (u : Store Script) (fs : List Field)
    (ts : List (Task Script)) (held : List Entity) :
    Steps ev ⟨u, ts, held⟩ ⟨fs.foldl Store.disposeField u, ts, held⟩ := by
  induction fs generalizing u with
  | nil => exact .refl
  | cons f fs ih => exact .trans (steps_disposeField ..) (ih _)

theorem steps_disposeForm (ev : Evaluator) (u : Store Script) (i : FormId) (ts : List (Task Script))
    (held : List Entity) : Steps ev ⟨u, ts, held⟩ ⟨u.disposeForm i, ts, held⟩ := by
  unfold Store.disposeForm
  split
  · exact .refl
  · exact steps_disposeFields ..

theorem leads_fielded (h : s.Sound) {name key : String} {f : Field → Effect}
    (hf : ∀ i x y, s.store.form? i = some x → y ∈ x.fields → (f y).Leads s) :
    (s.fielded name key f).Leads s :=
  leads_formed h fun i x hx => leads_present h fun y hy =>
    hf i x y hx (List.mem_of_find?_eq_some (ok_of_orMissing hy))

/-! ## Commands -/

/-- Every command leads a sound session onward. -/
theorem Sound.leads (h : s.Sound) (he : s.Aware e) (c : Command) : (s.carryOut e c).Leads s := by
  cases c with
  | newObject name typeName ps => exact leads_newObject h he name typeName ps
  | newObjectOf name j => exact leads_newObjectOf h name j
  | set name property x =>
    exact leads_onObject h fun o ho => leads_given h he fun t v ht hv =>
      leads_set ht.sound (ht.alive (.object o.id) ho) property hv
  | remove name property => exact leads_onObject h fun o ho => leads_remove h ho property
  | notify name property => exact leads_onObject h fun o ho => leads_notify h ho property
  | get name property =>
    refine leads_onObject h fun o ho => leads_answering h fun z hz => ?_
    cases hv : s.store.property o.id property with
    | none => rw [hv] at hz; cases hz
    | some v =>
      rw [hv] at hz
      exact h.situation.alive z (Or.inr (Or.inr (Store.refers_of_property hv z hz)))
  | properties | subscriberCount => exact leads_onObject h fun o ho => leads_answering_of_empty h rfl
  | dropObject name =>
    exact (Extends.forget h (fun _ => mem_dropName) (List.Subset.refl _) (List.Subset.refl _)
      (List.Subset.refl _)).leads_of_empty rfl
  | observe name property script => exact leads_onObject h fun o ho => leads_observe h ho property script
  | unobserve name => exact leads_unobserve h name
  | evaluate template b => exact leads_bound h fun b _ => leads_evaluate h template b
  | applyFilter name x args =>
    refine leads_given h he fun t v ht _ => leads_givenAll ht.sound (he.extends ht) fun u vs hu =>
      leads_answering hu.sound ?_
    split <;> nofun
  | filters | register | statistics => exact leads_answering_of_empty h rfl
  | bind name template limit b => exact leads_bound h fun b hb => leads_bind h name template limit hb
  | constant name x => exact leads_given h he fun t v ht hv => leads_constant ht.sound name hv
  | clone name other =>
    exact leads_onProxy h fun p hp => (Extends.nameProxy h other hp).leads_of_empty rfl
  | proxy name => exact leads_onProxy h fun p hp => leads_present h fun x _ => leads_answering_of_empty h rfl
  | peek name => exact leads_onProxy h fun p hp => leads_answering_of_empty h rfl
  | refresh name =>
    refine leads_onProxy h fun p hp => leads_recompute h (n := .proxy p) hp (fun z hz => ?_) nofun
    obtain rfl := List.mem_singleton.1 hz
    exact hp
  | setModel name object =>
    exact leads_onProxy h fun p hp => leads_onObject h fun o ho =>
      leads_rebind h hp ((knows_bindingOf h p).withModel ho) fun _ hn => by cases hn; exact ho
  | setContext name object =>
    exact leads_onProxy h fun p hp => leads_onObject h fun o ho =>
      leads_rebind h hp ((knows_bindingOf h p).withContext ho) fun _ hn => by cases hn; exact ho
  | setBinding name b =>
    exact leads_onProxy h fun p hp => leads_bound h fun b hb => leads_rebind h hp hb nofun
  | dispose name =>
    exact leads_onProxy h fun p hp => leads_of_steps_of_empty h (.single (.disposeProxy p)) rfl
  | dropProxy name =>
    exact (Extends.forget h (List.Subset.refl _) (fun _ => mem_dropName) (List.Subset.refl _)
      (List.Subset.refl _)).leads_of_empty rfl
  | listen name kept script => exact leads_onProxy h fun p hp => leads_listen h hp kept script
  | unlisten name => exact (Extends.unlisten h name).leads_of_empty rfl
  | debug subject => exact leads_present h fun text _ => leads_answering_of_empty h rfl
  | judge rules values =>
    exact leads_ruled h he fun t rs ht _ => leads_givenAll ht.sound (he.extends ht) fun u vs hu =>
      leads_answering_of_empty hu.sound rfl
  | newValidator name field rules limit =>
    refine leads_onProxy h fun p hp => leads_ruled h he fun t rs ht hr =>
      leads_newValidator ht.sound name limit fun q hq => ?_
    rcases List.mem_cons.1 hq with rfl | hq
    · exact ht.alive _ hp
    · exact hr q hq
  | validator name =>
    exact leads_onValidator h fun v hv => leads_present h fun x _ => leads_answering_of_empty h rfl
  | validate name =>
    refine leads_onValidator h fun v hv =>
      leads_recompute h (n := .validator v) hv (fun z hz => ?_) nofun
    obtain rfl := List.mem_singleton.1 hz
    exact hv
  | targetUpdated name => exact leads_onValidator h fun v hv => leads_targetUpdated h hv
  | disposeValidator name =>
    exact leads_onValidator h fun v hv => leads_of_steps_of_empty h (.single (.disposeValidator v)) rfl
  | dropValidator name =>
    exact (Extends.forget h (List.Subset.refl _) (List.Subset.refl _) (fun _ => mem_dropName)
      (List.Subset.refl _)).leads_of_empty rfl
  | watch name script => exact leads_onValidator h fun v hv => leads_watch h v script
  | unwatch name => exact (Extends.unwatch h name).leads_of_empty rfl
  | compile name definitions b =>
    refine leads_bound h fun b hb => ?_
    obtain ⟨he, hg, ha⟩ := s.workspace.compileText_spec definitions h.situation hb
    exact leads_nameForm h name he hg ha
  | compileFields name ds b =>
    refine leads_bound h fun b hb => ?_
    obtain ⟨he, hg, ha⟩ := s.workspace.compile_spec ds h.situation hb
    exact leads_nameForm h name he hg ha
  | field | fields => exact leads_answering_of_empty h rfl
  | validateForm name => exact leads_formed h fun i x hx => leads_validateForm h hx
  | setFormModel name object =>
    exact leads_formed h fun i x hx => leads_onObject h fun o ho =>
      leads_rebindForm h hx ((knows_of_form h hx).withModel ho) fun _ hn => by cases hn; exact ho
  | setFormContext name object =>
    exact leads_formed h fun i x hx => leads_onObject h fun o ho =>
      leads_rebindForm h hx ((knows_of_form h hx).withContext ho) fun _ hn => by cases hn; exact ho
  | setFormBinding name b =>
    exact leads_formed h fun i x hx => leads_bound h fun b hb => leads_rebindForm h hx hb nofun
  | disposeForm name =>
    exact leads_formed h fun i x hx => leads_of_steps_of_empty h (steps_disposeForm ..) rfl
  | dropForm name =>
    exact (Extends.forget h (List.Subset.refl _) (List.Subset.refl _) (List.Subset.refl _)
      fun _ => mem_dropName).leads_of_empty rfl
  | takeProxy name key part proxy =>
    refine leads_fielded h fun i x y hx hy => leads_present h fun p hp => leads_nameProxy h proxy ?_
    exact (alive_of_field h hx hy).2 p (mem_proxiesOf_of_partOf? (ok_of_orMissing hp))
  | takeValidator name key validator =>
    exact leads_fielded h fun i x y hx hy => leads_nameValidator h validator (alive_of_field h hx hy).1

end Session

end LiveForm
