/-
  Handlers that observe and do not write.

  A handler may look at all that there is, ask nodes to recompute and make new ones, and change nothing
  that was there before. Where all handlers are of this kind, nothing that a command leads to changes the
  properties of an object, binds a proxy to other objects or disposes of a node, unless the command
  itself does.

  * `Command.writes` and `Script.writes`: what a handler must not do;
  * `Session.Observing`: no handler writes; `Observing.step` and `Observing.initiated`: it stays so as
    long as the caller installs no other handlers;
  * `Observing.turn`: what a step then comes to;
  * `Store.Consents`, `Turn.consents`, `Turn.proxy?` and `Turn.validator?`: what it leaves alone.
-/
import LiveForm.Proofs.Staging

namespace LiveForm

/-! ## Commands and handlers -/

mutual

/-- A command writes, or installs a handler that does. -/
def Command.writes : Command → Bool
  | .newObject .. | .newObjectOf .. | .set .. | .remove .. | .dropObject .. | .setModel ..
  | .setContext .. | .setBinding .. | .setFormModel .. | .setFormContext .. | .setFormBinding ..
  | .dispose .. | .disposeValidator .. | .disposeForm .. => true
  | .observe _ _ x | .listen _ _ x | .watch _ x => x.writes
  | _ => false

/-- A handler writes. -/
def Script.writes : Script → Bool
  | .mk _ actions => Action.anyWrites actions

def Action.writes : Action → Bool
  | .when _ c => c.writes

def Action.anyWrites : List Action → Bool
  | [] => false
  | a :: rest => a.writes || Action.anyWrites rest

end

/-- A command of the caller installs no handler that writes. -/
def Command.Observes : Command → Prop
  | .observe _ _ x | .listen _ _ x | .watch _ x => x.writes = false
  | _ => True

/-- A listener is a node, or a handler that does not write. -/
def Listener.Observes : Listener Script → Prop
  | .handler x => x.writes = false
  | _ => True

/-- Nothing may be written. -/
def Licence.observing : Licence Script := ⟨False, fun _ => False, fun x => x.writes = false⟩

/-- Everything may be written, with certain values only, and no handler that writes may be
    installed. -/
def Licence.writing (puts : Value → Prop) : Licence Script := ⟨True, puts, fun x => x.writes = false⟩

theorem Command.isAllowed_observing {c : Command} (h : c.writes = false) :
    c.IsAllowed .observing := by
  cases c with
  | observe | listen | watch => exact h
  | newObject | newObjectOf | set | remove | dropObject | setModel | setContext | setBinding
  | setFormModel | setFormContext | setFormBinding | dispose | disposeValidator | disposeForm => cases h
  | _ => trivial

theorem Command.Observes.isAllowed {c : Command} (h : c.Observes) (puts : Value → Prop) :
    c.IsAllowed (.writing puts) := by
  cases c with
  | observe | listen | watch => exact h
  | _ => trivial

theorem Command.Observes.of_not_writes {c : Command} (h : c.writes = false) : c.Observes := by
  cases c with
  | observe | listen | watch => exact h
  | _ => trivial

theorem Action.writes_of_anyWrites {actions : List Action} (h : anyWrites actions = false) :
    ∀ a ∈ actions, a.command.writes = false := by
  induction actions with
  | nil => exact List.forall_mem_nil _
  | cons a rest ih =>
    obtain ⟨ha, hr⟩ := Bool.or_eq_false_iff.1 h
    refine List.forall_mem_cons.2 ⟨?_, ih hr⟩
    cases a
    exact ha

/-- What a handler does that does not write may be done where nothing may be written. -/
theorem Licence.closed_observing : Licence.observing.Closed where
  actions x hx a ha := by
    cases x with
    | mk id actions => exact Command.isAllowed_observing (Action.writes_of_anyWrites hx a ha)
  puts hw := hw.elim

/-! ## Stores -/

namespace Store

variable {L : Licence Script} {s u : Store Script}

/-- No handler writes. -/
abbrev Observed (s : Store Script) : Prop := s.All (heard Listener.Observes Listener.Observes)

theorem stable_observed (hL : ∀ x, L.installs x → x.writes = false) :
    (heard Listener.Observes Listener.Observes).Stable L :=
  stable_heard (fun x hx => ⟨hL x hx, hL x hx⟩) (fun _ => trivial) fun _ => trivial

theorem Observed.listener? (h : s.Observed) {e : Event} {k : Nat} {l : Listener Script}
    (hl : s.listener? e k = some l) : l.Observes := by
  cases e with
  | property o name =>
    obtain ⟨x, hx, hl⟩ := Option.bind_eq_some_iff.1 hl
    obtain ⟨y, hy, hl⟩ := Option.bind_eq_some_iff.1 hl
    cases hl
    exact h.object o x hx k y hy
  | value p v =>
    obtain ⟨x, hx, hl⟩ := Option.bind_eq_some_iff.1 hl
    exact h.proxy p x hx k l hl
  | result v r =>
    obtain ⟨x, hx, hl⟩ := Option.bind_eq_some_iff.1 hl
    exact h.validator v x hx k l hl

end Store

/-- Tasks that follow call no handler that writes. -/
theorem Task.Performs.within {ev : Evaluator} {s u : Store Script} {tk : Task Script}
    {new : List (Task Script)} (h : tk.Performs ev s u new) (hs : s.Observed) :
    ∀ tk' ∈ new, (Work.task tk').Within .observing := by
  cases h with
  | @tell e k ks l hl =>
    refine List.forall_mem_cons.2 ⟨?_, List.forall_mem_cons.2 ⟨trivial, List.forall_mem_nil _⟩⟩
    cases l with
    | handler x => exact hs.listener? hl
    | proxy | validator => trivial
  | request | judge => split <;> simp [Work.Within, Store.roundOf]
  | _ => simp [Work.Within, Store.roundOf]

/-! ## Sessions -/

namespace Session

variable {s t : Session}

/-- No handler writes, whether it may still be called or has been. -/
structure Observing (s : Session) : Prop where
  store : s.store.Observed
  agenda : ∀ w ∈ s.agenda, w.Within .observing

namespace Observing

/-- A step writes nothing. -/
theorem turn (h : s.Observing) : s.Turn .observing s.step :=
  turn_step Licence.closed_observing fun w hw => h.agenda w (List.mem_of_head? hw)

theorem step (h : s.Observing) : s.step.Observing := by
  refine ⟨h.turn.all (Store.stable_observed fun _ => id) (Store.ofListeners_heard ..) h.store, ?_⟩
  cases h.turn with
  | @perform tk rest hs inner ht hu hn =>
    rw [ht]
    refine List.forall_mem_append.2 ⟨List.forall_mem_map.2 ?_, fun w hw => h.agenda w ?_⟩
    · exact (tk.performs s.engine.evaluator s.store).within h.store
    · exact hs ▸ List.mem_cons_of_mem _ hw
  | ask hs hp outer ht hw hu hn =>
    rw [ht]
    refine List.forall_mem_append.2 ⟨fun w hm => (hw w hm).2.1, fun w hm => h.agenda w ?_⟩
    exact hs ▸ List.mem_append_right _ hm

/-- The caller may write and install handlers that do not. -/
theorem initiated (h : s.Observing) (idle : s.agenda = []) {c : Command} (hc : c.Observes) :
    (s.initiated c).Observing := by
  obtain ⟨ts, r, ht, hts, hu, -⟩ := start_spec (L := .writing fun _ => True)
    ({ s with log := [], answer := none } : Session) none (hc.isAllowed _)
    (fun _ _ _ _ _ _ _ => trivial) none
  refine ⟨h.store.changes (Store.stable_observed fun _ => id) hu, ?_⟩
  show ∀ w ∈ (Session.start _ none c none).sweep.agenda, _
  rw [ht]
  refine List.forall_mem_append.2 ⟨List.forall_mem_map.2 fun tk htk => (hts tk htk).1.within _, ?_⟩
  refine List.forall_mem_cons.2 ⟨trivial, ?_⟩
  show ∀ w ∈ s.agenda, _
  rw [idle]
  exact List.forall_mem_nil _

end Observing

/-- There are no handlers in the beginning. -/
theorem observed_withObjects {g : Engine} {objects : List (String × List (String × Operand))}
    (h : (ofEngine g).withObjects objects = .ok s) : s.store.Observed := by
  obtain ⟨u, hu, rfl⟩ := introduces_withObjects h
  refine Store.All.changes (Store.stable_observed (L := .observing) fun _ => id) ?_
    (u.store.changes_sweep u.held)
  refine ⟨Nat.zero_le _, fun o x hx k e he => ?_, Nat.zero_le _, fun p x hx => ?_, Nat.zero_le _,
    fun v x hx => ?_⟩
  · rw [(hu.builds.fresh o x (Nat.zero_le _) hx).1] at he
    cases he
  · rw [Store.proxy?, hu.builds.proxies] at hx
    cases hx
  · rw [Store.validator?, hu.builds.validators] at hx
    cases hx

end Session

/-! ## What a step leaves alone -/

namespace Store

variable {H : Type} {L : Licence H} {s t u : Store H}

/-- Objects that are alive in two stores have the same properties in both. -/
def Consents (s t : Store H) : Prop := ∀ o, s.Lives o → t.Lives o → t.contents o = s.contents o

/-- Who may not write leaves the properties of objects alone. -/
theorem Spares.consents (h : s.Spares L t) (hw : ¬ L.writes) : s.Consents t := by
  intro o hs ht
  obtain ⟨y, hy⟩ := lives_iff.1 ht
  rcases h.object o y hy with ⟨x, hx, hxy⟩ | ho
  · rw [contents, contents, hx, hy, Option.map_some, Option.map_some, hxy hw]
  · exact absurd hs.lt_next (Nat.not_lt.2 ho)

theorem Consents.property (h : s.Consents t) {o : ObjectId} (hs : s.Lives o) (ht : t.Lives o)
    (name : String) : t.property o name = s.property o name := by
  rw [property_eq, property_eq, h o hs ht]

/-- What is worked out from objects that stay alive is the same in both stores. -/
theorem Consents.watchesOf (h : s.Consents t) (hs : s.Sealed) (ht : t.Sealed) {x : ProxyState H}
    (hb : s.Holds x.binding) (hb' : t.Holds x.binding) : t.watchesOf x = s.watchesOf x ∧
      t.sourceValue x.binding x.source = s.sourceValue x.binding x.source := by
  refine watchesOf_agree hb hb' fun z hz => ?_
  -- the way along a path leads from objects that are alive in both stores to such objects
  have both : s.Lives z.1 ∧ t.Lives z.1 := by
    refine watchesOf_closed (P := fun o => s.Lives o ∧ t.Lives o) (fun o name r ho hr => ?_)
      (fun r o ho => ⟨hb r o ho, hb' r o ho⟩) z hz
    have hr' := (h.property ho.1 ho.2 name).trans hr
    exact ⟨hs.property hr _ (by simp [Value.objects]), ht.property hr' _ (by simp [Value.objects])⟩
  exact h.property both.1 both.2 z.2

theorem Consents.sourceValue (h : s.Consents t) (hs : s.Sealed) (ht : t.Sealed)
    {b : Binding} (hb : s.Holds b) (hb' : t.Holds b) (source : ProxySource) :
    t.sourceValue b source = s.sourceValue b source :=
  (h.watchesOf hs ht (x := .fresh source b .null 0) hb hb').2

/-- A validator of proxies that are left goes on showing what it should. -/
theorem Spares.fresh_validator (h : s.Spares L t) {ev : Evaluator} {v : ValidatorId}
    {x : ValidatorState H} (hx : s.validator? v = some x)
    (hw : ∀ q ∈ x.watched, (s.proxy? q).isSome ∧ (t.proxy? q).isSome)
    (hf : s.Fresh ev (.validator v)) : t.Fresh ev (.validator v) := by
  intro y hy
  rcases h.validator v y hy with ⟨x', hx', hxy⟩ | ⟨hv, -⟩
  · obtain rfl := Option.some.inj (hx.symm.trans hx')
    rw [hxy.result, hxy.field, hxy.rules, hf x hx]
    refine (validate_congr ev fun q hq => ?_).symm
    obtain ⟨hs, ht⟩ := hw q hq
    obtain ⟨z, hz⟩ := Option.isSome_iff_exists.1 ht
    rcases h.proxy q z hz with ⟨z', hz', hzz⟩ | ⟨hq, -⟩
    · rw [valueOf_eq hz, valueOf_eq hz', hzz.cached]
    · obtain ⟨z', hz'⟩ := Option.isSome_iff_exists.1 hs
      exact absurd (Roster.lt_next_of_get? hz') (Nat.not_lt.2 hq)
  · exact absurd (Roster.lt_next_of_get? hx) (Nat.not_lt.2 hv)

end Store

namespace Situation

variable {H : Type} {ev : Evaluator} {s u : Store H} {tk : Task H} {new ts : List (Task H)}
  {held : List Entity}

/-- To perform a task gives a proxy other objects if it is to be bound to them, and changes its value
    if it is a pass of the proxy. -/
theorem Ordered.proxy_perform (ho : Ordered ⟨s, tk :: ts, held⟩) (hp : tk.Performs ev s u new)
    {q : ProxyId} {x : ProxyState H} (hx : s.proxy? q = some x) :
    ∃ y, u.proxy? q = some y ∧ y.source = x.source ∧ y.disposed = x.disposed ∧
      (y.binding = x.binding ∨ ∃ b ps, tk = .rebind b (q :: ps) ∧ y.binding = b) ∧
      (y.cached = x.cached ∨ y.cached = s.sourceValue x.binding x.source) := by
  by_cases hk : tk.subject? = some (.proxy q)
  · cases hp with
    | close | tell | miss | heed | request | refuse | judge | again | extra | stop | stopExtra | gone
    | goneExtra | bound => cases hk
    | ignore | keep | pass => exact ⟨x, hx, rfl, rfl, Or.inl rfl, Or.inl rfl⟩
    | @follow p x' e hx' hd =>
      cases hk
      obtain rfl := Option.some.inj (hx.symm.trans hx')
      obtain ⟨-, ws, hy, -⟩ := Store.follow_spec (r := none) hx hd ho.sealed (ho.ledger q)
      exact ⟨_, hy, rfl, rfl, Or.inl rfl, Or.inl rfl⟩
    | @update p x' v force hx' hd hv =>
      cases hk
      obtain rfl := Option.some.inj (hx.symm.trans hx')
      exact ⟨_, Store.proxy?_modifyProxy_self hx _, rfl, rfl, Or.inl rfl, Or.inr hv⟩
    | @bind b p ps x' hx' hd =>
      cases hk
      obtain rfl := Option.some.inj (hx.symm.trans hx')
      obtain ⟨ws, hy, -⟩ := Store.bindProxy_spec hx hd ho.sealed (ho.ledger q).toNoted b
      exact ⟨_, hy, rfl, rfl, Or.inr ⟨b, ps, rfl, rfl⟩, Or.inl rfl⟩
  · obtain ⟨r, hf⟩ := ho.frame_perform hp
    obtain ⟨y, hy, e⟩ := exists_of_map_eq (hf.proxy q hk).symm hx
    obtain ⟨hs, hb, hc, -, hd⟩ := ProxyState.core_eq_iff.1 e
    exact ⟨y, hy, hs.symm, hd.symm, Or.inl hb.symm, Or.inl hc.symm⟩

/-- To perform a task disposes of no validator. -/
theorem Ordered.validator_perform (ho : Ordered ⟨s, tk :: ts, held⟩) (hp : tk.Performs ev s u new)
    {v : ValidatorId} {x : ValidatorState H} (hx : s.validator? v = some x) :
    ∃ y, u.validator? v = some y ∧ y.field = x.field ∧ y.rules = x.rules ∧
      y.disposed = x.disposed := by
  by_cases hk : tk.subject? = some (.validator v)
  · cases hp with
    | close | tell | miss | follow | request | refuse | update | again | extra | stop | stopExtra
    | gone | goneExtra | bound | pass | bind => cases hk
    | heed | ignore | keep => exact ⟨x, hx, rfl, rfl, rfl⟩
    | judge =>
      cases hk
      exact ⟨_, Store.validator?_modifyValidator_self hx _, rfl, rfl, rfl⟩
  · obtain ⟨r, hf⟩ := ho.frame_perform hp
    obtain ⟨y, hy, e⟩ := exists_of_map_eq (hf.validator v hk).symm hx
    obtain ⟨field, rules, -, -, disposed⟩ := ValidatorState.core_eq_iff.1 e
    exact ⟨y, hy, field.symm, rules.symm, disposed.symm⟩

end Situation

namespace Session

variable {L : Licence Script} {s t : Session}

/-- A step of those who may not write leaves the properties of objects alone. -/
theorem Turn.consents (h : s.Turn L t) (hw : ¬ L.writes) (hs : s.Sound) :
    s.store.Consents t.store := by
  cases h with
  | @perform tk rest ha inner ht hu hn =>
    have ho := hs.situation.toOrdered
    rw [situation_of_task ha] at ho
    obtain ⟨r, hf⟩ := ho.frame_perform (tk.performs s.engine.evaluator s.store)
    intro o hs ht
    rw [(Store.spares_of_changes hu).consents hw o ((Store.lives_congr hf.contents).2 hs) ht,
      hf.contents]
  | ask _ _ _ _ _ hu => exact (Store.spares_of_changes hu).consents hw

/-- A step of those who may not write disposes of no proxy. It gives a proxy other objects if it is to
    be bound to them next, and changes its value only to the one that is worked out. -/
theorem Turn.proxy? (h : s.Turn L t) (hw : ¬ L.writes) (hs : s.Sound) {p : ProxyId}
    {x y : ProxyState Script} (hx : s.store.proxy? p = some x) (hy : t.store.proxy? p = some y) :
    y.source = x.source ∧ y.disposed = x.disposed ∧
      (y.binding = x.binding ∨
        ∃ b ps, s.agenda.head? = some (.task (.rebind b (p :: ps))) ∧ y.binding = b) ∧
      (y.cached = x.cached ∨
        y.cached = s.store.sourceValue x.binding x.source) := by
  have spared {u : Store Script} {z : ProxyState Script} (hu : u.Changes L t.store)
      (hz : u.proxy? p = some z) : z.Spared L y := by
    rcases (Store.spares_of_changes hu).proxy p y hy with ⟨z', hz', h⟩ | ⟨hp, -⟩
    · rwa [Option.some.inj (hz.symm.trans hz')]
    · exact absurd (Roster.lt_next_of_get? hz) (Nat.not_lt.2 hp)
  cases h with
  | @perform tk rest ha inner ht hu hn =>
    have ho := hs.situation.toOrdered
    rw [situation_of_task ha] at ho
    obtain ⟨z, hz, source, disposed, binding, cached⟩ :=
      ho.proxy_perform (tk.performs s.engine.evaluator s.store) hx
    have h := spared hu hz
    refine ⟨h.source.trans source, (h.kept hw).trans disposed, ?_, ?_⟩
    · rw [h.binding, ha]
      exact binding.imp_right fun ⟨b, ps, hk, hb⟩ => ⟨b, ps, by rw [hk]; rfl, hb⟩
    · rwa [h.cached]
  | ask _ _ _ _ _ hu =>
    have h := spared hu hx
    exact ⟨h.source, h.kept hw, Or.inl h.binding, Or.inl h.cached⟩

/-- A step of those who may not write disposes of no validator. -/
theorem Turn.validator? (h : s.Turn L t) (hw : ¬ L.writes) (hs : s.Sound) {v : ValidatorId}
    {x y : ValidatorState Script} (hx : s.store.validator? v = some x)
    (hy : t.store.validator? v = some y) : y.disposed = x.disposed := by
  have spared {u : Store Script} {z : ValidatorState Script} (hu : u.Changes L t.store)
      (hz : u.validator? v = some z) : y.disposed = z.disposed := by
    rcases (Store.spares_of_changes hu).validator v y hy with ⟨z', hz', h⟩ | ⟨hv, -⟩
    · rw [Option.some.inj (hz.symm.trans hz')]
      exact h.kept hw
    · exact absurd (Roster.lt_next_of_get? hz) (Nat.not_lt.2 hv)
  cases h with
  | @perform tk rest ha inner ht hu hn =>
    have ho := hs.situation.toOrdered
    rw [situation_of_task ha] at ho
    obtain ⟨z, hz, -, -, disposed⟩ :=
      ho.validator_perform (tk.performs s.engine.evaluator s.store) hx
    exact (spared hu hz).trans disposed
  | ask _ _ _ _ _ hu => exact spared hu hx

/-- A step of those who may not write gives no names to objects. -/
theorem Turn.objects (h : s.Turn L t) (hw : ¬ L.writes) : t.objects = s.objects := by
  cases h with
  | perform _ _ _ _ hn => exact hn
  | ask _ _ _ _ _ _ hn => exact hn.resolve_right fun h => hw h.1

end Session

end LiveForm
