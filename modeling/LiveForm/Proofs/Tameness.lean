/-
  Commands that start nothing of their own.

  A script may be of any length and depend on what its handler is told, and its commands may write to
  objects, ask nodes to recompute and bind them to others. As long as they make no nodes and install no
  handlers, what follows from them comes from the nodes and handlers that there are.

  * `Command.isPlain`, `Script.Tame` and `Store.Tame`: such commands, scripts of such commands, and
    stores where all handlers have such scripts and none is at a property of an object;
  * `Sound.mild`: what a plain command leaves to do; `over_of_not_plain`: any other command is over at
    once.
-/
import LiveForm.Proofs.Moves
import LiveForm.Proofs.Subsiding

namespace LiveForm

/-! ## Tame stores -/

/-- A command that makes no node and installs no handler. -/
def Command.isPlain : Command → Bool
  | .bind .. | .constant .. | .judge .. | .newValidator .. | .compile .. | .compileFields ..
  | .observe .. | .listen .. | .watch .. => false
  | _ => true

def Action.command : Action → Command
  | .when _ c => c

/-- All the commands of a script are plain. -/
def Script.isTame (x : Script) : Bool := x.actions.all fun a => a.command.isPlain

/-- A listener is a node, or a handler with a tame script. -/
def Listener.isTame : Listener Script → Bool
  | .handler h => h.isTame
  | _ => true

/-- The handlers are tame, and listen to nodes only. -/
structure Store.Tame (s : Store Script) : Prop where
  objects : ∀ o x k name h, s.object? o = some x → x.subscribers.get? k ≠ some ⟨name, .handler h⟩
  proxies : ∀ p x k l, s.proxy? p = some x → x.listeners.get? k = some l → l.isTame
  validators : ∀ v x k l, s.validator? v = some x → x.listeners.get? k = some l → l.isTame

namespace Store

variable {s t : Store Script}

theorem tame_iff : s.Tame ↔
    (∀ x ∈ s.objects.entries, ∀ e ∈ x.2.subscribers.entries, e.2.listener.node?.isSome) ∧
      (∀ x ∈ s.proxies.entries, ∀ l ∈ x.2.listeners.entries, l.2.isTame) ∧
      ∀ x ∈ s.validators.entries, ∀ l ∈ x.2.listeners.entries, l.2.isTame := by
  constructor
  · intro h
    refine ⟨fun x hx e he => ?_, fun x hx l hl => ?_, fun x hx l hl => ?_⟩
    · obtain ⟨k, name, l⟩ := e
      cases l with
      | handler f =>
        exact absurd (Roster.get?_eq_some_iff.2 he)
          (h.objects ⟨x.1⟩ x.2 k name f (Roster.get?_eq_some_iff.2 hx))
      | proxy p => rfl
      | validator v => rfl
    · exact h.proxies ⟨x.1⟩ x.2 l.1 l.2 (Roster.get?_eq_some_iff.2 hx) (Roster.get?_eq_some_iff.2 hl)
    · exact h.validators ⟨x.1⟩ x.2 l.1 l.2 (Roster.get?_eq_some_iff.2 hx)
        (Roster.get?_eq_some_iff.2 hl)
  · rintro ⟨ho, hp, hv⟩
    refine ⟨fun o x k name h hx hk => ?_, fun p x k l hx hl => ?_, fun v x k l hx hl => ?_⟩
    · have := ho _ (Roster.get?_eq_some_iff.1 hx) _ (Roster.get?_eq_some_iff.1 hk)
      cases this
    · exact hp _ (Roster.get?_eq_some_iff.1 hx) _ (Roster.get?_eq_some_iff.1 hl)
    · exact hv _ (Roster.get?_eq_some_iff.1 hx) _ (Roster.get?_eq_some_iff.1 hl)

instance : Decidable s.Tame := decidable_of_iff' _ tame_iff

/-- What starts nothing keeps a store tame. -/
theorem Tame.subsides {r : Option Node} (h : s.Tame) (hs : s.Subsides r t) : t.Tame where
  objects o y k name f hy hk := by
    obtain ⟨x, hx, hk⟩ := hs.objects o y k name f hy hk
    exact h.objects o x k name f hx hk
  proxies p y k l hy hk := by
    obtain ⟨x, hx, -, hl⟩ := hs.proxies p y hy
    cases l with
    | handler f => exact h.proxies p x k _ hx (hl k f hk)
    | proxy q => rfl
    | validator w => rfl
  validators v y k l hy hk := by
    obtain ⟨x, hx, -, hl⟩ := hs.validators v y hy
    cases l with
    | handler f => exact h.validators v x k _ hx (hl k f hk)
    | proxy q => rfl
    | validator w => rfl

/-- Whoever listens in a tame store is tame. -/
theorem Tame.listener? (h : s.Tame) {e : Event} {k : Nat} {l : Listener Script}
    (hl : s.listener? e k = some l) : l.isTame := by
  cases e with
  | property o name =>
    obtain ⟨x, hx, hl⟩ := Option.bind_eq_some_iff.1 hl
    obtain ⟨⟨m, l'⟩, he, hl⟩ := Option.bind_eq_some_iff.1 hl
    cases hl
    cases l' with
    | handler f => exact absurd he (h.objects o x k m f hx)
    | proxy p => rfl
    | validator v => rfl
  | value p v =>
    obtain ⟨x, hx, hl⟩ := Option.bind_eq_some_iff.1 hl
    exact h.proxies p x k l hx hl
  | result v r =>
    obtain ⟨x, hx, hl⟩ := Option.bind_eq_some_iff.1 hl
    exact h.validators v x k l hx hl

/-- Nodes listen to the properties of objects, and nobody else. -/
theorem Tame.node? (h : s.Tame) {o : ObjectId} {name : String} {k : Nat} {l : Listener Script}
    (hl : s.listener? (.property o name) k = some l) : l.node?.isSome := by
  obtain ⟨x, hx, hl⟩ := Option.bind_eq_some_iff.1 hl
  obtain ⟨⟨m, l'⟩, he, hl⟩ := Option.bind_eq_some_iff.1 hl
  cases hl
  cases l' with
  | handler f => exact absurd he (h.objects o x k m f hx)
  | proxy p => rfl
  | validator v => rfl

end Store

/-! ## Effects -/

/-- A task that commands leave: to tell of a change of an object, to recompute, or to bind to other
    objects. -/
def Task.IsRequest {H : Type} : Task H → Prop
  | .round (.property _ _) _ | .recompute _ _ | .rebind _ _ => True
  | _ => False

/-- An effect starts nothing, and leaves requests. -/
structure Effect.Mild (s : Session) (x : Effect) : Prop where
  store : s.store.Subsides none x.session.store
  agenda : x.session.agenda = s.agenda
  tasks : ∀ tk ∈ x.tasks, tk.IsRequest

/-- An effect leaves nothing to be done but to answer. -/
structure Effect.Over (s : Session) (x : Effect) : Prop where
  agenda : x.session.agenda = s.agenda
  tasks : x.tasks = []
  reply : ∃ a, x.reply = .answer a

namespace Session

variable {s t : Session} {e : Option Occasion}

open Store (Subsides)

theorem mild_answering {a : Answer} (hs : s.store.Subsides none t.store)
    (ha : t.agenda = s.agenda) : (t.answering a).Mild s := ⟨hs, ha, List.forall_mem_nil _⟩

/-- A command that changes nothing in the store. -/
theorem mild_answering_same {a : Answer} (hs : t.store = s.store) (ha : t.agenda = s.agenda) :
    (t.answering a).Mild s := mild_answering (hs ▸ .refl _) ha

theorem mild_requests {ts : List (Task Script)} {r : Reply} (hs : s.store.Subsides none t.store)
    (ha : t.agenda = s.agenda) (hts : ∀ tk ∈ ts, tk.IsRequest) : Effect.Mild s ⟨t, ts, r⟩ :=
  ⟨hs, ha, hts⟩

theorem mild_request {tk : Task Script} {r : Reply} (h : tk.IsRequest) :
    Effect.Mild s ⟨s, [tk], r⟩ :=
  ⟨.refl _, rfl, fun tk' h' => by rwa [List.mem_singleton.1 h']⟩

theorem mild_present {α : Type} {x : Except Missing α} {f : α → Effect}
    (hf : ∀ a, x = .ok a → (f a).Mild s) : (s.present x f).Mild s := by
  cases x with
  | ok a => exact hf a rfl
  | error m => exact mild_answering_same rfl rfl

theorem mild_onObject {name : String} {f : ObjectRef → Effect} (hf : ∀ o, (f o).Mild s) :
    (s.onObject name f).Mild s := mild_present fun o _ => hf o

theorem mild_onProxy {name : String} {f : ProxyId → Effect} (hf : ∀ p, (f p).Mild s) :
    (s.onProxy name f).Mild s := mild_present fun p _ => hf p

theorem mild_onValidator {name : String} {f : ValidatorId → Effect} (hf : ∀ v, (f v).Mild s) :
    (s.onValidator name f).Mild s := mild_present fun v _ => hf v

theorem mild_bound {b : BindingNames} {f : Binding → Effect} (hf : ∀ b, (f b).Mild s) :
    (s.bound b f).Mild s := mild_present fun _ _ => mild_present fun _ _ => hf _

theorem mild_formed {name : String} {f : FormId → FormState → Effect} (hf : ∀ i x, (f i x).Mild s) :
    (s.formed name f).Mild s := mild_present fun _ _ => hf _ _

theorem mild_fielded {name key : String} {f : Field → Effect} (hf : ∀ x, (f x).Mild s) :
    (s.fielded name key f).Mild s := mild_formed fun _ _ => mild_present fun x _ => hf x

/-- The effect of what goes on after something has been made. -/
theorem mild_of_builds {x : Effect} {u : Store Script} (hb : s.store.Builds u)
    (hx : x.Mild (s.withStore u)) : x.Mild s :=
  ⟨(Subsides.build hb).trans hx.store, hx.agenda, hx.tasks⟩

theorem mild_given (h : s.Sound) (he : s.Aware e) {x : Operand} {f : Session → Value → Effect}
    (hf : ∀ t v, s.Extends t → (f t v).Mild t) : (s.given e x f).Mild s := by
  refine mild_present fun ⟨u, v⟩ hx => ?_
  obtain ⟨hb, -⟩ := resolve_spec s.store x (fun _ => h.object) he hx
  exact mild_of_builds hb (hf _ v (Extends.of_builds h hb))

theorem mild_givenAll (h : s.Sound) (he : s.Aware e) {xs : List Operand}
    {f : Session → List Value → Effect} (hf : ∀ t vs, (f t vs).Mild t) :
    (s.givenAll e xs f).Mild s := by
  refine mild_present fun ⟨u, vs⟩ hx => ?_
  obtain ⟨hb, -⟩ := resolveAll_spec s.store xs (fun _ => h.object) he hx
  exact mild_of_builds hb (hf _ vs)

theorem mild_newObject (h : s.Sound) (he : s.Aware e) (name typeName : String)
    (ps : List (String × Operand)) : (s.newObject e name typeName ps).Mild s := by
  have hb := s.store.builds_newObject typeName
  refine mild_present fun u hu => ?_
  obtain ⟨hb', -⟩ := setAll_spec hb (Nat.le_refl _) (fun n hn => hb.lives (h.object hn))
    (fun o ho z hz => hb.alive (he o ho z hz)) hu
  exact mild_answering (.build hb') rfl

/-- The listeners of a property are to be told. -/
theorem mild_announce {u : Store Script} {o : ObjectId} {name : String} {r : Reply}
    (hu : s.store.Subsides none u) :
    Effect.Mild s ⟨s.withStore u, (s.withStore u).announce o name, r⟩ :=
  mild_requests hu rfl fun tk h => by
    rw [List.mem_singleton.1 h]
    trivial

theorem mild_set (o : ObjectId) (property : String) (v : Value) : (s.set o property v).Mild s := by
  unfold Session.set
  split
  · exact mild_answering_same rfl rfl
  · exact mild_announce (.modifyObject fun _ _ _ _ => id)

theorem mild_remove (o : ObjectId) (property : String) : (s.remove o property).Mild s := by
  unfold Session.remove
  split
  · exact mild_answering_same rfl rfl
  · exact mild_announce (.modifyObject fun _ _ _ _ => id)

theorem mild_evaluate (template : String) (b : Binding) : (s.evaluate template b).Mild s := by
  unfold Session.evaluate
  split
  · exact mild_answering_same rfl rfl
  · exact mild_answering_same rfl rfl

theorem mild_targetUpdated (v : ValidatorId) : (s.targetUpdated v).Mild s := by
  unfold Session.targetUpdated
  split
  · split
    · exact mild_request trivial
    · exact mild_answering_same rfl rfl
  · exact mild_answering_same rfl rfl

theorem mild_unlisten (id : String) (a : Answer) : ((s.unlisten id).answering a).Mild s := by
  unfold Session.unlisten
  split
  · exact mild_answering_same rfl rfl
  · exact mild_answering (.unlisten _ _) rfl

theorem mild_unwatch (id : String) (a : Answer) : ((s.unwatch id).answering a).Mild s := by
  unfold Session.unwatch
  split
  · exact mild_answering_same rfl rfl
  · exact mild_answering (.unwatch _ _) rfl

/-- What a plain command does starts nothing, and leaves requests. -/
theorem Sound.mild (h : s.Sound) (he : s.Aware e) {c : Command} (hc : c.isPlain) :
    (s.carryOut e c).Mild s := by
  cases c with
  | bind | constant | judge | newValidator | compile | compileFields | observe | listen | watch =>
    cases hc
  | newObject name typeName ps => exact mild_newObject h he name typeName ps
  | newObjectOf name j => exact mild_answering (.build (s.store.newObjectOf_spec j).1) rfl
  | set name property x =>
    exact mild_onObject fun o => mild_given h he fun t v _ => mild_set o.id property v
  | remove name property => exact mild_onObject fun o => mild_remove o.id property
  | notify name property => exact mild_onObject fun o => mild_request trivial
  | get | properties | subscriberCount => exact mild_onObject fun o => mild_answering_same rfl rfl
  | unobserve id => exact mild_present fun ⟨o, n⟩ _ => mild_answering (.unsubscribe o n) rfl
  | evaluate template b => exact mild_bound fun b => mild_evaluate template b
  | applyFilter name x args =>
    rw [carryOut]
    exact mild_given h he fun t v ht => mild_givenAll ht.sound (he.extends ht) fun u vs =>
      mild_answering_same rfl rfl
  | filters | register | statistics | dropObject | dropProxy | dropValidator | dropForm | field
  | fields => exact mild_answering_same rfl rfl
  | clone name other => exact mild_onProxy fun p => mild_answering_same rfl rfl
  | proxy name => exact mild_onProxy fun p => mild_present fun x _ => mild_answering_same rfl rfl
  | peek name => exact mild_onProxy fun p => mild_answering_same rfl rfl
  | refresh name => exact mild_onProxy fun p => mild_request trivial
  | setModel name object | setContext name object =>
    exact mild_onProxy fun p => mild_onObject fun o => mild_request trivial
  | setBinding name b => exact mild_onProxy fun p => mild_bound fun b => mild_request trivial
  | dispose name => exact mild_onProxy fun p => mild_answering (.disposeProxy p) rfl
  | unlisten id => exact mild_unlisten id _
  | debug subject => exact mild_present fun text _ => mild_answering_same rfl rfl
  | validator name => exact mild_onValidator fun v => mild_present fun x _ => mild_answering_same rfl rfl
  | validate name => exact mild_onValidator fun v => mild_request trivial
  | targetUpdated name => exact mild_onValidator mild_targetUpdated
  | disposeValidator name => exact mild_onValidator fun v => mild_answering (.disposeValidator v) rfl
  | unwatch id => exact mild_unwatch id _
  | validateForm name =>
    rw [carryOut]
    exact mild_formed fun i x => ⟨.refl _, rfl, List.forall_mem_nil _⟩
  | setFormModel name object | setFormContext name object =>
    rw [carryOut]
    exact mild_formed fun i x => mild_onObject fun o => mild_request trivial
  | setFormBinding name b =>
    rw [carryOut]
    exact mild_formed fun i x => mild_bound fun b => mild_request trivial
  | disposeForm name =>
    rw [carryOut]
    exact mild_formed fun i x => mild_answering (.disposeForm i) rfl
  | takeProxy name key part proxy =>
    exact mild_fielded fun x => mild_present fun p _ => mild_answering_same rfl rfl
  | takeValidator name key validator => exact mild_fielded fun x => mild_answering_same rfl rfl

/-! ## Commands that are over at once -/

theorem over_answering {a : Answer} (ha : t.agenda = s.agenda) : (t.answering a).Over s :=
  ⟨ha, rfl, a, rfl⟩

theorem over_present {α : Type} {x : Except Missing α} {f : α → Effect}
    (hf : ∀ a, x = .ok a → (f a).Over s) : (s.present x f).Over s := by
  cases x with
  | ok a => exact hf a rfl
  | error m => exact over_answering rfl

theorem over_onProxy {name : String} {f : ProxyId → Effect} (hf : ∀ p, (f p).Over s) :
    (s.onProxy name f).Over s := over_present fun p _ => hf p

theorem over_bound {b : BindingNames} {f : Binding → Effect} (hf : ∀ b, (f b).Over s) :
    (s.bound b f).Over s := over_present fun _ _ => over_present fun _ _ => hf _

/-- The effect of what goes on in a session with the same agenda. -/
theorem over_of_agenda {x : Effect} (ht : t.agenda = s.agenda) (hx : x.Over t) : x.Over s :=
  ⟨hx.agenda.trans ht, hx.tasks, hx.reply⟩

theorem over_given {x : Operand} {f : Session → Value → Effect} (hf : ∀ t v, (f t v).Over t) :
    (s.given e x f).Over s :=
  over_present fun ⟨u, v⟩ _ => over_of_agenda (t := s.withStore u) rfl (hf _ v)

theorem agenda_sourceOf {x : SourceNames} {p : ProxyId} (h : s.sourceOf e x = .ok (t, p)) :
    t.agenda = s.agenda := by
  cases x with
  | proxy name =>
    rw [sourceOf] at h
    cases hx : orMissing (.proxy name) (s.proxies.lookup name) with
    | error m => rw [hx] at h; cases h
    | ok q => rw [hx] at h; cases h; rfl
  | constant x =>
    rw [sourceOf] at h
    split at h
    · cases h
    · cases h; rfl

theorem agenda_messageOf {x : Option (Message SourceNames)} {m : Message ProxyId}
    (h : s.messageOf e x = .ok (t, m)) : t.agenda = s.agenda := by
  match x with
  | none | some (.fixed text) => cases h; rfl
  | some (.live source) =>
    obtain ⟨⟨u, p⟩, hu, h⟩ := ok_of_bind h
    cases h
    exact agenda_sourceOf hu

theorem agenda_ruleOf {x : RuleNames} {r : Rule ProxyId} (h : s.ruleOf e x = .ok (t, r)) :
    t.agenda = s.agenda := by
  obtain ⟨⟨s₁, argument⟩, h₁, h⟩ := ok_of_bind h
  obtain ⟨⟨s₂, enforcement⟩, h₂, h⟩ := ok_of_bind h
  obtain ⟨⟨s₃, message⟩, h₃, h⟩ := ok_of_bind h
  obtain ⟨converter, -, h⟩ := ok_of_bind h
  cases h
  exact ((agenda_messageOf h₃).trans (agenda_sourceOf h₂)).trans (agenda_sourceOf h₁)

theorem agenda_rulesOf {xs : List RuleNames} {rs : List (Rule ProxyId)}
    (h : s.rulesOf e xs = .ok (t, rs)) : t.agenda = s.agenda := by
  induction xs generalizing s rs with
  | nil => cases h; rfl
  | cons x xs ih =>
    obtain ⟨⟨s₁, r⟩, h₁, h⟩ := ok_of_bind h
    obtain ⟨⟨s₂, rs'⟩, h₂, h⟩ := ok_of_bind h
    cases h
    exact (ih h₂).trans (agenda_ruleOf h₁)

theorem over_ruled {rules : List RuleNames} {f : Session → List (Rule ProxyId) → Effect}
    (hf : ∀ t rs, (f t rs).Over t) : (s.ruled e rules f).Over s :=
  over_present fun _ hx => over_of_agenda (agenda_rulesOf hx) (hf _ _)

theorem over_bind (name template : String) (limit : Option Nat) (b : Binding) :
    (s.bind name template limit b).Over s := by
  unfold Session.bind
  split
  · exact over_answering rfl
  · exact over_answering rfl

theorem over_listen (p : ProxyId) (kept : Bool) (script : Script) :
    (s.listen p kept script).Over s := by
  unfold Session.listen
  dsimp only
  split
  · refine over_answering ?_
    unfold Session.unlisten
    split <;> rfl
  · exact over_answering rfl

theorem over_watch (v : ValidatorId) (script : Script) : (s.watch v script).Over s := by
  unfold Session.watch
  refine over_answering ?_
  unfold Session.unwatch
  dsimp only
  split <;> rfl

theorem over_nameForm (name : String) (r : Except FormError FormId × Workspace Script) :
    (s.nameForm name r).Over s := by
  unfold Session.nameForm
  split
  · exact over_answering rfl
  · dsimp only
    split
    · exact over_answering rfl
    · exact over_answering rfl

/-- A command that is not plain is over at once. -/
theorem over_of_not_plain {c : Command} (hc : c.isPlain = false) : (s.carryOut e c).Over s := by
  cases c with
  | bind name template limit b => exact over_bound fun b => over_bind name template limit b
  | constant name x =>
    rw [carryOut]
    exact over_given fun t v => over_answering rfl
  | judge rules values =>
    rw [carryOut]
    exact over_ruled fun t rs => over_present fun _ _ => over_of_agenda rfl (over_answering rfl)
  | newValidator name field rules limit =>
    rw [carryOut]
    exact over_onProxy fun p => over_ruled fun t rs => over_answering rfl
  | compile name | compileFields name =>
    rw [carryOut]
    exact over_bound fun b => over_nameForm name _
  | observe name property script => exact over_present fun o _ => over_answering rfl
  | listen name kept script => exact over_onProxy fun p => over_listen p kept script
  | watch name script => exact over_present fun v _ => over_watch v script
  | _ => cases hc

end Session

end LiveForm
