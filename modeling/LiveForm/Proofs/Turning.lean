/-
  What commands change, and what moves come to.

  Whatever a command does at once comes to changes of the store that tell nobody. It leaves tasks that
  tell of properties, that ask nodes to recompute without force, and that bind proxies to other objects.
  Who may not write leaves none of the last kind, and gives no object a name.

  * `Command.IsAllowed`: a command does no more than a licence allows;
  * `Effect.Asks` and `asks_carryOut`: what the effect of a command comes to;
  * `Session.Turn`, `turn_step` and `Move.turn`: a move performs the next task, or does work from outside
    the store.
-/
import LiveForm.Proofs.Moves
import LiveForm.Proofs.Sparing
import LiveForm.Proofs.Tameness

namespace LiveForm

variable {H : Type}

/-- A task that a command leaves: to tell of a property, to ask without force, or to bind to other
    objects. -/
def Task.IsAsk : Task H → Prop
  | .round (.property _ _) _ | .recompute _ false | .rebind _ _ => True
  | _ => False

def Task.isRebind : Task H → Bool
  | .rebind _ _ => true
  | _ => false

/-- A command does no more than a licence allows. To change objects, to make or forget them, to bind to
    other objects and to dispose of nodes is to write. -/
def Command.IsAllowed (L : Licence Script) : Command → Prop
  | .newObject .. | .newObjectOf .. | .set .. | .remove .. | .dropObject .. | .setModel ..
  | .setContext .. | .setBinding .. | .setFormModel .. | .setFormContext .. | .setFormBinding ..
  | .dispose .. | .disposeValidator .. | .disposeForm .. => L.writes
  | .observe _ _ x | .listen _ _ x | .watch _ x => L.installs x
  | _ => True

/-- The commands of handlers that may be installed are allowed, and who may write may put any value into
    a property. -/
structure Licence.Closed (L : Licence Script) : Prop where
  actions : ∀ x, L.installs x → ∀ a ∈ x.actions, a.command.IsAllowed L
  puts : L.writes → ∀ v, L.puts v

theorem Command.isAllowed_all (c : Command) : c.IsAllowed .all := by cases c <;> trivial

theorem Licence.closed_all : (Licence.all : Licence Script).Closed :=
  ⟨fun _ _ a _ => a.command.isAllowed_all, fun _ _ => trivial⟩

theorem Workspace.changes_bind (L : Licence H) (w : Workspace H) (source : String) (b : Binding)
    (limit : Nat) : w.store.Changes L (w.bind source b limit).2.store := by
  unfold Workspace.bind
  split
  · exact .refl
  · exact .single (.newProxy ..)

theorem Workspace.changes_compile (L : Licence H) (w : Workspace H) (b : Binding)
    (ds : List FieldDefinition) : w.store.Changes L (w.compile b ds).2.store := by
  have h := (Store.kept_changes L w.store b).fields ds (w := w) .refl
  rw [compile_eq]
  rcases hw : (Compilation.fields b [] ds).outcome w with ⟨e | fs, w'⟩
  · rw [hw] at h
    exact h
  · rw [hw] at h
    exact h.tail (.newForm ..)

theorem Workspace.changes_compileText (L : Licence H) (w : Workspace H) (b : Binding)
    (text : String) : w.store.Changes L (w.compileText b text).2.store := by
  unfold Workspace.compileText
  split
  · exact .refl
  · exact w.changes_compile L b _

/-! ## Commands -/

namespace Session

variable {L : Licence Script} {s t : Session} {e : Option Occasion}

/-- A session has the names of objects that another one has; who may write gives names to new objects
    and gives up names. -/
def Renames (L : Licence Script) (s t : Session) : Prop :=
  t.objects = s.objects ∨
    L.writes ∧ ∀ n ∈ t.objects, n ∈ s.objects ∨ s.store.objects.next ≤ n.2.id.index

/-- Whatever operands stand for may be put into properties, in a store with as many objects as given. -/
def Puts (L : Licence Script) (objects : List (String × ObjectRef)) (e : Option Occasion) (n : Nat) :
    Prop :=
  L.writes → ∀ (u u' : Store Script) (x : Operand) (v : Value), n ≤ u.objects.next →
    resolve objects e u x = .ok (u', v) → L.puts v

theorem Renames.trans {u : Session} (h₁ : s.Renames L t) (h₂ : t.Renames L u)
    (hn : s.store.objects.next ≤ t.store.objects.next) : s.Renames L u := by
  rcases h₂ with h₂ | ⟨hw, h₂⟩
  · rwa [Renames, h₂]
  · refine Or.inr ⟨hw, fun n hn' => ?_⟩
    rcases h₂ n hn' with ht | ht
    · rcases h₁ with h₁ | ⟨-, h₁⟩
      · exact Or.inl (h₁ ▸ ht)
      · exact h₁ n ht
    · exact Or.inr (Nat.le_trans hn ht)

/-- A session has changed, and nothing more is to be done than before. -/
structure Changed (L : Licence Script) (s t : Session) : Prop where
  changes : s.store.Changes L t.store
  agenda : t.agenda = s.agenda
  names : s.Renames L t

end Session

/-- An effect comes to changes that tell nobody, and leaves tasks of the kinds that commands leave. -/
structure Effect.Asks (L : Licence Script) (s : Session) (x : Effect) : Prop
    extends s.Changed L x.session where
  tasks : ∀ tk ∈ x.tasks, tk.IsAsk ∧ (tk.isRebind → L.writes)

namespace Session

variable {L : Licence Script} {s t : Session} {e : Option Occasion}

theorem Changed.refl (s : Session) : s.Changed L s := ⟨.refl, rfl, Or.inl rfl⟩

theorem Changed.trans {u : Session} (h₁ : s.Changed L t) (h₂ : t.Changed L u) : s.Changed L u where
  changes := h₁.changes.trans h₂.changes
  agenda := h₂.agenda.trans h₁.agenda
  names := h₁.names.trans h₂.names (Store.spares_of_changes h₁.changes).objects

/-- A session of the same store and the same agenda, with the same names of objects. -/
theorem Changed.of_eq (hs : t.store = s.store) (ha : t.agenda = s.agenda)
    (hn : t.objects = s.objects) : s.Changed L t :=
  ⟨hs ▸ .refl, ha, Or.inl hn⟩

theorem Changed.withStore {u : Store Script} (h : s.store.Changes L u) : s.Changed L (s.withStore u) :=
  ⟨h, rfl, Or.inl rfl⟩

theorem Changed.answering {a : Answer} (h : s.Changed L t) : (t.answering a).Asks L s :=
  ⟨h, List.forall_mem_nil _⟩

theorem Changed.asking {tk : Task Script} {r : Reply} (h : s.Changed L t) (hk : tk.IsAsk)
    (hr : tk.isRebind → L.writes) : Effect.Asks L s ⟨t, [tk], r⟩ :=
  ⟨h, fun tk' h' => by rw [List.mem_singleton.1 h']; exact ⟨hk, hr⟩⟩

theorem Changed.asks (h : s.Changed L t) {x : Effect} (hx : x.Asks L t) : x.Asks L s :=
  ⟨h.trans hx.toChanged, hx.tasks⟩

theorem asks_present {α : Type} {x : Except Missing α} {f : α → Effect}
    (hf : ∀ a, x = .ok a → (f a).Asks L s) : (s.present x f).Asks L s := by
  cases x with
  | ok a => exact hf a rfl
  | error m => exact (Changed.refl s).answering

theorem asks_onObject {name : String} {f : ObjectRef → Effect} (hf : ∀ o, (f o).Asks L s) :
    (s.onObject name f).Asks L s := asks_present fun o _ => hf o

theorem asks_onProxy {name : String} {f : ProxyId → Effect} (hf : ∀ p, (f p).Asks L s) :
    (s.onProxy name f).Asks L s := asks_present fun p _ => hf p

theorem asks_onValidator {name : String} {f : ValidatorId → Effect} (hf : ∀ v, (f v).Asks L s) :
    (s.onValidator name f).Asks L s := asks_present fun v _ => hf v

theorem asks_bound {b : BindingNames} {f : Binding → Effect} (hf : ∀ b, (f b).Asks L s) :
    (s.bound b f).Asks L s := asks_present fun _ _ => asks_present fun _ _ => hf _

theorem asks_formed {name : String} {f : FormId → FormState → Effect} (hf : ∀ i x, (f i x).Asks L s) :
    (s.formed name f).Asks L s := asks_present fun _ _ => hf _ _

theorem asks_fielded {name key : String} {f : Field → Effect} (hf : ∀ x, (f x).Asks L s) :
    (s.fielded name key f).Asks L s := asks_formed fun _ _ => asks_present fun x _ => hf x

/-! ### Operands -/

mutual

theorem changes_resolve {objects : List (String × ObjectRef)} {u u' : Store Script} {x : Operand}
    {v : Value} (h : resolve objects e u x = .ok (u', v)) : u.Changes L u' := by
  match x with
  | .value _ =>
    simp only [resolve] at h
    cases h
    exact .refl
  | .collection items =>
    simp only [resolve] at h
    split at h
    · next u'' vs hu =>
      cases h
      exact changes_resolveAll hu
    · cases h
  | .object name =>
    simp only [resolve] at h
    split at h
    · cases h
      exact .refl
    · cases h
  | .document j =>
    simp only [resolve, Except.ok.injEq] at h
    have made := Store.Change.document (L := L) u j
    rw [h] at made
    exact .single made
  | .event =>
    simp only [resolve] at h
    split at h
    · cases h
      exact .refl
    · cases h
  | .eventPlus n =>
    simp only [resolve] at h
    split at h
    · cases h
      exact .refl
    · cases h
      exact .refl
    · cases h
  | .errorCount =>
    simp only [resolve] at h
    split at h
    · cases h
      exact .refl
    · cases h

theorem changes_resolveAll {objects : List (String × ObjectRef)} {u u' : Store Script}
    {xs : List Operand} {vs : List Value} (h : resolveAll objects e u xs = .ok (u', vs)) :
    u.Changes L u' := by
  match xs with
  | [] =>
    simp only [resolveAll] at h
    cases h
    exact .refl
  | x :: xs =>
    simp only [resolveAll] at h
    split at h
    · cases h
    · next u₁ v h₁ =>
      split at h
      · cases h
      · next u₂ vs' h₂ =>
        cases h
        exact (changes_resolve h₁).trans (changes_resolveAll h₂)

end

theorem changes_setAll (hw : L.writes) {objects : List (String × ObjectRef)} {n : Nat}
    (hp : Puts L objects e n) {u u' : Store Script} (hn : n ≤ u.objects.next) {o : ObjectId}
    {ps : List (String × Operand)} (h : setAll objects e u o ps = .ok u') : u.Changes L u' := by
  induction ps generalizing u with
  | nil =>
    simp only [setAll] at h
    cases h
    exact .refl
  | cons p ps ih =>
    simp only [setAll] at h
    split at h
    · cases h
    · next u₁ v h₁ =>
      have put := (changes_resolve h₁).tail (.setProperty _ o p.1 v hw (hp hw u u₁ _ v hn h₁))
      exact put.trans (ih (Nat.le_trans hn (Store.spares_of_changes put).objects) h)

theorem asks_given {x : Operand} {f : Session → Value → Effect}
    (hf : ∀ u v, resolve s.objects e s.store x = .ok (u, v) →
      (f (s.withStore u) v).Asks L (s.withStore u)) : (s.given e x f).Asks L s :=
  asks_present fun ⟨u, v⟩ hx => (Changed.withStore (changes_resolve hx)).asks (hf u v hx)

theorem asks_givenAll {xs : List Operand} {f : Session → List Value → Effect}
    (hf : ∀ t vs, (f t vs).Asks L t) : (s.givenAll e xs f).Asks L s :=
  asks_present fun ⟨_, vs⟩ hx => (Changed.withStore (changes_resolveAll hx)).asks (hf _ vs)

/-! ### Rules -/

theorem changed_sourceOf {x : SourceNames} {p : ProxyId} (h : s.sourceOf e x = .ok (t, p)) :
    s.Changed L t := by
  cases x with
  | proxy name =>
    rw [sourceOf] at h
    cases hx : orMissing (.proxy name) (s.proxies.lookup name) with
    | error m => rw [hx] at h; cases h
    | ok q => rw [hx] at h; cases h; exact .refl _
  | constant x =>
    rw [sourceOf] at h
    split at h
    · cases h
    · next u v hu =>
      cases h
      exact ⟨(changes_resolve hu).tail (.newProxy ..), rfl, Or.inl rfl⟩

theorem changed_messageOf {x : Option (Message SourceNames)} {m : Message ProxyId}
    (h : s.messageOf e x = .ok (t, m)) : s.Changed L t := by
  match x with
  | none | some (.fixed text) => cases h; exact .refl _
  | some (.live source) =>
    obtain ⟨⟨u, p⟩, hu, h⟩ := ok_of_bind h
    cases h
    exact changed_sourceOf hu

theorem changed_ruleOf {x : RuleNames} {r : Rule ProxyId} (h : s.ruleOf e x = .ok (t, r)) :
    s.Changed L t := by
  obtain ⟨⟨s₁, argument⟩, h₁, h⟩ := ok_of_bind h
  obtain ⟨⟨s₂, enforcement⟩, h₂, h⟩ := ok_of_bind h
  obtain ⟨⟨s₃, message⟩, h₃, h⟩ := ok_of_bind h
  obtain ⟨converter, -, h⟩ := ok_of_bind h
  cases h
  exact ((changed_sourceOf h₁).trans (changed_sourceOf h₂)).trans (changed_messageOf h₃)

theorem changed_rulesOf {xs : List RuleNames} {rs : List (Rule ProxyId)}
    (h : s.rulesOf e xs = .ok (t, rs)) : s.Changed L t := by
  induction xs generalizing s rs with
  | nil => cases h; exact .refl _
  | cons x xs ih =>
    obtain ⟨⟨s₁, r⟩, h₁, h⟩ := ok_of_bind h
    obtain ⟨⟨s₂, rs'⟩, h₂, h⟩ := ok_of_bind h
    cases h
    exact (changed_ruleOf h₁).trans (ih h₂)

theorem asks_ruled {rules : List RuleNames} {f : Session → List (Rule ProxyId) → Effect}
    (hf : ∀ t rs, (f t rs).Asks L t) : (s.ruled e rules f).Asks L s :=
  asks_present fun _ hx => (changed_rulesOf hx).asks (hf _ _)

/-! ### Single commands -/

/-- A new object gets a name. -/
theorem renames_putName (hw : L.writes) {o : ObjectRef} (ho : s.store.objects.next ≤ o.id.index)
    {name : String} (hn : t.objects = putName name o s.objects) : s.Renames L t := by
  refine Or.inr ⟨hw, fun n h => ?_⟩
  rw [hn] at h
  rcases mem_putName h with h | rfl
  · exact Or.inl h
  · exact Or.inr ho

theorem asks_newObject (hw : L.writes) (hp : Puts L s.objects e s.store.objects.next)
    (name typeName : String) (ps : List (String × Operand)) :
    (s.newObject e name typeName ps).Asks L s :=
  asks_present fun _ hu => Changed.answering {
    changes := .head (.newObject s.store typeName hw)
      (changes_setAll hw hp (u := (s.store.newObject typeName).1) (Nat.le_succ _) hu)
    agenda := rfl
    names := renames_putName hw (Nat.le_refl _) rfl }

theorem asks_newObjectOf (hw : L.writes) (name : String) (j : Json) :
    (s.carryOut e (.newObjectOf name j)).Asks L s := by
  have ho : s.store.objects.next ≤ (s.store.newObjectOf j).2.id.index := by
    cases j <;> exact Nat.le_refl _
  exact Changed.answering ⟨.single (.newObjectOf s.store j hw), rfl, renames_putName hw ho rfl⟩

theorem asks_dropObject (hw : L.writes) (name : String) :
    (s.carryOut e (.dropObject name)).Asks L s :=
  Changed.answering ⟨.refl, rfl, Or.inr ⟨hw, fun _ hn => Or.inl (mem_dropName hn)⟩⟩

theorem asks_set (hw : L.writes) (o : ObjectId) (property : String) {v : Value} (hv : L.puts v) :
    (s.set o property v).Asks L s := by
  unfold Session.set
  split
  · exact (Changed.refl s).answering
  · exact (Changed.withStore (.single (.setProperty _ _ _ _ hw hv))).asking trivial nofun

theorem asks_remove (hw : L.writes) (o : ObjectId) (property : String) :
    (s.remove o property).Asks L s := by
  unfold Session.remove
  split
  · exact (Changed.refl s).answering
  · exact (Changed.withStore (.single (.removeProperty _ _ _ hw))).asking trivial nofun

theorem asks_evaluate (template : String) (b : Binding) : (s.evaluate template b).Asks L s := by
  unfold Session.evaluate
  split <;> exact Changed.answering (.of_eq rfl rfl rfl)

theorem asks_bind (name template : String) (limit : Option Nat) (b : Binding) :
    (s.bind name template limit b).Asks L s := by
  have h := s.workspace.changes_bind L template b (limit.getD s.engine.configuration.maxPasses)
  unfold Session.bind
  split
  · next e w hw =>
    rw [hw] at h
    exact Changed.answering ⟨h, rfl, Or.inl rfl⟩
  · next p w hw =>
    rw [hw] at h
    exact Changed.answering ⟨h, rfl, Or.inl rfl⟩

theorem changed_unlisten (id : String) : s.Changed L (s.unlisten id) := by
  unfold Session.unlisten
  split
  · exact .refl s
  · exact ⟨.single (.unlisten ..), rfl, Or.inl rfl⟩

theorem asks_listen (p : ProxyId) (kept : Bool) {script : Script} (hi : L.installs script) :
    (s.listen p kept script).Asks L s := by
  have h : s.Changed L (s.withStore (s.store.listen p (.handler script)).1) :=
    .withStore (.single (.listen _ _ hi))
  unfold Session.listen
  dsimp only
  split
  · have hu := h.trans (changed_unlisten script.id)
    exact Changed.answering ⟨hu.changes, hu.agenda, hu.names⟩
  · exact h.answering

theorem changed_unwatch (id : String) : s.Changed L (s.unwatch id) := by
  unfold Session.unwatch
  split
  · exact .refl s
  · exact ⟨.single (.unwatch ..), rfl, Or.inl rfl⟩

theorem asks_watch (v : ValidatorId) {script : Script} (hi : L.installs script) :
    (s.watch v script).Asks L s := by
  have h : s.Changed L (s.withStore (s.store.watch v (.handler script)).1) :=
    .withStore (.single (.watch _ _ hi))
  have hu := h.trans (changed_unwatch script.id)
  exact Changed.answering ⟨hu.changes, hu.agenda, hu.names⟩

theorem asks_targetUpdated (v : ValidatorId) : (s.targetUpdated v).Asks L s := by
  unfold Session.targetUpdated
  split
  · split
    · exact (Changed.refl s).asking trivial nofun
    · exact (Changed.refl s).answering
  · exact (Changed.refl s).answering

theorem asks_nameForm (name : String) {r : Except FormError FormId × Workspace Script}
    (h : s.store.Changes L r.2.store) : (s.nameForm name r).Asks L s := by
  rcases r with ⟨e | f, w⟩
  · exact Changed.answering ⟨h, rfl, Or.inl rfl⟩
  · unfold nameForm
    dsimp only
    split <;> exact Changed.answering ⟨h, rfl, Or.inl rfl⟩

/-- Every command comes to changes that tell nobody, and leaves tasks of few kinds. -/
theorem asks_carryOut (s : Session) (e : Option Occasion) {c : Command} (hc : c.IsAllowed L)
    (hp : Puts L s.objects e s.store.objects.next) : (s.carryOut e c).Asks L s := by
  cases c with
  | newObject name typeName ps => exact asks_newObject hc hp name typeName ps
  | newObjectOf name j => exact asks_newObjectOf hc name j
  | set name property x =>
    exact asks_onObject fun o => asks_given fun u v hx =>
      asks_set hc o.id property (hp hc _ u x v (Nat.le_refl _) hx)
  | remove name property => exact asks_onObject fun o => asks_remove hc o.id property
  | notify name property => exact asks_onObject fun o => (Changed.refl s).asking trivial nofun
  | get | properties | subscriberCount => exact asks_onObject fun o => (Changed.refl s).answering
  | dropObject name => exact asks_dropObject hc name
  | observe name property script =>
    exact asks_onObject fun o => Changed.answering ⟨.single (.subscribe _ _ _ hc), rfl, Or.inl rfl⟩
  | unobserve id =>
    exact asks_present fun ⟨o, n⟩ _ => Changed.answering ⟨.single (.unsubscribe ..), rfl, Or.inl rfl⟩
  | evaluate template b => exact asks_bound fun b => asks_evaluate template b
  | applyFilter name x args =>
    rw [carryOut]
    exact asks_given fun u v _ => asks_givenAll fun u vs => (Changed.refl u).answering
  | filters | register | statistics | dropProxy | dropValidator | dropForm | field | fields =>
    exact Changed.answering (.of_eq rfl rfl rfl)
  | bind name template limit b => exact asks_bound fun b => asks_bind name template limit b
  | constant name x =>
    rw [carryOut]
    exact asks_given fun u v _ => Changed.answering ⟨.single (.newProxy ..), rfl, Or.inl rfl⟩
  | clone name other => exact asks_onProxy fun p => Changed.answering (.of_eq rfl rfl rfl)
  | proxy name => exact asks_onProxy fun p => asks_present fun x _ => (Changed.refl s).answering
  | peek name => exact asks_onProxy fun p => (Changed.refl s).answering
  | refresh name =>
    exact asks_onProxy fun p => (Changed.refl s).asking trivial fun h => absurd h Bool.false_ne_true
  | setModel name object | setContext name object =>
    exact asks_onProxy fun p => asks_onObject fun o => (Changed.refl s).asking trivial fun _ => hc
  | setBinding name b =>
    exact asks_onProxy fun p => asks_bound fun b => (Changed.refl s).asking trivial fun _ => hc
  | dispose name =>
    exact asks_onProxy fun p =>
      Changed.answering ⟨.single (.disposeProxy _ _ hc), rfl, Or.inl rfl⟩
  | listen name kept script => exact asks_onProxy fun p => asks_listen p kept hc
  | unlisten id => exact (changed_unlisten id).answering
  | debug subject => exact asks_present fun text _ => (Changed.refl s).answering
  | judge rules values =>
    rw [carryOut]
    exact asks_ruled fun t rs => asks_givenAll fun u vs => (Changed.refl u).answering
  | newValidator name field rules limit =>
    rw [carryOut]
    exact asks_onProxy fun p => asks_ruled fun t rs =>
      Changed.answering ⟨.single (.newValidator ..), rfl, Or.inl rfl⟩
  | validator name => exact asks_onValidator fun v => asks_present fun x _ => (Changed.refl s).answering
  | validate name =>
    exact asks_onValidator fun v =>
      (Changed.refl s).asking trivial fun h => absurd h Bool.false_ne_true
  | targetUpdated name => exact asks_onValidator asks_targetUpdated
  | disposeValidator name =>
    exact asks_onValidator fun v =>
      Changed.answering ⟨.single (.disposeValidator _ _ hc), rfl, Or.inl rfl⟩
  | watch name script => exact asks_onValidator fun v => asks_watch v hc
  | unwatch id => exact (changed_unwatch id).answering
  | compile name definitions b =>
    exact asks_bound fun b => asks_nameForm name (s.workspace.changes_compileText L b definitions)
  | compileFields name ds b =>
    exact asks_bound fun b => asks_nameForm name (s.workspace.changes_compile L b ds)
  | validateForm name =>
    rw [carryOut]
    exact asks_formed fun i x => ⟨.refl s, List.forall_mem_nil _⟩
  | setFormModel name object | setFormContext name object =>
    rw [carryOut]
    exact asks_formed fun i x => asks_onObject fun o =>
      (Changed.refl s).asking trivial fun _ => hc
  | setFormBinding name b =>
    rw [carryOut]
    exact asks_formed fun i x => asks_bound fun b => (Changed.refl s).asking trivial fun _ => hc
  | disposeForm name =>
    rw [carryOut]
    exact asks_formed fun i x =>
      Changed.answering ⟨s.store.changes_disposeForm hc i, rfl, Or.inl rfl⟩
  | takeProxy name key part proxy =>
    exact asks_fielded fun x => asks_present fun p _ => Changed.answering (.of_eq rfl rfl rfl)
  | takeValidator name key validator =>
    exact asks_fielded fun x => Changed.answering (.of_eq rfl rfl rfl)

end Session

/-! ## Tasks -/

/-- What holds of nodes is a matter of their listeners alone. -/
structure Store.Trait.OfListeners (T : Store.Trait H) : Prop where
  proxy : ∀ {p x y}, y.listeners = x.listeners → T.proxy p x → T.proxy p y
  validator : ∀ {v x y}, y.listeners = x.listeners → T.validator v x → T.validator v y

namespace Store

variable {T : Trait H} {s u : Store H}

theorem ofListeners_heard (Q R : Listener H → Prop) : (heard Q R).OfListeners where
  proxy e h := by simpa only [heard, e] using h
  validator e h := by simpa only [heard, e] using h

theorem All.setGuard (hl : T.OfListeners) (h : s.All T) (n : Node) (g : Guard) :
    (s.setGuard n g).All T := by
  cases n with
  | proxy p => exact h.modifyProxy fun _ _ => hl.proxy rfl
  | validator v => exact h.modifyValidator fun _ _ => hl.validator rfl

theorem All.noteOutcome (hl : T.OfListeners) (h : s.All T) (n : Node) (o : RunOutcome) :
    (s.noteOutcome n o).All T := by
  cases n with
  | proxy p => exact h.modifyProxy fun _ _ => hl.proxy rfl
  | validator v => exact h.modifyValidator fun _ _ => hl.validator rfl

/-- To perform a task leaves listeners as they are, apart from subscriptions. -/
theorem All.performs {L : Licence H} (st : T.Stable L) (hl : T.OfListeners) {ev : Evaluator}
    {tk : Task H} {new : List (Task H)} (h : s.All T) (hp : tk.Performs ev s u new) : u.All T := by
  cases hp with
  | close | tell | miss | heed | ignore | refuse | keep | gone | goneExtra | bound | pass => exact h
  | follow => exact h.follow st _
  | request | again | extra => exact h.setGuard hl _ _
  | stop | stopExtra => exact (h.setGuard hl _ _).noteOutcome hl _ _
  | update => exact h.modifyProxy fun _ _ => hl.proxy rfl
  | judge => exact h.modifyValidator fun _ _ => hl.validator rfl
  | @bind b p x hx hd =>
    have bound : ((s.detach p).modifyProxy p fun x => { x with binding := b }).All T :=
      (h.detach st p).modifyProxy fun _ _ => hl.proxy rfl
    exact bound.attach st p

end Store

/-! ## Moves -/

/-- A piece of work that is not done by the store alone: to call a handler, to go on with its script,
    and to answer. -/
def Work.isOuter : Work → Bool
  | .task (.call (.handler _) _) => true
  | .task _ => false
  | .script .. | .reply .. => true

/-- A piece of work that commands and handlers leave. -/
def Work.IsAsk : Work → Prop
  | .task tk => tk.IsAsk
  | .script .. | .reply .. => True

/-- Work binds proxies to other objects. -/
def Work.isRebind : Work → Bool
  | .task tk => tk.isRebind
  | .script .. | .reply .. => false

/-- Handlers that are called, or whose scripts go on, do no more than a licence allows. -/
def Work.Within (L : Licence Script) : Work → Prop
  | .task (.call (.handler x) _) => L.installs x
  | .script _ _ actions => ∀ a ∈ actions, a.command.IsAllowed L
  | _ => True

theorem Work.within_all (w : Work) : w.Within .all := by
  unfold Work.Within
  split
  · trivial
  · exact fun a _ => a.command.isAllowed_all
  · trivial

/-- Tasks that commands leave call no handlers. -/
theorem Task.IsAsk.within {tk : Task Script} (h : tk.IsAsk) (L : Licence Script) :
    (Work.task tk).Within L := by
  unfold Task.IsAsk at h
  split at h <;> trivial

namespace Session

variable {L : Licence Script} {s t : Session}

/-- What a move comes to. -/
inductive Turn (L : Licence Script) (s t : Session) : Prop
  /-- The next task is performed. -/
  | perform {tk : Task Script} {rest : List Work} (hs : s.agenda = .task tk :: rest)
      (inner : (Work.task tk).isOuter = false)
      (ht : t.agenda = (tk.perform s.engine.evaluator s.store).2.map .task ++ rest)
      (hu : (tk.perform s.engine.evaluator s.store).1.Changes L t.store)
      (hn : t.objects = s.objects)
  /-- Work is done from outside the store, or a command is given: what comes next may be over, and
      something else comes before the rest. -/
  | ask {pre ws rest : List Work} (hs : s.agenda = pre ++ rest) (hp : pre.length ≤ 1)
      (outer : ∀ w ∈ s.agenda.head?, w.isOuter) (ht : t.agenda = ws ++ rest)
      (hw : ∀ w ∈ ws, w.IsAsk ∧ w.Within L ∧ (w.isRebind → L.writes))
      (hu : s.store.Changes L t.store) (hn : s.Renames L t)

theorem changes_sweep {u : Store Script} (h : u.Changes L t.store) : u.Changes L t.sweep.store :=
  h.trans (t.store.changes_sweep t.held)

/-- To carry out a command puts its tasks and its reply before the rest. -/
theorem start_spec (s : Session) (e : Option Occasion) {c : Command} (hc : c.IsAllowed L)
    (hp : Puts L s.objects e s.store.objects.next) (handler : Option String) :
    ∃ (ts : List (Task Script)) (r : Reply),
      (s.start e c handler).sweep.agenda = ts.map .task ++ .reply r handler :: s.agenda ∧
      (∀ tk ∈ ts, tk.IsAsk ∧ (tk.isRebind → L.writes)) ∧
      s.store.Changes L (s.start e c handler).sweep.store ∧
      s.Renames L (s.start e c handler).sweep := by
  have h := asks_carryOut s e hc hp
  refine ⟨_, (s.carryOut e c).reply, ?_, h.tasks, changes_sweep h.changes, h.names⟩
  show _ ++ [_] ++ (s.carryOut e c).session.agenda = _
  rw [h.agenda, List.append_assoc]
  rfl

/-- What commands leave is no more than a licence allows. -/
theorem within_of_asks {ts : List (Task Script)} (r : Reply) (handler : Option String)
    (h : ∀ tk ∈ ts, tk.IsAsk ∧ (tk.isRebind → L.writes)) :
    ∀ w ∈ ts.map Work.task ++ [.reply r handler], w.IsAsk ∧ w.Within L ∧ (w.isRebind → L.writes) := by
  intro w hw
  rcases List.mem_append.1 hw with hw | hw
  · obtain ⟨tk, htk, rfl⟩ := List.mem_map.1 hw
    exact ⟨(h tk htk).1, (h tk htk).1.within L, (h tk htk).2⟩
  · obtain rfl := List.mem_singleton.1 hw
    exact ⟨trivial, trivial, nofun⟩

/-- What a reply leaves to be done, and what it changes. -/
theorem replyTo_spec (s : Session) (handler : Option String) (r : Reply) :
    ∃ ws, (s.replyTo handler r).agenda = ws ++ s.agenda ∧
      (∀ w ∈ ws, w.IsAsk ∧ w.Within L ∧ (w.isRebind → L.writes)) ∧
      s.store.Changes L (s.replyTo handler r).store ∧ (s.replyTo handler r).objects = s.objects := by
  have deliver : ∀ (s : Session) (a : Answer), (s.deliver a handler).agenda = s.agenda ∧
      (s.deliver a handler).store = s.store ∧ (s.deliver a handler).objects = s.objects := by
    intro s a
    cases handler <;> exact ⟨rfl, rfl, rfl⟩
  have ended : ∀ a, ∃ ws, (s.deliver a handler).agenda = ws ++ s.agenda ∧
      (∀ w ∈ ws, w.IsAsk ∧ w.Within L ∧ (w.isRebind → L.writes)) ∧
      s.store.Changes L (s.deliver a handler).store ∧
      (s.deliver a handler).objects = s.objects := by
    intro a
    obtain ⟨h₁, h₂, h₃⟩ := deliver s a
    exact ⟨[], h₁, List.forall_mem_nil _, h₂ ▸ .refl, h₃⟩
  cases r with
  | answer a => exact ended a
  | proxyValue p named => exact ended _
  | validatorResult v => exact ended _
  | formBound f b named =>
    obtain ⟨h₁, h₂, h₃⟩ := deliver
      (s.withStore (s.store.modifyForm f fun x => { x with binding := b })) (.bound
        ((((s.withStore (s.store.modifyForm f fun x => { x with binding := b })).store.form? f).map
          (s.withStore (s.store.modifyForm f fun x => { x with binding := b })).isValid).getD true)
        ((s.withStore (s.store.modifyForm f fun x => { x with binding := b })).store.boundType b.model)
        ((s.withStore (s.store.modifyForm f fun x => { x with binding := b })).store.boundType
          b.context))
    exact ⟨[], h₁, List.forall_mem_nil _, h₂ ▸ .single (.bindForm s.store f b), h₃⟩
  | failing f last rest found =>
    cases rest with
    | nil => exact ended _
    | cons x rest =>
      refine ⟨_, rfl, @within_of_asks L [.recompute (.validator x.2) false] _ _ ?_, .refl, rfl⟩
      intro tk htk
      obtain rfl := List.mem_singleton.1 htk
      exact ⟨trivial, nofun⟩

theorem step_of_agenda {w : Work} {rest : List Work} (hs : s.agenda = w :: rest) :
    s.step = (({ s with agenda := rest } : Session).work w).sweep := by
  simp only [step, hs]

theorem work_of_inner {tk : Task Script} (h : (Work.task tk).isOuter = false) :
    s.work (.task tk) = (s.withStore (tk.perform s.engine.evaluator s.store).1).push
      ((tk.perform s.engine.evaluator s.store).2.map .task) := by
  cases tk with
  | call l e =>
    cases l with
    | handler f => cases h
    | proxy | validator => rfl
  | _ => rfl

theorem eq_call_of_outer {tk : Task Script} (h : (Work.task tk).isOuter = true) :
    ∃ script v, tk = .call (.handler script) v := by
  cases tk with
  | call l e =>
    cases l with
    | handler script => exact ⟨script, e, rfl⟩
    | proxy | validator => cases h
  | _ => cases h

/-- To perform a task that calls no handler puts what follows before the rest. -/
theorem step_perform {tk : Task Script} {rest : List Work} (hs : s.agenda = .task tk :: rest)
    (inner : (Work.task tk).isOuter = false) :
    s.step = ((({ s with agenda := rest } : Session).withStore
      (tk.perform s.engine.evaluator s.store).1).push
        ((tk.perform s.engine.evaluator s.store).2.map .task)).sweep := by
  rw [step_of_agenda hs, work_of_inner inner]
  rfl

/-- What the next piece of work comes to, if it is no more than a licence allows. -/
theorem turn_step (hL : L.Closed) (hw : ∀ w ∈ s.agenda.head?, w.Within L) : s.Turn L s.step := by
  have outside : ∀ {w : Work} {rest : List Work} (ws : List Work) {t : Session},
      s.agenda = [w] ++ rest → w.isOuter → t.agenda = ws ++ rest →
      (∀ w ∈ ws, w.IsAsk ∧ w.Within L ∧ (w.isRebind → L.writes)) →
      s.store.Changes L t.store → s.Renames L t → s.Turn L t := by
    intro w rest ws t hs hw ht hws hu hn
    refine .ask hs (Nat.le_refl _) ?_ ht hws hu hn
    rw [hs]
    intro w' hw'
    cases hw'
    exact hw
  have script : ∀ {id : String} {e : Occasion} {actions : List Action},
      (∀ a ∈ actions, a.command.IsAllowed L) →
      ∀ w ∈ [Work.script id e actions], w.IsAsk ∧ w.Within L ∧ (w.isRebind → L.writes) := by
    intro id e actions h w hw
    obtain rfl := List.mem_singleton.1 hw
    exact ⟨trivial, h, nofun⟩
  cases hs : s.agenda with
  | nil =>
    have hstep : s.step = s := by rw [Session.step, hs]
    rw [hstep]
    exact @Turn.ask _ _ _ [] [] [] hs (Nat.zero_le _) (by simp [hs]) hs (by simp) .refl (Or.inl rfl)
  | cons w rest =>
    have hw : w.Within L := hw w (by rw [hs]; rfl)
    by_cases inner : ∃ tk, w = .task tk ∧ w.isOuter = false
    · obtain ⟨tk, rfl, hi⟩ := inner
      rw [step_perform hs hi]
      exact .perform hs hi rfl (changes_sweep .refl) rfl
    · rw [Session.step, hs]
      cases w with
      | task tk =>
        cases hi : (Work.task tk).isOuter with
        | false => exact absurd ⟨tk, rfl, hi⟩ inner
        | true =>
          obtain ⟨x, v, rfl⟩ := eq_call_of_outer hi
          exact outside [.script x.id _ x.actions] hs rfl rfl (script (hL.actions x hw))
            (changes_sweep .refl) (Or.inl rfl)
      | script id e actions =>
        rcases actions with _ | ⟨⟨condition, c⟩, actions⟩
        · exact outside [] hs rfl rfl (List.forall_mem_nil _) (changes_sweep .refl) (Or.inl rfl)
        have hrest : ∀ a ∈ actions, a.command.IsAllowed L :=
          fun a ha => hw a (List.mem_cons_of_mem _ ha)
        show s.Turn L (Session.work _ _).sweep
        rw [Session.work]
        split
        · obtain ⟨ts, r, ht, hts, hu, hn⟩ := start_spec
            (({ s with agenda := rest } : Session).push [.script id e actions]) (some e) (c := c)
            (hw _ List.mem_cons_self) (fun hL' u u' x v _ _ => hL.puts hL' v) (some id)
          refine outside ((ts.map .task ++ [.reply r (some id)]) ++ [.script id e actions]) hs rfl ?_
            ?_ hu hn
          · rw [ht, List.append_assoc, List.append_assoc]
            rfl
          · intro w hw
            rcases List.mem_append.1 hw with hw | hw
            · exact within_of_asks r (some id) hts w hw
            · exact script hrest w hw
        · exact outside [.script id e actions] hs rfl rfl (script hrest) (changes_sweep .refl)
            (Or.inl rfl)
      | reply r handler =>
        obtain ⟨ws, ht, hws, hu, hn⟩ := replyTo_spec ({ s with agenda := rest } : Session) handler r
        exact outside ws hs rfl ht hws (changes_sweep hu) (Or.inl hn)

/-- To give a command comes to carrying it out before the rest. -/
theorem turn_start (hs : ∀ w ∈ s.agenda.head?, w.isOuter) (e : Option Occasion) {c : Command}
    (hc : c.IsAllowed L) (hp : Puts L s.objects e s.store.objects.next) (handler : Option String) :
    s.Turn L (s.start e c handler).sweep := by
  obtain ⟨ts, r, ht, hts, hu, hn⟩ := start_spec s e hc hp handler
  refine .ask (List.nil_append _).symm (Nat.zero_le _) hs ?_ (within_of_asks r handler hts) hu hn
  rw [ht, List.append_assoc]
  rfl

/-- To give a command of the caller comes to carrying it out. -/
theorem turn_caller (idle : s.agenda = []) {c : Command} (hc : c.IsAllowed L)
    (hp : Puts L s.objects none s.store.objects.next) :
    s.Turn L (({ s with log := [], answer := none } : Session).start none c none).sweep := by
  obtain ⟨ts, r, ht, hts, hu, hn⟩ :=
    start_spec ({ s with log := [], answer := none } : Session) none hc hp none
  refine .ask (List.nil_append _).symm (Nat.zero_le _) (by simp [idle]) ?_
    (within_of_asks r none hts) hu hn
  rw [ht, List.append_assoc]
  rfl

theorem puts_all {objects : List (String × ObjectRef)} {e : Option Occasion} {n : Nat} :
    Puts .all objects e n := fun _ _ _ _ _ _ _ => trivial

theorem Gives.turn {c : Command} (h : s.Gives c t) : s.Turn .all t := by
  cases h with
  | caller hs => exact turn_caller hs c.isAllowed_all puts_all
  | handler hs => exact turn_start (by simp [hs, Work.isOuter]) _ c.isAllowed_all puts_all _
  | script => exact turn_step Licence.closed_all fun w _ => w.within_all

/-- What a move comes to. -/
theorem Move.turn (h : s.Move t) : s.Turn .all t := by
  cases h with
  | give c hg => exact hg.turn
  | step => exact turn_step Licence.closed_all fun w _ => w.within_all

/-- What is stable and a matter of listeners outlasts whatever happens. -/
theorem Turn.all {T : Store.Trait Script} (st : T.Stable L) (hl : T.OfListeners) (h : s.store.All T)
    (ht : s.Turn L t) : t.store.All T := by
  cases ht with
  | @perform tk _ _ _ _ hu =>
    exact (h.performs st hl (tk.performs s.engine.evaluator s.store)).changes st hu
  | ask _ _ _ _ _ hu => exact h.changes st hu

end Session

end LiveForm
