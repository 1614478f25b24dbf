/-
  When rounds begin, and when properties change.

  One move begins one round at most, and it comes next. A property of an object that is there changes
  only where a command sets or removes it, and then a round of those who are registered for it begins.

  * `Command.announced?` and `Command.written?`: the property that a command may tell of, and that it may
    change;
  * `Effect.Stirs` and `Sound.stirs`: what commands come to, as far as rounds and properties go;
  * `Session.Stride` and `Sound.stride`: what moves come to;
  * `Gives.begins_notify`: to notify of a property begins a round in any case.
-/
import LiveForm.Proofs.Observing
import LiveForm.Proofs.Registering

namespace LiveForm

/-! ## Commands -/

namespace Command

/-- The property that a command sets or removes, with the name of the object. -/
def written? : Command → Option (String × String)
  | .set name property _ | .remove name property => some (name, property)
  | _ => none

/-- The property that a command may tell of, with the name of the object. -/
def announced? : Command → Option (String × String)
  | .notify name property => some (name, property)
  | c => c.written?

end Command

def Task.isRound {H : Type} : Task H → Bool
  | .round _ _ => true
  | _ => false

def Work.isRound : Work → Bool
  | .task tk => tk.isRound
  | .script .. | .reply .. => false

/-- How many rounds are going on. -/
def Session.openRounds (s : Session) : Nat := s.agenda.countP Work.isRound

/-! ## Stores -/

namespace Store

variable {H : Type} {s t u : Store H} {o : ObjectId} {name : String}
  {f : ObjectState H → ObjectState H}

theorem contents_unsubscribeAll (ws : List (ObjectId × Nat)) :
    (s.unsubscribeAll ws).contents = s.contents := by
  unfold unsubscribeAll
  induction ws generalizing s with
  | nil => rfl
  | cons w ws ih => exact ih.trans (contents_modifyObject fun _ => rfl)

theorem contents_detach (p : ProxyId) : (s.detach p).contents = s.contents := by
  unfold detach
  split
  · rfl
  · exact contents_unsubscribeAll _

theorem contents_disposeProxy (p : ProxyId) : (s.disposeProxy p).contents = s.contents := by
  unfold disposeProxy
  split
  · rfl
  · split
    · rfl
    · exact contents_detach (s := s.modifyProxy p _) p

theorem contents_unlistenAll (ws : List (ProxyId × Nat)) :
    (s.unlistenAll ws).contents = s.contents := by
  unfold unlistenAll
  induction ws generalizing s with
  | nil => rfl
  | cons w ws ih => exact ih

theorem contents_silence (v : ValidatorId) : (s.silence v).contents = s.contents := by
  unfold silence
  split
  · rfl
  · exact contents_unlistenAll _

theorem contents_disposeValidator (v : ValidatorId) :
    (s.disposeValidator v).contents = s.contents := by
  unfold disposeValidator
  split
  · rfl
  · split
    · rfl
    · exact contents_silence (s := s.modifyValidator v _) v

theorem contents_disposeField (x : Field) : (s.disposeField x).contents = s.contents := by
  have proxies : ∀ (ps : List ProxyId) (u : Store H),
      (ps.foldl disposeProxy u).contents = u.contents := by
    intro ps
    induction ps with
    | nil => exact fun u => rfl
    | cons p ps ih => exact fun u => (ih _).trans (contents_disposeProxy p)
  exact (proxies _ _).trans (contents_disposeValidator _)

theorem contents_disposeForm (i : FormId) : (s.disposeForm i).contents = s.contents := by
  have fields : ∀ (fs : List Field) (u : Store H),
      (fs.foldl disposeField u).contents = u.contents := by
    intro fs
    induction fs with
    | nil => exact fun u => rfl
    | cons x fs ih => exact fun u => (ih _).trans (contents_disposeField x)
  unfold disposeForm
  split
  · rfl
  · exact fields _ s

theorem Consents.of_contents (h : t.contents = s.contents) : s.Consents t := fun o _ _ => by rw [h]

theorem Consents.refl (s : Store H) : s.Consents s := .of_contents rfl

theorem Builds.consents (h : s.Builds t) : s.Consents t := fun o ho _ => by
  rw [contents, contents, h.old o ho.lt_next]

/-- What is gone does not come back. -/
theorem Later.lives (h₁ : s.Later t) (h₂ : t.Later u) (hs : s.Lives o) (hu : u.Lives o) :
    t.Lives o := by
  obtain ⟨z, hz⟩ := lives_iff.1 hu
  obtain ⟨y, hy, -⟩ := h₂.objects.old _ z (Nat.lt_of_lt_of_le hs.lt_next h₁.objects.next) hz
  exact lives_iff.2 ⟨y, hy⟩

theorem Consents.trans (h₁ : s.Consents t) (h₂ : t.Consents u) (l₁ : s.Later t) (l₂ : t.Later u) :
    s.Consents u := fun o hs hu =>
  have ht := l₁.lives l₂ hs hu
  (h₂ o ht hu).trans (h₁ o hs ht)

/-- A round of a property is for the same listeners, whatever the property is. -/
theorem roundOf_congr (h : (t.object? o).map (fun x => x.subscribers) =
    (s.object? o).map fun x => x.subscribers) :
    t.roundOf (.property o name) = s.roundOf (.property o name) := by
  have subscribersOf_eq : ∀ u : Store H, u.subscribersOf o name =
      ((u.object? o).map (fun x => x.subscribers)).elim [] fun r =>
        (r.entries.filter fun e => e.2.property == name).map Prod.fst := by
    intro u
    unfold subscribersOf
    cases u.object? o <;> rfl
  simp only [roundOf, subscribersOf_eq, h]

theorem Builds.roundOf (h : s.Builds t) (ho : s.Lives o) :
    t.roundOf (.property o name) = s.roundOf (.property o name) :=
  roundOf_congr (by rw [h.old o ho.lt_next])

theorem Touches.roundOf (h : s.Touches name f) (m : String) :
    (s.modifyObject o f).roundOf (.property o m) = s.roundOf (.property o m) := by
  refine roundOf_congr ?_
  rw [object?_modifyObject, if_pos rfl, Option.map_map]
  exact congrArg (fun g => (s.object? o).map g) (funext h.subscribers)

end Store

/-! ## Effects -/

/-- An effect begins no round. -/
def Effect.Mute (x : Effect) : Prop := ∀ tk ∈ x.tasks, tk.isRound = false

/-- What the effect of a command comes to, as far as rounds and properties go. -/
inductive Effect.Stirs (s : Session) (c : Command) (x : Effect) : Prop
  /-- No round begins, and no property changes. -/
  | quiet (mute : x.Mute) (kept : s.store.Consents x.session.store)
  /-- Those who are registered for a property are to be told, and no other one changes. -/
  | tells {n name : String} {o : ObjectRef} (target : c.announced? = some (n, name))
      (named : s.objects.lookup n = some o)
      (tasks : x.tasks = [s.store.roundOf (.property o.id name)])
      (kept : ∀ z : ObjectId × String, s.store.Lives z.1 →
        x.session.store.property z.1 z.2 ≠ s.store.property z.1 z.2 →
          z = (o.id, name) ∧ c.written? = some (n, name))

namespace Session

variable {s t : Session} {e : Option Occasion} {c : Command}

/-! ### Rounds -/

theorem mute_nil {r : Reply} : Effect.Mute ⟨s, [], r⟩ := List.forall_mem_nil _

theorem mute_single {tk : Task Script} {r : Reply} (h : tk.isRound = false) :
    Effect.Mute ⟨s, [tk], r⟩ := fun tk' h' => by rwa [List.mem_singleton.1 h']

theorem mute_present {α : Type} {x : Except Missing α} {f : α → Effect} (hf : ∀ a, (f a).Mute) :
    (s.present x f).Mute := by
  cases x with
  | ok a => exact hf a
  | error m => exact mute_nil

theorem mute_targetUpdated (v : ValidatorId) : (s.targetUpdated v).Mute := by
  unfold targetUpdated
  split
  · split
    · exact mute_single rfl
    · exact mute_nil
  · exact mute_nil

theorem mute_evaluate (template : String) (b : Binding) : (s.evaluate template b).Mute := by
  unfold evaluate
  split <;> exact mute_nil

/-- A command that tells of no property begins no round. -/
theorem mute_carryOut (hc : c.announced? = none) : (s.carryOut e c).Mute := by
  by_cases plain : c.isPlain
  · cases c with
    | bind | constant | judge | newValidator | compile | compileFields | observe | listen | watch =>
      cases plain
    | set | remove | notify => cases hc
    | newObject | get | properties | subscriberCount | unobserve | clone | peek | dispose | debug
    | disposeValidator => exact mute_present fun _ => mute_nil
    | newObjectOf | dropObject | filters | register | statistics | dropProxy | unlisten
    | dropValidator | unwatch | field | fields | dropForm => exact mute_nil
    | evaluate template b =>
      exact mute_present fun _ => mute_present fun _ => mute_evaluate template _
    | applyFilter | proxy | validator | takeValidator =>
      exact mute_present fun _ => mute_present fun _ => mute_nil
    | takeProxy =>
      exact mute_present fun _ => mute_present fun _ => mute_present fun _ => mute_nil
    | refresh | validate => exact mute_present fun _ => mute_single rfl
    | setModel | setContext | setFormModel | setFormContext =>
      exact mute_present fun _ => mute_present fun _ => mute_single rfl
    | setBinding | setFormBinding =>
      exact mute_present fun _ => mute_present fun _ => mute_present fun _ => mute_single rfl
    | targetUpdated => exact mute_present mute_targetUpdated
    | validateForm | disposeForm => exact mute_present fun _ => mute_nil
  · rw [Effect.Mute, (over_of_not_plain (by simpa using plain)).tasks]
    exact List.forall_mem_nil _

/-! ### Properties -/

theorem consents_present {α : Type} {x : Except Missing α} {f : α → Effect}
    (hf : ∀ a, x = .ok a → s.store.Consents (f a).session.store) :
    s.store.Consents (s.present x f).session.store := by
  cases x with
  | ok a => exact hf a rfl
  | error m => exact .refl _

/-- A command that sets or removes no property leaves those of objects that are there as they are. -/
theorem Sound.consents_carryOut (h : s.Sound) (he : s.Aware e) (hc : c.written? = none) :
    s.store.Consents (s.carryOut e c).session.store := by
  have allowed (hc : c.IsAllowed { Licence.all with writes := False }) :
      s.store.Consents (s.carryOut e c).session.store :=
    (Store.spares_of_changes (asks_carryOut s e hc fun hw => hw.elim).changes).consents id
  cases c with
  | set | remove => cases hc
  | newObject name typeName ps =>
    have made := s.store.builds_newObject typeName
    refine consents_present fun u hu => (setAll_spec made (Nat.le_refl _) (fun n hn => ?_)
      (fun o ho z hz => ?_) hu).1.consents
    · exact made.lives (h.object hn)
    · exact made.alive (he o ho z hz)
  | newObjectOf name j => exact (s.store.newObjectOf_spec j).1.consents
  | dropObject => exact .refl _
  | setModel | setContext | setFormModel | setFormContext =>
    exact consents_present fun _ _ => consents_present fun _ _ => .refl _
  | setBinding | setFormBinding =>
    exact consents_present fun _ _ => consents_present fun _ _ => consents_present fun _ _ =>
      .refl _
  | dispose => exact consents_present fun p _ => .of_contents (Store.contents_disposeProxy p)
  | disposeValidator =>
    exact consents_present fun v _ => .of_contents (Store.contents_disposeValidator v)
  | disposeForm =>
    exact consents_present fun i _ => .of_contents (Store.contents_disposeForm i.1)
  | _ => exact allowed trivial

/-! ### Commands that tell -/

theorem stirs_onObject {name : String} {f : ObjectRef → Effect}
    (hf : ∀ o, s.objects.lookup name = some o → (f o).Stirs s c) : (s.onObject name f).Stirs s c := by
  have lookup : ∀ o, orMissing (.object name) (s.objects.lookup name) = .ok o →
      s.objects.lookup name = some o := fun _ => ok_of_orMissing
  unfold onObject
  cases hx : orMissing (.object name) (s.objects.lookup name) with
  | ok o => exact hf o (lookup o hx)
  | error m => exact .quiet mute_nil (.refl _)

/-- To change a property at most and then to tell of it. -/
theorem stirs_announce {u : Store Script} (hb : s.store.Builds u) {n name : String} {o : ObjectRef}
    (named : s.objects.lookup n = some o) (alive : s.store.Lives o.id)
    {f : ObjectState Script → ObjectState Script} (hf : u.Touches name f)
    (target : c.announced? = some (n, name))
    (written : (∀ x, f x = x) ∨ c.written? = some (n, name)) {v : Session} {r : Reply}
    (hv : v.store = u.modifyObject o.id f) : Effect.Stirs s c ⟨v, v.announce o.id name, r⟩ := by
  refine .tells target named ?_ fun z hz hne => ?_
  · rw [announce, hv, hf.roundOf, hb.roundOf alive]
  · have old : u.property z.1 z.2 = s.store.property z.1 z.2 := by
      rw [Store.property, Store.property, hb.old z.1 hz.lt_next]
    have hne : (u.modifyObject o.id f).property z.1 z.2 ≠ u.property z.1 z.2 := by
      rwa [← hv, old]
    refine ⟨by_contra fun h => hne (Situation.Touches.property_of_ne hf h),
      written.resolve_left fun same => hne ?_⟩
    obtain rfl : f = fun x => x := funext same
    rw [Store.modifyObject_id]

theorem Sound.stirs (h : s.Sound) (he : s.Aware e) (c : Command) : (s.carryOut e c).Stirs s c := by
  have quiet (ha : c.announced? = none) (hw : c.written? = none) : (s.carryOut e c).Stirs s c :=
    .quiet (mute_carryOut ha) (h.consents_carryOut he hw)
  cases c with
  | set n name x =>
    refine stirs_onObject fun o ho => ?_
    have alive := h.object (mem_of_lookup ho)
    unfold given
    cases hx : resolve s.objects e s.store x with
    | error m => exact .quiet mute_nil (.refl _)
    | ok uv =>
      obtain ⟨u, v⟩ := uv
      obtain ⟨hb, hv⟩ := resolve_spec s.store x (fun _ => h.object) he hx
      show Effect.Stirs s _ ((s.withStore u).set o.id name v)
      unfold Session.set
      split
      · exact .quiet mute_nil hb.consents
      · exact stirs_announce hb ho alive (Store.touches_setProperty hv) rfl (.inr rfl) rfl
  | remove n name =>
    refine stirs_onObject fun o ho => ?_
    have alive := h.object (mem_of_lookup ho)
    unfold Session.remove
    split
    · exact .quiet mute_nil (.refl _)
    · exact stirs_announce (.refl _) ho alive Store.touches_removeProperty rfl (.inr rfl) rfl
  | notify n name =>
    refine stirs_onObject fun o ho => ?_
    have alive := h.object (mem_of_lookup ho)
    exact stirs_announce (.refl _) ho alive (s.store.touches_nothing name) rfl (.inl fun _ => rfl)
      (Store.modifyObject_id _ _).symm
  | _ => exact quiet rfl rfl

end Session

/-! ## Tasks -/

section

variable {H : Type} {ev : Evaluator} {s u : Store H} {tk : Task H} {new : List (Task H)}

/-- A round of a node is for those who listen to it. -/
theorem Store.roundOf_of_node {n : Node} {e : Event} (he : e.node? = some n) :
    s.roundOf e = .round e (((s.listeners? n).map Roster.numbers).getD []) := by
  cases e with
  | property o name => cases he
  | value p v | result v r =>
    cases he
    rw [listeners?, Option.map_map]
    rfl

/-- To perform a task begins no round, or the round of a node that shows something else. -/
theorem Task.Performs.rounds (h : tk.Performs ev s u new) :
    new.countP isRound ≤ tk.isRound.toNat ∨
      tk.isRound = false ∧ ∃ e : Event, e.node?.isSome ∧ new = [s.roundOf e] := by
  cases h with
  | @update p x v force hx hd =>
    have same : (s.replaceValue p v).listeners? (.proxy p) = s.listeners? (.proxy p) :=
      Store.map_proxy?_modifyProxy fun _ _ => rfl
    exact Or.inr ⟨rfl, .value p v, rfl, by
      rw [Store.roundOf_of_node rfl, Store.roundOf_of_node rfl, same]⟩
  | @judge v x r force hx =>
    split
    · exact Or.inl (Nat.zero_le _)
    · have same : (s.replaceResult v r).listeners? (.validator v) = s.listeners? (.validator v) :=
        Store.map_validator?_modifyValidator fun _ _ => rfl
      exact Or.inr ⟨rfl, .result v r, rfl, by
        rw [Store.roundOf_of_node rfl, Store.roundOf_of_node rfl, same]⟩
  | request => split <;> exact Or.inl (by simp [Task.isRound])
  | _ => exact Or.inl (by simp [Task.isRound])

end

/-! ## Moves -/

namespace Session

variable {s t : Session} {c : Command}

/-- What a move comes to, as far as rounds and properties go. -/
inductive Stride (s t : Session) : Prop
  /-- No round begins, and no property changes. -/
  | still (rounds : t.openRounds ≤ s.openRounds) (kept : s.store.Consents t.store)
  /-- A round of a node begins. -/
  | shows {e : Event} {rest : List Work} (node : e.node?.isSome)
      (agenda : t.agenda = .task (s.store.roundOf e) :: rest)
      (rounds : t.openRounds = s.openRounds + 1) (kept : s.store.Consents t.store)
  /-- A command begins a round of a property, and changes no other one. -/
  | tells {c : Command} {n name : String} {o : ObjectRef} {r : Reply} {handler : Option String}
      {rest : List Work} (given : s.Gives c t) (target : c.announced? = some (n, name))
      (named : s.objects.lookup n = some o)
      (agenda : t.agenda =
        .task (s.store.roundOf (.property o.id name)) :: .reply r handler :: rest)
      (length : rest.length = s.agenda.length) (rounds : t.openRounds = s.openRounds + 1)
      (kept : ∀ z : ObjectId × String, s.store.Lives z.1 → t.store.Lives z.1 →
        t.store.property z.1 z.2 ≠ s.store.property z.1 z.2 →
          z = (o.id, name) ∧ c.written? = some (n, name))

/-- A round that begins comes next, and is the only one that does. -/
theorem Stride.begins (h : s.Stride t) (more : s.openRounds < t.openRounds) :
    ∃ e rest, t.agenda = .task (s.store.roundOf e) :: rest ∧ t.openRounds = s.openRounds + 1 := by
  cases h with
  | still rounds => exact absurd more (Nat.not_lt.2 rounds)
  | shows _ agenda rounds | tells _ _ _ agenda _ rounds => exact ⟨_, _, agenda, rounds⟩

theorem openRounds_tasks (ts : List (Task Script)) {rest : List Work}
    (h : s.agenda = ts.map .task ++ rest) :
    s.openRounds = ts.countP Task.isRound + rest.countP Work.isRound := by
  rw [openRounds, h, List.countP_append, List.countP_map]
  rfl

theorem openRounds_task {tk : Task Script} {rest : List Work} (h : s.agenda = .task tk :: rest) :
    s.openRounds = tk.isRound.toNat + rest.countP Work.isRound := by
  rw [openRounds_tasks [tk] h]
  cases hk : tk.isRound <;> simp [hk]

/-- Work from outside the store that is no command begins no round. -/
theorem stride_outside (ws : List Work) {w : Work} {rest : List Work} (hs : s.agenda = w :: rest)
    (ht : t.agenda = ws ++ rest) (hws : ∀ w ∈ ws, w.isRound = false)
    (hu : s.store.Changes { Licence.all with writes := False } t.store) : s.Stride t := by
  refine .still ?_ ((Store.spares_of_changes hu).consents id)
  have none : ws.countP Work.isRound = 0 := List.countP_eq_zero.2 fun w hw => by simp [hws w hw]
  rw [openRounds, openRounds, hs, ht, List.countP_append, none, Nat.zero_add]
  exact (List.sublist_cons_self w rest).countP_le

/-- To perform a task begins the round of a node, or none. -/
theorem stride_perform (h : s.Sound) {tk : Task Script} {rest : List Work}
    (hs : s.agenda = .task tk :: rest) (inner : (Work.task tk).isOuter = false) :
    s.Stride s.step := by
  have turn : s.Turn .observing s.step := by
    rw [step_perform hs inner]
    exact .perform hs inner rfl (changes_sweep .refl) rfl
  have kept := turn.consents id h
  have ht : s.step.agenda = (tk.perform s.engine.evaluator s.store).2.map .task ++ rest := by
    rw [step_perform hs inner]
    rfl
  rcases (tk.performs s.engine.evaluator s.store).rounds with hn | ⟨hk, e, he, hn⟩
  · refine .still ?_ kept
    rw [openRounds_tasks _ ht, openRounds_task hs]
    exact Nat.add_le_add_right hn _
  · rw [hn] at ht
    refine .shows he ht ?_ kept
    rw [openRounds_tasks [s.store.roundOf e] ht, openRounds_task hs, hk, Nat.add_comm]
    simp [Store.roundOf, Task.isRound]

/-- What a reply leaves to be done is no round. -/
theorem stride_reply {r : Reply} {handler : Option String} {rest : List Work}
    (hs : s.agenda = .reply r handler :: rest) : s.Stride s.step := by
  obtain ⟨-, -, -, hu, -⟩ := replyTo_spec (L := { Licence.all with writes := False })
    ({ s with agenda := rest } : Session) handler r
  rw [step_of_agenda hs]
  have deliver : ∀ (u : Session) (a : Answer), (u.deliver a handler).agenda = u.agenda := by
    intro u a
    cases handler <;> rfl
  have closes (h : (({ s with agenda := rest } : Session).replyTo handler r).agenda = rest) :
      s.Stride (({ s with agenda := rest } : Session).replyTo handler r).sweep :=
    stride_outside [] hs h (List.forall_mem_nil _) (changes_sweep hu)
  cases r with
  | answer | proxyValue | validatorResult => exact closes (deliver _ _)
  | formBound f b named => exact closes (deliver _ _)
  | failing f last todo found =>
    cases todo with
    | nil => exact closes (deliver _ _)
    | cons x todo =>
      refine stride_outside [_, _] hs rfl ?_ (changes_sweep hu)
      exact List.forall_mem_cons.2 ⟨rfl, List.forall_mem_cons.2 ⟨rfl, List.forall_mem_nil _⟩⟩

/-- To give a command is to carry it out in a session that is as good as the one in which it is
    given. -/
theorem Gives.exists_start (hg : s.Gives c t) (h : s.Sound) :
    ∃ (r : Session) (e : Option Occasion) (handler : Option String), r.Sound ∧ r.Aware e ∧
      r.store = s.store ∧ r.objects = s.objects ∧ r.agenda.length = s.agenda.length ∧
      r.openRounds = s.openRounds ∧ t = (r.start e c handler).sweep := by
  cases hg with
  | caller hs => exact ⟨_, none, none, (h.logged [] none).sound, aware_none, rfl, rfl, rfl, rfl, rfl⟩
  | handler hs => exact ⟨s, _, _, h, h.aware hs, rfl, rfl, rfl, rfl, rfl⟩
  | @script name e condition rest ws hs ha =>
    have popped := h.pop hs rfl
    have pushed := popped.trans (popped.sound.pushScript name rest (h.aware hs))
    refine ⟨({ s with agenda := ws } : Session).push [.script name e rest], some e, some name,
      pushed.sound, h.aware hs, rfl, rfl, ?_, ?_, ?_⟩
    · simp [push, hs]
    · simp [push, openRounds, hs, Work.isRound]
    · have carried : ({ s with agenda := ws } : Session).work (.script name e (.when condition c :: rest))
          = (({ s with agenda := ws } : Session).push [.script name e rest]).start (some e) c
            (some name) := by
        rw [Session.work]
        exact if_pos ha
      rw [step_of_agenda hs, carried]

/-- A command that is carried out puts its tasks and its reply before the rest. -/
theorem agenda_start_sweep (s : Session) (e : Option Occasion) (c : Command)
    (handler : Option String) : (s.start e c handler).sweep.agenda =
      (s.carryOut e c).tasks.map .task ++ .reply (s.carryOut e c).reply handler :: s.agenda := by
  have same := (asks_carryOut (L := .all) s e c.isAllowed_all puts_all).agenda
  show (s.start e c handler).agenda = _
  rw [agenda_start same, Effect.remains, List.append_assoc]
  rfl

theorem openRounds_start_sweep (s : Session) (e : Option Occasion) (c : Command)
    (handler : Option String) : (s.start e c handler).sweep.openRounds =
      (s.carryOut e c).tasks.countP Task.isRound + s.openRounds := by
  rw [openRounds_tasks _ (agenda_start_sweep s e c handler)]
  rfl

/-- To give a command begins a round at most, and then tells of a property. -/
theorem Sound.stride_gives (h : s.Sound) (hg : s.Gives c t) : s.Stride t := by
  obtain ⟨r, e, handler, hr, he, store, objects, length, rounds, rfl⟩ := hg.exists_start h
  have started := hr.start he c handler
  have swept := started.sound.sweep
  have kept : (r.start e c handler).store.Consents (r.start e c handler).sweep.store :=
    (Store.spares_sweep { Licence.all with writes := False } _ _).consents id
  have count := openRounds_start_sweep r e c handler
  rw [rounds] at count
  cases hr.stirs he c with
  | quiet mute unchanged =>
    have none : (r.carryOut e c).tasks.countP Task.isRound = 0 :=
      List.countP_eq_zero.2 fun tk htk => by simp [mute tk htk]
    refine .still (by simp [count, none]) ?_
    rw [← store]
    exact Store.Consents.trans unchanged kept started.later swept.later
  | @tells n name o target named tasks changed =>
    have agenda : (r.start e c handler).sweep.agenda =
        .task (s.store.roundOf (.property o.id name)) :: .reply (r.carryOut e c).reply handler ::
          r.agenda := by
      rw [agenda_start_sweep, tasks, store]
      rfl
    refine .tells hg target (objects ▸ named) agenda length ?_ ?_
    · rw [count, tasks, Nat.add_comm]
      rfl
    · rw [← store]
      intro z hz hz' hne
      have alive := started.later.lives swept.later hz hz'
      rw [kept.property alive hz'] at hne
      exact changed z hz hne

/-- To notify of a property begins a round, whether or not it has changed. -/
theorem Gives.begins_notify {n name : String} (hg : s.Gives (.notify n name) t) (h : s.Sound)
    {o : ObjectRef} (named : s.objects.lookup n = some o) :
    (∃ rest, t.agenda = .task (s.store.roundOf (.property o.id name)) :: rest) ∧
      t.openRounds = s.openRounds + 1 := by
  obtain ⟨r, e, handler, -, -, store, objects, -, rounds, rfl⟩ := hg.exists_start h
  have tasks : (r.carryOut e (.notify n name)).tasks =
      [s.store.roundOf (.property o.id name)] := by
    rw [carryOut, onObject, objects, named, ← store]
    rfl
  rw [agenda_start_sweep, openRounds_start_sweep, tasks, rounds, Nat.add_comm]
  exact ⟨⟨_, rfl⟩, rfl⟩

/-- What a step comes to, as far as rounds and properties go. -/
theorem Sound.stride_step (h : s.Sound) : s.Stride s.step := by
  cases hs : s.agenda with
  | nil =>
    rw [Session.step, hs]
    exact .still (Nat.le_refl _) (.refl _)
  | cons w rest =>
    cases w with
    | task tk =>
      cases tk with
      | call l e =>
        cases l with
        | handler script =>
          rw [step_of_agenda hs]
          exact stride_outside [_] hs rfl (by simp [Work.isRound]) (changes_sweep .refl)
        | proxy | validator => exact stride_perform h hs rfl
      | _ => exact stride_perform h hs rfl
    | script name e actions =>
      cases actions with
      | nil =>
        rw [step_of_agenda hs]
        exact stride_outside [] hs rfl (List.forall_mem_nil _) (changes_sweep .refl)
      | cons a actions =>
        obtain ⟨condition, c⟩ := a
        by_cases ha :
          ({ s with agenda := .script name e actions :: rest } : Session).applies e condition
        · exact h.stride_gives (.script hs ha)
        · have passed : ({ s with agenda := rest } : Session).work
              (.script name e (.when condition c :: actions)) =
                ({ s with agenda := rest } : Session).push [.script name e actions] := by
            rw [Session.work]
            exact if_neg ha
          rw [step_of_agenda hs, passed]
          exact stride_outside [_] hs rfl (by simp [Work.isRound]) (changes_sweep .refl)
    | reply r handler => exact stride_reply hs

/-- What a move comes to, as far as rounds and properties go. -/
theorem Sound.stride (h : s.Sound) (hm : s.Move t) : s.Stride t := by
  cases hm with
  | give c hg => exact h.stride_gives hg
  | step => exact h.stride_step

end Session

end LiveForm
