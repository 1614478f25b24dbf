/-
  What can happen to a session.

  The caller gives commands while nothing is going on, the session does its work, and a handler whose
  turn it is may carry out any command, which is more than its script says.

  * `Session.Gives`, `Session.Move` and `Session.Reachable`: a command that is given, one thing that
    can happen, and the sessions that come about;
  * `Sound.move`: whatever happens leads a sound session onward; `Reachable.sound`: every session that
    comes about is sound;
  * `moves_of_execute`: to carry out a command of the caller comes to moves.
-/
import LiveForm.Proofs.Commands

namespace LiveForm

open Situation

namespace Session

variable {s t : Session}

/-- A command is given: by the caller while nothing is going on, by a handler whose turn it is, or by
    the script of one. -/
inductive Gives (c : Command) : Session → Session → Prop
  | caller {s : Session} (h : s.agenda = []) :
      Gives c s ({ s with log := [], answer := none }.start none c none).sweep
  | handler {s : Session} {name : String} {e : Occasion} {rest : List Action} {ws : List Work}
      (h : s.agenda = .script name e rest :: ws) : Gives c s (s.start (some e) c (some name)).sweep
  | script {s : Session} {name : String} {e : Occasion} {condition : Condition}
      {rest : List Action} {ws : List Work} (h : s.agenda = .script name e (.when condition c :: rest) :: ws)
      (ha : ({ s with agenda := .script name e rest :: ws } : Session).applies e condition) :
      Gives c s s.step

/-- One thing that can happen to a session: a command is given, or the next piece of work is done. -/
inductive Move : Session → Session → Prop
  | give {s t : Session} (c : Command) (h : s.Gives c t) : Move s t
  | step (s : Session) : Move s s.step

abbrev Moves : Session → Session → Prop := Relation.ReflTransGen Move

/-- A session comes about on an engine, from objects that there are in the beginning. The filters of the
    engine may be any that are pure and make no objects, as `Filter` has them. -/
def Reachable (g : Engine) (s : Session) : Prop :=
  ∃ objects s₀, (ofEngine g).withObjects objects = .ok s₀ ∧ s₀.Moves s

/-! ## Sweeping -/

/-- To take away what nobody holds comes to steps. -/
theorem steps_sweepUpTo {ev : Evaluator} {ts : List (Task Script)} {held kept : List Entity}
    (hk : ∀ u e, Keeps ⟨u, ts, held⟩ e → e ∈ kept ∨ u.Refers e) (n : Nat) (u : Store Script) :
    Steps ev ⟨u, ts, held⟩ ⟨u.sweepUpTo kept n, ts, held⟩ := by
  induction n generalizing u with
  | zero => exact .refl
  | succ n ih =>
    rw [Store.sweepUpTo]
    split
    · exact .refl
    · next e he =>
      have hn : e ∉ kept ++ u.references := by simpa using List.find?_some he
      refine .head (.drop e fun h => hn ?_) (ih _)
      rw [List.mem_append, Store.mem_references_iff]
      exact hk u e h

theorem Sound.sweep (h : s.Sound) : s.Onward s.sweep := by
  have hk : ∀ u e, Keeps ⟨u, s.situation.tasks, s.situation.held⟩ e → e ∈ s.held ∨ u.Refers e :=
    fun u _ => (keeps_situation (s := s.withStore u)).1
  exact .of_steps h (.refl _) (steps_sweepUpTo hk _ s.store) (fun _ => Or.inl) (fun _ => Or.inl)
    fun _ _ _ _ => Or.inl

/-! ## Work -/

theorem Sound.logged (h : s.Sound) (log : List LogEntry) (answer : Option Answer) :
    s.Onward { s with log := log, answer := answer } :=
  ⟨⟨⟨h.observers, h.listeners, h.bindings⟩, h.situation⟩, .refl _, .refl _, .refl⟩

theorem Sound.deliver (h : s.Sound) (a : Answer) (handler : Option String) :
    s.Onward (s.deliver a handler) := by
  cases handler with
  | none => exact h.logged s.log (some a)
  | some name => exact h.logged (.did name a :: s.log) s.answer

theorem Sound.start (h : s.Sound) {e : Option Occasion} (he : s.Aware e) (c : Command)
    (handler : Option String) : s.Onward (s.start e c handler) :=
  h.leads he c handler

/-- What is no task may leave the agenda, or come onto it if it speaks of what is alive. -/
theorem Sound.reschedule (h : s.Sound) {ws : List Work}
    (ht : ws.filterMap Work.task? = s.agenda.filterMap Work.task?)
    (ha : ∀ w ∈ ws, w ∈ s.agenda ∨ ∀ e ∈ w.entities, s.store.Alive e)
    (hb : ∀ f b named handler, .reply (.formBound f b named) handler ∈ ws →
      .reply (.formBound f b named) handler ∈ s.agenda) : s.Onward { s with agenda := ws } := by
  refine .of_steps h (.refl _) ?_ (fun _ => Or.inl) (fun _ => Or.inl) fun f b n k hm =>
    Or.inl (hb f b n k hm)
  show Steps _ _ ⟨s.store, ws.filterMap Work.task?, _⟩
  rw [ht]
  refine .single (.hold ?_)
  intro e he
  rcases List.mem_append.1 he with he | he
  · exact h.situation.alive e (Or.inl (List.mem_append_left _ he))
  · obtain ⟨w, hw, he⟩ := List.mem_flatMap.1 he
    rcases ha w (List.mem_filter.1 hw).1 with hw | hw
    · exact h.alive (List.mem_append_right _ (List.mem_flatMap.2 ⟨w, hw, he⟩))
    · exact hw e he

theorem Sound.pop (h : s.Sound) {w : Work} {ws : List Work} (hs : s.agenda = w :: ws)
    (hw : w.task? = none) : s.Onward { s with agenda := ws } := by
  refine h.reschedule ?_ (fun w' hw' => Or.inl ?_) fun f b n k hm => ?_
  · rw [hs, List.filterMap_cons, hw]
  · rw [hs]; exact List.mem_cons_of_mem _ hw'
  · rw [hs]; exact List.mem_cons_of_mem _ hm

theorem Sound.pushScript (h : s.Sound) (name : String) {e : Occasion} (actions : List Action)
    (he : s.Aware (some e)) : s.Onward (s.push [.script name e actions]) := by
  refine h.reschedule rfl (fun w hw => ?_) fun f b n k hm => ?_
  · rcases List.mem_cons.1 hw with rfl | hw
    · exact Or.inr (he e rfl)
    · exact Or.inl hw
  · rcases List.mem_cons.1 hm with e | hm
    · cases e
    · exact hm

/-- To perform a task is a step. -/
theorem Sound.perform (h : s.Sound) {tk : Task Script} {ws : List Work}
    (hs : s.agenda = .task tk :: ws) {u : Store Script} {new : List (Task Script)}
    (hp : tk.Performs s.engine.evaluator s.store u new) :
    s.Onward ((({ s with agenda := ws } : Session).withStore u).push (new.map .task)) := by
  have hst : s.situation = ⟨s.store, tk :: ws.filterMap Work.task?,
      s.named ++ (ws.filter (·.task?.isNone)).flatMap Work.entities⟩ := by
    simp only [Session.situation, hs]
    rfl
  refine .of_steps h (.refl _) ?_ (fun _ => Or.inl) (fun _ => Or.inl) fun f b n k hm => Or.inl ?_
  · rw [hst]
    show Steps _ _ ⟨u, (new.map Work.task ++ ws).filterMap Work.task?,
      s.named ++ ((new.map Work.task ++ ws).filter (·.task?.isNone)).flatMap Work.entities⟩
    rw [List.filterMap_append, filterMap_task?_map, List.filter_append, filter_task?_map,
      List.nil_append]
    exact .single (.perform hp)
  · rw [hs]
    rcases List.mem_append.1 hm with hm | hm
    · obtain ⟨tk', -, e⟩ := List.mem_map.1 hm
      cases e
    · exact List.mem_cons_of_mem _ hm

/-- What the next piece of work speaks of is alive. -/
theorem Sound.head (h : s.Sound) {w : Work} {ws : List Work} (hs : s.agenda = w :: ws) :
    ∀ z ∈ w.entities, s.store.Alive z := fun z hz =>
  h.alive (List.mem_append_right _ (List.mem_flatMap.2 ⟨w, by simp [hs], hz⟩))

theorem Sound.aware (h : s.Sound) {name : String} {e : Occasion} {actions : List Action}
    {ws : List Work} (hs : s.agenda = .script name e actions :: ws) : s.Aware (some e) :=
  fun _ ho z hz => h.head hs z (by cases ho; exact hz)

theorem aware_none : s.Aware none := fun _ ho => by cases ho

/-- A handler is told of what is alive. -/
theorem aware_noticeOf (h : s.Sound) {v : Event} (hv : ∀ z ∈ v.entities, s.store.Alive z) :
    s.Aware (some (s.noticeOf v).2) := by
  intro o ho z hz
  cases ho
  cases v with
  | property o name =>
    cases hx : s.store.property o name with
    | none => simp [noticeOf, hx, Value.entities, Value.objects] at hz
    | some w =>
      refine h.situation.alive z (Or.inr (Or.inr (Store.refers_of_property hx z ?_)))
      rwa [noticeOf_property hx] at hz
  | value p w => exact hv z (List.mem_cons_of_mem _ hz)
  | result v r => cases hz

/-- A handler that is told of something gets its turn. -/
theorem Sound.tell (h : s.Sound) {script : Script} {v : Event} {ws : List Work}
    (hs : s.agenda = .task (.call (.handler script) v) :: ws) :
    s.Onward (({ s with agenda := ws } : Session).work (.task (.call (.handler script) v))) := by
  have hp := h.perform hs (.ignore (l := .handler script) (e := v) nofun)
  have hn := hp.sound.logged (.told script.id (s.noticeOf v).1 :: s.log) s.answer
  exact (hp.trans hn).trans (hn.sound.pushScript script.id script.actions (aware_noticeOf h (h.head hs)))

/-- A form is bound to other objects. -/
theorem Sound.bindForm (h : s.Sound) (f : FormId) {b : Binding} (hb : s.store.Knows b) :
    s.Onward (s.withStore (s.store.modifyForm f fun x => { x with binding := b })) := by
  have get : ∀ n, (s.store.forms.modify f.index fun x => { x with binding := b }).get? n =
      if n = f.index then (s.store.forms.get? n).map fun x => { x with binding := b }
      else s.store.forms.get? n := fun n => Roster.get?_modify ..
  refine .of_steps h (.refl _) (.single (.form (fun n x hx => ?_) (fun n hn => ?_)
    (.modify FormState.Later.refl fun _ _ => rfl))) (fun _ => Or.inl)
    (fun _ => Or.inl) fun _ _ _ _ => Or.inl
  · have old : ∀ y, s.store.forms.get? n = some y →
        (∀ e ∈ y.entities, s.store.Alive e) ∧ s.store.Knows y.binding := fun y hy =>
      ⟨fun e he => h.situation.alive e (Or.inr (Or.inr (Or.inr (Or.inr (Or.inr ⟨⟨n⟩, y, hy, he⟩))))),
        h.situation.knows _ (Or.inr (Or.inl ⟨⟨n⟩, y, hy, rfl⟩))⟩
    rw [get] at hx
    split at hx
    · obtain ⟨y, hy, rfl⟩ := Option.map_eq_some_iff.1 hx
      exact ⟨(old y hy).1, hb⟩
    · exact old x hx
  · rw [get]
    split
    · rwa [Option.isSome_map]
    · exact hn

/-- An answer is handed over, or further work follows. -/
theorem Sound.replyTo (h : s.Sound) {r : Reply} {handler : Option String} {ws : List Work}
    (hs : s.agenda = .reply r handler :: ws) :
    s.Onward (({ s with agenda := ws } : Session).replyTo handler r) := by
  have hp := h.pop hs rfl
  refine hp.trans ?_
  have hr : ∀ z ∈ r.entities, s.store.Alive z := h.head hs
  cases r with
  | answer a => exact hp.sound.deliver a handler
  | proxyValue p named => exact hp.sound.deliver _ handler
  | validatorResult v => exact hp.sound.deliver _ handler
  | formBound f b named =>
    have hb : s.store.Knows b := h.bindings f b named handler (by rw [hs]; exact List.mem_cons_self ..)
    have hf := hp.sound.bindForm f hb
    exact hf.trans (hf.sound.deliver _ handler)
  | failing f last rest found =>
    cases rest with
    | nil => exact hp.sound.deliver _ handler
    | cons x rest =>
      refine leads_recompute hp.sound (n := .validator x.2) ?_ (fun z hz => ?_)
        (fun _ _ _ e => by cases e) handler
      · exact hr _ (List.mem_cons_of_mem _ (List.mem_cons_self ..))
      · rcases List.mem_cons.1 hz with rfl | hz
        · exact hr _ (List.mem_cons_self ..)
        · exact hr z (List.mem_cons_of_mem _ (List.mem_cons_of_mem _ hz))

/-- A piece of work leads a sound session onward. -/
theorem Sound.work (h : s.Sound) {w : Work} {ws : List Work} (hs : s.agenda = w :: ws) :
    s.Onward (({ s with agenda := ws } : Session).work w) := by
  match w with
  | .task (.call (.handler script) v) => exact h.tell hs
  | .task (.call (.proxy p) v) => exact h.perform hs (Task.performs ..)
  | .task (.call (.validator x) v) => exact h.perform hs (Task.performs ..)
  | .task (.round v ns) => exact h.perform hs (Task.performs ..)
  | .task (.recompute n force) => exact h.perform hs (Task.performs ..)
  | .task (.pass n force) => exact h.perform hs (Task.performs ..)
  | .task (.settle n k) => exact h.perform hs (Task.performs ..)
  | .task (.settleExtra n k) => exact h.perform hs (Task.performs ..)
  | .task (.rebind b ps) => exact h.perform hs (Task.performs ..)
  | .script name e [] => exact h.pop hs rfl
  | .script name e (.when condition c :: rest) =>
    have he := h.aware hs
    have hp := h.pop hs rfl
    have hq := hp.trans (hp.sound.pushScript name rest he)
    rw [Session.work]
    split
    · exact hq.trans (hq.sound.start he c (some name))
    · exact hq
  | .reply r handler => exact h.replyTo hs

/-- The next piece of work leads a sound session onward. -/
theorem Sound.step (h : s.Sound) : s.Onward s.step := by
  unfold Session.step
  split
  · exact .refl h
  · next w ws hs =>
    have hw := h.work hs
    exact hw.trans hw.sound.sweep

/-- To give a command is to carry it out on the same workspace and with the same names, in a session
    that a sound one leads onward to. -/
theorem Gives.eq_start {c : Command} (hg : Gives c s t) :
    ∃ (r : Session) (e : Option Occasion) (handler : Option String),
      r.workspace = s.workspace ∧ r.objects = s.objects ∧ r.proxies = s.proxies ∧
      r.validators = s.validators ∧ r.forms = s.forms ∧ (s.Sound → s.Onward r ∧ r.Aware e) ∧
      t = (r.start e c handler).sweep := by
  cases hg with
  | caller =>
    exact ⟨{ s with log := [], answer := none }, none, none, rfl, rfl, rfl, rfl, rfl,
      fun h => ⟨h.logged [] none, aware_none⟩, rfl⟩
  | handler hs =>
    exact ⟨s, _, _, rfl, rfl, rfl, rfl, rfl, fun h => ⟨.refl h, h.aware hs⟩, rfl⟩
  | @script name e condition rest ws hs ha =>
    refine ⟨({ s with agenda := ws } : Session).push [.script name e rest], some e, some name, rfl, rfl,
      rfl, rfl, rfl, fun h => ?_, ?_⟩
    · have hp := h.pop hs rfl
      exact ⟨hp.trans (hp.sound.pushScript name rest (h.aware hs)), h.aware hs⟩
    · have hw : ({ s with agenda := ws } : Session).work (.script name e (.when condition c :: rest)) =
          (({ s with agenda := ws } : Session).push [.script name e rest]).start (some e) c
            (some name) := by
        rw [Session.work]
        exact if_pos ha
      simp only [Session.step, hs, hw]

/-- A command is carried out on a sound session with the same workspace and the same names. -/
theorem Sound.gives (h : s.Sound) {c : Command} (hg : Gives c s t) :
    ∃ r e handler, s.Onward r ∧ r.Aware e ∧ r.workspace = s.workspace ∧ r.objects = s.objects ∧
      r.forms = s.forms ∧ t = (r.start e c handler).sweep := by
  obtain ⟨r, e, handler, hw, ho, -, -, hf, hr, ht⟩ := hg.eq_start
  exact ⟨r, e, handler, (hr h).1, (hr h).2, hw, ho, hf, ht⟩

/-- Whatever happens leads a sound session onward. -/
theorem Sound.move (h : s.Sound) (hm : s.Move t) : s.Onward t := by
  cases hm with
  | give c hg =>
    obtain ⟨r, e, handler, hr, he, -, -, -, rfl⟩ := h.gives hg
    have hc := hr.trans (hr.sound.start he c handler)
    exact hc.trans hc.sound.sweep
  | step => exact h.step

theorem Sound.moves (h : s.Sound) (hm : s.Moves t) : s.Onward t := by
  induction hm with
  | refl => exact .refl h
  | tail _ hm ih => exact ih.trans (ih.sound.move hm)

/-! ## Beginnings -/

/-- Nothing is going on in a session without anything in it. -/
theorem sound_ofEngine (g : Engine) : (ofEngine g).Sound where
  observers := nofun
  listeners := nofun
  bindings := nofun
  situation := sound_empty g.evaluator

/-- Objects with names have been made in a session without anything in it. -/
structure Introduces (g : Engine) (s : Session) : Prop where
  shape : s = { (ofEngine g).withStore s.store with objects := s.objects }
  builds : Store.empty.Builds s.store
  lives : ∀ x ∈ s.objects, s.store.Lives x.2.id

theorem Introduces.sound {g : Engine} (h : s.Introduces g) : s.Sound := by
  have hb := Extends.of_builds (sound_ofEngine g) h.builds
  rw [h.shape]
  have none {α : Type} {P : α → Prop} : ∀ x ∈ ([] : List α), P x := fun _ hx => by cases hx
  exact (Extends.names hb.sound h.lives none none none).sound

theorem Introduces.newObject {g : Engine} (h : s.Introduces g) (name : String) :
    ({ s.withStore (s.store.newObject name).1 with
      objects := putName name (s.store.newObject name).2 s.objects } : Session).Introduces g where
  shape := by
    rw [h.shape]
    rfl
  builds := h.builds.trans (s.store.builds_newObject name)
  lives x hx := by
    rcases mem_putName hx with hx | rfl
    · exact (s.store.builds_newObject name).lives (h.lives x hx)
    · exact s.store.lives_newObject name

/-- Properties that are set in the beginning may hold any of the objects. -/
theorem Introduces.setAll {g : Engine} (h : s.Introduces g) {t : Store Script} {o : ObjectRef}
    {ps : List (String × Operand)} (ht : Session.setAll s.objects none s.store o.id ps = .ok t) :
    (s.withStore t).Introduces g := by
  obtain ⟨hb, hl⟩ := setAll_spec h.builds (Nat.zero_le _) h.lives aware_none ht
  refine ⟨?_, hb, fun x hx => hl _ (h.lives x hx)⟩
  conv_lhs => rw [h.shape]
  rfl

theorem Introduces.newObjects {g : Engine} (h : s.Introduces g)
    (objects : List (String × List (String × Operand))) :
    (objects.foldl (fun s x => ({ s.withStore (s.store.newObject x.1).1 with
      objects := putName x.1 (s.store.newObject x.1).2 s.objects } : Session)) s).Introduces g := by
  induction objects generalizing s with
  | nil => exact h
  | cons x objects ih => exact ih (h.newObject x.1)

theorem Introduces.setEach {g : Engine} {t t' : Store Script} (h : (s.withStore t).Introduces g)
    {objects : List (String × List (String × Operand))}
    (ht : objects.foldlM (fun t x => match s.objects.lookup x.1 with
      | some o => Session.setAll s.objects none t o.id x.2
      | none => .error (Missing.object x.1)) t = .ok t') : (s.withStore t').Introduces g := by
  induction objects generalizing t with
  | nil =>
    cases ht
    exact h
  | cons x objects ih =>
    obtain ⟨u, hu, ht⟩ := ok_of_bind ht
    dsimp only at hu
    split at hu
    · exact ih (h.setAll hu) ht
    · cases hu

/-- A session is sound in the beginning. -/
theorem sound_withObjects {g : Engine} {objects : List (String × List (String × Operand))}
    (h : (ofEngine g).withObjects objects = .ok s) : s.Sound := by
  obtain ⟨t, ht, h⟩ := ok_of_bind h
  have hi : (ofEngine g).Introduces g := ⟨rfl, .refl _, fun _ hx => by cases hx⟩
  cases h
  exact ((hi.newObjects objects).setEach ht).sound.sweep.sound

theorem engine_withObjects {g : Engine} {objects : List (String × List (String × Operand))}
    (h : (ofEngine g).withObjects objects = .ok s) : s.engine = g := by
  obtain ⟨t, ht, h⟩ := ok_of_bind h
  have hi : (ofEngine g).Introduces g := ⟨rfl, .refl _, fun _ hx => by cases hx⟩
  cases h
  show (List.foldl _ _ _ : Session).engine = g
  rw [(hi.newObjects objects).shape]
  rfl

/-- Every session that comes about is sound. -/
theorem Reachable.sound {g : Engine} (h : Reachable g s) : s.Sound := by
  obtain ⟨objects, s₀, h₀, h⟩ := h
  exact ((sound_withObjects h₀).moves h).sound

/-- The engine of a session that comes about has read templates at most. -/
theorem Reachable.engine {g : Engine} (h : Reachable g s) : g.Later s.engine := by
  obtain ⟨objects, s₀, h₀, h⟩ := h
  rw [← engine_withObjects h₀]
  exact ((sound_withObjects h₀).moves h).engine

/-! ## Whole commands -/

/-- What every step keeps is kept until the agenda is worked off. -/
theorem of_finish {P : Session → Prop} (step : ∀ s, P s → P s.step) {fuel : Nat} (hs : P s)
    (h : finish fuel s = some t) : P t ∧ t.agenda = [] := by
  induction fuel generalizing s with
  | zero =>
    unfold finish at h
    split at h
    · next ha =>
      cases h
      exact ⟨hs, ha⟩
    · cases h
    · next e => cases e
  | succ fuel ih =>
    unfold finish at h
    split at h
    · next ha =>
      cases h
      exact ⟨hs, ha⟩
    · next e => cases e
    · next e =>
      cases e
      exact ih (step s hs) h

/-- To work off the agenda comes to moves. -/
theorem moves_of_finish {fuel : Nat} (h : finish fuel s = some t) : s.Moves t ∧ t.agenda = [] :=
  of_finish (P := s.Moves) (fun u hm => hm.tail (.step u)) .refl h

/-- To carry out a command of the caller comes to moves. -/
theorem moves_of_execute {fuel : Nat} {c : Command} (hs : s.agenda = [])
    (h : s.execute fuel c = some t) : s.Moves t ∧ t.agenda = [] := by
  obtain ⟨hm, ht⟩ := moves_of_finish h
  exact ⟨.head (.give c (.caller hs)) hm, ht⟩

theorem Reachable.moves {g : Engine} (h : Reachable g s) (hm : s.Moves t) : Reachable g t := by
  obtain ⟨objects, s₀, h₀, h⟩ := h
  exact ⟨objects, s₀, h₀, h.trans hm⟩

theorem Reachable.execute {g : Engine} (h : Reachable g s) (hs : s.agenda = []) {fuel : Nat}
    {c : Command} (ht : s.execute fuel c = some t) : Reachable g t ∧ t.agenda = [] := by
  obtain ⟨hm, ht⟩ := moves_of_execute hs ht
  exact ⟨h.moves hm, ht⟩

/-- A session that has begun with some objects and has carried out commands of the caller. -/
def trial (g : Engine) (fuel : Nat) (objects : List (String × List (String × Operand)))
    (cs : List Command) : Option Session :=
  match (ofEngine g).withObjects objects with
  | .ok s => cs.foldlM (execute fuel) s
  | .error _ => none

/-- To carry out commands of the caller comes to moves. -/
theorem moves_of_executeAll (hs : s.agenda = []) {fuel : Nat} {cs : List Command}
    (ht : cs.foldlM (Session.execute fuel) s = some t) : s.Moves t ∧ t.agenda = [] := by
  induction cs generalizing s with
  | nil =>
    cases ht
    exact ⟨.refl, hs⟩
  | cons c cs ih =>
    obtain ⟨u, hu, ht⟩ := Option.bind_eq_some_iff.1 ht
    obtain ⟨hm, hs⟩ := moves_of_execute hs hu
    obtain ⟨hm', ht⟩ := ih hs ht
    exact ⟨hm.trans hm', ht⟩

theorem agenda_withObjects {g : Engine} {objects : List (String × List (String × Operand))}
    (h : (ofEngine g).withObjects objects = .ok s) : s.agenda = [] := by
  obtain ⟨t, ht, h⟩ := ok_of_bind h
  have hi : (ofEngine g).Introduces g := ⟨rfl, .refl _, fun _ hx => by cases hx⟩
  cases h
  show (List.foldl _ _ _ : Session).agenda = []
  rw [(hi.newObjects objects).shape]
  rfl

/-- A trial is one way in which a session can come about. -/
theorem reachable_of_trial {g : Engine} {fuel : Nat}
    {objects : List (String × List (String × Operand))} {cs : List Command}
    (h : trial g fuel objects cs = some s) : Reachable g s ∧ s.agenda = [] := by
  unfold trial at h
  split at h
  · next s₀ h₀ =>
    obtain ⟨hm, hs⟩ := moves_of_executeAll (agenda_withObjects h₀) h
    exact ⟨⟨objects, s₀, h₀, hm⟩, hs⟩
  · cases h

end Session

end LiveForm
