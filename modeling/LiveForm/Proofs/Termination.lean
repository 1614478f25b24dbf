/-
  Every command is over in the end.

  What is left to be done may grow without a bound that could be told from the agenda: a run calls
  handlers, their scripts change objects, and the changes ask further nodes to recompute, or the same
  ones. What comes to an end is the nesting. A node that runs is not run once more inside its own run,
  so all that happens in a pass has fewer nodes to run than there were. The passes of a run are
  limited, and the scripts are finite.

  * `Store.IdleAtMost`: the measure, how many nodes there are that do not run;
  * `Session.Clearable`: a piece of work, and all that follows from it, is over after some steps;
  * `run_clears`: a run is over if all that happens in its passes is; `clearable`: so all work is;
  * `Sound.finishes`: every command that is given to a tame session is over in the end.
-/
import LiveForm.Proofs.Revalidation
import LiveForm.Proofs.Tameness

namespace LiveForm

/-! ## Nodes that do not run -/

namespace Store

variable {H : Type} {s t : Store H} {k : Nat}

/-- The nodes that do not run are among `k` nodes. -/
def IdleAtMost (s : Store H) (k : Nat) : Prop :=
  ∃ ns : List Node, ns.length ≤ k ∧ ∀ n g, s.guard? n = some g → g.running = false → n ∈ ns

theorem IdleAtMost.subsides (h : s.IdleAtMost k) (hs : s.Subsides none t) : t.IdleAtMost k := by
  obtain ⟨ns, hk, hns⟩ := h
  refine ⟨ns, hk, fun n g' hg' hr' => ?_⟩
  obtain ⟨g, hg, -, hr⟩ := hs.guard? hg'
  refine hns n g hg (Bool.eq_false_iff.2 fun e => ?_)
  rw [hr nofun e] at hr'
  cases hr'

theorem guard?_setGuard (s : Store H) (n m : Node) (g : Guard) :
    (s.setGuard m g).guard? n = if n = m then (s.guard? n).map fun _ => g else s.guard? n := by
  rw [guard?_eq, run?_setGuard, guard?_eq]
  split
  · cases s.run? n <;> rfl
  · rfl

/-- When a node starts to run, fewer are left that do not. -/
theorem IdleAtMost.start (h : s.IdleAtMost k) {n : Node} {g g' : Guard} (hg : s.guard? n = some g)
    (hr : g.running = false) (hr' : g'.running) : ∃ j < k, (s.setGuard n g').IdleAtMost j := by
  obtain ⟨ns, hk, hns⟩ := h
  have hn := hns n g hg hr
  refine ⟨(ns.erase n).length, ?_, ns.erase n, Nat.le_refl _, fun m g₁ hg₁ hr₁ => ?_⟩
  · have := List.length_pos_of_mem hn
    rw [List.length_erase_of_mem hn]
    omega
  · rw [guard?_setGuard] at hg₁
    by_cases hm : m = n
    · rw [if_pos hm, hm, hg] at hg₁
      cases hg₁
      rw [hr'] at hr₁
      cases hr₁
    · rw [if_neg hm] at hg₁
      exact (List.mem_erase_of_ne hm).2 (hns m g₁ hg₁ hr₁)

/-- All the nodes of a store. -/
def nodes (s : Store H) : List Node :=
  s.proxies.numbers.map (fun n => .proxy ⟨n⟩) ++ s.validators.numbers.map fun n => .validator ⟨n⟩

theorem mem_nodes_iff {n : Node} : n ∈ s.nodes ↔ s.Alive n.entity := by
  cases n with
  | proxy p => obtain ⟨n⟩ := p; simp [nodes, Node.entity, Alive, proxy?, Roster.mem_numbers_iff]
  | validator v =>
    obtain ⟨n⟩ := v; simp [nodes, Node.entity, Alive, validator?, Roster.mem_numbers_iff]

theorem length_nodes (s : Store H) : s.nodes.length = s.proxies.size + s.validators.size := by
  simp [nodes, Roster.numbers, Roster.size]

theorem alive_of_guard? {n : Node} {g : Guard} (hg : s.guard? n = some g) : s.Alive n.entity := by
  rw [← isSome_run?_iff]
  rw [guard?_eq] at hg
  obtain ⟨r, hr, -⟩ := Option.map_eq_some_iff.1 hg
  rw [hr]
  rfl

theorem exists_idleAtMost (s : Store H) : ∃ k, s.IdleAtMost k :=
  ⟨_, s.nodes, Nat.le_refl _, fun _ _ hg _ => mem_nodes_iff.2 (alive_of_guard? hg)⟩

end Store

/-! ## Tame work -/

/-- A piece of work that is not the end of a pass, and whose handlers and scripts are tame. -/
def Work.IsTame : Work → Prop
  | .task (.call l _) => l.isTame
  | .task tk => tk.ends? = none
  | .script _ _ actions => ∀ a ∈ actions, a.command.isPlain
  | .reply _ _ => True

/-- The node whose pass a piece of work ends. -/
def Work.ends? (w : Work) : Option Node := w.task?.bind Task.ends?

theorem Task.IsRequest.isTame {tk : Task Script} (h : tk.IsRequest) : (Work.task tk).IsTame := by
  cases tk with
  | round | recompute | rebind => rfl
  | call | pass | settle | settleExtra => cases h

/-- What an effect leaves to be done, with the answer going to a handler or to the caller. -/
def Effect.remains (x : Effect) (handler : Option String) : List Work :=
  x.tasks.map .task ++ [.reply x.reply handler]

/-- What a piece of work comes to, unless it is a script that is not tame: the store after it, and the
    work that is put first. -/
inductive Work.Does (s : Session) : Work → Store Script → List Work → Prop
  | perform {tk u new} (htk : ∀ h v, tk ≠ .call (.handler h) v)
      (hp : tk.Performs s.engine.evaluator s.store u new) : Does s (.task tk) u (new.map .task)
  /-- A handler is told, and its script comes next. -/
  | tell {script v} (e : Occasion) :
      Does s (.task (.call (.handler script) v)) s.store [.script script.id e script.actions]
  | finish {name e} : Does s (.script name e []) s.store []
  | skip {name e a actions} : Does s (.script name e (a :: actions)) s.store [.script name e actions]
  /-- A command of a script is carried out, which leaves requests. -/
  | obey {name e a actions u r} {ts : List (Task Script)} (hu : s.store.Subsides none u)
      (hts : ∀ tk ∈ ts, tk.IsRequest) : Does s (.script name e (a :: actions)) u
        (ts.map .task ++ [.reply r (some name), .script name e actions])
  | answer {r handler u} (hu : s.store.Subsides none u) : Does s (.reply r handler) u []
  /-- The next field of a form is validated. -/
  | validate {f last y ys found handler} (found' : List (String × ValidationResult)) :
      Does s (.reply (.failing f last (y :: ys) found) handler) s.store
        [.task (.recompute (.validator y.2) false), .reply (.failing f (some y) ys found') handler]

namespace Session

open Store (Subsides)

variable {s t u : Session} {k : Nat} {r : Option Node} {rest ws : List Work}

/-- The session some steps later. -/
def after (s : Session) : Nat → Session
  | 0 => s
  | m + 1 => s.step.after m

theorem after_add (s : Session) (m n : Nat) : s.after (m + n) = (s.after m).after n := by
  induction m generalizing s with
  | zero => rw [Nat.zero_add, after]
  | succ m ih => rw [Nat.add_right_comm, after, ih, after]

theorem Sound.after (h : s.Sound) (m : Nat) : (s.after m).Sound := by
  induction m generalizing s with
  | zero => exact h
  | succ m ih => exact ih h.step.sound

/-! ## Steps -/

theorem agenda_deliver (s : Session) (a : Answer) (handler : Option String) :
    (s.deliver a handler).agenda = s.agenda := by cases handler <;> rfl

theorem store_deliver (s : Session) (a : Answer) (handler : Option String) :
    (s.deliver a handler).store = s.store := by cases handler <;> rfl

theorem agenda_start {e : Option Occasion} {c : Command} {handler : Option String}
    (h : (s.carryOut e c).session.agenda = s.agenda) :
    (s.start e c handler).agenda = (s.carryOut e c).remains handler ++ s.agenda := by
  rw [start, push, h]
  rfl

theorem work_task (s : Session) {tk : Task Script} (htk : ∀ h v, tk ≠ .call (.handler h) v) :
    s.work (.task tk) = (s.withStore (tk.perform s.engine.evaluator s.store).1).push
      ((tk.perform s.engine.evaluator s.store).2.map .task) := by
  match tk with
  | .call (.handler h) v => exact absurd rfl (htk h v)
  | .call (.proxy p) v | .call (.validator p) v | .round e ns | .recompute n force | .pass n force
  | .settle n p | .settleExtra n p | .rebind b ps => rfl

/-- To carry out an action of a tame script. -/
theorem Sound.does_action (h : s.Sound) {name : String} {e : Occasion} {a : Action}
    {actions : List Action} (hs : s.agenda = .script name e (a :: actions) :: rest)
    (ha : a.command.isPlain) : ∃ ws,
      Work.Does s (.script name e (a :: actions))
        (({ s with agenda := rest } : Session).work (.script name e (a :: actions))).store ws ∧
      (({ s with agenda := rest } : Session).work (.script name e (a :: actions))).agenda =
        ws ++ rest := by
  obtain ⟨condition, c⟩ := a
  -- the session in which the command is carried out, if it is
  obtain ⟨r, hr⟩ : ∃ r, r = ({ s with agenda := rest } : Session).push [.script name e actions] :=
    ⟨_, rfl⟩
  have agenda : r.agenda = [.script name e actions] ++ rest := by rw [hr]; rfl
  have store : r.store = s.store := by rw [hr]; rfl
  rw [Session.work, ← hr]
  by_cases applies : r.applies e condition = true
  · rw [if_pos applies]
    have sound : r.Sound := by
      rw [hr]
      exact ((h.pop hs rfl).sound.pushScript name actions (h.aware hs)).sound
    have aware : r.Aware (some e) := by
      rw [Aware, store]
      exact h.aware hs
    have mild := sound.mild (c := c) aware ha
    refine ⟨_, .obey (r := (r.carryOut (some e) c).reply) (store ▸ mild.store) mild.tasks, ?_⟩
    rw [agenda_start mild.agenda, agenda, Effect.remains, List.append_assoc, List.append_assoc]
    rfl
  · rw [if_neg applies]
    refine ⟨_, ?_, agenda⟩
    rw [store]
    exact .skip

/-- What the next piece of work comes to. -/
theorem Sound.does (h : s.Sound) {w : Work} (hs : s.agenda = w :: rest)
    (hw : ∀ name e actions, w = .script name e actions → ∀ a ∈ actions, a.command.isPlain) :
    ∃ u ws, w.Does s u ws ∧ s.step.agenda = ws ++ rest ∧ u.Subsides none s.step.store := by
  have step : s.step = (({ s with agenda := rest } : Session).work w).sweep := by
    simp only [Session.step, hs]
  suffices does : ∃ ws, w.Does s (({ s with agenda := rest } : Session).work w).store ws ∧
      (({ s with agenda := rest } : Session).work w).agenda = ws ++ rest by
    obtain ⟨ws, hw, ha⟩ := does
    refine ⟨_, ws, hw, ?_, ?_⟩
    · rw [step]
      exact ha
    · rw [step]
      exact .sweep _
  have delivered {t : Session} {a : Answer} {x : Reply} {handler : Option String}
      (ht : s.store.Subsides none t.store) (ha : t.agenda = rest) :
      ∃ ws, Work.Does s (.reply x handler) (t.deliver a handler).store ws ∧
        (t.deliver a handler).agenda = ws ++ rest :=
    ⟨[], .answer (by rwa [store_deliver]), by rw [agenda_deliver, ha]; rfl⟩
  cases w with
  | task tk =>
    by_cases htk : ∃ script v, tk = .call (.handler script) v
    · obtain ⟨script, v, rfl⟩ := htk
      exact ⟨_, .tell _, rfl⟩
    · have htk : ∀ h v, tk ≠ .call (.handler h) v := fun h v e => htk ⟨h, v, e⟩
      rw [work_task _ htk]
      exact ⟨_, .perform htk (Task.performs ..), rfl⟩
  | script name e actions =>
    cases actions with
    | nil => exact ⟨[], .finish, rfl⟩
    | cons a actions => exact h.does_action hs (hw name e _ rfl a (List.mem_cons_self ..))
  | reply x handler =>
    cases x with
    | answer | proxyValue | validatorResult => exact delivered (.refl _) rfl
    | formBound => exact delivered (.of_forms _) rfl
    | failing f last pending found =>
      cases pending with
      | nil => exact delivered (.refl _) rfl
      | cons y ys => exact ⟨_, .validate _, rfl⟩

/-! ## Work that is over -/

/-- A tame session in which few nodes do not run. -/
structure Calm (k : Nat) (s : Session) : Prop where
  sound : s.Sound
  tame : s.store.Tame
  idle : s.store.IdleAtMost k

/-- Some steps lead to a session where a certain rest of the agenda is left, and they start nothing
    that is not over there. -/
structure Clears (r : Option Node) (s : Session) (rest : List Work) (t : Session) : Prop where
  steps : ∃ m, s.after m = t
  agenda : t.agenda = rest
  store : s.store.Subsides r t.store

/-- A piece of work and all that follows from it are over after some steps, wherever at most `k` nodes
    do not run. -/
def Clearable (k : Nat) (w : Work) : Prop :=
  ∀ s rest, Calm k s → s.agenda = w :: rest → ∃ t, s.Clears none rest t

theorem Clears.trans (h₁ : s.Clears r ws t) (h₂ : t.Clears r rest u) : s.Clears r rest u := by
  obtain ⟨m₁, rfl⟩ := h₁.steps
  obtain ⟨m₂, rfl⟩ := h₂.steps
  exact ⟨⟨m₁ + m₂, s.after_add m₁ m₂⟩, h₂.agenda, h₁.store.trans h₂.store⟩

theorem Clears.mono (h : s.Clears none rest t) : s.Clears r rest t := ⟨h.steps, h.agenda, h.store.mono⟩

/-- One step. -/
theorem clears_step (ha : s.step.agenda = rest) (hs : s.store.Subsides r s.step.store) :
    s.Clears r rest s.step := ⟨⟨1, rfl⟩, ha, hs⟩

theorem clears_refl (s : Session) : s.Clears r s.agenda s := ⟨⟨0, rfl⟩, rfl, .refl _⟩

theorem Calm.clears (h : s.Calm k) (hc : s.Clears none rest t) : t.Calm k := by
  obtain ⟨m, rfl⟩ := hc.steps
  exact ⟨h.sound.after m, h.tame.subsides hc.store, h.idle.subsides hc.store⟩

/-- Pieces of work are over one after the other. -/
theorem clears_all (hw : ∀ w ∈ ws, Clearable k w) (h : s.Calm k) (hs : s.agenda = ws ++ rest) :
    ∃ t, s.Clears none rest t := by
  induction ws generalizing s with
  | nil => exact ⟨s, by rw [← List.nil_append rest, ← hs]; exact clears_refl s⟩
  | cons w ws ih =>
    obtain ⟨t, ht⟩ := hw w (List.mem_cons_self ..) s (ws ++ rest) h hs
    obtain ⟨u, hu⟩ := ih (fun w' hw' => hw w' (List.mem_cons_of_mem _ hw')) (h.clears ht) ht.agenda
    exact ⟨u, ht.trans hu⟩

/-- A step that starts nothing and puts clearable work first. -/
theorem clears_of_step (h : s.Calm k) (ha : s.step.agenda = ws ++ rest)
    (hs : s.store.Subsides none s.step.store) (hw : ∀ w ∈ ws, Clearable k w) :
    ∃ t, s.Clears none rest t := by
  have first : s.Clears none (ws ++ rest) s.step := clears_step ha hs
  obtain ⟨t, ht⟩ := clears_all hw (h.clears first) ha
  exact ⟨t, first.trans ht⟩

/-- A piece of tame work is over if what it puts first is. -/
theorem clearable_of_does {w : Work} (hw : w.IsTame)
    (hws : ∀ s u ws, Calm k s → w.Does s u ws → s.store.Subsides none u ∧ ∀ w' ∈ ws, Clearable k w') :
    Clearable k w := by
  intro s rest h hs
  obtain ⟨u, ws, hd, ha, hu⟩ := h.sound.does hs fun name e actions e' => by subst e'; exact hw
  obtain ⟨hsub, hws⟩ := hws s u ws h hd
  exact clears_of_step h ha (hsub.trans hu) hws

/-! ## Tasks -/

/-- A step that performs a task. -/
theorem Sound.step_task (h : s.Sound) {tk : Task Script} (hs : s.agenda = .task tk :: rest)
    (htk : ∀ h v, tk ≠ .call (.handler h) v) :
    ∃ u new, tk.Performs s.engine.evaluator s.store u new ∧
      s.step.agenda = new.map .task ++ rest ∧ u.Subsides none s.step.store := by
  obtain ⟨u, ws, hd, ha, hu⟩ := h.does hs nofun
  cases hd with
  | perform _ hp => exact ⟨u, _, hp, ha, hu⟩
  | tell => exact absurd rfl (htk _ _)

/-- A task that calls nobody and ends no pass is over if the tasks that it puts first are. -/
theorem clearable_task {tk : Task Script} (htk : ∀ l v, tk ≠ .call l v) (hk : tk.ends? = none)
    (hnew : ∀ s u new, Calm k s → tk.Performs s.engine.evaluator s.store u new →
      ∀ tk' ∈ new, Clearable k (.task tk')) : Clearable k (.task tk) := by
  have hw : (Work.task tk).IsTame := by
    cases tk with
    | call l v => exact absurd rfl (htk l v)
    | _ => exact hk
  refine clearable_of_does hw fun s u ws h hd => ?_
  cases hd with
  | tell => exact absurd rfl (htk _ _)
  | perform _ hp =>
    refine ⟨hp.subsides hk, fun w hw => ?_⟩
    obtain ⟨tk', htk', rfl⟩ := List.mem_map.1 hw
    exact hnew s u _ h hp tk' htk'

/-! ## Runs -/

/-- To end the run of a node starts nothing. -/
theorem subsides_stop {s u : Store Script} {n : Node} {g g' : Guard} (hg : s.guard? n = some g)
    (hl : g'.limit = g.limit) (o : RunOutcome)
    (hu : ((s.setGuard n g').noteOutcome n o).Subsides none u) : s.Subsides (some n) u :=
  ((Subsides.setGuard hg ⟨hl, fun hn => absurd rfl hn⟩).trans (.noteOutcome n o)).trans hu.mono

/-- The end of an extra pass is the end of a run. -/
theorem clears_settleExtra (h : s.Calm k) {n : Node} {p : Nat}
    (hs : s.agenda = .task (.settleExtra n p) :: rest) :
    ∃ t, s.Clears (some n) rest t := by
  obtain ⟨u, new, hp, ha, hu⟩ := h.sound.step_task hs nofun
  cases hp with
  | goneExtra => exact ⟨_, clears_step ha hu.mono⟩
  | @stopExtra _ _ g hg =>
    have hl : (g.afterExtra p).1.limit = g.limit := rfl
    exact ⟨_, clears_step ha (subsides_stop hg hl _ hu)⟩

/-- A run that is at the end of a pass is over after some steps, if all that happens in its passes
    is. By induction on the number of passes that its limit leaves. -/
theorem run_clears (hk : ∀ w, w.IsTame → Clearable k w) {n : Node} (d : Nat) {p : Nat}
    (h : s.Calm k) (hs : s.agenda = .task (.settle n p) :: rest)
    (hd : ∀ g, s.store.guard? n = some g → g.limit - p ≤ d) :
    ∃ t, s.Clears (some n) rest t := by
  induction d using Nat.strongRecOn generalizing s p with | ind d ih => ?_
  -- a further pass, after which the end `w` of it is left
  have pass {g g' : Guard} {force : Bool} {w : Work} {ws : List Work}
      (hg : s.store.guard? n = some g) (hl : g'.limit = g.limit) (hr : g'.running = g.running)
      (ha : s.step.agenda = .task (.pass n force) :: w :: ws)
      (hu : (s.store.setGuard n g').Subsides none s.step.store) :
      ∃ t, s.Clears none (w :: ws) t := by
    have hsub : s.store.Subsides none s.step.store :=
      (Subsides.setGuard hg ⟨hl, fun _ e => hr.trans e⟩).trans hu
    have only : ∀ w ∈ [Work.task (.pass n force)], Clearable k w :=
      List.forall_mem_singleton.2 (hk _ rfl)
    exact clears_of_step h ha hsub only
  obtain ⟨u, new, hp, ha, hu⟩ := h.sound.step_task hs nofun
  cases hp with
  | gone => exact ⟨_, clears_step ha hu.mono⟩
  | @stop _ _ g g' o hg hp =>
    have hl : g'.limit = g.limit := by rw [← Guard.limit_afterPass g p, hp]
    exact ⟨_, clears_step ha (subsides_stop hg hl o hu)⟩
  | @extra _ _ g g' hg hp =>
    have hl : g'.limit = g.limit := by rw [← Guard.limit_afterPass g p, hp]
    obtain ⟨t, ht⟩ := pass hg hl (Guard.of_afterPass_extra hp).1 ha hu
    obtain ⟨u, hu⟩ := clears_settleExtra (h.clears ht) ht.agenda
    exact ⟨u, ht.mono.trans hu⟩
  | @again _ _ g g' force hg hp =>
    have hl : g'.limit = g.limit := by rw [← Guard.limit_afterPass g p, hp]
    have hlt := Guard.lt_of_afterPass_eq_pass hp
    obtain ⟨t, ht⟩ := pass hg hl (Guard.of_afterPass_pass hp).1 ha hu
    have left : ∀ g', t.store.guard? n = some g' → g'.limit - (p + 1) ≤ d - 1 := by
      intro g₂ hg₂
      obtain ⟨g₁, hg₁, hl₁, -⟩ := ht.store.guard? hg₂
      have := hd g₁ hg₁
      rw [hl₁]
      omega
    have := hd g hg
    obtain ⟨u, hu⟩ := ih (d - 1) (by omega) (h.clears ht) ht.agenda left
    exact ⟨u, ht.mono.trans hu⟩

/-- A request to recompute is over after some steps, if all that happens where fewer nodes do not run
    is. -/
theorem clearable_recompute (hk : ∀ j < k, ∀ w, w.IsTame → Clearable j w) (n : Node) (force : Bool) :
    Clearable k (.task (.recompute n force)) := by
  intro s rest h hs
  obtain ⟨u, new, hp, ha, hu⟩ := h.sound.step_task hs nofun
  have hsub := (hp.subsides rfl).trans hu
  cases hp with
  | refuse => exact ⟨_, clears_step ha hsub⟩
  | @request _ _ g hd hg =>
    cases starts : (g.request force).2 with
    | false =>
      rw [starts] at ha
      exact ⟨_, clears_step ha hsub⟩
    | true =>
      rw [starts] at ha
      obtain ⟨idle, running, -⟩ := Guard.of_request_starts starts
      obtain ⟨j, hj, hidle⟩ := h.idle.start hg idle running
      have first : s.Clears none _ s.step := clears_step ha hsub
      have calm : s.step.Calm j :=
        ⟨h.sound.step.sound, h.tame.subsides hsub, hidle.subsides hu⟩
      obtain ⟨t, ht⟩ := hk j hj (.task (.pass n force)) rfl s.step _ calm ha
      have limit : ∀ g', t.store.guard? n = some g' → g'.limit - 1 ≤ g.limit := by
        intro g' hg'
        obtain ⟨g₁, hg₁, hl, -⟩ := (hsub.trans ht.store).guard? hg'
        rw [hg] at hg₁
        cases hg₁
        rw [hl]
        exact Nat.sub_le _ _
      obtain ⟨v, hv⟩ := run_clears (hk j hj) g.limit (calm.clears ht) ht.agenda limit
      have whole := (first.trans ht).mono.trans hv
      refine ⟨v, whole.steps, whole.agenda, whole.store.of_idle fun g' hg' => ?_⟩
      rw [hg] at hg'
      cases hg'
      exact idle

/-! ## All work -/

/-- Who is called is asked to recompute, or is not there any more; a handler has its script carried
    out. -/
theorem clearable_call (hr : ∀ n force, Clearable k (.task (.recompute n force)))
    {l : Listener Script} (hl : l.isTame)
    (hs : ∀ h e, l = .handler h → Clearable k (.script h.id e h.actions)) (v : Event) :
    Clearable k (.task (.call l v)) := by
  refine clearable_of_does hl fun s u ws h hd => ?_
  cases hd with
  | tell e =>
    refine ⟨.refl _, fun w hw => ?_⟩
    rw [List.mem_singleton.1 hw]
    exact hs _ _ rfl
  | perform _ hp =>
    refine ⟨hp.subsides rfl, fun w hw => ?_⟩
    cases hp with
    | follow | heed =>
      rw [List.mem_singleton.1 hw]
      exact hr _ _
    | ignore => cases hw

/-- A round is over if the calls of the listeners that it may find are. -/
theorem clearable_round {e : Event} (hl : ∀ s j l, Calm k s → s.store.listener? e j = some l →
    Clearable k (.task (.call l e))) (ns : List Nat) : Clearable k (.task (.round e ns)) := by
  induction ns with
  | nil =>
    refine clearable_task nofun rfl fun s u new h hp tk htk => ?_
    cases hp
    cases htk
  | cons j ns ih =>
    refine clearable_task nofun rfl fun s u new h hp tk htk => ?_
    cases hp with
    | miss =>
      rw [List.mem_singleton.1 htk]
      exact ih
    | tell hj =>
      rcases List.mem_cons.1 htk with rfl | htk
      · exact hl s j _ h hj
      · rw [List.mem_singleton.1 htk]
        exact ih

theorem clearable_rebind (hr : ∀ n force, Clearable k (.task (.recompute n force))) (b : Binding)
    (ps : List ProxyId) : Clearable k (.task (.rebind b ps)) := by
  induction ps with
  | nil =>
    refine clearable_task nofun rfl fun s u new h hp tk htk => ?_
    cases hp
    cases htk
  | cons p ps ih =>
    refine clearable_task nofun rfl fun s u new h hp tk htk => ?_
    cases hp with
    | pass =>
      rw [List.mem_singleton.1 htk]
      exact ih
    | bind =>
      rcases List.mem_cons.1 htk with rfl | htk
      · exact hr _ _
      · rw [List.mem_singleton.1 htk]
        exact ih

/-- What commands leave to be done is over, if requests to recompute are: only nodes listen to the
    properties of objects. -/
theorem clearable_request (hr : ∀ n force, Clearable k (.task (.recompute n force)))
    {tk : Task Script} (htk : tk.IsRequest) : Clearable k (.task tk) := by
  match tk with
  | .recompute n force => exact hr n force
  | .rebind b ps => exact clearable_rebind hr b ps
  | .round (.property o name) ns =>
    refine clearable_round (fun s j l h hj => ?_) ns
    have hl := h.tame.node? hj
    exact clearable_call hr (h.tame.listener? hj) (fun f e hf => by subst hf; cases hl) _

/-- The fields of a form that are to be validated are so one after the other. -/
theorem clearable_reply (hr : ∀ n force, Clearable k (.task (.recompute n force))) (x : Reply)
    (handler : Option String) : Clearable k (.reply x handler) := by
  have failing (f : FormId) (fields : List (String × ValidatorId)) : ∀ last found,
      Clearable k (.reply (.failing f last fields found) handler) := by
    induction fields with
    | nil =>
      refine fun last found => clearable_of_does trivial fun s u ws h hd => ?_
      cases hd with
      | answer hu => exact ⟨hu, List.forall_mem_nil _⟩
    | cons x fields ih =>
      refine fun last found => clearable_of_does trivial fun s u ws h hd => ?_
      cases hd with
      | answer hu => exact ⟨hu, List.forall_mem_nil _⟩
      | validate =>
        refine ⟨.refl _, fun w hw => ?_⟩
        rcases List.mem_cons.1 hw with rfl | hw
        · exact hr _ _
        · rw [List.mem_singleton.1 hw]
          exact ih _ _
  cases x with
  | failing f last fields found => exact failing f fields last found
  | answer | proxyValue | validatorResult | formBound =>
    refine clearable_of_does trivial fun s u ws h hd => ?_
    cases hd with
    | answer hu => exact ⟨hu, List.forall_mem_nil _⟩

/-- What an effect that starts nothing leaves to be done is over, if requests and replies are. -/
theorem clearable_remains (hq : ∀ tk : Task Script, tk.IsRequest → Clearable k (.task tk))
    (hr : ∀ x handler, Clearable k (.reply x handler)) {ts : List (Task Script)}
    (hts : ∀ tk ∈ ts, tk.IsRequest) (x : Reply) (handler : Option String) :
    ∀ w ∈ ts.map Work.task ++ [.reply x handler], Clearable k w := by
  intro w hw
  rcases List.mem_append.1 hw with hw | hw
  · obtain ⟨tk, htk, rfl⟩ := List.mem_map.1 hw
    exact hq tk (hts tk htk)
  · rw [List.mem_singleton.1 hw]
    exact hr _ _

/-- A script is over if its requests and replies are. -/
theorem clearable_script (hq : ∀ tk : Task Script, tk.IsRequest → Clearable k (.task tk))
    (hr : ∀ x handler, Clearable k (.reply x handler)) (name : String) (e : Occasion)
    {actions : List Action} (ha : ∀ a ∈ actions, a.command.isPlain) :
    Clearable k (.script name e actions) := by
  induction actions with
  | nil =>
    refine clearable_of_does ha fun s u ws h hd => ?_
    cases hd with
    | finish => exact ⟨.refl _, List.forall_mem_nil _⟩
  | cons a actions ih =>
    have ih := ih fun a' ha' => ha a' (List.mem_cons_of_mem _ ha')
    refine clearable_of_does ha fun s u ws h hd => ?_
    cases hd with
    | skip =>
      refine ⟨.refl _, fun w hw => ?_⟩
      rw [List.mem_singleton.1 hw]
      exact ih
    | obey hu hts =>
      refine ⟨hu, fun w hw => ?_⟩
      rw [← List.singleton_append, ← List.append_assoc] at hw
      rcases List.mem_append.1 hw with hw | hw
      · exact clearable_remains hq hr hts _ _ w hw
      · rw [List.mem_singleton.1 hw]
        exact ih

/-- A piece of tame work, and all that follows from it, is over after some steps. By induction on the
    number of nodes that do not run; for as many of them, in the order in which the one kind of work
    leads to the other. -/
theorem clearable (k : Nat) {w : Work} (hw : w.IsTame) : Clearable k w := by
  induction k using Nat.strongRecOn generalizing w with | ind k ih => ?_
  have recompute := clearable_recompute fun j hj w hw => ih j hj hw
  have request (tk : Task Script) (htk : tk.IsRequest) := clearable_request recompute htk
  have reply := clearable_reply recompute
  have script {actions : List Action} (ha : ∀ a ∈ actions, a.command.isPlain) (name e) :=
    clearable_script request reply name e ha
  have call {l : Listener Script} (hl : l.isTame) := clearable_call recompute hl fun h e hf =>
    script (by subst hf; exact List.all_eq_true.1 hl) h.id e
  have round (e : Event) := clearable_round (e := e) fun s j l h hj => call (h.tame.listener? hj) e
  match w with
  | .script name e actions => exact script hw name e
  | .reply x handler => exact reply x handler
  | .task (.call l v) => exact call hw v
  | .task (.recompute n force) => exact recompute n force
  | .task (.round e ns) => exact round e ns
  | .task (.rebind b ps) => exact clearable_rebind recompute b ps
  | .task (.pass n force) =>
    refine clearable_task nofun rfl fun s u new h hp tk htk => ?_
    cases hp with
    | keep => cases htk
    | update =>
      rw [List.mem_singleton.1 htk]
      exact round _ _
    | judge =>
      split at htk
      · cases htk
      · rw [List.mem_singleton.1 htk]
        exact round _ _

/-! ## Commands of the caller -/

/-- The session right after a command of the caller has been given. -/
def initiated (s : Session) (c : Command) : Session :=
  ({ s with log := [], answer := none }.start none c none).sweep

theorem after_of_idle (idle : s.agenda = []) (m : Nat) : s.after m = s := by
  induction m with
  | zero => rfl
  | succ m ih =>
    have still : s.step = s := by simp only [step, idle]
    rw [after, still, ih]

/-- As many steps as there is fuel. -/
theorem finish_of_after {m : Nat} (h : (s.after m).agenda = []) : finish m s = some (s.after m) := by
  induction m generalizing s with
  | zero => exact finish_of_idle h 0
  | succ m ih =>
    cases hs : s.agenda with
    | nil => rw [finish_of_idle hs, after_of_idle hs]
    | cons w ws =>
      rw [finish_succ hs]
      exact ih h

/-- A command that the caller gives starts nothing and leaves requests, or is answered at once. -/
theorem Sound.initiated_cases (h : s.Sound) (idle : s.agenda = []) (c : Command) :
    (∃ (ts : List (Task Script)) (r : Reply), (∀ tk ∈ ts, tk.IsRequest) ∧
      (s.initiated c).agenda = ts.map Work.task ++ [.reply r none] ∧
      s.store.Subsides none (s.initiated c).store) ∨
    ∃ a, (s.initiated c).agenda = [.reply (.answer a) none] := by
  have idle : ({ s with log := [], answer := none } : Session).agenda = [] := idle
  cases hc : c.isPlain with
  | true =>
    have mild := (h.logged [] none).sound.mild aware_none hc
    refine Or.inl ⟨_, (Session.carryOut { s with log := [], answer := none } none c).reply,
      mild.tasks, ?_, mild.store.trans (.sweep _)⟩
    show (Session.start _ none c none).agenda = _
    rw [agenda_start mild.agenda, idle, List.append_nil]
    rfl
  | false =>
    have ended := over_of_not_plain (s := { s with log := [], answer := none }) (e := none) hc
    obtain ⟨a, ha⟩ := ended.reply
    refine Or.inr ⟨a, ?_⟩
    show (Session.start _ none c none).agenda = _
    rw [agenda_start ended.agenda, Effect.remains, ended.tasks, ha, idle]
    rfl

theorem Sound.initiated (h : s.Sound) (c : Command) : (s.initiated c).Sound :=
  ((h.logged [] none).sound.start aware_none c none).sound.sweep.sound

/-- An answer is handed over in one step. -/
theorem Sound.step_answer (h : s.Sound) {a : Answer} {handler : Option String}
    (hs : s.agenda = [.reply (.answer a) handler]) : s.step.agenda = [] := by
  obtain ⟨u, ws, hd, ha, -⟩ := h.does hs nofun
  cases hd with
  | answer => exact ha

/-- What follows from a command of the caller is over after some steps. -/
theorem Sound.initiated_over (h : s.Sound) (idle : s.agenda = []) (tame : s.store.Tame)
    (c : Command) : ∃ m, ((s.initiated c).after m).agenda = [] := by
  rcases h.initiated_cases idle c with ⟨ts, r, hts, ha, store⟩ | ⟨a, ha⟩
  · obtain ⟨k, hk⟩ := s.store.exists_idleAtMost
    have calm : (s.initiated c).Calm k := ⟨h.initiated c, tame.subsides store, hk.subsides store⟩
    have all := clearable_remains (fun tk htk => clearable k htk.isTame)
      (fun _ _ => clearable k trivial) hts r none
    rw [← List.append_nil (_ ++ _)] at ha
    obtain ⟨t, ⟨m, rfl⟩, ht, -⟩ := clears_all all calm ha
    exact ⟨m, ht⟩
  · exact ⟨1, (h.initiated c).step_answer ha⟩

/-- Every command that the caller gives to a tame session is over in the end. -/
theorem Sound.finishes (h : s.Sound) (idle : s.agenda = []) (tame : s.store.Tame) (c : Command) :
    ∃ fuel t, s.execute fuel c = some t := by
  obtain ⟨m, hm⟩ := h.initiated_over idle tame c
  exact ⟨m, _, finish_of_after hm⟩

end Session

end LiveForm
