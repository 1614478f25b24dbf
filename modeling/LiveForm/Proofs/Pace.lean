/-
  How deep and how long runs are.

  The ends of passes on the agenda tell which nodes run, the innermost first. No node is among them
  twice, and what is on the agenda of the run of one node tells how many passes it may still have.

  * `Sound.openRuns_le`: runs are never nested deeper than there are nodes;
  * `Session.Paced`: what is on the agenda of a run, with the passes that are left to it;
    `Amid.paced`: a step uses up the passes that it performs;
  * `Reachable.terminates`: however nodes and handlers feed one another, every command is over in the
    end, runs are not nested deeper than there are nodes, and each has at most one pass more than its
    limit.
-/
import LiveForm.Proofs.Termination
import Mathlib.Data.List.Nodup
import Mathlib.Data.List.Perm.Subperm

namespace LiveForm

/-! ## What work leads to -/

section

open Session Store

variable {s : Session} {w : Work} {ws : List Work}

/-- A piece of work starts nothing, except that the run may end whose pass it ends. -/
theorem Work.Does.subsides {u : Store Script} (h : w.Does s u ws) : s.store.Subsides w.ends? u := by
  cases h with
  | tell | finish | skip | validate => exact .refl _
  | obey hu | answer hu => exact hu
  | @perform tk _ new htk hp =>
    cases hk : tk.ends? with
    | none =>
      have := hp.subsides hk
      rwa [Work.ends?, Work.task?, Option.bind_some, hk]
    | some n =>
      have hn : (Work.task tk).ends? = some n := hk
      rw [hn]
      cases hp with
      | @again m k g g' force hg hp =>
        have hl : g'.limit = g.limit := by rw [← Guard.limit_afterPass g k, hp]
        exact .setGuard hg ⟨hl, fun _ e => (Guard.of_afterPass_pass hp).1.trans e⟩
      | @extra m k g g' hg hp =>
        have hl : g'.limit = g.limit := by rw [← Guard.limit_afterPass g k, hp]
        exact .setGuard hg ⟨hl, fun _ e => (Guard.of_afterPass_extra hp).1.trans e⟩
      | @stop m k g g' o hg hp =>
        have hl : g'.limit = g.limit := by rw [← Guard.limit_afterPass g k, hp]
        cases hk
        exact subsides_stop hg hl o (.refl _)
      | @stopExtra m k g hg =>
        have hl : (g.afterExtra k).1.limit = g.limit := rfl
        cases hk
        exact subsides_stop hg hl _ (.refl _)
      | _ => first | exact .refl _ | cases hk

/-- Tame tasks lead to tame tasks, but for the ends of passes. -/
theorem Task.Performs.tame {ev : Evaluator} {u v : Store Script} {tk : Task Script}
    {new : List (Task Script)} (h : tk.Performs ev u v new) (hu : u.Tame) :
    ∀ tk' ∈ new, (Work.task tk').IsTame ∨ (Work.task tk').ends?.isSome := by
  have inside (n : Node) (k : Nat) (force : Bool) : ∀ tk' ∈ [Task.pass n force, .settle n k],
      (Work.task tk').IsTame ∨ (Work.task tk').ends?.isSome :=
    List.forall_mem_cons.2 ⟨Or.inl rfl, List.forall_mem_singleton.2 (Or.inr rfl)⟩
  cases h with
  | close | refuse | keep | ignore | stop | stopExtra | gone | goneExtra | bound =>
    exact List.forall_mem_nil _
  | miss | follow | heed | update | pass => exact List.forall_mem_singleton.2 (Or.inl rfl)
  | tell hl =>
    exact List.forall_mem_cons.2
      ⟨Or.inl (hu.listener? hl), List.forall_mem_singleton.2 (Or.inl rfl)⟩
  | bind => exact List.forall_mem_cons.2 ⟨Or.inl rfl, List.forall_mem_singleton.2 (Or.inl rfl)⟩
  | judge =>
    split
    · exact List.forall_mem_nil _
    · exact List.forall_mem_singleton.2 (Or.inl rfl)
  | request =>
    split
    · exact inside _ _ _
    · exact List.forall_mem_nil _
  | again => exact inside _ _ _
  | extra => exact List.forall_mem_cons.2 ⟨Or.inl rfl, List.forall_mem_singleton.2 (Or.inr rfl)⟩

/-- Tame work leads to tame work, but for the ends of passes. -/
theorem Work.Does.tame {u : Store Script} (h : w.Does s u ws) (hs : s.store.Tame)
    (hw : w.IsTame ∨ w.ends?.isSome) : ∀ w' ∈ ws, w'.IsTame ∨ w'.ends?.isSome := by
  cases h with
  | finish | answer => exact List.forall_mem_nil _
  | validate =>
    exact List.forall_mem_cons.2 ⟨Or.inl rfl, List.forall_mem_singleton.2 (Or.inl trivial)⟩
  | @tell script v e =>
    have plain : ∀ a ∈ script.actions, a.command.isPlain :=
      List.all_eq_true.1 (hw.resolve_right nofun)
    exact List.forall_mem_singleton.2 (Or.inl plain)
  | @skip name e a actions =>
    have plain : ∀ a ∈ actions, a.command.isPlain := fun a' ha' =>
      hw.resolve_right nofun a' (List.mem_cons_of_mem _ ha')
    exact List.forall_mem_singleton.2 (Or.inl plain)
  | @obey name e a actions _ r ts _ hts =>
    have plain : ∀ a ∈ actions, a.command.isPlain := fun a' ha' =>
      hw.resolve_right nofun a' (List.mem_cons_of_mem _ ha')
    refine List.forall_mem_append.2 ⟨List.forall_mem_map.2 fun tk htk => Or.inl (hts tk htk).isTame, ?_⟩
    exact List.forall_mem_cons.2 ⟨Or.inl trivial, List.forall_mem_singleton.2 (Or.inl plain)⟩
  | perform _ hp => exact List.forall_mem_map.2 (Task.Performs.tame hp hs)

/-- A task is part of a run of a node. -/
def Task.paces {H : Type} (n : Node) : Task H → Bool
  | .pass m _ | .settle m _ | .settleExtra m _ => m = n
  | _ => false

/-- A piece of work is part of a run of a node. -/
def Work.paces (n : Node) (w : Work) : Bool := w.task?.any (Task.paces n)

theorem Task.IsRequest.paces {H : Type} {tk : Task H} (h : tk.IsRequest) (n : Node) :
    tk.paces n = false := by
  cases tk with
  | round | recompute | rebind | call => rfl
  | pass | settle | settleExtra => cases h

/-- What is no part of the runs of a node leads to parts of them only where it starts a run. -/
theorem Task.Performs.paces {H : Type} {ev : Evaluator} {u v : Store H} {n : Node} {tk : Task H}
    {new : List (Task H)} (h : tk.Performs ev u v new) (hk : tk.paces n = false) :
    (∀ tk' ∈ new, tk'.paces n = false) ∨
      ∃ g force, u.guard? n = some g ∧ g.running = false ∧ new = [.pass n force, .settle n 1] := by
  cases h with
  | close | refuse | keep | ignore | stop | stopExtra | gone | goneExtra | bound =>
    exact Or.inl (List.forall_mem_nil _)
  | miss | follow | heed | update | pass => exact Or.inl (List.forall_mem_singleton.2 rfl)
  | tell | bind => exact Or.inl (List.forall_mem_cons.2 ⟨rfl, List.forall_mem_singleton.2 rfl⟩)
  | judge =>
    split
    · exact Or.inl (List.forall_mem_nil _)
    · exact Or.inl (List.forall_mem_singleton.2 rfl)
  | again | extra =>
    exact Or.inl (List.forall_mem_cons.2 ⟨hk, List.forall_mem_singleton.2 hk⟩)
  | @request m force g _ hg =>
    cases starts : (g.request force).2 with
    | false => exact Or.inl (List.forall_mem_nil _)
    | true =>
      by_cases hm : m = n
      · subst hm
        exact Or.inr ⟨g, force, hg, (Guard.of_request_starts starts).1, rfl⟩
      · have hk : decide (m = n) = false := decide_eq_false hm
        exact Or.inl (List.forall_mem_cons.2 ⟨hk, List.forall_mem_singleton.2 hk⟩)

/-- In a pass nothing but a round follows at once. -/
theorem Task.Performs.paces_pass {H : Type} {ev : Evaluator} {u v : Store H} {n m : Node}
    {force : Bool} {new : List (Task H)} (h : (Task.pass m force).Performs ev u v new) :
    ∀ tk' ∈ new, tk'.paces n = false := by
  cases h with
  | keep => exact List.forall_mem_nil _
  | update => exact List.forall_mem_singleton.2 rfl
  | judge =>
    split
    · exact List.forall_mem_nil _
    · exact List.forall_mem_singleton.2 rfl

theorem Work.Does.paces {u : Store Script} {n : Node} (h : w.Does s u ws) (hw : w.paces n = false) :
    (∀ w' ∈ ws, w'.paces n = false) ∨ ∃ g force, s.store.guard? n = some g ∧ g.running = false ∧
      ws = [.task (.pass n force), .task (.settle n 1)] := by
  cases h with
  | finish | answer => exact Or.inl (List.forall_mem_nil _)
  | tell | skip => exact Or.inl (List.forall_mem_singleton.2 rfl)
  | validate => exact Or.inl (List.forall_mem_cons.2 ⟨rfl, List.forall_mem_singleton.2 rfl⟩)
  | obey _ hts =>
    exact Or.inl (List.forall_mem_append.2 ⟨List.forall_mem_map.2 fun tk htk => (hts tk htk).paces n,
      List.forall_mem_cons.2 ⟨rfl, List.forall_mem_singleton.2 rfl⟩⟩)
  | perform _ hp =>
    rcases hp.paces hw with hn | ⟨g, force, hg, hr, rfl⟩
    · exact Or.inl (List.forall_mem_map.2 hn)
    · exact Or.inr ⟨g, force, hg, hr, rfl⟩

end

namespace Session

open Store (Subsides)
open Situation

variable {s t : Session} {n : Node} {w : Work} {ws rest : List Work}

/-! ## Nesting -/

/-- The nodes whose runs are in progress, the innermost one first. -/
def openRuns (s : Session) : List Node := s.agenda.filterMap Work.ends?

theorem openRuns_eq (s : Session) : s.openRuns = s.situation.tasks.filterMap Task.ends? :=
  (List.filterMap_filterMap ..).symm

theorem settles_eq {H : Type} (n : Node) (tk : Task H) : tk.settles n = (tk.ends? == some n) := by
  cases tk with
  | settle m | settleExtra m => simp [Task.settles, Task.ends?, beq_eq_decide]
  | _ => rfl

theorem count_openRuns (s : Session) (n : Node) :
    s.openRuns.count n = s.situation.tasks.countP (Task.settles n) := by
  rw [openRuns_eq, List.count_filterMap]
  exact List.countP_congr fun tk _ => by rw [settles_eq]

/-- Who runs is alive, and runs once. -/
theorem Sound.count_openRuns_le (h : s.Sound) (n : Node) :
    s.openRuns.count n ≤ 1 ∧ (n ∈ s.openRuns → n ∈ s.store.nodes) := by
  rw [← List.count_pos_iff, count_openRuns, Store.mem_nodes_iff, ← Store.isSome_run?_iff]
  cases hr : s.store.run? n with
  | none =>
    have gone : ¬ s.store.Alive n.entity := by
      rw [← Store.isSome_run?_iff, hr]
      nofun
    rw [h.situation.countP_settles (c := s.situation) gone]
    exact ⟨Nat.zero_le _, nofun⟩
  | some r =>
    rw [(h.situation.guarded n r.1 r.2 hr).1]
    exact ⟨by split <;> decide, fun _ => rfl⟩

/-- No node runs inside its own run. -/
theorem Sound.nodup_openRuns (h : s.Sound) : s.openRuns.Nodup :=
  List.nodup_iff_count_le_one.2 fun n => (h.count_openRuns_le n).1

/-- Runs are never nested deeper than there are proxies and validators. -/
theorem Sound.openRuns_le (h : s.Sound) :
    s.openRuns.length ≤ s.store.proxies.size + s.store.validators.size := by
  rw [← Store.length_nodes]
  exact (List.subperm_of_subset h.nodup_openRuns fun n hn => (h.count_openRuns_le n).2 hn).length_le

/-! ## On the way -/

/-- A session on the way through tame work. -/
structure Amid (s : Session) : Prop where
  sound : s.Sound
  tame : s.store.Tame
  agenda : ∀ w ∈ s.agenda, w.IsTame ∨ w.ends?.isSome

theorem Amid.does (h : s.Amid) (hs : s.agenda = w :: rest) :
    ∃ u ws, w.Does s u ws ∧ s.step.agenda = ws ++ rest ∧ u.Subsides none s.step.store := by
  refine h.sound.does hs fun name e actions hw => ?_
  subst hw
  exact (h.agenda _ (by rw [hs]; exact List.mem_cons_self ..)).resolve_right fun e => by cases e

theorem Amid.step (h : s.Amid) : s.step.Amid := by
  cases hs : s.agenda with
  | nil =>
    have still : s.step = s := by simp only [Session.step, hs]
    rwa [still]
  | cons w rest =>
    obtain ⟨u, ws, hd, ha, hu⟩ := h.does hs
    have hw := List.forall_mem_cons.1 (hs ▸ h.agenda)
    refine ⟨h.sound.step.sound, h.tame.subsides (hd.subsides.trans hu.mono), ?_⟩
    rw [ha]
    exact List.forall_mem_append.2 ⟨hd.tame h.tame hw.1, hw.2⟩

theorem Amid.after (h : s.Amid) (m : Nat) : (s.after m).Amid := by
  induction m generalizing s with
  | zero => exact h
  | succ m ih => exact ih h.step

/-- A node that is there after a step was there before, with a guard of the same limit. -/
theorem Amid.limit (h : s.Amid) {g' : Guard} (hg : s.step.store.guard? n = some g') :
    ∃ g, s.store.guard? n = some g ∧ g'.limit = g.limit := by
  cases hs : s.agenda with
  | nil =>
    have still : s.step = s := by simp only [Session.step, hs]
    exact ⟨g', still ▸ hg, rfl⟩
  | cons w rest =>
    obtain ⟨u, ws, hd, -, hu⟩ := h.does hs
    obtain ⟨g, hg, hl, -⟩ := (hd.subsides.trans hu.mono).guard? hg
    exact ⟨g, hg, hl⟩

/-! ## Passes -/

/-- What is on the agenda of a run under a limit, and how many passes are left to it at most. -/
inductive Paced (n : Node) (limit : Nat) : Nat → List Work → Prop
  | ended : Paced n limit 0 []
  | passing {p force} (h₁ : 1 ≤ p) (h₂ : p ≤ limit) :
      Paced n limit (limit + 2 - p) [.task (.pass n force), .task (.settle n p)]
  | ending {p} (h₁ : 1 ≤ p) (h₂ : p ≤ limit) : Paced n limit (limit + 1 - p) [.task (.settle n p)]
  | passingExtra {p force} : Paced n limit 1 [.task (.pass n force), .task (.settleExtra n p)]
  | endingExtra {p} : Paced n limit 0 [.task (.settleExtra n p)]

theorem Paced.le {limit b : Nat} (h : Paced n limit b ws) : b ≤ limit + 1 := by
  cases h <;> omega

theorem Paced.filter {limit b : Nat} (h : Paced n limit b ws) : ws.filter (Work.paces n) = ws := by
  have one : ∀ tk : Task Script, tk.paces n → Work.paces n (.task tk) := fun _ => id
  rw [List.filter_eq_self]
  cases h with
  | ended => exact List.forall_mem_nil _
  | ending | endingExtra => exact List.forall_mem_singleton.2 (one _ (decide_eq_true rfl))
  | passing | passingExtra =>
    exact List.forall_mem_cons.2 ⟨one _ (decide_eq_true rfl),
      List.forall_mem_singleton.2 (one _ (decide_eq_true rfl))⟩

/-- At the end of a pass a run goes on with a further one, or it is over. -/
theorem Paced.settle {ev : Evaluator} {u v : Store Script} {g : Guard} {p : Nat}
    {new : List (Task Script)} (h : (Task.settle n p).Performs ev u v new)
    (hg : u.guard? n = some g) (h₁ : 1 ≤ p) (h₂ : p ≤ max g.limit 1) :
    ∃ b ≤ max g.limit 1 + 1 - p, Paced n (max g.limit 1) b (new.map .task) := by
  cases h with
  | gone | stop => exact ⟨0, Nat.zero_le _, .ended⟩
  | extra => exact ⟨1, by omega, .passingExtra⟩
  | again hg' hp =>
    obtain rfl := Option.some.inj (hg.symm.trans hg')
    have := Guard.lt_of_afterPass_eq_pass hp
    exact ⟨_, by omega, .passing (p := p + 1) (by omega) (by omega)⟩

/-- The next piece of work is a pass of a node. -/
def isPassing (s : Session) (n : Node) : Bool :=
  match s.agenda with
  | .task (.pass m _) :: _ => m = n
  | _ => false

/-- How many of the next steps are passes of a node. -/
def passesIn (n : Node) : Nat → Session → Nat
  | 0, _ => 0
  | k + 1, s => (if s.isPassing n then 1 else 0) + passesIn n k s.step

/-- Who does not run has nothing of a run on the agenda. -/
theorem Paced.of_idle {limit b : Nat} (h : Paced n limit b (s.agenda.filter (Work.paces n)))
    (hs : s.Sound) {g : Guard} (hg : s.store.guard? n = some g) (hr : g.running = false) :
    s.agenda.filter (Work.paces n) = [] := by
  obtain ⟨o, ho⟩ := guard?_eq_some_iff.1 hg
  have none : n ∉ s.openRuns := by
    rw [← List.count_eq_zero, count_openRuns, (hs.situation.guarded n g o ho).1, hr]
    rfl
  have ends : ∀ w ∈ s.agenda.filter (Work.paces n), w.ends? ≠ some n := fun w hw e =>
    none (List.mem_filterMap.2 ⟨w, (List.mem_filter.1 hw).1, e⟩)
  generalize s.agenda.filter (Work.paces n) = fs at h ends
  cases h with
  | ended => rfl
  | ending | endingExtra => exact absurd rfl (ends _ (List.mem_cons_self ..))
  | passing | passingExtra =>
    exact absurd rfl (ends _ (List.mem_cons_of_mem _ (List.mem_cons_self ..)))

/-- A step uses up the passes that it performs of those that are left to a run. -/
theorem Amid.paced (h : s.Amid) {g : Guard} (hg : s.store.guard? n = some g) {b : Nat}
    (hb : Paced n (max g.limit 1) b (s.agenda.filter (Work.paces n))) :
    ∃ b', Paced n (max g.limit 1) b' (s.step.agenda.filter (Work.paces n)) ∧
      (g.running → b' + (if s.isPassing n then 1 else 0) ≤ b) := by
  have hidle := hb.of_idle h.sound hg
  cases hs : s.agenda with
  | nil =>
    have still : s.step = s := by simp only [Session.step, hs]
    refine ⟨b, by rwa [still], fun _ => ?_⟩
    simp [isPassing, hs]
  | cons w rest =>
    obtain ⟨u, ws, hd, ha, -⟩ := h.does hs
    have none {ws : List Work} (hn : ∀ w' ∈ ws, w'.paces n = false) :
        ws.filter (Work.paces n) = [] :=
      List.filter_eq_nil_iff.2 fun w' hw' => by simp [hn w' hw']
    rw [ha, List.filter_append]
    rw [hs] at hb hidle
    cases hw : w.paces n with
    | false =>
      have quiet : s.isPassing n = false := by
        simp only [isPassing, hs]
        split
        · next e => cases e; exact hw
        · rfl
      rw [List.filter_cons_of_neg (by simp [hw])] at hb hidle
      rcases hd.paces hw with hn | ⟨g', force, hg', hr, rfl⟩
      · rw [none hn, List.nil_append]
        exact ⟨b, hb, fun _ => by simp [quiet]⟩
      · obtain rfl := Option.some.inj (hg.symm.trans hg')
        have start : Paced n (max g.limit 1) _ [.task (.pass n force), .task (.settle n 1)] :=
          .passing (Nat.le_refl 1) (Nat.le_max_right ..)
        rw [hidle hr, List.append_nil, start.filter]
        exact ⟨_, start, fun hr' => by simp [hr] at hr'⟩
    | true =>
      rw [List.filter_cons_of_pos hw] at hb
      generalize rest.filter (Work.paces n) = fs at hb
      cases hb with
      | passing h₁ h₂ =>
        cases hd with | perform _ hp => ?_
        rw [none (List.forall_mem_map.2 hp.paces_pass)]
        refine ⟨_, .ending h₁ h₂, fun _ => ?_⟩
        split <;> omega
      | passingExtra =>
        cases hd with | perform _ hp => ?_
        rw [none (List.forall_mem_map.2 hp.paces_pass)]
        refine ⟨_, .endingExtra, fun _ => ?_⟩
        split <;> omega
      | ending h₁ h₂ =>
        cases hd with | perform _ hp => ?_
        obtain ⟨b, hle, hb⟩ := Paced.settle hp hg h₁ h₂
        rw [hb.filter, List.append_nil]
        exact ⟨b, hb, fun _ => by simpa [isPassing, hs] using hle⟩
      | endingExtra =>
        cases hd with | perform _ hp => ?_
        cases hp with
        | stopExtra | goneExtra => exact ⟨0, .ended, fun _ => by simp [isPassing, hs]⟩

/-- What is left to the runs of all nodes is in order. -/
def Budgeted (s : Session) : Prop :=
  ∀ n g, s.store.guard? n = some g →
    ∃ b, Paced n (max g.limit 1) b (s.agenda.filter (Work.paces n))

theorem Amid.budgeted (h : s.Amid) (hb : s.Budgeted) : s.step.Budgeted := by
  intro n g' hg'
  obtain ⟨g, hg, hl⟩ := h.limit hg'
  obtain ⟨b, hb⟩ := hb n g hg
  obtain ⟨b', hb', -⟩ := h.paced hg hb
  exact ⟨b', hl ▸ hb'⟩

theorem Amid.budgeted_after (h : s.Amid) (hb : s.Budgeted) (m : Nat) : (s.after m).Budgeted := by
  induction m generalizing s with
  | zero => exact hb
  | succ m ih => exact ih h.step (h.budgeted hb)

/-- As long as a node runs, it has no more passes than are left to it. -/
theorem Amid.passesIn_le (h : s.Amid) {g : Guard} (hg : s.store.guard? n = some g) {b : Nat}
    (hb : Paced n (max g.limit 1) b (s.agenda.filter (Work.paces n))) {k : Nat}
    (hr : ∀ j < k, ∃ g, (s.after j).store.guard? n = some g ∧ g.running) : passesIn n k s ≤ b := by
  induction k generalizing s g b with
  | zero => exact Nat.zero_le _
  | succ k ih =>
    obtain ⟨g₁, hg₁, running⟩ := hr 0 (Nat.succ_pos k)
    obtain rfl := Option.some.inj (hg.symm.trans hg₁)
    obtain ⟨b', hb', hle⟩ := h.paced hg hb
    have hle := hle running
    rw [passesIn]
    cases k with
    | zero =>
      rw [passesIn]
      omega
    | succ k =>
      obtain ⟨g', hg', -⟩ := hr 1 (by omega)
      obtain ⟨g₂, hg₂, hl⟩ := h.limit hg'
      obtain rfl := Option.some.inj (hg.symm.trans hg₂)
      have := ih h.step hg' (hl ▸ hb') fun j hj => hr (j + 1) (by omega)
      omega

/-! ## Commands of the caller -/

/-- Requests and replies are the beginning of tame work. -/
theorem amid_of_requests (h : s.Sound) (tame : s.store.Tame) {ts : List (Task Script)} {r : Reply}
    {handler : Option String} (hts : ∀ tk ∈ ts, tk.IsRequest)
    (ha : s.agenda = ts.map .task ++ [.reply r handler]) : s.Amid ∧ s.Budgeted := by
  refine ⟨⟨h, tame, ?_⟩, fun n g _ => ⟨0, ?_⟩⟩
  · rw [ha]
    exact List.forall_mem_append.2 ⟨List.forall_mem_map.2 fun tk htk => Or.inl (hts tk htk).isTame,
      List.forall_mem_singleton.2 (Or.inl trivial)⟩
  · have none : ∀ w ∈ s.agenda, w.paces n = false := by
      rw [ha]
      exact List.forall_mem_append.2 ⟨List.forall_mem_map.2 fun tk htk => (hts tk htk).paces n,
        List.forall_mem_singleton.2 rfl⟩
    rw [List.filter_eq_nil_iff.2 fun w hw => by simp [none w hw]]
    exact .ended

theorem passesIn_of_idle (idle : s.agenda = []) (n : Node) (k : Nat) : passesIn n k s = 0 := by
  induction k with
  | zero => rfl
  | succ k ih =>
    have still : s.step = s := by simp only [Session.step, idle]
    rw [passesIn, still, ih]
    simp [isPassing, idle]

/-- An answer is no pass, and nothing follows from it. -/
theorem Sound.passesIn_answer (h : s.Sound) {a : Answer} {handler : Option String}
    (hs : s.agenda = [.reply (.answer a) handler]) (n : Node) (i k : Nat) :
    passesIn n k (s.after i) = 0 := by
  have idle := h.step_answer hs
  match i, k with
  | i + 1, k =>
    rw [Session.after, after_of_idle idle]
    exact passesIn_of_idle idle n k
  | 0, 0 => rfl
  | 0, k + 1 =>
    rw [Session.after, passesIn, passesIn_of_idle idle]
    simp [isPassing, hs]

/-- However the nodes of a tame session feed one another: every command that the caller gives is over
    in the end, and at every step on the way, no more runs are in progress inside one another than
    there are proxies and validators, and while the run of a node lasts, it has at most one pass more
    than its limit. Custom filters are taken to be pure and to make no objects, as `Filter` has them. -/
theorem Reachable.terminates {e : Engine} (h : Reachable e s) (idle : s.agenda = [])
    (tame : s.store.Tame) (c : Command) :
    (∃ fuel t, s.execute fuel c = some t) ∧ ∀ i, let t := (s.initiated c).after i
      t.openRuns.length ≤ t.store.proxies.size + t.store.validators.size ∧
        ∀ n g k, t.store.guard? n = some g →
          (∀ j < k, ∃ g, (t.after j).store.guard? n = some g ∧ g.running) →
            passesIn n k t ≤ max g.limit 1 + 1 := by
  have sound := h.sound.initiated c
  refine ⟨h.sound.finishes idle tame c, fun i => ⟨(sound.after i).openRuns_le, ?_⟩⟩
  intro n g k hg hr
  rcases h.sound.initiated_cases idle c with ⟨ts, r, hts, ha, store⟩ | ⟨a, ha⟩
  · obtain ⟨amid, budgeted⟩ := amid_of_requests sound (tame.subsides store) hts ha
    obtain ⟨b, hb⟩ := amid.budgeted_after budgeted i n g hg
    exact Nat.le_trans ((amid.after i).passesIn_le hg hb hr) hb.le
  · rw [sound.passesIn_answer ha n i k]
    exact Nat.zero_le _

/-- Two proxies whose listeners write what the other one reads, always another value, and a validator
    whose watcher asks one of them to recompute. -/
theorem terminates_feedback : ∃ s : Session, Reachable (.ofConfiguration .testing .empty) s ∧
    s.agenda = [] ∧ s.store.Tame ∧ s.store.proxies.size + s.store.validators.size = 5 ∧
      (∃ fuel t, s.execute fuel (.set "a" "x" (.value (.integer 1))) = some t) ∧
      ∀ i, let t := (s.initiated (.set "a" "x" (.value (.integer 1)))).after i
        t.openRuns.length ≤ t.store.proxies.size + t.store.validators.size ∧
          ∀ n g k, t.store.guard? n = some g →
            (∀ j < k, ∃ g, (t.after j).store.guard? n = some g ∧ g.running) →
              passesIn n k t ≤ max g.limit 1 + 1 := by
  have run : (trial (.ofConfiguration .testing .empty) 60
      [("a", [("x", .value (.integer 0)), ("y", .value (.integer 0))])]
      [.bind "p" "\x7bBinding x\x7d" (some 3) ⟨some "a", none⟩,
        .bind "q" "\x7bBinding y\x7d" (some 0) ⟨some "a", none⟩,
        .newValidator "v" "p" [⟨.lessThan, none, none, none, .runComparator, false, false, none⟩] none,
        .listen "p" false (.mk "h" [.mk none (.set "a" "y" (.eventPlus 1))]),
        .listen "q" false (.mk "k" [.mk none (.set "a" "x" (.eventPlus 1))]),
        .watch "v" (.mk "w" [.mk none (.refresh "q")])]).any (fun s =>
          decide (s.store.Tame ∧ s.store.proxies.size + s.store.validators.size = 5)) = true := by
    decide +kernel
  obtain ⟨s, hs, hx⟩ := (Option.any_eq_true _ _).1 run
  obtain ⟨tame, size⟩ := of_decide_eq_true hx
  obtain ⟨h, idle⟩ := reachable_of_trial hs
  exact ⟨s, h, idle, tame, size, h.terminates idle tame (.set "a" "x" (.value (.integer 1)))⟩

end Session

end LiveForm
