/-
  Guarded runs in a situation.

  A node runs as long as the end of a pass of it is among the tasks, and no longer. A request made
  meanwhile is not lost: it is pending, or it has been dropped, and then the run ends as cut off.

  * `Situation.Guarded`: one end of a pass for each node that runs;
  * `Situation.Asked`: a node is still to be computed anew, or a request of it has been dropped;
  * `Guarded.step` and `Asked.step`: what a step does to them.
-/
import LiveForm.Proofs.Order

namespace LiveForm

variable {H : Type}

/-! ## Guards -/

namespace Guard

variable {g h : Guard} {k : Nat}

theorem of_request_starts {force : Bool} (hr : (g.request force).2 = true) :
    g.running = false ∧ (g.request force).1.running ∧ (g.request force).1.pending = g.pending := by
  unfold request at hr ⊢
  split at hr
  · cases hr
  · next hg => simp [hg]

theorem of_request_waits {force : Bool} (hr : (g.request force).2 = false) :
    g.running ∧ (g.request force).1.running ∧ (g.request force).1.pending := by
  unfold request at hr ⊢
  split at hr
  · next hg => simp [hg]
  · cases hr

theorem of_afterPass_pass {force : Bool} (hp : g.afterPass k = (h, .pass force)) :
    h.running = g.running ∧ h.pending = false := by
  unfold afterPass at hp
  split at hp
  · cases hp
  · dsimp only at hp
    split at hp
    · cases hp; exact ⟨rfl, rfl⟩
    · split at hp <;> cases hp

theorem of_afterPass_extra (hp : g.afterPass k = (h, .extra)) :
    h.running = g.running ∧ h.pending = false := by
  unfold afterPass at hp
  split at hp
  · cases hp
  · dsimp only at hp
    split at hp
    · cases hp
    · split at hp <;> cases hp
      exact ⟨rfl, rfl⟩

/-- A run stops when nothing is pending, or by dropping what is. -/
theorem of_afterPass_stop {o : RunOutcome} (hp : g.afterPass k = (h, .stop o)) :
    h.running = false ∧ h.pending = false ∧ (g.pending → o = .cutOff k) := by
  unfold afterPass at hp
  split at hp
  · next hg =>
    cases hp
    exact ⟨rfl, by simpa using hg, fun h => by simp [h] at hg⟩
  · dsimp only at hp
    split at hp
    · cases hp
    · split at hp <;> cases hp
      exact ⟨rfl, rfl, fun _ => rfl⟩

end Guard

/-! ## Runs of nodes -/

namespace Store

variable {s : Store H} {n m : Node}

theorem guard?_eq (s : Store H) (n : Node) : s.guard? n = (s.run? n).map Prod.fst := by
  cases n <;> simp only [guard?, run?, Option.map_map] <;> rfl

theorem run?_setGuard (s : Store H) (n m : Node) (g : Guard) :
    (s.setGuard m g).run? n = if n = m then (s.run? n).map fun r => (g, r.2) else s.run? n := by
  cases n with
  | proxy p =>
    cases m with
    | proxy q =>
      simp only [setGuard, run?, proxy?_modifyProxy, Node.proxy.injEq]
      split
      · cases s.proxy? p <;> rfl
      · rfl
    | validator w => rfl
  | validator v =>
    cases m with
    | proxy q => rfl
    | validator w =>
      simp only [setGuard, run?, validator?_modifyValidator, Node.validator.injEq]
      split
      · cases s.validator? v <;> rfl
      · rfl

theorem run?_noteOutcome (s : Store H) (n m : Node) (o : RunOutcome) :
    (s.noteOutcome m o).run? n =
      if n = m then (s.run? n).map fun r => (r.1, some o) else s.run? n := by
  cases n with
  | proxy p =>
    cases m with
    | proxy q =>
      simp only [noteOutcome, run?, proxy?_modifyProxy, Node.proxy.injEq]
      split
      · cases s.proxy? p <;> rfl
      · rfl
    | validator w => rfl
  | validator v =>
    cases m with
    | proxy q => rfl
    | validator w =>
      simp only [noteOutcome, run?, validator?_modifyValidator, Node.validator.injEq]
      split
      · cases s.validator? v <;> rfl
      · rfl

theorem isSome_run?_iff : (s.run? n).isSome ↔ s.Alive n.entity := by
  cases n with
  | proxy p => simp [run?, Node.entity, Alive]
  | validator v => simp [run?, Node.entity, Alive]

end Store

/-- The task ends a pass of a node. -/
def Task.settles (n : Node) : Task H → Bool
  | .settle m _ | .settleExtra m _ => m = n
  | _ => false

/-- The task begins or ends a run of a node, or a pass of it. -/
def Task.runs (n : Node) : Task H → Bool
  | .recompute m _ | .settle m _ | .settleExtra m _ => m = n
  | _ => false

/-- The task computes a node anew, or asks for it. -/
def Task.Asks (n : Node) : Task H → Prop
  | .recompute m _ | .pass m _ => m = n
  | _ => False

namespace Situation

/-- A node runs just as long as the end of a pass is among the tasks, and requests are pending only
    while it runs. -/
def Guarded (c : Situation H) (n : Node) : Prop :=
  ∀ g o, c.store.run? n = some (g, o) →
    c.tasks.countP (Task.settles n) = (if g.running then 1 else 0) ∧ (g.pending → g.running)

/-- A node is still to be computed anew, or a request of it has been dropped. -/
def Asked (c : Situation H) (n : Node) : Prop :=
  (∃ tk ∈ c.tasks, tk.Asks n) ∨ ∃ g o, c.store.run? n = some (g, o) ∧
    (g.pending ∨ g.running = false ∧ ∃ k, o = some (.cutOff k))

variable {ev : Evaluator} {c d : Situation H} {n : Node}

theorem Guarded.congr (h : c.Guarded n) (hr : d.store.run? n = c.store.run? n)
    (ht : d.tasks.countP (Task.settles n) = c.tasks.countP (Task.settles n)) : d.Guarded n := by
  intro g o hg
  rw [ht]
  exact h g o (hr ▸ hg)

/-- A node that is alive nowhere has no ends of passes among the tasks. -/
theorem Closed.countP_settles (h : c.Closed) (hn : ¬ c.store.Alive n.entity) :
    c.tasks.countP (Task.settles n) = 0 := by
  rw [List.countP_eq_zero]
  intro tk htk hs
  refine hn (h.alive _ (Or.inr (Or.inl ⟨tk, htk, ?_⟩)))
  unfold Task.settles at hs
  split at hs
  · rw [of_decide_eq_true hs]; simp [Task.entities]
  · rw [of_decide_eq_true hs]; simp [Task.entities]
  · cases hs

theorem guard?_eq_some_iff {s : Store H} {n : Node} {g : Guard} :
    s.guard? n = some g ↔ ∃ o, s.run? n = some (g, o) := by
  rw [Store.guard?_eq, Option.map_eq_some_iff]
  constructor
  · rintro ⟨⟨g, o⟩, h, rfl⟩; exact ⟨o, h⟩
  · rintro ⟨o, h⟩; exact ⟨_, h, rfl⟩

/-! ## Tasks -/

section

variable {s t : Store H} {tk : Task H} {new ts : List (Task H)} {held : List Entity}

/-- Tasks that end no pass do not change the number of those that do. -/
theorem countP_settles_append (hk : tk.settles n = false)
    (hn : ∀ tk' ∈ new, tk'.settles n = false) :
    (new ++ ts).countP (Task.settles n) = (tk :: ts).countP (Task.settles n) := by
  have h0 : new.countP (Task.settles n) = 0 :=
    List.countP_eq_zero.2 fun tk' h => by simp [hn tk' h]
  rw [List.countP_append, List.countP_cons, h0, hk]
  simp

/-- A task that does nothing to runs keeps nodes guarded. -/
theorem Guarded.idle (h : Guarded ⟨s, tk :: ts, held⟩ n) (hr : t.run? n = s.run? n)
    (hk : tk.settles n = false) (hn : ∀ tk' ∈ new, tk'.settles n = false) :
    Guarded ⟨t, new ++ ts, held⟩ n :=
  h.congr hr (countP_settles_append hk hn)

theorem of_guard?_none (hg : s.guard? n = none) : Guarded ⟨s, ts, held⟩ n := by
  intro g o hr
  rw [guard?_eq_some_iff.2 ⟨o, hr⟩] at hg
  cases hg

/-- A request starts a run, with one end of a pass to come, or it waits for the one in progress. -/
theorem Guarded.request {g : Guard} {force : Bool} (h : Guarded ⟨s, .recompute n force :: ts, held⟩ n)
    (hg : s.guard? n = some g) (force : Bool) :
    Guarded ⟨s.setGuard n (g.request force).1,
      (if (g.request force).2 then [.pass n force, .settle n 1] else []) ++ ts, held⟩ n := by
  obtain ⟨o, hr⟩ := guard?_eq_some_iff.1 hg
  obtain ⟨hc, -⟩ := h g o hr
  intro g' o' hg'
  obtain ⟨rfl, -⟩ : (g.request force).1 = g' ∧ o = o' := by
    simpa [Store.run?_setGuard, hr] using hg'
  have hc : ts.countP (Task.settles n) = if g.running then 1 else 0 := by
    simpa [Task.settles] using hc
  cases hs : (g.request force).2 with
  | true =>
    obtain ⟨hn, hy, -⟩ := Guard.of_request_starts hs
    simp [hc, hn, hy, Task.settles]
  | false =>
    obtain ⟨hn, hy, -⟩ := Guard.of_request_waits hs
    simp [hc, hn, hy]

/-- A run that goes on has the end of its next pass to come. -/
theorem Guarded.goes_on {g g' : Guard} (h : Guarded ⟨s, tk :: ts, held⟩ n)
    (hg : s.guard? n = some g) (hg' : g'.running = g.running ∧ g'.pending = false)
    (hk : tk.settles n) (hn : new.countP (Task.settles n) = 1) :
    Guarded ⟨s.setGuard n g', new ++ ts, held⟩ n := by
  obtain ⟨o, hr⟩ := guard?_eq_some_iff.1 hg
  obtain ⟨hc, -⟩ := h g o hr
  intro g₁ o₁ hg₁
  obtain ⟨rfl, -⟩ : g' = g₁ ∧ o = o₁ := by simpa [Store.run?_setGuard, hr] using hg₁
  rw [hg'.1, hg'.2, ← hc, List.countP_append, List.countP_cons, hn, hk]
  exact ⟨Nat.add_comm .., nofun⟩

/-- A run that stops has no end of a pass to come. -/
theorem Guarded.stops {g g' : Guard} (h : Guarded ⟨s, tk :: ts, held⟩ n) (hg : s.guard? n = some g)
    (hr' : g'.running = false) (hp' : g'.pending = false) (o : RunOutcome) (hk : tk.settles n) :
    Guarded ⟨(s.setGuard n g').noteOutcome n o, ts, held⟩ n := by
  obtain ⟨o, hr⟩ := guard?_eq_some_iff.1 hg
  obtain ⟨hc, -⟩ := h g o hr
  intro g₁ o₁ hg₁
  obtain ⟨rfl, -⟩ : g' = g₁ ∧ _ := by
    simpa [Store.run?_noteOutcome, Store.run?_setGuard, hr] using hg₁
  rw [List.countP_cons, if_pos hk] at hc
  rw [hr', hp']
  have h1 : (if g.running then 1 else 0) ≤ 1 := by split <;> decide
  exact ⟨by simp only [Bool.false_eq_true, ↓reduceIte] at hc ⊢; omega, nofun⟩

/-- Only the requests of a node and the ends of its passes change its runs. -/
theorem Ordered.run?_perform (ho : Ordered ⟨s, tk :: ts, held⟩) (hp : tk.Performs ev s t new)
    (hk : tk.runs n = false) : t.run? n = s.run? n := by
  cases hp with
  | close | tell | miss | heed | ignore | refuse | keep | bound | pass | gone | goneExtra => rfl
  | @follow p x e hx hd =>
    exact (Store.follow_spec (r := none) hx hd ho.sealed (ho.ledger p)).1.run_eq n
  | @bind b p ps x hx hd =>
    exact (Store.frame_bindProxy (r := none) (ho.ledger p).toNoted b).run_eq n
  | @update p x v force hx hd hv =>
    exact (Store.Frame.replaceValue (r := none) (Store.suits_sourceValue hx hv)).run_eq n
  | @judge v x r force hx hr =>
    exact (Store.Frame.replaceResult (r := none) v r).run_eq n
  | @request m force g hd hg =>
    have hm : n ≠ m := fun e => by simp [Task.runs, e] at hk
    rw [Store.run?_setGuard, if_neg hm]
  | @again m | @extra m =>
    have hm : n ≠ m := fun e => by simp [Task.runs, e] at hk
    rw [Store.run?_setGuard, if_neg hm]
  | @stop m | @stopExtra m =>
    have hm : n ≠ m := fun e => by simp [Task.runs, e] at hk
    rw [Store.run?_noteOutcome, if_neg hm, Store.run?_setGuard, if_neg hm]

/-- Performing a task keeps nodes guarded. -/
theorem Guarded.perform (ho : Ordered ⟨s, tk :: ts, held⟩) (h : Guarded ⟨s, tk :: ts, held⟩ n)
    (hp : tk.Performs ev s t new) : Guarded ⟨t, new ++ ts, held⟩ n := by
  have hrun := ho.run?_perform (n := n) hp
  cases hp with
  | close | tell | miss | heed | ignore | refuse | keep | bound | pass =>
    exact h.idle rfl rfl (by simp [Task.settles])
  | follow | bind => exact h.idle (hrun rfl) rfl (by simp [Task.settles])
  | update => exact h.idle (hrun rfl) rfl (by simp [Task.settles, Store.roundOf])
  | judge => exact h.idle (hrun rfl) rfl (by split <;> simp [Task.settles, Store.roundOf])
  | @request m force g hd hg =>
    by_cases hm : n = m
    · subst hm
      exact h.request hg force
    · refine h.idle (hrun (by simp [Task.runs, Ne.symm hm])) rfl ?_
      split <;> simp [Task.settles, Ne.symm hm]
  | @again m k g g' force hg hp =>
    by_cases hm : n = m
    · subst hm
      exact h.goes_on hg (Guard.of_afterPass_pass hp) (by simp [Task.settles])
        (by simp [Task.settles])
    · exact h.idle (hrun (by simp [Task.runs, Ne.symm hm])) (by simp [Task.settles, Ne.symm hm])
        (by simp [Task.settles, Ne.symm hm])
  | @extra m k g g' hg hp =>
    by_cases hm : n = m
    · subst hm
      exact h.goes_on hg (Guard.of_afterPass_extra hp) (by simp [Task.settles])
        (by simp [Task.settles])
    · exact h.idle (hrun (by simp [Task.runs, Ne.symm hm])) (by simp [Task.settles, Ne.symm hm])
        (by simp [Task.settles, Ne.symm hm])
  | @stop m k g g' o hg hp =>
    by_cases hm : n = m
    · subst hm
      obtain ⟨hr, hpd, -⟩ := Guard.of_afterPass_stop hp
      exact h.stops hg hr hpd o (by simp [Task.settles])
    · exact h.idle (hrun (by simp [Task.runs, Ne.symm hm]))
        (by simp [Task.settles, Ne.symm hm]) (List.forall_mem_nil _)
  | @stopExtra m k g hg =>
    by_cases hm : n = m
    · subst hm
      exact h.stops hg rfl rfl _ (by simp [Task.settles])
    · exact h.idle (hrun (by simp [Task.runs, Ne.symm hm]))
        (by simp [Task.settles, Ne.symm hm]) (List.forall_mem_nil _)
  | @gone m k hg =>
    by_cases hm : n = m
    · subst hm
      exact of_guard?_none hg
    · exact h.idle rfl (by simp [Task.settles, Ne.symm hm]) (List.forall_mem_nil _)
  | @goneExtra m k hg =>
    by_cases hm : n = m
    · subst hm
      exact of_guard?_none hg
    · exact h.idle rfl (by simp [Task.settles, Ne.symm hm]) (List.forall_mem_nil _)

/-- Performing a task that neither computes a node nor touches its runs leaves it asked. -/
theorem Asked.idle (h : Asked ⟨s, tk :: ts, held⟩ n) (hr : t.run? n = s.run? n) (hk : ¬ tk.Asks n) :
    Asked ⟨t, new ++ ts, held⟩ n := by
  rcases h with ⟨tk', htk, ha⟩ | ⟨g, o, hg, h⟩
  · rcases List.mem_cons.1 htk with rfl | htk
    · exact absurd ha hk
    · exact Or.inl ⟨tk', List.mem_append_right _ htk, ha⟩
  · exact Or.inr ⟨g, o, hr.trans hg, h⟩

theorem Asked.of_mem (tk : Task H) (hm : tk ∈ new) (ha : tk.Asks n) : Asked ⟨t, new ++ ts, held⟩ n :=
  Or.inl ⟨tk, List.mem_append_left _ hm, ha⟩

/-- A node whose run has been cut off counts as asked. -/
theorem Asked.of_cutOff {g : Guard} {o : Option RunOutcome} {k : Nat} (hg : s.run? n = some (g, o))
    {h : Guard} (hr : h.running = false) :
    Asked ⟨(s.setGuard n h).noteOutcome n (.cutOff k), ts, held⟩ n :=
  Or.inr ⟨h, some (.cutOff k), by simp [Store.run?_noteOutcome, Store.run?_setGuard, hg],
    Or.inr ⟨hr, k, rfl⟩⟩

/-- A request leads to a pass or is pending. -/
theorem Asked.request {g : Guard} (hg : s.guard? n = some g) (force : Bool) :
    Asked ⟨s.setGuard n (g.request force).1,
      (if (g.request force).2 then [.pass n force, .settle n 1] else []) ++ ts, held⟩ n := by
  obtain ⟨o, hr⟩ := guard?_eq_some_iff.1 hg
  cases hs : (g.request force).2 with
  | true => exact .of_mem (.pass n force) (by simp) rfl
  | false =>
    exact Or.inr ⟨_, o, by simp [Store.run?_setGuard, hr], Or.inl (Guard.of_request_waits hs).2.2⟩

/-- Where a pass of a run ends, a request that is left leads to a further one or is dropped. -/
theorem Asked.stop {g g' : Guard} {k : Nat} {o : RunOutcome}
    (h : Asked ⟨s, .settle n k :: ts, held⟩ n) (hn : Guarded ⟨s, .settle n k :: ts, held⟩ n)
    (hg : s.guard? n = some g) (hp : g.afterPass k = (g', .stop o)) :
    Asked ⟨(s.setGuard n g').noteOutcome n o, ts, held⟩ n := by
  obtain ⟨hr, -, ho⟩ := Guard.of_afterPass_stop hp
  rcases h with ⟨tk, htk, ha⟩ | ⟨g₁, o₁, hg₁, h⟩
  · rcases List.mem_cons.1 htk with rfl | htk
    · cases ha
    · exact Or.inl ⟨tk, htk, ha⟩
  · obtain rfl : g = g₁ := Option.some.inj (hg.symm.trans (guard?_eq_some_iff.2 ⟨o₁, hg₁⟩))
    have hrun : g.running := by
      by_contra hrun
      have hc := (hn g o₁ hg₁).1
      simp [hrun, Task.settles] at hc
    rcases h with h | ⟨h, -⟩
    · rw [ho h]
      exact .of_cutOff hg₁ hr
    · rw [h] at hrun
      cases hrun

/-- Who has asked to be computed anew is computed or still asked when a task is performed. -/
theorem Asked.perform (ho : Ordered ⟨s, tk :: ts, held⟩) (hn : Guarded ⟨s, tk :: ts, held⟩ n)
    (h : Asked ⟨s, tk :: ts, held⟩ n) (hp : tk.Performs ev s t new) (hd : s.isDisposed n = false) :
    Asked ⟨t, new ++ ts, held⟩ n ∨ ∃ force, tk = .pass n force := by
  have hrun := ho.run?_perform (n := n) hp
  by_cases hk : ∃ force, tk = .pass n force
  · exact Or.inr hk
  have pass : ∀ m force, tk = .pass m force → ¬ tk.Asks n := by
    rintro m force rfl e
    exact hk ⟨force, by rw [show m = n from e]⟩
  refine Or.inl ?_
  cases hp with
  | close | tell | miss | follow | heed | ignore | bound | pass | bind =>
    exact h.idle (hrun rfl) (by simp [Task.Asks])
  | keep | update | judge => exact h.idle (hrun rfl) (pass _ _ rfl)
  | @request m force g _ hg =>
    by_cases hm : m = n
    · subst hm
      exact .request hg force
    · exact h.idle (hrun (by simp [Task.runs, hm])) hm
  | @refuse m force hm =>
    refine h.idle rfl ?_
    intro e
    rw [show m = n from e, hd] at hm
    cases hm
  | @again m k g g' force hg hp =>
    by_cases hm : m = n
    · subst hm
      exact .of_mem (.pass m force) (by simp) rfl
    · exact h.idle (hrun (by simp [Task.runs, hm])) (by simp [Task.Asks])
  | @extra m k g g' hg hp =>
    by_cases hm : m = n
    · subst hm
      exact .of_mem (.pass m true) (by simp) rfl
    · exact h.idle (hrun (by simp [Task.runs, hm])) (by simp [Task.Asks])
  | @stop m k g g' o hg hp =>
    by_cases hm : m = n
    · subst hm
      exact h.stop hn hg hp
    · exact h.idle (hrun (by simp [Task.runs, hm])) (by simp [Task.Asks])
  | @stopExtra m k g hg =>
    by_cases hm : m = n
    · subst hm
      obtain ⟨o, hr⟩ := guard?_eq_some_iff.1 hg
      exact .of_cutOff hr rfl
    · exact h.idle (hrun (by simp [Task.runs, hm])) (by simp [Task.Asks])
  | gone | goneExtra => exact h.idle rfl (by simp [Task.Asks])

end

/-! ## Steps -/

/-- A step that performs no task leaves the tasks as they are, but for new ones in front of them,
    and lets the runs of all nodes be. -/
structure Quiet (c d : Situation H) : Prop where
  tasks : ∀ tk ∈ c.tasks, tk ∈ d.tasks
  settles : ∀ n, d.tasks.countP (Task.settles n) = c.tasks.countP (Task.settles n)
  run : ∀ n, c.store.Alive n.entity → d.store.Alive n.entity → d.store.run? n = c.store.run? n
  fresh : ∀ n, ¬ c.store.Alive n.entity → d.store.Alive n.entity →
    ∃ limit, d.store.run? n = some (.ofLimit limit, none)

theorem Quiet.of_run {s t : Store H} {ts ts' held held'} (hr : ∀ n, t.run? n = s.run? n)
    (ht : ∀ tk ∈ ts, tk ∈ ts')
    (hs : ∀ n, ts'.countP (Task.settles n) = ts.countP (Task.settles n)) :
    Quiet ⟨s, ts, held⟩ ⟨t, ts', held'⟩ where
  tasks := ht
  settles := hs
  run n _ _ := hr n
  fresh n hs ht := by
    rw [← Store.isSome_run?_iff, hr, Store.isSome_run?_iff] at ht
    exact absurd ht hs

theorem Quiet.of_node {s t : Store H} {ts held} {m : Node}
    (hr : ∀ n, some m ≠ some n → t.run? n = s.run? n)
    (hm : s.Alive m.entity → ¬ t.Alive m.entity)
    (hf : t.Alive m.entity → ∃ limit, t.run? m = some (.ofLimit limit, none)) :
    Quiet ⟨s, ts, held⟩ ⟨t, ts, held⟩ where
  tasks _ := id
  settles _ := rfl
  run n hs ht := by
    by_cases hn : m = n
    · subst hn
      exact absurd ht (hm hs)
    · exact hr n fun e => hn (Option.some.inj e)
  fresh n hs ht := by
    by_cases hn : m = n
    · subst hn
      exact hf ht
    · rw [← Store.isSome_run?_iff, hr n fun e => hn (Option.some.inj e),
        Store.isSome_run?_iff] at ht
      exact absurd ht hs

theorem not_alive_new_proxy (s : Store H) :
    ¬ s.Alive (Node.proxy ⟨s.proxies.next⟩).entity := by
  simp [Node.entity, Store.Alive, Store.proxy?, Roster.get?_next]

theorem not_alive_new_validator (s : Store H) :
    ¬ s.Alive (Node.validator ⟨s.validators.next⟩).entity := by
  simp [Node.entity, Store.Alive, Store.validator?, Roster.get?_next]

theorem Step.quiet (ho : c.Ordered) (hs : Step ev c d) : Quiet c d ∨ ∃ s t tk new ts held,
    c = ⟨s, tk :: ts, held⟩ ∧ d = ⟨t, new ++ ts, held⟩ ∧ tk.Performs ev s t new := by
  have same {s t : Store H} {ts held held'} (hr : ∀ n, t.run? n = s.run? n) :
      Quiet ⟨s, ts, held⟩ ⟨t, ts, held'⟩ := .of_run hr (fun _ => id) fun _ => rfl
  have new {s t : Store H} {tk ts held} (hr : ∀ n, t.run? n = s.run? n)
      (hk : ∀ n, tk.settles n = false) : Quiet ⟨s, ts, held⟩ ⟨t, tk :: ts, held⟩ :=
    .of_run hr (fun _ => List.mem_cons_of_mem _) fun n => by simp [hk n]
  cases hs with
  | perform hp => exact Or.inr ⟨_, _, _, _, _, _, rfl, rfl, hp⟩
  | hold | form => exact Or.inl (same fun n => by cases n <;> rfl)
  | build hb =>
    refine Or.inl (same ?_)
    intro n
    cases n <;> simp only [Store.run?, Store.proxy?, Store.validator?, hb.proxies, hb.validators]
  | change => exact Or.inl (new (fun n => by cases n <;> rfl) fun _ => rfl)
  | handle hf => exact Or.inl (same fun n => hf.run_eq n)
  | @newProxy s ts held source b limit =>
    obtain ⟨hf, ws, hy, -, -⟩ := Store.newProxy_spec source b limit ho.sealed (ho.ledger _)
    exact Or.inl (.of_node (m := .proxy ⟨s.proxies.next⟩) hf.run
      (fun h => absurd h (not_alive_new_proxy s))
      fun _ => ⟨limit, by simp [Store.run?, hy, ProxyState.fresh]⟩)
  | disposeProxy p =>
    exact Or.inl (same fun n => (Store.frame_disposeProxy (r := none) (ho.ledger p)).run_eq n)
  | @newValidator s ts held field rules limit hh =>
    obtain ⟨hf, ⟨ws, hy⟩, -⟩ := Store.newValidator_spec ev field rules limit hh
    exact Or.inl (.of_node (m := .validator ⟨s.validators.next⟩) hf.run
      (fun h => absurd h (not_alive_new_validator s))
      fun _ => ⟨limit, by simp [Store.run?, hy, ValidatorState.fresh]⟩)
  | disposeValidator v =>
    exact Or.inl (same fun n =>
      (Store.frame_disposeValidator (r := none) (ho.hearing v)).run_eq n)
  | ask | rebind => exact Or.inl (new (fun _ => rfl) fun _ => rfl)
  | @drop s ts held e hn =>
    refine Or.inl ?_
    cases e with
    | object o => exact same fun n => by cases n <;> rfl
    | proxy p =>
      obtain ⟨hf, hx, -⟩ := Store.drop_proxy_spec (ho.ledger p)
      have hn : ¬ (s.drop (.proxy p)).Alive (Node.proxy p).entity := by
        simp [Node.entity, Store.Alive, hx]
      exact .of_node hf.run (fun _ => hn) fun h => absurd h hn
    | validator v =>
      obtain ⟨hf, hx, -⟩ := Store.drop_validator_spec (ho.hearing v)
      have hn : ¬ (s.drop (.validator v)).Alive (Node.validator v).entity := by
        simp [Node.entity, Store.Alive, hx]
      exact .of_node hf.run (fun _ => hn) fun h => absurd h hn
    | form f => exact same fun n => by cases n <;> rfl

/-- Every step keeps nodes guarded. -/
theorem Guarded.step (ho : c.Ordered) (h : c.Guarded n) (hs : Step ev c d) : d.Guarded n := by
  rcases hs.quiet ho with hq | ⟨s, t, tk, new, ts, held, rfl, rfl, hp⟩
  · intro g o hg
    have hd : d.store.Alive n.entity := Store.isSome_run?_iff.1 (by simp [hg])
    rw [hq.settles]
    by_cases hc : c.store.Alive n.entity
    · exact h g o (hq.run n hc hd ▸ hg)
    · obtain ⟨limit, hr⟩ := hq.fresh n hc hd
      obtain ⟨rfl, -⟩ : Guard.ofLimit limit = g ∧ none = o := by simpa [hr] using hg
      rw [ho.countP_settles hc]
      exact ⟨rfl, nofun⟩
  · exact h.perform ho hp

/-- Who has asked to be computed anew still asks after a step that performs no task. -/
theorem Asked.quiet (h : c.Asked n) (hq : Quiet c d) (hd : d.store.Alive n.entity)
    (hc : c.store.Alive n.entity) : d.Asked n := by
  rcases h with ⟨tk, htk, ha⟩ | ⟨g, o, hg, h⟩
  · exact Or.inl ⟨tk, hq.tasks tk htk, ha⟩
  · exact Or.inr ⟨g, o, (hq.run n hc hd).trans hg, h⟩

end Situation

end LiveForm
