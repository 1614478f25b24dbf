/-
  Proxies show what they are computed from.

  When nothing is going on, a proxy shows the value of its template as its objects now stand, whatever
  has happened before. `Reachable.coherent` is the result; it needs the objects that the proxy is
  bound to, and that the last run of the proxy was not cut off.
-/
import LiveForm.Proofs.Moves

namespace LiveForm

instance {H : Type} (s : Store H) (o : ObjectId) : Decidable (s.Lives o) :=
  inferInstanceAs (Decidable ((s.object? o).isSome = true))

/-- The objects of a binding are looked up one by one. -/
instance {H : Type} (s : Store H) (b : Binding) : Decidable (s.Holds b) :=
  decidable_of_iff ((∀ o ∈ b.model, s.Lives o) ∧ ∀ o ∈ b.context, s.Lives o)
    ⟨fun h r o ho => by cases r; exacts [h.1 o ho, h.2 o ho],
      fun h => ⟨fun o ho => h .model o ho, fun o ho => h .context o ho⟩⟩

namespace Session

open Situation

variable {g : Engine} {s : Session}

theorem tasks_of_idle (idle : s.agenda = []) : s.situation.tasks = [] := by
  simp only [situation, idle, List.filterMap_nil]

/-- Where nothing is going on, nobody is to be told of a change, and who has asked to be computed anew
    has been cut off. -/
theorem Sound.quiet_of_idle (h : s.Sound) (idle : s.agenda = []) {n : Node} {g : Guard}
    {o : Option RunOutcome} (hr : s.store.run? n = some (g, o)) (hk : ∀ k, o ≠ some (.cutOff k)) :
    ¬ s.situation.Told n ∧ ¬ s.situation.Asked n := by
  have ht := tasks_of_idle idle
  refine ⟨fun hn => hn.not_idle ht, fun hn => ?_⟩
  obtain ⟨g', k, hg⟩ := hn.idle_cutOff (h.situation.guarded n) ht
  exact hk k (congrArg Prod.snd (Option.some.inj (hr.symm.trans hg)))

/-- Where nothing is going on, a proxy watches what it should, and shows what it should unless its last
    run was cut off. -/
theorem Sound.follows_of_idle (h : s.Sound) (idle : s.agenda = []) {p : ProxyId}
    {x : ProxyState Script} (hx : s.store.proxy? p = some x) (hd : x.disposed = false)
    (hb : s.store.Holds x.binding) :
    s.store.Attached p x ∧
      ((∀ k, x.lastRun ≠ some (.cutOff k)) → s.store.Fresh s.engine.evaluator (.proxy p)) := by
  rcases h.situation.follows p x hx hd hb with ⟨ha, hf⟩ | ⟨-, hn⟩
  · refine ⟨ha, ?_⟩
    intro hr
    have hg : s.store.run? (.proxy p) = some (x.guard, x.lastRun) := congrArg (Option.map _) hx
    obtain ⟨told, asked⟩ := h.quiet_of_idle idle hg hr
    exact hf.resolve_right fun hn => hn.elim told asked
  · exact absurd (tasks_of_idle idle) hn.not_idle

/-- When nothing is going on, a proxy that is not disposed of and whose objects are alive shows the
    value of its template as the objects now stand, unless its last run was cut off. Custom filters are
    taken to be pure and to make no objects, as `Filter` has them. -/
theorem Reachable.coherent (h : Reachable g s) (idle : s.agenda = []) {p : ProxyId}
    {x : ProxyState Script} {ev : Evaluator} {t : Template} (hx : s.store.proxy? p = some x)
    (ht : x.source = .template ev t) (hd : x.disposed = false) (hb : s.store.Holds x.binding)
    (hr : ∀ k, x.lastRun ≠ some (.cutOff k)) :
    (x.cached == ev.valueOf (s.store.scope x.binding) t.root) = true := by
  have hf := (h.sound.follows_of_idle idle hx hd hb).2 hr x hx
  rwa [ht] at hf

/-- A proxy that reads a property behind another one shows the new value after the first one has been
    set to another object. -/
theorem coherent_nested : ∃ s : Session, Reachable (.ofConfiguration .testing .empty) s ∧
    ∃ p x ev t, s.store.proxy? p = some x ∧ x.source = .template ev t ∧ x.disposed = false ∧
      s.store.Holds x.binding ∧ (∀ k, x.lastRun ≠ some (.cutOff k)) ∧
      (x.cached == .integer 2) = true ∧
      (x.cached == ev.valueOf (s.store.scope x.binding) t.root) = true := by
  have run : (trial (.ofConfiguration .testing .empty) 40
      [("a", [("next", .object "b")]), ("b", [("n", .value (.integer 1))]),
        ("c", [("n", .value (.integer 2))])]
      [.bind "p" "\x7bBinding next.n\x7d" none ⟨some "a", none⟩,
        .set "a" "next" (.object "c")]).any (fun s => (s.store.proxy? ⟨0⟩).any fun x =>
          decide (x.source.isConstant = false ∧ x.disposed = false ∧ s.store.Holds x.binding ∧
            x.lastRun.bind RunOutcome.cutOff? = none ∧ (x.cached == .integer 2) = true)) = true := by
    decide +kernel
  obtain ⟨s, hs, hx⟩ := (Option.any_eq_true _ _).1 run
  obtain ⟨x, hx, hp⟩ := (Option.any_eq_true _ _).1 hx
  obtain ⟨hc, hd, hb, hr, hv⟩ := of_decide_eq_true hp
  obtain ⟨h, idle⟩ := reachable_of_trial hs
  cases ht : x.source with
  | constant v => rw [ht] at hc; cases hc
  | template ev t =>
    have hr : ∀ k, x.lastRun ≠ some (.cutOff k) := fun k e => by rw [e] at hr; cases hr
    exact ⟨s, h, ⟨0⟩, x, ev, t, hx, ht, hd, hb, hr, hv, h.coherent idle hx ht hd hb hr⟩

end Session

end LiveForm
