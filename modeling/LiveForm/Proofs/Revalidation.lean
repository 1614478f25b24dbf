/-
  Validators show what their rules say.

  When nothing is going on, a validator shows the result of its rules on the values that the proxies
  show now, whatever has happened before, as long as neither it nor a proxy that it watches is disposed
  of and its last run was not cut off. To validate once more then changes nothing.

  * `Sound.validates_of_idle`: the result is the one of the rules;
  * `execute_validate`: what validating once more comes to, one piece of work after the other;
  * `Reachable.revalidation_quiet`: the result.
-/
import LiveForm.Proofs.Coherence
import LiveForm.Proofs.Sweeping

namespace LiveForm

namespace Roster

variable {α : Type} (r : Roster α) (n : Nat)

theorem modify_modify (f g : α → α) : (r.modify n f).modify n g = r.modify n fun a => g (f a) := by
  simp only [modify, List.map_map, mk.injEq, and_true]
  refine List.map_congr_left ?_
  intro e _
  by_cases h : e.1 = n <;> simp [h]

/-- Changes that do the same with the entry of a number are the same. -/
theorem modify_congr {f g : α → α} (h : ∀ a, r.get? n = some a → f a = g a) :
    r.modify n f = r.modify n g := by
  simp only [modify, mk.injEq, and_true]
  refine List.map_congr_left ?_
  intro e he
  obtain ⟨m, a⟩ := e
  by_cases hm : m = n
  · subst hm
    simp [h a (get?_eq_some_iff.2 he)]
  · simp [hm]

end Roster

namespace Store

variable {H : Type} {s : Store H} {v : ValidatorId} {x : ValidatorState H}

/-! ## One run -/

variable {g : Guard}

/-- A validator at rest starts to run when it is asked to. -/
theorem perform_recompute_validator (ev : Evaluator) (hx : s.validator? v = some x)
    (hg : x.guard = g) (hd : x.disposed = false) (hr : g.running = false) (force : Bool) :
    (Task.recompute (.validator v) force).perform ev s =
      (s.setGuard (.validator v) { g with running := true },
        [.pass (.validator v) force, .settle (.validator v) 1]) := by
  simp [Task.perform, isDisposed, guard?, hx, hg, hd, Guard.request, hr]

/-- A pass changes nothing where the result is what it should be. -/
theorem perform_pass_validator (ev : Evaluator) (hx : s.validator? v = some x)
    (hf : x.result = s.validate ev x.field x.rules) (force : Bool) :
    (Task.pass (.validator v) force).perform ev s = (s, []) := by
  simp [Task.perform, passValidator, hx, hf]

/-- A run is over after a pass in which nobody has asked again. -/
theorem perform_settle_validator (ev : Evaluator) (hx : s.validator? v = some x)
    (hg : x.guard = g) (hp : g.pending = false) (k : Nat) :
    (Task.settle (.validator v) k).perform ev s =
      ((s.setGuard (.validator v) { g with running := false }).noteOutcome (.validator v)
        (.settled k), []) := by
  simp [Task.perform, guard?, hx, hg, Guard.afterPass, hp]

/-- The guard is after a run what it was before. -/
theorem setGuard_setGuard_noteOutcome (hx : s.validator? v = some x) (hg : x.guard = g)
    (hr : g.running = false) (k : Nat) :
    ((s.setGuard (.validator v) { g with running := true }).setGuard (.validator v)
      { g with running := false }).noteOutcome (.validator v) (.settled k) =
      s.noteOutcome (.validator v) (.settled k) := by
  simp only [setGuard, noteOutcome, modifyValidator, Roster.modify_modify]
  congr 1
  refine Roster.modify_congr _ _ ?_
  intro y hy
  obtain rfl := Option.some.inj (hx.symm.trans hy)
  simp [← hr, hg]

theorem refers_modifyValidator {f : ValidatorState H → ValidatorState H}
    (hf : ∀ x, (f x).entities = x.entities) {e : Entity} (h : s.Refers e) :
    (s.modifyValidator v f).Refers e := by
  rcases h with h | h | ⟨w, x, hx, he⟩ | h
  · exact Or.inl h
  · exact Or.inr (Or.inl h)
  · obtain ⟨y, hy, e⟩ := exists_of_map_eq
      (map_validator?_modifyValidator (v := v) (w := w) fun _ => hf).symm hx
    exact Or.inr (Or.inr (Or.inl ⟨w, y, hy, e ▸ he⟩))
  · exact Or.inr (Or.inr (Or.inr h))

end Store

namespace Session

variable {g : Engine} {s : Session} {u : Store Script} {v : ValidatorId}
  {x : ValidatorState Script}

/-! ## Work in between -/

/-- A session in the middle of a command of the caller. -/
def amid (s : Session) (u : Store Script) (ws : List Work) : Session :=
  { s.withStore u with agenda := ws, log := [], answer := none }

theorem clean_amid (h : s.Clean) (idle : s.agenda = []) (alive : ∀ e, u.Alive e → s.store.Alive e)
    (refers : ∀ e, s.store.Refers e → u.Refers e) (ws : List Work) : (s.amid u ws).Clean := by
  intro e he
  refine (h e (alive e he)).imp (fun hm => ?_) (refers e)
  rw [held, idle, List.flatMap_nil, List.append_nil] at hm
  exact List.mem_append_left _ hm

/-- There is no garbage either while a validator is worked at. -/
theorem clean_amid_modifyValidator (h : s.Clean) (idle : s.agenda = [])
    {f : ValidatorState Script → ValidatorState Script} (hf : ∀ x, (f x).entities = x.entities)
    (ws : List Work) : (s.amid (s.store.modifyValidator v f) ws).Clean := by
  refine clean_amid h idle (fun e he => ?_) (fun e => Store.refers_modifyValidator hf) ws
  rwa [← Store.mem_entities_iff, Store.entities_modifyValidator, Store.mem_entities_iff] at he

theorem finish_succ {w : Work} {ws : List Work} (hs : s.agenda = w :: ws) (fuel : Nat) :
    finish (fuel + 1) s = finish fuel s.step := by
  conv_lhs => unfold finish
  rw [hs]

theorem finish_of_idle (idle : s.agenda = []) (fuel : Nat) : finish fuel s = some s := by
  unfold finish
  rw [idle]

/-- To perform a task that calls nobody changes the store and puts other tasks first. -/
theorem finish_amid {tk : Task Script} (hk : ∀ l e, tk ≠ .call l e) {t : Store Script}
    {new : List (Task Script)} (hp : tk.perform s.engine.evaluator u = (t, new)) {ws : List Work}
    (hc : (s.amid t (new.map .task ++ ws)).Clean) (fuel : Nat) :
    finish (fuel + 1) (s.amid u (.task tk :: ws)) = finish fuel (s.amid t (new.map .task ++ ws)) := by
  have hs : (s.amid u (.task tk :: ws)).step =
      (s.amid (tk.perform s.engine.evaluator u).1
        ((tk.perform s.engine.evaluator u).2.map .task ++ ws)).sweep := by
    cases tk with
    | call l e => exact absurd rfl (hk l e)
    | round | recompute | pass | settle | settleExtra | rebind => rfl
  rw [finish_succ rfl, hs, hp, hc.sweep]

/-- The result of a validator is handed to the caller. -/
theorem finish_validatorResult (hx : u.validator? v = some x) (hc : (s.amid u []).Clean) (fuel : Nat) :
    finish (fuel + 1) (s.amid u [.reply (.validatorResult v) none]) =
      some { s.amid u [] with answer := some (.result x.result) } := by
  have hr : (s.amid u []).resultOf v = x.result := by
    have hx : (s.amid u []).store.validator? v = some x := hx
    simp only [resultOf, hx]
  have hs : (s.amid u [.reply (.validatorResult v) none]).step =
      ({ s.amid u [] with answer := some (.result ((s.amid u []).resultOf v)) } : Session).sweep :=
    rfl
  have hc : ({ s.amid u [] with answer := some (.result x.result) } : Session).Clean := hc
  rw [finish_succ rfl, hs, hr, hc.sweep]
  exact finish_of_idle rfl fuel

/-! ## Validating once more -/

/-- The agenda of a command that validates. -/
theorem start_validate (idle : s.agenda = []) {name : String}
    (hn : s.validators.lookup name = some v) :
    ({ s with log := [], answer := none } : Session).start none (.validate name) none =
      s.amid s.store [.task (.recompute (.validator v) false), .reply (.validatorResult v) none] := by
  simp only [start, carryOut, onValidator, orMissing, hn, present, push, idle, amid]
  rfl

/-- To validate where the result is what it should be changes nothing but the note of how the last run
    ended, and nobody is told of anything. -/
theorem execute_validate (h : s.Clean) (idle : s.agenda = []) {name : String}
    (hn : s.validators.lookup name = some v) (hx : s.store.validator? v = some x)
    (hd : x.disposed = false) (hr : x.guard.running = false) (hp : x.guard.pending = false)
    (hf : x.result = s.store.validate s.engine.evaluator x.field x.rules) (fuel : Nat) :
    s.execute (fuel + 4) (.validate name) =
      some { s.withStore (s.store.noteOutcome (.validator v) (.settled 1)) with
        log := [], answer := some (.result x.result) } := by
  generalize hg : x.guard = g at hr hp
  let running := s.store.setGuard (.validator v) { g with running := true }
  let settled := s.store.noteOutcome (.validator v) (.settled 1)
  have hx₁ : running.validator? v = some { x with guard := { g with running := true } } :=
    Store.validator?_modifyValidator_self hx _
  have hx₂ : settled.validator? v = some { x with lastRun := some (.settled 1) } :=
    Store.validator?_modifyValidator_self hx _
  have hc₀ : ∀ ws, (s.amid s.store ws).Clean := clean_amid h idle (fun _ => id) fun _ => id
  have hc₁ : ∀ ws, (s.amid running ws).Clean := clean_amid_modifyValidator h idle fun _ => rfl
  have hc₂ : ∀ ws, (s.amid settled ws).Clean := clean_amid_modifyValidator h idle fun _ => rfl
  have recompute := Store.perform_recompute_validator s.engine.evaluator hx hg hd hr false
  have pass := Store.perform_pass_validator s.engine.evaluator hx₁ hf false
  have settle := Store.perform_settle_validator s.engine.evaluator hx₁ rfl hp 1
  calc s.execute (fuel + 4) (.validate name)
      = finish (fuel + 4) (s.amid s.store
          [.task (.recompute (.validator v) false), .reply (.validatorResult v) none]) := by
        rw [execute, start_validate idle hn, (hc₀ _).sweep]
    _ = finish (fuel + 3) (s.amid running [.task (.pass (.validator v) false),
          .task (.settle (.validator v) 1), .reply (.validatorResult v) none]) :=
        finish_amid (fun _ _ e => by cases e) recompute (hc₁ _) _
    _ = finish (fuel + 2) (s.amid running
          [.task (.settle (.validator v) 1), .reply (.validatorResult v) none]) :=
        finish_amid (fun _ _ e => by cases e) pass (hc₁ _) _
    _ = finish (fuel + 1) (s.amid settled [.reply (.validatorResult v) none]) := by
        rw [Store.setGuard_setGuard_noteOutcome hx hg hr] at settle
        exact finish_amid (fun _ _ e => by cases e) settle (hc₂ _) _
    _ = some { s.amid settled [] with answer := some (.result x.result) } :=
        finish_validatorResult hx₂ (hc₂ _) _
    _ = _ := by
        rw [amid, ← idle]
        rfl

/-- Where nothing is going on, a validator shows what its rules say. -/
theorem Sound.validates_of_idle (h : s.Sound) (idle : s.agenda = [])
    (hx : s.store.validator? v = some x) (hd : x.disposed = false)
    (hr : ∀ k, x.lastRun ≠ some (.cutOff k))
    (hw : ∀ p ∈ x.watched, ∀ y, s.store.proxy? p = some y → y.disposed = false) :
    x.result = s.store.validate s.engine.evaluator x.field x.rules := by
  have hg : s.store.run? (.validator v) = some (x.guard, x.lastRun) := congrArg (Option.map _) hx
  obtain ⟨told, asked⟩ := h.quiet_of_idle idle hg hr
  have hw' : ∀ p ∈ x.watched, s.store.isDisposed (.proxy p) = false := fun p hp => by
    have ⟨y, hy⟩ : ∃ y, s.store.proxy? p = some y :=
      Option.isSome_iff_exists.1 (h.situation.watched hx p hp)
    simp [Store.isDisposed, hy, hw p hp y hy]
  exact (h.situation.validates v x hx hd hw').resolve_right (fun hn => hn.elim told asked) x hx

/-- When nothing is going on, a validator that is not disposed of, nor any of the proxies that it
    watches, shows what its rules say of the values that the proxies show now, unless its last run was
    cut off. To validate once more then gives the same result, changes nothing but the note of how the
    last run ended, and tells nobody of anything. -/
theorem Reachable.revalidation_quiet (h : Reachable g s) (idle : s.agenda = [])
    (hx : s.store.validator? v = some x) (hd : x.disposed = false)
    (hr : ∀ k, x.lastRun ≠ some (.cutOff k))
    (hw : ∀ p ∈ x.watched, ∀ y, s.store.proxy? p = some y → y.disposed = false) :
    x.result = s.store.validate s.engine.evaluator x.field x.rules ∧
      ∀ name, s.validators.lookup name = some v → ∀ fuel, 4 ≤ fuel →
        s.execute fuel (.validate name) =
          some { s.withStore (s.store.noteOutcome (.validator v) (.settled 1)) with
            log := [], answer := some (.result x.result) } := by
  have hf := h.sound.validates_of_idle idle hx hd hr hw
  refine ⟨hf, ?_⟩
  intro name hn fuel hfuel
  have hg : s.store.run? (.validator v) = some (x.guard, x.lastRun) := congrArg (Option.map _) hx
  obtain ⟨running, pending⟩ := (h.sound.situation.guarded _).idle_rest (tasks_of_idle idle) hg
  obtain ⟨n, rfl⟩ := Nat.exists_eq_add_of_le' hfuel
  exact execute_validate h.clean idle hn hx hd running pending hf n

/-- A validator whose listener writes into the object that is validated shows the new result after a
    change of the object, and may be asked for it again. -/
theorem revalidation_quiet_feedback : ∃ s : Session,
    Reachable (.ofConfiguration .testing .empty) s ∧ s.agenda = [] ∧
      ∃ v x, s.store.validator? v = some x ∧ x.disposed = false ∧
        (∀ k, x.lastRun ≠ some (.cutOff k)) ∧
        (∀ p ∈ x.watched, ∀ y, s.store.proxy? p = some y → y.disposed = false) ∧
        x.result.errors = ["7 of 5"] ∧
        x.result = s.store.validate s.engine.evaluator x.field x.rules ∧
        s.execute 4 (.validate "v") =
          some { s.withStore (s.store.noteOutcome (.validator v) (.settled 1)) with
            log := [], answer := some (.result x.result) } := by
  have run : (trial (.ofConfiguration .testing .empty) 60
      [("a", [("n", .value (.integer 3)), ("limit", .value (.integer 9)),
        ("text", .value (.string ""))])]
      [.bind "n" "\x7bBinding n\x7d" none ⟨some "a", none⟩,
        .bind "limit" "\x7bBinding limit\x7d" none ⟨some "a", none⟩,
        .bind "text" "\x7bBinding text\x7d" none ⟨some "a", none⟩,
        .newValidator "v" "n" [⟨.lessThan, some (.proxy "limit"), none, some (.live (.proxy "text")),
          .runComparator, false, false, none⟩] none,
        .watch "v" (.mk "h" [.mk none (.set "a" "text" (.value (.string "7 of 5")))]),
        .set "a" "n" (.value (.integer 7)), .set "a" "limit" (.value (.integer 5))]).any
          (fun s => (s.store.validator? ⟨0⟩).any fun x => decide (x.disposed = false ∧
            x.lastRun.bind RunOutcome.cutOff? = none ∧
            (∀ p ∈ x.watched, ∀ y ∈ s.store.proxy? p, y.disposed = false) ∧
            x.result.errors = ["7 of 5"] ∧ s.validators.lookup "v" = some ⟨0⟩)) = true := by
    decide +kernel
  obtain ⟨s, hs, hx⟩ := (Option.any_eq_true _ _).1 run
  obtain ⟨x, hx, hp⟩ := (Option.any_eq_true _ _).1 hx
  obtain ⟨hd, hr, hw, he, hn⟩ := of_decide_eq_true hp
  obtain ⟨h, idle⟩ := reachable_of_trial hs
  have hr : ∀ k, x.lastRun ≠ some (.cutOff k) := fun k e => by rw [e] at hr; cases hr
  obtain ⟨hf, quiet⟩ := h.revalidation_quiet idle hx hd hr hw
  exact ⟨s, h, idle, ⟨0⟩, x, hx, hd, hr, hw, he, hf, quiet "v" hn 4 (Nat.le_refl 4)⟩

end Session

end LiveForm
