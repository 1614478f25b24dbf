/-
  To dispose of a proxy is final.

  A proxy that is disposed of is mute, keeps its value and is never subscribed again, wherever the
  command is given: by the caller, by an observer of an object, by one of the listeners of the proxy
  itself in the middle of a run that is to have further passes, or while the proxy is bound to other
  objects.

  * `Session.nextCommand?`: the command that a handler is going to give;
  * `Turn.kept`: what is disposed of keeps its value in a move;
  * `Reachable.dispose_final`: the result.
-/
import LiveForm.Proofs.Muting
import LiveForm.Proofs.Subscriptions

namespace LiveForm

/-- A command disposes of the proxy of a name. -/
def Command.disposesProxy (name : String) : Command → Bool
  | .dispose other => other == name
  | _ => false

/-- A command disposes of the validator of a name. -/
def Command.disposesValidator (name : String) : Command → Bool
  | .disposeValidator other => other == name
  | _ => false

theorem Command.eq_of_disposesProxy {c : Command} {name : String} (h : c.disposesProxy name) :
    c = .dispose name := by
  cases c with
  | dispose other => rw [beq_iff_eq.1 h]
  | _ => cases h

theorem Command.eq_of_disposesValidator {c : Command} {name : String}
    (h : c.disposesValidator name) : c = .disposeValidator name := by
  cases c with
  | disposeValidator other => rw [beq_iff_eq.1 h]
  | _ => cases h

namespace Session

variable {L : Licence Script} {g : Engine} {s t u : Session} {c : Command} {name : String}
  {p : ProxyId} {v : ValidatorId}

/-! ## Commands that dispose -/

/-- The command that the script of a handler is going to give. -/
def nextCommand? (s : Session) : Option Command :=
  match s.agenda with
  | .script _ e (.when condition c :: _) :: _ => if s.applies e condition then some c else none
  | _ => none

/-- To do the next piece of work gives the command of a script. -/
theorem gives_of_nextCommand? (h : s.nextCommand? = some c) : s.Gives c s.step := by
  unfold nextCommand? at h
  split at h
  · next hs =>
    split at h
    · next ha =>
      cases h
      exact .script hs ha
    · cases h
  · cases h

/-- What has been disposed of stays so when a session is swept. -/
theorem isDisposed_sweep_of {r : Session} {n : Node} (hn : r.store.Made n)
    (hd : r.store.isDisposed n) : r.sweep.store.isDisposed n := by
  by_contra hd'
  have := (Store.spares_sweep .all r.store r.held).isDisposed hn
    (Bool.eq_false_iff.2 hd')
  rw [hd] at this
  cases this

/-- The command to dispose of a proxy disposes of it. -/
theorem Reachable.isDisposed_of_dispose (h : Reachable g s) (hn : s.proxies.lookup name = some p)
    (made : s.store.Made (.proxy p)) (hg : s.Gives (.dispose name) t) :
    t.store.isDisposed (.proxy p) := by
  obtain ⟨r, e, handler, hw, -, hp, -, -, -, rfl⟩ := hg.eq_start
  have hs : r.store = s.store := congrArg Workspace.store hw
  have carried : r.carryOut e (.dispose name) =
      (r.withStore (r.store.disposeProxy p)).answering (.flag true) := by
    simp [carryOut, onProxy, orMissing, hp, hn, present]
  have hc : (r.start e (.dispose name) handler).store = s.store.disposeProxy p := by
    rw [start, carried, ← hs]
    rfl
  have change : s.store.Changes .all (s.store.disposeProxy p) := .single (.disposeProxy _ p trivial)
  exact isDisposed_sweep_of (hc ▸ (Store.spares_of_changes change).made made)
    (hc ▸ Store.isDisposed_disposeProxy (h.sound.situation.ledger p))

/-- The command to dispose of a validator disposes of it. -/
theorem Reachable.isDisposed_of_disposeValidator (h : Reachable g s)
    (hn : s.validators.lookup name = some v) (made : s.store.Made (.validator v))
    (hg : s.Gives (.disposeValidator name) t) : t.store.isDisposed (.validator v) := by
  obtain ⟨r, e, handler, hw, -, -, hv, -, -, rfl⟩ := hg.eq_start
  have hs : r.store = s.store := congrArg Workspace.store hw
  have carried : r.carryOut e (.disposeValidator name) =
      (r.withStore (r.store.disposeValidator v)).answering (.flag true) := by
    simp [carryOut, onValidator, orMissing, hv, hn, present]
  have hc : (r.start e (.disposeValidator name) handler).store = s.store.disposeValidator v := by
    rw [start, carried, ← hs]
    rfl
  have change : s.store.Changes .all (s.store.disposeValidator v) :=
    .single (.disposeValidator _ v trivial)
  exact isDisposed_sweep_of (hc ▸ (Store.spares_of_changes change).made made)
    (hc ▸ Store.isDisposed_disposeValidator (h.sound.situation.hearing v))

/-! ## Proxies -/

/-- Changes that tell nobody leave the value of a proxy and the number of its changes. -/
theorem kept_of_changes {s t : Store Script} (h : s.Changes L t) (made : s.Made (.proxy p))
    {y : ProxyState Script} (hy : t.proxy? p = some y) :
    ∃ x, s.proxy? p = some x ∧ y.cached = x.cached ∧ y.generation = x.generation := by
  rcases (Store.spares_of_changes h).proxy p y hy with ⟨x, hx, hxy⟩ | ⟨hp, -⟩
  · exact ⟨x, hx, hxy.cached, hxy.generation⟩
  · exact absurd made (Nat.not_lt.2 hp)

/-- What is disposed of keeps its value in a move. -/
theorem Turn.kept (ht : s.Turn L t) (made : s.store.Made (.proxy p))
    (hd : s.store.isDisposed (.proxy p)) {y : ProxyState Script} (hy : t.store.proxy? p = some y) :
    ∃ x, s.store.proxy? p = some x ∧ y.cached = x.cached ∧ y.generation = x.generation := by
  cases ht with
  | ask _ _ _ _ _ hu => exact kept_of_changes hu made hy
  | @perform tk _ _ _ _ hu =>
    have hp := tk.performs s.engine.evaluator s.store
    obtain ⟨z, hz, hc, hg⟩ := kept_of_changes hu (hp.made made) hy
    by_cases hk : ∀ force, tk ≠ .pass (.proxy p) force
    · have same := hp.map_proxy? (f := fun x => (x.cached, x.generation)) (fun _ _ _ _ _ _ => rfl) hk
      rw [hz] at same
      obtain ⟨x, hx, e⟩ := Option.map_eq_some_iff.1 same.symm
      obtain ⟨hc', hg'⟩ := Prod.mk.inj e
      exact ⟨x, hx, hc.trans hc'.symm, hg.trans hg'.symm⟩
    · -- a pass that may still be owed finds that the proxy is disposed of
      obtain ⟨force, rfl⟩ := not_forall_not.1 hk
      rw [hp.eq_of_disposed hd] at hz
      exact ⟨z, hz, hc, hg⟩

/-- A mute proxy keeps its value whatever happens. -/
theorem Muted.kept (h : s.Muted (.proxy p)) (hm : s.Moves t) {y : ProxyState Script}
    (hy : t.store.proxy? p = some y) :
    ∃ x, s.store.proxy? p = some x ∧ y.cached = x.cached ∧ y.generation = x.generation := by
  induction hm generalizing y with
  | refl => exact ⟨y, hy, rfl, rfl⟩
  | tail hs hm ih =>
    have muted := h.moves hs
    obtain ⟨z, hz, hc, hg⟩ := hm.turn.kept muted.made muted.disposed hy
    obtain ⟨x, hx, hc', hg'⟩ := ih hz
    exact ⟨x, hx, hc.trans hc', hg.trans hg'⟩

/-- To dispose of a proxy is final, by whatever command, and wherever the command is given: whatever
    happens afterwards, the proxy keeps its value and the number of its changes as they were then, none
    of its listeners is called, whether it was there before or has begun to listen since, and the proxy
    is subscribed to nothing. -/
theorem Reachable.dispose_final (h : Reachable g s) {x : ProxyState Script}
    (hx : s.store.proxy? p = some x) (hd : x.disposed = false) (hg : s.Gives c t)
    (hc : (∃ name, c = .dispose name ∧ s.proxies.lookup name = some p) ∨
      t.store.isDisposed (.proxy p)) (hm : t.Moves u) :
    (∀ y, u.store.proxy? p = some y →
      y.disposed ∧ y.cached = x.cached ∧ y.generation = x.generation ∧ y.subscriptions = []) ∧
    u.calls (.proxy p) = [] ∧ ∀ o n m, ¬ u.store.Subscribed p o n m := by
  have alive : s.store.isDisposed (.proxy p) = false := by simp [Store.isDisposed, hx, hd]
  have made := Store.made_of_not_disposed alive
  have disposed : t.store.isDisposed (.proxy p) := by
    rcases hc with ⟨name, rfl, hn⟩ | hc
    · exact h.isDisposed_of_dispose hn made hg
    · exact hc
  have muted := h.muted hg alive disposed
  have later := muted.moves hm
  have ledger := ((h.move (.give c hg)).moves hm).sound.situation.ledger p
  refine ⟨fun y hy => ?_, later.calls_eq_nil, ledger.not_subscribed_of_disposed later.disposed⟩
  obtain ⟨z, hz, hc, hk⟩ := muted.kept hm hy
  obtain ⟨-, -, -, -, -, hu⟩ := hg.asks
  obtain ⟨x', hx', hc', hk'⟩ := kept_of_changes hu made hz
  obtain rfl := Option.some.inj (hx.symm.trans hx')
  have hd : y.disposed := by
    have := later.disposed
    rwa [Store.isDisposed, hy] at this
  exact ⟨hd, hc.trans hc', hk.trans hk', ledger.released y hy (Or.inl hd)⟩

/-- A listener that makes its proxy owe a further pass and disposes of it then, while another listener
    is still to be told: the proxy keeps the value that was told. -/
theorem dispose_final_of_listener : ∃ s t u p x,
    Reachable (.ofConfiguration .testing .empty) s ∧ s.store.proxy? p = some x ∧
    x.disposed = false ∧ x.guard.pending ∧ (s.rounds (.proxy p)).length = 1 ∧
    s.Gives (.dispose "p") t ∧ t.Moves u ∧ u.agenda = [] ∧
    (∀ y, u.store.proxy? p = some y →
      y.disposed ∧ y.cached = x.cached ∧ y.generation = x.generation ∧ y.subscriptions = []) ∧
    u.calls (.proxy p) = [] ∧ ∀ o n m, ¬ u.store.Subscribed p o n m := by
  have run : ((trial (.ofConfiguration .testing .empty) 20 [("a", [("x", .value (.integer 1))])]
      [.bind "p" "\x7bBinding x\x7d" none ⟨some "a", none⟩,
        .listen "p" true (.mk "first" [.mk none (.set "a" "x" (.eventPlus 1)), .mk none (.dispose "p")]),
        .listen "p" true (.mk "second" [])]).map fun s =>
          (s.initiated (.set "a" "x" (.value (.integer 2)))).after 12).any (fun s =>
      (s.store.proxy? ⟨0⟩).any (fun x => !x.disposed && x.guard.pending) &&
      (s.rounds (.proxy ⟨0⟩)).length == 1 && s.proxies.lookup "p" == some ⟨0⟩ &&
      s.nextCommand?.any (Command.disposesProxy "p") &&
      (s.step.finish 20).isSome) = true := by
    decide +kernel
  obtain ⟨s, hs, run⟩ := (Option.any_eq_true _ _).1 run
  obtain ⟨s₁, h₁, rfl⟩ := Option.map_eq_some_iff.1 hs
  obtain ⟨h, idle⟩ := reachable_of_trial h₁
  have h := (h.initiated idle (.set "a" "x" (.value (.integer 2)))).after 12
  generalize (s₁.initiated (.set "a" "x" (.value (.integer 2)))).after 12 = s at h run
  simp only [Bool.and_eq_true, beq_iff_eq] at run
  obtain ⟨⟨⟨⟨hx, told⟩, hn⟩, hc⟩, ended⟩ := run
  obtain ⟨x, hx, hp⟩ := (Option.any_eq_true _ _).1 hx
  obtain ⟨hd, pending⟩ := Bool.and_eq_true_iff.1 hp
  obtain ⟨u, hu⟩ := Option.isSome_iff_exists.1 ended
  obtain ⟨hm, idle⟩ := moves_of_finish hu
  obtain ⟨c, next, hc⟩ := (Option.any_eq_true _ _).1 hc
  obtain rfl := Command.eq_of_disposesProxy hc
  have hg := gives_of_nextCommand? next
  have hd : x.disposed = false := by simpa using hd
  exact ⟨s, _, u, ⟨0⟩, x, h, hx, hd, pending, told, hg, hm, idle,
    h.dispose_final hx hd hg (Or.inl ⟨"p", rfl, hn⟩) hm⟩

end Session

end LiveForm
