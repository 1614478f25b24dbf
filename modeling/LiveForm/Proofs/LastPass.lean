/-
  To dispose of a validator is final, but for one pass.

  A validator that is disposed of is mute, and refuses requests. A request that has been put off to a
  further pass of the run in progress is not refused any more: the pass comes, and although nobody is
  told of it, the validator has another result then. After this pass nothing is pending, so there is
  none after it.

  * `Orderly.pending_of_pass`: a pass of a node that is disposed of comes of a request put off;
  * `Session.Spent`: no pass of a node is to come any more; `Spent.move`: it stays so, and the node shows
    the same;
  * `Muted.shown_or_spent`: until then it shows the same, too;
  * `Reachable.disposeValidator_settles`: the result.
-/
import LiveForm.Proofs.Finality

namespace LiveForm

variable {H : Type}

/-- A run goes on after a pass only if a request is pending. -/
theorem Guard.pending_of_goes_on {g h : Guard} {k : Nat} {x : Next} (hp : g.afterPass k = (h, x))
    (hx : ∀ o, x ≠ .stop o) : g.pending := by
  unfold afterPass at hp
  split at hp
  · cases hp
    exact absurd rfl (hx _)
  · next hn => simpa using hn

/-- Nothing is pending after a pass if nothing was before. -/
theorem Guard.pending_afterPass {g : Guard} (h : g.pending = false) (k : Nat) :
    (g.afterPass k).1.pending = false := by
  simp [afterPass, h]

section

open Situation

variable {ev : Evaluator} {s u : Store H} {tk : Task H} {new ts : List (Task H)} {n : Node}
  {held : List Entity}

/-- A pass of a node that is disposed of comes of a request that was put off. -/
theorem Task.Performs.pending_of_pass (h : tk.Performs ev s u new) (hd : s.isDisposed n) {force : Bool}
    (hm : .pass n force ∈ new) : ∃ g, s.guard? n = some g ∧ g.pending := by
  cases h with
  | @request m _ _ hd' =>
    split at hm
    · simp only [List.mem_cons, Task.pass.injEq, reduceCtorEq, List.not_mem_nil, or_false] at hm
      rw [← hm.1, hd] at hd'
      cases hd'
    · cases hm
  | again hg hp =>
    simp only [List.mem_cons, Task.pass.injEq, reduceCtorEq, List.not_mem_nil, or_false] at hm
    exact ⟨_, hm.1 ▸ hg, Guard.pending_of_goes_on hp nofun⟩
  | extra hg hp =>
    simp only [List.mem_cons, Task.pass.injEq, reduceCtorEq, List.not_mem_nil, or_false] at hm
    exact ⟨_, hm.1 ▸ hg, Guard.pending_of_goes_on hp nofun⟩
  | judge => split at hm <;> simp [Store.roundOf] at hm
  | update => simp [Store.roundOf] at hm
  | _ => simp at hm

/-- A node that is disposed of puts no more requests off. -/
theorem Task.Performs.calm_of_disposed (ho : Ordered ⟨s, tk :: ts, held⟩) (h : tk.Performs ev s u new)
    (hd : s.isDisposed n) (calm : ∀ g, s.guard? n = some g → g.pending = false) {g : Guard}
    (hg : u.guard? n = some g) : g.pending = false := by
  rcases h.guard? ho hg with hg' | ⟨g₀, hg₀, hdr⟩
  · exact calm g hg'
  · cases hdr with
    | request force =>
      cases h with
      | request hd' =>
        rw [hd] at hd'
        cases hd'
      | refuse => exact calm _ hg
    | settle k => exact Guard.pending_afterPass (calm g₀ hg₀) k
    | settleExtra k => rfl

end

namespace Session

variable {g : Engine} {s t u w : Session} {n : Node} {c : Command} {v : ValidatorId}

/-- Passes come next wherever there are any, so one that there is after a move is new. -/
theorem Orderly.pending_of_pass (h : s.Orderly) (hm : s.Move t) (hd : s.store.isDisposed n)
    {force : Bool} (hp : .task (.pass n force) ∈ t.agenda) :
    ∃ g, s.store.guard? n = some g ∧ g.pending := by
  cases hm.turn with
  | @perform tk rest hs inner ht =>
    rw [ht] at hp
    rcases List.mem_append.1 hp with hp | hp
    · obtain ⟨tk', hp, e⟩ := List.mem_map.1 hp
      cases e
      exact (tk.performs s.engine.evaluator s.store).pending_of_pass hd hp
    · have := h.prompt _ (by rw [hs]; exact hp)
      cases this
  | ask hs _ outer ht hw =>
    have := h.not_urgent hs outer (fun w hm => (hw w hm).1) _ (ht ▸ hp)
    cases this

/-- No request is put off to a further pass of a node. -/
def Unasked (n : Node) (s : Session) : Prop := ∀ g, s.store.guard? n = some g → g.pending = false

/-- Changes that tell nobody put no request off. -/
theorem unasked_of_changes {L : Licence Script} {u : Store Script}
    (calm : ∀ g, u.guard? n = some g → g.pending = false) (h : u.Changes L t.store) : t.Unasked n := by
  intro g hg
  rcases (Store.spares_of_changes h).guard? hg with hg | ⟨-, hr⟩
  · exact calm g hg
  · exact hr.pending

/-- When a node is disposed of, no more requests are put off. -/
theorem Unasked.move (h : s.Unasked n) (hs : s.Sound) (hd : s.store.isDisposed n) (hm : s.Move t) :
    t.Unasked n := by
  cases hm.turn with
  | @perform tk rest ha inner ht hu =>
    have ordered := hs.situation.toOrdered
    rw [situation_of_task ha] at ordered
    exact unasked_of_changes (fun g hg =>
      (tk.performs s.engine.evaluator s.store).calm_of_disposed ordered hd h hg) hu
  | ask _ _ _ _ _ hu => exact unasked_of_changes h hu

/-- Where no pass of a node comes next, the node shows the same after a move. -/
theorem Move.shown? (hm : s.Move t) (made : s.store.Made n)
    (hp : ∀ force, s.agenda.head? ≠ some (.task (.pass n force))) {e : Event}
    (he : t.store.shown? n = some e) : s.store.shown? n = some e := by
  cases hm.turn with
  | @perform tk rest ha inner ht hu =>
    have h := tk.performs s.engine.evaluator s.store
    have other : ∀ force, tk ≠ .pass n force := by
      rintro force rfl
      exact hp force (by rw [ha]; rfl)
    rw [← h.shown? other]
    exact (Store.spares_of_changes hu).shown? (h.made made) he
  | ask _ _ _ _ _ hu => exact (Store.spares_of_changes hu).shown? made he

/-- A node is mute, and no pass of it is to come any more. -/
structure Spent (n : Node) (s : Session) : Prop extends s.Muted n where
  calm : s.Unasked n
  rest : ∀ force, .task (.pass n force) ∉ s.agenda

/-- A pass that comes next is the last one of a node that is disposed of. -/
theorem Muted.spent (h : s.Muted n) (calm : s.Unasked n) (ho : s.Orderly) (hs : s.Sound)
    (hm : s.Move t) : t.Spent n where
  toMuted := h.move hm
  calm := calm.move hs h.disposed hm
  rest force hp := by
    obtain ⟨g, hg, hn⟩ := ho.pending_of_pass hm h.disposed hp
    rw [calm g hg] at hn
    cases hn

theorem Spent.moves (h : s.Spent n) (hr : Reachable g s) (hm : s.Moves t) :
    t.Spent n ∧ ∀ e, t.store.shown? n = some e → s.store.shown? n = some e := by
  induction hm with
  | refl => exact ⟨h, fun _ => id⟩
  | @tail t u hs hm ih =>
    obtain ⟨ht, same⟩ := ih
    have hr := hr.moves hs
    refine ⟨ht.spent ht.calm hr.orderly hr.sound hm, fun e he => same e (hm.shown? ht.made ?_ he)⟩
    exact fun force hp => ht.rest force (List.mem_of_head? hp)

/-- A mute node goes on showing what it shows until its last pass is over. -/
theorem Muted.shown_or_spent (h : s.Muted n) (hr : Reachable g s) (hm : s.Moves t) :
    (∀ e, t.store.shown? n = some e → s.store.shown? n = some e) ∨ t.Spent n := by
  induction hm with
  | refl => exact Or.inl fun _ => id
  | @tail t u hs hm ih =>
    have hr := hr.moves hs
    have ht := h.moves hs
    rcases ih with same | spent
    · by_cases hp : ∃ force, t.agenda.head? = some (.task (.pass n force))
      · obtain ⟨force, hp⟩ := hp
        exact Or.inr (ht.spent (hr.orderly.calm n force hp) hr.orderly hr.sound hm)
      · exact Or.inl fun e he => same e (hm.shown? ht.made (fun force e => hp ⟨force, e⟩) he)
    · exact Or.inr (spent.spent spent.calm hr.orderly hr.sound hm)

/-- Where nothing has been put off, nothing is left to be done when a node is disposed of. -/
theorem Reachable.spent (h : Reachable g s) (hg : s.Gives c t) (muted : t.Muted n)
    (calm : s.Unasked n) : t.Spent n := by
  obtain ⟨ws, rest, ht, hw, old, hu⟩ := hg.asks
  refine ⟨muted, unasked_of_changes calm hu, fun force hp => ?_⟩
  have := h.orderly.not_urgent (List.nil_append _).symm (fun w hm => (hg.head w hm).1) hw
    (.task (.pass n force)) (by
      rw [ht] at hp
      exact (List.mem_append.1 hp).elim (List.mem_append_left _)
        fun hp => List.mem_append_right _ (old _ hp))
  cases this

theorem result_of_shown? {s t : Store Script} {x y : ValidatorState Script}
    (h : ∀ e, t.shown? (.validator v) = some e → s.shown? (.validator v) = some e)
    (hx : s.validator? v = some x) (hy : t.validator? v = some y) : y.result = x.result := by
  have := h (.result v y.result) (by simp [Store.shown?, hy])
  simpa [Store.shown?, hx, eq_comm] using this

/-- To dispose of a validator is nearly final, by whatever command, and wherever the command is given:
    none of its listeners is called any more, whether it was there before or has begun to listen since;
    its result stays as it was then unless a request had been put off to a further pass of a run in
    progress; and if it has become another one, it never changes again. -/
theorem Reachable.disposeValidator_settles (h : Reachable g s) {x : ValidatorState Script}
    (hx : s.store.validator? v = some x) (hd : x.disposed = false) (hg : s.Gives c t)
    (hc : (∃ name, c = .disposeValidator name ∧ s.validators.lookup name = some v) ∨
      t.store.isDisposed (.validator v)) (hu : t.Moves u) (hw : u.Moves w) :
    u.calls (.validator v) = [] ∧ ∀ y, u.store.validator? v = some y →
      y.disposed ∧ (x.guard.pending = false → y.result = x.result) ∧
      ∀ z, w.store.validator? v = some z → y.result = x.result ∨ z.result = y.result := by
  have alive : s.store.isDisposed (.validator v) = false := by simp [Store.isDisposed, hx, hd]
  have made := Store.made_of_not_disposed alive
  have disposed : t.store.isDisposed (.validator v) := by
    rcases hc with ⟨name, rfl, hn⟩ | hc
    · exact h.isDisposed_of_disposeValidator hn made hg
    · exact hc
  have muted := h.muted hg alive disposed
  have later := muted.moves hu
  have ht := h.move (.give c hg)
  obtain ⟨-, -, -, -, -, changes⟩ := hg.asks
  have before : ∀ e, t.store.shown? (.validator v) = some e → s.store.shown? (.validator v) = some e :=
    fun e => (Store.spares_of_changes changes).shown? made
  refine ⟨later.calls_eq_nil, fun y hy => ⟨?disposed, ?calm, ?settled⟩⟩
  case disposed =>
    have := later.disposed
    rwa [Store.isDisposed, hy] at this
  case calm =>
    intro hp
    have calm : s.Unasked (.validator v) := by
      intro g hg
      rw [Store.guard?, hx] at hg
      cases hg
      exact hp
    have same := ((h.spent hg muted calm).moves ht hu).2
    exact result_of_shown? (fun e he => before e (same e he)) hx hy
  case settled =>
    intro z hz
    rcases muted.shown_or_spent ht hu with same | spent
    · exact Or.inl (result_of_shown? (fun e he => before e (same e he)) hx hy)
    · exact Or.inr (result_of_shown? (spent.moves (ht.moves hu) hw).2 hy hz)

/-- A watcher that changes what a rule compares with, and disposes of its validator while the run that
    told it is in progress. -/
theorem disposal_amid_run : ∃ s u w x y,
    Reachable (.ofConfiguration .testing .empty) s ∧ s.store.validator? ⟨0⟩ = some x ∧
    x.disposed = false ∧ s.validators.lookup "v" = some ⟨0⟩ ∧
    s.nextCommand? = some (.disposeValidator "v") ∧ s.step.Moves u ∧ u.agenda = [] ∧
    u.store.validator? ⟨0⟩ = some y ∧ x.result.errors = ["big"] ∧ y.result.errors = [] ∧
    u.execute 60 (.set "m" "x" (.value (.integer 40))) = some w := by
  have run : ((trial (.ofConfiguration .testing .empty) 60
      [("m", [("x", .value (.integer 1)), ("max", .value (.integer 10))])]
      [.bind "f" "\x7bBinding x\x7d" none ⟨some "m", none⟩,
        .bind "a" "\x7bBinding max\x7d" none ⟨some "m", none⟩,
        .newValidator "v" "f" [⟨.lessThan, some (.proxy "a"), none, some (.fixed "big"), .runComparator,
          false, false, none⟩] none,
        .watch "v" (.mk "watcher" [.mk none (.set "m" "max" (.value (.integer 30))),
          .mk none (.disposeValidator "v")])]).map fun s =>
            (s.initiated (.set "m" "x" (.value (.integer 20)))).after 22).any (fun s =>
      (s.store.validator? ⟨0⟩).any (fun x => decide (x.disposed = false ∧ x.result.errors = ["big"])) &&
      s.validators.lookup "v" == some ⟨0⟩ &&
      s.nextCommand?.any (Command.disposesValidator "v") &&
      (s.step.finish 20).any fun u =>
        (u.store.validator? ⟨0⟩).any (fun y => decide (y.result.errors = [])) &&
        (u.execute 60 (.set "m" "x" (.value (.integer 40)))).isSome) = true := by
    decide +kernel
  obtain ⟨s, hs, run⟩ := (Option.any_eq_true _ _).1 run
  obtain ⟨s₁, h₁, rfl⟩ := Option.map_eq_some_iff.1 hs
  obtain ⟨h, idle⟩ := reachable_of_trial h₁
  have h := (h.initiated idle (.set "m" "x" (.value (.integer 20)))).after 22
  generalize (s₁.initiated (.set "m" "x" (.value (.integer 20)))).after 22 = s at h run
  simp only [Bool.and_eq_true, beq_iff_eq] at run
  obtain ⟨⟨⟨hx, hn⟩, hc⟩, hu⟩ := run
  obtain ⟨x, hx, hp⟩ := (Option.any_eq_true _ _).1 hx
  obtain ⟨hd, before⟩ := of_decide_eq_true hp
  obtain ⟨u, hu, hp⟩ := (Option.any_eq_true _ _).1 hu
  obtain ⟨hy, hw⟩ := Bool.and_eq_true_iff.1 hp
  obtain ⟨y, hy, after⟩ := (Option.any_eq_true _ _).1 hy
  obtain ⟨w, hw⟩ := Option.isSome_iff_exists.1 hw
  obtain ⟨hm, ended⟩ := moves_of_finish hu
  obtain ⟨c, next, hc⟩ := (Option.any_eq_true _ _).1 hc
  obtain rfl := Command.eq_of_disposesValidator hc
  exact ⟨s, u, w, x, y, h, hx, hd, hn, next, hm, ended, hy, before, of_decide_eq_true after, hw⟩

/-- The result of a validator can change once after the validator has been disposed of. -/
theorem disposeValidator_not_final : ∃ s t u x y,
    Reachable (.ofConfiguration .testing .empty) s ∧ s.store.validator? ⟨0⟩ = some x ∧
    x.disposed = false ∧ s.validators.lookup "v" = some ⟨0⟩ ∧ s.Gives (.disposeValidator "v") t ∧
    t.Moves u ∧ u.store.validator? ⟨0⟩ = some y ∧ x.result.errors = ["big"] ∧ y.result.errors = [] := by
  obtain ⟨s, u, w, x, y, h, hx, hd, hn, next, hm, -, hy, before, after, -⟩ := disposal_amid_run
  exact ⟨s, _, u, x, y, h, hx, hd, hn, gives_of_nextCommand? next, hm, hy, before, after⟩

/-- It does not change again when the field gets another value. -/
theorem disposeValidator_settles_once : ∃ s t u w x y,
    Reachable (.ofConfiguration .testing .empty) s ∧ s.store.validator? ⟨0⟩ = some x ∧
    x.disposed = false ∧ s.Gives (.disposeValidator "v") t ∧ t.Moves u ∧ u.Moves w ∧
    u.store.validator? ⟨0⟩ = some y ∧ y.disposed ∧ u.calls (.validator ⟨0⟩) = [] ∧
    ∀ z, w.store.validator? ⟨0⟩ = some z → z.result = y.result := by
  obtain ⟨s, u, w, x, y, h, hx, hd, hn, next, hm, ended, hy, before, after, hw⟩ := disposal_amid_run
  have hg := gives_of_nextCommand? next
  have hw := (moves_of_execute ended hw).1
  obtain ⟨quiet, settled⟩ := h.disposeValidator_settles hx hd hg (Or.inl ⟨"v", rfl, hn⟩) hm hw
  obtain ⟨disposed, -, once⟩ := settled y hy
  have changed : y.result ≠ x.result := by
    intro e
    rw [← e, after] at before
    cases before
  exact ⟨s, _, u, w, x, y, h, hx, hd, hg, hm, hw, hy, disposed, quiet,
    fun z hz => (once z hz).resolve_left changed⟩

end Session

end LiveForm
