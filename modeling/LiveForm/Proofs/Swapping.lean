/-
  No other binding is lost on the listeners.

  A proxy that is bound to other objects is asked to recompute by force. If it does not run, a round
  follows at once. If it runs, the request is pending, and the run has a further pass, by force, before
  it ends. `Reachable.swap_heard` is the result.

  * `Session.Awaits`, `Session.Forced` and `Session.Tells`: a request by force is on its way, its pass
    comes next, and its round is going on;
  * `Awaits.move`, `Forced.fires` and `Tells.step`: the one leads to the other.
-/
import LiveForm.Proofs.Serial
import LiveForm.Proofs.Pace

namespace LiveForm

variable {H : Type}

/-- A listener that is no proxy. -/
def Listener.IsNoProxy (l : Listener H) : Prop := ∀ p, l ≠ .proxy p

namespace Store

variable {s t u : Store H}

/-- No proxy listens to a proxy or a validator. -/
abbrev Layered (s : Store H) : Prop := s.All (heard (fun _ => True) Listener.IsNoProxy)

theorem stable_layered :
    (heard (H := H) (fun _ => True) Listener.IsNoProxy).Stable .all :=
  stable_heard (fun _ _ => ⟨trivial, nofun⟩) (fun _ => trivial) fun _ => nofun

/-! ### What is taken away -/

theorem map_proxy?_silence {β : Type} {f : ProxyState H → β}
    (hf : ∀ x ls, f { x with listeners := ls } = f x) (v : ValidatorId) (p : ProxyId) :
    ((s.silence v).proxy? p).map f = (s.proxy? p).map f := by
  have all : ∀ (ws : List (ProxyId × Nat)) (s : Store H),
      ((s.unlistenAll ws).proxy? p).map f = (s.proxy? p).map f := by
    intro ws
    induction ws with
    | nil => exact fun _ => rfl
    | cons w ws ih => exact fun s => (ih _).trans (map_proxy?_modifyProxy fun _ x => hf x _)
  unfold silence
  split
  · rfl
  · exact all _ s

/-- Who is there after something has been taken away is disposed of if it was before. -/
theorem isDisposed_drop {p : ProxyId} {e : Entity} (h : (s.drop e).Alive (.proxy p)) :
    s.Alive (.proxy p) ∧ (s.drop e).isDisposed (.proxy p) = s.isDisposed (.proxy p) := by
  have same : ∀ {u : Store H}, u.Alive (.proxy p) →
      (u.proxy? p).map (fun x => x.disposed) = (s.proxy? p).map (fun x => x.disposed) →
      s.Alive (.proxy p) ∧ u.isDisposed (.proxy p) = s.isDisposed (.proxy p) := by
    intro u hu hm
    simp only [Alive, isDisposed] at hu ⊢
    cases hx : u.proxy? p <;> cases hy : s.proxy? p <;> simp_all
  cases e with
  | object | form => exact ⟨h, rfl⟩
  | validator v => exact same h (map_proxy?_silence (fun _ _ => rfl) v p)
  | proxy q =>
    by_cases hq : p = q
    · subst hq
      simp [drop, Alive, proxy?, Roster.get?_remove] at h
    · have he : (s.drop (.proxy q)).proxy? p = (s.detach q).proxy? p := by
        have hi : p.index ≠ q.index := fun e => hq (by cases p; cases q; cases e; rfl)
        simp only [drop, proxy?, Roster.get?_remove, hi, if_false]
      refine same h ?_
      rw [he]
      exact map_proxy?_detach (fun _ _ => rfl) q p

theorem isDisposed_sweep {p : ProxyId} {held : List Entity}
    (h : (s.sweep held).Alive (.proxy p)) :
    (s.sweep held).isDisposed (.proxy p) = s.isDisposed (.proxy p) := by
  have upTo : ∀ (n : Nat) (s : Store H), (s.sweepUpTo held n).Alive (.proxy p) →
      s.Alive (.proxy p) ∧ (s.sweepUpTo held n).isDisposed (.proxy p) = s.isDisposed (.proxy p) := by
    intro n
    induction n with
    | zero => exact fun s h => ⟨h, rfl⟩
    | succ n ih =>
      intro s h
      rw [sweepUpTo] at h ⊢
      cases hg : s.garbage? held with
      | none =>
        rw [hg] at h
        exact ⟨h, rfl⟩
      | some e =>
        rw [hg] at h
        obtain ⟨h₁, h₂⟩ := ih _ h
        obtain ⟨h₃, h₄⟩ := isDisposed_drop h₁
        exact ⟨h₃, h₂.trans h₄⟩
  exact (upTo _ s h).2

/-! ### Who is told -/

/-- Who is told what a proxy or a validator shows is no proxy. -/
theorem Layered.listener? (h : s.Layered) {e : Event} {k : Nat} {l : Listener H} {n : Node}
    (he : e.node? = some n) (hl : s.listener? e k = some l) : l.IsNoProxy := by
  cases e with
  | property o name => cases he
  | value p v =>
    obtain ⟨x, hx, hl⟩ := Option.bind_eq_some_iff.1 hl
    exact h.proxy p x hx k l hl
  | result v r =>
    obtain ⟨x, hx, hl⟩ := Option.bind_eq_some_iff.1 hl
    exact h.validator v x hx k l hl

theorem exists_guard? {n : Node} (h : s.Alive n.entity) : ∃ g, s.guard? n = some g := by
  rw [← isSome_run?_iff, Option.isSome_iff_exists] at h
  obtain ⟨r, hr⟩ := h
  exact ⟨r.1, by rw [guard?_eq, hr]; rfl⟩

end Store

/-- A run goes on by force where a forced request is pending. -/
theorem Guard.afterPass_of_pendingForce {g : Guard} (hf : g.pendingForce) (he : g.Even) (k : Nat) :
    (g.afterPass k).1.running = g.running ∧
      ((g.afterPass k).2 = .pass true ∨ (g.afterPass k).2 = .extra) := by
  have hp := he hf
  unfold afterPass
  simp only [hp, hf, Bool.not_true, Bool.false_eq_true, ↓reduceIte]
  split <;> simp

/-- The end of an extra pass is put only where the run is cut off. -/
theorem Task.Performs.eq_settle {ev : Evaluator} {s u : Store H} {tk : Task H} {new : List (Task H)}
    (h : tk.Performs ev s u new) {n : Node} {k : Nat} (hm : .settleExtra n k ∈ new) :
    ∃ k, tk = .settle n k := by
  cases h with
  | request | judge => split at hm <;> simp [Store.roundOf] at hm
  | @extra m j g h hg hp =>
    simp only [List.mem_cons, reduceCtorEq, Task.settleExtra.injEq, List.not_mem_nil, or_false,
      false_or] at hm
    exact ⟨j, by rw [hm.1]⟩
  | update => simp [Store.roundOf] at hm
  | _ => simp at hm

/-- While a node runs and a request by force is pending, or is made now, it stays so until the end of
    the pass, and then a pass by force is put first. -/
theorem Task.Performs.awaits {ev : Evaluator} {s u : Store H} {tk : Task H} {new ts : List (Task H)}
    {held : List Entity} (ho : Situation.Ordered ⟨s, tk :: ts, held⟩) (h : tk.Performs ev s u new)
    {n : Node} {g g' : Guard} (hg : s.guard? n = some g) (hg' : u.guard? n = some g')
    (hd : u.isDisposed n = false) (he : g.Even) (running : g.running)
    (hf : tk = .recompute n true ∨ g.pendingForce) (hx : ∀ k, tk ≠ .settleExtra n k) :
    g'.running ∧ (g'.pendingForce ∧ (∀ k, .settleExtra n k ∉ new) ∨
      new.head? = some (.pass n true)) := by
  have requested : ∀ force : Bool, (force ∨ g.pendingForce) →
      (g.request force).1.running ∧ (g.request force).1.pendingForce := by
    intro force hf
    simp only [Guard.request, running, if_true]
    exact ⟨trivial, by simpa [or_comm] using hf⟩
  by_cases hs : ∃ k, tk = .settle n k
  · obtain ⟨k, rfl⟩ := hs
    obtain ⟨same, next⟩ := Guard.afterPass_of_pendingForce (hf.resolve_left (by simp)) he k
    have stopped : ∀ {h : Guard}, s.guard? n = some h → (s.setGuard n (g.afterPass k).1).guard? n =
        some g' → g'.running := by
      intro h _ hg'
      rw [Store.guard?_setGuard, if_pos rfl, hg] at hg'
      cases hg'
      exact same.trans running
    cases h with
    | @again _ _ g₁ g₂ force hg₁ hp =>
      obtain rfl := Option.some.inj (hg.symm.trans hg₁)
      rw [hp] at next stopped
      obtain rfl : force = true := by simpa using next
      exact ⟨stopped hg hg', Or.inr rfl⟩
    | extra hg₁ hp =>
      obtain rfl := Option.some.inj (hg.symm.trans hg₁)
      rw [hp] at stopped
      exact ⟨stopped hg hg', Or.inr rfl⟩
    | stop hg₁ hp =>
      obtain rfl := Option.some.inj (hg.symm.trans hg₁)
      rw [hp] at next
      simp at next
    | gone hg₁ =>
      rw [hg] at hg₁
      cases hg₁
  · have kept : ∀ k, .settleExtra n k ∉ new := fun k hm => hs (h.eq_settle hm)
    rcases hf with rfl | hf
    · cases h with
      | refuse hd' => rw [hd] at hd'; cases hd'
      | request _ hg₁ =>
        obtain rfl := Option.some.inj (hg.symm.trans hg₁)
        rw [Store.guard?_setGuard, if_pos rfl, hg] at hg'
        cases hg'
        obtain ⟨h₁, h₂⟩ := requested true (Or.inl rfl)
        exact ⟨h₁, Or.inl ⟨h₂, kept⟩⟩
    · rcases h.guard? ho hg' with same | ⟨g₁, hg₁, hdr⟩
      · obtain rfl := Option.some.inj (hg.symm.trans same)
        exact ⟨running, Or.inl ⟨hf, kept⟩⟩
      · obtain rfl := Option.some.inj (hg.symm.trans hg₁)
        cases hdr with
        | request force =>
          obtain ⟨h₁, h₂⟩ := requested force (Or.inr hf)
          exact ⟨h₁, Or.inl ⟨h₂, kept⟩⟩
        | settle k => exact absurd ⟨k, rfl⟩ hs
        | settleExtra k => exact absurd rfl (hx k)

/-- A task that leads to no request of a proxy. -/
def Task.IsStill : Task H → Prop
  | .round e _ => e.node?.isSome
  | .call l e => e.node?.isSome ∧ l.IsNoProxy
  | .recompute n _ | .pass n _ | .settle n _ | .settleExtra n _ => ∃ v, n = .validator v
  | .rebind _ _ => False

theorem Task.Performs.still {ev : Evaluator} {s u : Store H} {tk : Task H} {new : List (Task H)}
    (h : tk.Performs ev s u new) (hl : s.Layered) (hk : tk.IsStill) : ∀ tk' ∈ new, tk'.IsStill := by
  cases h with
  | close | refuse | keep | ignore | stop | stopExtra | gone | goneExtra | bound =>
    exact List.forall_mem_nil _
  | tell hk' =>
    obtain ⟨n, hn⟩ := Option.isSome_iff_exists.1 hk
    exact List.forall_mem_cons.2 ⟨⟨hk, hl.listener? hn hk'⟩, List.forall_mem_singleton.2 hk⟩
  | miss => exact List.forall_mem_singleton.2 hk
  | follow => exact absurd rfl (hk.2 _)
  | heed => exact List.forall_mem_singleton.2 ⟨_, rfl⟩
  | pass | bind => cases hk
  | again | extra => exact List.forall_mem_cons.2 ⟨hk, List.forall_mem_singleton.2 hk⟩
  | update =>
    obtain ⟨v, hv⟩ := hk
    cases hv
  | judge =>
    split
    · exact List.forall_mem_nil _
    · exact List.forall_mem_singleton.2 rfl
  | request =>
    split
    · exact List.forall_mem_cons.2 ⟨hk, List.forall_mem_singleton.2 hk⟩
    · exact List.forall_mem_nil _

/-- Where nothing is pending, the end of a pass is the end of the run. -/
theorem Task.Performs.stopped {ev : Evaluator} {s u : Store H} {z : Task H} {new : List (Task H)}
    (h : z.Performs ev s u new) {n : Node} (hz : z.ends? = some n) {g g' : Guard}
    (hg : s.guard? n = some g) (calm : g.pending = false) (hu : u.guard? n = some g') :
    g'.running = false := by
  have stop : ∀ k, g.afterPass k = ({ g with running := false }, .stop (.settled k)) := by
    intro k
    simp [Guard.afterPass, calm]
  cases h with
  | again hg₁ hp | extra hg₁ hp =>
    cases hz
    obtain rfl := Option.some.inj (hg.symm.trans hg₁)
    rw [stop] at hp
    cases hp
  | stop hg₁ hp =>
    cases hz
    obtain rfl := Option.some.inj (hg.symm.trans hg₁)
    rw [stop] at hp
    cases hp
    rw [Store.guard?_noteOutcome, Store.guard?_setGuard, if_pos rfl, hg] at hu
    cases hu
    rfl
  | stopExtra hg₁ =>
    cases hz
    obtain rfl := Option.some.inj (hg.symm.trans hg₁)
    rw [Store.guard?_noteOutcome, Store.guard?_setGuard, if_pos rfl, hg] at hu
    cases hu
    rfl
  | gone hg₁ | goneExtra hg₁ =>
    cases hz
    rw [hg] at hg₁
    cases hg₁
  | _ => cases hz

theorem Task.IsStill.not_drives {tk : Task H} (h : tk.IsStill) {p : ProxyId} {g g' : Guard} :
    ¬ tk.Drives (.proxy p) g g' := by
  intro hd
  cases hd <;> (obtain ⟨v, hv⟩ := h; cases hv)

theorem Task.settles_iff {n : Node} {tk : Task H} :
    tk.settles n ↔ (∃ k, tk = .settle n k) ∨ ∃ k, tk = .settleExtra n k := by
  cases tk <;> simp [Task.settles]

/-- A piece of work ends the extra pass of a run of a node that is cut off. -/
def Work.isExtra (n : Node) : Work → Bool
  | .task (.settleExtra m _) => m = n
  | _ => false

/-- A piece of work that leads to no request of a proxy, unless by a command. -/
def Work.IsStill : Work → Prop
  | .task tk => tk.IsStill
  | .script .. => True
  | .reply .. => False

namespace Session

open Situation

variable {g : Engine} {s t : Session} {p : ProxyId} {n : Node}

theorem layered_withObjects {objects : List (String × List (String × Operand))}
    (h : (ofEngine g).withObjects objects = .ok s) : s.store.Layered := by
  obtain ⟨u, hu, rfl⟩ := introduces_withObjects h
  refine Store.All.changes Store.stable_layered ?_ (u.store.changes_sweep u.held)
  refine ⟨Nat.zero_le _, fun _ _ _ _ _ _ => trivial, Nat.zero_le _, fun p x hx => ?_, Nat.zero_le _,
    fun v x hx => ?_⟩
  · rw [Store.proxy?, hu.builds.proxies] at hx
    cases hx
  · rw [Store.validator?, hu.builds.validators] at hx
    cases hx

/-- In every session that comes about no proxy listens to a proxy or a validator. -/
theorem Reachable.layered (h : Reachable g s) : s.store.Layered := by
  obtain ⟨objects, s₀, h₀, h⟩ := h
  induction h with
  | refl => exact layered_withObjects h₀
  | tail _ hm ih => exact hm.turn.all Store.stable_layered (Store.ofListeners_heard ..) ih

/-! ## Steps that carry out no command -/

/-- The next piece of work carries out a command of a script. -/
def obeys (s : Session) : Bool :=
  match s.agenda with
  | .script _ e (.when condition _ :: _) :: _ => s.applies e condition
  | _ => false

/-- A step that performs a task. -/
theorem step_inner {tk : Task Script} {rest : List Work} (ha : s.agenda = .task tk :: rest)
    (hi : (Work.task tk).isOuter = false) :
    s.step.agenda = (tk.perform s.engine.evaluator s.store).2.map .task ++ rest ∧
      ∃ held, s.step.store = (tk.perform s.engine.evaluator s.store).1.sweep held := by
  rw [step_perform ha hi]
  exact ⟨rfl, _, rfl⟩

theorem obeys_of_task {tk : Task Script} {rest : List Work} (ha : s.agenda = .task tk :: rest) :
    s.obeys = false := by
  simp only [obeys, ha]

theorem work_of_not_applies {id : String} {e : Occasion} {condition : Condition} {c : Command}
    {actions : List Action} (h : s.applies e condition = false) :
    s.work (.script id e (.when condition c :: actions)) = s.push [.script id e actions] := by
  rw [work]
  exact if_neg (Bool.eq_false_iff.1 h)

theorem not_applies (h : s.obeys = false) {id : String} {e : Occasion} {condition : Condition}
    {c : Command} {actions : List Action} {rest : List Work}
    (ha : s.agenda = .script id e (.when condition c :: actions) :: rest) :
    s.applies e condition = false := by
  simpa only [obeys, ha] using h

/-- Who is alive after a step that carries out no command is disposed of if it was before. -/
theorem isDisposed_step (h : s.obeys = false) (ha : s.step.store.Alive (.proxy p)) :
    s.step.store.isDisposed (.proxy p) = s.store.isDisposed (.proxy p) := by
  cases hs : s.agenda with
  | nil => simp only [step, hs]
  | cons w rest =>
    rw [step_of_agenda hs] at ha ⊢
    refine (Store.isDisposed_sweep ha).trans ?_
    cases w with
    | task tk =>
      cases hi : (Work.task tk).isOuter with
      | false =>
        rw [work_of_inner hi]
        exact (Task.performs _ _ _).isDisposed
      | true =>
        obtain ⟨script, v, rfl⟩ := eq_call_of_outer hi
        rfl
    | script id e actions =>
      rcases actions with _ | ⟨⟨condition, c⟩, actions⟩
      · rfl
      · rw [work_of_not_applies (s := { s with agenda := rest }) (not_applies h hs)]
        rfl
    | reply r handler =>
      cases r with
      | failing f last rest found => cases rest <;> (cases handler <;> rfl)
      | _ => cases handler <;> rfl

/-! ## Stages of a swap -/

/-- A run of a node is in progress. -/
def Runs (s : Session) (n : Node) : Prop := ∃ g, s.store.guard? n = some g ∧ g.running

/-- The pass in progress, if there is one, is not the extra one of a run that is cut off. -/
def Regular (s : Session) (n : Node) : Prop := ∀ k, Work.task (.settleExtra n k) ∉ s.agenda

instance (s : Session) (n : Node) : Decidable (s.Runs n) :=
  decidable_of_iff ((s.store.guard? n).any fun g => g.running) (by simp [Runs, Option.any_eq_true])

instance (s : Session) (n : Node) : Decidable (s.Regular n) :=
  decidable_of_iff (∀ w ∈ s.agenda, w.isExtra n = false) <| by
    constructor
    · intro h k hm
      simpa [Work.isExtra] using h _ hm
    · intro h w hm
      cases w with
      | script | reply => rfl
      | task tk =>
        cases tk with
        | settleExtra m k => exact decide_eq_false fun e => h k (e ▸ hm)
        | _ => rfl

/-- A round of a proxy begins that tells its value under the binding that it has. -/
def Fires (p : ProxyId) (s t : Session) : Prop :=
  ∃ x, s.store.proxy? p = some x ∧ happening? (.proxy p) s t =
    some (.round (.value p (s.store.sourceValue x.binding x.source)))

/-- A proxy runs, and a request by force is on its way to a further pass. -/
structure Awaits (s : Session) (p : ProxyId) : Prop where
  runs : s.Runs (.proxy p)
  request : s.agenda.head? = some (.task (.recompute (.proxy p) true)) ∨
    ∃ g, s.store.guard? (.proxy p) = some g ∧ g.pendingForce
  regular : s.Regular (.proxy p)

/-- A pass by force comes next. -/
structure Forced (s : Session) (p : ProxyId) : Prop where
  runs : s.Runs (.proxy p)
  first : s.agenda.head? = some (.task (.pass (.proxy p) true))

/-- The end of the pass of a node that runs is on the agenda. -/
theorem Sound.exists_end (h : s.Sound) (hr : s.Runs n) :
    ∃ tk, Work.task tk ∈ s.agenda ∧ tk.settles n := by
  obtain ⟨g, hg, running⟩ := hr
  obtain ⟨o, ho⟩ := guard?_eq_some_iff.1 hg
  have count := (h.situation.guarded n g o ho).1
  rw [running, if_pos rfl] at count
  obtain ⟨tk, hm, hk⟩ := List.countP_pos_iff.1 (Nat.lt_of_lt_of_eq Nat.zero_lt_one count.symm)
  obtain ⟨w, hw, he⟩ := List.mem_filterMap.1 hm
  cases w with
  | task tk' =>
    cases he
    exact ⟨tk, hw, hk⟩
  | script | reply => cases he

/-- A node that a task on the agenda is about is alive. -/
theorem Sound.alive_of_mem (h : s.Sound) (tk : Task Script) (hm : Work.task tk ∈ s.agenda)
    {e : Entity} (he : e ∈ tk.entities) : s.store.Alive e :=
  h.situation.alive e (Or.inr (Or.inl ⟨tk, List.mem_filterMap.2 ⟨_, hm, rfl⟩, he⟩))

/-- What is done by the store alone is left where something happens outside of it. -/
theorem mem_of_ask {pre rest : List Work} (ha : s.agenda = pre ++ rest) (hp : pre.length ≤ 1)
    (outer : ∀ w ∈ s.agenda.head?, w.isOuter) {w : Work} (hm : w ∈ s.agenda)
    (hw : w.isOuter = false) : w ∈ rest := by
  rw [ha] at hm outer
  rcases List.mem_append.1 hm with hm | hm
  · cases pre with
    | nil => cases hm
    | cons w' pre =>
      obtain rfl := List.eq_nil_of_length_eq_zero (Nat.le_zero.1 (Nat.le_of_succ_le_succ hp))
      obtain rfl := List.mem_singleton.1 hm
      rw [outer w rfl] at hw
      cases hw
  · exact hm

/-- A run that awaits a pass by force is on the agenda after whatever happens. -/
theorem Awaits.alive (h : s.Awaits p) (ho : s.Orderly) (hs : s.Sound) (hm : s.Move t) :
    t.store.Alive (.proxy p) := by
  obtain ⟨tk, hmem, hk⟩ := hs.exists_end h.runs
  have ht := (hs.move hm).sound
  have named : ∀ {tk : Task Script}, tk.settles (.proxy p) → Entity.proxy p ∈ tk.entities := by
    intro tk hk
    rcases Task.settles_iff.1 hk with ⟨k, rfl⟩ | ⟨k, rfl⟩ <;> exact List.mem_singleton.2 rfl
  obtain ⟨k, rfl⟩ : ∃ k, tk = .settle (.proxy p) k := by
    rcases Task.settles_iff.1 hk with hk | ⟨k, rfl⟩
    · exact hk
    · exact absurd hmem (h.regular k)
  cases hm.turn with
  | @ask pre ws rest ha hp outer hat _ _ =>
    refine ht.alive_of_mem (.settle (.proxy p) k) ?_ (named hk)
    rw [hat]
    exact List.mem_append_right _ (mem_of_ask ha hp outer hmem rfl)
  | @perform tk rest ha inner hat _ =>
    rw [ha] at hmem
    rcases List.mem_cons.1 hmem with e | hrest
    · cases e
      obtain ⟨g, hg, hf⟩ := h.request.resolve_left fun hn => by rw [ha] at hn; cases hn
      have next : ∃ force z, ((Task.settle (.proxy p) k).perform s.engine.evaluator s.store).2 =
          [.pass (.proxy p) force, z] := by
        rcases hn : g.afterPass k with ⟨g', x⟩
        obtain ⟨-, hx⟩ := Guard.afterPass_of_pendingForce hf (ho.even _ g hg) k
        rw [hn] at hx
        rcases hx with rfl | rfl
        · exact ⟨_, _, by simp only [Task.perform, hg, hn]; rfl⟩
        · exact ⟨_, _, by simp only [Task.perform, hg, hn]; rfl⟩
      obtain ⟨force, z, next⟩ := next
      refine ht.alive_of_mem (.pass (.proxy p) force) ?_ (List.mem_singleton.2 rfl)
      rw [hat, next]
      exact List.mem_cons_self
    · refine ht.alive_of_mem (.settle (.proxy p) k) ?_ (named hk)
      rw [hat]
      exact List.mem_append_right _ hrest

/-- A run that awaits a pass by force still does whatever happens, or the pass comes next, unless the
    proxy is disposed of. -/
theorem Awaits.move (h : s.Awaits p) (ho : s.Orderly) (hs : s.Sound) (hm : s.Move t)
    (hd : t.store.isDisposed (.proxy p) = false) : t.Awaits p ∨ t.Forced p := by
  obtain ⟨g', hg'⟩ := Store.guard?_isSome hd
  obtain ⟨g, hg, running⟩ := h.runs
  have made := Store.made_of_guard? hg
  cases hm.turn with
  | @ask pre ws rest ha hp outer hat hw hu =>
    have hsp := Store.spares_of_changes hu
    have same : s.store.guard? (.proxy p) = some g' := (hsp.guard? hg').resolve_right fun hn => hn.1 made
    obtain rfl := Option.some.inj (hg.symm.trans same)
    refine Or.inl ⟨⟨g, hg', running⟩, Or.inr ⟨g, hg', ?_⟩, fun k hk => ?_⟩
    · rcases h.request with hn | ⟨g₁, hg₁, hf⟩
      · cases outer _ hn
      · obtain rfl := Option.some.inj (hg.symm.trans hg₁)
        exact hf
    · rw [hat] at hk
      rcases List.mem_append.1 hk with hk | hk
      · cases (hw _ hk).1
      · exact h.regular k (ha ▸ List.mem_append_right _ hk)
  | @perform tk rest ha inner hat hu =>
    have hp := tk.performs s.engine.evaluator s.store
    have hsp := Store.spares_of_changes hu
    have ordered := hs.situation.toOrdered
    rw [situation_of_task ha] at ordered
    have hu' := (hsp.guard? hg').resolve_right fun hn => hn.1 (hp.made made)
    have request : tk = .recompute (.proxy p) true ∨ g.pendingForce := by
      rcases h.request with hn | ⟨g₁, hg₁, hf⟩
      · rw [ha] at hn
        cases hn
        exact Or.inl rfl
      · obtain rfl := Option.some.inj (hg.symm.trans hg₁)
        exact Or.inr hf
    have regular : ∀ k, tk ≠ .settleExtra (.proxy p) k := by
      rintro k rfl
      exact h.regular k (by rw [ha]; exact List.mem_cons_self)
    obtain ⟨running', next⟩ := hp.awaits ordered hg hu' (hsp.isDisposed (hp.made made) hd)
      (ho.even _ g hg) running request regular
    rcases next with ⟨hf, kept⟩ | first
    · refine Or.inl ⟨⟨g', hg', running'⟩, Or.inr ⟨g', hg', hf⟩, fun k hk => ?_⟩
      rw [hat] at hk
      rcases List.mem_append.1 hk with hk | hk
      · obtain ⟨tk', hk, e⟩ := List.mem_map.1 hk
        cases e
        exact kept k hk
      · exact h.regular k (by rw [ha]; exact List.mem_cons_of_mem _ hk)
    · refine Or.inr ⟨⟨g', hg', running'⟩, ?_⟩
      rw [hat]
      obtain ⟨new, hn⟩ := List.head?_eq_some_iff.1 first
      rw [hn]
      rfl

/-- A pass by force is followed by its round. -/
theorem Forced.fires (h : s.Forced p) (ho : s.Orderly) (hm : s.Move t) {x : ProxyState Script}
    (hx : s.store.proxy? p = some x) (hd : x.disposed = false) {v : Value}
    (hv : v = s.store.sourceValue x.binding x.source) :
    happening? (.proxy p) s t = some (.round (.value p v)) ∧
      ∃ z rest ks, s.agenda = .task (.pass (.proxy p) true) :: .task z :: rest ∧
        z.ends? = some (.proxy p) ∧ t.agenda = .task (.round (.value p v) ks) :: .task z :: rest := by
  obtain ⟨z, rest, ha, hz⟩ := ho.paired _ _ h.first
  cases hm.turn with
  | ask _ _ outer => cases outer _ h.first
  | @perform tk rest' ha' _ hat _ =>
    rw [ha] at ha'
    cases ha'
    have hp : (Task.pass (.proxy p) true).perform s.engine.evaluator s.store =
        (s.store.replaceValue p v, [(s.store.replaceValue p v).roundOf (.value p v)]) := by
      simp [Task.perform, Store.passProxy, hx, hd, hv]
    rw [hp] at hat
    obtain ⟨-, -, hh⟩ := ho.rounds_of_pass ha hat
    refine ⟨?_, z, rest, _, ha, hz, hat⟩
    rw [hh]
    simp [Store.roundOf, Event.node?]

/-! ## The last round of a run -/

/-- Still work leads to still work, and makes no difference to the run of a proxy. -/
theorem step_still (hs : s.Sound) (hl : s.store.Layered) (ho : s.obeys = false) {w : Work}
    {rest : List Work} (ha : s.agenda = w :: rest) (hw : w.IsStill) :
    (∃ ws, s.step.agenda = ws ++ rest ∧ ∀ w' ∈ ws, w'.IsStill) ∧
      ∀ g, s.step.store.guard? (.proxy p) = some g → s.store.Made (.proxy p) →
        s.store.guard? (.proxy p) = some g := by
  have swept : ∀ {u : Session} {g : Guard}, u.sweep.store.guard? (.proxy p) = some g →
      u.store.Made (.proxy p) → u.store.guard? (.proxy p) = some g := by
    intro u g hg hm
    exact ((Store.spares_sweep .all u.store u.held).guard? hg).resolve_right
      fun hn => hn.1 hm
  match w with
  | .reply .. => cases hw
  | .task tk =>
    cases hi : (Work.task tk).isOuter with
    | false =>
      have hp := tk.performs s.engine.evaluator s.store
      have ordered := hs.situation.toOrdered
      rw [situation_of_task ha] at ordered
      rw [step_of_agenda ha, work_of_inner hi]
      refine ⟨⟨_, rfl, ?_⟩, fun g hg hm => ?_⟩
      · intro w' hw'
        obtain ⟨tk', htk, rfl⟩ := List.mem_map.1 hw'
        exact hp.still hl hw tk' htk
      · rcases hp.guard? ordered (swept hg (hp.made hm)) with hg | ⟨g₀, -, hd⟩
        · exact hg
        · exact absurd hd hw.not_drives
    | true =>
      obtain ⟨script, v, rfl⟩ := eq_call_of_outer hi
      rw [step_of_agenda ha]
      refine ⟨⟨[.script script.id _ script.actions], rfl, List.forall_mem_singleton.2 trivial⟩, ?_⟩
      intro g hg hm
      have hg := swept hg hm
      exact hg
  | .script id e [] =>
    rw [step_of_agenda ha]
    refine ⟨⟨[], rfl, List.forall_mem_nil _⟩, fun g hg hm => ?_⟩
    have hg := swept hg hm
    exact hg
  | .script id e (.when condition c :: actions) =>
    rw [step_of_agenda ha, work_of_not_applies (s := { s with agenda := rest }) (not_applies ho ha)]
    refine ⟨⟨[.script id e actions], rfl, List.forall_mem_singleton.2 trivial⟩, fun g hg hm => ?_⟩
    have hg := swept hg hm
    exact hg

/-- The last round of a run is going on: all that is left of the run leads to no request of the
    proxy, and none is pending. -/
structure Tells (s : Session) (p : ProxyId) : Prop where
  left : ∃ ws z rest, s.agenda = ws ++ .task z :: rest ∧ z.ends? = some (.proxy p) ∧
    ∀ w ∈ ws, w.IsStill
  calm : ∃ g, s.store.guard? (.proxy p) = some g ∧ g.pending = false

/-- The last round of a run goes on, or the run is over. -/
theorem Tells.step (h : s.Tells p) (hs : s.Sound) (hl : s.store.Layered) (ho : s.obeys = false) :
    s.step.Tells p ∨ ¬ s.step.Runs (.proxy p) := by
  obtain ⟨⟨ws, z, rest, ha, hz, still⟩, g, hg, calm⟩ := h
  have made := Store.made_of_guard? hg
  cases ws with
  | cons w ws =>
    obtain ⟨⟨ws', ha', still'⟩, same⟩ := step_still (p := p) hs hl ho ha (still w List.mem_cons_self)
    by_cases hr : s.step.Runs (.proxy p)
    · obtain ⟨g', hg', -⟩ := hr
      obtain rfl := Option.some.inj (hg.symm.trans (same g' hg' made))
      refine Or.inl ⟨⟨ws' ++ ws, z, rest, by rw [ha', List.append_assoc]; rfl, hz, ?_⟩, g, hg', calm⟩
      exact List.forall_mem_append.2 ⟨still', fun w' hw' => still w' (List.mem_cons_of_mem _ hw')⟩
    · exact Or.inr hr
  | nil =>
    right
    rintro ⟨g', hg', running⟩
    have hi : (Work.task z).isOuter = false := by
      cases z <;> first | rfl | cases hz
    rw [step_of_agenda ha, work_of_inner hi] at hg'
    have hp := z.performs s.engine.evaluator s.store
    have hu := ((Store.spares_sweep .all _ _).guard? hg').resolve_right
      fun hn => hn.1 (hp.made made)
    have hu : (z.perform s.engine.evaluator s.store).1.guard? (.proxy p) = some g' := hu
    rw [hp.stopped hz hg calm hu] at running
    cases running

/-! ## The rounds of the next steps -/

/-- What the rounds of a node tell that begin in the next steps. -/
def roundsIn (n : Node) : Nat → Session → List Event
  | 0, _ => []
  | m + 1, s => ((happening? n s s.step).bind Happening.round?).toList ++ roundsIn n m s.step

/-- Where no pass of a node comes next, no round of it begins. -/
theorem no_round (hr : Reachable g s) (hf : ∀ force, s.agenda.head? ≠ some (.task (.pass n force))) :
    (happening? n s s.step).bind Happening.round? = none := by
  cases hr.orderly.becomes hr.sound (.step s) n with
  | rest hh => rcases hh with hh | hh <;> rw [hh] <;> rfl
  | round _ first =>
    obtain ⟨force, first⟩ := first
    exact absurd first (hf force)

/-- How often a proxy has changed is the number of its rounds. -/
theorem generation_after (hr : Reachable g s) (hm : s.store.Made n) {m k : Nat}
    (hk : (s.after m).store.generation? n = some k) :
    ∃ k₀, s.store.generation? n = some k₀ ∧ k = k₀ + (roundsIn n m s).length := by
  induction m generalizing s with
  | zero => exact ⟨k, hk, rfl⟩
  | succ m ih =>
    have made := (hr.sound.move (.step s)).made hm
    obtain ⟨k₁, hk₁, rfl⟩ := ih (hr.move (.step s)) made hk
    rw [roundsIn]
    cases hr.orderly.becomes hr.sound (.step s) n with
    | rest hh _ generation =>
      have none : (happening? n s s.step).bind Happening.round? = none := by
        rcases hh with hh | hh <;> rw [hh] <;> rfl
      refine ⟨k₁, (generation k₁ hk₁).resolve_right fun hn => hn.1 hm, ?_⟩
      rw [none]
      rfl
    | round hh _ _ _ _ _ generation =>
      obtain ⟨k₀, hk₀, rfl⟩ := Option.map_eq_some_iff.1 (generation k₁ hk₁)
      refine ⟨k₀, hk₀, ?_⟩
      rw [hh]
      simp only [Option.bind_some, Happening.round?, Option.toList_some, List.singleton_append,
        List.length_cons]
      omega

theorem Tells.not_passing (h : s.Tells p) (force : Bool) :
    s.agenda.head? ≠ some (.task (.pass (.proxy p) force)) := by
  obtain ⟨⟨ws, z, rest, ha, hz, still⟩, -⟩ := h
  intro hn
  rw [ha] at hn
  cases ws with
  | nil =>
    cases hn
    cases hz
  | cons w ws =>
    cases hn
    obtain ⟨v, hv⟩ := still _ List.mem_cons_self
    cases hv

/-- No round begins any more in a run whose last round is going on. -/
theorem Tells.roundsIn_eq (h : s.Tells p) (hr : Reachable g s) {m : Nat}
    (quiet : ∀ j < m, (s.after j).obeys = false) (runs : ∀ j < m, (s.after j).Runs (.proxy p)) :
    roundsIn (.proxy p) m s = [] := by
  induction m generalizing s with
  | zero => rfl
  | succ m ih =>
    rw [roundsIn, no_round hr h.not_passing]
    cases m with
    | zero => rfl
    | succ m =>
      have tells : s.step.Tells p :=
        (h.step hr.sound hr.layered (quiet 0 (Nat.succ_pos _))).resolve_right
          fun hn => hn (runs 1 (by omega))
      exact ih tells (hr.move (.step s)) (fun j hj => quiet (j + 1) (by omega))
        fun j hj => runs (j + 1) (by omega)

/-- After a pass by force its round is going on. -/
theorem Forced.tells (h : s.Forced p) (hr : Reachable g s)
    (hd : s.store.isDisposed (.proxy p) = false) :
    ∃ v, happening? (.proxy p) s s.step = some (.round (.value p v)) ∧ s.step.Tells p := by
  obtain ⟨x, hx, hxd⟩ := Store.isDisposed_proxy_eq_false hd
  obtain ⟨hh, z, rest, ks, ha, hz, hat⟩ := h.fires hr.orderly (.step s) hx hxd rfl
  refine ⟨_, hh, ⟨[_], z, rest, hat, hz, List.forall_mem_singleton.2 rfl⟩, ?_⟩
  have alive : s.step.store.Alive (.proxy p) := (hr.sound.move (.step s)).sound.alive_of_mem _
    (by rw [hat]; exact List.mem_cons_self) List.mem_cons_self
  obtain ⟨g', hg'⟩ := Store.exists_guard? (n := .proxy p) alive
  refine ⟨g', hg', hr.orderly.calm _ _ h.first g' ?_⟩
  have hp := (Task.pass (.proxy p) true).performs s.engine.evaluator s.store
  have ordered := hr.sound.situation.toOrdered
  rw [situation_of_task ha] at ordered
  have made := Store.made_of_not_disposed hd
  rw [step_of_agenda ha, work_of_inner rfl] at hg'
  have hu := ((Store.spares_sweep .all _ _).guard? hg').resolve_right
    fun hn => hn.1 (hp.made made)
  rcases hp.guard? ordered hu with hg | ⟨g₀, -, hdr⟩
  · exact hg
  · cases hdr

/-- In a run that has a pass by force next, one round begins. -/
theorem Forced.roundsIn_eq (h : s.Forced p) (hr : Reachable g s)
    (hd : s.store.isDisposed (.proxy p) = false) {m : Nat} (hm : 0 < m)
    (quiet : ∀ j < m, (s.after j).obeys = false) (runs : ∀ j < m, (s.after j).Runs (.proxy p)) :
    ∃ v, roundsIn (.proxy p) m s = [.value p v] := by
  obtain ⟨v, hh, tells⟩ := h.tells hr hd
  obtain ⟨m, rfl⟩ := Nat.exists_eq_succ_of_ne_zero (Nat.pos_iff_ne_zero.1 hm)
  refine ⟨v, ?_⟩
  rw [roundsIn, hh, tells.roundsIn_eq (hr.move (.step s)) (fun j hj => quiet (j + 1) (by omega))
    fun j hj => runs (j + 1) (by omega)]
  rfl

theorem Awaits.not_passing (h : s.Awaits p) (ho : s.Orderly) (force : Bool) :
    s.agenda.head? ≠ some (.task (.pass (.proxy p) force)) := by
  intro hn
  rcases h.request with hn' | ⟨g, hg, hf⟩
  · rw [hn] at hn'
    cases hn'
  · have := ho.calm _ _ hn g hg
    rw [ho.even _ g hg hf] at this
    cases this

/-- In a run that awaits a pass by force, one round begins before it ends. -/
theorem Awaits.roundsIn_eq (h : s.Awaits p) (hr : Reachable g s)
    (hd : s.store.isDisposed (.proxy p) = false) {m : Nat}
    (quiet : ∀ j < m, (s.after j).obeys = false) (runs : ∀ j < m, (s.after j).Runs (.proxy p))
    (ended : ¬ (s.after m).Runs (.proxy p)) : ∃ v, roundsIn (.proxy p) m s = [.value p v] := by
  induction m generalizing s with
  | zero => exact absurd h.runs ended
  | succ m ih =>
    rw [roundsIn, no_round hr (h.not_passing hr.orderly)]
    have alive := h.alive hr.orderly hr.sound (.step s)
    have hd' := (isDisposed_step (quiet 0 (Nat.succ_pos _)) alive).trans hd
    have quiet' : ∀ j < m, (s.step.after j).obeys = false := fun j hj => quiet (j + 1) (by omega)
    have runs' : ∀ j < m, (s.step.after j).Runs (.proxy p) := fun j hj => runs (j + 1) (by omega)
    rcases h.move hr.orderly hr.sound (.step s) hd' with awaits | forced
    · exact ih awaits (hr.move (.step s)) hd' quiet' runs' ended
    · cases m with
      | zero => exact absurd forced.runs ended
      | succ m => exact forced.roundsIn_eq (hr.move (.step s)) hd' (Nat.succ_pos m) quiet' runs'

/-! ## Tame work -/

theorem eq_of_ends {w : Work} (h : w.ends?.isSome) :
    (∃ n j, w = .task (.settle n j)) ∨ ∃ n j, w = .task (.settleExtra n j) := by
  cases w with
  | script | reply => cases h
  | task tk =>
    cases tk with
    | settle n j => exact Or.inl ⟨n, j, rfl⟩
    | settleExtra n j => exact Or.inr ⟨n, j, rfl⟩
    | _ => cases h

/-- All that is left to be done in a tame session is over after some steps. -/
theorem Amid.ends (h : s.Amid) : ∃ m, (s.after m).agenda = [] := by
  generalize hl : s.agenda.length = l
  induction l using Nat.strongRecOn generalizing s with | ind l ih => ?_
  cases ha : s.agenda with
  | nil => exact ⟨0, ha⟩
  | cons w rest =>
    obtain ⟨k, hk⟩ := s.store.exists_idleAtMost
    have calm : s.Calm k := ⟨h.sound, h.tame, hk⟩
    have clears : ∃ r t, s.Clears r rest t := by
      rcases h.agenda w (by rw [ha]; exact List.mem_cons_self) with hw | hw
      · obtain ⟨t, ht⟩ := clearable k hw s rest calm ha
        exact ⟨none, t, ht⟩
      · rcases eq_of_ends hw with ⟨n, j, rfl⟩ | ⟨n, j, rfl⟩
        · obtain ⟨d, hd⟩ : ∃ d, ∀ g, s.store.guard? n = some g → g.limit - j ≤ d := by
            cases hg : s.store.guard? n with
            | none => exact ⟨0, nofun⟩
            | some g =>
              refine ⟨g.limit - j, fun g' hg' => ?_⟩
              cases hg'
              exact Nat.le_refl _
          obtain ⟨t, ht⟩ := run_clears (fun w hw => clearable k hw) d calm ha hd
          exact ⟨_, t, ht⟩
        · obtain ⟨t, ht⟩ := clears_settleExtra calm ha
          exact ⟨_, t, ht⟩
    obtain ⟨r, t, ⟨i, rfl⟩, ht, -⟩ := clears
    obtain ⟨m, hm⟩ := ih rest.length (by rw [← hl, ha]; exact Nat.lt_succ_self _) (h.after i)
      (by rw [ht])
    exact ⟨i + m, by rw [after_add]; exact hm⟩

/-! ## Swaps -/

variable {b : Binding} {ps : List ProxyId} {rest : List Work}

/-- A proxy is bound to other objects at once, and asked to recompute by force next. -/
theorem step_rebind (hr : Reachable g s) (ha : s.agenda = .task (.rebind b (p :: ps)) :: rest)
    (hd : s.store.isDisposed (.proxy p) = false) :
    s.step.agenda = .task (.recompute (.proxy p) true) :: .task (.rebind b ps) :: rest ∧
      s.step.store.isDisposed (.proxy p) = false ∧
      (∃ x, s.step.store.proxy? p = some x ∧ x.binding = b) ∧
      ∀ g, s.step.store.guard? (.proxy p) = some g → s.store.guard? (.proxy p) = some g := by
  obtain ⟨hat, held, hst⟩ := step_inner ha rfl
  have hp : (Task.rebind b (p :: ps)).perform s.engine.evaluator s.store =
      (s.store.bindProxy p b, [.recompute (.proxy p) true, .rebind b ps]) := by
    simp [Task.perform, hd]
  have performs := (Task.rebind b (p :: ps)).performs s.engine.evaluator s.store
  have sound := (hr.sound.move (.step s)).sound
  have ordered := hr.sound.situation.toOrdered
  rw [situation_of_task ha] at ordered
  rw [hp] at hat hst performs
  have hsp : (s.store.bindProxy p b).Spares .all s.step.store :=
    hst ▸ Store.spares_sweep .all _ held
  have made := performs.made (Store.made_of_not_disposed hd)
  have alive : s.step.store.Alive (.proxy p) := sound.alive_of_mem _
    (by rw [hat]; exact List.mem_cons_self) (List.mem_singleton.2 rfl)
  refine ⟨hat, (isDisposed_step (obeys_of_task ha) alive).trans hd, ?_, fun g hg => ?_⟩
  · obtain ⟨x, hx, hxd⟩ := Store.isDisposed_proxy_eq_false hd
    obtain ⟨ws, hy, -⟩ := Store.bindProxy_spec hx hxd ordered.sealed (ordered.ledger p).toNoted b
    obtain ⟨z, hz⟩ := Option.isSome_iff_exists.1 alive
    rcases hsp.proxy p z hz with ⟨y, hy', hyz⟩ | ⟨hn, -⟩
    · obtain rfl := Option.some.inj (hy.symm.trans hy')
      exact ⟨z, hz, hyz.binding⟩
    · exact absurd made (Nat.not_lt.2 hn)
  · rcases performs.guard? ordered ((hsp.guard? hg).resolve_right fun hn => hn.1 made) with
      hg | ⟨g₀, -, hdr⟩
    · exact hg
    · cases hdr

/-- A request by force starts a run of a proxy that does not run, and its pass comes next. -/
theorem step_request (hr : Reachable g s)
    (ha : s.agenda = .task (.recompute (.proxy p) true) :: rest)
    (hd : s.store.isDisposed (.proxy p) = false) (idle : ¬ s.Runs (.proxy p)) :
    s.step.agenda = .task (.pass (.proxy p) true) :: .task (.settle (.proxy p) 1) :: rest ∧
      s.step.Forced p ∧ s.step.store.isDisposed (.proxy p) = false ∧
      ∀ x, s.store.proxy? p = some x → ∃ y, s.step.store.proxy? p = some y ∧ y.binding = x.binding := by
  obtain ⟨hat, held, hst⟩ := step_inner ha rfl
  obtain ⟨k, hk⟩ := Store.guard?_isSome hd
  have stands : k.running = false := Bool.eq_false_iff.2 fun e => idle ⟨k, hk, e⟩
  have hp : (Task.recompute (.proxy p) true).perform s.engine.evaluator s.store =
      (s.store.setGuard (.proxy p) { k with running := true },
        [.pass (.proxy p) true, .settle (.proxy p) 1]) := by
    simp [Task.perform, hd, hk, Guard.request, stands]
  have performs := (Task.recompute (.proxy p) true).performs s.engine.evaluator s.store
  rw [hp] at hat hst performs
  have hsp := hst ▸ Store.spares_sweep .all _ held
  have made := performs.made (Store.made_of_not_disposed hd)
  have alive : s.step.store.Alive (.proxy p) := (hr.sound.move (.step s)).sound.alive_of_mem _
    (by rw [hat]; exact List.mem_cons_self) (List.mem_singleton.2 rfl)
  obtain ⟨z, hz⟩ := Option.isSome_iff_exists.1 alive
  obtain ⟨y, hy, hyz⟩ := (hsp.proxy p z hz).resolve_right fun hn => absurd made (Nat.not_lt.2 hn.1)
  refine ⟨hat, ⟨⟨z.guard, by simp [Store.guard?, hz], ?_⟩, by rw [hat]; rfl⟩,
    (isDisposed_step (obeys_of_task ha) alive).trans hd, fun x hx => ⟨z, hz, ?_⟩⟩
  · have hg : (s.store.setGuard (.proxy p) { k with running := true }).guard? (.proxy p) =
        some y.guard := congrArg (Option.map _) hy
    rw [Store.guard?_setGuard, if_pos rfl, hk] at hg
    rw [hyz.guard, ← Option.some.inj hg]
  · have hb : ((s.store.setGuard (.proxy p) { k with running := true }).proxy? p).map
        (fun x => x.binding) = (s.store.proxy? p).map fun x => x.binding :=
      Store.map_proxy?_modifyProxy fun _ _ => rfl
    rw [hy, hx] at hb
    rw [hyz.binding]
    exact Option.some.inj hb

/-- While a task comes next, nothing can happen but that it is performed. -/
theorem Move.eq_step (h : s.Move t) {tk : Task Script} (ha : s.agenda = .task tk :: rest) :
    t = s.step := by
  cases h with
  | step => rfl
  | give c hg =>
    cases hg with
    | caller h => rw [ha] at h; cases h
    | handler h => rw [ha] at h; cases h
    | script h => rfl

/-- What becomes of a swap: of a proxy that is next to be bound to other objects, as the first one of
    some proxies. -/
structure Heard (b : Binding) (p : ProxyId) (ps : List ProxyId) (rest : List Work) (s : Session) :
    Prop where
  /-- The binding is in place at once. -/
  bound : ∃ x, s.step.store.proxy? p = some x ∧ x.binding = b
  /-- If the proxy does not run, the round follows at once. -/
  atOnce : ¬ s.Runs (.proxy p) →
    Fires p (s.after 2) (s.after 3) ∧
      (∃ x, (s.after 2).store.proxy? p = some x ∧ x.binding = b) ∧
      ∃ v ks, (s.after 3).agenda = .task (.round (.value p v) ks) :: .task (.settle (.proxy p) 1) ::
        .task (.rebind b ps) :: rest
  /-- If it runs, the round begins before the run is over, unless the proxy is disposed of. -/
  inTime : s.Runs (.proxy p) → s.Regular (.proxy p) → ∀ (path : ℕ → Session) (m : ℕ), path 0 = s →
    (∀ i < m, (path i).Move (path (i + 1))) →
    (∀ i ≤ m, ∀ x, (path i).store.proxy? p = some x → x.disposed = false) →
    ¬ (path m).Runs (.proxy p) → ∃ i < m, 0 < i ∧ Fires p (path i) (path (i + 1))
  /-- In a tame session the round does come, unless the proxy is disposed of. -/
  comes : s.Amid → s.Regular (.proxy p) → (∃ i, Fires p (s.after i) (s.after (i + 1))) ∨
    ∃ i x, (s.after i).store.proxy? p = some x ∧ x.disposed
  /-- If no command is carried out until the run is over, there is one round, and the proxy has
      changed once. -/
  once : s.Regular (.proxy p) → ∀ m ≥ 2, (∀ j < m, (s.after j).obeys = false) →
    (∀ j < m, 2 ≤ j → (s.after j).Runs (.proxy p)) → ¬ (s.after m).Runs (.proxy p) →
    (∃ v, roundsIn (.proxy p) m s = [.value p v]) ∧
      ∀ x y, s.store.proxy? p = some x → (s.after m).store.proxy? p = some y →
        y.generation = x.generation + 1

theorem heard_atOnce (hr : Reachable g s) (ha : s.agenda = .task (.rebind b (p :: ps)) :: rest)
    (hd : s.store.isDisposed (.proxy p) = false) (idle : ¬ s.Runs (.proxy p)) :
    Fires p (s.after 2) (s.after 3) ∧
      (∃ x, (s.after 2).store.proxy? p = some x ∧ x.binding = b) ∧
      ∃ v ks, (s.after 3).agenda = .task (.round (.value p v) ks) :: .task (.settle (.proxy p) 1) ::
        .task (.rebind b ps) :: rest := by
  obtain ⟨ha₁, hd₁, ⟨x, hx, hb⟩, same⟩ := step_rebind hr ha hd
  have hr₁ := hr.move (.step s)
  obtain ⟨ha₂, forced, hd₂, bound⟩ := step_request hr₁ ha₁ hd₁
    fun ⟨k, hk, running⟩ => idle ⟨k, same k hk, running⟩
  have hr₂ := hr₁.move (.step s.step)
  obtain ⟨y, hy, hyd⟩ := Store.isDisposed_proxy_eq_false hd₂
  obtain ⟨hh, z, rest', ks, ha', -, hat⟩ := forced.fires hr₂.orderly (.step _) hy hyd rfl
  rw [ha₂] at ha'
  cases ha'
  obtain ⟨y', hy', hyb⟩ := bound x hx
  exact ⟨⟨y, hy, hh⟩, ⟨y', hy', hyb.trans hb⟩, _, ks, hat⟩

theorem awaits_of_running (hr : Reachable g s) (ha : s.agenda = .task (.rebind b (p :: ps)) :: rest)
    (hd : s.store.isDisposed (.proxy p) = false) (runs : s.Runs (.proxy p))
    (regular : s.Regular (.proxy p)) : s.step.Awaits p := by
  obtain ⟨ha₁, hd₁, -, same⟩ := step_rebind hr ha hd
  obtain ⟨k, hk⟩ := Store.guard?_isSome hd₁
  obtain ⟨k', hk', running⟩ := runs
  obtain rfl := Option.some.inj (hk'.symm.trans (same k hk))
  refine ⟨⟨k', hk, running⟩, Or.inl (by rw [ha₁]; rfl), fun j hj => ?_⟩
  rw [ha₁] at hj
  refine regular j ?_
  rw [ha]
  rcases List.mem_cons.1 hj with e | hj
  · cases e
  · rcases List.mem_cons.1 hj with e | hj
    · cases e
    · exact List.mem_cons_of_mem _ hj

/-- On whatever path the run of a proxy goes that awaits a pass by force, the round begins before the
    run is over. -/
theorem Awaits.inTime (path : ℕ → Session) (hr : Reachable g (path 0)) (h : (path 0).Awaits p)
    {m : ℕ} (moves : ∀ i < m, (path i).Move (path (i + 1)))
    (hd : ∀ i ≤ m, ∀ x, (path i).store.proxy? p = some x → x.disposed = false) :
    (∃ i < m, Fires p (path i) (path (i + 1))) ∨ (path m).Awaits p ∨ (path m).Forced p := by
  have reach : ∀ i ≤ m, Reachable g (path i) := by
    intro i hi
    induction i with
    | zero => exact hr
    | succ i ih => exact (ih (by omega)).move (moves i (by omega))
  induction m with
  | zero => exact Or.inr (Or.inl h)
  | succ m ih =>
    have hm := moves m (Nat.lt_succ_self m)
    have hrm := reach m (Nat.le_succ m)
    rcases ih (fun i hi => moves i (by omega)) (fun i hi => hd i (by omega))
      (fun i hi => reach i (by omega)) with ⟨i, hi, fires⟩ | awaits | forced
    · exact Or.inl ⟨i, by omega, fires⟩
    · obtain ⟨y, hy⟩ := Option.isSome_iff_exists.1 (awaits.alive hrm.orderly hrm.sound hm)
      refine Or.inr (awaits.move hrm.orderly hrm.sound hm ?_)
      simpa [Store.isDisposed, hy] using hd (m + 1) (Nat.le_refl _) y hy
    · obtain ⟨k, hk, -⟩ := forced.runs
      obtain ⟨x, hx, -⟩ := Option.map_eq_some_iff.1 hk
      exact Or.inl ⟨m, Nat.lt_succ_self m, x, hx,
        (forced.fires hrm.orderly hm hx (hd m (Nat.le_succ m) x hx) rfl).1⟩

theorem heard_inTime (hr : Reachable g s) (ha : s.agenda = .task (.rebind b (p :: ps)) :: rest)
    (hd : s.store.isDisposed (.proxy p) = false) (runs : s.Runs (.proxy p))
    (regular : s.Regular (.proxy p)) (path : ℕ → Session) {m : ℕ} (start : path 0 = s)
    (moves : ∀ i < m, (path i).Move (path (i + 1)))
    (hds : ∀ i ≤ m, ∀ x, (path i).store.proxy? p = some x → x.disposed = false)
    (ended : ¬ (path m).Runs (.proxy p)) : ∃ i < m, 0 < i ∧ Fires p (path i) (path (i + 1)) := by
  cases m with
  | zero => exact absurd (start ▸ runs) ended
  | succ m =>
    have first : path 1 = s.step := (start ▸ moves 0 (Nat.succ_pos m)).eq_step ha
    have awaits : (path 1).Awaits p := first ▸ awaits_of_running hr ha hd runs regular
    rcases Awaits.inTime (fun i => path (i + 1)) (m := m) (first ▸ hr.move (.step s)) awaits
      (fun i hi => moves (i + 1) (by omega)) (fun i hi => hds (i + 1) (by omega)) with
      ⟨i, hi, fires⟩ | awaits | forced
    · exact ⟨i + 1, by omega, Nat.succ_pos i, fires⟩
    · exact absurd awaits.runs ended
    · exact absurd forced.runs ended

theorem after_succ (s : Session) (i : ℕ) : s.after (i + 1) = (s.after i).step := s.after_add i 1

/-- Nobody runs where nothing is going on. -/
theorem Sound.not_runs_of_idle (h : s.Sound) (idle : s.agenda = []) : ¬ s.Runs n := by
  intro hr
  obtain ⟨tk, hm, -⟩ := h.exists_end hr
  rw [idle] at hm
  cases hm

theorem heard_comes (hr : Reachable g s) (ha : s.agenda = .task (.rebind b (p :: ps)) :: rest)
    (hd : s.store.isDisposed (.proxy p) = false) (tame : s.Amid) (regular : s.Regular (.proxy p)) :
    (∃ i, Fires p (s.after i) (s.after (i + 1))) ∨
      ∃ i x, (s.after i).store.proxy? p = some x ∧ x.disposed := by
  by_cases runs : s.Runs (.proxy p)
  · obtain ⟨m, hm⟩ := tame.ends
    by_cases hds : ∃ i x, (s.after i).store.proxy? p = some x ∧ x.disposed
    · exact Or.inr hds
    · obtain ⟨i, -, -, fires⟩ := heard_inTime hr ha hd runs regular s.after (m := m) rfl
        (fun i _ => by rw [after_succ]; exact .step _)
        (fun i _ x hx => Bool.eq_false_iff.2 fun e => hds ⟨i, x, hx, e⟩)
        ((hr.after m).sound.not_runs_of_idle hm)
      exact Or.inl ⟨i, fires⟩
  · exact Or.inl ⟨2, (heard_atOnce hr ha hd runs).1⟩

/-- A swap that is not made in an extra pass is followed by one round until the run is over, if no
    command is carried out. -/
theorem heard_once (hr : Reachable g s) (ha : s.agenda = .task (.rebind b (p :: ps)) :: rest)
    (hd : s.store.isDisposed (.proxy p) = false) (regular : s.Regular (.proxy p)) (m : ℕ)
    (quiet : ∀ j < m + 2, (s.after j).obeys = false)
    (runs : ∀ j < m + 2, 2 ≤ j → (s.after j).Runs (.proxy p))
    (ended : ¬ (s.after (m + 2)).Runs (.proxy p)) :
    ∃ v, roundsIn (.proxy p) (m + 2) s = [.value p v] := by
  obtain ⟨ha₁, hd₁, -, same⟩ := step_rebind hr ha hd
  have hr₁ := hr.move (.step s)
  have hr₂ := hr₁.move (.step s.step)
  have quiet₂ : ∀ j < m, (s.step.step.after j).obeys = false := fun j hj => quiet (j + 2) (by omega)
  have runs₂ : ∀ j < m, (s.step.step.after j).Runs (.proxy p) :=
    fun j hj => runs (j + 2) (by omega) (by omega)
  have fromForced : s.step.step.Forced p → s.step.step.store.isDisposed (.proxy p) = false →
      ∃ v, roundsIn (.proxy p) m s.step.step = [.value p v] := by
    intro forced hd₂
    cases m with
    | zero => exact absurd forced.runs ended
    | succ m => exact forced.roundsIn_eq hr₂ hd₂ (Nat.succ_pos m) quiet₂ runs₂
  rw [roundsIn, roundsIn, no_round hr (by rw [ha]; nofun), no_round hr₁ (by rw [ha₁]; nofun)]
  by_cases hs : s.Runs (.proxy p)
  · have awaits := awaits_of_running hr ha hd hs regular
    have hd₂ := (isDisposed_step (obeys_of_task ha₁)
      (awaits.alive hr₁.orderly hr₁.sound (.step _))).trans hd₁
    rcases awaits.move hr₁.orderly hr₁.sound (.step _) hd₂ with awaits | forced
    · exact awaits.roundsIn_eq hr₂ hd₂ quiet₂ runs₂ ended
    · exact fromForced forced hd₂
  · obtain ⟨-, forced, hd₂, -⟩ := step_request hr₁ ha₁ hd₁
      fun ⟨k, hk, running⟩ => hs ⟨k, same k hk, running⟩
    exact fromForced forced hd₂

/-- A swap of which a proxy comes next is not lost on its listeners. -/
theorem Reachable.heard_of_rebind (hr : Reachable g s)
    (ha : s.agenda = .task (.rebind b (p :: ps)) :: rest)
    (hd : s.store.isDisposed (.proxy p) = false) : Heard b p ps rest s where
  bound := (step_rebind hr ha hd).2.2.1
  atOnce := heard_atOnce hr ha hd
  inTime runs regular _ _ start moves hds ended := heard_inTime hr ha hd runs regular _ start moves hds ended
  comes := heard_comes hr ha hd
  once regular m hm quiet runs ended := by
    obtain ⟨m, rfl⟩ := Nat.exists_eq_add_of_le' hm
    obtain ⟨v, hv⟩ := heard_once hr ha hd regular m quiet runs ended
    refine ⟨⟨v, hv⟩, fun x y hx hy => ?_⟩
    have hk : (s.after (m + 2)).store.generation? (.proxy p) = some y.generation := by
      simp [Store.generation?, hy]
    obtain ⟨k, hk₀, e⟩ := generation_after hr (Store.made_of_not_disposed hd) hk
    obtain rfl : x.generation = k := by simpa [Store.generation?, hx] using hk₀
    rw [e, hv]
    rfl

/-! ### Commands that swap -/

/-- A command binds proxies to other objects, one after the other: one proxy, or those of a form. -/
inductive Redirects (s : Session) (b : Binding) : List ProxyId → Command → Prop
  | binding {name : String} {names : BindingNames} {p : ProxyId}
      (hp : s.proxies.lookup name = some p) (hm : s.objectOf names.model = .ok b.model)
      (hc : s.objectOf names.context = .ok b.context) : Redirects s b [p] (.setBinding name names)
  | model {name object : String} {p : ProxyId} {o : ObjectRef} (hp : s.proxies.lookup name = some p)
      (ho : s.objects.lookup object = some o) (hb : b = { s.bindingOf p with model := some o.id }) :
      Redirects s b [p] (.setModel name object)
  | context {name object : String} {p : ProxyId} {o : ObjectRef}
      (hp : s.proxies.lookup name = some p) (ho : s.objects.lookup object = some o)
      (hb : b = { s.bindingOf p with context := some o.id }) :
      Redirects s b [p] (.setContext name object)
  | formBinding {name : String} {names : BindingNames} {f : FormId} {x : FormState}
      (hf : s.forms.lookup name = some f) (hx : s.store.form? f = some x)
      (hm : s.objectOf names.model = .ok b.model) (hc : s.objectOf names.context = .ok b.context) :
      Redirects s b (s.store.boundProxies x) (.setFormBinding name names)
  | formModel {name object : String} {f : FormId} {x : FormState} {o : ObjectRef}
      (hf : s.forms.lookup name = some f) (hx : s.store.form? f = some x)
      (ho : s.objects.lookup object = some o) (hb : b = { x.binding with model := some o.id }) :
      Redirects s b (s.store.boundProxies x) (.setFormModel name object)
  | formContext {name object : String} {f : FormId} {x : FormState} {o : ObjectRef}
      (hf : s.forms.lookup name = some f) (hx : s.store.form? f = some x)
      (ho : s.objects.lookup object = some o) (hb : b = { x.binding with context := some o.id }) :
      Redirects s b (s.store.boundProxies x) (.setFormContext name object)

theorem Redirects.of_names {r : Session} {c : Command} (h : s.Redirects b ps c)
    (workspace : r.workspace = s.workspace) (objects : r.objects = s.objects)
    (proxies : r.proxies = s.proxies) (forms : r.forms = s.forms) : r.Redirects b ps c := by
  have objectOf : ∀ n, r.objectOf n = s.objectOf n := fun n => by
    cases n <;> simp only [Session.objectOf, objects]
  have store : r.store = s.store := congrArg Workspace.store workspace
  have bindingOf : ∀ p, r.bindingOf p = s.bindingOf p := fun p => by
    simp only [Session.bindingOf, store]
  cases h with
  | binding hp hm hc =>
    exact .binding (proxies ▸ hp) ((objectOf _).trans hm) ((objectOf _).trans hc)
  | model hp ho hb => exact .model (proxies ▸ hp) (objects ▸ ho) (hb.trans (by rw [bindingOf]))
  | context hp ho hb => exact .context (proxies ▸ hp) (objects ▸ ho) (hb.trans (by rw [bindingOf]))
  | formBinding hf hx hm hc =>
    exact store ▸ .formBinding (forms ▸ hf) (store ▸ hx) ((objectOf _).trans hm) ((objectOf _).trans hc)
  | formModel hf hx ho hb => exact store ▸ .formModel (forms ▸ hf) (store ▸ hx) (objects ▸ ho) hb
  | formContext hf hx ho hb => exact store ▸ .formContext (forms ▸ hf) (store ▸ hx) (objects ▸ ho) hb

/-- All that such a command does is to leave the proxies to be bound next. -/
theorem Redirects.carryOut {c : Command} (h : s.Redirects b ps c) (e : Option Occasion) :
    ∃ reply, s.carryOut e c = ⟨s, [.rebind b ps], reply⟩ := by
  cases h with
  | binding hp hm hc =>
    exact ⟨_, by simp only [Session.carryOut, onProxy, bound, present, orMissing, hp, hm, hc]; rfl⟩
  | model hp ho hb | context hp ho hb =>
    exact ⟨_, by simp only [Session.carryOut, onProxy, onObject, present, orMissing, hp, ho, hb]; rfl⟩
  | formBinding hf hx hm hc =>
    exact ⟨_, by simp [Session.carryOut, formed, orMissing, hf, hx, present, bound, hm, hc]; rfl⟩
  | formModel hf hx ho hb | formContext hf hx ho hb =>
    exact ⟨_, by simp [Session.carryOut, formed, onObject, orMissing, hf, hx, present, ho, hb]; rfl⟩

theorem Gives.agenda_of_redirects {c : Command} (hg : s.Gives c t) (h : s.Redirects b ps c) :
    ∃ rest, t.agenda = .task (.rebind b ps) :: rest := by
  obtain ⟨r, e, handler, workspace, objects, proxies, -, forms, -, rfl⟩ := hg.eq_start
  obtain ⟨reply, hc⟩ := (h.of_names workspace objects proxies forms).carryOut e
  refine ⟨.reply reply handler :: r.agenda, ?_⟩
  show (r.start e c handler).agenda = _
  rw [start, hc]
  rfl

/-- No swap is lost: neither that of a command, whoever gives it, nor that of any proxy whose turn comes
    when a form is bound to other objects. -/
theorem Reachable.swap_heard (hr : Reachable g s) :
    (∀ {b p ps rest}, s.agenda = .task (.rebind b (p :: ps)) :: rest →
      s.store.isDisposed (.proxy p) = false → Heard b p ps rest s) ∧
    ∀ {c b p ps t}, s.Redirects b (p :: ps) c → s.Gives c t →
      t.store.isDisposed (.proxy p) = false →
        ∃ rest, t.agenda = .task (.rebind b (p :: ps)) :: rest ∧ Heard b p ps rest t := by
  refine ⟨hr.heard_of_rebind, fun redirects given hd => ?_⟩
  obtain ⟨rest, ha⟩ := given.agenda_of_redirects redirects
  exact ⟨rest, ha, (hr.move (.give _ given)).heard_of_rebind ha hd⟩

theorem agenda_of_swaps (h : s.swaps (.proxy p)) :
    (∃ b ps rest, s.agenda = .task (.rebind b (p :: ps)) :: rest) ∧
      s.store.isDisposed (.proxy p) = false := by
  cases ha : s.agenda with
  | nil => simp [swaps, ha] at h
  | cons w rest =>
    cases w with
    | script | reply => simp [swaps, ha] at h
    | task tk =>
      obtain ⟨b, q, ps, rfl, hq, hd⟩ := (swaps_of_task ha).1 h
      cases hq
      exact ⟨⟨b, ps, rest, rfl⟩, hd⟩

/-- A proxy that its own listener binds to another object, where it reads the same: it runs, and the
    one round that follows repeats the value. The caller binds it to the object by a command. -/
theorem heard_sameValue : (∃ s b ps rest, Reachable (.ofConfiguration .testing .empty) s ∧
    s.agenda = .task (.rebind b (⟨0⟩ :: ps)) :: rest ∧ s.Runs (.proxy ⟨0⟩) ∧
      Heard b ⟨0⟩ ps rest s ∧ ∃ v, roundsIn (.proxy ⟨0⟩) 10 s = [.value ⟨0⟩ v]) ∧
    ∃ s t c b rest, Reachable (.ofConfiguration .testing .empty) s ∧ s.Redirects b [⟨0⟩] c ∧
      s.Gives c t ∧ t.agenda = .task (.rebind b [⟨0⟩]) :: rest ∧ Heard b ⟨0⟩ [] rest t := by
  constructor
  · have run : ((trial (.ofConfiguration .testing .empty) 20
        [("a", [("x", .value (.integer 1))]), ("b", [("x", .value (.integer 2))])]
        [.bind "p" "\x7bBinding x\x7d" none ⟨some "a", none⟩,
          .listen "p" true (.mk "h" [.mk none (.unlisten "h"),
            .mk none (.setBinding "p" ⟨some "b", none⟩)])]).map fun s =>
          (s.initiated (.set "a" "x" (.value (.integer 2)))).after 9).any (fun s =>
            decide (s.swaps (.proxy ⟨0⟩) = true ∧ s.Runs (.proxy ⟨0⟩) ∧ s.Regular (.proxy ⟨0⟩) ∧
              (∀ j : ℕ, j < 10 → (s.after j).obeys = false) ∧
              (∀ j : ℕ, j < 10 → (s.after j).Runs (.proxy ⟨0⟩)) ∧
              ¬ (s.after 10).Runs (.proxy ⟨0⟩))) = true := by
      decide +kernel
    obtain ⟨s, hs, hx⟩ := (Option.any_eq_true _ _).1 run
    obtain ⟨s₁, h₁, rfl⟩ := Option.map_eq_some_iff.1 hs
    obtain ⟨h, idle⟩ := reachable_of_trial h₁
    obtain ⟨swaps, runs, regular, quiet, on, ended⟩ := of_decide_eq_true hx
    obtain ⟨⟨b, ps, rest, ha⟩, hd⟩ := agenda_of_swaps swaps
    have reached := (h.initiated idle (.set "a" "x" (.value (.integer 2)))).after 9
    have heard := reached.swap_heard.1 ha hd
    exact ⟨_, b, ps, rest, reached, ha, runs, heard,
      (heard.once regular 10 (by decide) quiet (fun j hj _ => on j hj) ended).1⟩
  · have run : (trial (.ofConfiguration .testing .empty) 20
        [("a", [("x", .value (.integer 1))]), ("b", [("x", .value (.integer 1))])]
        [.bind "p" "\x7bBinding x\x7d" none ⟨some "a", none⟩]).any (fun s =>
          decide (s.proxies.lookup "p" = some ⟨0⟩ ∧ (s.objects.lookup "b").isSome ∧
            (s.initiated (.setModel "p" "b")).store.isDisposed (.proxy ⟨0⟩) = false)) = true := by
      decide +kernel
    obtain ⟨s, hs, hx⟩ := (Option.any_eq_true _ _).1 run
    obtain ⟨hp, ho, hd⟩ := of_decide_eq_true hx
    obtain ⟨o, ho⟩ := Option.isSome_iff_exists.1 ho
    obtain ⟨h, idle⟩ := reachable_of_trial hs
    have redirects : s.Redirects _ [⟨0⟩] (.setModel "p" "b") := .model hp ho rfl
    have given : s.Gives (.setModel "p" "b") (s.initiated (.setModel "p" "b")) := .caller idle
    obtain ⟨rest, ha, heard⟩ := h.swap_heard.2 redirects given hd
    exact ⟨s, _, _, _, rest, h, redirects, given, ha, heard⟩

end Session

end LiveForm
