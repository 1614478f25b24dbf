/-
  Rounds come one after the other and tell the truth.

  What happens to a node in the course of a session is that rounds begin that tell what it shows, and,
  if it is a proxy, that it is bound to other objects.

  * `Session.History`: what has happened to a node until a session came about;
  * `Session.Serial`: the rounds of a node do not nest, tell what the node shows, and tell something
    else each time unless they are made because the proxy has been bound to other objects;
  * `History.serial`: so it is whatever has happened.
-/
import LiveForm.Proofs.Staging

namespace LiveForm

variable {H : Type}

/-! ## What tasks tell -/

/-- What a round tells of a node. -/
def Task.round? (n : Node) : Task H → Option Event
  | .round e _ => if e.node? = some n then some e else none
  | _ => none

/-- What a listener of a node is told. -/
def Task.call? (n : Node) : Task H → Option Event
  | .call _ e => if e.node? = some n then some e else none
  | _ => none

namespace Task

variable {n m : Node} {e : Event} {ks : List Nat} {l : Listener H} {force : Bool}

@[simp] theorem round?_round :
    (round e ks : Task H).round? n = if e.node? = some n then some e else none := rfl

@[simp] theorem round?_call : (call l e).round? n = none := rfl

@[simp] theorem round?_pass : (pass m force : Task H).round? n = none := rfl

@[simp] theorem round?_recompute : (recompute m force : Task H).round? n = none := rfl

@[simp] theorem round?_rebind {b : Binding} {ps : List ProxyId} :
    (rebind b ps : Task H).round? n = none := rfl

@[simp] theorem round?_settle {k : Nat} : (settle m k : Task H).round? n = none := rfl

@[simp] theorem round?_settleExtra {k : Nat} : (settleExtra m k : Task H).round? n = none := rfl

@[simp] theorem call?_round : (round e ks : Task H).call? n = none := rfl

@[simp] theorem call?_call : (call l e).call? n = if e.node? = some n then some e else none := rfl

@[simp] theorem call?_pass : (pass m force : Task H).call? n = none := rfl

theorem round?_of_ends {z : Task H} (hz : z.ends? = some m) : z.round? n = none := by
  cases z <;> first | rfl | cases hz

theorem call?_of_ends {z : Task H} (hz : z.ends? = some m) : z.call? n = none := by
  cases z <;> first | rfl | cases hz

end Task

/-- Another value, or another result. -/
def Event.Differs : Event → Event → Prop
  | .value _ v, .value _ w => (v == w) = false
  | .result _ r, .result _ r' => r ≠ r'
  | _, _ => False

theorem Task.concerns_of_round? {n : Node} {tk : Task H} (h : (tk.round? n).isSome) :
    tk.concerns n := by
  cases tk with
  | round e ks => simpa [round?, concerns] using h
  | _ => cases h

theorem Task.concerns_of_call? {n : Node} {tk : Task H} (h : (tk.call? n).isSome) :
    tk.concerns n := by
  cases tk with
  | call l e => simpa [call?, concerns] using h
  | _ => cases h

theorem Task.entity_of_round? {n : Node} {tk : Task H} {e : Event} (h : tk.round? n = some e) :
    n.entity ∈ tk.entities := by
  cases tk with
  | round e' ks =>
    rw [round?_round] at h
    split at h
    · next he =>
      cases e' with
      | property o name => cases he
      | value p v =>
        cases he
        exact List.mem_cons_self
      | result v r =>
        cases he
        exact List.mem_cons_self
    · cases h
  | _ => cases h

/-- What does not pass a filter need not be looked at if it is mapped to nothing. -/
theorem filterMap_filter_of_isSome {α β : Type} {f : α → Option β} {p : α → Bool}
    (h : ∀ a, (f a).isSome → p a) (l : List α) : (l.filter p).filterMap f = l.filterMap f := by
  rw [List.filterMap_filter]
  congr
  funext a
  split
  · rfl
  · next ha => exact (Option.not_isSome_iff_eq_none.1 fun hs => ha (h a hs)).symm

namespace Store

variable {L : Licence H} {s t u : Store H} {n : Node} {l : List (Task H)}

/-- At no stage is there more than one round, and it tells what the node shows. -/
theorem Stage.rounds (h : s.Stage n l) : l.filterMap (Task.round? n) = [] ∨
    ∃ e, l.filterMap (Task.round? n) = [e] ∧ ∀ e', s.shown? n = some e' → e' = e := by
  cases h with
  | rest => exact Or.inl rfl
  | pass hz => exact Or.inl (by simp [List.filterMap_cons, Task.round?_of_ends hz])
  | round he _ hs hz =>
    exact Or.inr ⟨_, by simp [he, Task.round?_of_ends hz], hs⟩
  | call he _ hs hz =>
    exact Or.inr ⟨_, by simp [List.filterMap_cons, he, Task.round?_of_ends hz], hs⟩
  | settle hz => exact Or.inl (by simp [Task.round?_of_ends hz])

/-- A listener is told what the round tells. -/
theorem Stage.calls (h : s.Stage n l) {e : Event} (he : e ∈ l.filterMap (Task.call? n)) :
    l.filterMap (Task.round? n) = [e] := by
  cases h with
  | rest => cases he
  | pass hz => simp [List.filterMap_cons, Task.call?_of_ends hz] at he
  | round _ _ _ hz => simp [List.filterMap_cons, Task.call?_of_ends hz] at he
  | call he' _ _ hz =>
    simp [List.filterMap_cons, he', Task.call?_of_ends hz] at he
    simp [List.filterMap_cons, he', he, Task.round?_of_ends hz]
  | settle hz => simp [Task.call?_of_ends hz] at he

/-- Where a pass comes next, there is no round. -/
theorem Stage.rounds_of_pass {force : Bool} (h : s.Stage n (.pass n force :: l)) :
    l.filterMap (Task.round? n) = [] := by
  obtain ⟨z, rfl, hz⟩ := h.of_pass
  simp [Task.round?_of_ends hz]

/-- How often a proxy has changed its value. -/
def generation? (s : Store H) : Node → Option Nat
  | .proxy p => (s.proxy? p).map fun x => x.generation
  | .validator _ => none

theorem Spares.generation? (h : s.Spares L t) {k : Nat} (hk : t.generation? n = some k) :
    s.generation? n = some k ∨ ¬ s.Made n ∧ k = 0 := by
  cases n with
  | validator v => cases hk
  | proxy p =>
    obtain ⟨y, hy, rfl⟩ := Option.map_eq_some_iff.1 hk
    rcases h.proxy p y hy with ⟨x, hx, hxy⟩ | ⟨hp, hg, -⟩
    · exact Or.inl (by simp [Store.generation?, hx, hxy.generation])
    · exact Or.inr ⟨Nat.not_lt.2 hp, hg⟩

/-- What is not disposed of was not before. -/
theorem Spares.isDisposed (h : s.Spares L t) (hn : s.Made n) (hd : t.isDisposed n = false) :
    s.isDisposed n = false := by
  cases n with
  | proxy p =>
    obtain ⟨y, hy, hd⟩ := isDisposed_proxy_eq_false hd
    rcases h.proxy p y hy with ⟨x, hx, hxy⟩ | ⟨hp, -⟩
    · have hx' : x.disposed = false :=
        Bool.eq_false_iff.2 fun e => Bool.eq_false_iff.1 hd (hxy.disposed e)
      simp [Store.isDisposed, hx, hx']
    · exact absurd hn (Nat.not_lt.2 hp)
  | validator v =>
    obtain ⟨y, hy, hd⟩ := isDisposed_validator_eq_false hd
    rcases h.validator v y hy with ⟨x, hx, hxy⟩ | ⟨hv, -⟩
    · have hx' : x.disposed = false :=
        Bool.eq_false_iff.2 fun e => Bool.eq_false_iff.1 hd (hxy.disposed e)
      simp [Store.isDisposed, hx, hx']
    · exact absurd hn (Nat.not_lt.2 hv)

theorem isSome_shown?_iff : (s.shown? n).isSome ↔ s.Alive n.entity := by
  cases n with
  | proxy p => simp [shown?, Node.entity, Alive]
  | validator v => simp [shown?, Node.entity, Alive]

theorem shown?_isSome (h : s.isDisposed n = false) : ∃ e, s.shown? n = some e := by
  obtain ⟨g, hg⟩ := guard?_isSome h
  refine Option.isSome_iff_exists.1 (isSome_shown?_iff.2 (isSome_run?_iff.1 ?_))
  rw [guard?_eq] at hg
  rw [Option.isSome_iff_exists]
  obtain ⟨r, hr, -⟩ := Option.map_eq_some_iff.1 hg
  exact ⟨r, hr⟩

theorem made_of_not_disposed (h : s.isDisposed n = false) : s.Made n := by
  obtain ⟨g, hg⟩ := guard?_isSome h
  exact made_of_guard? hg

/-- What comes of a pass: a node that is not disposed of stays as it is, or it shows something else, or
    the same by force, and a round is to tell so. -/
inductive Passes (s : Store H) (n : Node) (force : Bool) (u : Store H) : List (Task H) → Prop
  | keep (same : s.isDisposed n = false → u = s) (hg : u.generation? n = s.generation? n) :
      Passes s n force u []
  | tell {e₀ e : Event} (he : e.node? = some n) (hd : s.isDisposed n = false)
      (before : s.shown? n = some e₀) (after : u.shown? n = some e)
      (hf : force = true ∨ e₀.Differs e)
      (hg : u.generation? n = (s.generation? n).map (· + 1)) : Passes s n force u [u.roundOf e]

theorem passes_passProxy (s : Store H) (p : ProxyId) (force : Bool) :
    s.Passes (.proxy p) force (s.passProxy p force).1 (s.passProxy p force).2 := by
  cases hx : s.proxy? p with
  | none =>
    simp only [passProxy, hx]
    exact .keep (fun _ => rfl) rfl
  | some x =>
    simp only [passProxy, hx]
    split
    · next hu =>
      obtain ⟨hd, hv⟩ := Bool.and_eq_true_iff.1 hu
      have before : s.shown? (.proxy p) = some (.value p x.cached) := by simp [shown?, hx]
      refine .tell rfl ?_ before (shown?_replaceValue hx _) ?_ ?_
      · simpa [isDisposed, hx] using hd
      · exact (Bool.or_eq_true_iff.1 hv).imp_right fun h => by simpa [bne, Event.Differs] using h
      · simp [generation?, replaceValue, proxy?_modifyProxy_self hx, hx]
    · exact .keep (fun _ => rfl) rfl

theorem passes_passValidator (ev : Evaluator) (s : Store H) (v : ValidatorId) (force : Bool) :
    s.Passes (.validator v) force (s.passValidator ev v).1 (s.passValidator ev v).2 := by
  cases hx : s.validator? v with
  | none =>
    simp only [passValidator, hx]
    exact .keep (fun _ => rfl) rfl
  | some x =>
    simp only [passValidator, hx]
    split
    · exact .keep (fun _ => rfl) rfl
    · next hr =>
      cases hd : x.disposed with
      | true => exact .keep (fun h => by simp [isDisposed, hx, hd] at h) rfl
      | false =>
        have before : s.shown? (.validator v) = some (.result v x.result) := by simp [shown?, hx]
        refine .tell rfl ?_ before (shown?_replaceResult hx _) (Or.inr hr) rfl
        simp [isDisposed, hx, hd]

theorem passes (ev : Evaluator) (s : Store H) (n : Node) (force : Bool) :
    s.Passes n force ((Task.pass n force).perform ev s).1 ((Task.pass n force).perform ev s).2 := by
  cases n with
  | proxy p => exact passes_passProxy s p force
  | validator v => exact passes_passValidator ev s v force

end Store

/-! ## Tasks -/

section

variable {ev : Evaluator} {s u : Store H} {tk : Task H} {new ts : List (Task H)} {n : Node}

/-- No task but a pass of a node begins a round of it. -/
theorem Task.Performs.rounds_le (h : tk.Performs ev s u new) (hk : ∀ force, tk ≠ .pass n force) :
    ((new ++ ts).filterMap (Task.round? n)).length ≤
      ((tk :: ts).filterMap (Task.round? n)).length := by
  rw [← List.singleton_append (x := tk), List.filterMap_append, List.filterMap_append,
    List.length_append, List.length_append]
  refine Nat.add_le_add_right ?_ _
  cases h with
  | close | ignore | refuse | keep | stop | stopExtra | gone | goneExtra | bound =>
    exact Nat.zero_le _
  | tell | miss | follow | heed | again | extra | pass | bind => simp [List.filterMap_cons]
  | request => split <;> simp [List.filterMap_cons]
  | @update p x v force =>
    have hn : (Event.value p v).node? ≠ some n := fun e => hk force (by cases e; rfl)
    simp [Store.roundOf, List.filterMap_cons, hn]
  | @judge v x r force =>
    have hn : (Event.result v r).node? ≠ some n := fun e => hk force (by cases e; rfl)
    split
    · exact Nat.zero_le _
    · simp [Store.roundOf, List.filterMap_cons, hn]

/-- No task but a pass of a node makes a difference to how often the node has changed. -/
theorem Task.Performs.generation? (h : tk.Performs ev s u new) (hk : ∀ force, tk ≠ .pass n force) :
    u.generation? n = s.generation? n := by
  cases n with
  | proxy p => exact h.map_proxy? (f := fun x => x.generation) (fun _ _ _ _ _ _ => rfl) hk
  | validator v => rfl

/-- What is not disposed of after a task was not before. -/
theorem Task.Performs.isDisposed (h : tk.Performs ev s u new) :
    u.isDisposed n = s.isDisposed n := by
  have proxy : ∀ p : ProxyId, (u.proxy? p).map (fun x => x.disposed) =
      (s.proxy? p).map fun x => x.disposed := by
    intro p
    by_cases hk : ∀ force, tk ≠ .pass (.proxy p) force
    · exact h.map_proxy? (fun _ _ _ _ _ _ => rfl) hk
    · obtain ⟨force, rfl⟩ := not_forall_not.1 hk
      cases h with
      | keep => rfl
      | update => exact Store.map_proxy?_modifyProxy fun _ _ => rfl
  have validator : ∀ v : ValidatorId, (u.validator? v).map (fun x => x.disposed) =
      (s.validator? v).map fun x => x.disposed := by
    intro v
    by_cases hk : ∀ force, tk ≠ .pass (.validator v) force
    · exact h.map_validator? (fun _ _ _ _ => rfl) hk
    · obtain ⟨force, rfl⟩ := not_forall_not.1 hk
      cases h with
      | keep => rfl
      | judge => exact Store.map_validator?_modifyValidator fun _ _ => rfl
  have all : ∀ {α : Type} (f : α → Bool) (x : Option α), x.all f = (x.map f).all id := by
    intro α f x
    cases x <;> rfl
  cases n with
  | proxy p => rw [Store.isDisposed, all, proxy, ← all]; rfl
  | validator v => rw [Store.isDisposed, all, validator, ← all]; rfl

end

/-! ## What happens to a node -/

/-- A forced pass follows a forced request. -/
theorem Guard.pendingForce_of_pass {g h : Guard} {k : Nat} (hp : g.afterPass k = (h, .pass true)) :
    g.pendingForce := by
  unfold afterPass at hp
  split at hp
  · cases hp
  · dsimp only at hp
    split at hp
    · exact (Prod.mk.inj hp).2 |> Next.pass.inj
    · split at hp <;> cases hp

theorem Guard.pendingForce_of_extra {g h : Guard} {k : Nat} (hp : g.afterPass k = (h, .extra)) :
    g.pendingForce := by
  unfold afterPass at hp
  split at hp
  · cases hp
  · dsimp only at hp
    split at hp
    · cases hp
    · split at hp
      · assumption
      · cases hp

/-- A request by force comes next only where a proxy has been bound to other objects. -/
theorem Task.Performs.of_forcedRequest {ev : Evaluator} {s u : Store H} {tk : Task H}
    {new : List (Task H)} {n : Node} (h : tk.Performs ev s u new)
    (hn : new.head? = some (.recompute n true)) :
    ∃ b p ps, tk = .rebind b (p :: ps) ∧ n = .proxy p ∧ s.isDisposed n = false := by
  cases h with
  | bind hx hd =>
    cases hn
    exact ⟨_, _, _, rfl, rfl, by simp [Store.isDisposed, hx, hd]⟩
  | request => split at hn <;> cases hn
  | judge => split at hn <;> cases hn
  | _ => cases hn

/-- A pass by force comes next only where one was asked for or a guard held a request for one. -/
theorem Task.Performs.of_forcedPass {ev : Evaluator} {s u : Store H} {tk : Task H}
    {new : List (Task H)} {n : Node} (h : tk.Performs ev s u new)
    (hn : new.head? = some (.pass n true)) :
    tk = .recompute n true ∨ ∃ g, s.guard? n = some g ∧ g.pendingForce := by
  cases h with
  | request =>
    split at hn
    · cases hn
      exact Or.inl rfl
    · cases hn
  | again hg hp =>
    cases hn
    exact Or.inr ⟨_, hg, Guard.pendingForce_of_pass hp⟩
  | extra hg hp =>
    cases hn
    exact Or.inr ⟨_, hg, Guard.pendingForce_of_extra hp⟩
  | judge => split at hn <;> cases hn
  | _ => cases hn

/-- What can happen to a node: it is a proxy and bound to other objects, or a round begins. -/
inductive Happening where
  | swap
  | round (e : Event)

namespace Happening

/-- What is told by a round. -/
def round? : Happening → Option Event
  | .swap => none
  | .round e => some e

/-- If two rounds come one after the other, the later one tells something else. -/
def Varies : Happening → Happening → Prop
  | .round later, .round earlier => earlier.Differs later
  | _, _ => True

end Happening

namespace Session

variable {L : Licence Script} {g : Engine} {s t : Session} {n : Node} {hs : List Happening}

/-- What the rounds that are going on tell of a node, the one that is told next first. -/
def rounds (s : Session) (n : Node) : List Event := s.situation.tasks.filterMap (Task.round? n)

/-- What listeners of a node are being told. -/
def calls (s : Session) (n : Node) : List Event := s.situation.tasks.filterMap (Task.call? n)

/-- The next piece of work binds a proxy to other objects. -/
def swaps (s : Session) (n : Node) : Bool :=
  match s.agenda with
  | .task (.rebind _ (p :: _)) :: _ => n = .proxy p && !s.store.isDisposed n
  | _ => false

/-- What happens to a node from one session to another. -/
def happening? (n : Node) (s t : Session) : Option Happening :=
  if s.swaps n then some .swap
  else if (s.rounds n).length < (t.rounds n).length then (t.rounds n).head?.map .round
  else none

/-- What has happened to a node until a session came about, the latest first. -/
inductive History (g : Engine) (n : Node) : List Happening → Session → Prop
  | start {objects : List (String × List (String × Operand))} {s : Session}
      (h : (ofEngine g).withObjects objects = .ok s) : History g n [] s
  | move {hs : List Happening} {s t : Session} (h : History g n hs s) (hm : s.Move t) :
      History g n ((happening? n s t).toList ++ hs) t

/-- Every session that comes about has a history. -/
theorem Reachable.history (h : Reachable g s) (n : Node) : ∃ hs, History g n hs s := by
  obtain ⟨objects, s₀, h₀, h⟩ := h
  induction h with
  | refl => exact ⟨[], .start h₀⟩
  | tail _ hm ih =>
    obtain ⟨hs, h⟩ := ih
    exact ⟨_, h.move hm⟩

theorem History.reachable (h : History g n hs s) : Reachable g s := by
  induction h with
  | start h => exact ⟨_, _, h, .refl⟩
  | move _ hm ih =>
    obtain ⟨objects, s₀, h₀, h⟩ := ih
    exact ⟨objects, s₀, h₀, h.tail hm⟩

/-- A round by force is still to come: a forced request is pending or made next, or a forced pass
    comes next. -/
def Owes (s : Session) (n : Node) : Prop :=
  (∃ g, s.store.guard? n = some g ∧ g.pendingForce) ∨
    s.agenda.head? = some (.task (.recompute n true)) ∨
    s.agenda.head? = some (.task (.pass n true))

/-- What can become of a node in a move. -/
inductive Becomes (n : Node) (s t : Session) : Prop
  /-- It goes on showing what it shows. -/
  | rest (hh : happening? n s t = none ∨ happening? n s t = some .swap)
      (shown : s.store.Made n → t.store.isDisposed n = false → s.store.isDisposed n = false ∧
        ∀ e, t.store.shown? n = some e → s.store.shown? n = some e)
      (generation : ∀ k, t.store.generation? n = some k →
        s.store.generation? n = some k ∨ ¬ s.store.Made n ∧ k = 0)
      (owes : t.Owes n → s.Owes n ∨ happening? n s t = some .swap)
  /-- A round begins that tells what it shows now. -/
  | round {e₀ e : Event} (hh : happening? n s t = some (.round e))
      (first : ∃ force, s.agenda.head? = some (.task (.pass n force)))
      (hd : s.store.isDisposed n = false) (before : s.store.shown? n = some e₀)
      (after : ∀ e', t.store.shown? n = some e' → e' = e) (hf : s.Owes n ∨ e₀.Differs e)
      (generation : ∀ k, t.store.generation? n = some k →
        (s.store.generation? n).map (· + 1) = some k)
      (owes : ¬ t.Owes n)

theorem swaps_of_task {tk : Task Script} {rest : List Work} (hs : s.agenda = .task tk :: rest) :
    s.swaps n = true ↔ ∃ b p ps, tk = .rebind b (p :: ps) ∧ n = .proxy p ∧
      s.store.isDisposed n = false := by
  unfold swaps
  rw [hs]
  constructor
  · intro h
    split at h
    · next e =>
      cases e
      simp only [Bool.and_eq_true, decide_eq_true_eq, Bool.not_eq_eq_eq_not, Bool.not_true] at h
      exact ⟨_, _, _, rfl, h⟩
    · cases h
  · rintro ⟨b, p, ps, rfl, hn, hd⟩
    simp [hn, hn ▸ hd]

theorem made_of_swaps (h : s.swaps n) : s.store.Made n := by
  unfold swaps at h
  split at h
  · simp only [Bool.and_eq_true, Bool.not_eq_eq_eq_not, Bool.not_true] at h
    exact Store.made_of_not_disposed h.2
  · cases h

theorem rounds_of_agenda (ts : List (Task Script)) {rest : List Work}
    (hs : s.agenda = ts.map .task ++ rest) :
    s.rounds n = (ts ++ rest.filterMap Work.task?).filterMap (Task.round? n) := by
  simp only [rounds, situation, hs, List.filterMap_append, filterMap_task?_map]

/-- Where no round begins, a node is bound to other objects or nothing happens to it. -/
theorem happening?_of_rounds_le (h : (t.rounds n).length ≤ (s.rounds n).length) :
    happening? n s t = none ∨ happening? n s t = some .swap := by
  unfold happening?
  split
  · exact Or.inr rfl
  · rw [if_neg (Nat.not_lt.2 h)]
    exact Or.inl rfl

/-- A round by force is to come after a task only if it was before, or if the task binds the proxy to
    other objects. A pass that comes next leaves none to come. -/
theorem Orderly.owes_of_perform (h : s.Orderly) (hs : s.Sound) {tk : Task Script} {rest : List Work}
    (ha : s.agenda = .task tk :: rest)
    (ht : t.agenda = (tk.perform s.engine.evaluator s.store).2.map .task ++ rest)
    (hu : (tk.perform s.engine.evaluator s.store).1.Changes L t.store) (ho : t.Owes n) :
    s.Owes n ∧ (∀ force, tk ≠ .pass n force) ∨ s.swaps n := by
  have hp := tk.performs s.engine.evaluator s.store
  have ordered := hs.situation.toOrdered
  rw [situation_of_task ha] at ordered
  have held : ∀ {g : Guard}, s.store.guard? n = some g → g.pendingForce →
      s.Owes n ∧ ∀ force, tk ≠ .pass n force := by
    intro g hg hf
    refine ⟨Or.inl ⟨g, hg, hf⟩, ?_⟩
    rintro force rfl
    have := h.calm n force (by rw [ha]; rfl) g hg
    rw [h.even n g hg hf] at this
    cases this
  rcases ho with ⟨g, hg, hf⟩ | hn | hn
  · rcases (Store.spares_of_changes hu).guard? hg with hg | ⟨-, hr⟩
    · rcases hp.guard? ordered hg with hg | ⟨g₀, hg, hd⟩
      · exact Or.inl (held hg hf)
      · rcases hd.pendingForce hf with hf | rfl
        · exact Or.inl (held hg hf)
        · exact Or.inl ⟨Or.inr (Or.inl (by rw [ha]; rfl)), nofun⟩
    · rw [hr.pendingForce] at hf
      cases hf
  · obtain ⟨b, p, ps, rfl, hn, hd⟩ := hp.of_forcedRequest (h.head?_of_urgent ha ht rfl hn)
    exact Or.inr ((swaps_of_task ha).2 ⟨b, p, ps, rfl, hn, hd⟩)
  · rcases hp.of_forcedPass (h.head?_of_urgent ha ht rfl hn) with rfl | ⟨g, hg, hf⟩
    · exact Or.inl ⟨Or.inr (Or.inl (by rw [ha]; rfl)), nofun⟩
    · exact Or.inl (held hg hf)

/-- Where a pass of a node comes next, no round of it is going on, and one that is put first begins. -/
theorem Orderly.rounds_of_pass (h : s.Orderly) {force : Bool} {rest : List Work}
    (ha : s.agenda = .task (.pass n force) :: rest) {new : List (Task Script)}
    (ht : t.agenda = new.map .task ++ rest) :
    s.rounds n = [] ∧ t.rounds n = new.filterMap (Task.round? n) ∧
      happening? n s t = (new.filterMap (Task.round? n)).head?.map .round := by
  have calm : s.swaps n = false := by
    rw [Bool.eq_false_iff]
    intro hs
    obtain ⟨b, p, ps, e, -⟩ := (swaps_of_task ha).1 hs
    cases e
  have staged := h.staged n
  rw [situation_of_task ha, List.filter_cons_of_pos (by simp [Task.concerns])] at staged
  have none : (rest.filterMap Work.task?).filterMap (Task.round? n) = [] := by
    rw [← filterMap_filter_of_isSome (p := Task.concerns n) fun _ => Task.concerns_of_round?]
    exact staged.rounds_of_pass
  have before : s.rounds n = [] := by
    rw [rounds_of_agenda [.pass n force] ha]
    simpa [List.filterMap_cons] using none
  have after : t.rounds n = new.filterMap (Task.round? n) := by
    rw [rounds_of_agenda _ ht, List.filterMap_append, none, List.append_nil]
  refine ⟨before, after, ?_⟩
  cases hn : new.filterMap (Task.round? n) <;> simp [happening?, calm, before, after, hn]

/-- What becomes of a node whose pass comes next. -/
theorem Orderly.becomes_pass (h : s.Orderly) {force : Bool} {rest : List Work}
    (ha : s.agenda = .task (.pass n force) :: rest) {u : Store Script} {new : List (Task Script)}
    (hp : s.store.Passes n force u new) (hd : u.isDisposed n = s.store.isDisposed n)
    (hm : s.store.Made n → u.Made n) (ht : t.agenda = new.map .task ++ rest)
    (hu : u.Changes L t.store) (owes : ¬ t.Owes n) : Becomes n s t := by
  have hsp := Store.spares_of_changes hu
  obtain ⟨-, -, hh⟩ := h.rounds_of_pass ha ht
  cases hp with
  | keep same hg =>
    refine .rest ?_ ?_ ?_ fun ho => absurd ho owes
    · exact Or.inl hh
    · intro hn hdt
      have hds := hd ▸ hsp.isDisposed (hm hn) hdt
      exact ⟨hds, fun e he => same hds ▸ hsp.shown? (hm hn) he⟩
    · intro k hk
      rcases hsp.generation? hk with hk | ⟨hn, hk⟩
      · exact Or.inl (hg ▸ hk)
      · exact Or.inr ⟨fun hn' => hn (hm hn'), hk⟩
  | @tell e₀ e he hd' hs hs' hf hg =>
    have made := Store.made_of_shown? hs
    have told : happening? n s t = some (.round e) := by simp [hh, Store.roundOf, he]
    refine .round told ⟨force, by rw [ha]; rfl⟩ hd' hs ?_ (hf.imp_left ?_) ?_ owes
    · intro e' he'
      exact Option.some.inj ((hsp.shown? (hm made) he').symm.trans hs')
    · rintro rfl
      exact Or.inr (Or.inr (by rw [ha]; rfl))
    · intro k hk
      rcases hsp.generation? hk with hk | ⟨hn, -⟩
      · exact hg ▸ hk
      · exact absurd (hm made) hn

/-- What becomes of a node whose pass does not come next. -/
theorem becomes_of_performs {tk : Task Script} {rest : List Work}
    (ha : s.agenda = .task tk :: rest) {ev : Evaluator} {u : Store Script}
    {new : List (Task Script)} (hp : tk.Performs ev s.store u new) (hk : ∀ force, tk ≠ .pass n force)
    (ht : t.agenda = new.map .task ++ rest) (hu : u.Changes L t.store)
    (owes : t.Owes n → s.Owes n ∨ happening? n s t = some .swap) : Becomes n s t := by
  have hsp := Store.spares_of_changes hu
  refine .rest ?_ ?_ ?_ owes
  · refine happening?_of_rounds_le ?_
    rw [rounds_of_agenda _ ht, rounds_of_agenda [tk] ha]
    exact hp.rounds_le hk
  · intro hn hd
    refine ⟨hp.isDisposed ▸ hsp.isDisposed (hp.made hn) hd, fun e he => ?_⟩
    rw [← hp.shown? hk]
    exact hsp.shown? (hp.made hn) he
  · intro k hk'
    rcases hsp.generation? hk' with hk' | ⟨hn, hk'⟩
    · exact Or.inl (hp.generation? hk ▸ hk')
    · exact Or.inr ⟨fun hn' => hn (hp.made hn'), hk'⟩

/-- What becomes of a node when the next task is performed. -/
theorem Orderly.becomes_perform (h : s.Orderly) (hs : s.Sound) {tk : Task Script} {rest : List Work}
    (ha : s.agenda = .task tk :: rest)
    (ht : t.agenda = (tk.perform s.engine.evaluator s.store).2.map .task ++ rest)
    (hu : (tk.perform s.engine.evaluator s.store).1.Changes L t.store) : Becomes n s t := by
  have hp := tk.performs s.engine.evaluator s.store
  have owes := h.owes_of_perform (n := n) hs ha ht hu
  by_cases hk : ∀ force, tk ≠ .pass n force
  · refine becomes_of_performs ha hp hk ht hu fun ho => (owes ho).imp And.left fun hw => ?_
    rw [happening?, if_pos hw]
  · obtain ⟨force, rfl⟩ := not_forall_not.1 hk
    refine h.becomes_pass ha (Store.passes _ _ _ _) hp.isDisposed hp.made ht hu fun ho => ?_
    rcases owes ho with ⟨-, hk⟩ | hw
    · exact hk force rfl
    · obtain ⟨b, p, ps, e, -⟩ := (swaps_of_task ha).1 hw
      cases e

/-- What becomes of a node when something happens outside the store. -/
theorem Orderly.becomes_ask (h : s.Orderly) {pre ws rest : List Work} (ha : s.agenda = pre ++ rest)
    (outer : ∀ w ∈ s.agenda.head?, w.isOuter) (ht : t.agenda = ws ++ rest)
    (hw : ∀ w ∈ ws, w.IsAsk) (hu : s.store.Changes L t.store) : Becomes n s t := by
  have hsp := Store.spares_of_changes hu
  refine .rest ?_ (fun hn hd => ⟨hsp.isDisposed hn hd, fun e he => hsp.shown? hn he⟩)
    (fun k hk => hsp.generation? hk) ?_
  · refine happening?_of_rounds_le ?_
    have none : (ws.filterMap Work.task?).filterMap (Task.round? n) = [] := by
      rw [List.filterMap_eq_nil_iff]
      intro tk htk
      obtain ⟨w, hm, hk⟩ := List.mem_filterMap.1 htk
      cases w with
      | task tk' =>
        cases hk
        have hc := (hw _ hm : tk.IsAsk).concerns n
        rw [Option.eq_none_iff_forall_ne_some]
        intro e he
        rw [Task.concerns_of_round? (by rw [he]; rfl)] at hc
        cases hc
      | script | reply => cases hk
    simp only [rounds, situation, ha, ht, List.filterMap_append, none, List.nil_append,
      List.length_append]
    exact Nat.le_add_left _ _
  · intro ho
    have late : ∀ w, t.agenda.head? = some w → w.isUrgent = false :=
      fun w hm => h.not_urgent ha outer hw w (ht ▸ List.mem_of_head? hm)
    rcases ho with ⟨g, hg, hf⟩ | hn | hn
    · rcases hsp.guard? hg with hg | ⟨-, hr⟩
      · exact Or.inl (Or.inl ⟨g, hg, hf⟩)
      · rw [hr.pendingForce] at hf
        cases hf
    · cases late _ hn
    · cases late _ hn

/-- What becomes of a node in a move. -/
theorem Orderly.becomes (h : s.Orderly) (hs : s.Sound) (hm : s.Move t) (n : Node) :
    Becomes n s t := by
  cases hm.turn with
  | perform ha _ ht hu => exact h.becomes_perform hs ha ht hu
  | ask ha _ outer ht hw hu => exact h.becomes_ask ha outer ht (fun w hm => (hw w hm).1) hu

/-! ## Histories -/

/-- A history accounts for a node in a session. -/
structure Accounts (n : Node) (hs : List Happening) (s : Session) : Prop where
  /-- What has not been made has no history. -/
  fresh : ¬ s.store.Made n → hs = []
  /-- Where a round by force is to come, the proxy has been bound to other objects since the latest
      round. -/
  owed : s.Owes n → hs.head? = some .swap
  /-- What is not disposed of shows what the latest round told. -/
  latest : s.store.isDisposed n = false → ∀ e, (hs.filterMap Happening.round?).head? = some e →
    ∀ e', s.store.shown? n = some e' → e' = e
  varied : hs.IsChain Happening.Varies
  counted : ∀ k, s.store.generation? n = some k → k = (hs.filterMap Happening.round?).length

/-- Only what has been made is bound to other objects. -/
theorem made_of_happening? (h : happening? n s t = some .swap) : s.store.Made n := by
  unfold happening? at h
  split at h
  · next hs => exact made_of_swaps hs
  · split at h
    · obtain ⟨e, -, he⟩ := Option.map_eq_some_iff.1 h
      cases he
    · cases h

theorem Accounts.rest (h : Accounts n hs s) {x : Option Happening}
    (hx : x = none ∨ x = some .swap ∧ s.store.Made n)
    (made : s.store.Made n → t.store.Made n)
    (shown : s.store.Made n → t.store.isDisposed n = false → s.store.isDisposed n = false ∧
      ∀ e, t.store.shown? n = some e → s.store.shown? n = some e)
    (generation : ∀ k, t.store.generation? n = some k →
      s.store.generation? n = some k ∨ ¬ s.store.Made n ∧ k = 0)
    (owes : t.Owes n → s.Owes n ∨ x = some .swap) : Accounts n (x.toList ++ hs) t := by
  have rounds : (x.toList ++ hs).filterMap Happening.round? = hs.filterMap Happening.round? := by
    rcases hx with rfl | ⟨rfl, -⟩ <;> rfl
  have new : ¬ s.store.Made n → x.toList ++ hs = [] := by
    intro hn
    rcases hx with rfl | ⟨-, hm⟩
    · exact h.fresh hn
    · exact absurd hm hn
  refine ⟨fun hn => new fun hm => hn (made hm), ?owed, ?latest, ?varied, ?counted⟩
  case owed =>
    intro ho
    rcases hx with rfl | ⟨rfl, -⟩
    · exact h.owed ((owes ho).resolve_right nofun)
    · rfl
  case latest =>
    intro hd e he e' he'
    rw [rounds] at he
    by_cases hn : s.store.Made n
    · obtain ⟨hds, shown⟩ := shown hn hd
      exact h.latest hds e he e' (shown e' he')
    · rw [h.fresh hn] at he
      cases he
  case varied =>
    rcases hx with rfl | ⟨rfl, -⟩
    · exact h.varied
    · cases hs with
      | nil => exact .singleton _
      | cons y hs => exact .cons_cons trivial h.varied
  case counted =>
    intro k hk
    rw [rounds]
    rcases generation k hk with hk | ⟨hn, rfl⟩
    · exact h.counted k hk
    · rw [h.fresh hn]
      rfl

theorem Accounts.round (h : Accounts n hs s) {e₀ e : Event}
    (made : s.store.Made n → t.store.Made n) (hd : s.store.isDisposed n = false)
    (before : s.store.shown? n = some e₀) (after : ∀ e', t.store.shown? n = some e' → e' = e)
    (hf : s.Owes n ∨ e₀.Differs e)
    (generation : ∀ k, t.store.generation? n = some k →
      (s.store.generation? n).map (· + 1) = some k)
    (owes : ¬ t.Owes n) : Accounts n (.round e :: hs) t where
  fresh hn := absurd (made (Store.made_of_not_disposed hd)) hn
  owed ho := absurd ho owes
  latest _ e' he' e'' he'' := by
    cases he'
    exact after e'' he''
  varied := by
    cases hs with
    | nil => exact .singleton _
    | cons y hs =>
      refine .cons_cons ?_ h.varied
      cases y with
      | swap => trivial
      | round e' =>
        rcases hf with ho | hf
        · cases h.owed ho
        · obtain rfl := h.latest hd e' rfl e₀ before
          exact hf
  counted k hk := by
    obtain ⟨k', hk', rfl⟩ := Option.map_eq_some_iff.1 (generation k hk)
    exact congrArg (· + 1) (h.counted k' hk')

theorem Accounts.becomes (h : Accounts n hs s) (made : s.store.Made n → t.store.Made n)
    (hb : Becomes n s t) : Accounts n ((happening? n s t).toList ++ hs) t := by
  cases hb with
  | rest hh shown generation owes =>
    exact h.rest (hh.imp_right fun e => ⟨e, made_of_happening? e⟩) made shown generation owes
  | round hh _ hd before after hf generation owes =>
    rw [hh]
    exact h.round made hd before after hf generation owes

/-- What has been made stays so. -/
theorem Onward.made (h : s.Onward t) (hn : s.store.Made n) : t.store.Made n := by
  cases n with
  | proxy p => exact Nat.lt_of_lt_of_le hn h.later.proxies.next
  | validator v => exact Nat.lt_of_lt_of_le hn h.later.validators.next

theorem History.accounts (h : History g n hs s) : Accounts n hs s := by
  induction h with
  | @start objects s h =>
    have none := guard?_withObjects h
    refine ⟨fun _ => rfl, ?_, fun _ _ he => by (cases he), .nil, ?_⟩
    · rintro (⟨k, hk, -⟩ | hn | hn)
      · rw [none] at hk
        cases hk
      all_goals
        rw [agenda_withObjects h] at hn
        cases hn
    · intro k hk
      cases n with
      | validator v => cases hk
      | proxy p =>
        obtain ⟨x, hx, -⟩ := Option.map_eq_some_iff.1 hk
        have := none (.proxy p)
        rw [Store.guard?, hx] at this
        cases this
  | move h hm ih =>
    have hr := h.reachable
    exact ih.becomes (hr.sound.move hm).made (hr.orderly.becomes hr.sound hm n)

/-- Changes of a node are told one after the other, and truthfully. -/
structure Serial (n : Node) (hs : List Happening) (s : Session) : Prop where
  /-- Rounds never nest. -/
  single : (s.rounds n).length ≤ 1
  /-- A listener is told what the round in progress tells. -/
  within : ∀ e ∈ s.calls n, s.rounds n = [e]
  /-- Throughout a round the node shows what is told. -/
  shown : ∀ e ∈ s.rounds n, s.store.shown? n = some e
  /-- A handler that is called is handed what the node shows, and so are its commands. -/
  handed : ∀ x e rest, e.node? = some n → s.agenda = .task (.call (.handler x) e) :: rest →
    s.store.shown? n = some e ∧ s.step.log = .told x.id (s.noticeOf e).1 :: s.log ∧
      s.step.agenda = .script x.id (s.noticeOf e).2 x.actions :: rest
  /-- No move makes a node show something else but one that begins the round that tells so. -/
  told : ∀ t, s.Move t → s.store.Made n → t.store.isDisposed n = false →
    ∀ e, t.store.shown? n = some e →
      s.store.shown? n = some e ∨ happening? n s t = some (.round e)
  /-- A node shows what the latest round told. -/
  latest : s.store.isDisposed n = false → ∀ e, (hs.filterMap Happening.round?).head? = some e →
    s.store.shown? n = some e
  /-- If two rounds come one after the other, the later one tells something else. -/
  varied : hs.IsChain Happening.Varies
  /-- Only a round by force may tell what the node has shown before. -/
  forced : ∀ t, s.Move t → ∀ e₀ e, s.store.shown? n = some e₀ →
    happening? n s t = some (.round e) → e₀.Differs e ∨ s.Owes n
  /-- Where a round by force is to come, the proxy has been bound to other objects since the latest
      round. -/
  owed : s.Owes n → hs.head? = some .swap
  /-- A proxy counts its rounds. -/
  counted : ∀ p x, n = .proxy p → s.store.proxy? p = some x →
    x.generation = (hs.filterMap Happening.round?).length

/-- Whatever happens, the rounds of a node do not nest, come with every change of what it shows and
    tell that, and tell something else each time but for those made because the proxy has been bound
    to other objects; and a proxy counts them. -/
theorem History.serial (h : History g n hs s) : Serial n hs s := by
  have hr := h.reachable
  have acc := h.accounts
  have staged := hr.orderly.staged n
  have rounds : (s.situation.tasks.filter (Task.concerns n)).filterMap (Task.round? n) = s.rounds n :=
    filterMap_filter_of_isSome (fun _ => Task.concerns_of_round?) _
  have calls : (s.situation.tasks.filter (Task.concerns n)).filterMap (Task.call? n) = s.calls n :=
    filterMap_filter_of_isSome (fun _ => Task.concerns_of_call?) _
  have within : ∀ e ∈ s.calls n, s.rounds n = [e] := fun e he => by
    rw [← rounds]
    exact staged.calls (calls ▸ he)
  have shown : ∀ e ∈ s.rounds n, s.store.shown? n = some e := by
    intro e he
    rcases rounds ▸ staged.rounds with hl | ⟨e', hl, hv⟩
    · rw [hl] at he
      cases he
    · obtain ⟨tk, htk, hk⟩ := List.mem_filterMap.1 he
      have alive : s.store.Alive n.entity := hr.sound.situation.alive _
        (Or.inr (Or.inl ⟨tk, htk, Task.entity_of_round? hk⟩))
      obtain ⟨e'', he''⟩ := Option.isSome_iff_exists.1 (Store.isSome_shown?_iff.2 alive)
      rw [hl, List.mem_singleton] at he
      rw [he'', he, hv e'' he'']
  refine ⟨?single, within, shown, ?handed, ?told, ?latest, acc.varied, ?forced, acc.owed, ?counted⟩
  case single =>
    rcases rounds ▸ staged.rounds with hl | ⟨e, hl, -⟩ <;> simp [hl]
  case handed =>
    intro x e rest he ha
    have next : .call (.handler x) e ∈ s.situation.tasks :=
      List.mem_filterMap.2 ⟨_, ha ▸ List.mem_cons_self, rfl⟩
    have called : e ∈ s.calls n := List.mem_filterMap.2 ⟨_, next, if_pos he⟩
    exact ⟨shown e (within e called ▸ List.mem_singleton_self e), step_call ha⟩
  case told =>
    intro t hm hn hd e he
    cases hr.orderly.becomes hr.sound hm n with
    | rest _ shown => exact Or.inl ((shown hn hd).2 e he)
    | round hh _ _ _ after =>
      obtain rfl := after e he
      exact Or.inr hh
  case latest =>
    intro hd e he
    obtain ⟨e', he'⟩ := Store.shown?_isSome hd
    rw [he', acc.latest hd e he e' he']
  case forced =>
    intro t hm e₀ e he₀ he
    cases hr.orderly.becomes hr.sound hm n with
    | rest hh => rcases hh with hh | hh <;> simp [hh] at he
    | round hh _ _ before _ hf =>
      obtain rfl := Option.some.inj (he₀.symm.trans before)
      obtain rfl := Happening.round.inj (Option.some.inj (he.symm.trans hh))
      exact hf.symm
  case counted =>
    rintro p x rfl hx
    exact acc.counted _ (by simp [Store.generation?, hx])

theorem Reachable.move (h : Reachable g s) (hm : s.Move t) : Reachable g t := h.moves (.single hm)

theorem Reachable.after (h : Reachable g s) (m : Nat) : Reachable g (s.after m) := by
  induction m generalizing s with
  | zero => exact h
  | succ m ih => exact ih (h.move (.step s))

/-- To give a command and do some of the work that follows is one way to go on. -/
theorem Reachable.initiated (h : Reachable g s) (idle : s.agenda = []) (c : Command) :
    Reachable g (s.initiated c) := h.move (.give c (.caller idle))

/-- The third round of a proxy whose listener sets what the proxy reads, and then binds the proxy to
    another object where it reads the same. -/
theorem serial_third : ∃ hs s, History (.ofConfiguration .testing .empty) (.proxy ⟨0⟩) hs s ∧
    (∃ e, s.rounds (.proxy ⟨0⟩) = [e] ∧ s.store.shown? (.proxy ⟨0⟩) = some e) ∧
    (hs.filterMap Happening.round?).length = 3 ∧ Serial (.proxy ⟨0⟩) hs s := by
  have run : ((trial (.ofConfiguration .testing .empty) 20
      [("a", [("x", .value (.integer 1))]), ("b", [("x", .value (.integer 3))])]
      [.bind "p" "\x7bBinding x\x7d" none ⟨some "a", none⟩,
        .listen "p" true (.mk "h" [.mk (some (.value (.integer 2))) (.set "a" "x" (.eventPlus 1)),
          .mk (some (.value (.integer 3))) (.setModel "p" "b"),
          .mk (some (.value (.integer 3))) (.unlisten "h")])]).map fun s =>
        (s.initiated (.set "a" "x" (.value (.integer 2)))).after 32).any (fun s =>
          decide ((s.rounds (.proxy ⟨0⟩)).length = 1 ∧
            (s.store.proxy? ⟨0⟩).map (fun x => x.generation) = some 3)) = true := by
    decide +kernel
  obtain ⟨s, hs, hx⟩ := (Option.any_eq_true _ _).1 run
  obtain ⟨s₁, h₁, rfl⟩ := Option.map_eq_some_iff.1 hs
  obtain ⟨h, idle⟩ := reachable_of_trial h₁
  obtain ⟨single, count⟩ := of_decide_eq_true hx
  obtain ⟨hs, history⟩ := ((h.initiated idle _).after 32).history (.proxy ⟨0⟩)
  have serial := history.serial
  obtain ⟨e, he⟩ := List.length_eq_one_iff.1 single
  obtain ⟨x, hx, hk⟩ := Option.map_eq_some_iff.1 count
  refine ⟨hs, _, history, ⟨e, he, serial.shown e (by simp [he])⟩, ?_, serial⟩
  rw [← serial.counted ⟨0⟩ x rfl hx, hk]

end Session

end LiveForm
