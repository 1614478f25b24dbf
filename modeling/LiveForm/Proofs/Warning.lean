/-
  Warnings of runs that were cut off.

  A node keeps how its last run ended, and the warning of the last run that was cut off. The second
  is not taken back when a later run settles, so the two may be about different runs.

  * `Store.account?`: what a node keeps of its runs, and the warning that it gives;
  * `Task.Performs.account?` and `Store.Changes.account?`: only the end of a run adds to an account;
  * `Session.Record`: how the runs of a node have ended until a session came about;
  * `Record.warns`: a node keeps the end of its last run, and the warning of the last one that was
    cut off, whatever has happened.
-/
import LiveForm.Proofs.Serial

namespace LiveForm

variable {H : Type}

/-! ## Accounts -/

/-- What a node keeps of its runs, and how it warns of a run that was cut off after some passes. -/
structure Account where
  lastRun : Option RunOutcome
  diagnostic : Option Diagnostic
  warning : Nat → Diagnostic

/-- The account after one more run. -/
def Account.note (o : RunOutcome) (a : Account) : Account where
  lastRun := some o
  diagnostic := (o.cutOff?.map a.warning).orElse fun _ => a.diagnostic
  warning := a.warning

/-- The account of runs that ended in these ways, the latest first: how the latest run ended, and
    the warning of the latest one that was cut off. -/
structure Account.Tells (a : Account) (os : List RunOutcome) : Prop where
  lastRun : a.lastRun = os.head?
  diagnostic : a.diagnostic = (os.findSome? RunOutcome.cutOff?).map a.warning

theorem Account.Tells.note {a : Account} {os : List RunOutcome} (h : a.Tells os) (o : RunOutcome) :
    (a.note o).Tells (o :: os) where
  lastRun := rfl
  diagnostic := by
    rw [List.findSome?_cons]
    cases ho : o.cutOff? with
    | none => simpa [Account.note, ho] using h.diagnostic
    | some k => simp [Account.note, ho]

def ProxyState.account (x : ProxyState H) : Account :=
  ⟨x.lastRun, x.diagnostic, Store.proxyWarning x.source⟩

def ValidatorState.account (x : ValidatorState H) : Account :=
  ⟨x.lastRun, x.diagnostic, Store.validatorWarning⟩

/-- The end of a run. -/
def Guard.Next.outcome? : Guard.Next → Option RunOutcome
  | .stop o => some o
  | _ => none

/-- How a run of a node ends by a task, if it does. -/
def Task.ending? (s : Store H) (n : Node) : Task H → Option RunOutcome
  | .settle m k => if m = n then (s.guard? n).bind fun g => (g.afterPass k).2.outcome? else none
  | .settleExtra m k => if m = n then (s.guard? n).map fun g => (g.afterExtra k).2 else none
  | _ => none

namespace Store

variable {L : Licence H} {s t u : Store H} {n m : Node}

def account? (s : Store H) : Node → Option Account
  | .proxy p => (s.proxy? p).map ProxyState.account
  | .validator v => (s.validator? v).map ValidatorState.account

theorem account?_setGuard (s : Store H) (m n : Node) (g : Guard) :
    (s.setGuard m g).account? n = s.account? n := by
  cases m <;> cases n <;>
    first
    | rfl
    | exact map_proxy?_modifyProxy fun _ _ => rfl
    | exact map_validator?_modifyValidator fun _ _ => rfl

theorem account?_noteOutcome (s : Store H) (m n : Node) (o : RunOutcome) :
    (s.noteOutcome m o).account? n =
      if m = n then (s.account? n).map (Account.note o) else s.account? n := by
  cases m with
  | proxy p => cases n with
    | proxy q =>
      rw [account?, noteOutcome, proxy?_modifyProxy]
      by_cases h : q = p
      · subst h
        simp only [account?, if_true, Option.map_map]
        rfl
      · simp [h, Ne.symm h, account?]
    | validator v => rfl
  | validator v => cases n with
    | proxy p => rfl
    | validator w =>
      rw [account?, noteOutcome, validator?_modifyValidator]
      by_cases h : w = v
      · subst h
        simp only [account?, if_true, Option.map_map]
        rfl
      · simp [h, Ne.symm h, account?]

end Store

section

variable {ev : Evaluator} {s u : Store H} {tk : Task H} {new : List (Task H)} {n : Node}

/-- To perform a task adds to the account of a node the run that the task ends. -/
theorem Task.Performs.account? (h : tk.Performs ev s u new) :
    u.account? n = (tk.ending? s n).elim (s.account? n) fun o => (s.account? n).map (.note o) := by
  have settle : ∀ {m : Node} {k : Nat} {g : Guard}, s.guard? m = some g →
      (settle m k : Task H).ending? s n = if m = n then (g.afterPass k).2.outcome? else none := by
    intro m k g hg
    by_cases hm : m = n
    · subst hm
      simp [ending?, hg]
    · simp [ending?, hm]
  cases h with
  | close | tell | miss | heed | ignore | refuse | keep | bound | pass => rfl
  | @gone m _ hg | @goneExtra m _ hg =>
    by_cases hm : m = n
    · subst hm
      simp [ending?, hg]
    · simp [ending?, hm]
  | follow => cases n with
    | proxy q => exact Store.map_proxy?_follow (fun _ _ => rfl) ..
    | validator v =>
      show (Store.validator? _ _).map _ = _
      rw [Store.validator?, Store.validators_follow]
      rfl
  | bind => cases n with
    | proxy q => exact Store.map_proxy?_bindProxy (fun _ _ => rfl) (fun _ _ => rfl) ..
    | validator v =>
      show (Store.validator? _ _).map _ = _
      rw [Store.validator?, Store.validators_bindProxy]
      rfl
  | update => cases n with
    | proxy q => exact Store.map_proxy?_modifyProxy fun _ _ => rfl
    | validator v => rfl
  | judge => cases n with
    | proxy q => rfl
    | validator v => exact Store.map_validator?_modifyValidator fun _ _ => rfl
  | request => exact s.account?_setGuard ..
  | again hg hp | extra hg hp =>
    rw [s.account?_setGuard, settle hg, hp]
    simp [Guard.Next.outcome?]
  | @stop m _ _ _ o hg hp =>
    rw [Store.account?_noteOutcome, s.account?_setGuard, settle hg, hp]
    by_cases hm : m = n <;> simp [hm, Guard.Next.outcome?]
  | @stopExtra m _ _ hg =>
    rw [Store.account?_noteOutcome, s.account?_setGuard]
    by_cases hm : m = n
    · subst hm
      simp [ending?, hg]
    · simp [hm, ending?]

end

/-! ## Changes that tell nobody -/

namespace Store

variable {L : Licence H} {s t : Store H} {n : Node}

/-- The account of a node is the one that it had, or the node is new and has not run. -/
def AccountKept (s : Store H) (n : Node) (a : Account) : Prop :=
  s.account? n = some a ∨ ¬s.Made n ∧ a.Tells []

/-- The accounts of all nodes are kept. -/
def accountsKept (s : Store H) : Trait H where
  objects := 0
  proxies := s.proxies.next
  validators := s.validators.next
  object _ _ := True
  proxy p x := s.AccountKept (.proxy p) x.account
  validator v x := s.AccountKept (.validator v) x.account

theorem stable_accountsKept (s : Store H) : (s.accountsKept).Stable L where
  newObject _ _ _ := trivial
  setProperty _ _ _ _ _ _ _ := trivial
  removeProperty _ _ _ _ _ := trivial
  subscribe _ _ _ _ := trivial
  attach _ _ _ := trivial
  unsubscribe _ _ := trivial
  newProxy _ _ _ _ hp := Or.inr ⟨Nat.not_lt.2 hp, rfl, rfl⟩
  subscriptions _ h := h
  listen _ _ h := h
  hear _ h := h
  unlisten _ h := h
  disposeProxy _ _ _ h := h
  clear h := h
  newValidator _ _ _ _ hv := Or.inr ⟨Nat.not_lt.2 hv, rfl, rfl⟩
  notes _ h := h
  watch _ _ h := h
  unwatch _ h := h
  disposeValidator _ _ _ h := h
  clearValidator h := h

/-- Changes that tell nobody leave the accounts alone. -/
theorem Changes.account? (h : s.Changes L t) {a : Account} (ha : t.account? n = some a) :
    s.AccountKept n a := by
  have kept : s.All s.accountsKept :=
    { objects := Nat.zero_le _
      object := fun _ _ _ => trivial
      proxies := Nat.le_refl _
      proxy := fun p x hx => Or.inl (by simp [Store.account?, hx])
      validators := Nat.le_refl _
      validator := fun v x hx => Or.inl (by simp [Store.account?, hx]) }
  have kept := kept.changes (stable_accountsKept s) h
  cases n with
  | proxy p =>
    obtain ⟨x, hx, rfl⟩ := Option.map_eq_some_iff.1 ha
    exact kept.proxy p x hx
  | validator v =>
    obtain ⟨x, hx, rfl⟩ := Option.map_eq_some_iff.1 ha
    exact kept.validator v x hx

end Store

/-! ## Records -/

namespace Session

variable {g : Engine} {s t : Session} {n : Node} {os : List RunOutcome}

/-- How a run of a node ends with the next piece of work, if it does. -/
def ending? (n : Node) (s : Session) : Option RunOutcome :=
  match s.agenda with
  | .task tk :: _ => tk.ending? s.store n
  | _ => none

/-- How the runs of a node have ended until a session came about, the latest first. -/
inductive Record (g : Engine) (n : Node) : List RunOutcome → Session → Prop
  | start {objects : List (String × List (String × Operand))} {s : Session}
      (h : (ofEngine g).withObjects objects = .ok s) : Record g n [] s
  | move {os : List RunOutcome} {s t : Session} (h : Record g n os s) (hm : s.Move t) :
      Record g n ((s.ending? n).toList ++ os) t

/-- Every session that comes about has a record of each node. -/
theorem Reachable.record (h : Reachable g s) (n : Node) : ∃ os, Record g n os s := by
  obtain ⟨objects, s₀, h₀, h⟩ := h
  induction h with
  | refl => exact ⟨[], .start h₀⟩
  | tail _ hm ih =>
    obtain ⟨os, h⟩ := ih
    exact ⟨_, h.move hm⟩

theorem Record.reachable (h : Record g n os s) : Reachable g s := by
  induction h with
  | start h => exact ⟨_, _, h, .refl⟩
  | move _ hm ih => exact ih.move hm

/-- A node that has not been made has no record, and one that is there keeps account of it. -/
structure Accounted (n : Node) (os : List RunOutcome) (s : Session) : Prop where
  unmade : ¬s.store.Made n → os = []
  account : ∀ a, s.store.account? n = some a → a.Tells os

theorem ending?_eq_none (hn : ¬s.store.Made n) : s.ending? n = none := by
  have none : s.store.guard? n = none :=
    Option.eq_none_iff_forall_ne_some.2 fun k hk => hn (Store.made_of_guard? hk)
  unfold ending?
  split
  · next tk _ _ => cases tk <;> simp [Task.ending?, none]
  · rfl

/-- What a node keeps of its runs is still right after a move. -/
theorem Accounted.turn {L : Licence Script} (h : Accounted n os s)
    (made : s.store.Made n → t.store.Made n) (ht : s.Turn L t) :
    Accounted n ((s.ending? n).toList ++ os) t := by
  have unmade : ¬s.store.Made n → (s.ending? n).toList ++ os = [] := by
    intro hn
    rw [ending?_eq_none hn, h.unmade hn]
    rfl
  refine ⟨fun hn => unmade (mt made hn), fun a ha => ?_⟩
  cases ht with
  | @perform tk rest hs _ _ hu =>
    have hp := tk.performs s.engine.evaluator s.store
    have hend : s.ending? n = tk.ending? s.store n := by rw [ending?, hs]
    rcases hu.account? ha with ha | ⟨hn, ha⟩
    · rw [hp.account?, ← hend] at ha
      cases ho : s.ending? n with
      | none =>
        rw [ho] at ha
        exact h.account a ha
      | some o =>
        rw [ho] at ha
        obtain ⟨a₀, ha₀, rfl⟩ := Option.map_eq_some_iff.1 ha
        exact (h.account a₀ ha₀).note o
    · rw [unmade (mt hp.made hn)]
      exact ha
  | ask _ _ outer _ _ hu =>
    have hend : s.ending? n = none := by
      unfold ending?
      split
      · next tk _ hs =>
        obtain ⟨script, e, rfl⟩ := eq_call_of_outer (outer (.task tk) (by rw [hs]; rfl))
        rfl
      · rfl
    rcases hu.account? ha with ha | ⟨hn, ha⟩
    · rw [hend]
      exact h.account a ha
    · rw [unmade hn]
      exact ha

theorem Record.accounted (h : Record g n os s) : Accounted n os s := by
  induction h with
  | @start objects s h =>
    refine ⟨fun _ => rfl, fun a ha => ?_⟩
    have none := guard?_withObjects h n
    cases n with
    | proxy p =>
      obtain ⟨x, hx, -⟩ := Option.map_eq_some_iff.1 ha
      simp [Store.guard?, hx] at none
    | validator v =>
      obtain ⟨x, hx, -⟩ := Option.map_eq_some_iff.1 ha
      simp [Store.guard?, hx] at none
  | move h hm ih => exact ih.turn (h.reachable.sound.move hm).made hm.turn

/-- Whatever happens, a node keeps how its last run ended, and it has a warning if one of its runs
    was cut off: that of the latest one that was. -/
theorem Record.warns (h : Record g n os s) {a : Account} (ha : s.store.account? n = some a) :
    a.lastRun = os.head? ∧ a.diagnostic = (os.findSome? RunOutcome.cutOff?).map a.warning ∧
      (a.diagnostic.isSome ↔ ∃ k, .cutOff k ∈ os) := by
  obtain ⟨hlast, hwarning⟩ := h.accounted.account a ha
  refine ⟨hlast, hwarning, ?_⟩
  rw [hwarning, Option.isSome_map, List.findSome?_isSome_iff]
  constructor
  · rintro ⟨o, ho, hk⟩
    cases o with
    | cutOff k => exact ⟨k, ho⟩
    | _ => cases hk
  · rintro ⟨k, hk⟩
    exact ⟨_, hk, rfl⟩

/-- A proxy whose listener sets what the proxy reads, and a validator whose watcher sets what a rule
    compares with, once each. They may have one pass each, so both runs are cut off, and the next
    ones settle. -/
theorem settled_after_cutOff : ∃ s x y, Reachable (.ofConfiguration .testing .empty) s ∧
    s.agenda = [] ∧ s.store.proxy? ⟨0⟩ = some x ∧ x.lastRun = some (.settled 1) ∧
    x.diagnostic = some (Store.proxyWarning x.source 1) ∧ s.store.validator? ⟨0⟩ = some y ∧
    y.lastRun = some (.settled 1) ∧ y.diagnostic = some (Store.validatorWarning 1) := by
  have run : (trial (.ofConfiguration .testing .empty) 60
      [("m", [("x", .value (.integer 1)), ("max", .value (.integer 10))])]
      [.bind "p" "\x7bBinding x\x7d" (some 1) ⟨some "m", none⟩,
        .listen "p" true (.mk "h"
          [.mk (some (.value (.integer 2))) (.set "m" "x" (.value (.integer 3)))]),
        .bind "f" "\x7bBinding x\x7d" none ⟨some "m", none⟩,
        .bind "a" "\x7bBinding max\x7d" none ⟨some "m", none⟩,
        .newValidator "v" "f" [⟨.lessThan, some (.proxy "a"), none, some (.fixed "big"),
          .runComparator, false, false, none⟩] (some 1),
        .watch "v" (.mk "w" [.mk none (.set "m" "max" (.value (.integer 30)))]),
        .set "m" "x" (.value (.integer 2)), .set "m" "x" (.value (.integer 20)),
        .set "m" "x" (.value (.integer 25))]).any (fun s =>
      (s.store.proxy? ⟨0⟩).any (fun x => decide (x.lastRun = some (.settled 1) ∧
        x.diagnostic = some (Store.proxyWarning x.source 1))) &&
      (s.store.validator? ⟨0⟩).any fun y => decide (y.lastRun = some (.settled 1) ∧
        y.diagnostic = some (Store.validatorWarning 1))) = true := by
    decide +kernel
  obtain ⟨s, hs, hp⟩ := (Option.any_eq_true _ _).1 run
  obtain ⟨hx, hy⟩ := Bool.and_eq_true_iff.1 hp
  obtain ⟨x, hx, hpx⟩ := (Option.any_eq_true _ _).1 hx
  obtain ⟨y, hy, hpy⟩ := (Option.any_eq_true _ _).1 hy
  obtain ⟨h, idle⟩ := reachable_of_trial hs
  obtain ⟨hx₁, hx₂⟩ := of_decide_eq_true hpx
  obtain ⟨hy₁, hy₂⟩ := of_decide_eq_true hpy
  exact ⟨s, x, y, h, idle, hx, hx₁, hx₂, hy, hy₁, hy₂⟩

theorem warns_settled_after_cutOff : ∃ os s a,
    Record (.ofConfiguration .testing .empty) (.proxy ⟨0⟩) os s ∧
    s.store.account? (.proxy ⟨0⟩) = some a ∧ a.lastRun = os.head? ∧
    a.diagnostic = (os.findSome? RunOutcome.cutOff?).map a.warning ∧
    (a.diagnostic.isSome ↔ ∃ k, .cutOff k ∈ os) := by
  obtain ⟨s, x, -, h, -, hx, -⟩ := settled_after_cutOff
  obtain ⟨os, h⟩ := h.record (.proxy ⟨0⟩)
  have ha : s.store.account? (.proxy ⟨0⟩) = some x.account := by rw [Store.account?, hx]; rfl
  exact ⟨os, s, x.account, h, ha, h.warns ha⟩

/-- The warning of a proxy and that of a validator outlast runs that settle. -/
theorem warning_outlasts_settled :
    (∃ os s x, Record (.ofConfiguration .testing .empty) (.proxy ⟨0⟩) os s ∧ s.agenda = [] ∧
      s.store.proxy? ⟨0⟩ = some x ∧ os.head? = some (.settled 1) ∧ x.diagnostic.isSome) ∧
    ∃ os s y, Record (.ofConfiguration .testing .empty) (.validator ⟨0⟩) os s ∧ s.agenda = [] ∧
      s.store.validator? ⟨0⟩ = some y ∧ os.head? = some (.settled 1) ∧ y.diagnostic.isSome := by
  obtain ⟨s, x, y, h, idle, hx, hx₁, hx₂, hy, hy₁, hy₂⟩ := settled_after_cutOff
  constructor
  · obtain ⟨os, h⟩ := h.record (.proxy ⟨0⟩)
    have ha : s.store.account? (.proxy ⟨0⟩) = some x.account := by rw [Store.account?, hx]; rfl
    exact ⟨os, s, x, h, idle, hx, (h.accounted.account _ ha).lastRun ▸ hx₁, by rw [hx₂]; rfl⟩
  · obtain ⟨os, h⟩ := h.record (.validator ⟨0⟩)
    have ha : s.store.account? (.validator ⟨0⟩) = some y.account := by rw [Store.account?, hy]; rfl
    exact ⟨os, s, y, h, idle, hy, (h.accounted.account _ ha).lastRun ▸ hy₁, by rw [hy₂]; rfl⟩

end Session

end LiveForm
