/-
  What rules say of a value.

  The rules of a validator are run one after the other, and whether a rule is run depends on the result
  that those before it have given. What comes out is nevertheless told by the rules alone: each of them,
  run on its own, fails with a message or does not.

  A rule asks its policy about a value that is null after the conversion, so it is not the nullness of
  the field that counts. A converter that makes a text of null, or that fails, sets the two apart.

  * `Rule.validate_of_first`: the result where a rule is the first one that fails;
  * `Rule.Aggregates` and `Rule.validate_aggregates`: how the result comes from the rules. Order and
    strictness have no say in validity, and more strictness gives more messages;
  * `Rule.DecidedByPolicy` and `Rule.IgnoresPolicy`: the two things that a policy can be to a value;
  * `Rule.outcome_of_policy`: which one it is, and that it is as the field value would have it exactly
    if the conversion keeps null apart from what is not.
-/
import Mathlib.Data.List.Forall2
import Mathlib.Data.List.Perm.Basic
import LiveForm.Filter.Standard
import LiveForm.Validation.Rule

namespace LiveForm

/-- The message of a rule that has failed. -/
def RuleOutcome.message? : RuleOutcome → Option String
  | .failed message => some message
  | .passed | .skipped => none

namespace Rule

variable {α : Type} {c : Culture} {read : α → Value} {v : Value} {r r' : Rule α}
  {rules rules' : List (Rule α)} {result result' : ValidationResult}

/-! ## One rule -/

/-- The message that the rule fails with when it is run on its own. -/
def failure? (c : Culture) (read : α → Value) (v : Value) (r : Rule α) : Option String :=
  (r.outcome c read v).message?

theorem failure?_eq_some {message : String} :
    r.failure? c read v = some message ↔ r.outcome c read v = .failed message := by
  unfold failure?
  cases r.outcome c read v <;> simp [RuleOutcome.message?]

theorem failure?_eq_none :
    r.failure? c read v = none ↔ ∀ message, r.outcome c read v ≠ .failed message := by
  simp only [Option.eq_none_iff_forall_not_mem, Option.mem_def, failure?_eq_some, ne_eq]

/-- The same rule, to be run only as long as no other one has failed. -/
def lenient (r : Rule α) : Rule α := { r with strict := false }

/-- How strict a rule is tells when it is run, not what it says. -/
theorem failure?_lenient : r.lenient.failure? c read v = r.failure? c read v := rfl

/-! ## Rules one after the other -/

theorem validateAfter_of_passing (h : r.failure? c read v = none) :
    validateAfter c read v result r = result := by
  unfold failure? at h
  unfold validateAfter
  cases ho : r.outcome c read v <;> simp [ho, RuleOutcome.message?] at h ⊢

theorem validateAfter_of_failing {message : String} (h : r.failure? c read v = some message) :
    validateAfter c read v result r =
      if result.isValid || r.strict then result.fail message else result := by
  simp only [validateAfter, failure?_eq_some.1 h]
  cases result.isValid <;> cases r.strict <;> rfl

/-- Rules that would not fail on their own leave the result as it is. -/
theorem foldl_of_passing (h : ∀ r ∈ rules, r.failure? c read v = none) :
    rules.foldl (validateAfter c read v) result = result := by
  induction rules with
  | nil => rfl
  | cons r rules ih =>
    rw [List.foldl_cons, validateAfter_of_passing (h r List.mem_cons_self)]
    exact ih fun p hp => h p (List.mem_cons_of_mem r hp)

/-- After a failure just the strict rules add their messages. -/
theorem foldl_of_failed (errors : List String) :
    rules.foldl (validateAfter c read v) ⟨false, errors⟩ =
      ⟨false, errors ++ (rules.filter strict).filterMap (failure? c read v)⟩ := by
  induction rules generalizing errors with
  | nil => simp
  | cons r rules ih =>
    rw [List.foldl_cons]
    cases hr : r.failure? c read v with
    | none =>
      rw [validateAfter_of_passing hr, ih]
      cases hs : r.strict <;> simp [hs, hr]
    | some message =>
      rw [validateAfter_of_failing hr]
      cases hs : r.strict
      · simp [ih, hs]
      · simp [ih, hs, hr, ValidationResult.fail]

theorem validate_of_passing (h : ∀ r ∈ rules, r.failure? c read v = none) :
    validate c read rules v = .valid :=
  foldl_of_passing h

/-- The first rule that fails is reported, and of those behind it the strict ones that fail. -/
theorem validate_of_first {before after : List (Rule α)} {message : String}
    (hbefore : ∀ p ∈ before, p.failure? c read v = none)
    (hr : r.failure? c read v = some message) :
    validate c read (before ++ r :: after) v =
      ⟨false, message :: (after.filter strict).filterMap (failure? c read v)⟩ := by
  rw [validate, List.foldl_append, foldl_of_passing hbefore, List.foldl_cons,
    validateAfter_of_failing hr]
  exact foldl_of_failed [message]

/-- If not all rules pass then one is the first to fail. -/
theorem exists_first (h : ¬∀ r ∈ rules, r.failure? c read v = none) :
    ∃ before r after message, rules = before ++ r :: after ∧
      (∀ p ∈ before, p.failure? c read v = none) ∧ r.failure? c read v = some message := by
  induction rules with
  | nil => simp at h
  | cons r rules ih =>
    cases hr : r.failure? c read v with
    | some message => exact ⟨[], r, rules, message, rfl, by simp, hr⟩
    | none =>
      obtain ⟨before, q, after, message, rfl, hbefore, hq⟩ := ih fun hall => h fun p hp => by
        rcases List.mem_cons.1 hp with rfl | hp
        · exact hr
        · exact hall p hp
      refine ⟨r :: before, q, after, message, rfl, fun p hp => ?_, hq⟩
      rcases List.mem_cons.1 hp with rfl | hp
      · exact hr
      · exact hbefore p hp

theorem isValid_validate :
    (validate c read rules v).isValid ↔ ∀ r ∈ rules, r.failure? c read v = none := by
  constructor
  · intro hvalid
    by_contra h
    obtain ⟨before, r, after, message, rfl, hbefore, hr⟩ := exists_first h
    simp [validate_of_first hbefore hr] at hvalid
  · intro h
    rw [validate_of_passing h]
    rfl

theorem errors_validate_eq_nil :
    (validate c read rules v).errors = [] ↔ (validate c read rules v).isValid := by
  by_cases h : ∀ r ∈ rules, r.failure? c read v = none
  · rw [validate_of_passing h]
    exact iff_of_true rfl rfl
  · obtain ⟨before, r, after, message, rfl, hbefore, hr⟩ := exists_first h
    rw [validate_of_first hbefore hr]
    simp

/-! ## Order and strictness -/

/-- Validity is a matter of which rules there are. -/
theorem isValid_of_perm (h : (rules'.map lenient).Perm (rules.map lenient)) :
    (validate c read rules' v).isValid = (validate c read rules v).isValid := by
  have all_iff : ∀ rs : List (Rule α), (validate c read rs v).isValid ↔
      ∀ r ∈ rs.map lenient, r.failure? c read v = none := by
    intro rs
    simp only [isValid_validate, List.forall_mem_map, failure?_lenient]
  rw [Bool.eq_iff_iff, all_iff, all_iff]
  exact forall_congr' fun r => by rw [h.mem_iff]

/-- The second rule differs from the first one in that it may be strict where that is not. -/
def LaxerThan (r r' : Rule α) : Prop := r.lenient = r'.lenient ∧ (r.strict → r'.strict)

/-- One more rule, in a more strict version, keeps the second result ahead of the first one. -/
theorem LaxerThan.sublist_after (h : r.LaxerThan r') (same : result.isValid = result'.isValid)
    (sub : result.errors.Sublist result'.errors) :
    (validateAfter c read v result r).isValid = (validateAfter c read v result' r').isValid ∧
      (validateAfter c read v result r).errors.Sublist
        (validateAfter c read v result' r').errors := by
  have hfail : r'.failure? c read v = r.failure? c read v := by
    rw [← failure?_lenient, ← h.1, failure?_lenient]
  cases hr : r.failure? c read v with
  | none =>
    rw [validateAfter_of_passing hr, validateAfter_of_passing (hfail.trans hr)]
    exact ⟨same, sub⟩
  | some message =>
    rw [validateAfter_of_failing hr, validateAfter_of_failing (hfail.trans hr), ← same]
    by_cases hrun : (result.isValid || r.strict) = true
    · have hrun' : (result.isValid || r'.strict) = true := by
        simp only [Bool.or_eq_true] at hrun ⊢
        exact hrun.imp_right h.2
      rw [if_pos hrun, if_pos hrun']
      exact ⟨rfl, sub.append_right _⟩
    · rw [if_neg hrun]
      have hfailed : result.isValid = false := by simp_all
      split_ifs
      · exact ⟨hfailed, sub.trans (List.sublist_append_left _ _)⟩
      · exact ⟨same, sub⟩

/-- More strictness only adds messages. -/
theorem errors_sublist (h : List.Forall₂ LaxerThan rules rules') :
    (validate c read rules v).errors.Sublist (validate c read rules' v).errors := by
  have ahead : ∀ a b : ValidationResult, a.isValid = b.isValid → a.errors.Sublist b.errors →
      (rules.foldl (validateAfter c read v) a).errors.Sublist
        (rules'.foldl (validateAfter c read v) b).errors := by
    induction h with
    | nil => exact fun _ _ _ sub => sub
    | cons hr _ ih =>
      intro a b same sub
      obtain ⟨same, sub⟩ := hr.sublist_after same sub
      exact ih _ _ same sub
  exact ahead .valid .valid rfl (List.Sublist.refl _)

/-- How the result of rules comes from what each of them says on its own. -/
structure Aggregates (c : Culture) (read : α → Value) (rules : List (Rule α)) (v : Value)
    (result : ValidationResult) : Prop where
  isValid_iff : result.isValid ↔ ∀ r ∈ rules, ∀ message, r.outcome c read v ≠ .failed message
  errors_eq_nil_iff : result.errors = [] ↔ result.isValid
  /-- The first rule that fails is reported, and of those behind it the strict ones that fail. -/
  errors_of_first : ∀ before r after message, rules = before ++ r :: after →
    (∀ p ∈ before, ∀ m, p.outcome c read v ≠ .failed m) → r.outcome c read v = .failed message →
    result.errors =
      message :: (after.filter strict).filterMap fun p => (p.outcome c read v).message?
  /-- Other orders and other strictness make the same values valid. -/
  isValid_of_perm : ∀ rules', (rules'.map lenient).Perm (rules.map lenient) →
    (validate c read rules' v).isValid = result.isValid
  /-- More strictness only adds messages. -/
  errors_sublist : ∀ rules', List.Forall₂ LaxerThan rules rules' →
    result.errors.Sublist (validate c read rules' v).errors

/-- The result of rules comes from what each of them says on its own. -/
theorem validate_aggregates (c : Culture) (read : α → Value) (rules : List (Rule α)) (v : Value) :
    Aggregates c read rules v (validate c read rules v) where
  isValid_iff := by simp only [isValid_validate, failure?_eq_none]
  errors_eq_nil_iff := errors_validate_eq_nil
  errors_of_first before r after message h hbefore hr := by
    rw [h, validate_of_first (fun p hp => failure?_eq_none.2 (hbefore p hp))
      (failure?_eq_some.2 hr)]
    rfl
  isValid_of_perm _ := isValid_of_perm
  errors_sublist _ := errors_sublist

/-- Requires a value below the bound. -/
def below (bound : Int64) (message : String) (strict : Bool) : Rule Value where
  comparator := .lessThan
  argument := .integer bound
  enforcement := .boolean true
  message := .fixed message
  nullPolicy := .runComparator
  strict := strict
  onTargetUpdated := false
  converter := none

/-- Of three rules that seven fails, behind one that it passes, the first is reported and the strict
    one. Turned around, and with other ones strict, they do not make it valid; were all strict then no
    message would be lost. -/
theorem validate_aggregates_seven :
    let rules := [below 8 "8" true, below 5 "5" false, below 6 "6" false, below 4 "4" true]
    let turned := [below 4 "4" false, below 6 "6" true, below 5 "5" true, below 8 "8" true]
    let strict := [below 8 "8" true, below 5 "5" true, below 6 "6" true, below 4 "4" true]
    let result := validate .invariant id rules (.integer 7)
    result.errors = ["5", "4"] ∧ result.isValid = false ∧
      (validate .invariant id turned (.integer 7)).isValid = false ∧
      ["5", "4"].Sublist (validate .invariant id strict (.integer 7)).errors := by
  intro rules turned strict result
  have all : Aggregates .invariant id rules (.integer 7) result :=
    validate_aggregates .invariant id rules (.integer 7)
  have errors : result.errors = ["5", "4"] :=
    all.errors_of_first [below 8 "8" true] (below 5 "5" false)
      [below 6 "6" false, below 4 "4" true] "5" rfl
      (by
        rintro p hp m hm
        rw [List.mem_singleton.1 hp] at hm
        exact RuleOutcome.noConfusion hm)
      (by decide +kernel)
  have invalid : result.isValid = false := by
    rw [← Bool.not_eq_true, ← all.errors_eq_nil_iff, errors]
    simp
  refine ⟨errors, invalid, ?_, ?_⟩
  · rw [← invalid]
    exact all.isValid_of_perm turned (List.reverse_perm (rules.map lenient))
  · rw [← errors]
    refine all.errors_sublist strict ?_
    simp only [rules, strict, List.forall₂_cons, List.forall₂_nil_left_iff]
    exact ⟨⟨rfl, id⟩, ⟨rfl, fun _ => rfl⟩, ⟨rfl, fun _ => rfl⟩, ⟨rfl, id⟩, trivial⟩

end Rule

/-! ## Null -/

/-- What a policy decides about null for a rule with the message; nothing, if the comparator is to be
    asked. -/
def NullPolicy.verdict? (message : String) : NullPolicy → Option RuleOutcome
  | .runComparator => none
  | .treatAsValid => some .passed
  | .treatAsInvalid => some (.failed message)
  | .skip => some .skipped

namespace Rule

variable {α : Type} {c : Culture} {read : α → Value} {v : Value} {r : Rule α}

/-- With every policy that decides about null, what the rule says of the value is what the policy
    decides, whatever the value would be compared with, and how. -/
def DecidedByPolicy (c : Culture) (read : α → Value) (r : Rule α) (v : Value) : Prop :=
  ∀ policy verdict comparator argument, policy.verdict? (r.message.text read) = some verdict →
    { r with nullPolicy := policy, comparator, argument }.outcome c read v = verdict

/-- With every policy the rule says the same of the value. -/
def IgnoresPolicy (c : Culture) (read : α → Value) (r : Rule α) (v : Value) : Prop :=
  ∀ policy, { r with nullPolicy := policy }.outcome c read v = r.outcome c read v

theorem outcome_of_not_null (h : r.isEnforced read) (hv : (r.convert c v).isNull = false) :
    r.outcome c read v = r.compare read (r.convert c v) := by
  simp [outcome, h, hv]

theorem outcome_of_null (h : r.isEnforced read) (hv : (r.convert c v).isNull = true) :
    r.outcome c read v = (r.nullPolicy.verdict? (r.message.text read)).getD
      (r.compare read (r.convert c v)) := by
  cases hp : r.nullPolicy <;> simp [outcome, h, hv, hp, NullPolicy.verdict?]

/-- Only policies skip a value. -/
theorem compare_ne_skipped (r : Rule α) (v : Value) : r.compare read v ≠ .skipped := by
  unfold compare
  split_ifs <;> simp

theorem decidedByPolicy_iff (h : r.isEnforced read) :
    r.DecidedByPolicy c read v ↔ (r.convert c v).isNull := by
  constructor
  · intro decided
    by_contra hv
    have hv : (r.convert c v).isNull = false := by simpa using hv
    have skipped := decided .skip .skipped r.comparator r.argument rfl
    rw [outcome_of_not_null (r := { r with nullPolicy := .skip }) h hv] at skipped
    exact compare_ne_skipped _ _ skipped
  · intro hv policy verdict comparator argument hverdict
    rw [outcome_of_null (r := { r with nullPolicy := policy, comparator, argument }) h hv]
    exact congrArg (Option.getD · _) hverdict

theorem ignoresPolicy_iff (h : r.isEnforced read) :
    r.IgnoresPolicy c read v ↔ ¬(r.convert c v).isNull := by
  constructor
  · intro ignores hv
    have decided := (decidedByPolicy_iff h).2 hv
    have passed := decided .treatAsValid .passed r.comparator r.argument rfl
    have skipped := decided .skip .skipped r.comparator r.argument rfl
    exact RuleOutcome.noConfusion
      (passed.symm.trans ((ignores .treatAsValid).trans ((ignores .skip).symm.trans skipped)))
  · intro hv policy
    have hv : (r.convert c v).isNull = false := by simpa using hv
    rw [outcome_of_not_null h hv, outcome_of_not_null (r := { r with nullPolicy := policy }) h hv]
    rfl

/-- The policy of a rule that is enforced decides what the rule says of a value exactly if the value is
    null after the conversion, and has no influence exactly if it is not. That is as the nullness of the
    field value would have it exactly if the conversion does not change it, as without a converter. -/
theorem outcome_of_policy (h : r.isEnforced read) :
    (r.DecidedByPolicy c read v ↔ (r.convert c v).isNull) ∧
      (r.IgnoresPolicy c read v ↔ ¬(r.convert c v).isNull) ∧
      ((v.isNull → r.DecidedByPolicy c read v) ∧ (¬v.isNull → r.IgnoresPolicy c read v) ↔
        (r.convert c v).isNull = v.isNull) ∧
      (r.converter = none → (r.convert c v).isNull = v.isNull) := by
  refine ⟨decidedByPolicy_iff h, ignoresPolicy_iff h, ?_, fun hc => by rw [convert, hc]⟩
  rw [decidedByPolicy_iff h, ignoresPolicy_iff h]
  constructor
  · rintro ⟨null, real⟩
    exact Bool.eq_iff_iff.2 ⟨not_imp_not.1 real, null⟩
  · intro hv
    rw [hv]
    exact ⟨id, id⟩

/-- Requires a value that a standard filter of the name has converted, and takes null for valid. -/
def requiredAs (filter : String) : Rule Value where
  comparator := .required
  argument := .null
  enforcement := .boolean true
  message := .fixed "bad"
  nullPolicy := .treatAsValid
  strict := false
  onTargetUpdated := false
  converter := Filter.standard.find? (·.name == filter)

/-- A rule that requires the text of a value is asked about null in vain, as that has a text, but the
    policy of one that requires the length decides about a number, which has no length. -/
theorem outcome_of_policy_converted :
    (requiredAs "ToString").isEnforced id ∧
      ¬(requiredAs "ToString").DecidedByPolicy .invariant id .null ∧
      (requiredAs "Length").isEnforced id ∧
      (requiredAs "Length").DecidedByPolicy .invariant id (.integer 5) := by
  have text := outcome_of_policy (c := .invariant) (v := .null)
    (show (requiredAs "ToString").isEnforced id by decide +kernel)
  have length := outcome_of_policy (c := .invariant) (v := .integer 5)
    (show (requiredAs "Length").isEnforced id by decide +kernel)
  exact ⟨rfl, text.1.not.2 (by decide +kernel), rfl, length.1.2 (by decide +kernel)⟩

/-- An enforced rule that takes null for valid fails on null, and one of which the policy is changed
    says something else of a number. -/
theorem failed_on_null_treated_as_valid :
    (requiredAs "ToString").isEnforced id ∧ (requiredAs "ToString").nullPolicy = .treatAsValid ∧
      Value.null.isNull ∧ (requiredAs "ToString").outcome .invariant id .null = .failed "bad" ∧
      (requiredAs "Length").isEnforced id ∧ (Value.integer 5).isNull = false ∧
      (requiredAs "Length").outcome .invariant id (.integer 5) = .passed ∧
      { requiredAs "Length" with nullPolicy := .runComparator }.outcome .invariant id
        (.integer 5) = .failed "bad" := by
  decide +kernel

end Rule

end LiveForm
