/-
  What tells equal values apart.

  Equal values are the same but for the way in which their numbers are written, as the integer 1 and the
  decimal 1.0. So they have the same text where their numbers are written alike, and a rule says the
  same of both unless its converter or its comparator looks at how they are written.

  * `Value.numerals`: the numbers of a value as they are written; `Culture.format_of_same`;
  * `Comparator.readsText`: the tests of the text of a value; `Comparator.test_of_same_value`;
  * `Rule.Confuses`: a rule cannot tell two equal values apart; `Rule.like_outcome`;
  * `Rule.like_validate`: rules with like outcomes have results with as many errors, one like the other.
-/
import LiveForm.Proofs.Numerals
import LiveForm.Proofs.Wording

namespace LiveForm

/-! ## Numbers as they are written -/

namespace Value

mutual

/-- The numbers in a value as they are written, in their order. -/
def numerals : Value → List String
  | .integer n => [Text.ofInt n.toInt]
  | .decimal d => [String.ofList d.render]
  | .collection items => numeralsOfItems items
  | _ => []

def numeralsOfItems : List Value → List String
  | [] => []
  | v :: vs => numerals v ++ numeralsOfItems vs

end

/-! Equal values have as many numbers, and at the same places. -/

mutual

theorem length_numerals_of_same {v w : Value} (h : v.same w) :
    v.numerals.length = w.numerals.length := by
  match v, w with
  | .collection vs, .collection ws => exact length_numeralsOfItems_of_same h
  | .integer _, .integer _ | .integer _, .decimal _ | .decimal _, .integer _
  | .decimal _, .decimal _ => simp only [numerals, List.length_singleton]
  | .noValue, .noValue | .null, .null | .boolean _, .boolean _ | .string _, .string _
  | .object _, .object _ => rfl

theorem length_numeralsOfItems_of_same {vs ws : List Value} (h : sameItems vs ws) :
    (numeralsOfItems vs).length = (numeralsOfItems ws).length := by
  match vs, ws with
  | [], [] => rfl
  | v :: vs, w :: ws =>
    obtain ⟨hv, hvs⟩ := Bool.and_eq_true_iff.1 h
    simp only [numeralsOfItems, List.length_append, length_numerals_of_same hv,
      length_numeralsOfItems_of_same hvs]

end

end Value

namespace Culture

variable (c : Culture)

/-- A decimal that is written as an integer is has no point to be replaced. -/
theorem formatDecimal_of_integer {d : Decimal} {n : Int} (h : String.ofList d.render = Text.ofInt n) :
    c.formatDecimal d = Text.ofInt n := by
  have hd : d.render = (if n < 0 then ['-'] else []) ++ Text.digits n.natAbs :=
    String.ofList_injective h
  have point : ∀ x ∈ d.render, (if x = '.' then c.decimalSeparator else x) = x := by
    intro x hx
    refine if_neg ?_
    rintro rfl
    rw [hd, List.mem_append] at hx
    rcases hx with hx | hx
    · split at hx
      · exact absurd hx (by decide)
      · cases hx
    · exact absurd (Text.isDigit_of_mem_digits hx) (by decide)
  rw [formatDecimal, List.map_congr_left point, List.map_id', h]

mutual

/-- Equal values have the same text if their numbers are written alike. -/
theorem format_of_same {v w : Value} (h : v.same w) (hn : v.numerals = w.numerals) :
    c.format v = c.format w := by
  match v, w with
  | .noValue, .noValue | .null, .null => rfl
  | .boolean a, .boolean b | .string a, .string b | .object a, .object b => rw [beq_iff_eq.1 h]
  | .integer a, .integer b => exact List.head_eq_of_cons_eq hn
  | .integer a, .decimal b => exact (c.formatDecimal_of_integer (List.head_eq_of_cons_eq hn.symm)).symm
  | .decimal a, .integer b => exact c.formatDecimal_of_integer (List.head_eq_of_cons_eq hn)
  | .decimal a, .decimal b =>
    have hr : a.render = b.render := String.ofList_injective (List.head_eq_of_cons_eq hn)
    simp only [format, formatDecimal, hr]
  | .collection vs, .collection ws => exact formatItems_of_same h hn

theorem formatItems_of_same {vs ws : List Value} (h : Value.sameItems vs ws)
    (hn : Value.numeralsOfItems vs = Value.numeralsOfItems ws) :
    c.formatItems vs = c.formatItems ws := by
  match vs, ws with
  | [], [] => rfl
  | v :: vs, w :: ws =>
    obtain ⟨hv, hvs⟩ := Bool.and_eq_true_iff.1 h
    -- the numbers of the first items are the first ones, and as many on both sides
    obtain ⟨hn, hns⟩ := List.append_inj hn (Value.length_numerals_of_same hv)
    have first := format_of_same hv hn
    have rest := formatItems_of_same hvs hns
    match vs, ws with
    | [], [] => exact first
    | _ :: _, _ :: _ => rw [formatItems, formatItems, first, rest]

end

end Culture

/-! ## Tests -/

namespace Comparator

/-- Whether a test looks at the text of the value, and so at how its numbers are written. -/
def readsText : Comparator → Bool
  | .matchPattern | .notMatchPattern | .minLength | .maxLength => true
  | _ => false

theorem lengthOf_of_same {v w : Value} (h : v.same w)
    (text : Culture.invariant.format v = Culture.invariant.format w) : lengthOf v = lengthOf w := by
  match v, w with
  | .noValue, .noValue | .null, .null => rfl
  | .collection vs, .collection ws => exact Value.length_of_sameItems h
  | .boolean _, .boolean _ | .string _, .string _ | .object _, .object _ | .integer _, .integer _
  | .integer _, .decimal _ | .decimal _, .integer _ | .decimal _, .decimal _ =>
    exact congrArg String.length text

/-- A test is passed by both of two equal values or by none, if they have the same text where it looks
    at that. -/
theorem test_of_same_value {c : Comparator} (hc : c.IsBuiltIn) {v w : Value} (h : v.same w)
    (text : c.readsText → Culture.invariant.format v = Culture.invariant.format w) (arg : Value) :
    c.test v arg = c.test w arg := by
  have held : ∀ items, Value.holds items v = Value.holds items w := fun items =>
    congrArg items.any (funext fun _ => Value.same_congr h)
  have same : v.same arg = w.same arg := Value.same_congr_both h arg.same_refl
  have order : v.order? arg = w.order? arg := Value.order?_of_same_both h arg.same_refl
  cases c with
  | required => exact congrArg (!·) (Value.isEmpty_of_same h)
  | existsIn | notExistsIn => simp only [test, held]
  | equal => exact same
  | notEqual => exact congrArg (!·) same
  | greaterThan | greaterThanOrEqual | lessThan | lessThanOrEqual => simp only [test, ordered, order]
  | matchPattern | notMatchPattern => simp only [test, matches?, text rfl]
  | minLength | maxLength => simp only [test, lengthOf_of_same h (text rfl)]
  | isTrue | isFalse => exact Value.same_congr_both h (Value.same_refl _)
  | custom name f => exact hc.elim

end Comparator

/-! ## Rules -/

/-- Two outcomes of one kind, with related messages if they are failures. -/
inductive RuleOutcome.Like (E : String → String → Prop) : RuleOutcome → RuleOutcome → Prop
  | skipped : Like E .skipped .skipped
  | passed : Like E .passed .passed
  | failed {m m' : String} (h : E m m') : Like E (.failed m) (.failed m')

theorem RuleOutcome.Like.imp {E F : String → String → Prop} {o o' : RuleOutcome} (h : Like E o o')
    (hEF : ∀ m m', o = .failed m → E m m' → F m m') : Like F o o' := by
  cases h with
  | skipped => exact .skipped
  | passed => exact .passed
  | failed h => exact .failed (hEF _ _ rfl h)

/-- Two results of as many errors, related one by one. -/
structure ValidationResult.Like (E : String → String → Prop) (r r' : ValidationResult) : Prop where
  isValid : r'.isValid = r.isValid
  errors : List.Forall₂ E r.errors r'.errors

namespace Rule

variable {α β : Type} {c c' : Culture} {r : Rule α} {r' : Rule β} {read : α → Value}
  {read' : β → Value} {v w : Value} {E : String → String → Prop}

/-- A rule cannot tell two equal values apart: if it has a converter, then this makes equal values of
    them, and if it tests texts, these are the same. -/
structure Confuses (c : Culture) (r : Rule α) (v w : Value) : Prop where
  converted : r.converter.isSome → r.convert c v == r.convert c w
  text : r.comparator.readsText →
    Culture.invariant.format (r.convert c v) = Culture.invariant.format (r.convert c w)

theorem Confuses.of_eq (h : v = w) : r.Confuses c v w := by
  subst h
  exact ⟨fun _ => Value.same_refl _, fun _ => rfl⟩

/-- What is judged of two values that are confused is equal. -/
theorem Confuses.same (h : r.Confuses c v w) (hv : v.same w) :
    (r.convert c v).same (r.convert c w) := by
  cases hf : r.converter with
  | none => simpa only [convert, hf] using hv
  | some f => exact h.converted (by rw [hf]; rfl)

theorem outcome_of_not_enforced (h : ¬ r.isEnforced read) : r.outcome c read v = .skipped := by
  simp only [outcome, Bool.eq_false_iff.2 h, Bool.not_false, if_pos]

/-- Two rules say the same of two values if they are enforced alike, and their tests have the same
    outcome for what they make of the values. -/
theorem like_outcome (enforced : r'.isEnforced read' = r.isEnforced read)
    (nullPolicy : r'.nullPolicy = r.nullPolicy) (same : (r.convert c v).same (r'.convert c w))
    (test : r'.comparator.test (r'.convert c w) (read' r'.argument) =
      r.comparator.test (r.convert c v) (read r.argument))
    (message : E (r.message.text read) (r'.message.text read')) :
    RuleOutcome.Like E (r.outcome c read v) (r'.outcome c read' w) := by
  have compared : RuleOutcome.Like E (r.compare read (r.convert c v))
      (r'.compare read' (r'.convert c w)) := by
    rw [compare, compare, test]
    split
    · exact .passed
    · exact .failed message
  simp only [outcome, enforced, nullPolicy, ← Value.isNull_of_same same]
  split
  · exact .skipped
  · split
    · split
      · exact .passed
      · exact .failed message
      · exact .skipped
      · exact compared
    · exact compared

/-- Where the outcomes of rules are like each other, one by one, so are the results. -/
theorem like_validate {rules : List (Rule α)} {rules' : List (Rule β)}
    (h : List.Forall₂ (fun r r' => r'.strict = r.strict ∧
      RuleOutcome.Like E (r.outcome c read v) (r'.outcome c' read' w)) rules rules') :
    ValidationResult.Like E (validate c read rules v) (validate c' read' rules' w) := by
  have after : ∀ result result', ValidationResult.Like E result result' →
      ValidationResult.Like E (rules.foldl (validateAfter c read v) result)
        (rules'.foldl (validateAfter c' read' w) result') := by
    induction h with
    | nil => exact fun _ _ like => like
    | @cons r r' rs rs' hr _ ih =>
      intro result result' like
      refine ih _ _ ?_
      rw [validateAfter, validateAfter, like.isValid, hr.1]
      split
      · exact like
      · generalize r.outcome c read v = o, r'.outcome c' read' w = o' at hr
        obtain ⟨-, ho⟩ := hr
        cases ho with
        | failed h => exact ⟨rfl, List.rel_append like.errors (.cons h .nil)⟩
        | skipped | passed => exact like
  exact after _ _ ⟨rfl, .nil⟩

end Rule

/-- Results whose errors are the same are the same. -/
theorem ValidationResult.Like.eq {r r' : ValidationResult} (h : ValidationResult.Like Eq r r') :
    r' = r := by
  obtain ⟨valid, errors⟩ := r
  obtain ⟨valid', errors'⟩ := r'
  obtain rfl : valid' = valid := h.isValid
  obtain rfl : errors = errors' := List.forall₂_eq_eq_eq ▸ h.errors
  rfl

end LiveForm
