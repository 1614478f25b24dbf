/-
  Two fields of one blueprint.

  Where the proxies of two fields show equal values, the fields are shown and enabled alike. Their labels
  and messages have the same texts unless a number in them is written in two ways, and their rules say
  the same unless a rule looks at how the number is written that it judges.

  * `Store.Paired`: two proxies show equal values, or the value of one document;
  * `Store.Blurs`: a rule cannot tell apart what two fields judge; `like_of_paired`: then its outcomes
    are like each other;
  * `Session.Agrees`: two fields of two sessions are alike.
-/
import LiveForm.Proofs.Blueprint
import LiveForm.Proofs.Building
import LiveForm.Proofs.Discerning
import LiveForm.Proofs.Validating
import LiveForm.Session.Basic

namespace LiveForm

namespace Store

variable {H : Type} {s t : Store H} {p q : ProxyId} {x y : Field}

/-! ## Proxies -/

/-- Two proxies show equal values of a template, or the value of one document, made anew for the
    second. -/
inductive Paired (s t : Store H) (p q : ProxyId) : Prop
  | template (hp : s.isConstant p = false) (hq : t.isConstant q = false)
      (h : s.valueOf p == t.valueOf q)
  | document (j : Json) (u u' : Store H) (hp : s.isConstant p) (hq : t.isConstant q)
      (hv : s.valueOf p = (u.newValue j).2) (hw : t.valueOf q = (u'.newValue j).2)
      (new : s.objects.next ≤ u'.objects.next)

theorem Paired.isTruthy (h : s.Paired t p q) : (t.valueOf q).isTruthy = (s.valueOf p).isTruthy := by
  cases h with
  | template _ _ h => exact (Value.isTruthy_of_same h).symm
  | document j u u' _ _ hv hw => rw [hv, hw, isTruthy_newValue u' u]

theorem Paired.visibility (h : s.Paired t p q) (hidden : Bool) :
    Visibility.ofValue (t.valueOf q) hidden = Visibility.ofValue (s.valueOf p) hidden := by
  cases h with
  | template _ _ h => exact (Visibility.ofValue_of_same h hidden).symm
  | document j u u' _ _ hv hw => rw [hv, hw, ofValue_newValue u' u]

/-! ## Rules -/

/-- The numbers in two messages are written alike. -/
def SameWords (s t : Store H) (m m' : Message ProxyId) : Prop :=
  ∀ p ∈ m.source?, ∀ q ∈ m'.source?, (s.valueOf p).numerals = (t.valueOf q).numerals

/-- Two messages with paired sources have the same text if the numbers in them are written alike. -/
theorem text_of_paired {m m' : Message ProxyId} (h : m.Rel (s.Paired t) m')
    (words : s.SameWords t m m') : m'.text t.valueOf = m.text s.valueOf := by
  cases h with
  | fixed text => rfl
  | @live p q h =>
    cases h with
    | template _ _ h => exact (Culture.format_of_same _ h (words p rfl q rfl)).symm
    | document j u u' _ _ hv hw =>
      rw [Message.text, Message.text, hv, hw, format_newValue _ u' u]

/-- A rule of a field cannot tell the value of the field from that of another one, and the value has no
    object of an argument that is a document. -/
structure Blurs (c : Culture) (s t : Store H) (x y : Field) (r : Rule ProxyId) : Prop where
  confuses : r.Confuses c (s.valueOf x.value) (t.valueOf y.value)
  apart : s.isConstant r.argument →
    ∀ o ∈ (s.valueOf x.value).objects, o ∉ (s.valueOf r.argument).objects

/-- No test tells apart what paired proxies show. -/
theorem test_of_paired {c : Comparator} (hc : c.IsBuiltIn) (h : s.Paired t p q) {v : Value}
    (old : ∀ o ∈ v.objects, o.index < s.objects.next)
    (apart : s.isConstant p → ∀ o ∈ v.objects, o ∉ (s.valueOf p).objects) :
    c.test v (t.valueOf q) = c.test v (s.valueOf p) := by
  cases h with
  | template _ _ h => exact (Comparator.test_of_same hc h).symm
  | document j u u' hp _ hv hw new =>
    rw [hv, hw]
    refine Comparator.test_newValue hc (fun o ho hn => ?_) (hv ▸ apart hp)
    -- the document is made anew, so its objects are younger than those of the value
    exact absurd (le_of_mem_newValue u' j o hn) (Nat.not_le.2 (Nat.lt_of_lt_of_le (old o ho) new))

/-- A rule that cannot tell two values apart, or is not enforced, says the same of them, in the same words
    if the numbers in its message are written alike. -/
theorem like_of_paired (c : Culture) {r r' : Rule ProxyId} (h : r.Rel (s.Paired t) r')
    (builtIn : r.comparator.IsBuiltIn) (value : s.valueOf x.value == t.valueOf y.value)
    (old : ∀ o ∈ (s.valueOf x.value).objects, o.index < s.objects.next)
    (hb : r.isEnforced s.valueOf → s.Blurs c t x y r) :
    RuleOutcome.Like (fun m m' => s.SameWords t r.message r'.message → m = m')
      (r.outcome c s.valueOf (s.valueOf x.value)) (r'.outcome c t.valueOf (t.valueOf y.value)) := by
  have enforced : r'.isEnforced t.valueOf = r.isEnforced s.valueOf := h.enforcement.isTruthy
  by_cases he : r.isEnforced s.valueOf
  · have convert : ∀ v, r'.convert c v = r.convert c v := fun v => by
      rw [Rule.convert, Rule.convert, h.converter]
    have kept : (r.convert c (s.valueOf x.value)).objects ⊆ (s.valueOf x.value).objects :=
      r.objects_convert c _
    have same := (hb he).confuses.same value
    refine Rule.like_outcome enforced h.nullPolicy ?same ?test
      fun words => (text_of_paired h.message words).symm
    case same => rwa [convert]
    case test =>
      rw [convert, h.comparator]
      calc r.comparator.test (r.convert c (t.valueOf y.value)) (t.valueOf r'.argument)
        _ = r.comparator.test (r.convert c (s.valueOf x.value)) (t.valueOf r'.argument) :=
          (Comparator.test_of_same_value builtIn same (hb he).confuses.text _).symm
        _ = r.comparator.test (r.convert c (s.valueOf x.value)) (s.valueOf r.argument) :=
          test_of_paired builtIn h.argument (fun o ho => old o (kept ho))
            fun hp o ho => (hb he).apart hp o (kept ho)
  · rw [Rule.outcome_of_not_enforced he, Rule.outcome_of_not_enforced (enforced ▸ he)]
    exact .skipped

end Store

/-! ## Fields -/

namespace Session

variable {s t : Session} {p q : ProxyId} {x y : Field}

/-- Two labels show equal values, and the same text if the numbers in these are written alike. -/
structure SameLabel (s t : Session) (p q : ProxyId) : Prop where
  value : s.store.valueOf p == t.store.valueOf q
  text : (s.store.valueOf p).numerals = (t.store.valueOf q).numerals → t.textOf q = s.textOf p

/-- Two rules of two fields are the same but for their sources, and these are paired. Unless the first
    rule is enforced and tells the values of the fields apart, both have the same outcome, with the same
    message if the numbers in it are written alike. -/
structure SameRule (s t : Session) (x y : Field) (r r' : Rule ProxyId) : Prop where
  rel : r.Rel (s.store.Paired t.store) r'
  outcome : (r.isEnforced s.store.valueOf → s.store.Blurs s.engine.culture t.store x y r) →
    RuleOutcome.Like (fun m m' => s.store.SameWords t.store r.message r'.message → m = m')
      (r.outcome s.engine.culture s.store.valueOf (s.store.valueOf x.value))
      (r'.outcome t.engine.culture t.store.valueOf (t.store.valueOf y.value))

/-- A field shows what its rules say of its value. -/
def Judged (s : Session) (x : Field) : Prop :=
  (s.fieldView x).result =
    Rule.validate s.engine.culture s.store.valueOf (s.store.rulesOf x) (s.store.valueOf x.value)

/-- No rule of a field that is enforced can tell the value of the field from that of another one. -/
def Blurred (s t : Session) (x y : Field) : Prop :=
  ∀ r ∈ s.store.rulesOf x, r.isEnforced s.store.valueOf →
    s.store.Blurs s.engine.culture t.store x y r

/-- The numbers in the messages of two rules are written alike if the first one fails. -/
def SameWhereFailed (s t : Session) (x : Field) (r r' : Rule ProxyId) : Prop :=
  ∀ m, r.outcome s.engine.culture s.store.valueOf (s.store.valueOf x.value) = .failed m →
    s.store.SameWords t.store r.message r'.message

/-- Where no rule tells the values apart, the results of two fields are as the outcomes of the rules are,
    with their messages in any relation that holds wherever the numbers in them are written alike. -/
theorem like_of_sameRule {E : String → String → Prop} (judged : s.Judged x ∧ t.Judged y)
    (rules : List.Forall₂ (s.SameRule t x y) (s.store.rulesOf x) (t.store.rulesOf y))
    (blurred : s.Blurred t x y)
    (related : List.Forall₂ (fun r r' => ∀ m m' : String,
      r.outcome s.engine.culture s.store.valueOf (s.store.valueOf x.value) = .failed m →
      (s.store.SameWords t.store r.message r'.message → m = m') → E m m') (s.store.rulesOf x)
      (t.store.rulesOf y)) :
    ValidationResult.Like E (s.fieldView x).result (t.fieldView y).result := by
  rw [judged.1, judged.2]
  refine Rule.like_validate ?_
  refine List.Forall₂.mp (fun r r' hr h => ⟨hr.rel.strict, ?_⟩) rules
    ((List.forall₂_and_left _ _).2 ⟨blurred, related⟩)
  exact (hr.outcome h.1).imp h.2

/-- Two fields are alike. -/
structure Agrees (s t : Session) (x y : Field) : Prop where
  key : y.key = x.key
  value : s.store.valueOf x.value == t.store.valueOf y.value
  name : Option.Rel (s.SameLabel t) x.name y.name
  tooltip : Option.Rel (s.SameLabel t) x.tooltip y.tooltip
  visibility : (t.fieldView y).visibility = (s.fieldView x).visibility
  enabled : (t.fieldView y).enabled = (s.fieldView x).enabled
  rules : List.Forall₂ (s.SameRule t x y) (s.store.rulesOf x) (t.store.rulesOf y)
  judged : s.Judged x ∧ t.Judged y
  /-- One is valid exactly if the other is, with as many errors, unless a rule tells the values apart. -/
  valid : s.Blurred t x y → (t.fieldView y).result.isValid = (s.fieldView x).result.isValid ∧
      (t.fieldView y).result.errors.length = (s.fieldView x).result.errors.length
  /-- The errors are the same if the numbers in them are written alike, too. -/
  errors : s.Blurred t x y →
    List.Forall₂ (s.SameWhereFailed t x) (s.store.rulesOf x) (t.store.rulesOf y) →
      (t.fieldView y).result = (s.fieldView x).result

end Session

end LiveForm
