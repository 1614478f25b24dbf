/-
  The standard filters.
-/
import LiveForm.Filter.Basic
import LiveForm.Pattern.Reader
import LiveForm.Text.Case

namespace LiveForm.Filter

/-! ## Ways to make a filter -/

/-- A filter without arguments that never fails. -/
def ofValue (name documentation : String) (f : Culture → Value → Value)
    (h : ∀ c v, (f c v).objects ⊆ v.objects) : Filter :=
  ⟨name, .exactly 0, documentation, fun c v _ => .ok (f c v), by
    rintro c v args _ ⟨⟩
    exact List.subset_append_of_subset_left _ (h c v)⟩

/-- A filter without arguments that tells whether the value has a property. -/
def ofPredicate (name documentation : String) (p : Value → Bool) : Filter :=
  ofValue name documentation (fun _ v => .boolean (p v)) (by simp [Value.objects])

/-- A filter with one argument. -/
def ofPair (name documentation : String) (f : Culture → Value → Value → Except FilterError Value)
    (h : ∀ c v arg w, f c v arg = .ok w → w.objects ⊆ v.objects ++ arg.objects) : Filter :=
  ⟨name, .exactly 1, documentation, fun c v args => f c v (args.headD .null), by
    intro c v args w hw
    refine List.Subset.trans (h c v _ w hw) ?_
    cases args <;> simp [Value.objects]⟩

/-- A filter that tells how the value stands to its argument. -/
def ofTest (name documentation : String) (f : Culture → Value → Value → Except FilterError Bool) :
    Filter :=
  ofPair name documentation (fun c v arg => (f c v arg).map .boolean) (by
    intro c v arg w hw
    cases hf : f c v arg <;> simp [hf, Except.map] at hw
    simp [← hw, Value.objects])

/-- A filter that tells how the value stands to its argument in the order of values. Nulls stand in
    no order to anything. -/
def ofOrder (name : String) (accept : Ordering → Bool) : Filter :=
  ofTest name "Compares numbers, strings or booleans; null operands give false." fun _ v arg =>
    if v.isNull || arg.isNull then .ok false
    else
      match v.order? arg with
      | some o => .ok (accept o)
      | none => .error (.ofOperand name 1 v.typeName arg)

/-- A filter on the text of the value, which leaves nulls as they are. -/
def ofText (name : String) (f : List Char → List Char) : Filter :=
  ofValue name "String transform; null and unresolved values pass through."
    (fun c v => if v.isNull then v else .string (String.ofList (f (c.format v).toList))) (by
      intro c v
      split <;> simp [Value.objects])

/-! ## The filters -/

/-- Whether the text of the value matches a pattern. -/
def matchesPattern : Filter :=
  ofTest "Matches" "True when the text of the value matches the regular expression." fun c v arg =>
    match arg with
    | .string pattern =>
      if v.isNull then .ok false
      else
        match Pattern.read? pattern with
        | some p => .ok (p.isMatch (c.format v))
        | none => .error (.failed "Matches" "invalid pattern")
    | arg => .error (.ofOperand "Matches" 1 "String" arg)

def length : Filter :=
  ⟨"Length", .exactly 0, "Character count of a string or item count of a collection.", fun _ v _ =>
    match v with
    | .noValue | .null => .ok (.integer 0)
    | .string s => .ok (.integer (.ofNat s.length))
    | .collection items => .ok (.integer (.ofNat items.length))
    | v => .error (.ofOperand "Length" 0 "String or Collection" v), by
    intro _ v _ w h
    cases v <;> simp at h <;> simp [← h, Value.objects]⟩

/-- Puts the texts of items together. The separator is the argument or else that of the culture. -/
def join : Filter :=
  ⟨"Join", ⟨0, some 1⟩, "Joins collection items with the separator argument.", fun c v args =>
    let separator := match args with
      | arg :: _ => c.format arg
      | [] => c.listSeparator
    match v with
    | .collection items => .ok (.string (Text.join separator (items.map c.format)))
    | v => .ok (.string (c.format v)), by
    intro _ v _ w h
    cases v <;> simp at h <;> simp [← h, Value.objects]⟩

def contains : Filter :=
  ofTest "Contains" "Substring test for strings, membership test for collections." fun c v arg =>
    match v with
    | .collection items => .ok (Value.holds items arg)
    | .string s => .ok (Text.occursIn (c.format arg).toList s.toList)
    | _ => .ok false

/-- The filters that every form can use. -/
def standard : List Filter := [
  ofPredicate "IsNull" "True when the value is null or unresolved." Value.isNull,
  ofPredicate "IsNotNull" "True when the value is neither null nor unresolved." (!·.isNull),
  ofPredicate "IsEmpty" "True for null, unresolved, empty strings and empty collections."
    Value.isEmpty,
  ofPredicate "IsNotEmpty" "Negation of IsEmpty." (!·.isEmpty),
  ofPredicate "Not" "Negated truthiness of the value." (!·.isTruthy),
  ofPredicate "ToBoolean" "Truthiness of the value." Value.isTruthy,
  ofTest "Equals" "True when the value equals the argument." fun _ v arg => .ok (v == arg),
  ofTest "NotEquals" "True when the value differs from the argument." fun _ v arg =>
    .ok (v != arg),
  ofOrder "GreaterThan" Ordering.isGT,
  ofOrder "GreaterThanOrEqual" Ordering.isGE,
  ofOrder "LessThan" Ordering.isLT,
  ofOrder "LessThanOrEqual" Ordering.isLE,
  ofText "ToUpper" Text.toUpper,
  ofText "ToLower" Text.toLower,
  ofText "Trim" Text.trim,
  ofValue "ToString" "Culture-aware text of the value; null becomes the empty string."
    (fun c v => .string (c.format v)) (by simp [Value.objects]),
  matchesPattern, length, join, contains,
  ofPair "Default" "Replaces null, unresolved or empty values with the argument."
    (fun _ v arg => .ok (if v.isEmpty then arg else v)) (by
      rintro _ v arg _ ⟨⟩
      split <;> simp)]

end LiveForm.Filter
