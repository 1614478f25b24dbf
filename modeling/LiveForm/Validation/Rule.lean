/-
  Validation rules and the results of validation.

  What a rule compares with, whether it is enforced and the message it fails with are read from
  sources that may change, so a rule is judged under a reading of its sources. Rules are run in
  order. The first failure makes the value invalid, and after it only strict rules are run.
-/
import LiveForm.Filter.Basic
import LiveForm.Validation.Comparator

namespace LiveForm

/-- What a rule does with a value that is null. -/
inductive NullPolicy where
  | runComparator
  | treatAsValid
  | treatAsInvalid
  | skip
deriving DecidableEq, Inhabited

/-- Where a message comes from: it is fixed or the text of a source. -/
inductive Message (α : Type) where
  | fixed (text : String)
  | live (source : α)
deriving Inhabited

/-- A rule with sources of type `α`. -/
structure Rule (α : Type) where
  comparator : Comparator
  argument : α
  /-- The rule is skipped where this source does not hold. -/
  enforcement : α
  message : Message α
  nullPolicy : NullPolicy
  /-- Whether the rule is run even after another one has failed. -/
  strict : Bool
  /-- Whether an edit of the target alone is a reason to validate. -/
  onTargetUpdated : Bool
  /-- A filter without arguments that the value passes through first. -/
  converter : Option Filter

inductive RuleOutcome where
  | skipped
  | passed
  | failed (message : String)
deriving DecidableEq, Inhabited

structure ValidationResult where
  /-- Whether no rule has failed. -/
  isValid : Bool
  /-- The messages of the rules that failed. -/
  errors : List String
deriving DecidableEq

def NullPolicy.name : NullPolicy → String
  | .runComparator => "RunComparator"
  | .treatAsValid => "TreatAsValid"
  | .treatAsInvalid => "TreatAsInvalid"
  | .skip => "Skip"

/-- The policy of a name. -/
def NullPolicy.ofName? (name : String) : Option NullPolicy :=
  [.runComparator, .treatAsValid, .treatAsInvalid, .skip].find? (NullPolicy.name · == name)

namespace ValidationResult

/-- The result as long as no rule has failed. -/
def valid : ValidationResult := ⟨true, []⟩

instance : Inhabited ValidationResult := ⟨valid⟩

/-- The result after one more rule has failed. -/
def fail (r : ValidationResult) (message : String) : ValidationResult :=
  ⟨false, r.errors ++ [message]⟩

def firstError (r : ValidationResult) : Option String := r.errors.head?

end ValidationResult

namespace Message

variable {α : Type}

def source? : Message α → Option α
  | .fixed _ => none
  | .live a => some a

/-- The text of a message under a reading of its source. -/
def text (read : α → Value) : Message α → String
  | .fixed s => s
  | .live a => Culture.invariant.format (read a)

end Message

namespace Rule

variable {α : Type}

/-- The sources of a rule in the order in which they are listened to. -/
def sources (r : Rule α) : List α := r.argument :: r.enforcement :: r.message.source?.toList

def isEnforced (read : α → Value) (r : Rule α) : Bool := (read r.enforcement).isTruthy

/-- The value that the rule judges; a conversion that fails leaves none. -/
def convert (c : Culture) (r : Rule α) (v : Value) : Value :=
  match r.converter with
  | none => v
  | some f =>
    match f.apply c v [] with
    | .ok w => w
    | .error _ => .noValue

/-- What the comparator says of a value. -/
def compare (read : α → Value) (r : Rule α) (v : Value) : RuleOutcome :=
  if r.comparator.test v (read r.argument) then .passed else .failed (r.message.text read)

/-- What the rule says of a value. -/
def outcome (c : Culture) (read : α → Value) (r : Rule α) (v : Value) : RuleOutcome :=
  if !r.isEnforced read then .skipped
  else
    let w := r.convert c v
    if w.isNull then
      match r.nullPolicy with
      | .treatAsValid => .passed
      | .treatAsInvalid => .failed (r.message.text read)
      | .skip => .skipped
      | .runComparator => r.compare read w
    else r.compare read w

/-- The result after a rule, where the rules before it have had the given one. -/
def validateAfter (c : Culture) (read : α → Value) (v : Value) (result : ValidationResult)
    (r : Rule α) : ValidationResult :=
  if !result.isValid && !r.strict then result
  else
    match r.outcome c read v with
    | .failed message => result.fail message
    | _ => result

/-- What rules say of a value. -/
def validate (c : Culture) (read : α → Value) (rules : List (Rule α)) (v : Value) :
    ValidationResult :=
  rules.foldl (validateAfter c read v) .valid

end Rule

end LiveForm
