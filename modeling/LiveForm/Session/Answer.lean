/-
  Answers to commands, and the log of what handlers were told.
-/
import LiveForm.Filter.Registry
import LiveForm.Form.Error
import LiveForm.Form.Visibility
import LiveForm.Template.Cache
import LiveForm.Validation.Rule

namespace LiveForm

structure ProxyView where
  value : Value
  generation : Nat
  constant : Bool
  disposed : Bool
  template : Option String
  diagnostic : Option Diagnostic
  /-- The type names of the objects of the binding that are alive. -/
  model : Option String
  context : Option String

structure ValidatorView where
  result : ValidationResult
  disposed : Bool
  diagnostic : Option Diagnostic
  field : Value

structure RuleView where
  comparator : String
  strict : Bool
  onTargetUpdated : Bool
  nullPolicy : NullPolicy
  enforced : Bool
  argument : Value
  message : String
  liveMessage : Bool
  constantEnforcement : Bool

structure FieldView where
  key : String
  value : Value
  name : Option String
  tooltip : Option String
  visibility : Visibility
  enabled : Bool
  result : ValidationResult
  rules : List RuleView
  proxyCount : Nat

/-- What a command names or needs that is not there. -/
inductive Missing where
  | object (name : String)
  | proxy (name : String)
  | observer (id : String)
  | validator (name : String)
  | form (name : String)
  /-- A field of a form, by its key. -/
  | field (key : String)
  /-- A proxy of a field, by the key of the field. -/
  | part (key : String)
  /-- A filter that can convert a value. -/
  | converter (name : String)
  /-- Something that a handler is told of, outside of handlers. -/
  | event

/-- Says that nothing of a kind has a name. -/
def Missing.ofKind (kind name : String) : String := s!"no {kind} '{name}'"

def Missing.message : Missing → String
  | .object name => ofKind "object" name
  | .proxy name => ofKind "proxy" name
  | .observer id => ofKind "observer" id
  | .validator name => ofKind "validator" name
  | .form name => ofKind "form" name
  | .field key => ofKind "field" key
  | .part key => ofKind "proxy" key
  | .converter name => ofKind "filter" name
  | .event => "no event"

inductive Answer where
  | done
  | flag (b : Bool)
  | number (n : Nat)
  | text (s : String)
  | value (v : Value)
  | optionalValue (v : Option Value)
  | properties (ps : List (String × Value))
  | malformed (template : String) (e : SyntaxError)
  /-- The value of a template with its text, and why there is none. -/
  | evaluated (v : Value) (text : String) (failure : Option FilterError)
  | filterFailed (e : FilterError)
  /-- Names, arities and documentation of the filters. -/
  | filters (fs : List (String × Arity × String))
  /-- What came of each registration, the names registered in the end, and how many filters are in
      use. -/
  | registered (outcomes : List (Option RegistryError)) (names : List String) (inUse : Nat)
  | statistics (c : Template.Cache)
  | proxy (x : ProxyView)
  /-- What each rule and what all the rules say of each value. -/
  | judged (ruleCount : Nat) (onTargetUpdated : Bool)
      (verdicts : List (List RuleOutcome × ValidationResult))
  | result (r : ValidationResult)
  | validator (x : ValidatorView)
  | formFailed (e : FormError)
  | compiled (keys : List String) (valid : Bool)
  | field (x : Option FieldView)
  | fields (x : Option (Bool × List FieldView))
  /-- The fields of a form that are not valid. -/
  | failing (fs : List (String × ValidationResult))
  /-- Whether a form is valid, and the type names of the objects it is bound to. -/
  | bound (valid : Bool) (model context : Option String)
  | missing (m : Missing)
deriving Inhabited

/-- What a handler is told. -/
inductive Notice where
  /-- A property has changed, perhaps to the given value. -/
  | property (name : String) (v : Value)
  | value (v : Value)
  | result (r : ValidationResult)

inductive LogEntry where
  /-- A handler was told something. -/
  | told (id : String) (n : Notice)
  /-- A handler has carried out a command. -/
  | did (id : String) (a : Answer)

end LiveForm
