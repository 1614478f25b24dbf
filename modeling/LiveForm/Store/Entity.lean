/-
  What a store holds: objects, proxies, validators and forms, and what each of them keeps alive.
-/
import LiveForm.Evaluation
import LiveForm.Guard
import LiveForm.Store.Listeners
import LiveForm.Validation.Rule
import LiveForm.Value.Debug

namespace LiveForm

structure ProxyId where
  index : Nat
deriving DecidableEq, Inhabited

structure ValidatorId where
  index : Nat
deriving DecidableEq, Inhabited

structure FormId where
  index : Nat
deriving DecidableEq, Inhabited

inductive Entity where
  | object (o : ObjectId)
  | proxy (p : ProxyId)
  | validator (v : ValidatorId)
  | form (f : FormId)
deriving DecidableEq

/-- Something that is told of a change; handlers are of type `H`. -/
inductive Listener (H : Type) where
  | proxy (p : ProxyId)
  | validator (v : ValidatorId)
  | handler (h : H)

/-! ## Objects -/

/-- A listener to one property of an object. -/
structure Subscriber (H : Type) where
  property : String
  listener : Listener H

structure ObjectState (H : Type) where
  typeName : String
  /-- The properties in the order in which they were first set. -/
  properties : List (String × Value)
  subscribers : Roster (Subscriber H)

/-! ## Proxies -/

/-- What a proxy shows: a fixed value, or what a template gives under the evaluator that the proxy has
    been made with. -/
inductive ProxySource where
  | constant (v : Value)
  | template (ev : Evaluator) (t : Template)

namespace ProxySource

def isConstant : ProxySource → Bool
  | .constant _ => true
  | .template _ _ => false

/-- The source as it is shown in reports. -/
def text : ProxySource → String
  | .constant v => v.debug
  | .template _ t => t.source

end ProxySource

/-- The objects that the two roots stand for. A binding does not keep them alive. -/
structure Binding where
  model : Option ObjectId
  context : Option ObjectId
deriving DecidableEq, Inhabited

/-- A value that follows the objects that it is computed from. -/
structure ProxyState (H : Type) where
  source : ProxySource
  binding : Binding
  /-- The value shown. -/
  cached : Value
  /-- How often the value has been replaced. -/
  generation : Nat
  guard : Guard
  /-- The subscriptions held: an object, and a number in its roster. -/
  subscriptions : List (ObjectId × Nat)
  listeners : ListenerSet (Listener H)
  disposed : Bool
  /-- How the last run ended. -/
  lastRun : Option RunOutcome
  /-- The warning of the last run that was cut off. -/
  diagnostic : Option Diagnostic

/-- A proxy that has not been subscribed to anything, nor run. -/
def ProxyState.fresh {H : Type} (source : ProxySource) (b : Binding) (v : Value) (limit : Nat) :
    ProxyState H where
  source := source
  binding := b
  cached := v
  generation := 0
  guard := .ofLimit limit
  subscriptions := []
  listeners := .empty
  disposed := false
  lastRun := none
  diagnostic := none

/-! ## Validators -/

/-- The result of rules on the value of a field, which follows the proxies that it depends on. -/
structure ValidatorState (H : Type) where
  field : ProxyId
  rules : List (Rule ProxyId)
  result : ValidationResult
  guard : Guard
  /-- The subscriptions held: a proxy, and a number in its roster. -/
  subscriptions : List (ProxyId × Nat)
  listeners : ListenerSet (Listener H)
  disposed : Bool
  lastRun : Option RunOutcome
  diagnostic : Option Diagnostic

/-- A validator that does not listen to anything, nor has run. -/
def ValidatorState.fresh {H : Type} (field : ProxyId) (rules : List (Rule ProxyId))
    (r : ValidationResult) (limit : Nat) : ValidatorState H where
  field := field
  rules := rules
  result := r
  guard := .ofLimit limit
  subscriptions := []
  listeners := .empty
  disposed := false
  lastRun := none
  diagnostic := none

/-! ## Forms -/

structure Field where
  key : String
  value : ProxyId
  name : Option ProxyId
  tooltip : Option ProxyId
  visible : ProxyId
  enabled : ProxyId
  hiddenOnFalse : Bool
  validator : ValidatorId

structure FormState where
  fields : List Field
  binding : Binding

/-! ## What is kept alive -/

/-- The objects in a value. -/
def Value.entities (v : Value) : List Entity := v.objects.map .object

/-- An object keeps the values of its properties. -/
def ObjectState.entities {H : Type} (x : ObjectState H) : List Entity :=
  x.properties.flatMap fun p => p.2.entities

/-- A proxy keeps its value and the constant that it shows. -/
def ProxyState.entities {H : Type} (x : ProxyState H) : List Entity :=
  x.cached.entities ++ match x.source with
    | .constant v => v.entities
    | .template _ _ => []

/-- A validator keeps the proxies of its field and its rules. -/
def ValidatorState.entities {H : Type} (x : ValidatorState H) : List Entity :=
  (x.field :: x.rules.flatMap Rule.sources).map .proxy

namespace Field

/-- The proxies of a field but for those of its rules. -/
def ownProxies (x : Field) : List ProxyId :=
  x.value :: (x.name.toList ++ x.tooltip.toList ++ [x.visible, x.enabled])

end Field

/-- A form keeps the proxies and validators of its fields. -/
def FormState.entities (x : FormState) : List Entity :=
  x.fields.flatMap fun f => .validator f.validator :: f.ownProxies.map .proxy

end LiveForm
