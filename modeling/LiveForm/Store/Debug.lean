/-
  The debug views of what a store holds.
-/
import LiveForm.Store.Basic

namespace LiveForm

/-- A record in a debug view: its name, and its fields with their views. -/
def debugRecord (name : String) (fields : List (String × String)) : String :=
  name ++ " \x7b " ++ Text.join ", " (fields.map fun f => f.1 ++ ": " ++ f.2) ++ " \x7d"

/-- An optional text in a debug view. -/
def debugOption : Option String → String
  | none => "None"
  | some s => "Some(" ++ Text.quoted s ++ ")"

def ValidationResult.debug (r : ValidationResult) : String :=
  debugRecord "ValidationResult" [
    ("is_valid", toString r.isValid),
    ("errors", "[" ++ Text.join ", " (r.errors.map Text.quoted) ++ "]")]

namespace Store

variable {H : Type}

/-- The type name of an object that is bound and alive. -/
def boundType (s : Store H) (o : Option ObjectId) : Option String :=
  (o.bind s.object?).map fun x => x.typeName

def debugBinding (s : Store H) (b : Binding) : String :=
  debugRecord "BindingContext" [
    ("model", debugOption (s.boundType b.model)),
    ("context", debugOption (s.boundType b.context))]

end Store

def ObjectState.debug {H : Type} (x : ObjectState H) : String :=
  debugRecord "ObservableObject" [
    ("type_name", Text.quoted x.typeName),
    ("properties", "\x7b" ++
      Text.join ", " (x.properties.map fun p => Text.quoted p.1 ++ ": " ++ p.2.debug) ++ "\x7d"),
    ("subscribers", Text.ofNat x.subscribers.size)]

def ProxyState.debug {H : Type} (x : ProxyState H) : String :=
  debugRecord "Proxy" [
    ("source", Text.quoted x.source.text),
    ("value", x.cached.debug),
    ("generation", Text.ofNat x.generation),
    ("disposed", toString x.disposed)]

/-- The debug view of a validator; `field` is that of its field. -/
def ValidatorState.debug {H : Type} (x : ValidatorState H) (field : String) : String :=
  debugRecord "FieldValidator" [
    ("field", field),
    ("rules", Text.ofNat x.rules.length),
    ("result", x.result.debug)]

end LiveForm
