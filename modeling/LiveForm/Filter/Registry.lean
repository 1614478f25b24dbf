/-
  Registries: the filters that expressions can use, by name.
-/
import LiveForm.Filter.Standard
import LiveForm.Text.Identifier
import LiveForm.Text.Quoted

namespace LiveForm

/-- The filters in the order in which they were registered. No two have the same name. -/
structure Registry where
  filters : List Filter
deriving Inhabited

inductive RegistryError where
  | duplicate (name : String)
  /-- A name that is no identifier, so that no expression could use it. -/
  | invalidName (name : String)
deriving DecidableEq, Inhabited

def RegistryError.message : RegistryError → String
  | .duplicate name => "Filter '" ++ name ++ "' is already registered"
  | .invalidName name => "'" ++ name ++ "' is not a valid filter name"

namespace Registry

def empty : Registry := ⟨[]⟩

def standard : Registry := ⟨Filter.standard⟩

/-- The filter of a name. -/
def resolve (r : Registry) (name : String) : Option Filter :=
  r.filters.find? (·.name == name)

def size (r : Registry) : Nat := r.filters.length

/-- The names of the filters in alphabetical order. -/
def names (r : Registry) : List String := (r.filters.map Filter.name).mergeSort

/-- Adds a filter; its name must be new and an identifier. -/
def register (r : Registry) (f : Filter) : Except RegistryError Registry :=
  if !Identifier.isValid f.name.toList then .error (.invalidName f.name)
  else if (r.resolve f.name).isSome then .error (.duplicate f.name)
  else .ok ⟨r.filters ++ [f]⟩

/-- Applies the filter of a name to a value and as many arguments as it accepts. -/
def apply (r : Registry) (c : Culture) (name : String) (v : Value) (args : List Value) :
    Except FilterError Value :=
  match r.resolve name with
  | none => .error (.unknown name)
  | some f =>
    if f.arity.accepts args.length then f.apply c v args
    else .error (.arity name f.arity args.length)

/-- The debug view of a registry, which shows the names. -/
def debug (r : Registry) : String :=
  "FilterRegistry \x7b filters: [" ++ Text.join ", " (r.names.map Text.quoted) ++ "] \x7d"

end Registry

end LiveForm
