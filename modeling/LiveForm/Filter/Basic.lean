/-
  Filters: named functions on values, which expressions apply with `|`.
-/
import LiveForm.Diagnostic
import LiveForm.Value.Culture

namespace LiveForm

/-- How many arguments are taken: at least `min`, and at most `max` if that is given. -/
structure Arity where
  min : Nat
  max : Option Nat
deriving DecidableEq, Inhabited

/-- Why a filter has no result. -/
inductive FilterError where
  /-- No filter has the name. -/
  | unknown (name : String)
  | arity (name : String) (accepted : Arity) (actual : Nat)
  /-- An operand is of the wrong type. The piped value is operand 0. -/
  | operand (name : String) (index : Nat) (expected actual : String)
  | failed (name reason : String)
deriving DecidableEq, Inhabited

/-- A filter, built in or custom. What it gives depends on its arguments and the culture alone. -/
structure Filter where
  name : String
  arity : Arity
  documentation : String
  /-- The result for the piped value and the arguments, of which there are as many as `arity`
      accepts. -/
  apply : Culture → Value → List Value → Except FilterError Value
  /-- A filter makes no objects: those in its result come from the piped value and the arguments. -/
  objects_subset : ∀ c v args w, apply c v args = .ok w →
    w.objects ⊆ v.objects ++ args.flatMap Value.objects

namespace Arity

def exactly (n : Nat) : Arity := ⟨n, some n⟩

def accepts (a : Arity) (count : Nat) : Bool :=
  decide (a.min ≤ count) && a.max.all fun max => decide (count ≤ max)

def text (a : Arity) : String :=
  match a.max with
  | some max => if max = a.min then Text.ofNat max else Text.ofNat a.min ++ "-" ++ Text.ofNat max
  | none => "at least " ++ Text.ofNat a.min

end Arity

namespace FilterError

/-- The error of an operand whose type is not the one expected. -/
def ofOperand (name : String) (index : Nat) (expected : String) (actual : Value) : FilterError :=
  .operand name index expected actual.typeName

def message : FilterError → String
  | .unknown name => "Unknown filter '" ++ name ++ "'"
  | .arity name accepted actual =>
    "Filter '" ++ name ++ "' expects " ++ accepted.text ++ " argument(s), got " ++ Text.ofNat actual
  | .operand name index expected actual =>
    "Filter '" ++ name ++ "' operand " ++ Text.ofNat index ++ " expects " ++ expected ++
      ", got " ++ actual
  | .failed name reason => "Filter '" ++ name ++ "' failed: " ++ reason

def code : FilterError → DiagnosticCode
  | .unknown _ => .unknownFilter
  | .arity .. => .invalidArity
  | .operand .. | .failed .. => .filterFailed

def diagnostic (e : FilterError) : Diagnostic := .ofMessage .error e.code e.message

end FilterError

end LiveForm
