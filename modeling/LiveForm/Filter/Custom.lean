/-
  Filters and comparators of a caller's own making, beside the standard ones.
-/
import LiveForm.Filter.Basic
import LiveForm.Validation.Comparator

namespace LiveForm

namespace Filter

/-- Gives back the piped value. -/
def echo (name : String) (arity : Arity) (documentation : String) : Filter :=
  ⟨name, arity, documentation, fun _ v _ => .ok v, by rintro _ v args _ ⟨⟩; simp⟩

/-- Gives the arguments as a collection. -/
def arguments (name : String) (arity : Arity) (documentation : String) : Filter :=
  ⟨name, arity, documentation, fun _ _ args => .ok (.collection args), by
    rintro _ v args _ ⟨⟩
    simp [Value.objects, Value.objectsOfItems_eq_flatMap]⟩

/-- Always fails. -/
def failing (name : String) (arity : Arity) (documentation reason : String) : Filter :=
  ⟨name, arity, documentation, fun _ _ _ => .error (.failed name reason), by simp⟩

/-- Gives back integers and refuses everything else. -/
def integersOnly (name : String) (arity : Arity) (documentation : String) : Filter :=
  ⟨name, arity, documentation, fun _ v _ =>
    match v with
    | .integer n => .ok (.integer n)
    | v => .error (.ofOperand name 0 "Integer" v), by
    intro _ v _ w h
    cases v <;> simp at h
    subst h
    simp [Value.objects]⟩

end Filter

/-- Passes even integers and nothing else. -/
def Comparator.even : Comparator :=
  .custom "Even" fun v _ =>
    match v with
    | .integer n => n.toInt % 2 == 0
    | _ => false

end LiveForm
