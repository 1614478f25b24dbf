/-
  Why a form cannot be made from its definitions.
-/
import LiveForm.Template.Error
import LiveForm.Text.Quoted

namespace LiveForm

inductive FormError where
  /-- A malformed template; `part` names what it is for. -/
  | template (field part source : String) (cause : SyntaxError)
  | unknownComparator (field name : String)
  /-- No filter of the name takes a value without arguments. -/
  | unknownConverter (field name : String)
  | duplicateField (key : String)
  /-- A text that holds no definitions. -/
  | definition
deriving DecidableEq, Inhabited

namespace FormError

def message : FormError → String
  | .template field part source cause =>
    "Invalid " ++ part ++ " template for field '" ++ field ++ "' (" ++ Text.quoted source ++
      "): " ++ cause.message
  | .unknownComparator field name =>
    "Unknown comparator '" ++ name ++ "' on field '" ++ field ++ "'"
  | .unknownConverter field name =>
    "Unknown converter '" ++ name ++ "' on field '" ++ field ++ "'"
  | .duplicateField key => "Duplicate field key '" ++ key ++ "'"
  | .definition => "Invalid form definition"

/-- The error as a diagnostic, which points into the template where one is malformed. -/
def diagnostic (e : FormError) : Diagnostic :=
  match e with
  | .template _ _ source cause => { cause.diagnostic source with message := e.message }
  | e => .ofMessage .error .invalidDefinition e.message

end FormError

end LiveForm
