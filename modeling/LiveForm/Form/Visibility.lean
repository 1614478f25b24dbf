/-
  Visibility of fields.
-/
import LiveForm.Value.Basic

namespace LiveForm

inductive Visibility where
  | visible
  /-- Not shown, but with its place kept. -/
  | hidden
  /-- Not shown, and without a place. -/
  | collapsed
deriving DecidableEq, Inhabited

namespace Visibility

/-- Everything is shown but what is null or false. -/
def ofValue (v : Value) (hiddenOnFalse : Bool) : Visibility :=
  let shown := match v with
    | .boolean b => b
    | v => !v.isNull
  if shown then .visible else if hiddenOnFalse then .hidden else .collapsed

def text : Visibility → String
  | .visible => "Visible"
  | .hidden => "Hidden"
  | .collapsed => "Collapsed"

def isVisible (v : Visibility) : Bool := v == .visible

end Visibility

end LiveForm
