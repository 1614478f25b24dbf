/-
  Values of JSON documents.

  An integer of 64 bits stays one. Any other number becomes a decimal by way of its shortest text,
  and `null` if no decimal comes near it. An object becomes a new object of a store.
-/
import LiveForm.Json.Basic
import LiveForm.Store.Basic

namespace LiveForm

/-- The value of an integer. -/
def Value.ofInt (n : Int) : Value :=
  if -0x8000000000000000 ≤ n ∧ n < 0x8000000000000000 then .integer (.ofInt n)
  else ((Decimal.ofParts? n 0).map .decimal).getD .null

/-- The value of a floating-point number. -/
def Value.ofBinary64 (x : Binary64) : Value :=
  ((Decimal.ofText? x.render).map .decimal).getD .null

namespace Store

variable {H : Type}

/-- The type name of objects that come from documents. -/
def documentType : String := "Object"

mutual

/-- The value of a document, with new objects for the objects in it. -/
def newValue (s : Store H) : Json → Store H × Value
  | .null => (s, .null)
  | .boolean b => (s, .boolean b)
  | .integer n => (s, .ofInt n)
  | .float x => (s, .ofBinary64 x)
  | .string t => (s, .string t)
  | .array items =>
    let (s, vs) := newValues s items
    (s, .collection vs)
  | .object members =>
    let (s, o) := s.newObject documentType
    (setMembers s o.id members, .object o)

def newValues (s : Store H) : List Json → Store H × List Value
  | [] => (s, [])
  | j :: js =>
    let (s, v) := newValue s j
    let (s, vs) := newValues s js
    (s, v :: vs)

/-- Gives an object the members of a document as properties. -/
def setMembers (s : Store H) (o : ObjectId) : List (String × Json) → Store H
  | [] => s
  | (name, j) :: ms =>
    let (s, v) := newValue s j
    setMembers (s.setProperty o name v) o ms

end

/-- A new object with the members of a document as properties; there are none if the document is no
    object. -/
def newObjectOf (s : Store H) (j : Json) : Store H × ObjectRef :=
  let (s, o) := s.newObject documentType
  match j with
  | .object members => (s.setMembers o.id members, o)
  | _ => (s, o)

end Store

end LiveForm
