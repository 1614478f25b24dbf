/-
  JSON documents.

  Members of an object that is read are in the order of their names, and each name occurs once; a
  document that is only written may have them in an order of its own. Whole numbers are kept exactly
  where they fit 64 bits; all others are binary floating-point numbers.
-/
import LiveForm.Number.Binary64

namespace LiveForm

inductive Json where
  | null
  | boolean (b : Bool)
  | integer (n : Int)
  | float (x : Binary64)
  | string (s : String)
  | array (items : List Json)
  | object (members : List (String × Json))
deriving Inhabited

namespace Json

/-- Puts a member where the order of names wants it, in place of one of the same name. -/
def putMember (name : String) (value : Json) : List (String × Json) → List (String × Json)
  | [] => [(name, value)]
  | (n, v) :: ms =>
    if name < n then (name, value) :: (n, v) :: ms
    else if name = n then (name, value) :: ms
    else (n, v) :: putMember name value ms

/-- The object of a list of members, of which the last of each name counts. -/
def ofMembers (members : List (String × Json)) : Json :=
  .object (members.foldl (fun ms m => putMember m.1 m.2 ms) [])

/-- The member of a name; nothing for a document that is no object. -/
def member? (j : Json) (name : String) : Option Json :=
  match j with
  | .object members => members.lookup name
  | _ => none

end Json

end LiveForm
