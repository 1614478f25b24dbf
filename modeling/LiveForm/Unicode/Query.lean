/-
  Sets of characters by the names of Unicode properties and their values.

  Names are compared loosely: case, blanks, hyphens and low lines do not count, and neither do
  characters beyond ASCII or a leading `is`.
-/
import LiveForm.Unicode.Age
import LiveForm.Unicode.Boundary

namespace LiveForm.CharSet

/-- A name without what does not count in it. The short name `isc` is kept apart from `c`. -/
def looseName (name : List Char) : String :=
  let kept := fun (cs : List Char) =>
    (cs.filter fun c => c.toNat < 0x80 && !(c == ' ' || c == '-' || c == '_')).map Char.toLower
  String.ofList (match name with
    | a :: b :: rest =>
      if a.toLower = 'i' ∧ b.toLower = 's' then
        if kept rest = ['c'] then ['i', 's', 'c'] else kept rest
      else kept name
    | _ => kept name)

/-- The set of a property, a general category or a script. -/
def ofName? (name : List Char) : Option CharSet :=
  let n := looseName name
  (NamedSet.find? properties n).orElse fun _ =>
    (NamedSet.find? categories n).orElse fun _ => NamedSet.find? scripts n

/-- The sets of the values of a property. -/
def valuesOf? : String → Option (List NamedSet)
  | "gc" | "generalcategory" => some categories
  | "sc" | "script" => some scripts
  | "scx" | "scriptextensions" => some scriptExtensions
  | "age" => some ages
  | "gcb" | "graphemeclusterbreak" => some Grapheme.breakClasses
  | "wb" | "wordbreak" => some Word.breakClasses
  | "sb" | "sentencebreak" => some Sentence.breakClasses
  | _ => none

/-- The set of the characters that have a value for a property. An age holds all that is as old or
    older. -/
def ofValue? (property value : List Char) : Option CharSet := do
  NamedSet.find? (← valuesOf? (looseName property)) (looseName value)

end LiveForm.CharSet
