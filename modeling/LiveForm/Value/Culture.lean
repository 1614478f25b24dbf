/-
  Text of values. A culture chooses the sign before the places of a number, the words for the two
  booleans and what stands between the items of a collection.
-/
import LiveForm.Value.Basic

namespace LiveForm

structure Culture where
  name : String
  decimalSeparator : Char
  trueText : String
  falseText : String
  listSeparator : String
deriving DecidableEq, Inhabited

namespace Culture

/-- The conventions that hold where no culture is chosen. -/
def invariant : Culture := ⟨"", '.', "true", "false", ", "⟩

/-- The invariant conventions with a name and another separator before the places. -/
def withSeparator (name : String) (separator : Char) : Culture :=
  { invariant with name := name, decimalSeparator := separator }

/-- The text of a decimal: its point is the separator of the culture. -/
def formatDecimal (c : Culture) (d : Decimal) : String :=
  String.ofList (d.render.map fun x => if x = '.' then c.decimalSeparator else x)

mutual

/-- The text of a value; nulls have none. -/
def format (c : Culture) : Value → String
  | .noValue | .null => ""
  | .boolean true => c.trueText
  | .boolean false => c.falseText
  | .integer n => Text.ofInt n.toInt
  | .decimal d => c.formatDecimal d
  | .string s => s
  | .collection items => formatItems c items
  | .object o => o.typeName

/-- The texts of the items with the separator between neighbours. -/
def formatItems (c : Culture) : List Value → String
  | [] => ""
  | [v] => format c v
  | v :: w :: vs => format c v ++ c.listSeparator ++ formatItems c (w :: vs)

end

end Culture

end LiveForm
