/-
  The debug view of values: every value with its kind, strings in quotes.
-/
import LiveForm.Value.Basic
import LiveForm.Text.Quoted

namespace LiveForm.Value

mutual

def debug : Value → String
  | .noValue => "NoValue"
  | .null => "Null"
  | .boolean b => "Boolean(" ++ toString b ++ ")"
  | .integer n => "Integer(" ++ Text.ofInt n.toInt ++ ")"
  | .decimal d => "Decimal(" ++ String.ofList d.render ++ ")"
  | .string s => "String(" ++ Text.quoted s ++ ")"
  | .collection items => "[" ++ debugItems items ++ "]"
  | .object o => "Object(" ++ o.typeName ++ ")"

def debugItems : List Value → String
  | [] => ""
  | [v] => debug v
  | v :: w :: vs => debug v ++ ", " ++ debugItems (w :: vs)

end

end LiveForm.Value
