/-
  Comparators: the tests that validation rules make of a value against an argument.

  A test whose argument is of no use to it passes, as does one between values without an order.
-/
import LiveForm.Pattern.Reader
import LiveForm.Value.Culture

namespace LiveForm

inductive Comparator where
  | required
  | existsIn
  | notExistsIn
  | equal
  | notEqual
  | greaterThan
  | greaterThanOrEqual
  | lessThan
  | lessThanOrEqual
  | matchPattern
  | notMatchPattern
  | minLength
  | maxLength
  | isTrue
  | isFalse
  /-- A test of the value and the argument that is not built in. -/
  | custom (name : String) (test : Value → Value → Bool)

namespace Comparator

def name : Comparator → String
  | .required => "Required"
  | .existsIn => "ExistsIn"
  | .notExistsIn => "NotExistsIn"
  | .equal => "Equal"
  | .notEqual => "NotEqual"
  | .greaterThan => "GreaterThan"
  | .greaterThanOrEqual => "GreaterThanOrEqual"
  | .lessThan => "LessThan"
  | .lessThanOrEqual => "LessThanOrEqual"
  | .matchPattern => "MatchPattern"
  | .notMatchPattern => "NotMatchPattern"
  | .minLength => "MinLength"
  | .maxLength => "MaxLength"
  | .isTrue => "IsTrue"
  | .isFalse => "IsFalse"
  | .custom name _ => name

def builtIn : List Comparator := [
  .required, .existsIn, .notExistsIn, .equal, .notEqual, .greaterThan, .greaterThanOrEqual,
  .lessThan, .lessThanOrEqual, .matchPattern, .notMatchPattern, .minLength, .maxLength, .isTrue,
  .isFalse]

/-- The built-in comparator of a name. -/
def ofName? (name : String) : Option Comparator := builtIn.find? (·.name == name)

/-- Whether two values have no order or one that is accepted. -/
def ordered (v arg : Value) (accept : Ordering → Bool) : Bool := (v.order? arg).all accept

/-- Whether the text of a value matches the pattern that the argument is; nothing if the argument is
    no pattern. -/
def matches? (v arg : Value) : Option Bool := do
  let p ← Pattern.read? (← arg.string?)
  some (p.isMatch (Culture.invariant.format v))

/-- The length that an argument sets as a bound: a number without its places, if it is not negative
    and fits 64 bits. -/
def lengthBound? : Value → Option Nat
  | .integer n => if 0 ≤ n.toInt then some n.toInt.toNat else none
  | .decimal d =>
    if 0 ≤ d.coefficient ∧ d.truncated < 0x10000000000000000 then some d.truncated.toNat else none
  | _ => none

/-- The length of a value: the number of items of a collection, else of characters of the text. -/
def lengthOf : Value → Nat
  | .noValue | .null => 0
  | .collection items => items.length
  | v => (Culture.invariant.format v).length

/-- Whether a value passes the test against an argument. -/
def test : Comparator → Value → Value → Bool
  | .required, v, _ => !v.isEmpty
  | .existsIn, v, arg => arg.items?.all (Value.holds · v)
  | .notExistsIn, v, arg => arg.items?.all (!Value.holds · v)
  | .equal, v, arg => v == arg
  | .notEqual, v, arg => v != arg
  | .greaterThan, v, arg => ordered v arg Ordering.isGT
  | .greaterThanOrEqual, v, arg => ordered v arg Ordering.isGE
  | .lessThan, v, arg => ordered v arg Ordering.isLT
  | .lessThanOrEqual, v, arg => ordered v arg Ordering.isLE
  | .matchPattern, v, arg => (matches? v arg).getD true
  | .notMatchPattern, v, arg => (matches? v arg).all (!·)
  | .minLength, v, arg => (lengthBound? arg).all (· ≤ lengthOf v)
  | .maxLength, v, arg => (lengthBound? arg).all (lengthOf v ≤ ·)
  | .isTrue, v, _ => v == .boolean true
  | .isFalse, v, _ => v == .boolean false
  | .custom _ test, v, arg => test v arg

end Comparator

end LiveForm
