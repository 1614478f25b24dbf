/-
  The values of properties, templates and rules.

  Equality is the equality of the domain: integers and decimals are compared as numbers, collections
  item by item, and objects by identity, to which the name of the type belongs. An order is defined between numbers, between strings and
  between booleans only.
-/
import LiveForm.Number.Decimal

namespace LiveForm

/-- Identity of an object. -/
structure ObjectId where
  index : Nat
deriving DecidableEq, Inhabited

/-- A reference to an object, with the name of its type, which never changes. -/
structure ObjectRef where
  id : ObjectId
  typeName : String
deriving DecidableEq, Inhabited

inductive Value where
  /-- No property is there to be read. -/
  | noValue
  | null
  | boolean (b : Bool)
  | integer (n : Int64)
  | decimal (d : Decimal)
  | string (s : String)
  | collection (items : List Value)
  | object (o : ObjectRef)
deriving Inhabited

namespace Value

def isNoValue : Value → Bool
  | .noValue => true
  | _ => false

/-- Null or not there. -/
def isNull : Value → Bool
  | .noValue | .null => true
  | _ => false

/-- Null, or a string or collection that holds nothing. -/
def isEmpty : Value → Bool
  | .noValue | .null => true
  | .string s => s.isEmpty
  | .collection items => items.isEmpty
  | _ => false

/-- Whether a condition holds on the value: not null, not zero, not empty. -/
def isTruthy : Value → Bool
  | .noValue | .null => false
  | .boolean b => b
  | .integer n => n != 0
  | .decimal d => !d.isZero
  | .string s => !s.isEmpty
  | .collection items => !items.isEmpty
  | .object _ => true

/-- The number that the value is. -/
def decimal? : Value → Option Decimal
  | .integer n => some (.ofInt64 n)
  | .decimal d => some d
  | _ => none

def string? : Value → Option String
  | .string s => some s
  | _ => none

def items? : Value → Option (List Value)
  | .collection items => some items
  | _ => none

def object? : Value → Option ObjectRef
  | .object o => some o
  | _ => none

mutual

/-- The objects in a value. -/
def objects : Value → List ObjectId
  | .object o => [o.id]
  | .collection items => objectsOfItems items
  | _ => []

def objectsOfItems : List Value → List ObjectId
  | [] => []
  | v :: vs => objects v ++ objectsOfItems vs

end

theorem objectsOfItems_eq_flatMap (vs : List Value) :
    objectsOfItems vs = vs.flatMap objects := by
  induction vs with
  | nil => rfl
  | cons v vs ih => rw [objectsOfItems, ih, List.flatMap_cons]

mutual

/-- Equality of values. -/
def same : Value → Value → Bool
  | .noValue, .noValue => true
  | .null, .null => true
  | .boolean a, .boolean b => a == b
  | .integer a, .integer b => a == b
  | .decimal a, .decimal b => a.compare b == .eq
  | .integer a, .decimal b => (Decimal.ofInt64 a).compare b == .eq
  | .decimal a, .integer b => (Decimal.ofInt64 b).compare a == .eq
  | .string a, .string b => a == b
  | .collection a, .collection b => sameItems a b
  | .object a, .object b => a == b
  | _, _ => false

/-- Equality of collections: as many items, and equal ones at each place. -/
def sameItems : List Value → List Value → Bool
  | [], [] => true
  | a :: as, b :: bs => same a b && sameItems as bs
  | _, _ => false

end

instance : BEq Value := ⟨same⟩

/-- The order of two strings, two booleans or two numbers. -/
def order? : Value → Value → Option Ordering
  | .string a, .string b => some (compare a b)
  | .boolean a, .boolean b => some (compare a b)
  | .integer a, .integer b => some (compare a.toInt b.toInt)
  | a, b => do some ((← a.decimal?).compare (← b.decimal?))

/-- Whether a collection holds an item equal to the value. -/
def holds (items : List Value) (v : Value) : Bool := items.any (same · v)

/-- The name of the kind of value, of the type for objects. -/
def typeName : Value → String
  | .noValue => "NoValue"
  | .null => "Null"
  | .boolean _ => "Boolean"
  | .integer _ => "Integer"
  | .decimal _ => "Decimal"
  | .string _ => "String"
  | .collection _ => "Collection"
  | .object o => o.typeName

end Value

end LiveForm
