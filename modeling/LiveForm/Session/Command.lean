/-
  Commands: what can be asked of a session.

  Commands speak of the things in a session by their names, and a name is looked up when the command
  is carried out. A command that installs a handler has a script: further commands, which are
  carried out whenever the handler is told of something. Each of them may have a condition, which can
  look at what the handler is told and at all that can be read in the session at that moment.
-/
import LiveForm.Form.Definition
import LiveForm.Session.Answer

namespace LiveForm

/-- A value without objects in it. A command can speak of an object only by its name. -/
inductive Scalar where
  | noValue
  | null
  | boolean (b : Bool)
  | integer (n : Int64)
  | decimal (d : Decimal)
  | string (s : String)
deriving Inhabited

/-- How a command describes a value. -/
inductive Operand where
  | value (v : Scalar)
  | collection (items : List Operand)
  /-- The object of a name. -/
  | object (name : String)
  /-- The value of a document, with new objects for those in it. -/
  | document (j : Json)
  /-- The value that the handler is told of. -/
  | event
  /-- The integer that the handler is told of, plus a number; any other value as it is. -/
  | eventPlus (n : Int64)
  /-- The number of errors that the handler is told of. -/
  | errorCount
deriving Inhabited

def Scalar.value : Scalar → Value
  | .noValue => .noValue
  | .null => .null
  | .boolean b => .boolean b
  | .integer n => .integer n
  | .decimal d => .decimal d
  | .string s => .string s

@[simp] theorem Scalar.objects_value (v : Scalar) : v.value.objects = [] := by cases v <;> rfl

/-- The names of the objects of a binding. -/
structure BindingNames where
  model : Option String
  context : Option String
deriving Inhabited

/-- What a rule reads: a proxy, or a value that stays the same. -/
inductive SourceNames where
  | proxy (name : String)
  | constant (v : Operand)
deriving Inhabited

/-- A rule in the words of a command. What is not given keeps its default: nothing to compare with,
    always enforced, an empty message. -/
structure RuleNames where
  comparator : Comparator
  argument : Option SourceNames
  enforcement : Option SourceNames
  message : Option (Message SourceNames)
  nullPolicy : NullPolicy
  strict : Bool
  onTargetUpdated : Bool
  converter : Option String

/-- A proxy of a field. -/
inductive FieldPart where
  | value
  | visible
  | enabled
  /-- The proxy that has this place among all of them. -/
  | nth (n : Nat)

/-- Something with a debug view. -/
inductive DebugSubject where
  | proxy (name : String)
  /-- The binding of a proxy. -/
  | binding (name : String)
  | object (name : String)
  | validator (name : String)
  | registry

/-! ## Conditions -/

/-- What a handler is told, as far as its commands can refer to it. -/
structure Occasion where
  value : Value
  errors : Nat

/-- What can be read in a session, by name. -/
structure Readable where
  object : String → Option ObjectRef
  property : ObjectId → String → Option Value
  proxy : String → Option ProxyView
  validator : String → Option ValidatorView
  /-- The field of a form that has a key. -/
  field : String → String → Option FieldView

/-- When a command of a script is carried out. -/
inductive Condition where
  | always
  /-- The handler is told just this value. -/
  | told (x : Operand)
  | test (p : Occasion → Readable → Bool)

/-! ## Commands -/

mutual

inductive Command where
  -- Objects
  | newObject (name typeName : String) (properties : List (String × Operand))
  | newObjectOf (name : String) (j : Json)
  | set (name property : String) (v : Operand)
  | remove (name property : String)
  | notify (name property : String)
  | get (name property : String)
  | properties (name : String)
  | subscriberCount (name : String)
  | dropObject (name : String)
  | observe (name property : String) (script : Script)
  | unobserve (id : String)
  -- Templates and filters
  | evaluate (template : String) (b : BindingNames)
  | applyFilter (name : String) (v : Operand) (args : List Operand)
  | filters
  /-- Registers filters on the side, without changing the registry in use. -/
  | register (filters : List Filter)
  | statistics
  -- Proxies
  | bind (name template : String) (limit : Option Nat) (b : BindingNames)
  | constant (name : String) (v : Operand)
  | clone (name other : String)
  | proxy (name : String)
  | peek (name : String)
  | refresh (name : String)
  | setModel (name object : String)
  | setContext (name object : String)
  | setBinding (name : String) (b : BindingNames)
  | dispose (name : String)
  | dropProxy (name : String)
  /-- Installs a listener. Where `kept` holds, it can be removed by its name. -/
  | listen (name : String) (kept : Bool) (script : Script)
  | unlisten (id : String)
  | debug (subject : DebugSubject)
  -- Validation
  | judge (rules : List RuleNames) (values : List Operand)
  | newValidator (name field : String) (rules : List RuleNames) (limit : Option Nat)
  | validator (name : String)
  | validate (name : String)
  | targetUpdated (name : String)
  | disposeValidator (name : String)
  | dropValidator (name : String)
  | watch (name : String) (script : Script)
  | unwatch (id : String)
  -- Forms
  /-- Makes a form of the text of its definitions. -/
  | compile (name definitions : String) (b : BindingNames)
  | compileFields (name : String) (ds : List FieldDefinition) (b : BindingNames)
  | field (name key : String)
  | fields (name : String)
  | validateForm (name : String)
  | setFormModel (name object : String)
  | setFormContext (name object : String)
  | setFormBinding (name : String) (b : BindingNames)
  | disposeForm (name : String)
  | dropForm (name : String)
  | takeProxy (name key : String) (part : FieldPart) (proxy : String)
  | takeValidator (name key validator : String)

/-- What a handler does, under the name by which the log and later commands know it. -/
inductive Script where
  | mk (id : String) (actions : List Action)

/-- A command in a script. -/
inductive Action where
  | when (condition : Condition) (c : Command)

end

instance : Inhabited Command := ⟨.filters⟩

/-- A command that may be for one value only. -/
abbrev Action.mk : Option Operand → Command → Action
  | none, c => .when .always c
  | some x, c => .when (.told x) c

def Script.id : Script → String
  | .mk id _ => id

def Script.actions : Script → List Action
  | .mk _ actions => actions

end LiveForm
