/-
  Definitions of fields and validators, and their JSON form.

  A definition is an object whose members have fixed names, or an array of their values in the order
  of the names. Members of other names count for nothing, and a member that is left out has a
  default. Where a member is optional, `null` stands for its absence.

  * `FieldDefinition.readAll?` reads a text with a list of fields;
  * `FieldDefinition.writeAll` writes such a text, in which each field has all its members.
-/
import LiveForm.Json.Syntax
import LiveForm.Json.Writer
import LiveForm.Validation.Rule

namespace LiveForm

/-- What the value is compared with: a template, or a value that stays the same. -/
inductive ArgumentDefinition where
  | template (source : String)
  | value (j : Json)
deriving Inhabited

structure ValidatorDefinition where
  comparator : String
  argument : Option ArgumentDefinition
  /-- The template that tells whether the rule is enforced. -/
  isEnforced : Option String
  /-- The template of the message. -/
  message : Option String
  nullPolicy : NullPolicy
  strict : Option Bool
  converter : Option String
  onTargetUpdated : Option Bool
deriving Inhabited

structure FieldDefinition where
  /-- The property of the model that the field edits. -/
  key : String
  /-- The template of the label. -/
  name : Option String
  tooltip : Option String
  isVisible : Option String
  isEnabled : Option String
  /-- Whether a field that is not visible keeps its place. -/
  hiddenOnFalse : Bool
  validators : List ValidatorDefinition
deriving Inhabited

namespace Json.Syntax

/-- The text of a string. -/
def text? : Syntax → Option String
  | .string s => s
  | _ => none

def boolean? : Syntax → Option Bool
  | .boolean b => some b
  | _ => none

/-- What `read` makes of it, or nothing for `null`. -/
def optional? {α : Type} (read : Syntax → Option α) : Syntax → Option (Option α)
  | .null => some none
  | s => (read s).map some

/-- What `read` makes of a member that is there, and a default for one that is not. -/
def orDefault? {α : Type} (read : Syntax → Option α) (default : α) : Option Syntax → Option α
  | none => some default
  | some s => read s

/-- An optional text, absent by default. -/
def optionalText? : Option Syntax → Option (Option String) := orDefault? (optional? text?) none

/-- An optional boolean, absent by default. -/
def optionalBoolean? : Option Syntax → Option (Option Bool) :=
  orDefault? (optional? boolean?) none

/-- What `read` makes of the items of an array. -/
def array? {α : Type} (read : Syntax → Option α) : Syntax → Option (List α)
  | .array items => items.mapM read
  | _ => none

/-- The values of members with the given names, in their order. A name may stand once only. -/
def membersOf? (names : List String) : Syntax → Option (List (Option Syntax))
  | .array items =>
    if items.length ≤ names.length then
      some (items.map some ++ List.replicate (names.length - items.length) none)
    else none
  | .object members =>
    if members.all (fun m => m.1.isSome) ∧
        names.all (fun n => (members.countP fun m => m.1 == some n) ≤ 1) then
      some (names.map fun n => members.lookup (some n))
    else none
  | _ => none

end Json.Syntax

/-- Reads the name of a policy, or an object with this name and `null`. -/
def NullPolicy.read? : Json.Syntax → Option NullPolicy
  | .string s => do ofName? (← s)
  | .object [(name, .null)] => do ofName? (← name)
  | _ => none

namespace ArgumentDefinition

/-- The levels of nesting around an argument: the fields, one of them, its validators, one of
    them. -/
def depth : Nat := 4

/-- Reads a string as a template and any other document as a value. -/
def read? (s : Json.Syntax) : Option ArgumentDefinition := do
  match ← s.json? (Json.maxNesting - depth) with
  | .string source => some (.template source)
  | j => some (.value j)

def json : ArgumentDefinition → Json
  | .template source => .string source
  | .value j => j

end ArgumentDefinition

/-- A member that may be absent. -/
def Json.ofOption {α : Type} (write : α → Json) : Option α → Json
  | none => .null
  | some a => write a

namespace ValidatorDefinition

def memberNames : List String := [
  "comparator", "argument", "isEnforced", "message", "nullPolicy", "strict", "converter",
  "validatesOnTargetUpdated"]

/-- Reads a validator; the comparator must be given. -/
def read? (s : Json.Syntax) : Option ValidatorDefinition := do
  match ← s.membersOf? memberNames with
  | [comparator, argument, isEnforced, message, nullPolicy, strict, converter, onTargetUpdated] =>
    some {
      comparator := ← (← comparator).text?
      argument :=
        ← Json.Syntax.orDefault? (Json.Syntax.optional? ArgumentDefinition.read?) none argument
      isEnforced := ← Json.Syntax.optionalText? isEnforced
      message := ← Json.Syntax.optionalText? message
      nullPolicy := ← Json.Syntax.orDefault? NullPolicy.read? .runComparator nullPolicy
      strict := ← Json.Syntax.optionalBoolean? strict
      converter := ← Json.Syntax.optionalText? converter
      onTargetUpdated := ← Json.Syntax.optionalBoolean? onTargetUpdated }
  | _ => none

def json (d : ValidatorDefinition) : Json :=
  .object (memberNames.zip [
    .string d.comparator, .ofOption ArgumentDefinition.json d.argument,
    .ofOption .string d.isEnforced, .ofOption .string d.message, .string d.nullPolicy.name,
    .ofOption .boolean d.strict, .ofOption .string d.converter,
    .ofOption .boolean d.onTargetUpdated])

end ValidatorDefinition

namespace FieldDefinition

def memberNames : List String :=
  ["key", "name", "tooltip", "isVisible", "isEnabled", "hiddenOnFalse", "validators"]

/-- Reads a field; every member has a default. -/
def read? (s : Json.Syntax) : Option FieldDefinition := do
  match ← s.membersOf? memberNames with
  | [key, name, tooltip, isVisible, isEnabled, hiddenOnFalse, validators] =>
    some {
      key := ← Json.Syntax.orDefault? Json.Syntax.text? "" key
      name := ← Json.Syntax.optionalText? name
      tooltip := ← Json.Syntax.optionalText? tooltip
      isVisible := ← Json.Syntax.optionalText? isVisible
      isEnabled := ← Json.Syntax.optionalText? isEnabled
      hiddenOnFalse := ← Json.Syntax.orDefault? Json.Syntax.boolean? false hiddenOnFalse
      validators :=
        ← Json.Syntax.orDefault? (Json.Syntax.array? ValidatorDefinition.read?) [] validators }
  | _ => none

/-- Reads a text with an array of fields. -/
def readAll? (text : String) : Option (List FieldDefinition) := do
  (← Json.Syntax.read? text).array? read?

def json (d : FieldDefinition) : Json :=
  .object (memberNames.zip [
    .string d.key, .ofOption .string d.name, .ofOption .string d.tooltip,
    .ofOption .string d.isVisible, .ofOption .string d.isEnabled, .boolean d.hiddenOnFalse,
    .array (d.validators.map ValidatorDefinition.json)])

/-- The text of an array of fields. -/
def writeAll (ds : List FieldDefinition) : String := Json.render (.array (ds.map json))

end FieldDefinition

end LiveForm
