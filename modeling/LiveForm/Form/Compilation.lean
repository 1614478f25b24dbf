/-
  The making of forms from definitions.

  The fields are made in order, and for each of them its templates and then its rules. The first
  fault ends it all. What has been made by then belongs to nobody, and the next sweep takes it away.

  * `Compilation.field` makes one field;
  * `Workspace.compile` makes a form.
-/
import LiveForm.Engine
import LiveForm.Form.Definition
import LiveForm.Form.Error

namespace LiveForm

/-- Steps on a workspace that may end with an error. The workspace is left as it then stands. -/
abbrev Compilation (H α : Type) := ExceptT FormError (StateM (Workspace H)) α

namespace Compilation

variable {H : Type}

/-- Makes the proxy of a template of a field; `part` names what it is for. -/
def template (b : Binding) (key part source : String) : Compilation H ProxyId := do
  let w ← get
  let (r, w) := w.bind source b w.engine.configuration.maxPasses
  set w
  match r with
  | .ok p => return p
  | .error e => throw (.template key part source e)

/-- Makes the proxy of a template that may be absent. -/
def template? (b : Binding) (key part : String) : Option String → Compilation H (Option ProxyId)
  | none => return none
  | some source => some <$> template b key part source

/-- Makes a proxy with a fixed value. -/
def constant (v : Value) : Compilation H ProxyId := do
  let (p, w) := (← get).constant v
  set w
  return p

/-- Makes the proxy of a condition; one that is absent always holds. -/
def condition (b : Binding) (key part : String) : Option String → Compilation H ProxyId
  | none => constant (.boolean true)
  | some source => template b key part source

/-- Makes the value of a document. -/
def document (j : Json) : Compilation H Value := do
  let w ← get
  let (s, v) := w.store.newValue j
  set { w with store := s }
  return v

/-- Makes the proxy of the argument of a rule. -/
def argument (b : Binding) (key : String) : Option ArgumentDefinition → Compilation H ProxyId
  | none => constant .null
  | some (.template source) => template b key "argument" source
  | some (.value j) => do constant (← document j)

/-- The message of a rule. A template that reads nothing gives a fixed text. -/
def message (b : Binding) (key comparator : String) :
    Option String → Compilation H (Message ProxyId)
  | none => return .fixed (comparator ++ " validation failed")
  | some source => do
    let p ← template b key "message" source
    let w ← get
    match (w.store.proxy? p).map ProxyState.source with
    | some (.template _ t) =>
      return if t.isConstant then .fixed (w.engine.culture.format (w.store.valueOf p)) else .live p
    | _ => return .live p

/-- The filter of a name that takes a value without arguments. -/
def converter (key : String) : Option String → Compilation H (Option Filter)
  | none => return none
  | some name => do
    match (← get).engine.registry.resolve name with
    | some f => if f.arity.accepts 0 then return some f else throw (.unknownConverter key name)
    | none => throw (.unknownConverter key name)

/-- Makes a rule of a field. -/
def rule (b : Binding) (key : String) (d : ValidatorDefinition) :
    Compilation H (Rule ProxyId) := do
  let c := (← get).engine.configuration
  match Comparator.ofName? d.comparator with
  | none => throw (.unknownComparator key d.comparator)
  | some comparator =>
    let argument ← argument b key d.argument
    let enforcement ← condition b key "isEnforced" d.isEnforced
    let message ← message b key d.comparator d.message
    let converter ← converter key d.converter
    return {
      comparator := comparator
      argument := argument
      enforcement := enforcement
      message := message
      nullPolicy := d.nullPolicy
      strict := d.strict.getD c.strict
      onTargetUpdated := d.onTargetUpdated.getD c.onTargetUpdated
      converter := converter }

/-- Makes the validator of a field. -/
def validator (value : ProxyId) (rules : List (Rule ProxyId)) : Compilation H ValidatorId := do
  let w ← get
  let (s, v) := w.store.newValidator w.engine.evaluator value rules w.engine.configuration.maxPasses
  set { w with store := s }
  return v

/-- The template that reads the property of a field. -/
def keyTemplate (key : String) : String := "\x7bBinding " ++ key ++ "\x7d"

/-- Makes a field. What says nothing about being visible or enabled is both. -/
def field (b : Binding) (d : FieldDefinition) : Compilation H Field := do
  let value ← template b d.key "key" (keyTemplate d.key)
  let name ← template? b d.key "name" d.name
  let tooltip ← template? b d.key "tooltip" d.tooltip
  let visible ← condition b d.key "isVisible" d.isVisible
  let enabled ← condition b d.key "isEnabled" d.isEnabled
  let rules ← d.validators.mapM (rule b d.key)
  let v ← validator value rules
  return {
    key := d.key
    value := value
    name := name
    tooltip := tooltip
    visible := visible
    enabled := enabled
    hiddenOnFalse := d.hiddenOnFalse
    validator := v }

/-- Makes fields; no two may have the same key. -/
def fields (b : Binding) (done : List Field) : List FieldDefinition → Compilation H (List Field)
  | [] => return done
  | d :: ds => do
    if done.any fun f => f.key == d.key then throw (.duplicateField d.key)
    else fields b (done ++ [← field b d]) ds

end Compilation

namespace Workspace

variable {H : Type}

/-- Makes a form. -/
def compile (w : Workspace H) (b : Binding) (ds : List FieldDefinition) :
    Except FormError FormId × Workspace H :=
  match (Compilation.fields b [] ds).run w with
  | (.error e, w) => (.error e, w)
  | (.ok fields, w) =>
    let (s, f) := w.store.newForm fields b
    (.ok f, { w with store := s })

/-- Makes a form from the text of its definitions. -/
def compileText (w : Workspace H) (b : Binding) (text : String) :
    Except FormError FormId × Workspace H :=
  match FieldDefinition.readAll? text with
  | none => (.error .definition, w)
  | some ds => w.compile b ds

end Workspace

end LiveForm
