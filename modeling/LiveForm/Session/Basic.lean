/-
  Sessions: a workspace whose things have names, and what is left to be done in it.

  The names of a session keep alive what they stand for, and so does the work that is left. The
  names of listeners, watchers and observers keep nothing alive.
-/
import LiveForm.Engine
import LiveForm.Session.Command
import LiveForm.Store.Agenda
import LiveForm.Store.Debug
import LiveForm.Store.Sweep

namespace LiveForm

/-- How the answer to a command is found once all that follows from the command is over. Until then
    an object that the command names is kept alive. -/
inductive Reply where
  | answer (a : Answer)
  | proxyValue (p : ProxyId) (named : Option ObjectId)
  | validatorResult (v : ValidatorId)
  /-- A form is bound to other objects now that its proxies are. -/
  | formBound (f : FormId) (b : Binding) (named : Option ObjectId)
  /-- The fields of a form are validated in turn: the one that was last, those to come, and the
      failing ones so far. -/
  | failing (f : FormId) (last : Option (String × ValidatorId)) (rest : List (String × ValidatorId))
      (found : List (String × ValidationResult))

inductive Work where
  | task (t : Task Script)
  /-- The rest of the script of a handler. -/
  | script (id : String) (e : Occasion) (rest : List Action)
  /-- The answer to a command of a handler, or of the caller where there is none. -/
  | reply (r : Reply) (handler : Option String)

structure Session where
  workspace : Workspace Script
  objects : List (String × ObjectRef)
  proxies : List (String × ProxyId)
  validators : List (String × ValidatorId)
  forms : List (String × FormId)
  /-- The subscriptions of listeners by name, as a proxy and a number in its roster. -/
  listeners : List (String × ProxyId × Nat)
  watchers : List (String × ValidatorId × Nat)
  observers : List (String × ObjectId × Nat)
  /-- The work that is left, what comes next first. -/
  agenda : List Work
  /-- What handlers were told and did since the last command of the caller, the latest first. -/
  log : List LogEntry
  /-- The answer to the last command of the caller. -/
  answer : Option Answer

/-- Gives a thing a name, which stands for no other thing any more. -/
def putName {α : Type} (name : String) (a : α) (names : List (String × α)) : List (String × α) :=
  (name, a) :: names.filter fun n => n.1 != name

/-- Takes a name away. -/
def dropName {α : Type} (name : String) (names : List (String × α)) : List (String × α) :=
  names.filter fun n => n.1 != name

/-! ## What is kept alive -/

def Reply.entities : Reply → List Entity
  | .answer (.optionalValue (some v)) => v.entities
  | .answer _ => []
  | .proxyValue p named => .proxy p :: named.toList.map .object
  | .validatorResult v => [.validator v]
  | .formBound f _ named => .form f :: named.toList.map .object
  | .failing f _ rest _ => .form f :: rest.map fun x => .validator x.2

def Work.entities : Work → List Entity
  | .task t => t.entities
  | .script _ e _ => e.value.entities
  | .reply r _ => r.entities

namespace Session

/-- A session on an engine, without anything in it. -/
def ofEngine (g : Engine) : Session where
  workspace := ⟨g, .empty⟩
  objects := []
  proxies := []
  validators := []
  forms := []
  listeners := []
  watchers := []
  observers := []
  agenda := []
  log := []
  answer := none

def engine (s : Session) : Engine := s.workspace.engine

def store (s : Session) : Store Script := s.workspace.store

def withStore (s : Session) (t : Store Script) : Session :=
  { s with workspace := { s.workspace with store := t } }

/-- What is held from outside the store. -/
def held (s : Session) : List Entity :=
  s.objects.map (fun n => .object n.2.id) ++ s.proxies.map (fun n => .proxy n.2) ++
    s.validators.map (fun n => .validator n.2) ++ s.forms.map (fun n => .form n.2) ++
    s.agenda.flatMap Work.entities

/-- Takes away all that nobody holds. -/
def sweep (s : Session) : Session := s.withStore (s.store.sweep s.held)

/-! ## Views -/

def proxyView (s : Session) (x : ProxyState Script) : ProxyView where
  value := x.cached
  generation := x.generation
  constant := x.source.isConstant
  disposed := x.disposed
  template := match x.source with
    | .template _ t => some t.source
    | .constant _ => none
  diagnostic := x.diagnostic
  model := s.store.boundType x.binding.model
  context := s.store.boundType x.binding.context

def validatorView (s : Session) (x : ValidatorState Script) : ValidatorView where
  result := x.result
  disposed := x.disposed
  diagnostic := x.diagnostic
  field := s.store.valueOf x.field

/-- The text of a proxy of a label. -/
def textOf (s : Session) (p : ProxyId) : String := s.engine.culture.format (s.store.valueOf p)

def ruleView (s : Session) (r : Rule ProxyId) : RuleView where
  comparator := r.comparator.name
  strict := r.strict
  onTargetUpdated := r.onTargetUpdated
  nullPolicy := r.nullPolicy
  enforced := r.isEnforced s.store.valueOf
  argument := s.store.valueOf r.argument
  message := r.message.text s.store.valueOf
  liveMessage := r.message.source?.isSome
  constantEnforcement := s.store.isConstant r.enforcement

/-- The result that a validator shows. -/
def resultOf (s : Session) (v : ValidatorId) : ValidationResult :=
  match s.store.validator? v with
  | some x => x.result
  | none => .valid

def fieldView (s : Session) (x : Field) : FieldView where
  key := x.key
  value := s.store.valueOf x.value
  name := x.name.map s.textOf
  tooltip := x.tooltip.map s.textOf
  visibility := .ofValue (s.store.valueOf x.visible) x.hiddenOnFalse
  enabled := (s.store.valueOf x.enabled).isTruthy
  result := s.resultOf x.validator
  rules := (s.store.rulesOf x).map s.ruleView
  proxyCount := (s.store.proxiesOf x).length

/-- Whether all the fields of a form are valid. -/
def isValid (s : Session) (x : FormState) : Bool :=
  x.fields.all fun f => (s.resultOf f.validator).isValid

/-- What can be read. -/
def readable (s : Session) : Readable where
  object name := s.objects.lookup name
  property := s.store.property
  proxy name := do some (s.proxyView (← s.store.proxy? (← s.proxies.lookup name)))
  validator name := do some (s.validatorView (← s.store.validator? (← s.validators.lookup name)))
  field name key := do
    let x ← s.store.form? (← s.forms.lookup name)
    some (s.fieldView (← x.fields.find? (·.key == key)))

/-- What stands under a name, or what is missing. -/
def orMissing {α : Type} (m : Missing) : Option α → Except Missing α
  | some a => .ok a
  | none => .error m

/-- The debug view of a thing. -/
def debug (s : Session) : DebugSubject → Except Missing String
  | .proxy name => orMissing (.proxy name) do
    some (← s.store.proxy? (← s.proxies.lookup name)).debug
  | .binding name => orMissing (.proxy name) do
    some (s.store.debugBinding (← s.store.proxy? (← s.proxies.lookup name)).binding)
  | .object name => orMissing (.object name) do
    some (← s.store.object? (← s.objects.lookup name).id).debug
  | .validator name => orMissing (.validator name) do
    let x ← s.store.validator? (← s.validators.lookup name)
    some (x.debug (← s.store.proxy? x.field).debug)
  | .registry => .ok s.engine.registry.debug

end Session

end LiveForm
