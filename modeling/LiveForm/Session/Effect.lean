/-
  What commands do.

  A command changes the session at once, leaves tasks to be performed, and says how its answer is
  found when they are over. A command that names something that is not there changes nothing.

  * `Session.carryOut` gives the effect of a command.
-/
import LiveForm.Form.Compilation
import LiveForm.Session.Basic

namespace LiveForm

/-- The session after a command, the tasks that follow, and the way to the answer. -/
structure Effect where
  session : Session
  tasks : List (Task Script)
  reply : Reply

namespace Session

/-- The effect of a command that is over at once. -/
def answering (s : Session) (a : Answer) : Effect := ⟨s, [], .answer a⟩

/-- Goes on with what is there. -/
def present {α : Type} (s : Session) (x : Except Missing α) (f : α → Effect) : Effect :=
  match x with
  | .ok a => f a
  | .error m => s.answering (.missing m)

/-- Goes on with the object of a name. -/
def onObject (s : Session) (name : String) : (ObjectRef → Effect) → Effect :=
  s.present (orMissing (.object name) (s.objects.lookup name))

/-- Goes on with the proxy of a name. -/
def onProxy (s : Session) (name : String) : (ProxyId → Effect) → Effect :=
  s.present (orMissing (.proxy name) (s.proxies.lookup name))

/-- Goes on with the validator of a name. -/
def onValidator (s : Session) (name : String) : (ValidatorId → Effect) → Effect :=
  s.present (orMissing (.validator name) (s.validators.lookup name))

/-! ## Operands -/

mutual

/-- The value of an operand, or what is missing for it. -/
def resolve (objects : List (String × ObjectRef)) (e : Option Occasion) (t : Store Script) :
    Operand → Except Missing (Store Script × Value)
  | .value v => .ok (t, v.value)
  | .collection items =>
    match resolveAll objects e t items with
    | .ok (t, vs) => .ok (t, .collection vs)
    | .error m => .error m
  | .object name =>
    match objects.lookup name with
    | some o => .ok (t, .object o)
    | none => .error (.object name)
  | .document j => .ok (t.newValue j)
  | .event =>
    match e with
    | some e => .ok (t, e.value)
    | none => .error .event
  | .eventPlus n =>
    match e with
    | some ⟨.integer m, _⟩ => .ok (t, .integer (m + n))
    | some e => .ok (t, e.value)
    | none => .error .event
  | .errorCount =>
    match e with
    | some e => .ok (t, .integer (.ofNat e.errors))
    | none => .error .event

def resolveAll (objects : List (String × ObjectRef)) (e : Option Occasion) (t : Store Script) :
    List Operand → Except Missing (Store Script × List Value)
  | [] => .ok (t, [])
  | x :: xs =>
    match resolve objects e t x with
    | .error m => .error m
    | .ok (t, v) =>
      match resolveAll objects e t xs with
      | .error m => .error m
      | .ok (t, vs) => .ok (t, v :: vs)

end

/-- Goes on with the value of an operand. -/
def given (s : Session) (e : Option Occasion) (x : Operand) (f : Session → Value → Effect) :
    Effect :=
  s.present (resolve s.objects e s.store x) fun (t, v) => f (s.withStore t) v

/-- Goes on with the values of operands. -/
def givenAll (s : Session) (e : Option Occasion) (xs : List Operand)
    (f : Session → List Value → Effect) : Effect :=
  s.present (resolveAll s.objects e s.store xs) fun (t, vs) => f (s.withStore t) vs

/-- The object of a name that may be absent. -/
def objectOf (s : Session) : Option String → Except Missing (Option ObjectId)
  | none => .ok none
  | some name => (orMissing (.object name) (s.objects.lookup name)).map (some ·.id)

/-- Goes on with the binding that names describe. -/
def bound (s : Session) (b : BindingNames) (f : Binding → Effect) : Effect :=
  s.present (s.objectOf b.model) fun model => s.present (s.objectOf b.context) fun context =>
    f ⟨model, context⟩

/-! ## Objects -/

/-- Gives an object properties, of which nobody is told. -/
def setAll (objects : List (String × ObjectRef)) (e : Option Occasion) (t : Store Script)
    (o : ObjectId) : List (String × Operand) → Except Missing (Store Script)
  | [] => .ok t
  | (property, x) :: rest =>
    match resolve objects e t x with
    | .error m => .error m
    | .ok (t, v) => setAll objects e (t.setProperty o property v) o rest

/-- Makes an object with properties. -/
def newObject (s : Session) (e : Option Occasion) (name typeName : String)
    (properties : List (String × Operand)) : Effect :=
  let (t, o) := s.store.newObject typeName
  s.present (setAll s.objects e t o.id properties) fun t =>
    { s.withStore t with objects := putName name o s.objects }.answering .done

/-- Tells the listeners of a property. -/
def announce (s : Session) (o : ObjectId) (property : String) : List (Task Script) :=
  [s.store.roundOf (.property o property)]

/-- Sets a property. An equal value stays in place, and nobody is told. -/
def set (s : Session) (o : ObjectId) (property : String) (v : Value) : Effect :=
  if (s.store.property o property).any (· == v) then s.answering (.flag false)
  else
    let s := s.withStore (s.store.setProperty o property v)
    ⟨s, s.announce o property, .answer (.flag true)⟩

/-- Removes a property. Nobody is told if there was none. -/
def remove (s : Session) (o : ObjectId) (property : String) : Effect :=
  match s.store.property o property with
  | none => s.answering (.optionalValue none)
  | some v =>
    let s := s.withStore (s.store.removeProperty o property)
    ⟨s, s.announce o property, .answer (.optionalValue (some v))⟩

/-- Installs a handler at a property. -/
def observe (s : Session) (o : ObjectId) (property : String) (script : Script) : Effect :=
  let (t, n) := s.store.subscribe o property (.handler script)
  { s.withStore t with observers := putName script.id (o, n) s.observers }.answering
    (.text ("#" ++ Text.ofNat n))

/-! ## Templates and filters -/

/-- Evaluates a template twice: once for its value, and once for what is wrong with it. -/
def evaluate (s : Session) (template : String) (b : Binding) : Effect :=
  match s.engine.template template with
  | (.error e, g) =>
    { s with workspace := { s.workspace with engine := g } }.answering (.malformed template e)
  | (.ok t, g) =>
    let (_, g) := g.template template
    let s := { s with workspace := { s.workspace with engine := g } }
    let r := g.evaluator.evaluate (s.store.scope b) t.root
    let v := match r with
      | .ok v => v
      | .error _ => .noValue
    s.answering (.evaluated v (g.culture.format v) (match r with
      | .ok _ => none
      | .error e => some e))

def filterViews (r : Registry) : List (String × Arity × String) :=
  r.names.filterMap fun name =>
    (r.resolve name).map fun f => (f.name, f.arity, f.documentation)

/-- Registers filters in turn, and tells what came of each. -/
def registerAll (r : Registry) : List Filter → Registry × List (Option RegistryError)
  | [] => (r, [])
  | f :: fs =>
    match r.register f with
    | .ok r =>
      let (r, outcomes) := registerAll r fs
      (r, none :: outcomes)
    | .error e =>
      let (r, outcomes) := registerAll r fs
      (r, some e :: outcomes)

/-! ## Proxies -/

/-- Names a proxy, and answers with its value. -/
def nameProxy (s : Session) (name : String) (p : ProxyId) : Effect :=
  { s with proxies := putName name p s.proxies }.answering (.value (s.store.valueOf p))

/-- Makes a proxy of a template. -/
def bind (s : Session) (name template : String) (limit : Option Nat) (b : Binding) : Effect :=
  match s.workspace.bind template b (limit.getD s.engine.configuration.maxPasses) with
  | (.error e, w) => { s with workspace := w }.answering (.malformed template e)
  | (.ok p, w) => { s with workspace := w }.nameProxy name p

/-- Binds a proxy to other objects. -/
def rebind (s : Session) (p : ProxyId) (b : Binding) (named : Option ObjectId) : Effect :=
  ⟨s, [.rebind b [p]], .proxyValue p named⟩

/-- The objects that a proxy is bound to. -/
def bindingOf (s : Session) (p : ProxyId) : Binding :=
  match s.store.proxy? p with
  | some x => x.binding
  | none => ⟨none, none⟩

/-- Takes back the listener of a name. -/
def unlisten (s : Session) (id : String) : Session :=
  match s.listeners.lookup id with
  | none => s
  | some (p, n) =>
    { s.withStore (s.store.unlisten p n) with listeners := dropName id s.listeners }

/-- Installs a listener at a proxy, and takes back the one that had its name. -/
def listen (s : Session) (p : ProxyId) (kept : Bool) (script : Script) : Effect :=
  let (t, n) := s.store.listen p (.handler script)
  let s := s.withStore t
  if kept then
    let s := s.unlisten script.id
    { s with listeners := putName script.id (p, n) s.listeners }.answering .done
  else s.answering .done

/-! ## Validation -/

/-- The proxy that a rule reads. -/
def sourceOf (s : Session) (e : Option Occasion) : SourceNames → Except Missing (Session × ProxyId)
  | .proxy name => (orMissing (.proxy name) (s.proxies.lookup name)).map (s, ·)
  | .constant x =>
    match resolve s.objects e s.store x with
    | .error m => .error m
    | .ok (t, v) =>
      let (p, w) := (s.withStore t).workspace.constant v
      .ok ({ s with workspace := w }, p)

/-- The message that names describe; there is an empty one if it is absent. -/
def messageOf (s : Session) (e : Option Occasion) :
    Option (Message SourceNames) → Except Missing (Session × Message ProxyId)
  | none => .ok (s, .fixed "")
  | some (.fixed text) => .ok (s, .fixed text)
  | some (.live source) => do
    let (s, p) ← s.sourceOf e source
    return (s, .live p)

/-- The filter of a name that takes a value without arguments. -/
def converterOf (s : Session) : Option String → Except Missing (Option Filter)
  | none => .ok none
  | some name =>
    match s.engine.registry.resolve name with
    | some f => if f.arity.accepts 0 then .ok (some f) else .error (.converter name)
    | none => .error (.converter name)

/-- The rule that names describe. -/
def ruleOf (s : Session) (e : Option Occasion) (r : RuleNames) :
    Except Missing (Session × Rule ProxyId) := do
  let (s, argument) ← s.sourceOf e (r.argument.getD (.constant (.value .null)))
  let (s, enforcement) ← s.sourceOf e (r.enforcement.getD (.constant (.value (.boolean true))))
  let (s, message) ← s.messageOf e r.message
  let converter ← s.converterOf r.converter
  return (s, {
    comparator := r.comparator
    argument := argument
    enforcement := enforcement
    message := message
    nullPolicy := r.nullPolicy
    strict := r.strict
    onTargetUpdated := r.onTargetUpdated
    converter := converter })

def rulesOf (s : Session) (e : Option Occasion) :
    List RuleNames → Except Missing (Session × List (Rule ProxyId))
  | [] => .ok (s, [])
  | r :: rs => do
    let (s, r) ← s.ruleOf e r
    let (s, rs) ← rulesOf s e rs
    return (s, r :: rs)

/-- Goes on with the rules that names describe. -/
def ruled (s : Session) (e : Option Occasion) (rules : List RuleNames)
    (f : Session → List (Rule ProxyId) → Effect) : Effect :=
  s.present (s.rulesOf e rules) fun (s, rules) => f s rules

/-- What rules say of values. -/
def judge (s : Session) (rules : List (Rule ProxyId)) (values : List Value) : Answer :=
  .judged rules.length (rules.any Rule.onTargetUpdated) (values.map fun v =>
    (rules.map fun r => r.outcome s.engine.culture s.store.valueOf v,
      Rule.validate s.engine.culture s.store.valueOf rules v))

/-- Names a validator, and answers with its result. -/
def nameValidator (s : Session) (name : String) (v : ValidatorId) : Effect :=
  { s with validators := putName name v s.validators }.answering (.result (s.resultOf v))

/-- Makes a validator. -/
def newValidator (s : Session) (name : String) (field : ProxyId) (rules : List (Rule ProxyId))
    (limit : Option Nat) : Effect :=
  let (t, v) := s.store.newValidator s.engine.evaluator field rules
    (limit.getD s.engine.configuration.maxPasses)
  (s.withStore t).nameValidator name v

/-- Validates after an edit, if a rule asks for that. -/
def targetUpdated (s : Session) (v : ValidatorId) : Effect :=
  match s.store.validator? v with
  | some x =>
    if x.rules.any Rule.onTargetUpdated then
      ⟨s, [.recompute (.validator v) false], .answer (.flag true)⟩
    else s.answering (.flag false)
  | none => s.answering (.flag false)

/-- Takes back the watcher of a name. -/
def unwatch (s : Session) (id : String) : Session :=
  match s.watchers.lookup id with
  | none => s
  | some (v, n) =>
    { s.withStore (s.store.unwatch v n) with watchers := dropName id s.watchers }

/-- Installs a watcher at a validator, and takes back the one that had its name. -/
def watch (s : Session) (v : ValidatorId) (script : Script) : Effect :=
  let (t, n) := s.store.watch v (.handler script)
  let s := (s.withStore t).unwatch script.id
  { s with watchers := putName script.id (v, n) s.watchers }.answering .done

/-! ## Forms -/

/-- Names a form that has been made, or tells the fault that there is. -/
def nameForm (s : Session) (name : String) : Except FormError FormId × Workspace Script → Effect
  | (.error e, w) => { s with workspace := w }.answering (.formFailed e)
  | (.ok f, w) =>
    let s := { s with workspace := w, forms := putName name f s.forms }
    match s.store.form? f with
    | some x => s.answering (.compiled (x.fields.map Field.key) (s.isValid x))
    | none => s.answering .done

/-- Goes on with the form of a name. -/
def formed (s : Session) (name : String) (f : FormId → FormState → Effect) : Effect :=
  let x := orMissing (.form name) do
    let id ← s.forms.lookup name
    some (id, ← s.store.form? id)
  s.present x fun (id, x) => f id x

/-- Goes on with a field of a form. -/
def fielded (s : Session) (name key : String) (f : Field → Effect) : Effect :=
  s.formed name fun _ x =>
    s.present (orMissing (.field key) (x.fields.find? (·.key == key))) f

/-- Binds the proxies of a form to other objects, one after the other. -/
def rebindForm (s : Session) (f : FormId) (x : FormState) (b : Binding) (named : Option ObjectId) :
    Effect :=
  ⟨s, [.rebind b (s.store.boundProxies x)], .formBound f b named⟩

/-- A proxy of a field. -/
def partOf? (s : Session) (x : Field) : FieldPart → Option ProxyId
  | .value => some x.value
  | .visible => some x.visible
  | .enabled => some x.enabled
  | .nth n => (s.store.proxiesOf x)[n]?

/-! ## Commands -/

/-- The effect of a command; `e` is what the handler is told whose command it is. -/
def carryOut (s : Session) (e : Option Occasion) : Command → Effect
  | .newObject name typeName properties => s.newObject e name typeName properties
  | .newObjectOf name j =>
    let (t, o) := s.store.newObjectOf j
    { s.withStore t with objects := putName name o s.objects }.answering .done
  | .set name property x => s.onObject name fun o =>
    s.given e x fun s v => s.set o.id property v
  | .remove name property => s.onObject name fun o => s.remove o.id property
  | .notify name property => s.onObject name fun o =>
    ⟨s, s.announce o.id property, .answer .done⟩
  | .get name property => s.onObject name fun o =>
    s.answering (.optionalValue (s.store.property o.id property))
  | .properties name => s.onObject name fun o =>
    s.answering (.properties (((s.store.object? o.id).map ObjectState.properties).getD []))
  | .subscriberCount name => s.onObject name fun o =>
    s.answering (.number (((s.store.object? o.id).map fun x => x.subscribers.size).getD 0))
  | .dropObject name =>
    { s with objects := dropName name s.objects }.answering
      (.flag (s.objects.lookup name).isSome)
  | .observe name property script => s.onObject name fun o => s.observe o.id property script
  | .unobserve id => s.present (orMissing (.observer id) (s.observers.lookup id)) fun (o, n) =>
    (s.withStore (s.store.unsubscribe o n)).answering (.number n)
  | .evaluate template b => s.bound b (s.evaluate template)
  | .applyFilter name x args => s.given e x fun s v => s.givenAll e args fun s vs =>
    s.answering (match s.engine.evaluator.applyFilter name v vs with
      | .ok w => .value w
      | .error e => .filterFailed e)
  | .filters => s.answering (.filters (filterViews s.engine.registry))
  | .register filters =>
    let (r, outcomes) := registerAll s.engine.registry filters
    s.answering (.registered outcomes r.names s.engine.registry.size)
  | .statistics => s.answering (.statistics s.engine.cache)
  | .bind name template limit b => s.bound b (s.bind name template limit)
  | .constant name x => s.given e x fun s v =>
    let (p, w) := s.workspace.constant v
    { s with workspace := w }.nameProxy name p
  | .clone name other => s.onProxy name fun p =>
    { s with proxies := putName other p s.proxies }.answering (.flag true)
  | .proxy name => s.onProxy name fun p =>
    s.present (orMissing (.proxy name) (s.store.proxy? p)) fun x =>
      s.answering (.proxy (s.proxyView x))
  | .peek name => s.onProxy name fun p => s.answering (.value (s.store.valueOf p))
  | .refresh name => s.onProxy name fun p =>
    ⟨s, [.recompute (.proxy p) false], .proxyValue p none⟩
  | .setModel name object => s.onProxy name fun p => s.onObject object fun o =>
    s.rebind p { s.bindingOf p with model := some o.id } (some o.id)
  | .setContext name object => s.onProxy name fun p => s.onObject object fun o =>
    s.rebind p { s.bindingOf p with context := some o.id } (some o.id)
  | .setBinding name b => s.onProxy name fun p => s.bound b fun b => s.rebind p b none
  | .dispose name => s.onProxy name fun p =>
    (s.withStore (s.store.disposeProxy p)).answering (.flag true)
  | .dropProxy name =>
    { s with proxies := dropName name s.proxies }.answering
      (.flag (s.proxies.lookup name).isSome)
  | .listen name kept script => s.onProxy name fun p => s.listen p kept script
  | .unlisten id => (s.unlisten id).answering (.flag (s.listeners.lookup id).isSome)
  | .debug subject => s.present (s.debug subject) fun text => s.answering (.text text)
  | .judge rules values => s.ruled e rules fun s rules => s.givenAll e values fun s vs =>
    s.answering (s.judge rules vs)
  | .newValidator name field rules limit => s.onProxy field fun p =>
    s.ruled e rules fun s rules => s.newValidator name p rules limit
  | .validator name => s.onValidator name fun v =>
    s.present (orMissing (.validator name) (s.store.validator? v)) fun x =>
      s.answering (.validator (s.validatorView x))
  | .validate name => s.onValidator name fun v =>
    ⟨s, [.recompute (.validator v) false], .validatorResult v⟩
  | .targetUpdated name => s.onValidator name s.targetUpdated
  | .disposeValidator name => s.onValidator name fun v =>
    (s.withStore (s.store.disposeValidator v)).answering (.flag true)
  | .dropValidator name =>
    { s with validators := dropName name s.validators }.answering
      (.flag (s.validators.lookup name).isSome)
  | .watch name script => s.onValidator name fun v => s.watch v script
  | .unwatch id => (s.unwatch id).answering (.flag (s.watchers.lookup id).isSome)
  | .compile name definitions b => s.bound b fun b =>
    s.nameForm name (s.workspace.compileText b definitions)
  | .compileFields name ds b => s.bound b fun b => s.nameForm name (s.workspace.compile b ds)
  | .field name key => s.answering (.field (s.readable.field name key))
  | .fields name => s.answering (.fields (do
    let x ← s.store.form? (← s.forms.lookup name)
    some (s.isValid x, x.fields.map s.fieldView)))
  | .validateForm name => s.formed name fun f x =>
    ⟨s, [], .failing f none (x.fields.map fun field => (field.key, field.validator)) []⟩
  | .setFormModel name object => s.formed name fun f x => s.onObject object fun o =>
    s.rebindForm f x { x.binding with model := some o.id } (some o.id)
  | .setFormContext name object => s.formed name fun f x => s.onObject object fun o =>
    s.rebindForm f x { x.binding with context := some o.id } (some o.id)
  | .setFormBinding name b => s.formed name fun f x => s.bound b fun b => s.rebindForm f x b none
  | .disposeForm name => s.formed name fun f _ =>
    (s.withStore (s.store.disposeForm f)).answering .done
  | .dropForm name =>
    { s with forms := dropName name s.forms }.answering (.flag (s.forms.lookup name).isSome)
  | .takeProxy name key part proxy => s.fielded name key fun x =>
    s.present (orMissing (.part key) (s.partOf? x part)) (s.nameProxy proxy)
  | .takeValidator name key validator => s.fielded name key fun x =>
    s.nameValidator validator x.validator

end Session

end LiveForm
