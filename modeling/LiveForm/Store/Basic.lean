/-
  Stores: the objects, proxies, validators and forms that there are, and the changes of them that
  tell nobody.

  A store knows the entities that are alive. What a binding or a subscription points to may be gone;
  then it counts as nothing.
-/
import LiveForm.Store.Entity

namespace LiveForm

structure Store (H : Type) where
  objects : Roster (ObjectState H)
  proxies : Roster (ProxyState H)
  validators : Roster (ValidatorState H)
  forms : Roster FormState

namespace Store

variable {H : Type}

def empty : Store H := ⟨.startingAt 0, .startingAt 0, .startingAt 0, .startingAt 0⟩

def object? (s : Store H) (o : ObjectId) : Option (ObjectState H) := s.objects.get? o.index

def proxy? (s : Store H) (p : ProxyId) : Option (ProxyState H) := s.proxies.get? p.index

def validator? (s : Store H) (v : ValidatorId) : Option (ValidatorState H) :=
  s.validators.get? v.index

def form? (s : Store H) (f : FormId) : Option FormState := s.forms.get? f.index

def modifyObject (s : Store H) (o : ObjectId) (f : ObjectState H → ObjectState H) : Store H :=
  { s with objects := s.objects.modify o.index f }

def modifyProxy (s : Store H) (p : ProxyId) (f : ProxyState H → ProxyState H) : Store H :=
  { s with proxies := s.proxies.modify p.index f }

def modifyValidator (s : Store H) (v : ValidatorId) (f : ValidatorState H → ValidatorState H) :
    Store H :=
  { s with validators := s.validators.modify v.index f }

def modifyForm (s : Store H) (f : FormId) (g : FormState → FormState) : Store H :=
  { s with forms := s.forms.modify f.index g }

/-! ## Objects -/

/-- Makes an object without properties. Its subscribers are numbered from 1. -/
def newObject (s : Store H) (typeName : String) : Store H × ObjectRef :=
  ({ s with objects := s.objects.add ⟨typeName, [], .startingAt 1⟩ }, ⟨⟨s.objects.next⟩, typeName⟩)

/-- The value of a property of an object, if there are such an object and such a property. -/
def property (s : Store H) (o : ObjectId) (name : String) : Option Value := do
  (← s.object? o).properties.lookup name

/-- Puts a value in place of the one of the same name, or at the end. -/
def putProperty (name : String) (v : Value) : List (String × Value) → List (String × Value)
  | [] => [(name, v)]
  | (n, w) :: ps => if n = name then (n, v) :: ps else (n, w) :: putProperty name v ps

/-- Gives a property a value. -/
def setProperty (s : Store H) (o : ObjectId) (name : String) (v : Value) : Store H :=
  s.modifyObject o fun x => { x with properties := putProperty name v x.properties }

/-- Takes a property away. -/
def removeProperty (s : Store H) (o : ObjectId) (name : String) : Store H :=
  s.modifyObject o fun x => { x with properties := x.properties.filter fun p => p.1 != name }

/-- Adds a listener to a property, and gives its number. -/
def subscribe (s : Store H) (o : ObjectId) (name : String) (l : Listener H) : Store H × Nat :=
  (s.modifyObject o fun x => { x with subscribers := x.subscribers.add ⟨name, l⟩ },
    ((s.object? o).map fun x => x.subscribers.next).getD 0)

def unsubscribe (s : Store H) (o : ObjectId) (n : Nat) : Store H :=
  s.modifyObject o fun x => { x with subscribers := x.subscribers.remove n }

/-- The numbers of the listeners to a property. -/
def subscribersOf (s : Store H) (o : ObjectId) (name : String) : List Nat :=
  match s.object? o with
  | none => []
  | some x => (x.subscribers.entries.filter fun e => e.2.property == name).map Prod.fst

/-! ## Bindings -/

/-- The object, if it is alive. -/
def alive? (s : Store H) (o : ObjectId) : Option ObjectId := (s.object? o).map fun _ => o

/-- What can be read under a binding. -/
def scope (s : Store H) (b : Binding) : Scope where
  property := s.property
  root
    | .model => b.model.bind s.alive?
    | .context => b.context.bind s.alive?

/-! ## Proxies -/

/-- The value of a source under a binding. -/
def sourceValue (s : Store H) (b : Binding) : ProxySource → Value
  | .constant v => v
  | .template ev t => ev.valueOf (s.scope b) t.root

/-- The value that a proxy shows. -/
def valueOf (s : Store H) (p : ProxyId) : Value :=
  match s.proxy? p with
  | some x => x.cached
  | none => .noValue

/-- Subscribes a proxy to properties of objects, and gives the subscriptions. -/
def subscribeProxy (p : ProxyId) (s : Store H) :
    List (ObjectId × String) → Store H × List (ObjectId × Nat)
  | [] => (s, [])
  | (o, name) :: rest =>
    let (s, n) := s.subscribe o name (.proxy p)
    let (s, subscriptions) := subscribeProxy p s rest
    (s, (o, n) :: subscriptions)

/-- The properties that a proxy is to be subscribed to. -/
def watchesOf (s : Store H) (x : ProxyState H) : List (ObjectId × String) :=
  match x.source with
  | .constant _ => []
  | .template _ t => (s.scope x.binding).watches t

/-- Subscribes a proxy to all that it depends on. -/
def attach (s : Store H) (p : ProxyId) : Store H :=
  match s.proxy? p with
  | none => s
  | some x =>
    let (s, subscriptions) := subscribeProxy p s (s.watchesOf x)
    s.modifyProxy p fun x => { x with subscriptions := subscriptions }

/-- Takes away the listeners of some numbers. -/
def unsubscribeAll (s : Store H) (subscriptions : List (ObjectId × Nat)) : Store H :=
  subscriptions.foldl (fun s w => s.unsubscribe w.1 w.2) s

/-- Ends the subscriptions of a proxy. -/
def detach (s : Store H) (p : ProxyId) : Store H :=
  match s.proxy? p with
  | none => s
  | some x => (s.unsubscribeAll x.subscriptions).modifyProxy p fun x =>
    { x with subscriptions := [] }

/-- Makes a proxy. -/
def newProxy (s : Store H) (source : ProxySource) (b : Binding) (limit : Nat) :
    Store H × ProxyId :=
  let p : ProxyId := ⟨s.proxies.next⟩
  let x : ProxyState H := .fresh source b (s.sourceValue b source) limit
  ({ s with proxies := s.proxies.add x }.attach p, p)

/-- Makes a proxy whose value never changes. -/
def newConstant (s : Store H) (v : Value) : Store H × ProxyId :=
  s.newProxy (.constant v) ⟨none, none⟩ 1

/-- Adds a listener to a proxy, and gives its number. -/
def listen (s : Store H) (p : ProxyId) (l : Listener H) : Store H × Nat :=
  (s.modifyProxy p fun x => { x with listeners := x.listeners.add l },
    ((s.proxy? p).map fun x => x.listeners.next).getD 0)

def unlisten (s : Store H) (p : ProxyId) (n : Nat) : Store H :=
  s.modifyProxy p fun x => { x with listeners := x.listeners.remove n }

/-- Binds a proxy to other objects. -/
def bindProxy (s : Store H) (p : ProxyId) (b : Binding) : Store H :=
  ((s.detach p).modifyProxy p fun x => { x with binding := b }).attach p

/-- Ends all that goes into a proxy and all that comes out of it. -/
def disposeProxy (s : Store H) (p : ProxyId) : Store H :=
  match s.proxy? p with
  | none => s
  | some x =>
    if x.disposed then s
    else
      ((s.modifyProxy p fun x => { x with disposed := true }).detach p).modifyProxy p
        fun x => { x with listeners := x.listeners.clear }

/-! ## Validators -/

/-- What rules say of the value of a proxy. -/
def validate (ev : Evaluator) (s : Store H) (field : ProxyId) (rules : List (Rule ProxyId)) :
    ValidationResult :=
  Rule.validate ev.culture s.valueOf rules (s.valueOf field)

/-- Makes a validator listen to proxies, and gives the subscriptions. -/
def listenAll (v : ValidatorId) (s : Store H) : List ProxyId → Store H × List (ProxyId × Nat)
  | [] => (s, [])
  | p :: ps =>
    let (s, n) := s.listen p (.validator v)
    let (s, subscriptions) := listenAll v s ps
    (s, (p, n) :: subscriptions)

/-- Makes a validator, which listens to the field and then to the sources of the rules. -/
def newValidator (ev : Evaluator) (s : Store H) (field : ProxyId) (rules : List (Rule ProxyId))
    (limit : Nat) : Store H × ValidatorId :=
  let v : ValidatorId := ⟨s.validators.next⟩
  let x : ValidatorState H := .fresh field rules (s.validate ev field rules) limit
  let (s, subscriptions) := listenAll v { s with validators := s.validators.add x }
    (field :: rules.flatMap Rule.sources)
  (s.modifyValidator v fun x => { x with subscriptions := subscriptions }, v)

/-- Adds a listener to a validator, and gives its number. -/
def watch (s : Store H) (v : ValidatorId) (l : Listener H) : Store H × Nat :=
  (s.modifyValidator v fun x => { x with listeners := x.listeners.add l },
    ((s.validator? v).map fun x => x.listeners.next).getD 0)

def unwatch (s : Store H) (v : ValidatorId) (n : Nat) : Store H :=
  s.modifyValidator v fun x => { x with listeners := x.listeners.remove n }

/-- Takes away the listeners of some numbers. -/
def unlistenAll (s : Store H) (subscriptions : List (ProxyId × Nat)) : Store H :=
  subscriptions.foldl (fun s w => s.unlisten w.1 w.2) s

/-- Ends the subscriptions of a validator. -/
def silence (s : Store H) (v : ValidatorId) : Store H :=
  match s.validator? v with
  | none => s
  | some x => (s.unlistenAll x.subscriptions).modifyValidator v fun x =>
    { x with subscriptions := [] }

/-- Ends all that goes into a validator and all that comes out of it. -/
def disposeValidator (s : Store H) (v : ValidatorId) : Store H :=
  match s.validator? v with
  | none => s
  | some x =>
    if x.disposed then s
    else
      ((s.modifyValidator v fun x => { x with disposed := true }).silence v).modifyValidator v
        fun x => { x with listeners := x.listeners.clear }

/-! ## Forms -/

def newForm (s : Store H) (fields : List Field) (b : Binding) : Store H × FormId :=
  ({ s with forms := s.forms.add ⟨fields, b⟩ }, ⟨s.forms.next⟩)

/-- The rules of a field. -/
def rulesOf (s : Store H) (x : Field) : List (Rule ProxyId) :=
  match s.validator? x.validator with
  | some v => v.rules
  | none => []

/-- All the proxies of a field. -/
def proxiesOf (s : Store H) (x : Field) : List ProxyId :=
  x.ownProxies ++ (s.rulesOf x).flatMap Rule.sources

/-- Whether a proxy shows a fixed value. -/
def isConstant (s : Store H) (p : ProxyId) : Bool :=
  (s.proxy? p).any fun x => x.source.isConstant

/-- The proxies of a form that follow its binding. -/
def boundProxies (s : Store H) (x : FormState) : List ProxyId :=
  (x.fields.flatMap s.proxiesOf).filter fun p => !s.isConstant p

/-- Disposes of the validator and the proxies of a field. -/
def disposeField (s : Store H) (x : Field) : Store H :=
  (s.proxiesOf x).foldl disposeProxy (s.disposeValidator x.validator)

/-- Disposes of the validators and proxies of a form. -/
def disposeForm (s : Store H) (f : FormId) : Store H :=
  match s.form? f with
  | none => s
  | some x => x.fields.foldl disposeField s

end Store

end LiveForm
