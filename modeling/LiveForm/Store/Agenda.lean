/-
  Agendas: what is still to be done after a change.

  A change leads to rounds of notifications, these to recomputations, and these to further rounds.
  An agenda lists the tasks that are left, the next one first, and to perform a task may put others
  before the rest. So a task and all that follows from it are over before the next one begins.

  * `Task.perform` is the one step of the machine; it needs no bound on what follows from it;
  * a listener that is a handler is not part of the store, and its call is left to the outside.
-/
import LiveForm.Store.Basic

namespace LiveForm

/-- What listeners are told. -/
inductive Event where
  | property (o : ObjectId) (name : String)
  | value (p : ProxyId) (v : Value)
  | result (v : ValidatorId) (r : ValidationResult)

/-- Something that is recomputed under a guard. -/
inductive Node where
  | proxy (p : ProxyId)
  | validator (v : ValidatorId)
deriving DecidableEq

inductive Task (H : Type) where
  /-- Tells an event to the listeners that still have one of the numbers. -/
  | round (e : Event) (numbers : List Nat)
  /-- Tells an event to one listener. -/
  | call (l : Listener H) (e : Event)
  /-- A request to recompute. A forced one is heard even if nothing has changed. -/
  | recompute (n : Node) (force : Bool)
  /-- One pass of a run. -/
  | pass (n : Node) (force : Bool)
  /-- The end of pass number `passes`. -/
  | settle (n : Node) (passes : Nat)
  /-- The end of an extra pass, which has number `passes`. -/
  | settleExtra (n : Node) (passes : Nat)
  /-- Binds proxies to other objects, one after the other. -/
  | rebind (b : Binding) (ps : List ProxyId)

/-! ## What tasks keep alive -/

def Event.entities : Event → List Entity
  | .property o _ => [.object o]
  | .value p v => .proxy p :: v.entities
  | .result v _ => [.validator v]

def Node.entity : Node → Entity
  | .proxy p => .proxy p
  | .validator v => .validator v

def Task.entities {H : Type} : Task H → List Entity
  | .round e _ | .call _ e => e.entities
  | .recompute n _ | .pass n _ | .settle n _ | .settleExtra n _ => [n.entity]
  | .rebind _ ps => ps.map .proxy

namespace Store

variable {H : Type}

/-! ## Rounds -/

/-- The listener that has a number where an event comes from. -/
def listener? (s : Store H) (e : Event) (n : Nat) : Option (Listener H) :=
  match e with
  | .property o _ => do some (← (← s.object? o).subscribers.get? n).listener
  | .value p _ => do (← s.proxy? p).listeners.get? n
  | .result v _ => do (← s.validator? v).listeners.get? n

/-- The round that tells of an event all that listen for it now. -/
def roundOf (s : Store H) (e : Event) : Task H :=
  .round e <| match e with
    | .property o name => s.subscribersOf o name
    | .value p _ => ((s.proxy? p).map fun x => x.listeners.numbers).getD []
    | .result v _ => ((s.validator? v).map fun x => x.listeners.numbers).getD []

/-! ## Guarded runs -/

def guard? (s : Store H) : Node → Option Guard
  | .proxy p => (s.proxy? p).map fun x => x.guard
  | .validator v => (s.validator? v).map fun x => x.guard

def setGuard (s : Store H) (n : Node) (g : Guard) : Store H :=
  match n with
  | .proxy p => s.modifyProxy p fun x => { x with guard := g }
  | .validator v => s.modifyValidator v fun x => { x with guard := g }

def isDisposed (s : Store H) : Node → Bool
  | .proxy p => (s.proxy? p).all fun x => x.disposed
  | .validator v => (s.validator? v).all fun x => x.disposed

/-- The warning of a run of a proxy that was cut off; it shows what the proxy is computed from. -/
def proxyWarning (source : ProxySource) (passes : Nat) : Diagnostic :=
  { Diagnostic.ofMessage .warning .dependencyCycle
      ("expression did not settle after " ++ Text.ofNat passes ++ " coalesced passes") with
    source := some source.text }

/-- The warning of a run of a validator that was cut off. -/
def validatorWarning (passes : Nat) : Diagnostic :=
  .ofMessage .warning .dependencyCycle
    ("validation did not settle after " ++ Text.ofNat passes ++ " coalesced passes")

/-- Notes how a run ended. The warning of one that was cut off stays until the next such run. -/
def noteOutcome (s : Store H) (n : Node) (o : RunOutcome) : Store H :=
  match n with
  | .proxy p => s.modifyProxy p fun x =>
    { x with
      lastRun := some o
      diagnostic := (o.cutOff?.map (proxyWarning x.source)).orElse fun _ => x.diagnostic }
  | .validator v => s.modifyValidator v fun x =>
    { x with
      lastRun := some o
      diagnostic := (o.cutOff?.map validatorWarning).orElse fun _ => x.diagnostic }

/-- Puts a value in the place of the one that a proxy shows. -/
def replaceValue (s : Store H) (p : ProxyId) (v : Value) : Store H :=
  s.modifyProxy p fun x => { x with cached := v, generation := x.generation + 1 }

/-- Puts a result in the place of the one that a validator shows. -/
def replaceResult (s : Store H) (v : ValidatorId) (r : ValidationResult) : Store H :=
  s.modifyValidator v fun x => { x with result := r }

/-- Computes the value of a proxy anew. If it is another one, or by force, it takes the place of the
    old one and the listeners are told. -/
def passProxy (s : Store H) (p : ProxyId) (force : Bool) :
    Store H × List (Task H) :=
  match s.proxy? p with
  | none => (s, [])
  | some x =>
    let v := s.sourceValue x.binding x.source
    if !x.disposed && (force || x.cached != v) then
      let s := s.replaceValue p v
      (s, [s.roundOf (.value p v)])
    else (s, [])

/-- Computes the result of a validator anew. If it is another one, it takes the place of the old one
    and the listeners are told. -/
def passValidator (ev : Evaluator) (s : Store H) (v : ValidatorId) : Store H × List (Task H) :=
  match s.validator? v with
  | none => (s, [])
  | some x =>
    let r := s.validate ev x.field x.rules
    if x.result = r then (s, [])
    else
      let s := s.replaceResult v r
      (s, if x.disposed then [] else [s.roundOf (.result v r)])

/-- A proxy that depends on properties behind other properties is subscribed anew, since a change
    may lead its paths to other objects. -/
def follow (s : Store H) (p : ProxyId) : Store H :=
  match s.proxy? p with
  | some x =>
    match x.source with
    | .template _ t => if t.hasNestedPaths then (s.detach p).attach p else s
    | .constant _ => s
  | none => s

end Store

/-- Performs a task: the store after it, and the tasks that come before all others. -/
def Task.perform {H : Type} (ev : Evaluator) (s : Store H) : Task H → Store H × List (Task H)
  | .round _ [] => (s, [])
  | .round e (n :: ns) =>
    match s.listener? e n with
    | some l => (s, [.call l e, .round e ns])
    | none => (s, [.round e ns])
  | .call (.proxy p) _ =>
    if s.isDisposed (.proxy p) then (s, []) else (s.follow p, [.recompute (.proxy p) false])
  | .call (.validator v) _ =>
    if s.isDisposed (.validator v) then (s, []) else (s, [.recompute (.validator v) false])
  | .call (.handler _) _ => (s, [])
  | .recompute n force =>
    if s.isDisposed n then (s, [])
    else
      match s.guard? n with
      | none => (s, [])
      | some g =>
        let (g, starts) := g.request force
        (s.setGuard n g, if starts then [.pass n force, .settle n 1] else [])
  | .pass (.proxy p) force => s.passProxy p force
  | .pass (.validator v) _ => s.passValidator ev v
  | .settle n passes =>
    match s.guard? n with
    | none => (s, [])
    | some g =>
      match g.afterPass passes with
      | (g, .pass force) => (s.setGuard n g, [.pass n force, .settle n (passes + 1)])
      | (g, .extra) => (s.setGuard n g, [.pass n true, .settleExtra n (passes + 1)])
      | (g, .stop o) => ((s.setGuard n g).noteOutcome n o, [])
  | .settleExtra n passes =>
    match s.guard? n with
    | none => (s, [])
    | some g =>
      let (g, o) := g.afterExtra passes
      ((s.setGuard n g).noteOutcome n o, [])
  | .rebind _ [] => (s, [])
  | .rebind b (p :: ps) =>
    if s.isDisposed (.proxy p) then (s, [.rebind b ps])
    else (s.bindProxy p b, [.recompute (.proxy p) true, .rebind b ps])

end LiveForm
