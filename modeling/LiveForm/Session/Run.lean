/-
  Running sessions.

  The agenda of a session is worked off from the front. What a piece of work leads to is put before
  the rest, and after each piece what nobody holds is swept away.

  * `Session.step` does the next piece of work;
  * `Session.finish` works off the agenda, under a bound on the number of pieces;
  * `Session.execute` carries out a command of the caller.
-/
import LiveForm.Session.Effect

namespace LiveForm.Session

/-- Puts work before the rest. -/
def push (s : Session) (ws : List Work) : Session := { s with agenda := ws ++ s.agenda }

def note (s : Session) (x : LogEntry) : Session := { s with log := x :: s.log }

/-- Carries out a command, with the answer going to a handler or to the caller. -/
def start (s : Session) (e : Option Occasion) (c : Command) (handler : Option String) : Session :=
  let x := s.carryOut e c
  x.session.push (x.tasks.map .task ++ [.reply x.reply handler])

/-- What a handler is told of an event, and what its commands can refer to. -/
def noticeOf (s : Session) : Event → Notice × Occasion
  | .property o name =>
    let v := (s.store.property o name).getD .noValue
    (.property name v, ⟨v, 0⟩)
  | .value _ v => (.value v, ⟨v, 0⟩)
  | .result _ r => (.result r, ⟨.boolean r.isValid, r.errors.length⟩)

/-- A handler of a property is told what it is now. -/
theorem noticeOf_property {s : Session} {o : ObjectId} {name : String} {v : Value}
    (h : s.store.property o name = some v) :
    s.noticeOf (.property o name) = (.property name v, ⟨v, 0⟩) := by
  rw [noticeOf, h]
  rfl

/-- A handler of a proxy is told the value of the event. -/
@[simp] theorem noticeOf_value (s : Session) (p : ProxyId) (v : Value) :
    s.noticeOf (.value p v) = (.value v, ⟨v, 0⟩) := rfl

/-- A handler of a validator is told the result of the event. -/
@[simp] theorem noticeOf_result (s : Session) (v : ValidatorId) (r : ValidationResult) :
    s.noticeOf (.result v r) = (.result r, ⟨.boolean r.isValid, r.errors.length⟩) := rfl

/-- Whether a condition holds at what a handler is told. -/
def applies (s : Session) (e : Occasion) : Condition → Bool
  | .always => true
  | .told x =>
    match resolve s.objects (some e) s.store x with
    | .ok (_, v) => v == e.value
    | .error _ => false
  | .test p => p e s.readable

/-- Hands over an answer. -/
def deliver (s : Session) (a : Answer) : Option String → Session
  | some id => s.note (.did id a)
  | none => { s with answer := some a }

/-- Finds the answer to a command whose tasks are over, or goes on to its next ones. -/
def replyTo (s : Session) (handler : Option String) : Reply → Session
  | .answer a => s.deliver a handler
  | .proxyValue p _ => s.deliver (.value (s.store.valueOf p)) handler
  | .validatorResult v => s.deliver (.result (s.resultOf v)) handler
  | .formBound f b _ =>
    let s := s.withStore (s.store.modifyForm f fun x => { x with binding := b })
    s.deliver (.bound (((s.store.form? f).map s.isValid).getD true) (s.store.boundType b.model)
      (s.store.boundType b.context)) handler
  | .failing f last rest found =>
    let found := match last with
      | none => found
      | some (key, v) => if (s.resultOf v).isValid then found else found ++ [(key, s.resultOf v)]
    match rest with
    | [] => s.deliver (.failing found) handler
    | (key, v) :: rest => s.push [.task (.recompute (.validator v) false),
      .reply (.failing f (some (key, v)) rest found) handler]

/-- Does a piece of work. -/
def work (s : Session) : Work → Session
  | .task (.call (.handler script) e) =>
    let (notice, occasion) := s.noticeOf e
    (s.note (.told script.id notice)).push [.script script.id occasion script.actions]
  | .task t =>
    let (store, tasks) := t.perform s.engine.evaluator s.store
    (s.withStore store).push (tasks.map .task)
  | .script _ _ [] => s
  | .script id e (.when condition c :: rest) =>
    let s := s.push [.script id e rest]
    if s.applies e condition then s.start (some e) c (some id) else s
  | .reply r handler => s.replyTo handler r

/-- Does the next piece of work, if there is any. -/
def step (s : Session) : Session :=
  match s.agenda with
  | [] => s
  | w :: rest => ({ s with agenda := rest }.work w).sweep

/-- A handler whose call comes next is told what there is to tell of the event, as the log says, and its
    commands come next, with the same to refer to. -/
theorem step_call {s : Session} {x : Script} {e : Event} {rest : List Work}
    (h : s.agenda = .task (.call (.handler x) e) :: rest) :
    s.step.log = .told x.id (s.noticeOf e).1 :: s.log ∧
      s.step.agenda = .script x.id (s.noticeOf e).2 x.actions :: rest := by
  rw [step, h]
  cases e <;> exact ⟨rfl, rfl⟩

/-- Works off the agenda; nothing if that takes more than `fuel` pieces of work. -/
def finish : Nat → Session → Option Session
  | fuel, s =>
    match s.agenda, fuel with
    | [], _ => some s
    | _ :: _, 0 => none
    | _ :: _, fuel + 1 => finish fuel s.step

/-- Carries out a command of the caller and all that follows from it. -/
def execute (fuel : Nat) (s : Session) (c : Command) : Option Session :=
  finish fuel ({ s with log := [], answer := none }.start none c none).sweep

/-- The answer to each of some commands, with what handlers were told and did meanwhile. -/
def run (fuel : Nat) (s : Session) : List Command → List (Answer × List LogEntry)
  | [] => []
  | c :: cs =>
    match s.execute fuel c with
    | none => []
    | some s => (s.answer.getD .done, s.log.reverse) :: run fuel s cs

/-- A session with objects whose type names are their names. Their properties may hold any of
    them. -/
def withObjects (s : Session) (objects : List (String × List (String × Operand))) :
    Except Missing Session := do
  let s := objects.foldl (fun s x =>
    let (t, o) := s.store.newObject x.1
    { s.withStore t with objects := putName x.1 o s.objects }) s
  let t ← objects.foldlM (fun t x =>
    match s.objects.lookup x.1 with
    | some o => setAll s.objects none t o.id x.2
    | none => .error (.object x.1)) s.store
  return (s.withStore t).sweep

end LiveForm.Session
