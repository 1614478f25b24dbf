/-
  Evaluation of expressions.

  An expression is evaluated in a scope: what the properties of objects hold, and which objects the
  two roots are. A path is followed from object to object, and where it leads nowhere its value is
  `noValue`.

  * `Evaluator.evaluate` gives the value of an expression or the first filter error;
  * `Scope.follow` reads a path, and `Scope.visited` lists the properties looked at on the way;
  * `Scope.watches` lists the properties that a template depends on as the objects now stand.
-/
import LiveForm.Filter.Registry
import LiveForm.Template.Basic

namespace LiveForm

/-- What can be read. -/
structure Scope where
  /-- The value of a property of an object, if there are such an object and such a property. -/
  property : ObjectId → String → Option Value
  /-- The object of a root, if there is one. -/
  root : Root → Option ObjectId

namespace Scope

/-- The value that is reached from an object through properties. -/
def follow (sc : Scope) (o : ObjectId) : List String → Value
  | [] => .noValue
  | [s] => (sc.property o s).getD .noValue
  | s :: t :: ss =>
    match sc.property o s with
    | some (.object next) => follow sc next.id (t :: ss)
    | _ => .noValue

/-- The properties that are looked at on the way from an object through properties. -/
def visited (sc : Scope) (o : ObjectId) : List String → List (ObjectId × String)
  | [] => []
  | [s] => [(o, s)]
  | s :: t :: ss => (o, s) ::
    match sc.property o s with
    | some (.object next) => visited sc next.id (t :: ss)
    | _ => []

/-- The value of a path. -/
def read (sc : Scope) (p : Path) : Value :=
  match sc.root p.root with
  | some o => sc.follow o p.segments
  | none => .noValue

/-- The properties that are looked at for the paths from one root. -/
def watchesFrom (sc : Scope) (t : Template) (root : Root) : List (ObjectId × String) :=
  match sc.root root with
  | some o => (t.pathsFrom root).flatMap (sc.visited o)
  | none => []

/-- The properties that a template depends on, each once: those of the model first. -/
def watches (sc : Scope) (t : Template) : List (ObjectId × String) :=
  (sc.watchesFrom t .model ++ sc.watchesFrom t .context).eraseDups

end Scope

/-- The filters and the culture that expressions are evaluated with. -/
structure Evaluator where
  registry : Registry
  culture : Culture
deriving Inhabited

namespace Evaluator

/-- Applies the filter of a name. -/
def applyFilter (ev : Evaluator) (name : String) (v : Value) (args : List Value) :
    Except FilterError Value :=
  ev.registry.apply ev.culture name v args

mutual

/-- The value of an expression, or the first error on the way from left to right. Of a conditional
    only the branch that is taken is evaluated. -/
def evaluate (ev : Evaluator) (sc : Scope) : Expression → Except FilterError Value
  | .literal l => .ok l.value
  | .path p => .ok (sc.read p)
  | .pipe source filter args => do
    let v ← evaluate ev sc source
    let vs ← evaluateAll ev sc args
    ev.applyFilter filter v vs
  | .conditional condition whenTrue whenFalse => do
    let v ← evaluate ev sc condition
    if v.isTruthy then evaluate ev sc whenTrue else evaluate ev sc whenFalse
  | .interpolation parts => return .string (← evaluateParts ev sc parts)

/-- The values of expressions. -/
def evaluateAll (ev : Evaluator) (sc : Scope) : List Expression → Except FilterError (List Value)
  | [] => .ok []
  | e :: es => do
    let v ← evaluate ev sc e
    let vs ← evaluateAll ev sc es
    return v :: vs

/-- The texts of the parts of an interpolation, put together. -/
def evaluateParts (ev : Evaluator) (sc : Scope) : List Part → Except FilterError String
  | [] => .ok ""
  | p :: ps => do
    let s ← evaluatePart ev sc p
    let rest ← evaluateParts ev sc ps
    return s ++ rest

/-- The text of a part of an interpolation. -/
def evaluatePart (ev : Evaluator) (sc : Scope) : Part → Except FilterError String
  | .text s => .ok s
  | .expression e => do return ev.culture.format (← evaluate ev sc e)

end

/-- The value of an expression; `noValue` stands for every error. -/
def valueOf (ev : Evaluator) (sc : Scope) (e : Expression) : Value :=
  match ev.evaluate sc e with
  | .ok v => v
  | .error _ => .noValue

end Evaluator

end LiveForm
