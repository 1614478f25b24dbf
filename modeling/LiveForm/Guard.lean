/-
  Guards: they keep a recomputation from running inside itself.

  A request that comes while a run is in progress is put off to a further pass of that run, however
  many there are of them. The number of passes of a run is limited. At the limit a request that was
  not forced is dropped, and one that was forced gets a single extra pass, whose own requests are
  dropped.

  * `Guard.request`, `Guard.afterPass` and `Guard.afterExtra` are the steps of a run;
  * `Guard.run` is a whole run over passes of which only the requests made in them matter.
-/

namespace LiveForm

structure Guard where
  /-- The number of passes that a run may have, but for an extra one. -/
  limit : Nat
  running : Bool
  /-- Whether there was a request in the current pass. -/
  pending : Bool
  /-- Whether one of these requests was forced. -/
  pendingForce : Bool
deriving DecidableEq, Inhabited

inductive RunOutcome where
  /-- The request was put off to the run in progress. -/
  | coalesced
  /-- The last pass made no request. -/
  | settled (passes : Nat)
  /-- The last pass made a request that was dropped. -/
  | cutOff (passes : Nat)
deriving DecidableEq, Inhabited

/-- The number of passes of a run that was cut off. -/
def RunOutcome.cutOff? : RunOutcome → Option Nat
  | .cutOff passes => some passes
  | _ => none

namespace Guard

/-- A guard at rest; a run has at least one pass. -/
def ofLimit (limit : Nat) : Guard := ⟨max limit 1, false, false, false⟩

/-- What follows a pass. -/
inductive Next where
  | pass (force : Bool)
  | extra
  | stop (o : RunOutcome)
deriving DecidableEq

/-- The guard after a request, and whether the request starts a run. -/
def request (g : Guard) (force : Bool) : Guard × Bool :=
  if g.running then ({ g with pending := true, pendingForce := g.pendingForce || force }, false)
  else ({ g with running := true }, true)

/-- What follows pass number `passes` of a run. -/
def afterPass (g : Guard) (passes : Nat) : Guard × Next :=
  if !g.pending then ({ g with running := false }, .stop (.settled passes))
  else
    let h := { g with pending := false, pendingForce := false }
    if passes < g.limit then (h, .pass g.pendingForce)
    else if g.pendingForce then (h, .extra)
    else ({ h with running := false }, .stop (.cutOff passes))

/-- The end of a run whose extra pass was number `passes`. -/
def afterExtra (g : Guard) (passes : Nat) : Guard × RunOutcome :=
  ({ g with running := false, pending := false, pendingForce := false }, .cutOff passes)

/-! ## Whole runs -/

/-- A pass of a run: whether it was forced, and for each request made in it whether the guard was
    running afterwards, and the answer. -/
structure Pass where
  force : Bool
  answers : List (Bool × RunOutcome)
deriving DecidableEq

/-- A run whose pass makes no request. -/
def runQuiet (g : Guard) (force : Bool) : Guard × RunOutcome :=
  match g.request force with
  | (h, false) => (h, .coalesced)
  | (h, true) => ({ h with running := false }, .settled 1)

/-- The requests of a pass, one after the other. -/
def answers (g : Guard) : List Bool → Guard × List (Bool × RunOutcome)
  | [] => (g, [])
  | force :: rest =>
    let (h, o) := g.runQuiet force
    let (k, os) := answers h rest
    (k, (h.running, o) :: os)

theorem limit_runQuiet (g : Guard) (force : Bool) : (g.runQuiet force).1.limit = g.limit := by
  simp only [runQuiet, request]; split <;> simp_all <;> split at * <;> grind

theorem limit_answers (g : Guard) (forces : List Bool) : (g.answers forces).1.limit = g.limit := by
  induction forces generalizing g with
  | nil => rfl
  | cons f fs ih => simp [answers, ih, limit_runQuiet]

theorem limit_afterPass (g : Guard) (passes : Nat) : (g.afterPass passes).1.limit = g.limit := by
  simp only [afterPass]; split <;> (try split) <;> (try split) <;> rfl

theorem lt_of_afterPass_eq_pass {g h : Guard} {passes : Nat} {force : Bool}
    (e : g.afterPass passes = (h, .pass force)) : passes < g.limit := by
  simp only [afterPass] at e
  split at e
  · simp at e
  · split at e
    · assumption
    · split at e <;> simp at e

/-- Each further pass of a run leaves fewer passes to come. -/
theorem limit_sub_lt {g h : Guard} {n : Nat} {force : Bool} {forces : List Bool}
    (e : (g.answers forces).1.afterPass (n + 1) = (h, .pass force)) :
    h.limit - (n + 1) < g.limit - n := by
  have h₁ := lt_of_afterPass_eq_pass e
  have h₂ := limit_afterPass (g.answers forces).1 (n + 1)
  rw [e, limit_answers] at h₂
  rw [limit_answers] at h₁
  simp only at h₂
  omega

/-- A run in progress from pass number `n + 1` on, where `requests i` are made in pass number `i`
    counted from 0. -/
def runFrom (requests : Nat → List Bool) (g : Guard) (force : Bool) (n : Nat) :
    Guard × List Pass × RunOutcome :=
  match h : (g.answers (requests n)).1.afterPass (n + 1) with
  | (k, .pass again) =>
    have := limit_sub_lt h
    let (l, ps, o) := runFrom requests k again (n + 1)
    (l, ⟨force, (g.answers (requests n)).2⟩ :: ps, o)
  | (k, .extra) =>
    let (l, last) := k.answers (requests (n + 1))
    let (l, o) := l.afterExtra (n + 2)
    (l, [⟨force, (g.answers (requests n)).2⟩, ⟨true, last⟩], o)
  | (k, .stop o) => (k, [⟨force, (g.answers (requests n)).2⟩], o)
termination_by g.limit - n

/-- A run with the requests made in its passes. -/
def run (g : Guard) (force : Bool) (requests : Nat → List Bool) : Guard × List Pass × RunOutcome :=
  match g.request force with
  | (h, false) => (h, [], .coalesced)
  | (h, true) => runFrom requests h force 0

end Guard

end LiveForm
