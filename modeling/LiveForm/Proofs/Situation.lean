/-
  Situations: a store in the middle of the work on it, and all that can happen next.

  A situation has a store, the tasks that are left and the entities that are held from outside. Tasks
  are performed from the front, and between two of them handlers may do what commands do.

  * `Task.Performs`: what performing a task comes to, case by case;
  * `Situation.Step`: what can happen in a situation;
-/
import LiveForm.Proofs.Hearing
import LiveForm.Proofs.Ledger

namespace LiveForm

variable {H : Type}

/-! ## Tasks -/

/-- The node that is told when a listener is. -/
def Listener.node? : Listener H → Option Node
  | .proxy p => some (.proxy p)
  | .validator v => some (.validator v)
  | .handler _ => none

/-- What a node shows is what it would show if it were computed now. -/
def Store.Fresh (ev : Evaluator) (s : Store H) : Node → Prop
  | .proxy p => ∀ x, s.proxy? p = some x → (x.cached == s.sourceValue x.binding x.source) = true
  | .validator v => ∀ x, s.validator? v = some x → x.result = s.validate ev x.field x.rules

/-- What performing a task comes to: the store after it and the tasks that are put first. -/
inductive Task.Performs (ev : Evaluator) (s : Store H) : Task H → Store H → List (Task H) → Prop
  -- rounds
  | close {e} : Performs ev s (.round e []) s []
  | tell {e k ks l} (hl : s.listener? e k = some l) :
      Performs ev s (.round e (k :: ks)) s [.call l e, .round e ks]
  | miss {e k ks} (hl : s.listener? e k = none) :
      Performs ev s (.round e (k :: ks)) s [.round e ks]
  -- calls
  | follow {p x e} (hx : s.proxy? p = some x) (hd : x.disposed = false) :
      Performs ev s (.call (.proxy p) e) (s.follow p) [.recompute (.proxy p) false]
  | heed {v x e} (hx : s.validator? v = some x) (hd : x.disposed = false) :
      Performs ev s (.call (.validator v) e) s [.recompute (.validator v) false]
  | ignore {l e} (hd : ∀ n, l.node? = some n → s.isDisposed n) : Performs ev s (.call l e) s []
  -- requests
  | request {n force g} (hd : s.isDisposed n = false) (hg : s.guard? n = some g) :
      Performs ev s (.recompute n force) (s.setGuard n (g.request force).1)
        (if (g.request force).2 then [.pass n force, .settle n 1] else [])
  | refuse {n force} (hd : s.isDisposed n) : Performs ev s (.recompute n force) s []
  -- passes
  | keep {n force} (h : s.isDisposed n ∨ s.Fresh ev n) : Performs ev s (.pass n force) s []
  | update {p x v force} (hx : s.proxy? p = some x) (hd : x.disposed = false)
      (hv : v = s.sourceValue x.binding x.source) :
      Performs ev s (.pass (.proxy p) force) (s.replaceValue p v)
        [(s.replaceValue p v).roundOf (.value p v)]
  | judge {v x r force} (hx : s.validator? v = some x) (hr : r = s.validate ev x.field x.rules) :
      Performs ev s (.pass (.validator v) force) (s.replaceResult v r)
        (if x.disposed then [] else [(s.replaceResult v r).roundOf (.result v r)])
  -- ends of passes
  | again {n k g h force} (hg : s.guard? n = some g) (hp : g.afterPass k = (h, .pass force)) :
      Performs ev s (.settle n k) (s.setGuard n h) [.pass n force, .settle n (k + 1)]
  | extra {n k g h} (hg : s.guard? n = some g) (hp : g.afterPass k = (h, .extra)) :
      Performs ev s (.settle n k) (s.setGuard n h) [.pass n true, .settleExtra n (k + 1)]
  | stop {n k g h o} (hg : s.guard? n = some g) (hp : g.afterPass k = (h, .stop o)) :
      Performs ev s (.settle n k) ((s.setGuard n h).noteOutcome n o) []
  | stopExtra {n k g} (hg : s.guard? n = some g) :
      Performs ev s (.settleExtra n k)
        ((s.setGuard n (g.afterExtra k).1).noteOutcome n (g.afterExtra k).2) []
  | gone {n k} (hg : s.guard? n = none) : Performs ev s (.settle n k) s []
  | goneExtra {n k} (hg : s.guard? n = none) : Performs ev s (.settleExtra n k) s []
  -- other bindings
  | bound {b} : Performs ev s (.rebind b []) s []
  | pass {b p ps} (hd : s.isDisposed (.proxy p)) :
      Performs ev s (.rebind b (p :: ps)) s [.rebind b ps]
  | bind {b p ps x} (hx : s.proxy? p = some x) (hd : x.disposed = false) :
      Performs ev s (.rebind b (p :: ps)) (s.bindProxy p b)
        [.recompute (.proxy p) true, .rebind b ps]

namespace Store

variable {s : Store H}

theorem isDisposed_proxy_eq_false {p : ProxyId} (h : s.isDisposed (.proxy p) = false) :
    ∃ x, s.proxy? p = some x ∧ x.disposed = false := by
  cases hx : s.proxy? p with
  | none => simp [isDisposed, hx] at h
  | some x => exact ⟨x, rfl, by simpa [isDisposed, hx] using h⟩

theorem isDisposed_validator_eq_false {v : ValidatorId} (h : s.isDisposed (.validator v) = false) :
    ∃ x, s.validator? v = some x ∧ x.disposed = false := by
  cases hx : s.validator? v with
  | none => simp [isDisposed, hx] at h
  | some x => exact ⟨x, rfl, by simpa [isDisposed, hx] using h⟩

theorem guard?_isSome {n : Node} (h : s.isDisposed n = false) : ∃ g, s.guard? n = some g := by
  cases n with
  | proxy p =>
    obtain ⟨x, hx, -⟩ := isDisposed_proxy_eq_false h
    exact ⟨x.guard, by simp [guard?, hx]⟩
  | validator v =>
    obtain ⟨x, hx, -⟩ := isDisposed_validator_eq_false h
    exact ⟨x.guard, by simp [guard?, hx]⟩

end Store

theorem Task.performs_passProxy {ev : Evaluator} {s : Store H} {p : ProxyId} {force : Bool} :
    Task.Performs ev s (.pass (.proxy p) force) (s.passProxy p force).1
      (s.passProxy p force).2 := by
  cases hx : s.proxy? p with
  | none =>
    have hp : s.passProxy p force = (s, []) := by simp only [Store.passProxy, hx]
    rw [hp]
    exact .keep (Or.inl (by simp [Store.isDisposed, hx]))
  | some x =>
    cases hd : x.disposed with
    | true =>
      have hp : s.passProxy p force = (s, []) := by simp [Store.passProxy, hx, hd]
      rw [hp]
      exact .keep (Or.inl (by simp [Store.isDisposed, hx, hd]))
    | false =>
      by_cases hc : (force || x.cached != s.sourceValue x.binding x.source) = true
      · simp only [Store.passProxy, hx, hd, hc, Bool.not_false, Bool.and_self, ↓reduceIte]
        exact .update hx hd rfl
      · have hp : s.passProxy p force = (s, []) := by
          simp only [Store.passProxy, hx, hc, Bool.and_false, Bool.false_eq_true, ↓reduceIte]
        rw [hp]
        refine .keep (Or.inr ?_)
        intro y hy
        obtain rfl := Option.some.inj (hx.symm.trans hy)
        simp only [bne, Bool.or_eq_true, Bool.not_eq_eq_eq_not, Bool.not_true, not_or] at hc
        simpa using hc.2

theorem Task.performs_passValidator {ev : Evaluator} {s : Store H} {v : ValidatorId}
    {force : Bool} :
    Task.Performs ev s (.pass (.validator v) force) (s.passValidator ev v).1
      (s.passValidator ev v).2 := by
  cases hx : s.validator? v with
  | none =>
    have hp : s.passValidator ev v = (s, []) := by simp only [Store.passValidator, hx]
    rw [hp]
    exact .keep (Or.inl (by simp [Store.isDisposed, hx]))
  | some x =>
    by_cases hr : x.result = s.validate ev x.field x.rules
    · have hp : s.passValidator ev v = (s, []) := by
        simp only [Store.passValidator, hx, if_pos hr]
      rw [hp]
      refine .keep (Or.inr ?_)
      intro y hy
      obtain rfl := Option.some.inj (hx.symm.trans hy)
      exact hr
    · simp only [Store.passValidator, hx, if_neg hr]
      exact .judge hx rfl

theorem Task.performs (ev : Evaluator) (s : Store H) (tk : Task H) :
    Task.Performs ev s tk (tk.perform ev s).1 (tk.perform ev s).2 := by
  cases tk with
  | round e ks =>
    cases ks with
    | nil => exact .close
    | cons k ks =>
      cases hl : s.listener? e k with
      | none => simpa only [perform, hl] using .miss hl
      | some l => simpa only [perform, hl] using .tell hl
  | call l e =>
    cases l with
    | proxy p =>
      cases hd : s.isDisposed (.proxy p) with
      | true => simpa [perform, hd] using Performs.ignore (l := .proxy p) (by rintro n ⟨⟩; exact hd)
      | false =>
        obtain ⟨x, hx, hxd⟩ := Store.isDisposed_proxy_eq_false hd
        simpa [perform, hd] using .follow hx hxd
    | validator v =>
      cases hd : s.isDisposed (.validator v) with
      | true =>
        simpa [perform, hd] using Performs.ignore (l := .validator v) (by rintro n ⟨⟩; exact hd)
      | false =>
        obtain ⟨x, hx, hxd⟩ := Store.isDisposed_validator_eq_false hd
        simpa [perform, hd] using .heed hx hxd
    | handler h => exact .ignore nofun
  | recompute n force =>
    cases hd : s.isDisposed n with
    | true => simpa [perform, hd] using .refuse hd
    | false =>
      obtain ⟨g, hg⟩ := Store.guard?_isSome hd
      simpa [perform, hd, hg] using .request hd hg
  | pass n force =>
    cases n with
    | proxy p => exact performs_passProxy
    | validator v => exact performs_passValidator
  | settle n k =>
    cases hg : s.guard? n with
    | none => simpa only [perform, hg] using .gone hg
    | some g =>
      rcases hp : g.afterPass k with ⟨h, force | _ | o⟩
      · simpa only [perform, hg, hp] using .again hg hp
      · simpa only [perform, hg, hp] using .extra hg hp
      · simpa only [perform, hg, hp] using .stop hg hp
  | settleExtra n k =>
    cases hg : s.guard? n with
    | none => simpa only [perform, hg] using .goneExtra hg
    | some g => simpa only [perform, hg] using .stopExtra hg
  | rebind b ps =>
    cases ps with
    | nil => exact .bound
    | cons p ps =>
      cases hd : s.isDisposed (.proxy p) with
      | true => simpa [perform, hd] using .pass hd
      | false =>
        obtain ⟨x, hx, hxd⟩ := Store.isDisposed_proxy_eq_false hd
        simpa [perform, hd] using .bind hx hxd

/-! ## Steps -/

/-- The binding that a task gives to proxies. -/
def Task.binding? : Task H → Option Binding
  | .rebind b _ => some b
  | _ => none

/-- New objects have been made, and nothing else has happened. -/
structure Store.Builds (s t : Store H) : Prop where
  proxies : t.proxies = s.proxies
  validators : t.validators = s.validators
  forms : t.forms = s.forms
  next : s.objects.next ≤ t.objects.next
  old : ∀ o, o.index < s.objects.next → t.object? o = s.object? o
  fresh : ∀ o x, s.objects.next ≤ o.index → t.object? o = some x →
    (∀ k, x.subscribers.get? k = none) ∧ ∀ e ∈ x.entities, t.Alive e

/-- A change of an object touches one of its properties alone, and puts there only objects that are
    alive. -/
structure Store.Touches (s : Store H) (name : String) (f : ObjectState H → ObjectState H) :
    Prop where
  subscribers : ∀ x, (f x).subscribers = x.subscribers
  others : ∀ x m, m ≠ name → (f x).properties.lookup m = x.properties.lookup m
  alive : ∀ x, ∀ z ∈ (f x).properties, z ∈ x.properties ∨ ∀ r ∈ z.2.objects, s.Lives r

structure Situation (H : Type) where
  store : Store H
  /-- The tasks that are left, the next one first. -/
  tasks : List (Task H)
  /-- What is held from outside. -/
  held : List Entity

namespace Situation

/-- Somebody holds an entity. -/
def Keeps (c : Situation H) (e : Entity) : Prop :=
  e ∈ c.held ∨ (∃ tk ∈ c.tasks, e ∈ tk.entities) ∨ c.store.Refers e

/-- Something has a binding or is to get it. -/
def Binds (c : Situation H) (b : Binding) : Prop :=
  (∃ p x, c.store.proxy? p = some x ∧ x.binding = b) ∨
    (∃ f x, c.store.form? f = some x ∧ x.binding = b) ∨ ∃ tk ∈ c.tasks, tk.binding? = some b

/-- What can happen in a situation. -/
inductive Step (ev : Evaluator) : Situation H → Situation H → Prop
  /-- Other entities are held from outside. -/
  | hold {s ts held held'} (h : ∀ e ∈ held', s.Alive e) : Step ev ⟨s, ts, held⟩ ⟨s, ts, held'⟩
  /-- Objects are made. -/
  | build {s t ts held} (h : s.Builds t) : Step ev ⟨s, ts, held⟩ ⟨t, ts, held⟩
  /-- A property changes, and its listeners are to be told. -/
  | change {s ts held o name f} (ho : s.Lives o) (h : s.Touches name f) :
      Step ev ⟨s, ts, held⟩ ⟨s.modifyObject o f,
        (s.modifyObject o f).roundOf (.property o name) :: ts, held⟩
  /-- Handlers come and go. -/
  | handle {s t ts held} (h : Store.Frame none none s t) : Step ev ⟨s, ts, held⟩ ⟨t, ts, held⟩
  | newProxy {s ts held source b limit}
      (h : ∀ v, source = .constant v → ∀ e ∈ v.entities, s.Alive e) (hb : s.Knows b) :
      Step ev ⟨s, ts, held⟩ ⟨(s.newProxy source b limit).1, ts, held⟩
  | disposeProxy {s ts held} (p : ProxyId) : Step ev ⟨s, ts, held⟩ ⟨s.disposeProxy p, ts, held⟩
  | newValidator {s ts held field rules limit}
      (h : ∀ p ∈ field :: rules.flatMap Rule.sources, (s.proxy? p).isSome) :
      Step ev ⟨s, ts, held⟩ ⟨(s.newValidator ev field rules limit).1, ts, held⟩
  | disposeValidator {s ts held} (v : ValidatorId) :
      Step ev ⟨s, ts, held⟩ ⟨s.disposeValidator v, ts, held⟩
  /-- Forms are made, or bound to other objects. -/
  | form {s ts held fs}
      (h : ∀ n x, fs.get? n = some x → (∀ e ∈ x.entities, s.Alive e) ∧ s.Knows x.binding)
      (hs : ∀ n, (s.forms.get? n).isSome → (fs.get? n).isSome)
      (hf : s.forms.Later FormState.Later fs) :
      Step ev ⟨s, ts, held⟩ ⟨{ s with forms := fs }, ts, held⟩
  /-- A node is asked to recompute. -/
  | ask {s ts held force} (n : Node) (h : s.Alive n.entity) :
      Step ev ⟨s, ts, held⟩ ⟨s, .recompute n force :: ts, held⟩
  /-- Proxies are to be bound to other objects. -/
  | rebind {s ts held b ps} (h : ∀ p ∈ ps, (s.proxy? p).isSome) (hb : s.Knows b) :
      Step ev ⟨s, ts, held⟩ ⟨s, .rebind b ps :: ts, held⟩
  /-- The next task is performed. -/
  | perform {s t tk new ts held} (h : tk.Performs ev s t new) :
      Step ev ⟨s, tk :: ts, held⟩ ⟨t, new ++ ts, held⟩
  /-- An entity that nobody holds is taken away. -/
  | drop {s ts held} (e : Entity) (h : ¬ Keeps ⟨s, ts, held⟩ e) :
      Step ev ⟨s, ts, held⟩ ⟨s.drop e, ts, held⟩

end Situation

end LiveForm
