/-
  An evaluation reads nothing but what is watched.

  An evaluation goes along a path from value to value, as far as there are objects, and of a
  conditional it reads one branch only. A proxy goes along all the paths of its template by itself, and
  subscribes to each property that it meets once.

  * `Inquiry`: an evaluation that learns of objects by nothing but questions for their properties, with
    its `answer` and what is `asked` on the way; `answer_congr`: who gets the same answers ends the same;
  * `Evaluator.inquire`: the evaluation of an expression as an inquiry; `answer_inquire`: it ends with
    the value of the expression, or with its error;
  * `Inquiry.Within`: questions of one kind only; `within_inquire`: what an expression asks for is met
    along its paths;
  * `Store.reads_watched`: the result.
-/
import LiveForm.Proofs.Ledger

namespace LiveForm

/-- An evaluation that learns of objects by nothing but questions for their properties. -/
inductive Inquiry (α : Type) where
  | done (a : α)
  | failed (e : FilterError)
  | ask (o : ObjectId) (name : String) (next : Option Value → Inquiry α)

namespace Inquiry

variable {α β : Type} {sc sc' : Scope}

protected def bind (q : Inquiry α) (f : α → Inquiry β) : Inquiry β :=
  match q with
  | done a => f a
  | failed e => failed e
  | ask o name next => ask o name fun v => (next v).bind f

instance : Monad Inquiry where
  pure := done
  bind := Inquiry.bind

def ofExcept : Except FilterError α → Inquiry α
  | .ok a => done a
  | .error e => failed e

/-- How an inquiry ends where the properties have the values that a scope shows. -/
def answer (sc : Scope) : Inquiry α → Except FilterError α
  | done a => .ok a
  | failed e => .error e
  | ask o name next => (next (sc.property o name)).answer sc

/-- The properties that are asked for, one after the other, missing ones included. -/
def asked (sc : Scope) : Inquiry α → List (ObjectId × String)
  | done _ | failed _ => []
  | ask o name next => (o, name) :: (next (sc.property o name)).asked sc

@[simp] theorem answer_pure (a : α) : (pure a : Inquiry α).answer sc = .ok a := rfl

@[simp] theorem answer_ofExcept (r : Except FilterError α) : (ofExcept r).answer sc = r := by
  cases r <;> rfl

@[simp] theorem answer_bind (q : Inquiry α) (f : α → Inquiry β) :
    (q >>= f).answer sc = q.answer sc >>= fun a => (f a).answer sc := by
  induction q with
  | done | failed => rfl
  | ask o name next ih => exact ih _

/-- Nothing is asked for but what `P` allows. -/
def Within (sc : Scope) (P : ObjectId × String → Prop) (q : Inquiry α) : Prop :=
  ∀ z ∈ q.asked sc, P z

theorem Within.pure {P : ObjectId × String → Prop} (a : α) :
    (Pure.pure a : Inquiry α).Within sc P := List.forall_mem_nil _

theorem Within.ofExcept {P : ObjectId × String → Prop} (r : Except FilterError α) :
    (ofExcept r).Within sc P := by
  cases r <;> exact List.forall_mem_nil _

theorem Within.bind {P : ObjectId × String → Prop} {q : Inquiry α} {f : α → Inquiry β}
    (h : q.Within sc P) (hf : ∀ a, (f a).Within sc P) : (q >>= f).Within sc P := by
  induction q with
  | done a => exact hf a
  | failed e => exact List.forall_mem_nil _
  | ask o name next ih =>
    obtain ⟨first, rest⟩ := List.forall_mem_cons.1 h
    exact List.forall_mem_cons.2 ⟨first, ih _ rest⟩

/-- Scopes that answer alike all that is asked in one of them make an inquiry end in the same way. -/
theorem answer_congr {q : Inquiry α}
    (h : ∀ z ∈ q.asked sc, sc'.property z.1 z.2 = sc.property z.1 z.2) :
    q.answer sc' = q.answer sc := by
  induction q with
  | done | failed => rfl
  | ask o name next ih =>
    rw [asked, List.forall_mem_cons] at h
    rw [answer, answer, h.1]
    exact ih _ h.2

/-! ## Paths -/

/-- Goes on from a value through properties. -/
def seek : Value → List String → Inquiry Value
  | v, [] => done v
  | .object o, s :: ss => ask o.id s fun v => seek (v.getD .noValue) ss
  | _, _ :: _ => done .noValue

/-- Goes from an object through properties. -/
def seekFrom (o : ObjectId) : List String → Inquiry Value
  | [] => done .noValue
  | s :: ss => ask o s fun v => seek (v.getD .noValue) ss

theorem seekFrom_of_object {o : ObjectId} {s t : String} {r : ObjectRef} (ss : List String)
    (h : sc.property o s = some (.object r)) :
    (seekFrom o (s :: t :: ss)).answer sc = (seekFrom r.id (t :: ss)).answer sc ∧
      (seekFrom o (s :: t :: ss)).asked sc = (o, s) :: (seekFrom r.id (t :: ss)).asked sc := by
  rw [seekFrom, answer, asked, h]
  exact ⟨rfl, rfl⟩

theorem seekFrom_of_no_object {o : ObjectId} {s t : String} (ss : List String)
    (h : ∀ r, sc.property o s ≠ some (.object r)) :
    (seekFrom o (s :: t :: ss)).answer sc = .ok .noValue ∧
      (seekFrom o (s :: t :: ss)).asked sc = [(o, s)] := by
  rw [seekFrom, answer, asked]
  cases hs : sc.property o s with
  | none => exact ⟨rfl, rfl⟩
  | some v =>
    cases v with
    | object r => exact absurd hs (h r)
    | _ => exact ⟨rfl, rfl⟩

/-- An evaluation goes along a path as a proxy does, and ends with the value of the path. -/
theorem seekFrom_spec (o : ObjectId) (ss : List String) :
    (seekFrom o ss).answer sc = .ok (sc.follow o ss) ∧
      (seekFrom o ss).asked sc = sc.visited o ss := by
  fun_induction sc.follow o ss with
  | case1 | case2 => exact ⟨rfl, rfl⟩
  | case3 o s t ss r hr ih =>
    obtain ⟨hanswer, hasked⟩ := seekFrom_of_object ss hr
    rw [hanswer, hasked, Scope.visited_of_object _ hr, ih.1, ih.2]
    exact ⟨rfl, rfl⟩
  | case4 o s t ss hr =>
    rw [Scope.visited_of_no_object _ hr]
    exact seekFrom_of_no_object ss hr

end Inquiry

/-! ## Expressions -/

/-- Asks for what is met along a path, if there is an object to start from. -/
def Path.inquire (root : Root → Option ObjectId) (p : Path) : Inquiry Value :=
  match root p.root with
  | some o => .seekFrom o p.segments
  | none => pure .noValue

theorem Path.answer_inquire {sc : Scope} (p : Path) :
    (p.inquire sc.root).answer sc = .ok (sc.read p) := by
  rw [inquire, Scope.read]
  cases sc.root p.root with
  | none => rfl
  | some o => exact (Inquiry.seekFrom_spec o p.segments).1

theorem Path.mem_asked_inquire {sc : Scope} {p : Path} {z : ObjectId × String} :
    z ∈ (p.inquire sc.root).asked sc ↔
      ∃ o, sc.root p.root = some o ∧ z ∈ sc.visited o p.segments := by
  rw [inquire]
  cases sc.root p.root with
  | none => simp [pure, Inquiry.asked]
  | some o => simp [(Inquiry.seekFrom_spec o p.segments).2]

namespace Evaluator

variable (ev : Evaluator) (root : Root → Option ObjectId)

mutual

/-- The evaluation of an expression, of which the roots alone are known beforehand. -/
def inquire : Expression → Inquiry Value
  | .literal l => pure l.value
  | .path p => p.inquire root
  | .pipe source filter args => do
    let v ← inquire source
    let vs ← inquireAll args
    .ofExcept (ev.applyFilter filter v vs)
  | .conditional condition whenTrue whenFalse => do
    let v ← inquire condition
    if v.isTruthy then inquire whenTrue else inquire whenFalse
  | .interpolation parts => return .string (← inquireParts parts)

def inquireAll : List Expression → Inquiry (List Value)
  | [] => pure []
  | e :: es => do
    let v ← inquire e
    let vs ← inquireAll es
    return v :: vs

def inquireParts : List Part → Inquiry String
  | [] => pure ""
  | p :: ps => do
    let s ← inquirePart p
    let rest ← inquireParts ps
    return s ++ rest

def inquirePart : Part → Inquiry String
  | .text s => pure s
  | .expression e => do return ev.culture.format (← inquire e)

end

variable {ev} {sc : Scope}

mutual

/-- An inquiry ends with the value of the expression, or with its error. -/
theorem answer_inquire (e : Expression) :
    (ev.inquire sc.root e).answer sc = ev.evaluate sc e := by
  match e with
  | .literal l => rfl
  | .path p => exact p.answer_inquire
  | .pipe source filter args =>
    simp only [inquire, evaluate, Inquiry.answer_bind, Inquiry.answer_ofExcept,
      answer_inquire source, answer_inquireAll args]
  | .conditional c t f =>
    simp only [inquire, evaluate, Inquiry.answer_bind, answer_inquire c,
      apply_ite (Inquiry.answer sc), answer_inquire t, answer_inquire f]
  | .interpolation parts =>
    simp only [inquire, evaluate, Inquiry.answer_bind, Inquiry.answer_pure,
      answer_inquireParts parts]
    rfl

theorem answer_inquireAll (es : List Expression) :
    (ev.inquireAll sc.root es).answer sc = ev.evaluateAll sc es := by
  match es with
  | [] => rfl
  | e :: es =>
    simp only [inquireAll, evaluateAll, Inquiry.answer_bind, Inquiry.answer_pure,
      answer_inquire e, answer_inquireAll es]
    rfl

theorem answer_inquireParts (ps : List Part) :
    (ev.inquireParts sc.root ps).answer sc = ev.evaluateParts sc ps := by
  match ps with
  | [] => rfl
  | p :: ps =>
    simp only [inquireParts, evaluateParts, Inquiry.answer_bind, Inquiry.answer_pure,
      answer_inquirePart p, answer_inquireParts ps]
    rfl

theorem answer_inquirePart (p : Part) :
    (ev.inquirePart sc.root p).answer sc = ev.evaluatePart sc p := by
  match p with
  | .text s => rfl
  | .expression e =>
    simp only [inquirePart, evaluatePart, Inquiry.answer_bind, Inquiry.answer_pure,
      answer_inquire e]
    rfl

end

mutual

/-- An inquiry asks for nothing but what is met along the paths of the expression. -/
theorem within_inquire {P : ObjectId × String → Prop} (e : Expression)
    (h : ∀ p ∈ e.paths, (p.inquire sc.root).Within sc P) :
    (ev.inquire sc.root e).Within sc P := by
  match e with
  | .literal l => exact .pure _
  | .path p => exact h p (List.mem_singleton_self p)
  | .pipe source filter args =>
    simp only [Expression.paths, List.mem_append] at h
    exact (within_inquire source fun p hp => h p (.inl hp)).bind fun v =>
      (within_inquireAll args fun p hp => h p (.inr hp)).bind fun vs => .ofExcept _
  | .conditional c t f =>
    simp only [Expression.paths, List.mem_append] at h
    refine (within_inquire c fun p hp => h p (.inl (.inl hp))).bind fun v => ?_
    split
    · exact within_inquire t fun p hp => h p (.inl (.inr hp))
    · exact within_inquire f fun p hp => h p (.inr hp)
  | .interpolation parts => exact (within_inquireParts parts h).bind fun s => .pure _

theorem within_inquireAll {P : ObjectId × String → Prop} (es : List Expression)
    (h : ∀ p ∈ Expression.pathsOfAll es, (p.inquire sc.root).Within sc P) :
    (ev.inquireAll sc.root es).Within sc P := by
  match es with
  | [] => exact .pure _
  | e :: es =>
    simp only [Expression.pathsOfAll, List.mem_append] at h
    exact (within_inquire e fun p hp => h p (.inl hp)).bind fun v =>
      (within_inquireAll es fun p hp => h p (.inr hp)).bind fun vs => .pure _

theorem within_inquireParts {P : ObjectId × String → Prop} (ps : List Part)
    (h : ∀ p ∈ Expression.pathsOfParts ps, (p.inquire sc.root).Within sc P) :
    (ev.inquireParts sc.root ps).Within sc P := by
  match ps with
  | [] => exact .pure _
  | q :: ps =>
    simp only [Expression.pathsOfParts, List.mem_append] at h
    exact (within_inquirePart q fun p hp => h p (.inl hp)).bind fun s =>
      (within_inquireParts ps fun p hp => h p (.inr hp)).bind fun rest => .pure _

theorem within_inquirePart {P : ObjectId × String → Prop} (q : Part)
    (h : ∀ p ∈ Expression.pathsOfPart q, (p.inquire sc.root).Within sc P) :
    (ev.inquirePart sc.root q).Within sc P := by
  match q with
  | .text s => exact .pure _
  | .expression e => exact (within_inquire e h).bind fun v => .pure _

end

/-- What is read for a template is watched for it. -/
theorem within_watches (ev : Evaluator) (sc : Scope) (t : Template) :
    (ev.inquire sc.root t.root).Within sc (· ∈ sc.watches t) := by
  refine within_inquire t.root fun p hp z hz => ?_
  obtain ⟨o, ho, hz⟩ := Path.mem_asked_inquire.1 hz
  exact Scope.mem_watches_iff_visited.2 ⟨p, hp, o, ho, hz⟩

end Evaluator

/-! ## Subscriptions -/

namespace Store

variable {H : Type} {s : Store H} {p : ProxyId} {t : Template} {b : Binding}

/-- A proxy of a template under a binding, among objects whose properties lead to objects that are
    alive. -/
structure Bound (s : Store H) (p : ProxyId) (t : Template) (b : Binding) : Prop where
  closed : s.Sealed
  proxy : ∃ x ev, s.proxy? p = some x ∧ x.source = .template ev t ∧ x.binding = b

/-- Among the subscriptions that a proxy notes there is one to a property. -/
def SubscribedTo (s : Store H) (p : ProxyId) (o : ObjectId) (name : String) : Prop :=
  ∃ x n, s.proxy? p = some x ∧ (o, n) ∈ x.subscriptions ∧ s.Subscribed p o n name

/-- To subscribe a proxy to all that it depends on is to subscribe it to what is watched for its
    template. -/
theorem Bound.subscribedTo_attach (h : s.Bound p t b) {o : ObjectId} {name : String} :
    (s.attach p).SubscribedTo p o name ↔ (o, name) ∈ (s.scope b).watches t := by
  obtain ⟨x, ev, hx, ht, rfl⟩ := h.proxy
  have hw : s.watchesOf x = (s.scope x.binding).watches t := by rw [watchesOf, ht]
  have ha := attached_attach hx h.closed
  have hy := proxy?_attach hx
  have kept : ∀ ws, (s.attach p).watchesOf { x with subscriptions := ws } = s.watchesOf x :=
    fun _ => watchesOf_congr (contents_attach p) x
  rw [← hw]
  constructor
  · rintro ⟨y, n, hy', hn, hs⟩
    obtain rfl := Option.some.inj (hy.symm.trans hy')
    -- the number stands for one property only, so the one that is noted is the one that is watched
    obtain ⟨m, hm, hs'⟩ := ha.exists_watched hn
    obtain ⟨-, rfl⟩ := hs.functional hs'
    rwa [kept] at hm
  · intro hz
    rw [← kept] at hz
    obtain ⟨n, hn, hs⟩ := ha.exists_subscribed hz
    exact ⟨_, n, hy, hn, hs⟩

/-- Among such objects every template can be bound. -/
theorem Sealed.bound_newProxy (hs : s.Sealed) (ev : Evaluator) (t : Template) (b : Binding)
    (limit : Nat) : (s.newProxy (.template ev t) b limit).1.Bound ⟨s.proxies.next⟩ t b := by
  obtain ⟨ws, hx⟩ := proxy?_newProxy (s := s) (.template ev t) b limit
  exact ⟨hs.congr (frame_newProxy (.template ev t) b limit).contents, _, ev, hx, rfl, rfl⟩

/-- An evaluation reads nothing but what a proxy is subscribed to.

    * The evaluation of an expression is an inquiry: given the roots of a binding, it comes to its value
      or error by questions for properties alone;
    * a proxy that is subscribed to all that it depends on has a subscription to every property that is
      asked for, whether there is such a property or not;
    * among any other objects where all these properties are what they are here, or missing as they
      are here, it is subscribed to the same ones, and the evaluation ends in the same way.

    What a custom filter reads by itself is not asked for: filters are pure, as `Filter` has them. -/
theorem reads_watched (ev : Evaluator) (h : s.Bound p t b) :
    (ev.inquire (s.scope b).root t.root).answer (s.scope b) = ev.evaluate (s.scope b) t.root ∧
    (∀ z ∈ (ev.inquire (s.scope b).root t.root).asked (s.scope b),
      (s.attach p).SubscribedTo p z.1 z.2) ∧
    ∀ s' : Store H, ∀ q, s'.Bound q t b → (s'.scope b).root = (s.scope b).root →
      (∀ o name, (s.attach p).SubscribedTo p o name → s'.property o name = s.property o name) →
      (∀ o name, (s'.attach q).SubscribedTo q o name ↔ (s.attach p).SubscribedTo p o name) ∧
        ev.evaluate (s'.scope b) t.root = ev.evaluate (s.scope b) t.root := by
  refine ⟨Evaluator.answer_inquire t.root, ?_, ?_⟩
  · intro z hz
    exact h.subscribedTo_attach.2 (ev.within_watches _ t z hz)
  · intro s' q h' root same
    have same : ∀ z ∈ (s.scope b).watches t,
        (s'.scope b).property z.1 z.2 = (s.scope b).property z.1 z.2 :=
      fun z hz => same z.1 z.2 (h.subscribedTo_attach.2 hz)
    constructor
    · intro o name
      rw [h.subscribedTo_attach, h'.subscribedTo_attach, Scope.watches_congr root same]
    · -- with the same roots both evaluations are one inquiry, and it gets the same answers
      rw [← Evaluator.answer_inquire, ← Evaluator.answer_inquire, root]
      exact Inquiry.answer_congr fun z hz => same z (ev.within_watches _ t z hz)

theorem sealed_of_entries (h : ∀ e ∈ s.objects.entries, ∀ z ∈ e.2.properties, ∀ r ∈ z.2.objects,
    (s.object? r).isSome) : s.Sealed := by
  intro o ps hps z hz r hr
  obtain ⟨x, hx, rfl⟩ := Option.map_eq_some_iff.1 hps
  exact h _ (Roster.get?_eq_some_iff.1 hx) z hz r hr

/-- Two objects that lead to each other; the second one has a property of its own. -/
def circle (own : Bool) : Store Unit :=
  let (s, a) := (empty : Store Unit).newObject "A"
  let (s, b) := s.newObject "B"
  let s := (s.setProperty a.id "next" (.object b)).setProperty a.id "n" (.integer 5)
  (s.setProperty b.id "next" (.object a)).setProperty b.id "own" (.boolean own)

/-- Goes around the circle, and then to a property that is missing. -/
def around : Template :=
  ⟨"", .conditional (.path ⟨.model, ["next", "next", "n"]⟩) (.path ⟨.model, ["next", "missing"]⟩)
    (.path ⟨.context, ["n"]⟩)⟩

theorem reads_watched_around : ∃ s s' : Store Unit, ∃ p b, s.Bound p around b ∧ s'.Bound p around b ∧
    (s'.scope b).root = (s.scope b).root ∧
    (∀ o name, (s.attach p).SubscribedTo p o name → s'.property o name = s.property o name) ∧
    s'.property ⟨1⟩ "own" ≠ s.property ⟨1⟩ "own" ∧ s.property ⟨1⟩ "missing" = none ∧
    (s.attach p).SubscribedTo p ⟨1⟩ "missing" ∧ (s'.attach p).SubscribedTo p ⟨1⟩ "missing" ∧
    ∀ ev : Evaluator, ev.evaluate (s'.scope b) around.root = ev.evaluate (s.scope b) around.root := by
  let b : Binding := ⟨some ⟨0⟩, none⟩
  let made (own : Bool) : Store Unit := ((circle own).newProxy (.template default around) b 4).1
  have bound : ∀ own, (made own).Bound ⟨0⟩ around b := fun own =>
    (sealed_of_entries (s := circle own) (by decide +revert)).bound_newProxy default around b 4
  have scope : ∀ own, (made own).scope b = (circle own).scope b := fun own =>
    scope_congr (frame_newProxy (.template default around) b 4).contents b
  have property : ∀ own o name, (made own).property o name = (circle own).property o name :=
    fun own o name => congrArg (fun sc => sc.property o name) (scope own)
  have root : ((made false).scope b).root = ((made true).scope b).root := by
    rw [scope, scope]
    funext r
    cases r <;> rfl
  have watches : ((made true).scope b).watches around =
      [(⟨0⟩, "next"), (⟨1⟩, "next"), (⟨0⟩, "n"), (⟨1⟩, "missing")] := by
    rw [scope]
    decide
  have same : ∀ o name, ((made true).attach ⟨0⟩).SubscribedTo ⟨0⟩ o name →
      (made false).property o name = (made true).property o name := by
    intro o name h
    rw [(bound true).subscribedTo_attach, watches] at h
    simp only [List.mem_cons, List.not_mem_nil, or_false, Prod.mk.injEq] at h
    rw [property, property]
    rcases h with ⟨rfl, rfl⟩ | ⟨rfl, rfl⟩ | ⟨rfl, rfl⟩ | ⟨rfl, rfl⟩ <;> rfl
  have read : (⟨1⟩, "missing") ∈
      ((default : Evaluator).inquire ((made true).scope b).root around.root).asked
        ((made true).scope b) := by
    rw [scope]
    decide
  have result := fun ev => reads_watched ev (bound true)
  have there := fun ev => (result ev).2.2 _ _ (bound false) root same
  have here := (result default).2.1 _ read
  refine ⟨made true, made false, ⟨0⟩, b, bound true, bound false, root, same, ?_, ?_, here,
    ((there default).1 _ _).2 here, fun ev => (there ev).2⟩
  · have own : ∀ own, (circle own).property ⟨1⟩ "own" = some (.boolean own) := fun _ => rfl
    rw [property, property, own, own]
    exact nofun
  · rw [property]
    rfl

end Store

end LiveForm
