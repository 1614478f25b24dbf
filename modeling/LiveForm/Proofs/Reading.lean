/-
  What the value of an expression and the watched properties depend on.

  * `Scope.Walk` is the way from an object along a path, one property after the other, as far as
    there are objects; `mem_visited_iff` and `mem_watches_iff` say that exactly the properties met on
    the way are watched;
  * `visited_congr`, `evaluate_congr` and `watches_congr`: scopes that agree on what is watched watch
    the same and give the same value;
  * `evaluate_eq_of_dependencies`: a template has the same value, or fails in the same way, wherever its
    dependencies have the same values;
  * `Rule.validate_alike`: the result of rules depends on what they read from their sources alone;
  * `objects_valueOf`: a value holds no objects but those that can be read.
-/
import LiveForm.Evaluation
import LiveForm.Validation.Rule
import Mathlib.Data.List.Forall2

namespace LiveForm

/-! ## Lists without repetition -/

theorem nodup_eraseDups {α : Type} [BEq α] [LawfulBEq α] (as : List α) : as.eraseDups.Nodup := by
  cases as with
  | nil => simp
  | cons a as =>
    rw [List.eraseDups_cons, List.nodup_cons]
    exact ⟨by simp [List.mem_eraseDups], nodup_eraseDups _⟩
termination_by as.length
decreasing_by
  have := List.length_filter_le (fun b => !b == a) as
  simp only [List.length_cons]; omega

/-! ## Equality of values -/

theorem Decimal.compare_self (d : Decimal) : d.compare d = .eq := by
  simp [compare]

namespace Value

mutual

/-- Every value is equal to itself. -/
theorem same_refl (v : Value) : v.same v = true := by
  match v with
  | .noValue | .null => rfl
  | .boolean b => simp [same]
  | .integer n => simp [same]
  | .decimal d => simp [same, Decimal.compare_self]
  | .string s => simp [same]
  | .collection items => simpa [same] using sameItems_refl items
  | .object o => simp [same]

theorem sameItems_refl (vs : List Value) : sameItems vs vs = true := by
  match vs with
  | [] => rfl
  | v :: vs => simp [sameItems, same_refl v, sameItems_refl vs]

end

end Value

namespace Scope

variable {sc sc' : Scope}

/-! ## Paths -/

/-- The property `name` of the object `o'` is met on the way from the object `o` along a path. -/
inductive Walk (sc : Scope) : ObjectId → List String → ObjectId → String → Prop
  | here {o s ss} : Walk sc o (s :: ss) o s
  | next {o s ss r o' name} : sc.property o s = some (.object r) → Walk sc r.id ss o' name →
      Walk sc o (s :: ss) o' name

theorem visited_of_object {o : ObjectId} {s : String} {r : ObjectRef} (ss : List String)
    (h : sc.property o s = some (.object r)) :
    sc.visited o (s :: ss) = (o, s) :: sc.visited r.id ss := by
  cases ss <;> simp [visited, h]

theorem visited_of_no_object {o : ObjectId} {s : String} (ss : List String)
    (h : ∀ r, sc.property o s ≠ some (.object r)) : sc.visited o (s :: ss) = [(o, s)] := by
  cases ss with
  | nil => rfl
  | cons t ss =>
    rw [visited]
    split
    · next r hr => exact absurd hr (h r)
    · rfl

theorem mem_visited_iff {o o' : ObjectId} {ss : List String} {name : String} :
    (o', name) ∈ sc.visited o ss ↔ sc.Walk o ss o' name := by
  constructor
  · intro h
    induction ss generalizing o with
    | nil => simp [visited] at h
    | cons s ss ih =>
      by_cases hr : ∃ r, sc.property o s = some (.object r)
      · obtain ⟨r, hr⟩ := hr
        rw [visited_of_object ss hr, List.mem_cons] at h
        rcases h with h | h
        · cases h; exact .here
        · exact .next hr (ih h)
      · rw [visited_of_no_object ss (not_exists.1 hr), List.mem_singleton] at h
        cases h; exact .here
  · intro h
    induction h with
    | @here o s ss => cases ss <;> simp [visited]
    | @next o s ss r o' name hr h ih => simp [visited_of_object ss hr, ih]

/-- Scopes that agree on the properties along a path go the same way. -/
theorem visited_congr {o : ObjectId} {ss : List String}
    (h : ∀ z ∈ sc.visited o ss, sc'.property z.1 z.2 = sc.property z.1 z.2) :
    sc'.visited o ss = sc.visited o ss := by
  induction ss generalizing o with
  | nil => rfl
  | cons s ss ih =>
    by_cases hr : ∃ r, sc.property o s = some (.object r)
    · obtain ⟨r, hr⟩ := hr
      rw [visited_of_object ss hr] at h ⊢
      have hs : sc'.property o s = some (.object r) := (h (o, s) (by simp)).trans hr
      rw [visited_of_object ss hs, ih fun z hz => h z (by simp [hz])]
    · have hr := not_exists.1 hr
      rw [visited_of_no_object ss hr] at h ⊢
      have hs : sc'.property o s = sc.property o s := h (o, s) (by simp)
      rw [visited_of_no_object ss (hs ▸ hr)]

/-- Scopes that agree on the properties along a path read the same value. -/
theorem follow_congr {o : ObjectId} {ss : List String}
    (h : ∀ z ∈ sc.visited o ss, sc'.property z.1 z.2 = sc.property z.1 z.2) :
    sc'.follow o ss = sc.follow o ss := by
  fun_induction sc.follow o ss with
  | case1 => rfl
  | case2 o s => rw [follow, h (o, s) (by simp [visited])]
  | case3 o s t ss r hr ih =>
    rw [visited_of_object _ hr] at h
    rw [follow, (h (o, s) (by simp)).trans hr]
    exact ih fun z hz => h z (by simp [hz])
  | case4 o s t ss hr =>
    rw [visited_of_no_object _ hr] at h
    rw [follow, h (o, s) (by simp)]
    split
    · next r hr' => exact absurd hr' (hr r)
    · rfl

/-- Objects among which properties do not lead outside are all that is visited from one of them. -/
theorem visited_closed {P : ObjectId → Prop}
    (closed : ∀ o s r, P o → sc.property o s = some (.object r) → P r.id) {o : ObjectId}
    (ho : P o) (ss : List String) : ∀ z ∈ sc.visited o ss, P z.1 := by
  rintro ⟨o', name⟩ hz
  have h := mem_visited_iff.1 hz
  clear hz
  induction h with
  | here => exact ho
  | next hr _ ih => exact ih (closed _ _ _ ho hr)

/-! ## Templates -/

theorem mem_pathsFrom_iff {t : Template} {root : Root} {ss : List String} :
    ss ∈ t.pathsFrom root ↔ ⟨root, ss⟩ ∈ t.root.paths := by
  simp only [Template.pathsFrom, Template.dependencies, List.mem_map, List.mem_filter,
    List.mem_eraseDups, decide_eq_true_eq]
  constructor
  · rintro ⟨p, ⟨hp, rfl⟩, rfl⟩; exact hp
  · exact fun h => ⟨_, ⟨h, rfl⟩, rfl⟩

theorem mem_watchesFrom_iff {t : Template} {root : Root} {z : ObjectId × String} :
    z ∈ sc.watchesFrom t root ↔
      ∃ p ∈ t.root.paths, p.root = root ∧ ∃ o, sc.root root = some o ∧ z ∈ sc.visited o p.segments := by
  unfold watchesFrom
  split
  · next o ho =>
    simp only [List.mem_flatMap, mem_pathsFrom_iff, ho, Option.some.injEq]
    constructor
    · rintro ⟨ss, hss, hz⟩; exact ⟨_, hss, rfl, o, rfl, hz⟩
    · rintro ⟨p, hp, rfl, _, rfl, hz⟩; exact ⟨_, hp, hz⟩
  · next ho => simp [ho]

/-- A template watches the properties that its paths visit. -/
theorem mem_watches_iff_visited {t : Template} {z : ObjectId × String} :
    z ∈ sc.watches t ↔
      ∃ p ∈ t.root.paths, ∃ o, sc.root p.root = some o ∧ z ∈ sc.visited o p.segments := by
  simp only [watches, List.mem_eraseDups, List.mem_append, mem_watchesFrom_iff]
  constructor
  · rintro (⟨p, hp, hr, o, ho, hz⟩ | ⟨p, hp, hr, o, ho, hz⟩) <;>
      exact ⟨p, hp, o, hr ▸ ho, hz⟩
  · rintro ⟨p, hp, o, ho, hz⟩
    cases hr : p.root with
    | model => exact Or.inl ⟨p, hp, hr, o, hr ▸ ho, hz⟩
    | context => exact Or.inr ⟨p, hp, hr, o, hr ▸ ho, hz⟩

theorem mem_watches_iff {t : Template} {o : ObjectId} {name : String} :
    (o, name) ∈ sc.watches t ↔
      ∃ p ∈ t.root.paths, ∃ o₀, sc.root p.root = some o₀ ∧ sc.Walk o₀ p.segments o name := by
  simp only [mem_watches_iff_visited, mem_visited_iff]

theorem nodup_watches (sc : Scope) (t : Template) : (sc.watches t).Nodup := nodup_eraseDups _

end Scope

/-! ## Expressions -/

namespace Evaluator

variable {sc sc' : Scope} (ev : Evaluator)

mutual

/-- Scopes in which the paths of an expression have the same values give it the same value. -/
theorem evaluate_congr (e : Expression) (h : ∀ p ∈ e.paths, sc'.read p = sc.read p) :
    ev.evaluate sc' e = ev.evaluate sc e := by
  match e with
  | .literal l => rfl
  | .path p => rw [evaluate, evaluate, h p (by simp [Expression.paths])]
  | .pipe source filter args =>
    simp only [Expression.paths, List.mem_append] at h
    rw [evaluate, evaluate, evaluate_congr source fun p hp => h p (Or.inl hp),
      evaluateAll_congr args fun p hp => h p (Or.inr hp)]
  | .conditional c t f =>
    simp only [Expression.paths, List.mem_append] at h
    rw [evaluate, evaluate, evaluate_congr c fun p hp => h p (Or.inl (Or.inl hp)),
      evaluate_congr t fun p hp => h p (Or.inl (Or.inr hp)),
      evaluate_congr f fun p hp => h p (Or.inr hp)]
  | .interpolation parts => rw [evaluate, evaluate, evaluateParts_congr parts h]

theorem evaluateAll_congr (es : List Expression)
    (h : ∀ p ∈ Expression.pathsOfAll es, sc'.read p = sc.read p) :
    ev.evaluateAll sc' es = ev.evaluateAll sc es := by
  match es with
  | [] => rfl
  | e :: es =>
    simp only [Expression.pathsOfAll, List.mem_append] at h
    rw [evaluateAll, evaluateAll, evaluate_congr e fun p hp => h p (Or.inl hp),
      evaluateAll_congr es fun p hp => h p (Or.inr hp)]

theorem evaluateParts_congr (ps : List Part)
    (h : ∀ p ∈ Expression.pathsOfParts ps, sc'.read p = sc.read p) :
    ev.evaluateParts sc' ps = ev.evaluateParts sc ps := by
  match ps with
  | [] => rfl
  | q :: ps =>
    simp only [Expression.pathsOfParts, List.mem_append] at h
    rw [evaluateParts, evaluateParts, evaluatePart_congr q fun p hp => h p (Or.inl hp),
      evaluateParts_congr ps fun p hp => h p (Or.inr hp)]

theorem evaluatePart_congr (q : Part)
    (h : ∀ p ∈ Expression.pathsOfPart q, sc'.read p = sc.read p) :
    ev.evaluatePart sc' q = ev.evaluatePart sc q := by
  match q with
  | .text s => rfl
  | .expression e => rw [evaluatePart, evaluatePart, evaluate_congr e h]

end

/-- A template that reads nothing has the same value in all scopes. -/
theorem valueOf_of_isConstant {t : Template} (h : t.isConstant) (sc sc' : Scope) :
    ev.valueOf sc t.root = ev.valueOf sc' t.root := by
  have paths : ∀ p ∈ t.root.paths, sc.read p = sc'.read p := by
    intro p hp
    have hd : p ∈ t.dependencies := List.mem_eraseDups.2 hp
    rw [List.isEmpty_iff.1 h] at hd
    cases hd
  rw [valueOf, valueOf, ev.evaluate_congr t.root paths]

/-- The dependencies of a template are all that its value depends on. In any two scopes, of whatever
    objects, in which each dependency has the same value, the template has the same value or the same
    error. A constant template has the same value or the same error in all scopes. Custom filters are
    taken to be pure, as `Filter` has them. -/
theorem evaluate_eq_of_dependencies (ev : Evaluator) (t : Template) :
    (∀ sc sc' : Scope, (∀ p ∈ t.dependencies, sc'.read p = sc.read p) →
      ev.evaluate sc' t.root = ev.evaluate sc t.root) ∧
    (t.isConstant → ∀ sc sc' : Scope, ev.evaluate sc' t.root = ev.evaluate sc t.root) := by
  have agree : ∀ sc sc' : Scope, (∀ p ∈ t.dependencies, sc'.read p = sc.read p) →
      ev.evaluate sc' t.root = ev.evaluate sc t.root := by
    intro sc sc' h
    exact ev.evaluate_congr t.root fun p hp => h p (List.mem_eraseDups.2 hp)
  refine ⟨agree, ?_⟩
  intro hc sc sc'
  refine agree sc sc' ?_
  rw [List.isEmpty_iff.1 hc]
  exact List.forall_mem_nil _

/-- Objects that differ in all but what a template reads of them give it the same value, and so do any
    scopes with a text without paths. -/
theorem evaluate_eq_of_dependencies_elsewhere :
    ∃ t : Template, ∃ sc sc' : Scope, sc.root .model ≠ sc'.root .model ∧
      t.dependencies = [⟨.model, ["a", "n"]⟩, ⟨.model, ["b"]⟩] ∧
      (∀ p ∈ t.dependencies, sc'.read p = sc.read p) ∧
      (∀ ev : Evaluator, ev.evaluate sc' t.root = ev.evaluate sc t.root) ∧
      ∃ u : Template, u.isConstant ∧
        ∀ ev : Evaluator, ev.evaluate sc' u.root = ev.evaluate sc u.root := by
  let a : ObjectId → String → Option Value := fun o name =>
    if o = ⟨0⟩ ∧ name = "a" then some (.object ⟨⟨1⟩, "inner"⟩)
    else if o = ⟨1⟩ ∧ name = "n" then some (.integer 5) else none
  let b : ObjectId → String → Option Value := fun o name =>
    if o = ⟨7⟩ ∧ name = "a" then some (.object ⟨⟨9⟩, "other"⟩)
    else if o = ⟨9⟩ ∧ name = "n" then some (.integer 5)
    else if o = ⟨7⟩ ∧ name = "c" then some (.boolean true) else none
  let t : Template := ⟨"", .conditional (.path ⟨.model, ["a", "n"]⟩) (.path ⟨.model, ["b"]⟩)
    (.literal .null)⟩
  have same : ∀ p ∈ t.dependencies,
      (Scope.mk b fun _ => some ⟨7⟩).read p = (Scope.mk a fun _ => some ⟨0⟩).read p := by
    rw [show t.dependencies = [⟨.model, ["a", "n"]⟩, ⟨.model, ["b"]⟩] by decide]
    simp [Scope.read, Scope.follow, a, b]
  refine ⟨t, ⟨a, fun _ => some ⟨0⟩⟩, ⟨b, fun _ => some ⟨7⟩⟩, by decide, by decide, same, ?_,
    ⟨"", .interpolation [.text "n: ", .expression (.literal (.integer 5))]⟩, by decide, ?_⟩
  · intro ev
    exact (ev.evaluate_eq_of_dependencies t).1 _ _ same
  · intro ev
    exact (ev.evaluate_eq_of_dependencies _).2 (by decide) _ _

end Evaluator

namespace Scope

variable {sc sc' : Scope} {t : Template}

theorem watches_eq_of_visited (root : sc'.root = sc.root)
    (h : ∀ r o, sc.root r = some o → ∀ ss ∈ t.pathsFrom r, sc'.visited o ss = sc.visited o ss) :
    sc'.watches t = sc.watches t := by
  have from_ : ∀ r, sc'.watchesFrom t r = sc.watchesFrom t r := by
    intro r
    unfold watchesFrom
    rw [root]
    cases ho : sc.root r with
    | none => rfl
    | some o => simp only [List.flatMap_def, List.map_congr_left (h r o ho)]
  rw [watches, watches, from_, from_]

/-- Scopes with the same roots that agree on what a template watches watch the same for it. -/
theorem watches_congr (root : sc'.root = sc.root)
    (h : ∀ z ∈ sc.watches t, sc'.property z.1 z.2 = sc.property z.1 z.2) :
    sc'.watches t = sc.watches t := by
  refine watches_eq_of_visited root fun r o ho ss hss => visited_congr fun z hz => h z ?_
  exact mem_watches_iff_visited.2 ⟨_, mem_pathsFrom_iff.1 hss, o, ho, hz⟩

/-- Scopes with the same roots that agree on what a template watches give it the same value. -/
theorem valueOf_congr (ev : Evaluator) (root : sc'.root = sc.root)
    (h : ∀ z ∈ sc.watches t, sc'.property z.1 z.2 = sc.property z.1 z.2) :
    ev.valueOf sc' t.root = ev.valueOf sc t.root := by
  unfold Evaluator.valueOf
  rw [ev.evaluate_congr]
  intro p hp
  rw [read, read, root]
  cases ho : sc.root p.root with
  | none => rfl
  | some o => exact follow_congr fun z hz => h z (mem_watches_iff_visited.2 ⟨p, hp, o, ho, hz⟩)

/-- Objects among which properties do not lead outside and to which the roots belong are all that
    is watched. -/
theorem watches_closed {P : ObjectId → Prop}
    (closed : ∀ o s r, P o → sc.property o s = some (.object r) → P r.id)
    (root : ∀ r o, sc.root r = some o → P o) : ∀ z ∈ sc.watches t, P z.1 := by
  intro z hz
  obtain ⟨p, -, o, ho, hz⟩ := mem_watches_iff_visited.1 hz
  exact visited_closed closed (root _ _ ho) _ z hz

/-- Where no path goes on from a property of a root object, what is watched depends on the roots
    alone. -/
theorem watches_eq_of_not_nested (root : sc'.root = sc.root) (h : t.hasNestedPaths = false) :
    sc'.watches t = sc.watches t := by
  refine watches_eq_of_visited root ?_
  intro r o _ ss hss
  rw [mem_pathsFrom_iff] at hss
  simp only [Template.hasNestedPaths, Template.dependencies, List.any_eq_false,
    List.mem_eraseDups, decide_eq_true_eq, Nat.not_lt] at h
  match ss, h _ hss with
  | [], _ => rfl
  | [s], _ => rfl

end Scope

/-! ## Rules -/

namespace Rule

variable {α β : Type} {read : α → Value} {read' : β → Value} {c : Culture} {v : Value}

/-- Two rules read sources that they cannot tell apart when they judge a value, or one with no other
    objects, and are the same otherwise. -/
structure Alike (v : Value) (read : α → Value) (read' : β → Value) (r : Rule α) (r' : Rule β) :
    Prop where
  test : ∀ w : Value, w.objects ⊆ v.objects →
    r'.comparator.test w (read' r'.argument) = r.comparator.test w (read r.argument)
  enforced : r'.isEnforced read' = r.isEnforced read
  message : r'.message.text read' = r.message.text read
  nullPolicy : r'.nullPolicy = r.nullPolicy
  strict : r'.strict = r.strict
  converter : r'.converter = r.converter

/-- A conversion makes no objects. -/
theorem objects_convert (c : Culture) (r : Rule α) (v : Value) :
    (r.convert c v).objects ⊆ v.objects := by
  unfold convert
  split
  · exact List.Subset.refl _
  · next f _ =>
    split
    · next w hw => simpa using f.objects_subset c v [] w hw
    · exact List.nil_subset _

/-- The outcome of a rule depends on its sources alone. -/
theorem outcome_alike {r : Rule α} {r' : Rule β} (h : r.Alike v read read' r') :
    r'.outcome c read' v = r.outcome c read v := by
  have hv : r'.convert c v = r.convert c v := by rw [convert, convert, h.converter]
  have hc : r'.compare read' (r.convert c v) = r.compare read (r.convert c v) := by
    rw [compare, compare, h.test _ (r.objects_convert c v), h.message]
  simp only [outcome, h.enforced, hv, hc, h.nullPolicy, h.message]

/-- The result of rules depends on their sources alone. -/
theorem validate_alike {rules : List (Rule α)} {rules' : List (Rule β)}
    (h : List.Forall₂ (Alike v read read') rules rules') :
    validate c read' rules' v = validate c read rules v := by
  rw [validate, validate]
  generalize ValidationResult.valid = result
  induction h generalizing result with
  | nil => rfl
  | cons hr _ ih =>
    simp only [List.foldl_cons, validateAfter, outcome_alike hr, hr.strict]
    exact ih _

/-- A rule that reads the same reads nothing that it could tell apart. -/
theorem Alike.of_eq {read' : α → Value} {r : Rule α} (h : ∀ a ∈ r.sources, read' a = read a) :
    r.Alike v read read' r where
  test w _ := by rw [h r.argument (by simp [sources])]
  enforced := by rw [isEnforced, isEnforced, h r.enforcement (by simp [sources])]
  message := by
    unfold sources at h
    cases hr : r.message <;> simp_all [Message.text, Message.source?]
  nullPolicy := rfl
  strict := rfl
  converter := rfl

theorem validate_congr {read' : α → Value} {rules : List (Rule α)}
    (h : ∀ a ∈ rules.flatMap sources, read' a = read a) :
    validate c read' rules v = validate c read rules v :=
  validate_alike (List.forall₂_same.2 fun r hr =>
    .of_eq fun a ha => h a (List.mem_flatMap.2 ⟨r, hr, ha⟩))

end Rule

/-! ## Objects in values -/

section

variable {sc : Scope} {P : ObjectId → Prop}

theorem Scope.objects_follow (h : ∀ o s v, sc.property o s = some v → ∀ r ∈ v.objects, P r)
    (o : ObjectId) (ss : List String) : ∀ r ∈ (sc.follow o ss).objects, P r := by
  fun_induction sc.follow o ss with
  | case1 => simp [Value.objects]
  | case2 o s =>
    cases hs : sc.property o s with
    | none => simp [Value.objects]
    | some v => exact h o s v hs
  | case3 o s t ss r hr ih => exact ih
  | case4 => simp [Value.objects]

theorem Scope.objects_read (h : ∀ o s v, sc.property o s = some v → ∀ r ∈ v.objects, P r)
    (p : Path) : ∀ r ∈ (sc.read p).objects, P r := by
  unfold Scope.read
  split
  · exact sc.objects_follow h _ _
  · simp [Value.objects]

theorem Literal.objects_value (l : Literal) : l.value.objects = [] := by cases l <;> rfl

namespace Evaluator

variable (ev : Evaluator)

theorem objects_applyFilter {name : String} {v w : Value} {args : List Value}
    (h : ev.applyFilter name v args = .ok w) :
    w.objects ⊆ v.objects ++ args.flatMap Value.objects := by
  unfold applyFilter Registry.apply at h
  split at h
  · cases h
  · next f hf =>
    split at h
    · exact f.objects_subset _ _ _ _ h
    · cases h

mutual

/-- The objects in the value of an expression can be read from properties. -/
theorem objects_evaluate (h : ∀ o s v, sc.property o s = some v → ∀ r ∈ v.objects, P r)
    {e : Expression} {v : Value} (he : ev.evaluate sc e = .ok v) : ∀ r ∈ v.objects, P r := by
  match e with
  | .literal l =>
    cases he
    simp [l.objects_value]
  | .path p =>
    cases he
    exact sc.objects_read h p
  | .pipe source filter args =>
    simp only [evaluate, bind, Except.bind] at he
    split at he
    · cases he
    · next w hw =>
      split at he
      · cases he
      · next ws hws =>
        intro r hr
        rcases List.mem_append.1 (ev.objects_applyFilter he hr) with hr | hr
        · exact objects_evaluate h hw r hr
        · exact objects_evaluateAll h hws r hr
  | .conditional c t f =>
    simp only [evaluate, bind, Except.bind] at he
    split at he
    · cases he
    · split at he
      · exact objects_evaluate h he
      · exact objects_evaluate h he
  | .interpolation parts =>
    simp only [evaluate, bind, Except.bind] at he
    split at he
    · cases he
    · cases he
      simp [Value.objects]

theorem objects_evaluateAll (h : ∀ o s v, sc.property o s = some v → ∀ r ∈ v.objects, P r)
    {es : List Expression} {vs : List Value} (he : ev.evaluateAll sc es = .ok vs) :
    ∀ r ∈ vs.flatMap Value.objects, P r := by
  match es with
  | [] =>
    cases he
    simp
  | e :: es =>
    simp only [evaluateAll, bind, Except.bind] at he
    split at he
    · cases he
    · next w hw =>
      split at he
      · cases he
      · next ws hws =>
        cases he
        intro r hr
        rw [List.flatMap_cons, List.mem_append] at hr
        rcases hr with hr | hr
        · exact objects_evaluate h hw r hr
        · exact objects_evaluateAll h hws r hr

end

theorem objects_valueOf (h : ∀ o s v, sc.property o s = some v → ∀ r ∈ v.objects, P r)
    (e : Expression) : ∀ r ∈ (ev.valueOf sc e).objects, P r := by
  unfold valueOf
  split
  · next v hv => exact ev.objects_evaluate h hv
  · simp [Value.objects]

end Evaluator

end

end LiveForm
