/-
  The making of forms.

  `Compilation.Makes known m ent` says of the steps `m` that wherever the entities `known` are alive,
  what they make adds to the store and nothing else, and that the entities `ent` of the result are
  alive. `makes_field` and `compile_spec` put the fields and the form together from the steps.
-/
import LiveForm.Form.Compilation
import LiveForm.Proofs.Building
import LiveForm.Proofs.Caching
import LiveForm.Proofs.Soundness

namespace LiveForm

open Situation

variable {H : Type} {ev : Evaluator} {b : Binding}

/-! ## Templates and constants -/

namespace Workspace

variable {w : Workspace H} {ts : List (Task H)} {held : List Entity}

/-- To make a proxy of a template adds to the store. -/
theorem bind_spec (source : String) (limit : Nat)
    (h : Ordered ⟨w.store, ts, held⟩) (hb : w.store.Knows b) :
    w.engine.Later (w.bind source b limit).2.engine ∧
      Grows w.engine.evaluator ⟨w.store, ts, held⟩ (w.bind source b limit).2.store ∧
      ∀ p, (w.bind source b limit).1 = .ok p →
        (w.bind source b limit).2.store.Alive (.proxy p) := by
  have hev := w.engine.later_template source
  rcases ht : w.engine.template source with ⟨e | t, g⟩
  · have hw : w.bind source b limit = (.error e, { w with engine := g }) := by
      simp only [bind, ht]
    rw [hw]
    rw [ht] at hev
    exact ⟨hev, .refl ⟨w.store, ts, held⟩, nofun⟩
  · have hw : w.bind source b limit = (.ok (w.store.newProxy (.template g.evaluator t) b limit).2,
        ⟨g, (w.store.newProxy (.template g.evaluator t) b limit).1⟩) := by
      simp only [bind, ht]
    rw [ht] at hev
    rw [hw, ← hev.evaluator]
    obtain ⟨hg, ha⟩ := Grows.newProxy h (.template g.evaluator t) limit nofun hb
    refine ⟨hev, hg, ?_⟩
    intro p hp
    cases hp
    exact ha

/-- To make a proxy of a value that is alive adds to the store. -/
theorem constant_spec {v : Value} (h : Ordered ⟨w.store, ts, held⟩)
    (hv : ∀ e ∈ v.entities, w.store.Alive e) :
    Grows w.engine.evaluator ⟨w.store, ts, held⟩ (w.constant v).2.store ∧
      (w.constant v).2.store.Alive (.proxy (w.constant v).1) :=
  Grows.newProxy h _ _ (fun _ e => by cases e; exact hv) fun r o ho => by cases r <;> cases ho

end Workspace

/-! ## Steps on workspaces -/

namespace Compilation

variable {α β : Type}

/-- What comes of steps, and the workspace after them. -/
def outcome (m : Compilation H α) (w : Workspace H) : Except FormError α × Workspace H := m.run w

theorem outcome_bind (m : Compilation H α) (f : α → Compilation H β) (w : Workspace H) :
    (m >>= f).outcome w = match m.outcome w with
      | (.ok a, w) => (f a).outcome w
      | (.error e, w) => (.error e, w) := by
  show (ExceptT.bindCont f (m.outcome w).1 : StateM (Workspace H) _) (m.outcome w).2 = _
  rcases m.outcome w with ⟨e | a, w'⟩ <;> rfl

/-- Where some entities are alive, the steps add to the store, and what they give speaks of what is
    alive. -/
def Makes (ev : Evaluator) (b : Binding) (known : List Entity) (m : Compilation H α)
    (ent : α → List Entity) : Prop :=
  ∀ (w : Workspace H) (ts : List (Task H)) (held : List Entity), Sound ev ⟨w.store, ts, held⟩ →
    w.engine.evaluator = ev → w.store.Knows b → (∀ e ∈ known, w.store.Alive e) →
    w.engine.Later (m.outcome w).2.engine ∧ Grows ev ⟨w.store, ts, held⟩ (m.outcome w).2.store ∧
      ∀ a, (m.outcome w).1 = .ok a → ∀ e ∈ ent a, (m.outcome w).2.store.Alive e

variable {known : List Entity} {m : Compilation H α} {ent : α → List Entity}

theorem Makes.pure {a : α} (h : ent a ⊆ known) : Makes (H := H) ev b known (pure a) ent := by
  intro w ts held _ _ _ ha
  refine ⟨.refl _, .refl ⟨w.store, ts, held⟩, ?_⟩
  intro a' e z hz
  cases e
  exact ha z (h hz)

theorem Makes.throw {e : FormError} : Makes (H := H) ev b known (throw e) ent :=
  fun w ts held _ _ _ _ => ⟨.refl _, .refl ⟨w.store, ts, held⟩, nofun⟩

theorem Makes.get_bind {f : Workspace H → Compilation H α} (h : ∀ w, Makes ev b known (f w) ent) :
    Makes ev b known (get >>= f) ent := fun w => h w w

theorem Makes.bind {f : α → Compilation H β} {ent' : β → List Entity} (hm : Makes ev b known m ent)
    (hf : ∀ a, Makes ev b (ent a ++ known) (f a) ent') : Makes ev b known (m >>= f) ent' := by
  intro w ts held h he hb ha
  obtain ⟨he₁, hg₁, ha₁⟩ := hm w ts held h he hb ha
  rw [outcome_bind]
  rcases hw : m.outcome w with ⟨e | a, w₁⟩
  · rw [hw] at he₁ hg₁
    exact ⟨he₁, hg₁, nofun⟩
  · rw [hw] at he₁ hg₁ ha₁
    obtain ⟨he₂, hg₂, ha₂⟩ := hf a w₁ ts held (hg₁.sound h) (he₁.evaluator.trans he)
      (hg₁.knows h hb) fun e hm =>
        (List.mem_append.1 hm).elim (ha₁ a rfl e) fun hm => hg₁.alive e (ha e hm)
    exact ⟨he₁.trans he₂, hg₁.trans hg₂, ha₂⟩

theorem Makes.mono {known' : List Entity} {ent' : α → List Entity} (hm : Makes ev b known m ent)
    (hk : known ⊆ known') (he : ∀ a, ent' a ⊆ ent a) : Makes ev b known' m ent' := by
  intro w ts held h hw hb ha
  obtain ⟨h₁, h₂, h₃⟩ := hm w ts held h hw hb fun e hm => ha e (hk hm)
  exact ⟨h₁, h₂, fun a hr e hm => h₃ a hr e (he a hm)⟩

theorem Makes.mapM {f : α → Compilation H β} {ent : β → List Entity}
    (hf : ∀ a, Makes ev b known (f a) ent) (as : List α) :
    Makes ev b known (as.mapM f) fun bs => bs.flatMap ent := by
  induction as with
  | nil =>
    rw [List.mapM_nil]
    exact .pure (List.nil_subset _)
  | cons a as ih =>
    rw [List.mapM_cons]
    refine (hf a).bind fun x => (ih.mono (List.subset_append_right ..) fun _ => List.Subset.refl _).bind
      fun xs => .pure fun e he => ?_
    rcases List.mem_append.1 he with he | he
    · exact List.mem_append_right _ (List.mem_append_left _ he)
    · exact List.mem_append_left _ he

/-! ## Fields -/

/-- The entity of a proxy. -/
def ofProxy (p : ProxyId) : List Entity := [.proxy p]

theorem outcome_template (b : Binding) (key part source : String) (w : Workspace H)
    {r : Except SyntaxError ProxyId} {w' : Workspace H}
    (hw : w.bind source b w.engine.configuration.maxPasses = (r, w')) :
    (template b key part source).outcome w = (r.mapError (.template key part source), w') := by
  have hg : (get : Compilation H (Workspace H)).outcome w = (.ok w, w) := rfl
  rw [template, outcome_bind, hg]
  dsimp only
  rw [hw]
  cases r <;> rfl

theorem makes_template (key part source : String) :
    Makes (H := H) ev b known (template b key part source) ofProxy := by
  intro w ts held h he hb _
  obtain ⟨h₁, h₂, h₃⟩ := w.bind_spec source w.engine.configuration.maxPasses h.toOrdered hb
  rcases hw : w.bind source b w.engine.configuration.maxPasses with ⟨r, w'⟩
  rw [hw] at h₁ h₂ h₃
  rw [outcome_template b key part source w hw]
  subst he
  refine ⟨h₁, h₂, ?_⟩
  intro p hp e hm
  obtain rfl := List.mem_singleton.1 hm
  refine h₃ p ?_
  cases r with
  | ok q => exact congrArg Except.ok (Except.ok.inj hp)
  | error e => cases hp

theorem makes_constant {v : Value} (hv : v.entities ⊆ known) :
    Makes (H := H) ev b known (constant v) ofProxy := by
  intro w ts held h he _ ha
  subst he
  obtain ⟨h₁, h₂⟩ := w.constant_spec h.toOrdered fun e hm => ha e (hv hm)
  refine ⟨.refl _, h₁, ?_⟩
  intro p hp e hm
  cases hp
  obtain rfl := List.mem_singleton.1 hm
  exact h₂

theorem makes_template? (key part : String) (source : Option String) :
    Makes (H := H) ev b known (template? b key part source) fun p => p.toList.map .proxy := by
  cases source with
  | none => exact .pure (List.nil_subset _)
  | some source =>
    refine (makes_template key part source).bind fun p => .pure ?_
    exact List.subset_append_left _ _

theorem makes_document (j : Json) : Makes (H := H) ev b known (document j) Value.entities := by
  intro w ts held _ _ _ _
  obtain ⟨h₁, h₂⟩ := w.store.newValue_spec j
  refine ⟨.refl _, .build h₁, ?_⟩
  intro v hv
  cases hv
  exact h₂

theorem makes_argument (key : String) (d : Option ArgumentDefinition) :
    Makes (H := H) ev b known (argument b key d) ofProxy := by
  match d with
  | none => exact makes_constant (List.nil_subset _)
  | some (.template source) => exact makes_template _ _ _
  | some (.value j) =>
    exact (makes_document j).bind fun v => makes_constant (List.subset_append_left ..)

theorem makes_message (key comparator : String) (source : Option String) :
    Makes (H := H) ev b known (message b key comparator source)
      fun m => m.source?.toList.map .proxy := by
  cases source with
  | none => exact .pure (List.nil_subset _)
  | some source =>
    refine (makes_template key "message" source).bind fun p => .get_bind fun w => ?_
    split
    · refine .pure ?_
      split
      · exact List.nil_subset _
      · exact List.subset_append_left [Entity.proxy p] _
    · exact .pure (List.subset_append_left [Entity.proxy p] _)

theorem makes_converter (key : String) (name : Option String) :
    Makes (H := H) ev b known (converter key name) fun _ => [] := by
  cases name with
  | none => exact .pure (List.nil_subset _)
  | some name =>
    refine .get_bind ?_
    intro w
    split
    · split
      · exact .pure (List.nil_subset _)
      · exact .throw
    · exact .throw

theorem makes_condition (key part : String) (source : Option String) :
    Makes (H := H) ev b known (condition b key part source) ofProxy := by
  cases source with
  | none => exact makes_constant (List.nil_subset _)
  | some source => exact makes_template _ _ _

/-- The entities of a rule. -/
def ofRule (r : Rule ProxyId) : List Entity := r.sources.map .proxy

theorem makes_rule (key : String) (d : ValidatorDefinition) :
    Makes (H := H) ev b known (rule b key d) ofRule := by
  refine .get_bind ?_
  intro w
  split
  · exact .throw
  · refine (makes_argument key d.argument).bind fun argument =>
      (makes_condition key "isEnforced" d.isEnforced).bind fun enforcement =>
      (makes_message key d.comparator d.message).bind fun message =>
      (makes_converter key d.converter).bind fun converter => .pure fun e he => ?_
    simp only [ofRule, Rule.sources, List.map_cons, List.mem_cons] at he
    simp only [ofProxy, List.mem_append, List.mem_cons]
    tauto

theorem makes_validator (value : ProxyId) (rules : List (Rule ProxyId))
    (h : ∀ p ∈ value :: rules.flatMap Rule.sources, .proxy p ∈ known) :
    Makes (H := H) ev b known (validator value rules) fun v => [.validator v] := by
  intro w ts held _ he _ ha
  subst he
  obtain ⟨h₁, h₂⟩ := Grows.newValidator (c := ⟨w.store, ts, held⟩) w.engine.evaluator value rules
    w.engine.configuration.maxPasses fun p hp => ha _ (h p hp)
  refine ⟨.refl _, h₁, ?_⟩
  intro v hv e hm
  cases hv
  obtain rfl := List.mem_singleton.1 hm
  exact h₂

/-- The entities of a field. -/
def ofField (f : Field) : List Entity := .validator f.validator :: f.ownProxies.map .proxy

theorem makes_field (d : FieldDefinition) : Makes (H := H) ev b known (field b d) ofField := by
  refine (makes_template d.key "key" (keyTemplate d.key)).bind fun value =>
    (makes_template? d.key "name" d.name).bind fun name =>
    (makes_template? d.key "tooltip" d.tooltip).bind fun tooltip =>
    (makes_condition d.key "isVisible" d.isVisible).bind fun visible =>
    (makes_condition d.key "isEnabled" d.isEnabled).bind fun enabled =>
    (Makes.mapM (makes_rule d.key) d.validators).bind fun rules =>
    (makes_validator value rules fun p hp => ?_).bind fun v => .pure fun e he => ?_
  · rcases List.mem_cons.1 hp with rfl | hp
    · simp [ofProxy]
    · obtain ⟨r, hr, hp⟩ := List.mem_flatMap.1 hp
      refine List.mem_append_left _ (List.mem_flatMap.2 ⟨r, hr, ?_⟩)
      exact List.mem_map_of_mem hp
  · simp only [ofField, Field.ownProxies, List.map_cons, List.map_append, List.mem_cons,
      List.mem_append] at he
    simp only [ofProxy, List.mem_append, List.mem_cons]
    tauto

theorem makes_fields (done : List Field) (ds : List FieldDefinition)
    (h : done.flatMap ofField ⊆ known) :
    Makes (H := H) ev b known (fields b done ds) fun fs => fs.flatMap ofField := by
  induction ds generalizing done known with
  | nil => exact .pure h
  | cons d ds ih =>
    unfold fields
    split
    · exact .throw
    · refine (makes_field d).bind fun f => ih _ fun e he => ?_
      rw [List.flatMap_append, List.mem_append] at he
      rcases he with he | he
      · exact List.mem_append_right _ (h he)
      · rw [List.flatMap_cons, List.flatMap_nil, List.append_nil] at he
        exact List.mem_append_left _ he

end Compilation

/-! ## Forms -/

namespace Workspace

variable (w : Workspace H) {ts : List (Task H)} {held : List Entity}

theorem compile_eq (b : Binding) (ds : List FieldDefinition) :
    w.compile b ds = match (Compilation.fields b [] ds).outcome w with
      | (.error e, w) => (.error e, w)
      | (.ok fs, w) => (.ok (w.store.newForm fs b).2, { w with store := (w.store.newForm fs b).1 }) :=
  rfl

theorem compile_spec (ds : List FieldDefinition) (h : Sound w.engine.evaluator ⟨w.store, ts, held⟩)
    (hb : w.store.Knows b) :
    w.engine.Later (w.compile b ds).2.engine ∧
      Grows w.engine.evaluator ⟨w.store, ts, held⟩ (w.compile b ds).2.store ∧
      ∀ f, (w.compile b ds).1 = .ok f → (w.compile b ds).2.store.Alive (.form f) := by
  obtain ⟨he, hg, ha⟩ := Compilation.makes_fields [] ds (List.Subset.refl _) w ts held h rfl hb
    nofun
  rw [compile_eq]
  rcases hw : (Compilation.fields b [] ds).outcome w with ⟨e | fs, w'⟩
  · rw [hw] at he hg
    exact ⟨he, hg, nofun⟩
  · rw [hw] at he hg ha
    obtain ⟨hg', ha'⟩ := Grows.newForm (hg.sound h).toOrdered w.engine.evaluator (ha fs rfl)
      (hg.knows h hb)
    refine ⟨he, hg.trans hg', ?_⟩
    intro f hf
    cases hf
    exact ha'

/-- To make a form adds to the store. -/
theorem compileText_spec (text : String) (h : Sound w.engine.evaluator ⟨w.store, ts, held⟩)
    (hb : w.store.Knows b) :
    w.engine.Later (w.compileText b text).2.engine ∧
      Grows w.engine.evaluator ⟨w.store, ts, held⟩ (w.compileText b text).2.store ∧
      ∀ f, (w.compileText b text).1 = .ok f → (w.compileText b text).2.store.Alive (.form f) := by
  unfold compileText
  split
  · exact ⟨.refl _, .refl ⟨w.store, ts, held⟩, nofun⟩
  · exact w.compile_spec _ h hb

end Workspace

end LiveForm
