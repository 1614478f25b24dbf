/-
  Forms are made as their blueprints say.

  `Compilation.Realizes g s m plan R` says of the steps `m` that on an engine that comes from `g`, and
  from the store `s` on, they meet the faults of the plan and no others, add to the store and nothing
  else, and make what the plan says in the sense of `R`, whatever is added later.
  `Workspace.compile_realizes` puts the form together.
-/
import LiveForm.Proofs.Adding
import LiveForm.Proofs.Blueprint
import LiveForm.Proofs.Likeness
import LiveForm.Proofs.Making

namespace LiveForm

variable {H : Type}

/-! ## Proxies and fields of a blueprint -/

/-- A proxy is computed from what it is to show, under an evaluator. The objects of a document have been
    made after a store. -/
inductive Blueprint.Source.Fits (ev : Evaluator) (s : Store H) : Source → ProxySource → Prop
  | template (t : Template) : Fits ev s (.template t) (.template ev t)
  | document (j : Json) (u : Store H) (h : s.objects.next ≤ u.objects.next) :
      Fits ev s (.document j) (.constant (u.newValue j).2)

/-- A proxy is computed from what it is to show, and shows its value in a store. It follows the objects
    of a binding, and it is not disposed of. -/
structure ProxyState.Exact (ev : Evaluator) (s : Store H) (b : Binding) (X : Blueprint.Source)
    (x : ProxyState H) : Prop where
  fits : X.Fits ev s x.source
  cached : x.cached = s.sourceValue b x.source
  binding : x.source.isConstant = false → x.binding = b
  disposed : x.disposed = false

namespace Store

variable {s t : Store H} {P Q : Blueprint.Source → ProxyState H → Prop} {X : Blueprint.Source}
  {F : Blueprint.Field} {f : Field} {p : ProxyId}

/-- A proxy is there, and is to what it is to show as `P` says. -/
def Bears (s : Store H) (P : Blueprint.Source → ProxyState H → Prop) (X : Blueprint.Source)
    (p : ProxyId) : Prop :=
  ∃ x, s.proxy? p = some x ∧ P X x

/-- The proxies and the rules of a field are to its blueprint as `P` says. -/
structure BearsField (s : Store H) (P : Blueprint.Source → ProxyState H → Prop)
    (F : Blueprint.Field) (f : Field) : Prop where
  key : f.key = F.key
  hiddenOnFalse : f.hiddenOnFalse = F.hiddenOnFalse
  value : s.Bears P (.template F.value) f.value
  name : Option.Rel (fun t => s.Bears P (.template t)) F.name f.name
  tooltip : Option.Rel (fun t => s.Bears P (.template t)) F.tooltip f.tooltip
  visible : s.Bears P F.visible f.visible
  enabled : s.Bears P F.enabled f.enabled
  validator : ∃ x, s.validator? f.validator = some x ∧ x.field = f.value ∧
    List.Forall₂ (Rule.Rel (s.Bears P)) F.rules x.rules
  builtIn : ∀ R ∈ F.rules, R.comparator.IsBuiltIn

/-- What is so of the proxies of a field stays so, or something else becomes so, as long as its
    validator judges the same by the same rules. -/
theorem BearsField.imp (h : s.BearsField P F f)
    (hv : ∀ x, s.validator? f.validator = some x →
      ∃ y, t.validator? f.validator = some y ∧ y.field = x.field ∧ y.rules = x.rules)
    (hPQ : ∀ X, ∀ p ∈ t.proxiesOf f, s.Bears P X p → t.Bears Q X p) : t.BearsField Q F f := by
  obtain ⟨x, hx, ef, hr⟩ := h.validator
  obtain ⟨y, hy, ef', er⟩ := hv x hx
  have rules : t.rulesOf f = x.rules := by simp only [rulesOf, hy, er]
  have own : ∀ X, ∀ p ∈ f.ownProxies, s.Bears P X p → t.Bears Q X p := fun X p hp =>
    hPQ X p (List.mem_append_left _ hp)
  exact {
    key := h.key
    hiddenOnFalse := h.hiddenOnFalse
    value := own _ _ (by simp [Field.ownProxies]) h.value
    name := optionRel_imp h.name fun _ p hp =>
      own _ p (by simp [Field.ownProxies, Option.mem_def.1 hp])
    tooltip := optionRel_imp h.tooltip fun _ p hp =>
      own _ p (by simp [Field.ownProxies, Option.mem_def.1 hp])
    visible := own _ _ (by simp [Field.ownProxies]) h.visible
    enabled := own _ _ (by simp [Field.ownProxies]) h.enabled
    validator := ⟨y, hy, ef'.trans ef, er ▸ forall₂_imp hr fun R r hr => Rule.Rel.imp fun X p hp =>
      hPQ X p (List.mem_append_right _ (by rw [rules]; exact List.mem_flatMap.2 ⟨r, hr, hp⟩))⟩
    builtIn := h.builtIn }

theorem Bears.isSome (h : s.Bears P X p) : (s.proxy? p).isSome :=
  Option.isSome_iff_exists.2 (h.imp fun _ => And.left)

/-- What a proxy shows stays as it is when something is added. -/
theorem Adds.bears {ev : Evaluator} {s₀ : Store H} {b : Binding} (h : s.Adds t)
    (hp : s.Bears (ProxyState.Exact ev s₀ b) X p) : t.Bears (ProxyState.Exact ev s₀ b) X p := by
  obtain ⟨x, hx, he⟩ := hp
  obtain ⟨y, hy, es, ec, eb, ed⟩ := h.proxy p x hx
  exact ⟨y, hy, es ▸ he.fits, by rw [ec, es, he.cached], fun hc => eb.trans (he.binding (es ▸ hc)),
    ed.trans he.disposed⟩

end Store

/-! ## Steps -/

namespace Compilation

open Blueprint (Source)

variable {α β α' β' : Type} {g : Engine} {s : Store H}

/-- What comes of steps is what comes of a plan. -/
inductive Meets (R : β → α → Prop) : Except FormError β → Except FormError α → Prop
  | ok {B : β} {a : α} (h : R B a) : Meets R (.ok B) (.ok a)
  | error (e : FormError) : Meets R (.error e) (.error e)

/-- The steps meet the faults of a plan, and make what it says. -/
def Realizes (g : Engine) (s : Store H) (m : Compilation H α) (plan : Except FormError β)
    (R : Store H → β → α → Prop) : Prop :=
  ∀ w, g.Later w.engine → s.Adds w.store →
    g.Later (m.outcome w).2.engine ∧ w.store.Adds (m.outcome w).2.store ∧
      Meets (fun B a => ∀ u, (m.outcome w).2.store.Adds u → R u B a) plan (m.outcome w).1

variable {m : Compilation H α} {plan : Except FormError β} {R : Store H → β → α → Prop}
  {R' : Store H → β' → α' → Prop}

theorem Realizes.pure {B : β} {a : α} (h : ∀ u, s.Adds u → R u B a) :
    Realizes g s (pure a) (.ok B) R :=
  fun _ hg hs => ⟨hg, .refl _, .ok fun u hu => h u (hs.trans hu)⟩

theorem Realizes.throw (e : FormError) : Realizes g s (throw e) (.error e) R :=
  fun w hg _ => ⟨hg, .refl w.store, .error e⟩

theorem Realizes.get_bind {f : Workspace H → Compilation H α}
    (h : ∀ w, g.Later w.engine → s.Adds w.store → Realizes g s (f w) plan R) :
    Realizes g s (get >>= f) plan R := fun w hg hs => h w hg hs w hg hs

theorem Realizes.bind {f : α → Compilation H α'} {planOf : β → Except FormError β'}
    (hm : Realizes g s m plan R)
    (hf : ∀ t B a, s.Adds t → (∀ u, t.Adds u → R u B a) → Realizes g t (f a) (planOf B) R') :
    Realizes g s (m >>= f) (plan >>= planOf) R' := by
  intro w hg hs
  obtain ⟨hg₁, ha₁, ho₁⟩ := hm w hg hs
  rw [outcome_bind]
  rcases hw : m.outcome w with ⟨e | a, w₁⟩
  · rw [hw] at hg₁ ha₁ ho₁
    cases ho₁
    exact ⟨hg₁, ha₁, .error e⟩
  · rw [hw] at hg₁ ha₁ ho₁
    cases ho₁ with
    | @ok B _ h =>
      obtain ⟨hg₂, ha₂, ho₂⟩ := hf w₁.store B a (hs.trans ha₁) h w₁ hg₁ (.refl _)
      exact ⟨hg₂, ha₁.trans ha₂, ho₂⟩

/-- Steps of which the plan says nothing. -/
theorem Realizes.bind_unit {f : α → Compilation H α'} {plan : Except FormError β'}
    {R : Store H → Unit → α → Prop} (hm : Realizes g s m (.ok ()) R)
    (hf : ∀ t a, s.Adds t → (∀ u, t.Adds u → R u () a) → Realizes g t (f a) plan R') :
    Realizes g s (m >>= f) plan R' := by
  have h : Realizes g s (m >>= f) (Except.ok () >>= fun _ => plan) R' :=
    hm.bind fun t _ a => hf t a
  exact h

theorem Realizes.map {f : β → β'} {R' : Store H → β' → α → Prop} (hm : Realizes g s m plan R)
    (hf : ∀ u B a, R u B a → R' u (f B) a) : Realizes g s m (f <$> plan) R' := by
  intro w hg hs
  obtain ⟨hg', ha, ho⟩ := hm w hg hs
  refine ⟨hg', ha, ?_⟩
  generalize (m.outcome w).1 = result at ho ⊢
  cases ho with
  | ok h => exact .ok fun u hu => hf u _ _ (h u hu)
  | error e => exact .error e

/-- What is made in turn is what a list of plans says. -/
theorem Realizes.mapM {γ : Type} {f : γ → Compilation H α} {planOf : γ → Except FormError β}
    (hf : ∀ t c, s.Adds t → Realizes g t (f c) (planOf c) R) (cs : List γ) :
    Realizes g s (cs.mapM f) (cs.mapM planOf) fun u => List.Forall₂ (R u) := by
  induction cs generalizing s with
  | nil =>
    rw [List.mapM_nil, List.mapM_nil]
    exact .pure fun _ _ => .nil
  | cons c cs ih =>
    rw [List.mapM_cons, List.mapM_cons]
    refine (hf s c (.refl s)).bind fun t B a hst hB => ?_
    refine (ih fun u d hu => hf u d (hst.trans hu)).bind fun u Bs as htu hBs => ?_
    exact .pure fun u' hu => .cons (hB u' (htu.trans hu)) (hBs u' hu)

/-! ## Proxies -/

section

variable {s₀ : Store H} {b : Binding} (hg : g.cache.Honest) (sealed : s₀.Sealed)
  (known : s₀.Knows b) (hs : s₀.Adds s)
include hg sealed known hs

/-- The proxy of a template shows its value. -/
theorem realizes_read (key part source : String) :
    Realizes g s (template b key part source) (Blueprint.read key part source)
      fun u t => u.Bears (ProxyState.Exact g.evaluator s₀ b) (.template t) := by
  intro w hw ha
  have hr := Engine.template_of_honest (hw.honest hg) source
  have hl := w.engine.later_template source
  unfold Blueprint.read
  rw [← hr]
  rcases ht : w.engine.template source with ⟨e | t, g'⟩ <;> rw [ht] at hl
  · have hb : w.bind source b w.engine.configuration.maxPasses =
        (.error e, { w with engine := g' }) := by
      simp only [Workspace.bind, ht]
    rw [outcome_template b key part source w hb]
    exact ⟨hw.trans hl, .refl w.store, .error _⟩
  · have hb : w.bind source b w.engine.configuration.maxPasses =
        (.ok ⟨w.store.proxies.next⟩, ⟨g', (w.store.newProxy (.template g'.evaluator t) b
          w.engine.configuration.maxPasses).1⟩) := by
      simp only [Workspace.bind, ht]
      rfl
    rw [outcome_template b key part source w hb]
    refine ⟨hw.trans hl, .newProxy .., .ok fun u hu => hu.bears ?_⟩
    obtain ⟨ws, hx⟩ := Store.proxy?_newProxy (s := w.store) (.template g'.evaluator t) b
      w.engine.configuration.maxPasses
    rw [(hw.trans hl).evaluator] at hx ⊢
    exact ⟨_, hx, .template t, (hs.trans ha).sourceValue sealed known (.template g.evaluator t),
      fun _ => rfl, rfl⟩

omit hg sealed known hs in
theorem realizes_constant {v : Value} {X : Source} (hX : X.Fits g.evaluator s₀ (.constant v)) :
    Realizes g s (constant v) (.ok X) fun u => u.Bears (ProxyState.Exact g.evaluator s₀ b) := by
  intro w hw _
  obtain ⟨ws, hx⟩ := Store.proxy?_newProxy (s := w.store) (.constant v)
    ⟨none, none⟩ 1
  exact ⟨hw, .newProxy .., .ok fun u hu => hu.bears ⟨_, hx, hX, rfl, nofun, rfl⟩⟩

theorem realizes_read? (key part : String) (source : Option String) :
    Realizes g s (template? b key part source) (Blueprint.read? key part source)
      fun u => Option.Rel fun t => u.Bears (ProxyState.Exact g.evaluator s₀ b) (.template t) := by
  cases source with
  | none => exact .pure fun _ _ => .none
  | some source =>
    exact (realizes_read hg sealed known hs key part source).bind fun u t p _ hp =>
      .pure fun u hu => .some (hp u hu)

theorem realizes_condition (key part : String) (source : Option String) :
    Realizes g s (condition b key part source) (Blueprint.condition key part source)
      fun u => u.Bears (ProxyState.Exact g.evaluator s₀ b) := by
  cases source with
  | none => exact realizes_constant (.document (.boolean true) s₀ (Nat.le_refl _))
  | some source => exact (realizes_read hg sealed known hs key part source).map fun _ _ _ => id

omit hg sealed known in
theorem realizes_document (j : Json) :
    Realizes g s (document j) (.ok (.document j)) fun _ X v => Source.Fits g.evaluator s₀ X (.constant v) :=
  fun w hw ha => ⟨hw, .of_builds (w.store.newValue_spec j).1,
    .ok fun _ _ => .document j w.store (hs.trans ha).next⟩

theorem realizes_argument (key : String) (d : Option ArgumentDefinition) :
    Realizes g s (argument b key d) (Blueprint.argument key d)
      fun u => u.Bears (ProxyState.Exact g.evaluator s₀ b) := by
  match d with
  | none => exact realizes_constant (.document .null s₀ (Nat.le_refl _))
  | some (.template source) =>
    exact (realizes_read hg sealed known hs key "argument" source).map fun _ _ _ => id
  | some (.value j) =>
    exact (realizes_document hs j).bind fun t X v _ hv => realizes_constant (hv t (.refl t))

/-- A message whose template reads nothing is fixed when the rule is made. -/
theorem realizes_message (key comparator : String) (source : Option String) :
    Realizes g s (message b key comparator source)
      (Blueprint.message g.evaluator key comparator source)
      fun u => Message.Rel (u.Bears (ProxyState.Exact g.evaluator s₀ b)) := by
  cases source with
  | none => exact .pure fun _ _ => .fixed _
  | some source =>
    refine (realizes_read hg sealed known hs key "message" source).bind fun u t p _ hp => ?_
    refine .get_bind fun w hw ha => ?_
    obtain ⟨x, hx, hf, hc, -, -⟩ := hp w.store ha
    cases hxs : x.source with
    | constant v => rw [hxs] at hf; cases hf
    | template ev' t' =>
      rw [hxs] at hf hc
      cases hf
      simp only [hx, Option.map_some, hxs, Blueprint.messageOf]
      cases ht : t.isConstant with
      | false => exact .pure fun u' hu => .live (hp u' hu)
      | true =>
        have hv : w.store.valueOf p = g.evaluator.valueOf Blueprint.nowhere t.root := by
          rw [Store.valueOf_eq hx, hc]
          exact g.evaluator.valueOf_of_isConstant ht _ _
        have hcult : w.engine.culture = g.evaluator.culture :=
          congrArg Configuration.culture hw.configuration
        simp only [↓reduceIte, hv, hcult]
        exact .pure fun _ _ => .fixed _

/-! ## Rules and fields -/

omit sealed known hs hg in
theorem realizes_converter (key : String) (name : Option String) :
    Realizes g s (converter key name) (Blueprint.converter g.registry key name)
      fun _ (f : Option Filter) f' => f' = f := by
  cases name with
  | none => exact .pure fun _ _ => rfl
  | some name =>
    refine .get_bind fun w hw _ => ?_
    rw [hw.registry]
    simp only [Blueprint.converter]
    cases g.registry.resolve name with
    | none => exact .throw _
    | some f =>
      cases hf : f.arity.accepts 0 with
      | true =>
        simp only [hf, ↓reduceIte]
        exact .pure fun _ _ => rfl
      | false =>
        simp only [hf, Bool.false_eq_true, ↓reduceIte]
        exact .throw _

theorem realizes_rule (key : String) (d : ValidatorDefinition) :
    Realizes g s (rule b key d) (Blueprint.rule g.configuration g.registry key d)
      fun u R r => R.comparator.IsBuiltIn ∧
        R.Rel (u.Bears (ProxyState.Exact g.evaluator s₀ b)) r := by
  refine .get_bind fun w hw _ => ?_
  simp only [hw.configuration, Blueprint.rule]
  cases hn : Comparator.ofName? d.comparator with
  | none => exact .throw _
  | some comparator =>
    refine (realizes_argument hg sealed known hs key d.argument).bind fun t A a h₁ ha => ?_
    have hs := hs.trans h₁
    refine (realizes_condition hg sealed known hs key "isEnforced" d.isEnforced).bind
      fun t' E e h₂ he => ?_
    have hs := hs.trans h₂
    refine (realizes_message hg sealed known hs key d.comparator d.message).bind
      fun t'' M m h₃ hm => ?_
    refine (realizes_converter key d.converter).bind fun u C c h₄ hc => ?_
    exact .pure fun u' hu => ⟨Comparator.isBuiltIn_of_ofName? hn, {
      comparator := rfl
      argument := ha u' (((h₂.trans h₃).trans h₄).trans hu)
      enforcement := he u' ((h₃.trans h₄).trans hu)
      message := hm u' (h₄.trans hu)
      nullPolicy := rfl
      strict := rfl
      onTargetUpdated := rfl
      converter := hc u (.refl u) }⟩

omit sealed known hs hg in
/-- A new validator of proxies that are there shows what its rules say. -/
theorem realizes_validator {value : ProxyId} {rules : List (Rule ProxyId)}
    (h : ∀ p ∈ value :: rules.flatMap Rule.sources, (s.proxy? p).isSome) :
    Realizes g s (validator value rules) (.ok ()) fun u _ v =>
      (∃ x, u.validator? v = some x ∧ x.field = value ∧ x.rules = rules) ∧
        u.Fresh g.evaluator (.validator v) := by
  intro w hw ha
  have hp := fun p hp => ha.isSome (h p hp)
  have hl := Store.Adds.newValidator w.engine.evaluator w.engine.configuration.maxPasses hp
  obtain ⟨-, ⟨ws, hx⟩, -⟩ := Store.newValidator_spec w.engine.evaluator value rules
    w.engine.configuration.maxPasses hp
  have hf : (w.store.newValidator w.engine.evaluator value rules
      w.engine.configuration.maxPasses).1.Fresh g.evaluator
        (.validator ⟨w.store.validators.next⟩) := by
    intro y hy
    obtain rfl := Option.some.inj (hx.symm.trans hy)
    rw [← hw.evaluator]
    exact (Store.validate_congr _ fun p hq => hl.valueOf (hp p hq)).symm
  refine ⟨hw, hl, .ok fun u hu => ⟨?_, ?_⟩⟩
  · obtain ⟨y, hy, ef, er, -⟩ := hu.validator _ _ hx
    exact ⟨y, hy, ef, er⟩
  · exact hu.fresh_validator hx (fun p hq => hl.isSome (hp p hq)) hf

/-- A field is made as its blueprint says, and its validator shows what its rules say. -/
theorem realizes_field (d : FieldDefinition) :
    Realizes g s (field b d) (Blueprint.field g.configuration g.registry d) fun u F f =>
      u.BearsField (ProxyState.Exact g.evaluator s₀ b) F f ∧
        u.Fresh g.evaluator (.validator f.validator) := by
  refine (realizes_read hg sealed known hs d.key "key" (keyTemplate d.key)).bind
    fun t V v h₁ hv => ?_
  have hs := hs.trans h₁
  refine (realizes_read? hg sealed known hs d.key "name" d.name).bind fun t N n h₂ hn => ?_
  have hs := hs.trans h₂
  refine (realizes_read? hg sealed known hs d.key "tooltip" d.tooltip).bind fun t T x h₃ hx => ?_
  have hs := hs.trans h₃
  refine (realizes_condition hg sealed known hs d.key "isVisible" d.isVisible).bind
    fun t I i h₄ hi => ?_
  have hs := hs.trans h₄
  refine (realizes_condition hg sealed known hs d.key "isEnabled" d.isEnabled).bind
    fun t E e h₅ he => ?_
  have hs := hs.trans h₅
  refine (Realizes.mapM (fun u r hu => realizes_rule hg sealed known (hs.trans hu) d.key r)
    d.validators).bind fun t Rs rs h₆ hr => ?_
  have alive : ∀ p ∈ v :: rs.flatMap Rule.sources, (t.proxy? p).isSome := by
    intro p hp
    rcases List.mem_cons.1 hp with rfl | hp
    · exact (hv t (((((h₂.trans h₃).trans h₄).trans h₅).trans h₆))).isSome
    · obtain ⟨X, hX⟩ := Rule.exists_source_of_forall₂
        ((List.forall₂_and_left _ _).1 (hr t (.refl t))).2 hp
      exact hX.isSome
  refine (realizes_validator alive).bind_unit fun u w h₇ hw => ?_
  refine .pure fun u' hu => ?_
  have a₇ := h₇.trans hu
  have a₆ := h₆.trans a₇
  have a₅ := h₅.trans a₆
  have a₄ := h₄.trans a₅
  have a₃ := h₃.trans a₄
  obtain ⟨⟨y, hy, ef, er⟩, hf⟩ := hw u' hu
  exact ⟨{
    key := rfl
    hiddenOnFalse := rfl
    value := hv u' (h₂.trans a₃)
    name := hn u' a₃
    tooltip := hx u' a₄
    visible := hi u' a₅
    enabled := he u' a₆
    validator := ⟨y, hy, ef, er ▸ ((List.forall₂_and_left _ _).1 (hr u' a₇)).2⟩
    builtIn := ((List.forall₂_and_left _ _).1 (hr u' a₇)).1 }, hf⟩

theorem realizes_fields {Fs : List Blueprint.Field} {fs : List Field} (ds : List FieldDefinition)
    (h : ∀ u, s.Adds u → List.Forall₂ (fun F f =>
      u.BearsField (ProxyState.Exact g.evaluator s₀ b) F f ∧
        u.Fresh g.evaluator (.validator f.validator)) Fs fs) :
    Realizes g s (fields b fs ds) (Blueprint.fields g.configuration g.registry Fs ds) fun u =>
      List.Forall₂ fun F f => u.BearsField (ProxyState.Exact g.evaluator s₀ b) F f ∧
        u.Fresh g.evaluator (.validator f.validator) := by
  induction ds generalizing s Fs fs with
  | nil => exact .pure h
  | cons d ds ih =>
    have any : (Fs.any fun F => F.key == d.key) = fs.any fun f => f.key == d.key := by
      have keys := h s (.refl s)
      clear h ih
      induction keys with
      | nil => rfl
      | cons hF _ ih => simp only [List.any_cons, ih, hF.1.key]
    unfold fields Blueprint.fields
    rw [any]
    split
    · exact .throw _
    · refine (realizes_field hg sealed known hs d).bind fun t F f hst hF => ?_
      refine ih (hs.trans hst) fun u hu => ?_
      exact List.rel_append (h u (hst.trans hu)) (.cons (hF u hu) .nil)

end

end Compilation

/-! ## Forms -/

namespace Workspace

open Compilation

variable {w : Workspace H} {b : Binding}

/-- A form is made of definitions if there is a blueprint of them, with its fields as the blueprint
    says; its proxies and validators show what they should. Otherwise the making fails with the fault of
    the definitions. -/
theorem compile_realizes (hg : w.engine.cache.Honest) (sealed : w.store.Sealed)
    (known : w.store.Knows b) (ds : List FieldDefinition) :
    w.store.Adds (w.compile b ds).2.store ∧
      Meets (fun Fs f => ∃ fs, (w.compile b ds).2.store.form? f = some ⟨fs, b⟩ ∧
          List.Forall₂ (fun F x =>
            (w.compile b ds).2.store.BearsField
              (ProxyState.Exact w.engine.evaluator w.store b) F x ∧
            (w.compile b ds).2.store.Fresh w.engine.evaluator (.validator x.validator)) Fs fs)
        (Blueprint.ofDefinitions w.engine.configuration w.engine.registry ds)
        (w.compile b ds).1 := by
  obtain ⟨-, ha, ho⟩ := realizes_fields hg sealed known (.refl _) ds (fun _ _ => .nil) w
    (.refl _) (.refl _)
  rw [compile_eq, Blueprint.ofDefinitions]
  generalize Blueprint.fields w.engine.configuration w.engine.registry [] ds = plan at ho ⊢
  rcases hw : (Compilation.fields b [] ds).outcome w with ⟨e | fs, w'⟩ <;> rw [hw] at ha ho
  · cases ho
    exact ⟨ha, .error _⟩
  · cases ho with
    | ok h =>
      have hf : w'.store.Adds (w'.store.newForm fs b).1 := ⟨Nat.le_refl _, fun _ _ => rfl,
        fun _ x hx => ⟨x, hx, rfl, rfl, rfl, rfl⟩, fun _ x hx => ⟨x, hx, rfl, rfl, rfl⟩⟩
      exact ⟨ha.trans hf, .ok ⟨fs, (Roster.get?_add ..).trans (if_pos rfl), h _ hf⟩⟩

end Workspace

end LiveForm
