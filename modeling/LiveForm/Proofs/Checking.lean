/-
  The checks of definitions.

  To make a form of definitions is to check them in order. The first fault that is found is the
  error of the form, and where there is none the form is made.

  * `Check` is a look at one key, template, comparator or converter, and `Check.fault?` what may be
    wrong with it;
  * `FieldDefinition.checksOf` lists the checks of all fields in the order in which they are made;
  * `FieldDefinition.AreProper` says without any order what is asked of definitions;
  * `Compilation.Undergoes`: steps end with the first fault of their checks and with no other;
  * `Workspace.compile_checked` puts the form together, for every store and every binding, and
    whatever the engine has read before.
-/
import LiveForm.Proofs.Likeness
import LiveForm.Proofs.Making

namespace LiveForm

/-! ## Checks -/

inductive Check where
  /-- No earlier field has the key. -/
  | newKey (key : String) (earlier : List String)
  /-- A template of a field is well-formed; `part` names what it is for. -/
  | template (field part source : String)
  /-- There is a built-in comparator of the name. -/
  | comparator (field name : String)
  /-- There is a filter of the name that takes a value without arguments. -/
  | converter (field name : String)

/-- The names of filters that take a value without arguments. -/
def Registry.Converts (r : Registry) (name : String) : Prop :=
  ∃ f, r.resolve name = some f ∧ f.arity.accepts 0

instance (r : Registry) (name : String) : Decidable (r.Converts name) :=
  decidable_of_iff ((r.resolve name).any fun f => f.arity.accepts 0) (by
    simp [Registry.Converts, Option.any_eq_true])

/-- The names of built-in comparators. -/
def Comparator.Named (name : String) : Prop := ∃ c ∈ builtIn, c.name = name

instance (name : String) : Decidable (Comparator.Named name) :=
  inferInstanceAs (Decidable (∃ c ∈ Comparator.builtIn, c.name = name))

theorem Comparator.named_iff {name : String} : Named name ↔ (ofName? name).isSome := by
  simp [Named, ofName?, List.find?_isSome]

/-- What a check finds wrong. -/
def Check.fault? (r : Registry) : Check → Option FormError
  | .newKey key earlier => if key ∈ earlier then some (.duplicateField key) else none
  | .template field part source =>
    match Template.parse source with
    | .ok _ => none
    | .error e => some (.template field part source e)
  | .comparator field name =>
    if Comparator.Named name then none else some (.unknownComparator field name)
  | .converter field name =>
    if r.Converts name then none else some (.unknownConverter field name)

/-- The first thing that checks find wrong. -/
def Check.firstFault? (r : Registry) (cs : List Check) : Option FormError := cs.findSome? (fault? r)

/-- The check of a template that may be absent. -/
def Check.template? (field part : String) (source : Option String) : List Check :=
  source.toList.map (.template field part)

/-- The template of an argument, unless it is a value. -/
def ArgumentDefinition.source? : ArgumentDefinition → Option String
  | .template source => some source
  | .value _ => none

namespace ValidatorDefinition

/-- The checks of a rule, in their order. -/
def checks (field : String) (d : ValidatorDefinition) : List Check :=
  .comparator field d.comparator ::
    (Check.template? field "argument" (d.argument.bind ArgumentDefinition.source?) ++
      (Check.template? field "isEnforced" d.isEnforced ++
        (Check.template? field "message" d.message ++ d.converter.toList.map (.converter field))))

def templates (d : ValidatorDefinition) : List String :=
  (d.argument.bind ArgumentDefinition.source?).toList ++ d.isEnforced.toList ++ d.message.toList

end ValidatorDefinition

namespace FieldDefinition

/-- The checks of a field by itself, in their order. -/
def checks (d : FieldDefinition) : List Check :=
  .template d.key "key" (Compilation.keyTemplate d.key) ::
    (Check.template? d.key "name" d.name ++ (Check.template? d.key "tooltip" d.tooltip ++
      (Check.template? d.key "isVisible" d.isVisible ++
        (Check.template? d.key "isEnabled" d.isEnabled ++
          d.validators.flatMap (ValidatorDefinition.checks d.key)))))

/-- The checks of fields after fields with the earlier keys, in their order. -/
def checksOf : List String → List FieldDefinition → List Check
  | _, [] => []
  | earlier, d :: ds => .newKey d.key earlier :: (d.checks ++ checksOf (earlier ++ [d.key]) ds)

def templates (d : FieldDefinition) : List String :=
  Compilation.keyTemplate d.key :: (d.name.toList ++ d.tooltip.toList ++ d.isVisible.toList ++
    d.isEnabled.toList ++ d.validators.flatMap ValidatorDefinition.templates)

/-- What is asked of a field: all templates are well-formed, and the comparators and the converters
    are there. -/
structure IsProper (r : Registry) (d : FieldDefinition) : Prop where
  templates : ∀ source ∈ d.templates, ∃ t, Template.parse source = .ok t
  comparators : ∀ v ∈ d.validators, Comparator.Named v.comparator
  converters : ∀ v ∈ d.validators, ∀ name ∈ v.converter, r.Converts name

/-- What is asked of fields together: the keys are different, too. -/
structure AreProper (r : Registry) (ds : List FieldDefinition) : Prop where
  keys : (ds.map key).Nodup
  fields : ∀ d ∈ ds, d.IsProper r

end FieldDefinition

/-! ## Definitions without a fault -/

namespace Check

variable {r : Registry} {cs cs' : List Check}

theorem firstFault?_append :
    firstFault? r (cs ++ cs') = (firstFault? r cs).or (firstFault? r cs') :=
  List.findSome?_append

theorem firstFault?_cons {c : Check} :
    firstFault? r (c :: cs) = (c.fault? r).or (firstFault? r cs) := by
  rw [firstFault?, List.findSome?_cons]
  cases c.fault? r <;> rfl

theorem firstFault?_singleton {c : Check} : firstFault? r [c] = c.fault? r := by
  rw [firstFault?_cons]
  exact Option.or_none

theorem firstFault?_eq_none : firstFault? r cs = none ↔ ∀ c ∈ cs, c.fault? r = none :=
  List.findSome?_eq_none_iff

theorem fault?_newKey_eq_none {key : String} {earlier : List String} :
    (newKey key earlier).fault? r = none ↔ key ∉ earlier := by
  simp [fault?]

theorem fault?_comparator_eq_none {field name : String} :
    (comparator field name).fault? r = none ↔ Comparator.Named name := by
  simp [fault?]

theorem fault?_converter_eq_none {field name : String} :
    (converter field name).fault? r = none ↔ r.Converts name := by
  simp [fault?]

theorem fault?_template_eq_none {field part source : String} :
    (template field part source).fault? r = none ↔ ∃ t, Template.parse source = .ok t := by
  cases h : Template.parse source <;> simp [fault?, h]

end Check

variable {r : Registry}

theorem Check.template?_faultless {field part : String} {source : Option String} :
    (∀ c ∈ template? field part source, c.fault? r = none) ↔
      ∀ s ∈ source, ∃ t, Template.parse s = .ok t := by
  simp only [template?, List.forall_mem_map, Option.mem_toList, Option.mem_def,
    fault?_template_eq_none]

theorem ValidatorDefinition.checks_faultless {field : String} {d : ValidatorDefinition} :
    (∀ c ∈ d.checks field, c.fault? r = none) ↔
      Comparator.Named d.comparator ∧
        (∀ source ∈ d.templates, ∃ t, Template.parse source = .ok t) ∧
          ∀ name ∈ d.converter, r.Converts name := by
  simp only [checks, templates, List.forall_mem_cons, List.forall_mem_append, List.forall_mem_map,
    Option.mem_toList, Check.template?_faultless, Check.fault?_comparator_eq_none,
    Check.fault?_converter_eq_none]
  tauto

theorem FieldDefinition.checks_faultless {d : FieldDefinition} :
    (∀ c ∈ d.checks, c.fault? r = none) ↔ d.IsProper r := by
  have hproper : d.IsProper r ↔ (∀ s ∈ d.templates, ∃ t, Template.parse s = .ok t) ∧
      ∀ v ∈ d.validators, Comparator.Named v.comparator ∧
        ∀ name ∈ v.converter, r.Converts name :=
    ⟨fun h => ⟨h.templates, fun v hv => ⟨h.comparators v hv, h.converters v hv⟩⟩,
      fun h => ⟨h.1, fun v hv => (h.2 v hv).1, fun v hv => (h.2 v hv).2⟩⟩
  simp only [hproper, checks, templates, List.forall_mem_cons, List.forall_mem_append,
    Option.mem_toList, Check.template?_faultless, Check.fault?_template_eq_none,
    List.forall_mem_flatMap, ValidatorDefinition.checks_faultless, forall_and]
  tauto

/-- Definitions are proper, after fields of other keys, if their checks find nothing wrong. -/
theorem FieldDefinition.checksOf_faultless {ds : List FieldDefinition} {earlier : List String} :
    (∀ c ∈ checksOf earlier ds, c.fault? r = none) ↔
      (∀ d ∈ ds, d.key ∉ earlier) ∧ AreProper r ds := by
  induction ds generalizing earlier with
  | nil =>
    have hnil : AreProper r [] := ⟨List.nodup_nil, by simp⟩
    simpa [checksOf] using hnil
  | cons d ds ih =>
    have hproper : AreProper r (d :: ds) ↔
        (d.key ∉ ds.map key ∧ d.IsProper r) ∧ AreProper r ds := by
      constructor
      · rintro ⟨hkeys, hfields⟩
        obtain ⟨hd, hds⟩ := List.forall_mem_cons.1 hfields
        exact ⟨⟨(List.nodup_cons.1 hkeys).1, hd⟩, (List.nodup_cons.1 hkeys).2, hds⟩
      · rintro ⟨⟨hkey, hd⟩, hkeys, hds⟩
        exact ⟨List.nodup_cons.2 ⟨hkey, hkeys⟩, List.forall_mem_cons.2 ⟨hd, hds⟩⟩
    have hearlier : (∀ d' ∈ ds, d'.key ∉ earlier ++ [d.key]) ↔
        (∀ d' ∈ ds, d'.key ∉ earlier) ∧ d.key ∉ ds.map key := by
      simp only [List.mem_append, List.mem_singleton, not_or, List.mem_map, not_exists, not_and,
        forall_and]
    simp only [checksOf, List.forall_mem_cons, List.forall_mem_append, Check.fault?_newKey_eq_none,
      ih, checks_faultless, hearlier, hproper]
    tauto

/-! ## Steps -/

namespace Compilation

/-- A result is the fault that was to be found, or something of which `P` holds if there is none. -/
inductive Ends {α : Type} (P : α → Prop) : Option FormError → Except FormError α → Prop
  | fault (e : FormError) : Ends P (some e) (.error e)
  | done {a : α} (h : P a) : Ends P none (.ok a)

variable {H α β : Type} {r : Registry} {cs cs' : List Check} {m : Compilation H α}
  {P : α → Prop} {Q : β → Prop} {b : Binding}

/-- With the filters of a registry, and from an honest cache on, the steps end with the first fault
    of the checks, or else with something of which `P` holds. -/
def Undergoes (r : Registry) (cs : List Check) (m : Compilation H α) (P : α → Prop) : Prop :=
  ∀ w : Workspace H, w.engine.registry = r → w.engine.cache.Honest →
    w.engine.Later (m.outcome w).2.engine ∧ Ends P (Check.firstFault? r cs) (m.outcome w).1

namespace Undergoes

theorem passed {a : α} (hcs : Check.firstFault? r cs = none) (h : P a) :
    Undergoes (H := H) r cs (pure a) P := by
  intro w _ _
  rw [hcs]
  exact ⟨.refl _, .done h⟩

theorem pure {a : α} (h : P a) : Undergoes (H := H) r [] (pure a) P := passed rfl h

theorem throw {e : FormError} (h : Check.firstFault? r cs = some e) :
    Undergoes (H := H) r cs (throw e) P := by
  intro w _ _
  rw [h]
  exact ⟨.refl _, .fault e⟩

theorem get_bind {f : Workspace H → Compilation H α}
    (h : ∀ w, w.engine.registry = r → Undergoes r cs (f w) P) : Undergoes r cs (get >>= f) P :=
  fun w hr hc => h w hr w hr hc

theorem bind {f : α → Compilation H β} (hm : Undergoes r cs m P)
    (hf : ∀ a, P a → Undergoes r cs' (f a) Q) : Undergoes r (cs ++ cs') (m >>= f) Q := by
  intro w hr hc
  obtain ⟨hl, ho⟩ := hm w hr hc
  rw [outcome_bind, Check.firstFault?_append]
  generalize m.outcome w = o, Check.firstFault? r cs = fault at hl ho
  obtain ⟨_, w'⟩ := o
  cases ho with
  | fault e => exact ⟨hl, .fault e⟩
  | done h =>
    obtain ⟨hl', ho'⟩ := hf _ h w' (hl.registry.trans hr) (hl.honest hc)
    exact ⟨hl.trans hl', ho'⟩

/-- Steps before which a check has found nothing wrong. -/
theorem after {c : Check} (hc : c.fault? r = none) (hm : Undergoes r cs m P) :
    Undergoes r (c :: cs) m P := by
  intro w hr hh
  rw [Check.firstFault?_cons, hc]
  exact hm w hr hh

/-- Steps without checks after steps with checks. -/
theorem bind_pure {f : α → Compilation H β} (hm : Undergoes r cs m P)
    (hf : ∀ a, P a → Undergoes r [] (f a) Q) : Undergoes r cs (m >>= f) Q :=
  List.append_nil cs ▸ hm.bind hf

theorem mapM {cs : β → List Check} {f : β → Compilation H α}
    (h : ∀ a, Undergoes r (cs a) (f a) fun _ => True) (as : List β) :
    Undergoes r (as.flatMap cs) (as.mapM f) fun _ => True := by
  induction as with
  | nil =>
    rw [List.mapM_nil]
    exact .pure trivial
  | cons a as ih =>
    rw [List.mapM_cons, List.flatMap_cons]
    exact (h a).bind fun x _ => ih.bind_pure fun xs _ => .pure trivial

/-- Steps that leave the engine alone and give something. -/
theorem of_ok (h : ∀ w : Workspace H, (m.outcome w).2.engine = w.engine ∧
    ∃ a, (m.outcome w).1 = .ok a ∧ P a) : Undergoes r [] m P := by
  intro w _ _
  obtain ⟨he, a, ha, hP⟩ := h w
  exact ⟨he ▸ .refl _, ha ▸ .done hP⟩

end Undergoes

/-! ## Fields -/

theorem undergoes_template (key part source : String) :
    Undergoes (H := H) r [.template key part source] (template b key part source)
      fun _ => True := by
  intro w _ hc
  have hl := w.engine.later_template source
  rw [Check.firstFault?_singleton, Check.fault?, ← Engine.template_of_honest hc source]
  rcases ht : w.engine.template source with ⟨e | t, g⟩ <;> rw [ht] at hl
  · have hw : w.bind source b w.engine.configuration.maxPasses =
        (.error e, { w with engine := g }) := by
      simp only [Workspace.bind, ht]
    rw [outcome_template b key part source w hw]
    exact ⟨hl, .fault _⟩
  · have hw : w.bind source b w.engine.configuration.maxPasses =
        (.ok (w.store.newProxy (.template g.evaluator t) b w.engine.configuration.maxPasses).2,
          ⟨g, (w.store.newProxy (.template g.evaluator t) b
            w.engine.configuration.maxPasses).1⟩) := by
      simp only [Workspace.bind, ht]
    rw [outcome_template b key part source w hw]
    exact ⟨hl, .done trivial⟩

theorem undergoes_template? (key part : String) (source : Option String) :
    Undergoes (H := H) r (Check.template? key part source) (template? b key part source)
      fun _ => True := by
  cases source with
  | none => exact .pure trivial
  | some source => exact (undergoes_template key part source).bind_pure fun _ _ => .pure trivial

theorem undergoes_constant (v : Value) :
    Undergoes (H := H) r [] (constant v) fun _ => True :=
  .of_ok fun _ => ⟨rfl, _, rfl, trivial⟩

theorem undergoes_condition (key part : String) (source : Option String) :
    Undergoes (H := H) r (Check.template? key part source) (condition b key part source)
      fun _ => True := by
  cases source with
  | none => exact undergoes_constant _
  | some source => exact undergoes_template key part source

theorem undergoes_document (j : Json) : Undergoes (H := H) r [] (document j) fun _ => True :=
  .of_ok fun _ => ⟨rfl, _, rfl, trivial⟩

theorem undergoes_argument (key : String) (d : Option ArgumentDefinition) :
    Undergoes (H := H) r (Check.template? key "argument" (d.bind ArgumentDefinition.source?))
      (argument b key d) fun _ => True := by
  match d with
  | none => exact undergoes_constant _
  | some (.template source) => exact undergoes_template key "argument" source
  | some (.value j) => exact (undergoes_document j).bind_pure fun v _ => undergoes_constant v

theorem undergoes_message (key comparator : String) (source : Option String) :
    Undergoes (H := H) r (Check.template? key "message" source)
      (message b key comparator source) fun _ => True := by
  cases source with
  | none => exact .pure trivial
  | some source =>
    refine (undergoes_template key "message" source).bind_pure fun p _ => .get_bind fun w _ => ?_
    split <;> exact .pure trivial

theorem undergoes_converter (key : String) (name : Option String) :
    Undergoes (H := H) r (name.toList.map (.converter key)) (converter key name)
      fun _ => True := by
  cases name with
  | none => exact .pure trivial
  | some name =>
    refine .get_bind fun w hr => ?_
    have hfault : Check.firstFault? r [.converter key name] =
        if r.Converts name then none else some (.unknownConverter key name) :=
      Check.firstFault?_singleton
    rw [hr]
    split
    · next f hf =>
      have hconverts : r.Converts name ↔ f.arity.accepts 0 := by simp [Registry.Converts, hf]
      split
      · next ha => exact .passed (hfault.trans (if_pos (hconverts.2 ha))) trivial
      · next ha => exact .throw (hfault.trans (if_neg (mt hconverts.1 ha)))
    · next hf =>
      have hconverts : ¬r.Converts name := by simp [Registry.Converts, hf]
      exact .throw (hfault.trans (if_neg hconverts))

theorem undergoes_rule (key : String) (d : ValidatorDefinition) :
    Undergoes (H := H) r (d.checks key) (rule b key d) fun _ => True := by
  refine .get_bind fun w _ => ?_
  split
  · next hc =>
    refine .throw ?_
    rw [ValidatorDefinition.checks, Check.firstFault?_cons, Check.fault?,
      if_neg fun h => absurd (Comparator.named_iff.1 h) (by simp [hc])]
    rfl
  · next c hc =>
    have hnamed : Comparator.Named d.comparator := Comparator.named_iff.2 (by simp [hc])
    refine .after (Check.fault?_comparator_eq_none.2 hnamed) ?_
    exact (undergoes_argument key d.argument).bind fun argument _ =>
      (undergoes_condition key "isEnforced" d.isEnforced).bind fun enforcement _ =>
      (undergoes_message key d.comparator d.message).bind fun message _ =>
      (undergoes_converter key d.converter).bind_pure fun converter _ => .pure trivial

theorem undergoes_validator (value : ProxyId) (rules : List (Rule ProxyId)) :
    Undergoes (H := H) r [] (validator value rules) fun _ => True :=
  .of_ok fun _ => ⟨rfl, _, rfl, trivial⟩

theorem undergoes_field (d : FieldDefinition) :
    Undergoes (H := H) r d.checks (field b d) fun f => f.key = d.key :=
  (undergoes_template d.key "key" (keyTemplate d.key)).bind fun value _ =>
    (undergoes_template? d.key "name" d.name).bind fun _ _ =>
    (undergoes_template? d.key "tooltip" d.tooltip).bind fun _ _ =>
    (undergoes_condition d.key "isVisible" d.isVisible).bind fun _ _ =>
    (undergoes_condition d.key "isEnabled" d.isEnabled).bind fun _ _ =>
    (Undergoes.mapM (undergoes_rule d.key) d.validators).bind_pure fun rules _ =>
    (undergoes_validator value rules).bind_pure fun _ _ => .pure rfl

theorem undergoes_fields (done : List Field) (ds : List FieldDefinition) :
    Undergoes (H := H) r (FieldDefinition.checksOf (done.map Field.key) ds) (fields b done ds)
      fun fs => fs.map Field.key = done.map Field.key ++ ds.map FieldDefinition.key := by
  induction ds generalizing done with
  | nil => exact .pure (by simp)
  | cons d ds ih =>
    unfold fields FieldDefinition.checksOf
    have hany : (done.any fun f => f.key == d.key) = true ↔ d.key ∈ done.map Field.key := by
      simp [List.any_eq_true]
    split
    · next hd =>
      refine .throw ?_
      rw [Check.firstFault?_cons, Check.fault?, if_pos (hany.1 hd)]
      rfl
    · next hd =>
      have hkey : d.key ∉ done.map Field.key := fun h => hd (hany.2 h)
      refine .after (Check.fault?_newKey_eq_none.2 hkey) ((undergoes_field d).bind fun f hf => ?_)
      simpa [hf] using ih (done ++ [f])

end Compilation

/-! ## Forms -/

open FieldDefinition

/-- A form is made of definitions if they are proper, and then its fields are in the order of the
    definitions. Otherwise the error is the first fault that the checks find. -/
theorem Workspace.compile_checked {H : Type} {w : Workspace H} (hc : w.engine.cache.Honest)
    (b : Binding) (ds : List FieldDefinition) :
    ((∃ f, (w.compile b ds).1 = .ok f) ↔ AreProper w.engine.registry ds) ∧
      (∀ e, (w.compile b ds).1 = .error e ↔
        Check.firstFault? w.engine.registry (checksOf [] ds) = some e) ∧
      ∀ f, (w.compile b ds).1 = .ok f →
        ∃ x, (w.compile b ds).2.store.form? f = some x ∧ x.fields.map Field.key = ds.map key := by
  obtain ⟨-, ho⟩ := Compilation.undergoes_fields (b := b) [] ds w rfl hc
  have hproper : Check.firstFault? w.engine.registry (checksOf [] ds) = none ↔
      AreProper w.engine.registry ds := by
    rw [Check.firstFault?_eq_none, checksOf_faultless]
    simp
  rw [← hproper, compile_eq]
  rw [List.map_nil, List.nil_append] at ho
  generalize (Compilation.fields b [] ds).outcome w = o,
    Check.firstFault? w.engine.registry (checksOf [] ds) = fault at ho ⊢
  obtain ⟨_, w'⟩ := o
  cases ho with
  | fault e => simp
  | done hkeys =>
    refine ⟨by simp, by simp, ?_⟩
    intro f hf
    cases hf
    exact ⟨⟨_, b⟩, (Roster.get?_add ..).trans (if_pos rfl), hkeys⟩

/-- Definitions with faults in a message, a converter, a key and a comparator. -/
def FieldDefinition.faulty : List FieldDefinition := [
  { key := "n", name := some "N", tooltip := none, isVisible := none, isEnabled := none,
    hiddenOnFalse := false,
    validators := [{
      comparator := "LessThan", argument := some (.template "\x7bBinding max\x7d"),
      isEnforced := none, message := some "over \x7bBinding max", nullPolicy := .skip,
      strict := none, converter := some "Missing", onTargetUpdated := none }] },
  { key := "n", name := none, tooltip := none, isVisible := none, isEnabled := none,
    hiddenOnFalse := false,
    validators := [{
      comparator := "Below", argument := none, isEnforced := none, message := none,
      nullPolicy := .skip, strict := none, converter := none, onTargetUpdated := none }] }]

theorem Workspace.compile_checked_faulty :
    (Engine.ofConfiguration .testing .empty).cache.Honest ∧
      (compile (H := Unit) ⟨.ofConfiguration .testing .empty, .empty⟩ ⟨none, none⟩ faulty).1 =
        .error (.template "n" "message" "over \x7bBinding max" (.unclosedBrace 5)) :=
  have hc : (Engine.ofConfiguration .testing .empty).cache.Honest :=
    Template.Cache.honest_empty _
  ⟨hc, ((compile_checked (w := ⟨_, .empty⟩) hc ⟨none, none⟩ faulty).2.1 _).2 (by decide +kernel)⟩

end LiveForm
