/-
  Blueprints: what definitions of fields ask for.

  Whether a form can be made of definitions, and of which templates and values it is made, depends on
  the configuration and the filters alone, and not on the objects or on what has been made before. A
  blueprint says all that, with what the proxies are to show in the places of the proxies.

  * `Blueprint.ofDefinitions` reads definitions, with the faults that the making of a form finds;
  * `Rule.Rel`: two rules that differ in their sources alone.
-/
import LiveForm.Form.Compilation
import Mathlib.Data.List.Forall2

namespace LiveForm

namespace Blueprint

/-- What a proxy is to show: the value of a document or of a template. -/
inductive Source where
  | document (j : Json)
  | template (t : Template)

structure Field where
  key : String
  value : Template
  name : Option Template
  tooltip : Option Template
  visible : Source
  enabled : Source
  hiddenOnFalse : Bool
  rules : List (Rule Source)

/-- Reads a template of a field; `part` names what it is for. -/
def read (key part source : String) : Except FormError Template :=
  (Template.parse source).mapError (.template key part source)

/-- A template that may be absent. -/
def read? (key part : String) : Option String → Except FormError (Option Template)
  | none => .ok none
  | some source => some <$> read key part source

/-- A condition; one that is absent always holds. -/
def condition (key part : String) : Option String → Except FormError Source
  | none => .ok (.document (.boolean true))
  | some source => .template <$> read key part source

/-- The argument of a rule. -/
def argument (key : String) : Option ArgumentDefinition → Except FormError Source
  | none => .ok (.document .null)
  | some (.template source) => .template <$> read key "argument" source
  | some (.value j) => .ok (.document j)

/-- A scope in which nothing can be read. -/
def nowhere : Scope := ⟨fun _ _ => none, fun _ => none⟩

/-- The message that a template gives: one that reads nothing gives a fixed text. -/
def messageOf (ev : Evaluator) (t : Template) : Message Source :=
  if t.isConstant then .fixed (ev.culture.format (ev.valueOf nowhere t.root)) else .live (.template t)

/-- The message of a rule. -/
def message (ev : Evaluator) (key comparator : String) :
    Option String → Except FormError (Message Source)
  | none => .ok (.fixed (comparator ++ " validation failed"))
  | some source => messageOf ev <$> read key "message" source

/-- The filter of a name that takes a value without arguments. -/
def converter (r : Registry) (key : String) : Option String → Except FormError (Option Filter)
  | none => .ok none
  | some name =>
    match r.resolve name with
    | some f => if f.arity.accepts 0 then .ok (some f) else .error (.unknownConverter key name)
    | none => .error (.unknownConverter key name)

/-- A rule of a field. -/
def rule (c : Configuration) (r : Registry) (key : String) (d : ValidatorDefinition) :
    Except FormError (Rule Source) :=
  match Comparator.ofName? d.comparator with
  | none => .error (.unknownComparator key d.comparator)
  | some comparator => do
    let argument ← argument key d.argument
    let enforcement ← condition key "isEnforced" d.isEnforced
    let message ← message ⟨r, c.culture⟩ key d.comparator d.message
    let converter ← converter r key d.converter
    return {
      comparator := comparator
      argument := argument
      enforcement := enforcement
      message := message
      nullPolicy := d.nullPolicy
      strict := d.strict.getD c.strict
      onTargetUpdated := d.onTargetUpdated.getD c.onTargetUpdated
      converter := converter }

/-- A field. -/
def field (c : Configuration) (r : Registry) (d : FieldDefinition) : Except FormError Field := do
  let value ← read d.key "key" (Compilation.keyTemplate d.key)
  let name ← read? d.key "name" d.name
  let tooltip ← read? d.key "tooltip" d.tooltip
  let visible ← condition d.key "isVisible" d.isVisible
  let enabled ← condition d.key "isEnabled" d.isEnabled
  let rules ← d.validators.mapM (rule c r d.key)
  return {
    key := d.key
    value := value
    name := name
    tooltip := tooltip
    visible := visible
    enabled := enabled
    hiddenOnFalse := d.hiddenOnFalse
    rules := rules }

/-- Fields; no two may have the same key. -/
def fields (c : Configuration) (r : Registry) (done : List Field) :
    List FieldDefinition → Except FormError (List Field)
  | [] => .ok done
  | d :: ds => do
    if done.any fun f => f.key == d.key then .error (.duplicateField d.key)
    else fields c r (done ++ [← field c r d]) ds

/-- The fields of definitions. -/
def ofDefinitions (c : Configuration) (r : Registry) :
    List FieldDefinition → Except FormError (List Field) := fields c r []

end Blueprint

/-! ## Rules with other sources -/

variable {α β γ : Type}

theorem optionRel_imp {R S : α → β → Prop} {a : Option α} {b : Option β} (h : Option.Rel R a b)
    (hRS : ∀ x, ∀ y ∈ b, R x y → S x y) : Option.Rel S a b := by
  cases h with
  | none => exact .none
  | some h => exact .some (hRS _ _ rfl h)

theorem optionRel_join {R : α → β → Prop} {S : α → γ → Prop} {T : β → γ → Prop} {a : Option α}
    {b : Option β} {c : Option γ} (hR : Option.Rel R a b) (hS : Option.Rel S a c)
    (h : ∀ x y z, R x y → S x z → T y z) : Option.Rel T b c := by
  cases hR with
  | none =>
    cases hS
    exact .none
  | some hxy =>
    cases hS with
    | some hxz => exact .some (h _ _ _ hxy hxz)

theorem forall₂_imp {R S : α → β → Prop} {as : List α} {bs : List β} (h : List.Forall₂ R as bs)
    (hRS : ∀ a, ∀ b ∈ bs, R a b → S a b) : List.Forall₂ S as bs := by
  induction h with
  | nil => exact .nil
  | cons hab _ ih =>
    exact .cons (hRS _ _ (List.mem_cons_self ..) hab)
      (ih fun a b hb => hRS a b (List.mem_cons_of_mem _ hb))

/-- Two lists that both belong to a third one belong together. -/
theorem forall₂_join {R : α → β → Prop} {S : α → γ → Prop} {T : β → γ → Prop} {as : List α}
    {bs : List β} {cs : List γ} (hR : List.Forall₂ R as bs) (hS : List.Forall₂ S as cs)
    (h : ∀ a, ∀ b ∈ bs, ∀ c, R a b → S a c → T b c) : List.Forall₂ T bs cs := by
  induction hR generalizing cs with
  | nil =>
    cases hS
    exact .nil
  | cons hab _ ih =>
    cases hS with
    | cons hac hS =>
      exact .cons (h _ _ (List.mem_cons_self ..) _ hab hac)
        (ih hS fun a b hb => h a b (List.mem_cons_of_mem _ hb))

/-- Two messages with related sources. -/
inductive Message.Rel (P : α → β → Prop) : Message α → Message β → Prop
  | fixed (text : String) : Rel P (.fixed text) (.fixed text)
  | live {a : α} {b : β} (h : P a b) : Rel P (.live a) (.live b)

/-- Two rules with related sources that are the same otherwise. -/
structure Rule.Rel (P : α → β → Prop) (r : Rule α) (r' : Rule β) : Prop where
  comparator : r'.comparator = r.comparator
  argument : P r.argument r'.argument
  enforcement : P r.enforcement r'.enforcement
  message : r.message.Rel P r'.message
  nullPolicy : r'.nullPolicy = r.nullPolicy
  strict : r'.strict = r.strict
  onTargetUpdated : r'.onTargetUpdated = r.onTargetUpdated
  converter : r'.converter = r.converter

variable {P Q : α → β → Prop}

theorem Message.Rel.imp {m : Message α} {m' : Message β} (h : m.Rel P m')
    (hPQ : ∀ a, ∀ b ∈ m'.source?, P a b → Q a b) : m.Rel Q m' := by
  cases h with
  | fixed text => exact .fixed text
  | live h => exact .live (hPQ _ _ rfl h)

theorem Rule.Rel.imp {r : Rule α} {r' : Rule β} (hPQ : ∀ a, ∀ b ∈ r'.sources, P a b → Q a b)
    (h : r.Rel P r') : r.Rel Q r' :=
  { h with
    argument := hPQ _ _ (by simp [sources]) h.argument
    enforcement := hPQ _ _ (by simp [sources]) h.enforcement
    message := h.message.imp fun a b hb => hPQ a b (by
      simp only [sources, List.mem_cons, Option.mem_toList]
      exact Or.inr (Or.inr hb)) }

/-- Two rules that differ from a third one in their sources alone. -/
theorem Rule.Rel.join {S : α → γ → Prop} {T : β → γ → Prop} {r : Rule α} {r' : Rule β} {r'' : Rule γ}
    (h : r.Rel P r') (h' : r.Rel S r'') (hT : ∀ a b c, P a b → S a c → T b c) : r'.Rel T r'' where
  comparator := h'.comparator.trans h.comparator.symm
  argument := hT _ _ _ h.argument h'.argument
  enforcement := hT _ _ _ h.enforcement h'.enforcement
  message := by
    have hm := h.message
    have hm' := h'.message
    generalize r.message = m, r'.message = m', r''.message = m'' at hm hm'
    cases hm with
    | fixed text =>
      cases hm'
      exact .fixed text
    | live hab =>
      cases hm' with
      | live hac => exact .live (hT _ _ _ hab hac)
  nullPolicy := h'.nullPolicy.trans h.nullPolicy.symm
  strict := h'.strict.trans h.strict.symm
  onTargetUpdated := h'.onTargetUpdated.trans h.onTargetUpdated.symm
  converter := h'.converter.trans h.converter.symm

/-- Every source of a rule is there on the other side. -/
theorem Rule.Rel.exists_source {r : Rule α} {r' : Rule β} (h : r.Rel P r') {b : β}
    (hb : b ∈ r'.sources) : ∃ a, P a b := by
  rcases List.mem_cons.1 hb with rfl | hb
  · exact ⟨_, h.argument⟩
  rcases List.mem_cons.1 hb with rfl | hb
  · exact ⟨_, h.enforcement⟩
  have hm := h.message
  generalize r.message = m, r'.message = m' at hm hb
  cases hm with
  | fixed text => cases hb
  | live h =>
    obtain rfl := List.mem_singleton.1 hb
    exact ⟨_, h⟩

theorem Rule.exists_source_of_forall₂ {rs : List (Rule α)} {rs' : List (Rule β)}
    (h : List.Forall₂ (Rule.Rel P) rs rs') {b : β} (hb : b ∈ rs'.flatMap Rule.sources) :
    ∃ a, P a b := by
  induction h with
  | nil => cases hb
  | cons hr _ ih =>
    rw [List.flatMap_cons, List.mem_append] at hb
    exact hb.elim hr.exists_source ih

end LiveForm
