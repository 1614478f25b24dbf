/-
  What the making of forms keeps.

  Forms are made by steps of four kinds: proxies of templates, proxies of constants, values of documents,
  and validators of proxies that have been made. What each of them keeps is kept by the making of a
  whole form, also where that ends with an error after some of the steps.

  * `Compilation.Kept`: the steps keep a property of stores;
  * `Kept.fields` and `Kept.compile`: so does the making of fields and forms.
-/
import LiveForm.Proofs.Making

namespace LiveForm

variable {H : Type} {b : Binding} {P : Store H → Prop} {made : ProxyId → Prop}

namespace Compilation

/-- Every step keeps a property of stores, and all the proxies that are made are of some kind. -/
structure Kept (b : Binding) (P : Store H → Prop) (made : ProxyId → Prop) : Prop where
  template : ∀ {s : Store H} (ev : Evaluator) (t : Template) (limit : Nat), P s →
    P (s.newProxy (.template ev t) b limit).1 ∧ made (s.newProxy (.template ev t) b limit).2
  constant : ∀ {s : Store H} (v : Value), P s →
    P (s.newConstant v).1 ∧ made (s.newConstant v).2
  document : ∀ {s : Store H} (j : Json), P s → P (s.newValue j).1
  validator : ∀ {s : Store H} (ev : Evaluator) {field : ProxyId} {rules : List (Rule ProxyId)}
    (limit : Nat), P s → (∀ p ∈ field :: rules.flatMap Rule.sources, made p) →
    P (s.newValidator ev field rules limit).1

/-- Steps keep a property of stores, and what they give is as it should be. -/
def Keeps {α : Type} (P : Store H → Prop) (m : Compilation H α) (ok : α → Prop) : Prop :=
  ∀ w : Workspace H, P w.store →
    P (m.outcome w).2.store ∧ ∀ a, (m.outcome w).1 = .ok a → ok a

variable {α β : Type} {m : Compilation H α} {ok : α → Prop} {ok' : β → Prop}

theorem Keeps.pure {a : α} (h : ok a) : Keeps P (Pure.pure a : Compilation H α) ok := by
  intro w hw
  refine ⟨hw, ?_⟩
  intro a' e
  cases e
  exact h

theorem Keeps.throw {e : FormError} : Keeps P (throw e : Compilation H α) ok :=
  fun _ hw => ⟨hw, nofun⟩

theorem Keeps.get_bind {f : Workspace H → Compilation H α} (h : ∀ w, Keeps P (f w) ok) :
    Keeps P (get >>= f) ok := fun w => h w w

theorem Keeps.bind {f : α → Compilation H β} (hm : Keeps P m ok)
    (hf : ∀ a, ok a → Keeps P (f a) ok') : Keeps P (m >>= f) ok' := by
  intro w hw
  obtain ⟨h₁, h₂⟩ := hm w hw
  rw [outcome_bind]
  rcases hm' : m.outcome w with ⟨e | a, w'⟩
  · rw [hm'] at h₁
    exact ⟨h₁, nofun⟩
  · rw [hm'] at h₁ h₂
    exact hf a (h₂ a rfl) w' h₁

theorem Keeps.mapM {f : α → Compilation H β} (hf : ∀ a, Keeps P (f a) ok') (as : List α) :
    Keeps P (as.mapM f) fun bs => ∀ x ∈ bs, ok' x := by
  induction as with
  | nil =>
    rw [List.mapM_nil]
    exact .pure nofun
  | cons a as ih =>
    rw [List.mapM_cons]
    refine (hf a).bind fun x hx => ih.bind fun xs hxs => .pure fun y hy => ?_
    rcases List.mem_cons.1 hy with rfl | hy
    · exact hx
    · exact hxs y hy

namespace Kept

theorem template_keeps (h : Kept b P made) (key part source : String) :
    Keeps P (Compilation.template b key part source) made := by
  intro w hw
  have hb : P (w.bind source b w.engine.configuration.maxPasses).2.store ∧
      ∀ p, (w.bind source b w.engine.configuration.maxPasses).1 = .ok p → made p := by
    unfold Workspace.bind
    split
    · exact ⟨hw, nofun⟩
    · next t g _ =>
      obtain ⟨h₁, h₂⟩ := h.template g.evaluator t w.engine.configuration.maxPasses hw
      refine ⟨h₁, ?_⟩
      intro p hp
      cases hp
      exact h₂
  rcases hw' : w.bind source b w.engine.configuration.maxPasses with ⟨r, w'⟩
  rw [hw'] at hb
  rw [outcome_template b key part source w hw']
  refine ⟨hb.1, ?_⟩
  intro p hp
  cases r with
  | ok q => exact hb.2 p (congrArg Except.ok (Except.ok.inj hp))
  | error e => cases hp

theorem constant_keeps (h : Kept b P made) (v : Value) :
    Keeps P (Compilation.constant v) made := by
  intro w hw
  obtain ⟨h₁, h₂⟩ := h.constant v hw
  refine ⟨h₁, ?_⟩
  intro p hp
  cases hp
  exact h₂

theorem document_keeps (h : Kept b P made) (j : Json) :
    Keeps P (Compilation.document j) fun _ => True :=
  fun _ hw => ⟨h.document j hw, fun _ _ => trivial⟩

theorem template?_keeps (h : Kept b P made) (key part : String) (source : Option String) :
    Keeps P (Compilation.template? b key part source) fun _ => True := by
  cases source with
  | none => exact .pure trivial
  | some source => exact (h.template_keeps key part source).bind fun _ _ => .pure trivial

theorem condition_keeps (h : Kept b P made) (key part : String) (source : Option String) :
    Keeps P (Compilation.condition b key part source) made := by
  cases source with
  | none => exact h.constant_keeps _
  | some source => exact h.template_keeps key part source

theorem argument_keeps (h : Kept b P made) (key : String) (d : Option ArgumentDefinition) :
    Keeps P (Compilation.argument b key d) made := by
  match d with
  | none => exact h.constant_keeps _
  | some (.template source) => exact h.template_keeps _ _ _
  | some (.value j) => exact (h.document_keeps j).bind fun v _ => h.constant_keeps v

theorem message_keeps (h : Kept b P made) (key comparator : String) (source : Option String) :
    Keeps P (Compilation.message b key comparator source) fun m => ∀ p ∈ m.source?, made p := by
  cases source with
  | none => exact .pure nofun
  | some source =>
    refine (h.template_keeps key "message" source).bind fun p hp => .get_bind fun w => ?_
    have live : ∀ q ∈ (Message.live p).source?, made q := by
      intro q hq
      cases hq
      exact hp
    split
    · refine .pure ?_
      split
      · exact nofun
      · exact live
    · exact .pure live

theorem converter_keeps (key : String) (name : Option String) :
    Keeps P (Compilation.converter (H := H) key name) fun _ => True := by
  cases name with
  | none => exact .pure trivial
  | some name =>
    refine .get_bind fun w => ?_
    split
    · split
      · exact .pure trivial
      · exact .throw
    · exact .throw

theorem rule_keeps (h : Kept b P made) (key : String) (d : ValidatorDefinition) :
    Keeps P (Compilation.rule b key d) fun r => ∀ p ∈ r.sources, made p := by
  refine .get_bind fun w => ?_
  split
  · exact .throw
  · refine (h.argument_keeps key d.argument).bind fun argument ha =>
      (h.condition_keeps key "isEnforced" d.isEnforced).bind fun enforcement he =>
      (h.message_keeps key d.comparator d.message).bind fun message hm =>
      (converter_keeps key d.converter).bind fun converter _ => .pure fun p hp => ?_
    rcases List.mem_cons.1 hp with rfl | hp
    · exact ha
    rcases List.mem_cons.1 hp with rfl | hp
    · exact he
    · exact hm p (Option.mem_toList.1 hp)

theorem validator_keeps (h : Kept b P made) {value : ProxyId} {rules : List (Rule ProxyId)}
    (hp : ∀ p ∈ value :: rules.flatMap Rule.sources, made p) :
    Keeps P (Compilation.validator value rules) fun _ => True :=
  fun w hw => ⟨h.validator w.engine.evaluator w.engine.configuration.maxPasses hw hp,
    fun _ _ => trivial⟩

theorem field_keeps (h : Kept b P made) (d : FieldDefinition) :
    Keeps P (Compilation.field b d) fun _ => True := by
  refine (h.template_keeps d.key "key" (keyTemplate d.key)).bind fun value hv =>
    (h.template?_keeps d.key "name" d.name).bind fun name _ =>
    (h.template?_keeps d.key "tooltip" d.tooltip).bind fun tooltip _ =>
    (h.condition_keeps d.key "isVisible" d.isVisible).bind fun visible _ =>
    (h.condition_keeps d.key "isEnabled" d.isEnabled).bind fun enabled _ =>
    (Keeps.mapM (h.rule_keeps d.key) d.validators).bind fun rules hr =>
    (h.validator_keeps fun p hp => ?_).bind fun v _ => .pure trivial
  rcases List.mem_cons.1 hp with rfl | hp
  · exact hv
  · obtain ⟨r, hm, hp⟩ := List.mem_flatMap.1 hp
    exact hr r hm p hp

theorem fields_keeps (h : Kept b P made) (done : List Field) (ds : List FieldDefinition) :
    Keeps P (Compilation.fields b done ds) fun _ => True := by
  induction ds generalizing done with
  | nil => exact .pure trivial
  | cons d ds ih =>
    unfold Compilation.fields
    split
    · exact .throw
    · exact (h.field_keeps d).bind fun f _ => ih _

/-- The fields of a form, however many of them are made before an error, leave a store with the
    property. -/
theorem fields (h : Kept b P made) (ds : List FieldDefinition) {w : Workspace H} (hw : P w.store) :
    P ((Compilation.fields b [] ds).outcome w).2.store := (h.fields_keeps [] ds w hw).1

end Kept

end Compilation

namespace Workspace

variable {w : Workspace H}

/-- A form that fails leaves a store with the property. -/
theorem compile_error_keeps (h : Compilation.Kept b P made) {ds : List FieldDefinition}
    (hw : P w.store) {e : FormError} (he : (w.compile b ds).1 = .error e) :
    P (w.compile b ds).2.store := by
  have hf := h.fields ds hw
  rw [compile_eq] at he ⊢
  rcases hw' : (Compilation.fields b [] ds).outcome w with ⟨e' | fs, w'⟩
  · rw [hw'] at hf
    exact hf
  · rw [hw'] at he
    cases he

end Workspace

end LiveForm
