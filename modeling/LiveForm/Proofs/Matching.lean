/-
  Fields that show the same and follow the same objects.

  Where the proxies of two fields of one blueprint show just what the same objects say, what the fields
  show is identical, texts and errors included. And where nothing is left to be done, their proxies are
  subscribed to the same properties, all of objects to which their own objects lead.

  * `ProxyState.Renewed`: a proxy shows just what some objects say;
  * `Store.Reaches`, `Store.SameSubscriptions`: where the properties of objects lead, and two proxies that
    are subscribed to the same; `sameSubscriptions_of_renewed`;
  * `Session.Matches`: what two fields show is identical; `Sound.matches_anew`.
-/
import LiveForm.Proofs.Recompilation
import LiveForm.Proofs.Subscriptions

namespace LiveForm

variable {H : Type}

/-! ## Blueprints -/

/-- What all the proxies of a field are to show. -/
def Blueprint.Field.sources (F : Blueprint.Field) : List Source :=
  .template F.value :: (F.name.toList.map .template ++ F.tooltip.toList.map .template ++
    [F.visible, F.enabled]) ++ F.rules.flatMap Rule.sources

section

variable {α β : Type} {P : α → β → Prop}

theorem forall₂_toList {a : Option α} {b : Option β} (h : Option.Rel P a b) :
    List.Forall₂ P a.toList b.toList := by
  cases h with
  | none => exact .nil
  | some h => exact .cons h .nil

theorem Rule.Rel.forall₂_sources {r : Rule α} {r' : Rule β} (h : r.Rel P r') :
    List.Forall₂ P r.sources r'.sources := by
  refine .cons h.argument (.cons h.enforcement (forall₂_toList ?_))
  have hm := h.message
  generalize r.message = m, r'.message = m' at hm ⊢
  cases hm with
  | fixed => exact .none
  | live h => exact .some h

theorem forall₂_flatMap_sources {rs : List (Rule α)} {rs' : List (Rule β)}
    (h : List.Forall₂ (Rule.Rel P) rs rs') :
    List.Forall₂ P (rs.flatMap Rule.sources) (rs'.flatMap Rule.sources) :=
  List.rel_flatMap h fun _ _ => Rule.Rel.forall₂_sources

end

/-- The proxies of a field belong to what they are to show one by one. -/
theorem Store.BearsField.forall₂_proxiesOf {s : Store H} {P : Blueprint.Source → ProxyState H → Prop}
    {F : Blueprint.Field} {f : Field} (h : s.BearsField P F f) :
    List.Forall₂ (s.Bears P) F.sources (s.proxiesOf f) := by
  have label : ∀ {T : Option Template} {p : Option ProxyId},
      Option.Rel (fun t => s.Bears P (.template t)) T p →
      List.Forall₂ (s.Bears P) (T.toList.map .template) p.toList := fun h =>
    List.forall₂_map_left_iff.2 (forall₂_toList h)
  have conditions : List.Forall₂ (s.Bears P) [F.visible, F.enabled] [f.visible, f.enabled] :=
    .cons h.visible (.cons h.enabled .nil)
  have labels := List.rel_append (List.rel_append (label h.name) (label h.tooltip)) conditions
  exact List.rel_append (.cons h.value labels) (forall₂_flatMap_sources h.forall₂_rulesOf)

/-! ## Proxies that show just what objects say -/

/-- A proxy is computed from what it is to show, and shows just its value in a store. It follows the
    objects of a binding, and it is not disposed of. -/
structure ProxyState.Renewed (ev : Evaluator) (s₀ s : Store H) (b : Binding) (X : Blueprint.Source)
    (x : ProxyState H) : Prop where
  fits : X.Fits ev s₀ x.source
  cached : x.cached = s.sourceValue b x.source
  binding : x.source.isConstant = false → x.binding = b
  disposed : x.disposed = false

namespace ProxyState.Renewed

variable {ev : Evaluator} {s₀ s : Store H} {b : Binding} {X : Blueprint.Source} {x : ProxyState H}

theorem of_exact (h : x.Exact ev s b X) : x.Renewed ev s s b X :=
  ⟨h.fits, h.cached, h.binding, h.disposed⟩

theorem live (h : x.Renewed ev s₀ s b X) : x.Live ev s₀ s b X := by
  refine ⟨h.fits, fun v hv => ?_, ?_⟩
  · rw [h.cached, hv]
    rfl
  · rw [h.cached]
    exact Value.same_refl _

end ProxyState.Renewed

namespace Store

variable {s₀ s₁ s t u : Store H} {ev : Evaluator} {b : Binding} {X : Blueprint.Source} {p q : ProxyId}

theorem valueOf_of_renewed {T : Template}
    (h : s.Bears (ProxyState.Renewed ev s₀ u b) (.template T) p) :
    s.valueOf p = u.sourceValue b (.template ev T) := by
  obtain ⟨x, hx, hr⟩ := h
  rw [valueOf_eq hx, hr.cached, hr.fits.eq_template]

/-- A proxy of a document shows its value, whenever that has been made. -/
theorem exists_newValue_of_renewed {j : Json}
    (h : s.Bears (ProxyState.Renewed ev s₀ u b) (.document j) p) :
    ∃ r : Store H, s.valueOf p = (r.newValue j).2 := by
  obtain ⟨x, hx, hr⟩ := h
  obtain ⟨r, -, hs⟩ := hr.fits.eq_document
  exact ⟨r, by rw [valueOf_eq hx, hr.live.steady _ hs]⟩

/-- Proxies of one source show values with the same text. -/
theorem format_of_renewed (c : Culture) (hp : s.Bears (ProxyState.Renewed ev s₀ u b) X p)
    (hq : t.Bears (ProxyState.Renewed ev s₁ u b) X q) :
    c.format (t.valueOf q) = c.format (s.valueOf p) := by
  cases X with
  | template T => rw [valueOf_of_renewed hp, valueOf_of_renewed hq]
  | document j =>
    obtain ⟨r, hr⟩ := exists_newValue_of_renewed hp
    obtain ⟨r', hr'⟩ := exists_newValue_of_renewed hq
    rw [hr, hr', format_newValue c r' r j]

mutual

/-- The numbers in the value of a document are written in the same way whenever it is made. -/
theorem numerals_newValue (s t : Store H) (j : Json) :
    (s.newValue j).2.numerals = (t.newValue j).2.numerals := by
  match j with
  | .null | .boolean _ | .integer _ | .float _ | .string _ | .object _ => rfl
  | .array items => exact numerals_newValues s t items

theorem numerals_newValues (s t : Store H) (js : List Json) :
    Value.numeralsOfItems (s.newValues js).2 = Value.numeralsOfItems (t.newValues js).2 := by
  match js with
  | [] => rfl
  | j :: js =>
    have rest := numerals_newValues (s.newValue j).1 (t.newValue j).1 js
    simp only [newValues, Value.numeralsOfItems] at rest ⊢
    rw [rest, numerals_newValue s t j]

end

/-- The numbers in messages of one source are written alike. -/
theorem sameWords_of_renewed {m : Message Blueprint.Source} {m' m'' : Message ProxyId}
    (h : m.Rel (s.Bears (ProxyState.Renewed ev s₀ u b)) m')
    (h' : m.Rel (t.Bears (ProxyState.Renewed ev s₁ u b)) m'') : s.SameWords t m' m'' := by
  cases h with
  | fixed text => exact nofun
  | @live X p hp =>
    cases h' with
    | @live _ q hq =>
      rintro _ ⟨⟩ _ ⟨⟩
      cases X with
      | template T => rw [valueOf_of_renewed hp, valueOf_of_renewed hq]
      | document j =>
        obtain ⟨r, hr⟩ := exists_newValue_of_renewed hp
        obtain ⟨r', hr'⟩ := exists_newValue_of_renewed hq
        rw [hr, hr', numerals_newValue r r' j]

/-! ## Subscriptions -/

/-- The objects of a binding lead to an object. -/
inductive Reaches (s : Store H) (b : Binding) : ObjectId → Prop
  | root {r : Root} {o : ObjectId} (h : b.root r = some o) : Reaches s b o
  | property {o r : ObjectId} {name : String} {v : Value} (ho : Reaches s b o)
      (hv : s.property o name = some v) (hr : r ∈ v.objects) : Reaches s b r

/-- Two proxies of two stores are subscribed to the same properties of the same objects, and to each of
    them once. -/
structure SameSubscriptions (s t : Store H) (p q : ProxyId) : Prop where
  same : ∀ o name, (∃ n, s.Subscribed p o n name) ↔ ∃ n, t.Subscribed q o n name
  once : ∀ o name n m, s.Subscribed p o n name → s.Subscribed p o m name → n = m
  once' : ∀ o name n m, t.Subscribed q o n name → t.Subscribed q o m name → n = m

/-- Proxies that are to follow objects that are alive do so. -/
structure Attentive (s : Store H) : Prop where
  ledger : ∀ p, s.Ledger p
  attached : ∀ p x, s.proxy? p = some x → x.disposed = false → s.Holds x.binding → s.Attached p x

theorem Met.reaches {T : Template} {o : ObjectId} {name : String} (h : s.Met b T o name) :
    s.Reaches b o := by
  obtain ⟨path, -, o₀, ho₀, walk⟩ := h
  have root : s.Reaches b o₀ := .root (scope_root_eq_some_iff.1 ho₀).1
  clear ho₀
  generalize path.segments = ss at walk
  induction walk with
  | here => exact root
  | @next o' name' ss r o name hr _ ih =>
    exact ih (.property root hr (List.mem_singleton.2 rfl))

/-- A proxy of a template is subscribed to what is met on the way along its paths, and nobody else is. -/
theorem Attentive.subscribed_iff (h : s.Attentive) (holds : s.Holds b) {T : Template}
    (hp : s.Bears (ProxyState.Renewed ev s₀ u b) (.template T) p) :
    (∀ o name, (∃ n, s.Subscribed p o n name) ↔ s.Met b T o name) ∧
      ∀ o name n m, s.Subscribed p o n name → s.Subscribed p o m name → n = m := by
  obtain ⟨x, hx, hr⟩ := hp
  have source := hr.fits.eq_template
  have binding : x.binding = b := hr.binding (by rw [source]; rfl)
  have exact_ := (h.attached p x hx hr.disposed (binding ▸ holds)).exact hx (h.ledger p) source
  rw [← binding]
  refine ⟨fun o name => ⟨fun ⟨n, hn⟩ => exact_.met o n name hn, fun hm => ?_⟩,
    fun o name n m hn hm => ?_⟩
  · exact (exact_.one o name hm).exists
  · exact (exact_.one o name (exact_.met o n name hn)).unique hn hm

theorem Attentive.not_subscribed (h : s.Attentive) {j : Json}
    (hp : s.Bears (ProxyState.Renewed ev s₀ u b) (.document j) p) (o : ObjectId) (n : Nat)
    (name : String) : ¬ s.Subscribed p o n name := by
  intro hs
  obtain ⟨x, hx, hr⟩ := hp
  obtain ⟨r, -, source⟩ := hr.fits.eq_document
  obtain ⟨y, ev', T, hy, hT, -⟩ := (h.ledger p).subscriber hs
  obtain rfl := Option.some.inj (hx.symm.trans hy)
  rw [source] at hT
  cases hT

/-- Where the same is met, proxies of one source are subscribed to the same. -/
theorem sameSubscriptions_of_renewed (hs : s.Attentive) (ht : t.Attentive) (holds : s.Holds b)
    (holds' : t.Holds b) (met : ∀ T o name, t.Met b T o name ↔ s.Met b T o name)
    (hp : s.Bears (ProxyState.Renewed ev s₀ u b) X p)
    (hq : t.Bears (ProxyState.Renewed ev s₁ u b) X q) : s.SameSubscriptions t p q := by
  cases X with
  | template T =>
    obtain ⟨same, once⟩ := hs.subscribed_iff holds hp
    obtain ⟨same', once'⟩ := ht.subscribed_iff holds' hq
    exact ⟨fun o name => ((same o name).trans (met T o name).symm).trans (same' o name).symm, once, once'⟩
  | document j =>
    have none := hs.not_subscribed hp
    have none' := ht.not_subscribed hq
    exact ⟨fun o name => ⟨fun ⟨n, hn⟩ => absurd hn (none o n name),
        fun ⟨n, hn⟩ => absurd hn (none' o n name)⟩,
      fun o name n _ hn => absurd hn (none o n name), fun o name n _ hn => absurd hn (none' o n name)⟩

/-- A proxy is subscribed only to objects to which its own objects lead. -/
theorem Attentive.reaches (h : s.Attentive) (holds : s.Holds b)
    (hp : s.Bears (ProxyState.Renewed ev s₀ u b) X p) {o : ObjectId} {n : Nat} {name : String}
    (hs : s.Subscribed p o n name) : s.Reaches b o := by
  cases X with
  | template T => exact (((h.subscribed_iff holds hp).1 o name).1 ⟨n, hs⟩).reaches
  | document j => exact absurd hs (h.not_subscribed hp o n name)

/-- What is met among objects that were there before is still met when something is added. -/
theorem Adds.met_iff (h : s.Adds t) (hs : s.Sealed) (hb : s.Knows b) (T : Template) (o : ObjectId)
    (name : String) : t.Met b T o name ↔ s.Met b T o name := by
  have watches : (t.scope b).watches T = (s.scope b).watches T :=
    Scope.watches_congr (h.root_scope hb) fun z hz => h.property
      (hs.lives_of_mem_watchesOf (x := .fresh (.template default T) b .null 0) z hz) z.2
  rw [Store.met_iff, Store.met_iff, watches]

end Store

/-- Where nothing is left to be done, proxies that are to follow objects do so. -/
theorem Situation.Sound.attentive {ev : Evaluator} {c : Situation H} (h : c.Sound ev)
    (idle : c.tasks = []) : c.store.Attentive where
  ledger := h.ledger
  attached p x hx hd hb := by
    rcases h.follows p x hx hd hb with ⟨ha, -⟩ | ⟨-, hn⟩
    · exact ha
    · exact absurd idle hn.not_idle

/-! ## Fields -/

namespace Session

variable {s t : Session}

/-- What two fields of two sessions show is identical, and their proxies are subscribed to the same. -/
structure Matches (s t : Session) (x y : Field) : Prop where
  key : (t.fieldView y).key = (s.fieldView x).key
  value : (t.fieldView y).value = (s.fieldView x).value
  name : (t.fieldView y).name = (s.fieldView x).name
  tooltip : (t.fieldView y).tooltip = (s.fieldView x).tooltip
  visibility : (t.fieldView y).visibility = (s.fieldView x).visibility
  enabled : (t.fieldView y).enabled = (s.fieldView x).enabled
  result : (t.fieldView y).result = (s.fieldView x).result
  subscriptions : List.Forall₂ (s.store.SameSubscriptions t.store) (s.store.proxiesOf x)
    (t.store.proxiesOf y)

/-- Labels of one template have the same text where they show just what the same objects say. -/
theorem map_textOf_of_renewed {ev : Evaluator} {b : Binding} {s₀ s₁ u : Store Script}
    {w : Workspace Script} (culture : w.engine.culture = s.engine.culture) {T : Option Template}
    {p q : Option ProxyId}
    (hp : Option.Rel (fun t => s.store.Bears (ProxyState.Renewed ev s₀ u b) (.template t)) T p)
    (hq : Option.Rel (fun t => w.store.Bears (ProxyState.Renewed ev s₁ u b) (.template t)) T q) :
    q.map ({ s with workspace := w } : Session).textOf = p.map s.textOf := by
  cases hp with
  | none =>
    cases hq
    rfl
  | some hp =>
    cases hq with
    | some hq =>
      have text := Store.format_of_renewed w.engine.culture hp hq
      exact congrArg some (text.trans (congrArg (Culture.format · _) culture))

/-- A field that shows just what its objects say matches the one that is made anew, as long as its value
    has no objects of documents. -/
theorem Sound.matches_anew (h : s.Sound) (idle : s.agenda = []) {b : Binding} (holds : s.store.Holds b)
    {s₀ : Store Script} {w : Workspace Script} (engine : s.engine.Later w.engine)
    (adds : s.store.Adds w.store) (attentive : w.store.Attentive) {F : Blueprint.Field} {f y : Field}
    (renewed : s.store.BearsField (ProxyState.Renewed s.engine.evaluator s₀ s.store b) F f)
    (judged : s.resultOf f.validator =
      s.store.validate s.engine.evaluator f.value (s.store.rulesOf f))
    (apart : ∀ r ∈ s.store.rulesOf f, s.store.isConstant r.argument →
      ∀ o ∈ (s.store.valueOf f.value).objects, o ∉ (s.store.valueOf r.argument).objects)
    (made : w.store.BearsField (ProxyState.Exact s.engine.evaluator s.store b) F y)
    (fresh : w.store.Fresh s.engine.evaluator (.validator y.validator)) :
    s.Matches { s with workspace := w } f y := by
  have anew : w.store.BearsField (ProxyState.Renewed s.engine.evaluator s.store s.store b) F y :=
    made.imp (fun z hz => ⟨z, hz, rfl, rfl⟩) fun X p _ ⟨z, hz, he⟩ => ⟨z, hz, .of_exact he⟩
  have live : s.store.BearsField (ProxyState.Live s.engine.evaluator s₀ s.store b) F f :=
    renewed.imp (fun z hz => ⟨z, hz, rfl, rfl⟩) fun X p _ ⟨z, hz, hr⟩ => ⟨z, hz, hr.live⟩
  have agrees := h.agrees engine live judged made fresh
  have value : w.store.valueOf y.value = s.store.valueOf f.value := by
    rw [Store.valueOf_of_renewed renewed.value, Store.valueOf_of_renewed anew.value]
  have words := forall₂_join renewed.forall₂_rulesOf anew.forall₂_rulesOf fun _ _ hr _ hR hR' =>
    Store.sameWords_of_renewed hR.message hR'.message
  have culture : w.engine.culture = s.engine.culture :=
    congrArg Configuration.culture engine.configuration
  have met := adds.met_iff h.situation.toOrdered.sealed fun r o ho => (holds r o ho).lt_next
  exact {
    key := agrees.key
    value := value
    name := map_textOf_of_renewed culture renewed.name anew.name
    tooltip := map_textOf_of_renewed culture renewed.tooltip anew.tooltip
    visibility := agrees.visibility
    enabled := agrees.enabled
    result := agrees.errors (fun r hr _ => ⟨.of_eq value.symm, apart r hr⟩)
      (words.imp fun _ _ same _ _ => same)
    subscriptions := forall₂_join renewed.forall₂_proxiesOf anew.forall₂_proxiesOf
      fun X p _ q hp hq => Store.sameSubscriptions_of_renewed (h.situation.attentive
        (tasks_of_idle idle)) attentive holds (adds.holds holds) met hp hq }

end Session

end LiveForm
