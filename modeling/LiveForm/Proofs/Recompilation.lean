/-
  Forms show what forms made anew would show.

  When nothing is going on, a form and one that is made of the same definitions for the same objects at
  that moment have the same fields, and these are alike, whatever has happened before. Neither the form
  nor any part of it may have been disposed of or cut off, nor bound to other objects than the form.

  A proxy replaces its value only by one that is not equal to it. So an old value may stay where a
  proxy made anew shows an equal one, with its numbers written otherwise. This can be seen in labels, in
  messages, and in what rules say that look at how a number is written: `texts_of_replaced_number` has
  a case of each.

  * `Session.Compiled`: a form has been made of definitions;
  * `Session.Whole`: a form is in order;
  * `Compiled.live_agrees`: the result.
-/
import LiveForm.Proofs.Comparing
import LiveForm.Proofs.Realizing
import LiveForm.Proofs.Revalidation

namespace LiveForm

variable {H : Type}

/-! ## Proxies of live forms -/

/-- A proxy is computed from what it is to show, and shows just that if it is constant. -/
structure ProxyState.Made (ev : Evaluator) (s₀ : Store H) (X : Blueprint.Source) (x : ProxyState H) :
    Prop where
  fits : X.Fits ev s₀ x.source
  steady : x.Steady

/-- A proxy is computed from what it is to show, and shows a value that is equal to the one in a
    store, or identical if it is constant. -/
structure ProxyState.Live (ev : Evaluator) (s₀ s : Store H) (b : Binding) (X : Blueprint.Source)
    (x : ProxyState H) : Prop where
  fits : X.Fits ev s₀ x.source
  steady : x.Steady
  cached : x.cached == s.sourceValue b x.source

theorem Blueprint.Source.Fits.eq_template {ev : Evaluator} {s : Store H} {t : Template}
    {source : ProxySource} (h : (Source.template t).Fits ev s source) : source = .template ev t := by
  cases h
  rfl

theorem Blueprint.Source.Fits.eq_document {ev : Evaluator} {s : Store H} {j : Json}
    {source : ProxySource} (h : (Source.document j).Fits ev s source) :
    ∃ u : Store H, s.objects.next ≤ u.objects.next ∧ source = .constant (u.newValue j).2 := by
  cases h with
  | document _ u h => exact ⟨u, h, rfl⟩

theorem ProxyState.Exact.made {ev : Evaluator} {s : Store H} {b : Binding} {X : Blueprint.Source}
    {x : ProxyState H} (h : x.Exact ev s b X) : x.Made ev s X := by
  refine ⟨h.fits, fun v hv => ?_⟩
  rw [h.cached, hv]
  rfl

theorem ProxyState.Made.later {ev : Evaluator} {s : Store H} {X : Blueprint.Source}
    {x y : ProxyState H} (h : x.Made ev s X) (hl : x.Later y) : y.Made ev s X :=
  ⟨hl.source ▸ h.fits, hl.steady h.steady⟩

namespace Store

variable {s₀ s t : Store H} {ev : Evaluator} {b : Binding} {X : Blueprint.Source} {p q : ProxyId}

/-- A proxy of a template and the one that is made anew show equal values. -/
theorem same_of_live {T : Template} (hp : s.Bears (ProxyState.Live ev s₀ s b) (.template T) p)
    (hq : t.Bears (ProxyState.Exact ev s b) (.template T) q) : s.valueOf p == t.valueOf q := by
  obtain ⟨x, hx, fits, -, cached⟩ := hp
  obtain ⟨y, hy, fits', cached', -, -⟩ := hq
  rw [valueOf_eq hx, valueOf_eq hy, cached', fits'.eq_template, ← fits.eq_template]
  exact cached

/-- A proxy of a live form and the one that is made anew show equal values, or the value of one
    document. -/
theorem paired_of_live (hp : s.Bears (ProxyState.Live ev s₀ s b) X p)
    (hq : t.Bears (ProxyState.Exact ev s b) X q) : s.Paired t p q := by
  have constant : ∀ {u : Store H} {i z}, u.proxy? i = some z →
      u.isConstant i = z.source.isConstant := fun hz => by simp [isConstant, hz]
  cases X with
  | template T =>
    refine .template ?_ ?_ (same_of_live hp hq)
    · obtain ⟨x, hx, hl⟩ := hp
      rw [constant hx, hl.fits.eq_template]
      rfl
    · obtain ⟨y, hy, he⟩ := hq
      rw [constant hy, he.fits.eq_template]
      rfl
  | document j =>
    obtain ⟨x, hx, hl⟩ := hp
    obtain ⟨y, hy, he⟩ := hq
    obtain ⟨u, -, hs⟩ := hl.fits.eq_document
    obtain ⟨u', new, hs'⟩ := he.fits.eq_document
    refine .document j u u' ?_ ?_ ?_ ?_ new
    · rw [constant hx, hs]
      rfl
    · rw [constant hy, hs']
      rfl
    · rw [valueOf_eq hx, hl.steady _ hs]
    · rw [valueOf_eq hy, he.made.steady _ hs']

theorem BearsField.forall₂_rulesOf {P : Blueprint.Source → ProxyState H → Prop} {F : Blueprint.Field}
    {f : Field} (h : s.BearsField P F f) :
    List.Forall₂ (Rule.Rel (s.Bears P)) F.rules (s.rulesOf f) := by
  obtain ⟨x, hx, -, hr⟩ := h.validator
  simpa only [rulesOf, hx] using hr

/-- The comparators of a form are built in, as definitions name no other ones. -/
theorem BearsField.isBuiltIn {P : Blueprint.Source → ProxyState H → Prop} {F : Blueprint.Field}
    {f : Field} (h : s.BearsField P F f) : ∀ r ∈ s.rulesOf f, r.comparator.IsBuiltIn := by
  intro r hr
  obtain ⟨R, hR, hRr⟩ := exists_right_of_forall₂ h.forall₂_rulesOf.flip hr
  exact hRr.comparator ▸ h.builtIn R hR

end Store

namespace Session

open Situation

variable {g : Engine} {s t : Session} {x : FormState} {ds : List FieldDefinition}

/-! ## Live forms -/

/-- A form is in order: the objects that it is bound to are alive, none of its proxies and validators
    is disposed of, those that follow objects are bound to the objects of the form, and no last run
    was cut off. -/
structure Whole (s : Session) (x : FormState) : Prop where
  objects : s.store.Holds x.binding
  proxies : ∀ f ∈ x.fields, ∀ p ∈ s.store.proxiesOf f, ∀ y ∈ s.store.proxy? p, y.disposed = false ∧
    (y.source.isConstant = false → y.binding = x.binding ∧ ∀ k, y.lastRun ≠ some (.cutOff k))
  validators : ∀ f ∈ x.fields, ∀ y ∈ s.store.validator? f.validator, y.disposed = false ∧
    ∀ k, y.lastRun ≠ some (.cutOff k)

instance (o : Option RunOutcome) : Decidable (∀ k, o ≠ some (.cutOff k)) :=
  match o with
  | some (.cutOff k) => isFalse fun h => h k rfl
  | none | some .coalesced | some (.settled _) => isTrue nofun

instance (s : Session) (x : FormState) : Decidable (s.Whole x) :=
  decidable_of_iff (s.store.Holds x.binding ∧
      (∀ f ∈ x.fields, ∀ p ∈ s.store.proxiesOf f, ∀ y ∈ s.store.proxy? p, y.disposed = false ∧
        (y.source.isConstant = false → y.binding = x.binding ∧ ∀ k, y.lastRun ≠ some (.cutOff k))) ∧
      ∀ f ∈ x.fields, ∀ y ∈ s.store.validator? f.validator, y.disposed = false ∧
        ∀ k, y.lastRun ≠ some (.cutOff k))
    ⟨fun h => ⟨h.1, h.2.1, h.2.2⟩, fun h => ⟨h.objects, h.proxies, h.validators⟩⟩

/-- What is so of all that the proxies of a form are computed from stays so as long as the form is
    there. -/
theorem Sound.bearsField_later (h : s.Sound) {i : FormId} (hx : s.store.form? i = some x)
    {u : Store Script} (later : u.Later s.store) {P Q : Blueprint.Source → ProxyState Script → Prop}
    (hPQ : ∀ X y z, y.Later z → P X y → Q X z) {F : Blueprint.Field} {f : Field} (hf : f ∈ x.fields)
    (hF : u.BearsField P F f) : s.store.BearsField Q F f := by
  obtain ⟨validator, proxies⟩ := alive_of_field h hx hf
  refine hF.imp (fun y hy => ?_) fun X p hp hb => ?_
  · obtain ⟨z, hz⟩ := Option.isSome_iff_exists.1 validator
    have hyz := later.validator? hy hz
    exact ⟨z, hz, hyz.field, hyz.rules⟩
  · obtain ⟨y, hy, hP⟩ := hb
    obtain ⟨z, hz⟩ := Option.isSome_iff_exists.1 (proxies p hp)
    exact ⟨z, hz, hPQ X y z (later.proxy? hy hz) hP⟩

/-- The fields of a form that is in order show what they should. -/
theorem Sound.bearsField_live (h : s.Sound) (idle : s.agenda = []) (whole : s.Whole x)
    {s₀ : Store Script} {F : Blueprint.Field} {f : Field} (hf : f ∈ x.fields)
    (hF : s.store.BearsField (ProxyState.Made s.engine.evaluator s₀) F f) :
    s.store.BearsField (ProxyState.Live s.engine.evaluator s₀ s.store x.binding) F f := by
  refine hF.imp (fun z hz => ⟨z, hz, rfl, rfl⟩) fun X p hp ⟨y, hy, made⟩ => ?_
  obtain ⟨hd, bound⟩ := whole.proxies f hf p hp y hy
  refine ⟨y, hy, made.fits, made.steady, ?_⟩
  cases hs : y.source with
  | constant v =>
    rw [made.steady v hs]
    exact Value.same_refl v
  | template ev t =>
    obtain ⟨hb, hr⟩ := bound (by rw [hs]; rfl)
    have fresh := (h.follows_of_idle idle hy hd (hb ▸ whole.objects)).2 hr y hy
    rwa [hb, hs] at fresh

theorem resultOf_eq {f : Field} {y : ValidatorState Script} {ev : Evaluator}
    (hy : s.store.validator? f.validator = some y) (value : y.field = f.value)
    (hr : y.result = s.store.validate ev y.field y.rules) :
    s.resultOf f.validator = s.store.validate ev f.value (s.store.rulesOf f) := by
  simpa only [resultOf, Store.rulesOf, hy, ← value] using hr

/-- The validators of a form that is in order show what their rules say. -/
theorem Sound.result_of_whole (h : s.Sound) (idle : s.agenda = []) (whole : s.Whole x) {f : Field}
    (hf : f ∈ x.fields) {y : ValidatorState Script} (hy : s.store.validator? f.validator = some y)
    (value : y.field = f.value) :
    s.resultOf f.validator = s.store.validate s.engine.evaluator f.value (s.store.rulesOf f) := by
  obtain ⟨hd, hr⟩ := whole.validators f hf y hy
  have rules : s.store.rulesOf f = y.rules := by simp only [Store.rulesOf, hy]
  have watched : ∀ p ∈ y.watched, p ∈ s.store.proxiesOf f := by
    intro p hp
    rcases List.mem_cons.1 hp with rfl | hp
    · rw [value]
      exact List.mem_append_left _ (List.mem_cons_self ..)
    · exact List.mem_append_right _ (by rwa [rules])
  exact resultOf_eq hy value (h.validates_of_idle idle hy hd hr fun p hp z hz =>
    (whole.proxies f hf p (watched p hp) z hz).1)

/-- The objects in a value that is shown are there. -/
theorem Sound.lt_next_of_mem_valueOf (h : s.Sound) {p : ProxyId} {o : ObjectId}
    (ho : o ∈ (s.store.valueOf p).objects) : o.index < s.store.objects.next := by
  cases hx : s.store.proxy? p with
  | none =>
    simp only [Store.valueOf, hx] at ho
    cases ho
  | some x =>
    rw [Store.valueOf_eq hx] at ho
    have lives : s.store.Lives o := h.situation.alive (.object o) (Or.inr (Or.inr (Or.inr (Or.inl
      ⟨p, x, hx, List.mem_append_left _ (List.mem_map_of_mem ho)⟩))))
    exact lives.lt_next

/-- Labels of a field that shows what it should are like those of one that is made anew. -/
theorem sameLabel_of_live {s₀ : Store Script} {w : Workspace Script}
    (culture : w.engine.culture = s.engine.culture) {b : Binding} {T : Template} {p q : ProxyId}
    (hp : s.store.Bears (ProxyState.Live s.engine.evaluator s₀ s.store b) (.template T) p)
    (hq : w.store.Bears (ProxyState.Exact s.engine.evaluator s.store b) (.template T) q) :
    s.SameLabel { s with workspace := w } p q := by
  have same := Store.same_of_live hp hq
  refine ⟨same, fun numbers => ?_⟩
  show w.engine.culture.format (w.store.valueOf q) = s.engine.culture.format (s.store.valueOf p)
  rw [culture, Culture.format_of_same _ same numbers]

/-- Rules of a field that shows what it should are like those of one that is made anew. -/
theorem Sound.sameRules (h : s.Sound) {s₀ : Store Script} {w : Workspace Script}
    (culture : w.engine.culture = s.engine.culture) {b : Binding} {F : Blueprint.Field} {f y : Field}
    (live : s.store.BearsField (ProxyState.Live s.engine.evaluator s₀ s.store b) F f)
    (made : w.store.BearsField (ProxyState.Exact s.engine.evaluator s.store b) F y) :
    List.Forall₂ (s.SameRule { s with workspace := w } f y) (s.store.rulesOf f)
      (w.store.rulesOf y) := by
  refine forall₂_join live.forall₂_rulesOf made.forall₂_rulesOf fun R r hr r' hR hR' => ?_
  have rel := hR.join hR' fun X p q => Store.paired_of_live
  refine ⟨rel, fun blurs => ?_⟩
  show RuleOutcome.Like _ _ (r'.outcome w.engine.culture _ _)
  rw [culture]
  exact Store.like_of_paired _ rel (live.isBuiltIn r hr) (Store.same_of_live live.value made.value)
    (fun o => h.lt_next_of_mem_valueOf) blurs

/-- A field that has just been made shows what its rules say. -/
theorem judged_of_fresh {w : Workspace Script} (culture : w.engine.culture = s.engine.culture)
    {P : Blueprint.Source → ProxyState Script → Prop} {F : Blueprint.Field} {y : Field}
    (made : w.store.BearsField P F y)
    (fresh : w.store.Fresh s.engine.evaluator (.validator y.validator)) :
    ({ s with workspace := w } : Session).Judged y := by
  obtain ⟨v, hv, value, -⟩ := made.validator
  have anew : ({ s with workspace := w } : Session).resultOf y.validator =
      w.store.validate s.engine.evaluator y.value (w.store.rulesOf y) :=
    resultOf_eq hv value (fresh v hv)
  refine anew.trans ?_
  show Rule.validate s.engine.culture _ _ _ = Rule.validate w.engine.culture _ _ _
  rw [culture]
  rfl

/-- A field that shows what it should is like the one that is made anew. -/
theorem Sound.agrees (h : s.Sound) {s₀ : Store Script} {w : Workspace Script}
    (later : s.engine.Later w.engine) {b : Binding} {F : Blueprint.Field} {f y : Field}
    (live : s.store.BearsField (ProxyState.Live s.engine.evaluator s₀ s.store b) F f)
    (judged : s.resultOf f.validator =
      s.store.validate s.engine.evaluator f.value (s.store.rulesOf f))
    (made : w.store.BearsField (ProxyState.Exact s.engine.evaluator s.store b) F y)
    (fresh : w.store.Fresh s.engine.evaluator (.validator y.validator)) :
    s.Agrees { s with workspace := w } f y := by
  have culture : w.engine.culture = s.engine.culture :=
    congrArg Configuration.culture later.configuration
  have rules := h.sameRules culture live made
  have judged : s.Judged f ∧ ({ s with workspace := w } : Session).Judged y :=
    ⟨judged, judged_of_fresh culture made fresh⟩
  exact {
    key := made.key.trans live.key.symm
    value := Store.same_of_live live.value made.value
    name := optionRel_join live.name made.name fun _ _ _ => sameLabel_of_live culture
    tooltip := optionRel_join live.tooltip made.tooltip fun _ _ _ => sameLabel_of_live culture
    visibility := by
      have hidden : y.hiddenOnFalse = f.hiddenOnFalse :=
        made.hiddenOnFalse.trans live.hiddenOnFalse.symm
      simp only [fieldView, hidden]
      exact (Store.paired_of_live live.visible made.visible).visibility _
    enabled := (Store.paired_of_live live.enabled made.enabled).isTruthy
    rules := rules
    judged := judged
    valid := fun blurred => by
      have like := like_of_sameRule (E := fun _ _ => True) judged rules blurred
        (rules.imp fun _ _ _ _ _ _ _ => trivial)
      exact ⟨like.isValid, like.errors.length_eq.symm⟩
    errors := fun blurred words => (like_of_sameRule judged rules blurred
      (words.imp fun _ _ h m _ failed same => same (h m failed))).eq }

/-! ## Forms made anew -/

/-- A command that makes a form of definitions, or of a text of them. -/
inductive Makes (ds : List FieldDefinition) (names : BindingNames) : Command → Prop
  | fields (name : String) : Makes ds names (.compileFields name ds names)
  | text (name : String) {text : String} (h : FieldDefinition.readAll? text = some ds) :
      Makes ds names (.compile name text names)

/-- A form has been made of definitions on the way to a session, by a command of the caller or of a
    handler. -/
def Compiled (g : Engine) (s : Session) (ds : List FieldDefinition) (f : FormId) : Prop :=
  ∃ s₀ t c names b, Reachable g s₀ ∧ s₀.objectOf names.model = .ok b.model ∧
    s₀.objectOf names.context = .ok b.context ∧ (s₀.workspace.compile b ds).1 = .ok f ∧
    Makes ds names c ∧ s₀.Gives c t ∧ t.Moves s

/-- Whichever command makes a form, it goes on to name what has been made. -/
theorem carryOut_makes {c : Command} {names : BindingNames} {b : Binding} (makes : Makes ds names c)
    (hm : s.objectOf names.model = .ok b.model) (hc : s.objectOf names.context = .ok b.context)
    (e : Option Occasion) : ∃ name, s.carryOut e c = s.nameForm name (s.workspace.compile b ds) := by
  cases makes with
  | fields name => exact ⟨name, by simp only [carryOut, bound, hm, hc, present]⟩
  | text name h =>
    exact ⟨name, by simp only [carryOut, bound, hm, hc, present, Workspace.compileText, h]⟩

theorem store_start_makes {c : Command} {names : BindingNames} {b : Binding}
    (makes : Makes ds names c) (hm : s.objectOf names.model = .ok b.model)
    (hc : s.objectOf names.context = .ok b.context) (e : Option Occasion) (handler : Option String) :
    (s.start e c handler).store = (s.workspace.compile b ds).2.store := by
  obtain ⟨name, hs⟩ := carryOut_makes makes hm hc e
  rw [start, hs]
  rcases s.workspace.compile b ds with ⟨e | f, w⟩
  · rfl
  · unfold nameForm
    dsimp only
    split <;> rfl

/-- After a form has been made the store goes on from what the making has left. -/
theorem later_of_makes {s₀ : Session} (h₀ : s₀.Sound) {c : Command} {names : BindingNames}
    {b : Binding} (makes : Makes ds names c) (hm : s₀.objectOf names.model = .ok b.model)
    (hc : s₀.objectOf names.context = .ok b.context) (given : s₀.Gives c t) (moves : t.Moves s) :
    (s₀.workspace.compile b ds).2.store.Later s.store := by
  obtain ⟨r, e, handler, hr, he, hw, ho, -, rfl⟩ := h₀.gives given
  have objectOf : ∀ n, r.objectOf n = s₀.objectOf n := fun n => by
    cases n with
    | none => rfl
    | some n => rw [Session.objectOf, Session.objectOf, ho]
  have hs := hr.sound.start he c handler
  have later := (hs.sound.sweep.trans (hs.sound.sweep.sound.moves moves)).later
  rwa [store_start_makes makes ((objectOf _).trans hm) ((objectOf _).trans hc), hw] at later

/-- A form has been made in a session that came about, and the store has gone on from there. -/
theorem Compiled.later {f : FormId} (h : Compiled g s ds f) :
    Reachable g s ∧ ∃ s₀ b, Reachable g s₀ ∧ s₀.store.Knows b ∧
      (s₀.workspace.compile b ds).1 = .ok f ∧
      (s₀.workspace.compile b ds).2.store.Later s.store := by
  obtain ⟨s₀, t, c, names, b, h₀, hm, hc, made, makes, given, moves⟩ := h
  obtain ⟨objects, s', h', hm'⟩ := id h₀
  exact ⟨⟨objects, s', h', hm'.trans (.head (.give _ given) moves)⟩, s₀, b, h₀,
    h₀.sound.knows (names_of_objectOf hm hc), made, later_of_makes h₀.sound makes hm hc given moves⟩

/-- A session that has begun with some objects, has made a form of definitions for one of them and has
    carried out commands of the caller, with the form. -/
def formTrial (g : Engine) (fuel : Nat) (objects : List (String × List (String × Operand)))
    (ds : List FieldDefinition) (model : String) (cs : List Command) :
    Option (Session × FormId × FormState) := do
  let s₀ ← trial g fuel objects []
  let o ← s₀.objects.lookup model
  let f ← (s₀.workspace.compile ⟨some o.id, none⟩ ds).1.toOption
  let t ← s₀.execute fuel (.compileFields "" ds ⟨some model, none⟩)
  let s ← cs.foldlM (execute fuel) t
  let x ← s.store.form? f
  return (s, f, x)

theorem stages_of_formTrial {fuel : Nat} {objects : List (String × List (String × Operand))}
    {model : String} {cs : List Command} {f : FormId}
    (h : formTrial g fuel objects ds model cs = some (s, f, x)) :
    ∃ s₀ t o, trial g fuel objects [] = some s₀ ∧ s₀.objectOf (some model) = .ok (some o) ∧
      (s₀.workspace.compile ⟨some o, none⟩ ds).1 = .ok f ∧
      s₀.execute fuel (.compileFields "" ds ⟨some model, none⟩) = some t ∧
      cs.foldlM (execute fuel) t = some s ∧ s.store.form? f = some x := by
  obtain ⟨s₀, h₀, h⟩ := Option.bind_eq_some_iff.1 h
  obtain ⟨o, ho, h⟩ := Option.bind_eq_some_iff.1 h
  obtain ⟨f', hf, h⟩ := Option.bind_eq_some_iff.1 h
  obtain ⟨t, ht, h⟩ := Option.bind_eq_some_iff.1 h
  obtain ⟨s', hs, h⟩ := Option.bind_eq_some_iff.1 h
  obtain ⟨x', hx, h⟩ := Option.bind_eq_some_iff.1 h
  cases h
  have made : (s₀.workspace.compile ⟨some o.id, none⟩ ds).1 = .ok f := by
    generalize (s₀.workspace.compile ⟨some o.id, none⟩ ds).1 = result at hf ⊢
    cases result with
    | ok f' => exact congrArg Except.ok (Option.some.inj hf)
    | error e => cases hf
  have model : s₀.objectOf (some model) = .ok (some o.id) := by
    rw [objectOf, ho]
    rfl
  exact ⟨s₀, t, o.id, h₀, model, made, ht, hs, hx⟩

theorem compiled_of_formTrial {fuel : Nat} {objects : List (String × List (String × Operand))}
    {model : String} {cs : List Command} {f : FormId}
    (h : formTrial g fuel objects ds model cs = some (s, f, x)) :
    Compiled g s ds f ∧ s.agenda = [] ∧ s.store.form? f = some x := by
  obtain ⟨s₀, t, o, h₀, model, made, ht, hs, hx⟩ := stages_of_formTrial h
  obtain ⟨hr, idle⟩ := reachable_of_trial h₀
  obtain ⟨hm, ht⟩ := moves_of_finish ht
  obtain ⟨hm', hs⟩ := moves_of_executeAll ht hs
  exact ⟨⟨s₀, _, _, _, ⟨some o, none⟩, hr, model, rfl, made, .fields "", .caller idle, hm.trans hm'⟩,
    hs, hx⟩

/-- What is made of definitions is what their blueprint says, and it is added to the store. -/
theorem Reachable.realizes {c : Configuration} {r : Registry}
    (h : Reachable (.ofConfiguration c r) s) {b : Binding} (known : s.store.Knows b)
    (ds : List FieldDefinition) : s.store.Adds (s.workspace.compile b ds).2.store ∧
      Compilation.Meets (fun Fs f => ∃ fs,
          (s.workspace.compile b ds).2.store.form? f = some ⟨fs, b⟩ ∧
          List.Forall₂ (fun F y => (s.workspace.compile b ds).2.store.BearsField
              (ProxyState.Exact s.engine.evaluator s.store b) F y ∧
            (s.workspace.compile b ds).2.store.Fresh s.engine.evaluator
              (.validator y.validator)) Fs fs)
        (Blueprint.ofDefinitions c r ds) (s.workspace.compile b ds).1 := by
  have hm := Workspace.compile_realizes (h.engine.honest (Template.Cache.honest_empty _))
    h.sound.situation.toOrdered.sealed known ds
  have configuration : s.workspace.engine.configuration = c := h.engine.configuration
  have registry : s.workspace.engine.registry = r := h.engine.registry
  rwa [configuration, registry] at hm

/-- A form that is made of definitions is what their blueprint says. -/
theorem Reachable.blueprint {c : Configuration} {r : Registry}
    (h : Reachable (.ofConfiguration c r) s) {b : Binding} (known : s.store.Knows b) {f : FormId}
    (made : (s.workspace.compile b ds).1 = .ok f) :
    ∃ Fs fs, Blueprint.ofDefinitions c r ds = .ok Fs ∧
      (s.workspace.compile b ds).2.store.form? f = some ⟨fs, b⟩ ∧
      List.Forall₂ (fun F y => (s.workspace.compile b ds).2.store.BearsField
          (ProxyState.Exact s.engine.evaluator s.store b) F y ∧
        (s.workspace.compile b ds).2.store.Fresh s.engine.evaluator (.validator y.validator))
        Fs fs := by
  obtain ⟨-, hm⟩ := h.realizes known ds
  rw [made] at hm
  generalize Blueprint.ofDefinitions c r ds = plan at hm ⊢
  cases hm with
  | ok hm =>
    obtain ⟨fs, hf, hm⟩ := hm
    exact ⟨_, fs, rfl, hf, hm⟩

/-- A form can be made of definitions for which there is a blueprint. -/
theorem Reachable.compiles {c : Configuration} {r : Registry}
    (h : Reachable (.ofConfiguration c r) s) {b : Binding} (known : s.store.Knows b)
    {Fs : List Blueprint.Field} (plan : Blueprint.ofDefinitions c r ds = .ok Fs) :
    ∃ f, (s.workspace.compile b ds).1 = .ok f := by
  obtain ⟨-, hm⟩ := h.realizes known ds
  rw [plan] at hm
  generalize (s.workspace.compile b ds).1 = result at hm
  cases hm with
  | ok => exact ⟨_, rfl⟩

/-- A form that has been made of definitions is still computed from what their blueprint says. -/
theorem Reachable.made_of_compile {c : Configuration} {r : Registry} {s₀ : Session}
    (h₀ : Reachable (.ofConfiguration c r) s₀) {b : Binding} (known : s₀.store.Knows b)
    {f : FormId} (made : (s₀.workspace.compile b ds).1 = .ok f)
    (later : (s₀.workspace.compile b ds).2.store.Later s.store) (hs : s.Sound)
    (hx : s.store.form? f = some x) : ∃ Fs, Blueprint.ofDefinitions c r ds = .ok Fs ∧
      List.Forall₂ (s.store.BearsField (ProxyState.Made (Engine.ofConfiguration c r).evaluator s₀.store))
        Fs x.fields := by
  obtain ⟨Fs, fs, plan, hf, hm⟩ := h₀.blueprint known made
  have fields : x.fields = fs := later.fields_form hf hx
  rw [← fields] at hm
  exact ⟨Fs, plan, forall₂_imp hm fun F y hy hF =>
    hs.bearsField_later hx later (fun _ _ _ hl he => h₀.engine.evaluator ▸ he.made.later hl) hy hF.1⟩

/-- When nothing is going on and a form that has been made of definitions is in order, a form can be made
    of the same definitions for the same objects, and its fields are like those of the first form, one
    by one. Custom filters are taken to be pure and to make no objects, as `Filter` has them. -/
theorem Compiled.live_agrees {c : Configuration} {r : Registry} {f : FormId}
    (h : Compiled (.ofConfiguration c r) s ds f) (idle : s.agenda = [])
    (hx : s.store.form? f = some x) (whole : s.Whole x) :
    ∃ f' w y, s.workspace.compile x.binding ds = (.ok f', w) ∧
      w.store.form? f' = some y ∧ y.binding = x.binding ∧
      List.Forall₂ (s.Agrees { s with workspace := w }) x.fields y.fields := by
  obtain ⟨hs, s₀, b, h₀, known, made, later⟩ := h.later
  obtain ⟨Fs, plan, live⟩ := h₀.made_of_compile known made later hs.sound hx
  have known := knows_of_form hs.sound hx
  obtain ⟨engine, -, -⟩ := s.workspace.compile_spec ds hs.sound.situation known
  obtain ⟨f', hf'⟩ := hs.compiles known plan
  obtain ⟨Fs', fs, plan', hy, anew⟩ := hs.blueprint known hf'
  obtain rfl := Except.ok.inj (plan.symm.trans plan')
  refine ⟨f', _, ⟨fs, x.binding⟩, Prod.ext hf' rfl, hy, rfl, ?_⟩
  refine forall₂_join live anew fun F f hf y hF hy => ?_
  obtain ⟨v, hv, value, -⟩ := hF.validator
  rw [← hs.engine.evaluator] at hF
  exact hs.sound.agrees engine (hs.sound.bearsField_live idle whole hf hF)
    (hs.sound.result_of_whole idle whole hf hv value) hy.1 hy.2

/-! ## Forms whose objects are replaced -/

/-- A rule with an argument and a message, enforced always. -/
def plainRule (comparator : String) (argument : Option ArgumentDefinition) (message : String) :
    ValidatorDefinition where
  comparator := comparator
  argument := argument
  isEnforced := none
  message := some message
  nullPolicy := .runComparator
  strict := none
  converter := none
  onTargetUpdated := none

/-- A field with rules, and perhaps a label. -/
def plainField (key : String) (name : Option String) (rules : List ValidatorDefinition) :
    FieldDefinition where
  key := key
  name := name
  tooltip := none
  isVisible := none
  isEnabled := none
  hiddenOnFalse := false
  validators := rules

/-- A field with a label and a rule that both read a property of another object, and with a rule against
    a fixed string. -/
def limitedField : List FieldDefinition :=
  [plainField "n" (some "\x7bBinding n\x7d of \x7bBinding child.n\x7d") [
    plainRule "LessThan" (some (.template "\x7bBinding child.n\x7d")) "not below \x7bBinding child.n\x7d",
    plainRule "NotEqual" (some (.value (.string "none"))) "none"]]

/-- The label and the error of the field follow when the other object is replaced, as in a form that
    is made anew. -/
theorem live_agrees_nested : ∃ s f x, Compiled (.ofConfiguration .testing .empty) s limitedField f ∧
    s.agenda = [] ∧ s.store.form? f = some x ∧ s.Whole x ∧
    (x.fields.map fun y => ((s.fieldView y).name, (s.fieldView y).result.errors)) =
      [(some "5 of 3", ["not below 3"])] ∧
    ∃ f' w y, s.workspace.compile x.binding limitedField = (.ok f', w) ∧
      w.store.form? f' = some y ∧ y.binding = x.binding ∧
      List.Forall₂ (s.Agrees { s with workspace := w }) x.fields y.fields := by
  have run : (formTrial (.ofConfiguration .testing .empty) 60
      [("m", [("n", .value (.integer 5)), ("child", .object "a")]),
        ("a", [("n", .value (.integer 9))]), ("b", [("n", .value (.integer 3))])] limitedField "m"
      [.set "m" "child" (.object "b")]).any (fun r => decide (r.1.Whole r.2.2 ∧
        (r.2.2.fields.map fun y => ((r.1.fieldView y).name, (r.1.fieldView y).result.errors)) =
          [(some "5 of 3", ["not below 3"])])) = true := by
    decide +kernel
  obtain ⟨⟨s, f, x⟩, hr, hp⟩ := (Option.any_eq_true _ _).1 run
  obtain ⟨whole, shown⟩ := of_decide_eq_true hp
  obtain ⟨h, idle, hx⟩ := compiled_of_formTrial hr
  exact ⟨s, f, x, h, idle, hx, whole, shown, h.live_agrees idle hx whole⟩

/-- Two fields that read a property of another object. The first one has it for its value, with a label
    and two rules that look at how it is written: at its length, and at its text. The second one has a
    rule with the property for a message. -/
def childFields : List FieldDefinition := [
  plainField "child.n" (some "\x7bBinding child.n\x7d") [
    { plainRule "MaxLength" (some (.value (.integer 1))) "too long" with strict := some true },
    { plainRule "Equal" (some (.value (.string "1"))) "another" with
      strict := some true, converter := some "ToString" }],
  plainField "child" none [plainRule "IsTrue" none "\x7bBinding child.n\x7d"]]

/-- What can be seen of fields: labels, whether they are valid, and errors. -/
def shown (s : Session) (x : FormState) : List (Option String × Bool × List String) :=
  x.fields.map fun y =>
    ((s.fieldView y).name, (s.fieldView y).result.isValid, (s.fieldView y).result.errors)

/-- An integer is shown by a label, judged by rules and told in a message, and all that stays when the
    other object is replaced by one with a decimal that is equal to the integer. In a form that is made
    anew the label and the message show the decimal with its places, and the rules find fault with it. -/
theorem texts_of_replaced_number : ∃ s f x,
    Compiled (.ofConfiguration .testing .standard) s childFields f ∧ s.agenda = [] ∧
    s.store.form? f = some x ∧ s.Whole x ∧
    s.shown x = [(some "1", true, []), (none, false, ["1"])] ∧
    ∃ f' w y, s.workspace.compile x.binding childFields = (.ok f', w) ∧ w.store.form? f' = some y ∧
      ({ s with workspace := w } : Session).shown y =
        [(some "1.0", false, ["too long", "another"]), (none, false, ["1.0"])] := by
  have run : (formTrial (.ofConfiguration .testing .standard) 60
      [("m", [("child", .object "a")]), ("a", [("n", .value (.integer 1))]),
        ("b", [("n", .value (.decimal ⟨10, 1, by decide, by decide⟩))])] childFields "m"
      [.set "m" "child" (.object "b")]).any (fun r => decide (r.1.Whole r.2.2 ∧
        r.1.shown r.2.2 = [(some "1", true, []), (none, false, ["1"])]) &&
        match r.1.workspace.compile r.2.2.binding childFields with
        | (.ok f', w) => (w.store.form? f').any fun y => decide
            (({ r.1 with workspace := w } : Session).shown y =
              [(some "1.0", false, ["too long", "another"]), (none, false, ["1.0"])])
        | (.error _, _) => false) = true := by
    decide +kernel
  obtain ⟨⟨s, f, x⟩, hr, hp⟩ := (Option.any_eq_true _ _).1 run
  obtain ⟨hp, hf⟩ := Bool.and_eq_true_iff.1 hp
  obtain ⟨whole, before⟩ := of_decide_eq_true hp
  obtain ⟨h, idle, hx⟩ := compiled_of_formTrial hr
  refine ⟨s, f, x, h, idle, hx, whole, before, ?_⟩
  split at hf
  · next f' w hw =>
    obtain ⟨y, hy, after⟩ := (Option.any_eq_true _ _).1 hf
    exact ⟨f', w, y, hw, hy, of_decide_eq_true after⟩
  · cases hf

end Session

end LiveForm
