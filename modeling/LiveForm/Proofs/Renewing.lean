/-
  A form that is bound to other objects shows what a form made for them would show.

  When nothing is going on and nothing of a form is disposed of, it may be bound to other objects. In
  the end all that it shows is identical with what a form shows that is made of the same definitions for these
  objects, whatever the caller has written before, as long as no handler writes. Its proxies are
  subscribed to the same properties as those of the other form, and so to none of an object to which only
  the old objects lead.

  * `ProxyState.Confined`: the objects of a document have been made with its form;
  * `Session.Undisturbed`: a form has been made, and the caller has given commands since;
  * `Undisturbed.rebinding_recompiles`: the result.
-/
import LiveForm.Proofs.Enclosing
import LiveForm.Proofs.Matching
import LiveForm.Proofs.Rebinding

namespace LiveForm

/-! ## Objects of documents -/

/-- A proxy is computed from what it is to show, and the objects of a document have been made while a
    store had no more than some number of objects. -/
structure ProxyState.Confined {H : Type} (ev : Evaluator) (s₀ : Store H) (n : Nat)
    (X : Blueprint.Source) (x : ProxyState H) : Prop extends x.Made ev s₀ X where
  old : ∀ v, x.source = .constant v → ∀ o ∈ v.objects, o.index < n

theorem ProxyState.Confined.later {H : Type} {ev : Evaluator} {s₀ : Store H} {n : Nat}
    {X : Blueprint.Source} {x y : ProxyState H} (h : x.Confined ev s₀ n X) (hl : x.Later y) :
    y.Confined ev s₀ n X :=
  ⟨h.toMade.later hl, hl.source ▸ h.old⟩

/-- The objects of a constant have been made with it. -/
theorem Store.between_of_confined {H : Type} {ev : Evaluator} {s s₀ : Store H} {n : Nat}
    {X : Blueprint.Source} {p : ProxyId} (h : s.Bears (ProxyState.Confined ev s₀ n) X p)
    (constant : s.isConstant p) :
    ∀ o ∈ (s.valueOf p).objects, s₀.objects.next ≤ o.index ∧ o.index < n := by
  obtain ⟨x, hx, hc⟩ := h
  cases X with
  | template T => simp [isConstant, hx, hc.fits.eq_template, ProxySource.isConstant] at constant
  | document j =>
    obtain ⟨u, new, hs⟩ := hc.fits.eq_document
    rw [valueOf_eq hx, hc.steady _ hs]
    exact fun o ho => ⟨Nat.le_trans new (le_of_mem_newValue u j o ho), hc.old _ hs o ho⟩

namespace Session

open Situation

variable {g : Engine} {s t : Session} {f : FormId} {x y : FormState} {b : Binding}
  {ds : List FieldDefinition}

theorem Sound.bears_confined (h : s.Sound) {ev : Evaluator} {s₀ : Store Script}
    {X : Blueprint.Source} {p : ProxyId} (hp : s.store.Bears (ProxyState.Made ev s₀) X p) :
    s.store.Bears (ProxyState.Confined ev s₀ s.store.objects.next) X p := by
  obtain ⟨z, hz, hm⟩ := hp
  refine ⟨z, hz, hm, fun v hv o ho => h.lt_next_of_mem_valueOf (p := p) ?_⟩
  rwa [Store.valueOf_eq hz, hm.steady v hv]

/-! ## Undisturbed forms -/

/-- To make a form is not to write. -/
theorem Makes.writes {names : BindingNames} {c : Command} (h : Makes ds names c) :
    c.writes = false := by
  cases h <;> rfl

/-- The caller has given a command that installs no handler that writes, and it is over. -/
def Gave (s t : Session) : Prop := ∃ c fuel, Command.Observes c ∧ s.execute fuel c = some t

/-- A form has been made of definitions for some objects where no handler wrote, and the caller has given
    commands since that install none that do. -/
def Undisturbed (g : Engine) (s : Session) (ds : List FieldDefinition) (f : FormId) : Prop :=
  ∃ s₀ s₁ fuel c names b, Reachable g s₀ ∧ s₀.agenda = [] ∧ s₀.store.Observed ∧
    s₀.objectOf names.model = .ok b.model ∧ s₀.objectOf names.context = .ok b.context ∧
    (s₀.workspace.compile b ds).1 = .ok f ∧ Makes ds names c ∧ s₀.execute fuel c = some s₁ ∧
    Relation.ReflTransGen Gave s₁ s

/-- Commands of the caller lead on, and to no objects that are secluded. -/
theorem gave_spec {n : Nat} {P : ObjectId → Prop} (hn : ∀ o : ObjectId, n ≤ o.index → P o)
    (hm : Relation.ReflTransGen Gave s t) (h : Reachable g s) (idle : s.agenda = [])
    (secluded : s.Secluded n P) :
    Reachable g t ∧ t.agenda = [] ∧ s.store.Later t.store ∧ t.Secluded n P := by
  induction hm with
  | refl => exact ⟨h, idle, .refl _, secluded⟩
  | tail _ hg ih =>
    obtain ⟨c, fuel, hc, hg⟩ := hg
    obtain ⟨hr, hi, hl, hs⟩ := ih
    obtain ⟨hr', hi'⟩ := hr.execute hi hg
    exact ⟨hr', hi', hl.trans (hr.sound.moves (moves_of_execute hi hg).1).later,
      hs.execute hn hi hc hg⟩

/-- What a form has been made of, and what nothing outside of it leads to. -/
structure Confines (c : Configuration) (r : Registry) (s : Session) (ds : List FieldDefinition)
    (x : FormState) (s₀ : Store Script) (n : Nat) (Fs : List Blueprint.Field) : Prop where
  reachable : Reachable (.ofConfiguration c r) s
  idle : s.agenda = []
  secluded : s.Secluded n fun o => o.index < s₀.objects.next ∨ n ≤ o.index
  plan : Blueprint.ofDefinitions c r ds = .ok Fs
  fields : List.Forall₂ (s.store.BearsField
    (ProxyState.Confined (Engine.ofConfiguration c r).evaluator s₀ n)) Fs x.fields

theorem Undisturbed.confines {c : Configuration} {r : Registry}
    (h : Undisturbed (.ofConfiguration c r) s ds f) (hx : s.store.form? f = some x) :
    ∃ s₀ n Fs, s.Confines c r ds x s₀ n Fs := by
  obtain ⟨s₀, s₁, fuel, command, names, b, h₀, idle, observed, hm, hc, made, makes, run, gave⟩ := h
  obtain ⟨h₁, idle₁⟩ := h₀.execute idle run
  have moves : (s₀.initiated command).Moves s₁ := (moves_of_finish run).1
  have later := later_of_makes h₀.sound makes hm hc (.caller idle) moves
  have known := h₀.sound.knows (names_of_objectOf hm hc)
  obtain ⟨hr, hi, later₁, secluded⟩ := gave_spec (fun o ho => Or.inr ho) gave h₁ idle₁
    (secluded_between h₀.sound idle observed makes.writes run)
  -- the form was there when it had just been made
  obtain ⟨Fs, fs, plan, hf, -⟩ := h₀.blueprint known made
  have old : f.index < s₁.store.forms.next :=
    Nat.lt_of_lt_of_le (Roster.lt_next_of_get? hf) later.forms.next
  obtain ⟨x₁, hx₁, same⟩ := later₁.forms.old _ x old hx
  obtain ⟨Fs', plan', fields⟩ := h₀.made_of_compile known made later h₁.sound hx₁
  have same : x.fields = x₁.fields := same
  rw [← same] at fields
  refine ⟨s₀.store, s₁.store.objects.next, Fs', hr, hi, secluded, plan', ?_⟩
  refine forall₂_imp fields fun F y hy hF => ?_
  have confined : s₁.store.BearsField
      (ProxyState.Confined (Engine.ofConfiguration c r).evaluator s₀.store
        s₁.store.objects.next) F y :=
    hF.imp (fun z hz => ⟨z, hz, rfl, rfl⟩) fun X p _ => h₁.sound.bears_confined
  exact hr.sound.bearsField_later hx later₁ (fun _ _ _ hl hz => hz.later hl) hy confined

namespace Confines

variable {c : Configuration} {r : Registry} {s₀ : Store Script} {n : Nat}
  {Fs : List Blueprint.Field}

/-- A form of which nothing is disposed of may be bound to objects that have names. -/
theorem offered (h : s.Confines c r ds x s₀ n Fs) (hx : s.store.form? f = some x)
    (proxies : ∀ y ∈ x.fields, ∀ p ∈ s.store.proxiesOf y, s.store.isDisposed (.proxy p) = false)
    (validators : ∀ y ∈ x.fields, s.store.isDisposed (.validator y.validator) = false)
    (hb : s.Names b) : s.Offered f x b where
  sound := h.reachable.sound
  form := hx
  names := hb
  values y hy := by
    obtain ⟨F, -, hF⟩ := exists_right_of_forall₂ h.fields.flip hy
    obtain ⟨z, hz, hc⟩ := hF.value
    simp [Store.isConstant, hz, hc.fits.eq_template, ProxySource.isConstant]
  proxies y hy p hp z hz := by
    obtain ⟨F, -, hF⟩ := exists_right_of_forall₂ h.fields.flip hy
    obtain ⟨X, -, z', hz', hc⟩ := exists_right_of_forall₂ hF.forall₂_proxiesOf.flip hp
    obtain rfl := Option.some.inj (hz.symm.trans hz')
    have hd := proxies y hy p hp
    rw [Store.isDisposed, hz, Option.all_some] at hd
    exact ⟨hd, hc.steady⟩
  validators y hy z hz := by
    obtain ⟨F, -, hF⟩ := exists_right_of_forall₂ h.fields.flip hy
    obtain ⟨z', hz', value, -⟩ := hF.validator
    obtain rfl := Option.some.inj (hz.symm.trans hz')
    have hd := validators y hy
    rw [Store.isDisposed, hz, Option.all_some] at hd
    exact ⟨hd, value⟩

/-- It stays so when the form is bound to other objects. -/
theorem rebound (h : s.Confines c r ds x s₀ n Fs) {left : List ProxyId}
    (rebinds : s.Rebinds x b left t) (hx : s.store.form? f = some x) (hy : t.store.form? f = some y)
    {fuel : Nat} {name : String} {names : BindingNames}
    (ht : s.execute fuel (.setFormBinding name names) = some t) :
    t.Confines c r ds y s₀ n Fs := by
  obtain ⟨hr, idle⟩ := h.reachable.execute h.idle ht
  have fields : y.fields = x.fields := rebinds.later.fields_form hx hy
  have observes : (Command.setFormBinding name names).Observes := trivial
  refine ⟨hr, idle, h.secluded.execute (fun o ho => Or.inr ho) h.idle observes ht, h.plan, ?_⟩
  rw [fields]
  exact forall₂_imp h.fields fun F z hz hF => hr.sound.bearsField_later hy rebinds.later
    (fun X w w' hl hw => hw.later hl) (fields ▸ hz) hF

/-- The value of a field has no objects of documents. -/
theorem apart (h : s.Confines c r ds x s₀ n Fs) (hb : s.Names b) {F : Blueprint.Field} {z : Field}
    {ev ev' : Evaluator} (hF : s.store.BearsField (ProxyState.Confined ev s₀ n) F z) {T : Template}
    (value : s.store.valueOf z.value = s.store.sourceValue b (.template ev' T)) :
    ∀ rule ∈ s.store.rulesOf z, s.store.isConstant rule.argument →
      ∀ o ∈ (s.store.valueOf z.value).objects, o ∉ (s.store.valueOf rule.argument).objects := by
  intro rule hr constant o ho hn
  obtain ⟨R, -, hR⟩ := exists_right_of_forall₂ hF.forall₂_rulesOf.flip hr
  obtain ⟨new, old⟩ := Store.between_of_confined hR.argument constant o hn
  rw [value] at ho
  rcases h.secluded.objects_sourceValue hb ev' T o ho with ho | ho
  · exact absurd ho (Nat.not_lt.2 new)
  · exact absurd ho (Nat.not_le.2 old)

end Confines

/-- A field shows just what the new objects say when no proxy is left. -/
theorem Rebinds.renewed (h : s.Rebinds x b [] t) (o : s.Offered f x b)
    (hy : t.store.form? f = some y) {ev : Evaluator} {s₀ : Store Script} {n : Nat} {F : Blueprint.Field}
    {z : Field} (hz : z ∈ x.fields) (hF : t.store.BearsField (ProxyState.Confined ev s₀ n) F z) :
    t.store.BearsField (ProxyState.Renewed ev s₀ t.store b) F z := by
  have fields : y.fields = x.fields := h.later.fields_form o.form hy
  refine hF.imp (fun w hw => ⟨w, hw, rfl, rfl⟩) fun X p hp ⟨w, hw, hc⟩ => ⟨w, hw, ?_⟩
  rw [h.later.proxiesOf (alive_of_field o.sound o.form hz).1
    (alive_of_field h.sound hy (fields ▸ hz)).1] at hp
  obtain ⟨hd, exact_⟩ := h.proxy z hz p hp w hw
  obtain ⟨cached, binding⟩ := exact_ List.not_mem_nil
  refine ⟨hc.fits, ?_, binding, hd⟩
  cases hs : w.source with
  | constant v => exact hc.steady v hs
  | template ev T => rw [cached, hs, binding (by rw [hs]; rfl)]

/-- A validator shows what its rules say when no proxy is left and nothing is going on. -/
theorem Rebinds.judged (h : s.Rebinds x b [] t) (idle : t.agenda = [])
    {P : Blueprint.Source → ProxyState Script → Prop} {F : Blueprint.Field} {z : Field}
    (hz : z ∈ x.fields) (hF : t.store.BearsField P F z) : t.resultOf z.validator =
      t.store.validate t.engine.evaluator z.value (t.store.rulesOf z) := by
  obtain ⟨v, hv, value, -⟩ := hF.validator
  rcases (h.validator z hz v hv).2 with ⟨q, -, hq⟩ | heeds
  · cases hq
  · exact resultOf_eq hv value (heeds.fresh (tasks_of_idle idle) v hv)

/-- When nothing is going on, nothing of a form is disposed of and no handler writes, to bind the form
    to other objects is as good as to make it anew of the same definitions for these:

    * the command is over in the end if the handlers are tame;
    * when it is over, each field shows just what that of the form made anew shows, its value, its
      labels, whether it is shown and enabled, and its result, and the proxies of the form are subscribed
      to the same properties of the same objects;
    * no proxy of the form is subscribed to an object to which the new objects do not lead.

    Custom filters are taken to be pure and to make no objects, as `Filter` has them. -/
theorem Undisturbed.rebinding_recompiles {c : Configuration} {r : Registry}
    (h : Undisturbed (.ofConfiguration c r) s ds f) (hx : s.store.form? f = some x)
    (proxies : ∀ z ∈ x.fields, ∀ p ∈ s.store.proxiesOf z, s.store.isDisposed (.proxy p) = false)
    (validators : ∀ z ∈ x.fields, s.store.isDisposed (.validator z.validator) = false)
    {name : String} {names : BindingNames} (hf : s.forms.lookup name = some f)
    (hm : s.objectOf names.model = .ok b.model) (hc : s.objectOf names.context = .ok b.context) :
    (s.store.Tame → ∃ fuel t, s.execute fuel (.setFormBinding name names) = some t) ∧
    ∀ fuel t y, s.execute fuel (.setFormBinding name names) = some t → t.store.form? f = some y →
      y.binding = b ∧
      (∃ f' w z, t.workspace.compile b ds = (.ok f', w) ∧ w.store.form? f' = some z ∧
        List.Forall₂ (t.Matches { t with workspace := w }) y.fields z.fields) ∧
      ∀ z ∈ y.fields, ∀ p ∈ t.store.proxiesOf z, ∀ o n property,
        t.store.Subscribed p o n property → t.store.Reaches b o := by
  obtain ⟨s₀, n, Fs, before⟩ := h.confines hx
  have named := names_of_objectOf hm hc
  have o := before.offered hx proxies validators named
  refine ⟨fun tame => o.sound.finishes before.idle tame _, fun fuel t y ht hy => ?_⟩
  obtain ⟨rebinds, -, binding⟩ := o.rebound before.idle before.secluded.observing.store hf hm hc ht
  have after := before.rebound rebinds hx hy ht
  have fields : y.fields = x.fields := rebinds.later.fields_form hx hy
  have sound := after.reachable.sound
  have named : t.Names b := fun r o ho => by
    rw [rebinds.objects]
    exact named r o ho
  have holds := sound.holds named
  have renewed := forall₂_imp after.fields fun F z hz hF =>
    And.intro hF (rebinds.renewed o hy (fields ▸ hz) hF)
  refine ⟨binding y hy, ?anew, ?reaches⟩
  case anew =>
    have known := sound.knows named
    obtain ⟨adds, -⟩ := after.reachable.realizes known ds
    obtain ⟨engine, grows, -⟩ := t.workspace.compile_spec ds sound.situation known
    have attentive := (grows.sound sound.situation).attentive (tasks_of_idle after.idle)
    obtain ⟨f', hf'⟩ := after.reachable.compiles known after.plan
    obtain ⟨Fs', fs, plan, hz, anew⟩ := after.reachable.blueprint known hf'
    obtain rfl := Except.ok.inj (after.plan.symm.trans plan)
    refine ⟨f', _, ⟨fs, b⟩, Prod.ext hf' rfl, hz, ?_⟩
    refine forall₂_join renewed anew fun F z hz z' ⟨confined, hF⟩ ⟨made, fresh⟩ => ?_
    rw [← after.reachable.engine.evaluator] at hF
    have judged := rebinds.judged after.idle (fields ▸ hz) confined
    exact sound.matches_anew after.idle holds engine adds attentive hF judged
      (after.apart named confined (Store.valueOf_of_renewed hF.value)) made fresh
  case reaches =>
    intro z hz p hp o' k property hs
    obtain ⟨F, -, -, hF⟩ := exists_right_of_forall₂ renewed.flip hz
    obtain ⟨X, -, hX⟩ := exists_right_of_forall₂ hF.forall₂_proxiesOf.flip hp
    exact (sound.situation.attentive (tasks_of_idle after.idle)).reaches holds hX hs

/-! ## A form that is bound to other objects -/

theorem gave_of_executeAll {fuel : Nat} {cs : List Command} (hc : ∀ c ∈ cs, c.Observes)
    (h : cs.foldlM (execute fuel) s = some t) : Relation.ReflTransGen Gave s t := by
  induction cs generalizing s with
  | nil =>
    cases h
    exact .refl
  | cons c cs ih =>
    obtain ⟨hc, hcs⟩ := List.forall_mem_cons.1 hc
    obtain ⟨u, hu, h⟩ := Option.bind_eq_some_iff.1 h
    exact .head ⟨c, fuel, hc, hu⟩ (ih hcs h)

theorem undisturbed_of_formTrial {fuel : Nat} {objects : List (String × List (String × Operand))}
    {model : String} {cs : List Command} (hc : ∀ c ∈ cs, c.Observes)
    (h : formTrial g fuel objects ds model cs = some (s, f, x)) :
    Undisturbed g s ds f ∧ s.store.form? f = some x := by
  obtain ⟨s₀, t, o, h₀, model, made, ht, hs, hx⟩ := stages_of_formTrial h
  obtain ⟨hr, idle⟩ := reachable_of_trial h₀
  have observed : s₀.store.Observed := by
    unfold trial at h₀
    split at h₀
    · next r hr =>
      cases h₀
      exact observed_withObjects hr
    · cases h₀
  exact ⟨⟨s₀, t, fuel, _, _, ⟨some o, none⟩, hr, idle, observed, model, rfl, made, .fields "", ht,
    gave_of_executeAll hc hs⟩, hx⟩

/-- A field with a label and a rule that read a property of another object is bound to a third one after
    its object and the other one have changed, with a handler that asks it to recompute. -/
theorem rebinding_recompiles_nested : ∃ s f x t y,
    Undisturbed (.ofConfiguration .testing .empty) s limitedField f ∧ s.store.form? f = some x ∧
    s.store.Tame ∧
    (x.fields.map fun z => ((s.fieldView z).name, (s.fieldView z).result.errors)) =
      [(some "6 of 4", ["not below 4"])] ∧
    s.execute 200 (.setFormBinding "" ⟨some "c", none⟩) = some t ∧ t.store.form? f = some y ∧
    (y.fields.map fun z => ((t.fieldView z).name, (t.fieldView z).result.errors)) =
      [(some "3 of 9", [])] ∧
    (∃ f' w z, t.workspace.compile y.binding limitedField = (.ok f', w) ∧
      w.store.form? f' = some z ∧
      List.Forall₂ (t.Matches { t with workspace := w }) y.fields z.fields) ∧
    ∀ z ∈ y.fields, ∀ p ∈ t.store.proxiesOf z, ∀ o n property,
      t.store.Subscribed p o n property → t.store.Reaches y.binding o := by
  have run : (formTrial (.ofConfiguration .testing .empty) 200
      [("m", [("n", .value (.integer 5)), ("child", .object "a")]),
        ("a", [("n", .value (.integer 9))]), ("b", [("n", .value (.integer 4))]),
        ("c", [("n", .value (.integer 3)), ("child", .object "a")])] limitedField "m"
      [.takeProxy "" "n" .value "p", .listen "p" false (.mk "h" [.mk none (.refresh "p")]),
        .set "m" "n" (.value (.integer 6)), .set "m" "child" (.object "b")]).any (fun r =>
        decide ((∀ z ∈ r.2.2.fields, ∀ p ∈ r.1.store.proxiesOf z,
            r.1.store.isDisposed (.proxy p) = false) ∧
          (∀ z ∈ r.2.2.fields, r.1.store.isDisposed (.validator z.validator) = false) ∧
          r.1.forms.lookup "" = some r.2.1 ∧ r.1.store.Tame ∧
          (r.2.2.fields.map fun z => ((r.1.fieldView z).name, (r.1.fieldView z).result.errors)) =
            [(some "6 of 4", ["not below 4"])]) &&
        (r.1.objects.lookup "c").isSome &&
        (r.1.execute 200 (.setFormBinding "" ⟨some "c", none⟩)).any fun t =>
          (t.store.form? r.2.1).any fun y => decide
            ((y.fields.map fun z => ((t.fieldView z).name, (t.fieldView z).result.errors)) =
              [(some "3 of 9", [])])) = true := by
    decide +kernel
  obtain ⟨⟨s, f, x⟩, hr, run⟩ := (Option.any_eq_true _ _).1 run
  obtain ⟨run, after⟩ := Bool.and_eq_true_iff.1 run
  obtain ⟨before, named⟩ := Bool.and_eq_true_iff.1 run
  obtain ⟨proxies, validators, hf, tame, shown⟩ := of_decide_eq_true before
  obtain ⟨t, ht, after⟩ := (Option.any_eq_true _ _).1 after
  obtain ⟨y, hy, after⟩ := (Option.any_eq_true _ _).1 after
  obtain ⟨o, ho⟩ := Option.isSome_iff_exists.1 named
  have model : s.objectOf (some "c") = .ok (some o.id) := by
    rw [objectOf, ho]
    rfl
  obtain ⟨h, hx⟩ := undisturbed_of_formTrial (by simp [Command.Observes, Script.writes,
    Action.anyWrites, Action.writes, Command.writes]) hr
  obtain ⟨binding, anew, reaches⟩ := (h.rebinding_recompiles (b := ⟨some o.id, none⟩) hx proxies
    validators hf model rfl).2 200 t y ht hy
  rw [← binding] at anew reaches
  exact ⟨s, f, x, t, y, h, hx, tame, shown, ht, hy, of_decide_eq_true after, anew, reaches⟩

end Session

end LiveForm
