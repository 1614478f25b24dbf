/-
  The messages of rules.

  The message of a rule goes one of two ways. A template that reads nothing is made a text with the
  conventions of the engine when the form is made; any other one is kept, and what its proxy shows is
  made a text with the invariant conventions when the rule fails. So a message that depends on the
  objects is worded otherwise than one that does not, unless its value has the same text under both.

  * `Value.IsPlain`: a value has one text in all cultures; `Culture.format_of_isPlain`;
  * `Blueprint.words_of_definitions`: the rules of a blueprint are those of the definitions, one by one;
  * `Session.UpToDate`: a message template has a value, and the message shows it;
  * `Session.Phrased`: how a rule words a message template; `Session.Compiled.phrased`.
-/
import LiveForm.Proofs.Recompilation

namespace LiveForm

/-! ## Texts in all cultures -/

/-- A value has one text in all cultures: it holds no booleans, no places of numbers and no neighbours
    in collections. -/
def Value.IsPlain : Value → Prop
  | .noValue | .null | .integer _ | .string _ | .object _ => True
  | .boolean _ => False
  | .decimal d => '.' ∉ d.render
  | .collection [] => True
  | .collection [v] => v.IsPlain
  | .collection (_ :: _ :: _) => False

namespace Culture

theorem formatDecimal_of_plain {d : Decimal} (h : '.' ∉ d.render) (c : Culture) :
    c.formatDecimal d = String.ofList d.render := by
  have mark : ∀ x ∈ d.render, (if x = '.' then c.decimalSeparator else x) = x := fun x hx =>
    if_neg (ne_of_mem_of_not_mem hx h)
  rw [formatDecimal, List.map_congr_left mark, List.map_id']

theorem format_of_isPlain {v : Value} (h : v.IsPlain) (c c' : Culture) : c.format v = c'.format v := by
  fun_induction Value.IsPlain v with
  | case6 => exact h.elim
  | case7 d => rw [format, format, formatDecimal_of_plain h, formatDecimal_of_plain h]
  | case9 v ih => simpa only [format, formatItems] using ih h
  | case10 => exact h.elim
  | _ => simp only [format, formatItems]

end Culture

/-! ## Rules of definitions -/

theorem exists_of_bind_ok {ε α β : Type} {m : Except ε α} {f : α → Except ε β} {b : β}
    (h : m >>= f = .ok b) : ∃ a, m = .ok a ∧ f a = .ok b := by
  cases m with
  | error e => cases h
  | ok a => exact ⟨a, rfl, h⟩

/-- Where all of a list could be made, the results belong to the list one by one. -/
theorem forall₂_of_mapM_ok {ε α β : Type} {f : α → Except ε β} {as : List α} {bs : List β}
    (h : as.mapM f = .ok bs) : List.Forall₂ (fun a b => f a = .ok b) as bs := by
  induction as generalizing bs with
  | nil =>
    cases h
    exact .nil
  | cons a as ih =>
    rw [List.mapM_cons] at h
    obtain ⟨b, hb, h⟩ := exists_of_bind_ok h
    obtain ⟨bs', hbs, h⟩ := exists_of_bind_ok h
    cases h
    exact .cons hb (ih hbs)

namespace Blueprint

variable {c : Configuration} {reg : Registry}

/-- A rule has the message that its definition asks for. -/
structure Words (ev : Evaluator) (d : ValidatorDefinition) (R : Rule Source) : Prop where
  absent : d.message = none → R.message = .fixed (d.comparator ++ " validation failed")
  template : ∀ source, d.message = some source →
    ∃ t, Template.parse source = .ok t ∧ R.message = messageOf ev t

theorem words_of_rule {key : String} {d : ValidatorDefinition} {R : Rule Source}
    (h : rule c reg key d = .ok R) : Words ⟨reg, c.culture⟩ d R := by
  unfold rule at h
  split at h
  · cases h
  obtain ⟨A, -, h⟩ := exists_of_bind_ok h
  obtain ⟨E, -, h⟩ := exists_of_bind_ok h
  obtain ⟨M, hM, h⟩ := exists_of_bind_ok h
  obtain ⟨C, -, h⟩ := exists_of_bind_ok h
  cases h
  constructor
  · intro hd
    rw [hd] at hM
    exact (Except.ok.inj hM).symm
  · intro source hd
    rw [hd] at hM
    cases ht : Template.parse source with
    | error e => simp [message, read, ht, Except.mapError] at hM
    | ok t =>
      refine ⟨t, rfl, ?_⟩
      simp only [message, read, ht, Except.mapError] at hM
      exact (Except.ok.inj hM).symm

theorem words_of_field {d : FieldDefinition} {F : Field} (h : field c reg d = .ok F) :
    List.Forall₂ (Words ⟨reg, c.culture⟩) d.validators F.rules := by
  unfold field at h
  obtain ⟨_, -, h⟩ := exists_of_bind_ok h
  obtain ⟨_, -, h⟩ := exists_of_bind_ok h
  obtain ⟨_, -, h⟩ := exists_of_bind_ok h
  obtain ⟨_, -, h⟩ := exists_of_bind_ok h
  obtain ⟨_, -, h⟩ := exists_of_bind_ok h
  obtain ⟨rules, hr, h⟩ := exists_of_bind_ok h
  cases h
  exact (forall₂_of_mapM_ok hr).imp fun _ _ => words_of_rule

theorem words_of_fields {done Fs : List Field} {ds : List FieldDefinition}
    (h : fields c reg done ds = .ok Fs) : ∃ Gs, Fs = done ++ Gs ∧
      List.Forall₂ (fun d F => List.Forall₂ (Words ⟨reg, c.culture⟩) d.validators F.rules) ds Gs := by
  induction ds generalizing done with
  | nil =>
    cases h
    exact ⟨[], (List.append_nil _).symm, .nil⟩
  | cons d ds ih =>
    unfold fields at h
    split at h
    · cases h
    obtain ⟨F, hF, h⟩ := exists_of_bind_ok h
    obtain ⟨Gs, rfl, hGs⟩ := ih h
    exact ⟨F :: Gs, by simp, .cons (words_of_field hF) hGs⟩

/-- The rules of a blueprint have the messages that the definitions ask for, one by one. -/
theorem words_of_definitions {Fs : List Field} {ds : List FieldDefinition}
    (h : ofDefinitions c reg ds = .ok Fs) :
    List.Forall₂ (fun d F => List.Forall₂ (Words ⟨reg, c.culture⟩) d.validators F.rules) ds Fs := by
  obtain ⟨Gs, rfl, hGs⟩ := words_of_fields h
  exact hGs

end Blueprint

/-! ## Rules of forms -/

/-- The template of a source that is not constant. -/
def ProxySource.template? : ProxySource → Option Template
  | .template _ t => some t
  | .constant _ => none

/-- The message of a rule that fails is its text as its sources stand. -/
theorem Rule.message_of_failed {α : Type} {c : Culture} {read : α → Value} {r : Rule α} {v : Value}
    {message : String} (h : r.outcome c read v = .failed message) : message = r.message.text read := by
  have compared : ∀ w, r.compare read w = .failed message → message = r.message.text read := by
    intro w hw
    unfold compare at hw
    split at hw
    · cases hw
    · exact (RuleOutcome.failed.inj hw).symm
  unfold outcome at h
  split at h
  · cases h
  dsimp only at h
  split at h
  · split at h
    · cases h
    · exact (RuleOutcome.failed.inj h).symm
    · cases h
    · exact compared _ h
  · exact compared _ h

namespace Session

variable {s : Session} {x : FormState}

/-- The message template of a rule has a value, and the message is up to date: a proxy that it is taken
    from shows that value. -/
def UpToDate (s : Session) (t : Template) (r : Rule ProxyId) (w : Value) : Prop :=
  if t.isConstant then ∀ sc, s.engine.evaluator.valueOf sc t.root = w
  else ∃ p x, r.message = .live p ∧ s.store.proxy? p = some x ∧
    x.source = .template s.engine.evaluator t ∧
    s.engine.evaluator.valueOf (s.store.scope x.binding) t.root = w ∧ x.cached = w

/-- How a rule words a message template. -/
structure Phrased (s : Session) (t : Template) (r : Rule ProxyId) : Prop where
  /-- A message that reads nothing is always up to date. -/
  steady : t.isConstant → ∃ w, s.UpToDate t r w
  /-- Any other one is taken from a proxy of the template. -/
  live : t.isConstant = false →
    ∃ p x, r.message = .live p ∧ s.store.proxy? p = some x ∧
      x.source = .template s.engine.evaluator t
  /-- The message that the rule fails with is the text of the value of the template, and it is its text
      in the culture of the engine exactly if the template reads nothing or that culture words the value
      as the invariant one does, such as a plain value. -/
  text : ∀ w, s.UpToDate t r w → ∀ v message,
    r.outcome s.engine.culture s.store.valueOf v = .failed message →
      message = (if t.isConstant then s.engine.culture else .invariant).format w ∧
      (message = s.engine.culture.format w ↔
        t.isConstant ∨ Culture.invariant.format w = s.engine.culture.format w) ∧
      (w.IsPlain → message = s.engine.culture.format w)

/-- Where the culture of a text is known, so is when it is the text in another one. -/
theorem phrased_text {c c' : Culture} {constant : Bool} {w : Value} {message : String}
    (h : message = (if constant then c else c').format w) :
    message = (if constant then c else c').format w ∧
      (message = c.format w ↔ constant ∨ c'.format w = c.format w) ∧
      (w.IsPlain → message = c.format w) := by
  refine ⟨h, ?_, fun hw => h.trans (Culture.format_of_isPlain hw _ _)⟩
  rw [h]
  cases constant <;> simp

/-- A rule words a template that reads nothing in the culture of the engine if its message is the text of
    the value of the template. -/
theorem phrased_of_isConstant {t : Template} {r : Rule ProxyId} (ht : t.isConstant) {sc₀ : Scope}
    (hm : r.message = .fixed (s.engine.culture.format (s.engine.evaluator.valueOf sc₀ t.root))) :
    s.Phrased t r where
  steady _ := by
    refine ⟨s.engine.evaluator.valueOf sc₀ t.root, ?_⟩
    rw [UpToDate, if_pos ht]
    exact fun sc => s.engine.evaluator.valueOf_of_isConstant ht sc sc₀
  live h := by
    rw [ht] at h
    cases h
  text w hw v message hfail := by
    rw [UpToDate, if_pos ht] at hw
    refine phrased_text ?_
    rw [Rule.message_of_failed hfail, hm, ht, if_pos rfl, ← hw sc₀]
    rfl

/-- A rule words any other template in the invariant culture if its message is taken from a proxy. -/
theorem phrased_of_live {t : Template} {r : Rule ProxyId} (ht : t.isConstant = false) {p : ProxyId}
    {x : ProxyState Script} (hm : r.message = .live p) (hx : s.store.proxy? p = some x)
    (source : x.source = .template s.engine.evaluator t) : s.Phrased t r where
  steady h := by
    rw [ht] at h
    cases h
  live _ := ⟨p, x, hm, hx, source⟩
  text w hw v message hfail := by
    rw [UpToDate, if_neg (by simp [ht])] at hw
    obtain ⟨p', x', hm', hx', -, -, hw⟩ := hw
    obtain rfl : p = p' := Message.live.inj (hm.symm.trans hm')
    obtain rfl : x = x' := Option.some.inj (hx.symm.trans hx')
    refine phrased_text ?_
    rw [Rule.message_of_failed hfail, hm, Message.text, Store.valueOf_eq hx, hw, ht]
    rfl

/-- A rule with the message of a template words it as the culture that is due. -/
theorem phrased_of_rel {g : Engine} {s₀ : Store Script} {t : Template} {R : Rule Blueprint.Source}
    {r : Rule ProxyId} (engine : s.engine.evaluator = g.evaluator)
    (message : R.message = Blueprint.messageOf g.evaluator t)
    (rel : R.message.Rel (s.store.Bears (ProxyState.Made g.evaluator s₀)) r.message) : s.Phrased t r := by
  rw [message, Blueprint.messageOf, ← engine] at rel
  generalize hm : r.message = m at rel
  cases ht : t.isConstant with
  | true =>
    rw [ht, if_pos rfl] at rel
    cases rel with
    | fixed text => exact phrased_of_isConstant ht hm
  | false =>
    rw [ht, if_neg (by simp)] at rel
    cases rel with
    | live hp =>
      obtain ⟨x, hx, made⟩ := hp
      exact phrased_of_live ht hm hx made.fits.eq_template

/-- The rules of a form that has been made of definitions are those of the definitions, one by one. A rule
    without a message template has a fixed message, and any other one words its template as the culture
    that is due. -/
theorem Compiled.phrased {c : Configuration} {reg : Registry} {ds : List FieldDefinition} {f : FormId}
    (h : Compiled (.ofConfiguration c reg) s ds f) (hx : s.store.form? f = some x) :
    s.engine.culture = c.culture ∧
      List.Forall₂ (fun d y => List.Forall₂ (fun (e : ValidatorDefinition) r =>
          (e.message = none → r.message = .fixed (e.comparator ++ " validation failed")) ∧
          ∀ source, e.message = some source →
            ∃ t, Template.parse source = .ok t ∧ s.Phrased t r)
        d.validators (s.store.rulesOf y)) ds x.fields := by
  obtain ⟨hs, s₀, b, h₀, known, made, later⟩ := h.later
  obtain ⟨Fs, plan, fields⟩ := h₀.made_of_compile known made later hs.sound hx
  have words := Blueprint.words_of_definitions plan
  have configuration : s.engine.configuration = c := hs.engine.configuration
  refine ⟨congrArg Configuration.culture configuration, ?_⟩
  refine forall₂_join words.flip fields fun F d _ y hd hy => ?_
  refine forall₂_join hd.flip hy.forall₂_rulesOf fun R e _ r he hr => ?_
  refine ⟨fun none => ?_, fun source some => ?_⟩
  · have hm := hr.message
    rw [he.absent none] at hm
    generalize r.message = m at hm
    cases hm
    rfl
  · obtain ⟨t, ht, hm⟩ := he.template source some
    exact ⟨t, ht, phrased_of_rel hs.engine.evaluator hm hr.message⟩

/-- The templates of live messages are evaluated as the engine does it. -/
theorem Compiled.source_of_live {c : Configuration} {reg : Registry} {ds : List FieldDefinition}
    {f : FormId} (h : Compiled (.ofConfiguration c reg) s ds f) (hx : s.store.form? f = some x)
    {y : Field} (hy : y ∈ x.fields) {r : Rule ProxyId} (hr : r ∈ s.store.rulesOf y) {p : ProxyId}
    (message : r.message = .live p) {z : ProxyState Script} (hz : s.store.proxy? p = some z)
    {t : Template} (ht : z.source.template? = some t) : z.source = .template s.engine.evaluator t := by
  obtain ⟨hs, s₀, b, h₀, known, made, later⟩ := h.later
  obtain ⟨Fs, -, fields⟩ := h₀.made_of_compile known made later hs.sound hx
  obtain ⟨F, -, hF⟩ := exists_right_of_forall₂ fields.flip hy
  obtain ⟨R, -, hR⟩ := exists_right_of_forall₂ hF.forall₂_rulesOf.flip hr
  have hm := hR.message
  rw [message] at hm
  generalize R.message = M at hm
  cases hm with
  | @live X _ hp =>
    obtain ⟨z', hz', made⟩ := hp
    obtain rfl : z = z' := Option.some.inj (hz.symm.trans hz')
    rw [hs.engine.evaluator]
    cases X with
    | template T =>
      rw [made.fits.eq_template] at ht ⊢
      cases ht
      rfl
    | document j =>
      obtain ⟨u, -, source⟩ := made.fits.eq_document
      rw [source] at ht
      cases ht

/-- A configuration with a comma before the places of numbers. -/
def comma : Configuration := { Configuration.testing with culture := .withSeparator "de-DE" ',' }

/-- A field with three rules that numbers fail. Their messages are a number, what the field reads, and
    that in a sentence. -/
def wordedField : List FieldDefinition :=
  [plainField "n" none [
    plainRule "IsTrue" none "\x7b1.5\x7d",
    { plainRule "IsTrue" none "\x7bBinding n\x7d" with strict := some true },
    { plainRule "IsTrue" none "not \x7bBinding n\x7d" with strict := some true }]]

/-- The form of that field for an object that holds the number. -/
def wordedTrial : Option (Session × FormId × FormState) :=
  formTrial (.ofConfiguration comma .empty) 60
    [("m", [("n", .value (.decimal ⟨15, 1, by decide, by decide⟩))])] wordedField "m" []

/-- The number has a comma where it is fixed, a point where it is read, and a comma again where a
    sentence is made with it. -/
theorem phrased_number : ∃ s f x y d,
    Compiled (.ofConfiguration comma .empty) s wordedField f ∧ s.store.form? f = some x ∧
      x.fields = [y] ∧ (s.fieldView y).result.errors = ["1,5", "1.5", "not 1,5"] ∧
      wordedField = [d] ∧ d.validators.map ValidatorDefinition.message =
        [some "\x7b1.5\x7d", some "\x7bBinding n\x7d", some "not \x7bBinding n\x7d"] ∧
      List.Forall₂ (fun (e : ValidatorDefinition) r => ∀ source, e.message = some source →
        ∃ t, Template.parse source = .ok t ∧ s.Phrased t r) d.validators (s.store.rulesOf y) := by
  have run : wordedTrial.any (fun r => decide (r.2.2.fields.length = 1 ∧
      ∀ y ∈ r.2.2.fields, (r.1.fieldView y).result.errors = ["1,5", "1.5", "not 1,5"])) = true := by
    decide +kernel
  obtain ⟨⟨s, f, x⟩, hr, hp⟩ := (Option.any_eq_true _ _).1 run
  obtain ⟨h, -, hx⟩ := compiled_of_formTrial hr
  obtain ⟨-, all⟩ := h.phrased hx
  obtain ⟨single, errors⟩ := of_decide_eq_true hp
  obtain ⟨y, hy⟩ := List.length_eq_one_iff.1 single
  rw [wordedField, hy] at all
  obtain ⟨rules, -⟩ := List.forall₂_cons.1 all
  exact ⟨s, f, x, y, _, h, hx, hy, errors y (hy ▸ List.mem_singleton_self y), rfl, rfl,
    rules.imp fun _ _ hr => hr.2⟩

/-- The rule whose message is what the field reads is up to date, and it reports the number with a
    point, which has a comma in the culture of the engine. -/
theorem live_message_with_point : ∃ s f x y r t w,
    Compiled (.ofConfiguration comma .empty) s wordedField f ∧ s.agenda = [] ∧
      s.store.form? f = some x ∧ s.Whole x ∧ y ∈ x.fields ∧ r ∈ s.store.rulesOf y ∧
      s.UpToDate t r w ∧ s.engine.culture.format w = "1,5" ∧
      r.outcome s.engine.culture s.store.valueOf (s.store.valueOf y.value) = .failed "1.5" := by
  have run : wordedTrial.any (fun r => decide (r.1.Whole r.2.2) && r.2.2.fields.any fun y =>
      (r.1.store.rulesOf y).any fun rule => rule.message.source?.any fun p =>
        (r.1.store.proxy? p).any fun z => z.source.template?.any fun t =>
          decide (t.isConstant = false ∧
            (r.1.engine.evaluator.valueOf (r.1.store.scope z.binding) t.root).decimal? =
              some ⟨15, 1, by decide, by decide⟩ ∧
            z.cached.decimal? = some ⟨15, 1, by decide, by decide⟩ ∧
            r.1.engine.culture = comma.culture ∧
            rule.outcome r.1.engine.culture r.1.store.valueOf (r.1.store.valueOf y.value) =
              .failed "1.5")) = true := by
    decide +kernel
  have number : ∀ v : Value, v.decimal? = some ⟨15, 1, by decide, by decide⟩ →
      v = .decimal ⟨15, 1, by decide, by decide⟩ := by
    intro v hv
    cases v <;> simp_all [Value.decimal?, Decimal.ofInt64]
  obtain ⟨⟨s, f, x⟩, hr, hp⟩ := (Option.any_eq_true _ _).1 run
  obtain ⟨h, idle, hx⟩ := compiled_of_formTrial hr
  obtain ⟨whole, hp⟩ := Bool.and_eq_true_iff.1 hp
  obtain ⟨y, hy, hp⟩ := List.any_eq_true.1 hp
  obtain ⟨r, hrule, hp⟩ := List.any_eq_true.1 hp
  obtain ⟨p, hm, hp⟩ := (Option.any_eq_true _ _).1 hp
  obtain ⟨z, hz, hp⟩ := (Option.any_eq_true _ _).1 hp
  obtain ⟨t, ht, hp⟩ := (Option.any_eq_true _ _).1 hp
  obtain ⟨hlive, value, cached, culture, failed⟩ := of_decide_eq_true hp
  have message : r.message = .live p := by
    cases hr : r.message <;> rw [hr] at hm <;> cases hm
    rfl
  have source := h.source_of_live hx hy hrule message hz ht
  refine ⟨s, f, x, y, r, t, .decimal ⟨15, 1, by decide, by decide⟩, h, idle, hx,
    of_decide_eq_true whole, hy, hrule, ?_, ?_, failed⟩
  · rw [UpToDate, if_neg (by simp [hlive])]
    exact ⟨p, z, message, hz, source, number _ value, number _ cached⟩
  · rw [culture]
    decide +kernel

end Session

end LiveForm
