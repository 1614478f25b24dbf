/-
  Texts that are put into templates.

  Where a text is put into a template as it is, its characters count as characters of the template:
  a bar makes a filter of what follows it, a brace ends an expression. Where its braces get a
  backslash, it stands for itself. The keys of fields are put in as they are.

  * `Parser.template_escaped`: a text with escaped braces is read as itself, and evaluates to itself
    everywhere;
  * `IsDotted` says of a key that it is made of names with points between them;
  * `Compilation.value_reads_key`: the proxy of a field reads the path that its key spells exactly
    if the key is dotted, whatever else the reader makes of other keys.
-/
import LiveForm.Proofs.Adding
import LiveForm.Proofs.Keeping
import LiveForm.Proofs.Writing

namespace LiveForm

/-! ## Escaped texts -/

theorem Segment.split_escaped (s : String) :
    split (s.toList.flatMap Part.escapeBrace) = .ok (flush s.toList.reverse) := by
  have hclear : ClearOf s.toList [] := by simp [ClearOf]
  obtain ⟨pos, h⟩ := splitText_escaped [] 0 hclear
  rw [List.append_nil, List.append_nil] at h
  rw [split, h, splitText]

theorem Part.flatMap_escapeBrace {cs : List Char} (h : ∀ c ∈ cs, c ≠ '{' ∧ c ≠ '}') :
    cs.flatMap escapeBrace = cs := by
  induction cs with
  | nil => rfl
  | cons c cs ih =>
    obtain ⟨⟨hopen, hclose⟩, hcs⟩ := List.forall_mem_cons.1 h
    rw [List.flatMap_cons, ih hcs, escapeBrace, if_neg hopen, if_neg hclose]
    rfl

theorem Parser.template_renderPart_text (s : String) :
    template (String.ofList (Expression.renderPart (.text s))) = .ok (.literal (.string s)) := by
  have hsplit : Segment.split (String.ofList (Expression.renderPart (.text s))).toList =
      .ok (Segment.flush s.toList.reverse) := by
    rw [String.toList_ofList]
    exact Segment.split_escaped s
  by_cases hs : s = ""
  · subst hs
    exact template_of_segments hsplit .nil
  · rw [Segment.flush_text hs] at hsplit
    exact template_of_segments hsplit (.cons rfl .nil)

/-- A text whose braces are escaped is, as a template, the text itself, with whatever filters, in
    whatever culture and over whatever objects it is evaluated. A text without braces needs no
    escaping. -/
theorem Parser.template_escaped (s : String) :
    template (String.ofList (Expression.renderPart (.text s))) = .ok (.literal (.string s)) ∧
      (∀ (ev : Evaluator) (sc : Scope),
        ev.evaluate sc (.literal (.string s)) = .ok (.string s) ∧
          ev.valueOf sc (.literal (.string s)) = .string s) ∧
      ((∀ c ∈ s.toList, c ≠ '{' ∧ c ≠ '}') → template s = .ok (.literal (.string s))) := by
  refine ⟨template_renderPart_text s, fun ev sc => ⟨rfl, rfl⟩, fun h => ?_⟩
  have hs : String.ofList (Expression.renderPart (.text s)) = s := by
    rw [Expression.renderPart, Part.flatMap_escapeBrace h, String.ofList_toList]
  rw [← template_renderPart_text s, hs]

theorem Parser.template_escaped_backslashes :
    (template "\\\\\x7ba\\\x7d\\" = .ok (.literal (.string "\\\x7ba\x7d\\")) ∧
      ∀ (ev : Evaluator) (sc : Scope),
        ev.evaluate sc (.literal (.string "\\\x7ba\x7d\\")) = .ok (.string "\\\x7ba\x7d\\")) ∧
    (∀ c ∈ "C:\\".toList, c ≠ '{' ∧ c ≠ '}') ∧
      template "C:\\" = .ok (.literal (.string "C:\\")) := by
  have htext : String.ofList (Expression.renderPart (.text "\\\x7ba\x7d\\")) =
      "\\\\\x7ba\\\x7d\\" := by
    rw [← String.toList_inj, String.toList_ofList]
    decide +kernel
  have hbraces : ∀ c ∈ "C:\\".toList, c ≠ '{' ∧ c ≠ '}' := by simp
  obtain ⟨hparse, hvalue, -⟩ := template_escaped "\\\x7ba\x7d\\"
  exact ⟨⟨htext ▸ hparse, fun ev sc => (hvalue ev sc).1⟩, hbraces,
    (template_escaped "C:\\").2.2 hbraces⟩

/-! ## Keys -/

/-- A key of names with points between them. -/
def IsDotted (key : String) : Prop :=
  ∀ name ∈ key.toList.splitOn '.', IsWritableName (String.ofList name)

instance (key : String) : Decidable (IsDotted key) :=
  inferInstanceAs (Decidable (∀ name ∈ key.toList.splitOn '.', _))

theorem IsWritableName.of_isName {name : String} (h : Token.IsName name) : IsWritableName name := by
  obtain ⟨hword, htoken⟩ := h
  refine ⟨?_, ?_⟩
  · cases hcs : name.toList with
    | nil => rw [hcs] at hword; exact hword.elim
    | cons c r =>
      rw [hcs] at hword
      simpa [Identifier.isValid] using And.intro hword.1.2.2.2.2 hword.2
  · intro hm
    simp only [List.mem_cons, List.not_mem_nil, or_false] at hm
    rcases hm with rfl | rfl | rfl <;> simp [Token.ofWord] at htoken

theorem IsWritableName.not_mem_dot {name : String} (h : IsWritableName name) :
    '.' ∉ name.toList := by
  intro hm
  obtain ⟨c, r, hcs⟩ := List.exists_cons_of_ne_nil (List.ne_nil_of_mem hm)
  have hvalid : Identifier.isValid (c :: r) = true := hcs ▸ h.1
  simp only [Identifier.isValid, Bool.and_eq_true, List.all_eq_true] at hvalid
  rw [hcs] at hm
  rcases List.mem_cons.1 hm with rfl | hm
  · exact absurd hvalid.1 (by decide +kernel)
  · exact absurd (hvalid.2 '.' hm) (by decide +kernel)

namespace Path

theorem renderSegments_eq_intercalate (names : List String) :
    renderSegments names = ['.'].intercalate (names.map String.toList) := by
  fun_induction renderSegments names with
  | case1 => rfl
  | case2 name => simp [List.intercalate]
  | case3 name other names ih => simp [ih, List.intercalate]

theorem toList_join (names : List String) :
    (Text.join "." names).toList = renderSegments names := by
  rw [renderSegments_eq_intercalate, Text.join, String.toList_intercalate]
  rfl

/-- The names that the key of a path spells. -/
theorem splitOn_renderSegments {names : List String} (hne : names ≠ [])
    (h : ∀ name ∈ names, IsWritableName name) :
    (renderSegments names).splitOn '.' = names.map String.toList := by
  rw [renderSegments_eq_intercalate]
  refine List.splitOn_intercalate _ ?_ (by simpa using hne)
  intro cs hcs
  obtain ⟨name, hm, rfl⟩ := List.mem_map.1 hcs
  exact (h name hm).not_mem_dot

end Path

theorem Parser.segments_of_template {s : String} {e : Expression} (h : template s = .ok e) :
    ∃ gs ps, Segment.split s.toList = .ok gs ∧ ReadsAs gs ps ∧ ofParts ps = e := by
  cases hs : Segment.split s.toList with
  | error err => simp [template, hs, bind, Except.bind] at h
  | ok gs =>
    cases hr : gs.mapM part with
    | error err => simp [template, hs, hr, bind, Except.bind] at h
    | ok ps =>
      rw [template_of_segments hs hr] at h
      exact ⟨gs, ps, rfl, hr, Except.ok.inj h⟩

theorem Parser.template_of_parse {source : String} {t : Template}
    (h : Template.parse source = .ok t) : template source = .ok t.root := by
  unfold Template.parse at h
  cases ht : template source with
  | error e => rw [ht] at h; cases h
  | ok root => rw [ht] at h; cases h; rfl

/-- An expression that is a whole template, without parts of its own, is a text or has been read from a
    body. -/
theorem Parser.named_of_template {s : String} {e : Expression} (h : template s = .ok e)
    (he : ∀ parts, e ≠ .interpolation parts) : e.Named := by
  obtain ⟨gs, ps, -, hr, rfl⟩ := segments_of_template h
  match ps, hr with
  | [], _ | [.text _], _ => trivial
  | [.expression e], hr =>
    match gs, hr with
    | [], hr => cases hr.of_nil
    | g :: gs, hr =>
      obtain ⟨q, qs, hg, -, hq⟩ := hr.of_cons
      cases hq
      obtain ⟨b, start, -, hb⟩ := body_of_part hg
      exact named_of_body hb
  | p :: q :: ps, _ =>
    have shape : ofParts (p :: q :: ps) = .interpolation (p :: q :: ps) := by cases p <;> rfl
    exact absurd shape (he _)

/-- The template of a key is a path of the model that the key spells exactly if the key is
    dotted. -/
theorem Parser.keyTemplate_reads_iff (key : String) :
    (∃ names, template (Compilation.keyTemplate key) = .ok (.path ⟨.model, names⟩) ∧
      Text.join "." names = key) ↔ IsDotted key := by
  constructor
  · rintro ⟨names, ht, rfl⟩
    have hnamed := named_of_template ht (by simp)
    have hw : ∀ name ∈ names, IsWritableName name := fun name hm => .of_isName (hnamed.2 name hm)
    intro cs hcs
    rw [Path.toList_join, Path.splitOn_renderSegments hnamed.1 hw] at hcs
    obtain ⟨name, hm, rfl⟩ := List.mem_map.1 hcs
    rw [String.ofList_toList]
    exact hw name hm
  · intro hkey
    let p : Path := ⟨.model, (key.toList.splitOn '.').map String.ofList⟩
    have hw : ∀ name ∈ p.segments, IsWritableName name := by
      intro name hm
      obtain ⟨cs, hcs, rfl⟩ := List.mem_map.1 hm
      exact hkey cs hcs
    have hne : p.segments ≠ [] := by simp [p, List.splitOn_ne_nil]
    have hsegments : Path.renderSegments p.segments = key.toList := by
      rw [Path.renderSegments_eq_intercalate, List.map_map]
      simp [Function.comp_def, List.intercalate_splitOn]
    refine ⟨p.segments, ?_, ?_⟩
    · have hrender : Compilation.keyTemplate key = String.ofList ('{' :: (p.render ++ ['}'])) := by
        rw [← String.toList_inj, String.toList_ofList, Path.render, hsegments]
        simp [Compilation.keyTemplate, p, Root.keyword]
      rw [hrender]
      exact (Expression.isBody_path hne hw).template
    · rw [← String.toList_inj, Path.toList_join, hsegments]

/-! ## The proxies of fields -/

namespace Store

variable {H : Type} {s : Store H} {q : ProxyId} {x : ProxySource}

/-- There is a proxy that is computed from a source. -/
def Computes (s : Store H) (q : ProxyId) (x : ProxySource) : Prop :=
  (s.proxy? q).map ProxyState.source = some x

theorem Adds.computes {t : Store H} (h : s.Adds t) (hq : s.Computes q x) : t.Computes q x := by
  obtain ⟨y, hy, hx⟩ := Option.map_eq_some_iff.1 hq
  obtain ⟨z, hz, hs, -⟩ := h.proxy q y hy
  exact Option.map_eq_some_iff.2 ⟨z, hz, hs.trans hx⟩

theorem map_source_listenAll (v : ValidatorId) (s : Store H) (ps : List ProxyId) (q : ProxyId) :
    ((listenAll v s ps).1.proxy? q).map ProxyState.source =
      (s.proxy? q).map ProxyState.source := by
  induction ps generalizing s with
  | nil => rfl
  | cons p ps ih => exact (ih _).trans (map_proxy?_modifyProxy fun _ _ => rfl)

/-- What is made for a form leaves the sources of proxies alone. -/
theorem kept_computes (b : Binding) (q : ProxyId) (x : ProxySource) :
    Compilation.Kept (H := H) b (fun s => s.Computes q x) fun _ => True where
  template ev t limit h := ⟨(Adds.newProxy (.template ev t) b limit).computes h, trivial⟩
  constant v h := ⟨(Adds.newProxy (.constant v) ⟨none, none⟩ 1).computes h, trivial⟩
  document j h := (Adds.of_builds (newValue_spec _ j).1).computes h
  validator _ _ _ _ h _ := (map_source_listenAll _ _ (_ :: _) q).trans h

end Store

namespace Compilation

variable {H : Type} {w w' : Workspace H} {b : Binding} {d : FieldDefinition} {f : Field}

theorem computes_template {key part source : String} {q : ProxyId} (hc : w.engine.cache.Honest)
    (h : (template b key part source).outcome w = (.ok q, w')) :
    ∃ ev t, Template.parse source = .ok t ∧ w'.store.Computes q (.template ev t) := by
  have hparse := Engine.template_of_honest hc source
  rcases ht : w.engine.template source with ⟨e | t, g⟩ <;> rw [ht] at hparse
  · have hw : w.bind source b w.engine.configuration.maxPasses =
        (.error e, { w with engine := g }) := by
      simp only [Workspace.bind, ht]
    rw [outcome_template b key part source w hw] at h
    cases h
  · have hw : w.bind source b w.engine.configuration.maxPasses =
        (.ok ⟨w.store.proxies.next⟩, ⟨g, (w.store.newProxy (.template g.evaluator t) b
          w.engine.configuration.maxPasses).1⟩) := by
      simp only [Workspace.bind, ht]
      rfl
    rw [outcome_template b key part source w hw] at h
    cases h
    obtain ⟨ws, hx⟩ := Store.proxy?_newProxy (s := w.store) (.template g.evaluator t) b
      w.engine.configuration.maxPasses
    exact ⟨_, t, hparse.symm, Option.map_eq_some_iff.2 ⟨_, hx, rfl⟩⟩

theorem computes_of_keeps {m : Compilation H Field} {value : ProxyId} {x : ProxySource}
    (h : m.outcome w = (.ok f, w')) (hs : w.store.Computes value x)
    (hm : Keeps (fun s => s.Computes value x) m fun f => f.value = value) :
    w'.store.Computes f.value x := by
  obtain ⟨hstore, hvalue⟩ := hm w hs
  rw [h] at hstore hvalue
  rw [hvalue f rfl]
  exact hstore

/-- The proxy of the value of a field is computed from the template of its key. -/
theorem computes_field (hc : w.engine.cache.Honest) (h : (field b d).outcome w = (.ok f, w')) :
    ∃ ev t, Template.parse (keyTemplate d.key) = .ok t ∧
      w'.store.Computes f.value (.template ev t) := by
  rw [field, outcome_bind] at h
  rcases hv : (template b d.key "key" (keyTemplate d.key)).outcome w with ⟨e | value, w₁⟩
  · rw [hv] at h
    cases h
  · rw [hv] at h
    dsimp only at h
    obtain ⟨ev, t, ht, hs⟩ := computes_template hc hv
    have hk := Store.kept_computes (H := H) b value (.template ev t)
    -- What comes after the proxy of the value keeps it, and the field is one with that proxy.
    exact ⟨ev, t, ht, computes_of_keeps h hs <|
      (hk.template?_keeps d.key "name" d.name).bind fun name _ =>
      (hk.template?_keeps d.key "tooltip" d.tooltip).bind fun tooltip _ =>
      (hk.condition_keeps d.key "isVisible" d.isVisible).bind fun visible _ =>
      (hk.condition_keeps d.key "isEnabled" d.isEnabled).bind fun enabled _ =>
      (Keeps.mapM (hk.rule_keeps d.key) d.validators).bind fun rules _ =>
      (hk.validator_keeps fun _ _ => trivial).bind fun v _ => .pure rfl⟩

/-- The proxy of a field that has been made is computed from the template of its key. It reads a
    path of the model that the key spells exactly if the key is made of names with points between
    them. -/
theorem value_reads_key (hc : w.engine.cache.Honest) (h : (field b d).outcome w = (.ok f, w')) :
    ∃ x ev t, w'.store.proxy? f.value = some x ∧ x.source = .template ev t ∧
      t.source = keyTemplate d.key ∧
      ((∃ names, t.root = .path ⟨.model, names⟩ ∧ Text.join "." names = d.key) ↔
        IsDotted d.key) := by
  obtain ⟨ev, t, ht, hs⟩ := computes_field hc h
  obtain ⟨x, hx, hsource⟩ := Option.map_eq_some_iff.1 hs
  refine ⟨x, ev, t, hx, hsource, Template.source_of_parse ht, ?_⟩
  rw [← Parser.keyTemplate_reads_iff, Parser.template_of_parse ht]
  simp only [Except.ok.injEq]

theorem exists_ok {α : Type} {m : Compilation H α} (h : (m.outcome w).1.isOk) :
    ∃ a w', m.outcome w = (.ok a, w') := by
  rcases hm : m.outcome w with ⟨e | a, w'⟩
  · rw [hm] at h
    cases h
  · exact ⟨a, w', rfl⟩

/-- A field of a key, with nothing else said. -/
def bare (key : String) : FieldDefinition where
  key := key
  name := none
  tooltip := none
  isVisible := none
  isEnabled := none
  hiddenOnFalse := false
  validators := []

/-- A workspace in which nothing has been made. -/
def untouched : Workspace Unit := ⟨.ofConfiguration .testing .empty, .empty⟩

theorem value_reads_key_nested :
    ∃ f w', untouched.engine.cache.Honest ∧
      (field ⟨none, none⟩ (bare "Größe.n2")).outcome untouched = (.ok f, w') ∧
      IsDotted "Größe.n2" ∧ ∃ x ev t, w'.store.proxy? f.value = some x ∧ x.source = .template ev t ∧
        ∃ names, t.root = .path ⟨.model, names⟩ ∧ Text.join "." names = "Größe.n2" := by
  have hc : untouched.engine.cache.Honest := Template.Cache.honest_empty _
  obtain ⟨f, w', h⟩ := exists_ok (H := Unit) (w := untouched)
    (m := field ⟨none, none⟩ (bare "Größe.n2")) (by decide +kernel)
  have hkey : IsDotted "Größe.n2" := by decide +kernel
  obtain ⟨x, ev, t, hx, hs, -, hreads⟩ := value_reads_key hc h
  exact ⟨f, w', hc, h, hkey, x, ev, t, hx, hs, hreads.2 hkey⟩

/-- A field is made of the key, and no path that its proxy reads spells the key. -/
def IsMisread (key : String) : Prop :=
  ∃ f w' ev t, (field ⟨none, none⟩ (bare key)).outcome untouched = (.ok f, w') ∧
    w'.store.Computes f.value (.template ev t) ∧
    ¬∃ names, t.root = .path ⟨.model, names⟩ ∧ Text.join "." names = key

theorem isMisread_of_not_dotted {key : String}
    (hok : ((field ⟨none, none⟩ (bare key)).outcome untouched).1.isOk) (hkey : ¬IsDotted key) :
    IsMisread key := by
  have hc : untouched.engine.cache.Honest := Template.Cache.honest_empty _
  obtain ⟨f, w', h⟩ := exists_ok hok
  obtain ⟨ev, t, ht, hs⟩ := computes_field hc h
  refine ⟨f, w', ev, t, h, hs, ?_⟩
  rintro ⟨names, hroot, hjoin⟩
  refine hkey ((Parser.keyTemplate_reads_iff key).1 ⟨names, ?_, hjoin⟩)
  rw [← hroot]
  exact Parser.template_of_parse ht

/-- Fields are made of keys that are not dotted, with proxies that read something else: a filtered
    property, one of two numbers, two texts put together, and a property of another name. -/
theorem value_reads_other_than_key :
    IsMisread "n|ToUpper" ∧ IsMisread "n ? 1 : 2" ∧ IsMisread "n\x7d \x7bBinding m" ∧
      IsMisread " n" := by
  refine ⟨?_, ?_, ?_, ?_⟩ <;> exact isMisread_of_not_dotted (by decide +kernel) (by decide +kernel)

end Compilation

end LiveForm
