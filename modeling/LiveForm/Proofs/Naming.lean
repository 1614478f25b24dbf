/-
  The names of filters.

  A registry accepts a filter whose name is an identifier, and a template applies the filter of a name
  that its scanner takes for a name. These are the same names but for the three words that stand for
  literals: they are identifiers, so a filter of such a name is registered, and no template can apply
  it.

  * `isApplicable_iff`: the names of the filters that a template can apply;
  * `Registry.Extends`: what a registry resolves another one resolves in the same way;
    `extends_registerAll`: so it is after any registrations;
  * `Registry.admits_names`: which filters are accepted, and what further registrations change.
-/
import LiveForm.Filter.Custom
import LiveForm.Proofs.Splicing
import LiveForm.Session.Effect

namespace LiveForm

/-! ## Names in templates -/

/-- A template that applies the filter of a name to a property. -/
def filterTemplate (name : String) : String := "\x7bBinding A|" ++ name ++ "\x7d"

/-- The template for a name is an application of the filter of this name. -/
def IsApplicable (name : String) : Prop :=
  ∃ source args, Parser.template (filterTemplate name) = .ok (.pipe source name args)

/-- The words that stand for literals. -/
def literalWords : List String := ["true", "false", "null"]

theorem isApplicable_iff (name : String) : IsApplicable name ↔ IsWritableName name := by
  constructor
  · rintro ⟨source, args, h⟩
    have named : (Expression.pipe source name args).Named := Parser.named_of_template h (by simp)
    exact .of_isName named.2.1
  · intro h
    let property : Path := ⟨.model, ["A"]⟩
    have named : (Expression.pipe (.path property) name []).Named := by
      have first : IsWritableName "A" := by decide
      exact ⟨⟨by simp [property], by simpa [property] using first.isName⟩, h.isName, trivial⟩
    have text : filterTemplate name =
        String.ofList ('{' :: ((Expression.pipe (.path property) name []).render ++ ['}'])) := by
      rw [← String.toList_inj, String.toList_ofList]
      simp [filterTemplate, Expression.render, Expression.renderArgs, Path.render,
        Path.renderSegments, property, Root.keyword]
    refine ⟨.path property, [], ?_⟩
    rw [text]
    exact (Expression.isBody_render named rfl).template

/-- Identifiers are the names that can be written, and the words that stand for literals. -/
theorem isValid_iff (name : String) :
    Identifier.isValid name.toList ↔ IsWritableName name ∨ name ∈ literalWords := by
  have words : ∀ word ∈ literalWords, Identifier.isValid word.toList := by decide
  by_cases hw : name ∈ literalWords
  · exact iff_of_true (words name hw) (.inr hw)
  · simp only [hw, or_false, IsWritableName]
    exact (and_iff_left hw).symm

/-! ## Registries -/

namespace Registry

variable {r s t : Registry} {f g : Filter} {name : String}

theorem exists_register_iff (fresh : r.resolve f.name = none) :
    (∃ s, r.register f = .ok s) ↔ Identifier.isValid f.name.toList := by
  cases valid : Identifier.isValid f.name.toList <;> simp [register, valid, fresh]

/-- What a registry resolves the other one resolves in the same way. -/
def Extends (r s : Registry) : Prop := ∀ name f, r.resolve name = some f → s.resolve name = some f

theorem Extends.refl (r : Registry) : r.Extends r := fun _ _ h => h

theorem Extends.trans (h : r.Extends s) (h' : s.Extends t) : r.Extends t :=
  fun name f hf => h' name f (h name f hf)

theorem resolve_of_register (h : r.register f = .ok s) (name : String) :
    s.resolve name = (r.resolve name).or (if f.name = name then some f else none) := by
  unfold register at h
  split_ifs at h
  cases h
  simp only [resolve, List.find?_append, List.find?_singleton, beq_iff_eq]

theorem fresh_of_register (h : r.register f = .ok s) : r.resolve f.name = none := by
  unfold register at h
  split_ifs at h with _ fresh
  exact Option.not_isSome_iff_eq_none.1 fresh

theorem extends_register (h : r.register f = .ok s) : r.Extends s := by
  intro name g hg
  rw [resolve_of_register h, hg, Option.some_or]

/-! ## Registrations in turn -/

theorem registerAll_of_ok (h : r.register f = .ok s) (fs : List Filter) :
    Session.registerAll r (f :: fs) =
      ((Session.registerAll s fs).1, none :: (Session.registerAll s fs).2) := by
  rw [Session.registerAll, h]

theorem registerAll_of_error {e : RegistryError} (h : r.register f = .error e) (fs : List Filter) :
    Session.registerAll r (f :: fs) =
      ((Session.registerAll r fs).1, some e :: (Session.registerAll r fs).2) := by
  rw [Session.registerAll, h]

/-- Registrations that follow others begin with the registry that these leave. -/
theorem registerAll_append (r : Registry) (fs gs : List Filter) :
    Session.registerAll r (fs ++ gs) =
      ((Session.registerAll (Session.registerAll r fs).1 gs).1,
        (Session.registerAll r fs).2 ++ (Session.registerAll (Session.registerAll r fs).1 gs).2) := by
  induction fs generalizing r with
  | nil => rfl
  | cons f fs ih =>
    cases h : r.register f with
    | ok s => rw [List.cons_append, registerAll_of_ok h, registerAll_of_ok h, ih, List.cons_append]
    | error e =>
      rw [List.cons_append, registerAll_of_error h, registerAll_of_error h, ih, List.cons_append]

theorem extends_registerAll (r : Registry) (fs : List Filter) :
    r.Extends (Session.registerAll r fs).1 := by
  induction fs generalizing r with
  | nil => exact .refl r
  | cons f fs ih =>
    cases h : r.register f with
    | ok s =>
      rw [registerAll_of_ok h]
      exact (extends_register h).trans (ih s)
    | error e =>
      rw [registerAll_of_error h]
      exact ih r

/-- A filter of a new name is accepted exactly if a template can apply it, or if its name stands for a
    literal; so acceptance is applicability exactly for the other names. And whatever is registered in
    turn, a registration that is refused leaves the registry as it was, one that is accepted makes the
    name stand for the filter, and all names go on standing for the filters that they stood for. -/
theorem admits_names (r : Registry) (f : Filter) :
    (r.resolve f.name = none →
      ((∃ s, r.register f = .ok s) ↔ IsApplicable f.name ∨ f.name ∈ literalWords) ∧
        (((∃ s, r.register f = .ok s) ↔ IsApplicable f.name) ↔ f.name ∉ literalWords)) ∧
      ∀ fs,
        (match (Session.registerAll r fs).1.register f with
          | .error e => Session.registerAll r (fs ++ [f]) =
            ((Session.registerAll r fs).1, (Session.registerAll r fs).2 ++ [some e])
          | .ok s => Session.registerAll r (fs ++ [f]) =
            (s, (Session.registerAll r fs).2 ++ [none]) ∧ s.resolve f.name = some f) ∧
        ∀ gs, (Session.registerAll r fs).1.Extends (Session.registerAll r (fs ++ gs)).1 := by
  refine ⟨fun fresh => ?_, fun fs => ⟨?_, fun gs => ?_⟩⟩
  · rw [exists_register_iff fresh, isValid_iff, isApplicable_iff]
    have apart : IsWritableName f.name → f.name ∉ literalWords := fun hw => hw.2
    exact ⟨Iff.rfl, fun h hl => apart (h.1 (.inr hl)) hl, or_iff_left⟩
  · cases h : (Session.registerAll r fs).1.register f with
    | error e =>
      simp only
      rw [registerAll_append, registerAll_of_error h]
      rfl
    | ok s =>
      simp only
      rw [registerAll_append, registerAll_of_ok h, resolve_of_register h, fresh_of_register h,
        if_pos rfl, Option.none_or]
      exact ⟨rfl, rfl⟩
  · rw [registerAll_append]
    exact extends_registerAll _ gs

/-- A filter that gives back what it is applied to. -/
def echoOf (name : String) : Filter := .echo name ⟨0, none⟩ ""

theorem admits_names_foreign :
    standard.resolve "Größe" = none ∧ IsApplicable "Größe" ∧
      (∃ s, standard.register (echoOf "Größe") = .ok s) ∧
      standard.resolve "null" = none ∧ "null" ∈ literalWords ∧
      (∃ s, standard.register (echoOf "null") = .ok s) := by
  have fresh : standard.resolve "Größe" = none := Option.isNone_iff_eq_none.1 (by decide)
  have word : standard.resolve "null" = none := Option.isNone_iff_eq_none.1 (by decide)
  have named : IsApplicable "Größe" := (isApplicable_iff _).2 (by decide)
  exact ⟨fresh, named, ((admits_names standard (echoOf "Größe")).1 fresh).1.2 (.inl named), word,
    by decide, ((admits_names standard (echoOf "null")).1 word).1.2 (.inr (by decide))⟩

/-- A filter with the name of a literal is accepted, and no template applies it. -/
theorem admits_literalWord :
    (∃ s, standard.register (echoOf "true") = .ok s) ∧ ¬IsApplicable "true" := by
  have fresh : standard.resolve "true" = none := Option.isNone_iff_eq_none.1 (by decide)
  have hw : "true" ∈ literalWords := by decide
  exact ⟨(exists_register_iff fresh).2 ((isValid_iff _).2 (.inr hw)),
    fun h => ((isApplicable_iff _).1 h).2 hw⟩

end Registry

end LiveForm
