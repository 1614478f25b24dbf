/-
  Engines that have read templates.

  A cache holds nothing but what its texts are read as. So an engine gives for a text what reading it
  anew would give, whatever it has read before.

  * `Template.Cache.Honest`: the cache holds nothing else, and `Honest.get` keeps that;
  * `Engine.Later`: one engine comes from another one by the reading of templates.
-/
import LiveForm.Engine

namespace LiveForm

namespace Template

theorem source_of_parse {source : String} {t : Template} (h : parse source = .ok t) :
    t.source = source := by
  unfold parse at h
  cases hp : Parser.template source with
  | error e => rw [hp] at h; cases h
  | ok root => rw [hp] at h; cases h; rfl

namespace Cache

variable {c : Cache} {t : Template}

/-- What a cache holds is what its texts are read as. -/
def Honest (c : Cache) : Prop := ∀ t ∈ c.entries, parse t.source = .ok t

theorem honest_empty (capacity : Nat) : (empty capacity).Honest := nofun

theorem Honest.push (h : c.Honest) (ht : parse t.source = .ok t) : (c.push t).Honest := by
  intro u hu
  rcases List.mem_cons.1 (List.mem_of_mem_take hu) with rfl | hu
  · exact ht
  · exact h u (List.mem_filter.1 hu).1

theorem find?_spec {source : String} (h : c.find? source = some t) :
    t ∈ c.entries ∧ t.source = source :=
  ⟨List.mem_of_find?_eq_some h, by simpa using List.find?_some h⟩

/-- A look-up gives what the text is read as, and puts nothing else into the cache. -/
theorem Honest.get (h : c.Honest) (source : String) :
    (c.get source).1 = parse source ∧ (c.get source).2.Honest := by
  unfold Cache.get
  split
  · next t ht =>
    obtain ⟨hm, rfl⟩ := find?_spec ht
    exact ⟨(h t hm).symm, h.push (h t hm)⟩
  · split
    · next e he => exact ⟨he.symm, h⟩
    · next t ht =>
      have hs : parse t.source = .ok t := by rwa [source_of_parse ht]
      exact ⟨ht.symm, Honest.push (c := { c with misses := c.misses + 1 }) h hs⟩

end Cache

end Template

namespace Engine

variable {g g' g'' : Engine}

/-- An engine comes from another one by the reading of templates. -/
structure Later (g g' : Engine) : Prop where
  configuration : g'.configuration = g.configuration
  registry : g'.registry = g.registry
  honest : g.cache.Honest → g'.cache.Honest

theorem Later.refl (g : Engine) : g.Later g := ⟨rfl, rfl, id⟩

theorem Later.trans (h₁ : g.Later g') (h₂ : g'.Later g'') : g.Later g'' :=
  ⟨h₂.configuration.trans h₁.configuration, h₂.registry.trans h₁.registry, h₂.honest ∘ h₁.honest⟩

theorem Later.evaluator (h : g.Later g') : g'.evaluator = g.evaluator := by
  rw [Engine.evaluator, Engine.evaluator, culture, culture, h.configuration, h.registry]

theorem later_template (g : Engine) (source : String) : g.Later (g.template source).2 :=
  ⟨rfl, rfl, fun h => (h.get source).2⟩

/-- An engine gives what a text is read as. -/
theorem template_of_honest (h : g.cache.Honest) (source : String) :
    (g.template source).1 = Template.parse source :=
  (h.get source).1

end Engine

end LiveForm
