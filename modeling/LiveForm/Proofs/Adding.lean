/-
  Additions to a store.

  What is made new does not show in what was there before. `Adds s t` says that the objects, proxies
  and validators of `s` are those of `t` under their numbers, as far as values go. So a template has
  the same value in both stores, and a validator that shows what it should goes on doing so.
-/
import LiveForm.Proofs.Building
import LiveForm.Proofs.Validating

namespace LiveForm

variable {H : Type}

namespace Store

variable {s t u : Store H}

/-- A store comes from another one by additions. -/
structure Adds (s t : Store H) : Prop where
  next : s.objects.next ≤ t.objects.next
  contents : ∀ o, o.index < s.objects.next → t.contents o = s.contents o
  proxy : ∀ p x, s.proxy? p = some x →
    ∃ y, t.proxy? p = some y ∧ y.source = x.source ∧ y.cached = x.cached ∧
      y.binding = x.binding ∧ y.disposed = x.disposed
  validator : ∀ v x, s.validator? v = some x →
    ∃ y, t.validator? v = some y ∧ y.field = x.field ∧ y.rules = x.rules ∧ y.result = x.result

namespace Adds

theorem refl (s : Store H) : s.Adds s where
  next := Nat.le_refl _
  contents _ _ := rfl
  proxy _ x hx := ⟨x, hx, rfl, rfl, rfl, rfl⟩
  validator _ x hx := ⟨x, hx, rfl, rfl, rfl⟩

theorem trans (h₁ : s.Adds t) (h₂ : t.Adds u) : s.Adds u where
  next := Nat.le_trans h₁.next h₂.next
  contents o ho := (h₂.contents o (Nat.lt_of_lt_of_le ho h₁.next)).trans (h₁.contents o ho)
  proxy p x hx := by
    obtain ⟨y, hy, hs, hc, hb, hd⟩ := h₁.proxy p x hx
    obtain ⟨z, hz, hs', hc', hb', hd'⟩ := h₂.proxy p y hy
    exact ⟨z, hz, hs'.trans hs, hc'.trans hc, hb'.trans hb, hd'.trans hd⟩
  validator v x hx := by
    obtain ⟨y, hy, hf, hr, he⟩ := h₁.validator v x hx
    obtain ⟨z, hz, hf', hr', he'⟩ := h₂.validator v y hy
    exact ⟨z, hz, hf'.trans hf, hr'.trans hr, he'.trans he⟩

/-- A change of a node that has not been there before is an addition. -/
theorem of_frame {n : Node} {r : Option Node} (hf : Frame (some n) r s t) (hn : ¬ s.Alive n.entity) :
    s.Adds t where
  next := hf.later.objects.next
  contents o _ := congrFun hf.contents o
  proxy p x hx := by
    have hp : some n ≠ some (.proxy p) := by
      rintro ⟨⟩
      exact hn (Option.isSome_iff_exists.2 ⟨x, hx⟩)
    obtain ⟨y, hy, e⟩ := exists_of_map_eq (hf.proxy p hp).symm hx
    obtain ⟨hs, hb, hc, -, hd⟩ := ProxyState.core_eq_iff.1 e
    exact ⟨y, hy, hs.symm, hc.symm, hb.symm, hd.symm⟩
  validator v x hx := by
    have hv : some n ≠ some (.validator v) := by
      rintro ⟨⟩
      exact hn (Option.isSome_iff_exists.2 ⟨x, hx⟩)
    obtain ⟨y, hy, e⟩ := exists_of_map_eq (hf.validator v hv).symm hx
    obtain ⟨hf, hr, hs, -, -⟩ := ValidatorState.core_eq_iff.1 e
    exact ⟨y, hy, hf.symm, hr.symm, hs.symm⟩

theorem of_builds (h : s.Builds t) : s.Adds t where
  next := h.next
  contents o ho := by rw [Store.contents, Store.contents, h.old o ho]
  proxy p x hx := ⟨x, by rwa [proxy?, h.proxies], rfl, rfl, rfl, rfl⟩
  validator v x hx := ⟨x, by rwa [validator?, h.validators], rfl, rfl, rfl⟩

theorem newProxy (source : ProxySource) (b : Binding) (limit : Nat) :
    s.Adds (s.newProxy source b limit).1 :=
  .of_frame (frame_newProxy source b limit)
    (by simp [Node.entity, Alive, proxy?, Roster.get?_next])

theorem newValidator (ev : Evaluator) {field : ProxyId} {rules : List (Rule ProxyId)} (limit : Nat)
    (h : ∀ p ∈ field :: rules.flatMap Rule.sources, (s.proxy? p).isSome) :
    s.Adds (s.newValidator ev field rules limit).1 :=
  .of_frame (newValidator_spec ev field rules limit h).1
    (by simp [Node.entity, Alive, validator?, Roster.get?_next])

/-! ## What stays the same -/

theorem property (h : s.Adds t) {o : ObjectId} (ho : s.Lives o) (name : String) :
    t.property o name = s.property o name := by
  rw [property_eq, property_eq, h.contents o ho.lt_next]

theorem lives_iff (h : s.Adds t) {o : ObjectId} (ho : o.index < s.objects.next) :
    t.Lives o ↔ s.Lives o := by
  rw [lives_iff_contents, lives_iff_contents, h.contents o ho]

theorem holds (h : s.Adds t) {b : Binding} (hb : s.Holds b) : t.Holds b :=
  fun r o ho => (h.lives_iff (hb r o ho).lt_next).2 (hb r o ho)

theorem root_scope (h : s.Adds t) {b : Binding} (hb : s.Knows b) :
    (t.scope b).root = (s.scope b).root :=
  root_scope_congr fun r o ho => h.lives_iff (hb r o ho)

/-- The value of a source is worked out from what was there before. -/
theorem sourceValue (h : s.Adds t) (hs : s.Sealed) {b : Binding} (hb : s.Knows b)
    (source : ProxySource) : t.sourceValue b source = s.sourceValue b source := by
  cases source with
  | constant v => rfl
  | template ev p =>
    refine Scope.valueOf_congr ev (h.root_scope hb) fun z hz => h.property ?_ z.2
    exact hs.lives_of_mem_watchesOf (x := .fresh (.template ev p) b .null 0) z hz

theorem isSome (h : s.Adds t) {p : ProxyId} (hp : (s.proxy? p).isSome) : (t.proxy? p).isSome := by
  obtain ⟨x, hx⟩ := Option.isSome_iff_exists.1 hp
  obtain ⟨y, hy, -⟩ := h.proxy p x hx
  exact Option.isSome_iff_exists.2 ⟨y, hy⟩

theorem valueOf (h : s.Adds t) {p : ProxyId} (hp : (s.proxy? p).isSome) :
    t.valueOf p = s.valueOf p := by
  obtain ⟨x, hx⟩ := Option.isSome_iff_exists.1 hp
  obtain ⟨y, hy, -, hc, -⟩ := h.proxy p x hx
  rw [valueOf_eq hx, valueOf_eq hy, hc]

/-- A validator of what was there before goes on showing what it should. -/
theorem fresh_validator (h : s.Adds t) {ev : Evaluator} {v : ValidatorId} {x : ValidatorState H}
    (hx : s.validator? v = some x) (hw : ∀ p ∈ x.watched, (s.proxy? p).isSome)
    (hf : s.Fresh ev (.validator v)) : t.Fresh ev (.validator v) := by
  intro z hz
  obtain ⟨y, hy, ef, er, es⟩ := h.validator v x hx
  obtain rfl := Option.some.inj (hy.symm.trans hz)
  rw [es, ef, er, hf x hx]
  exact (validate_congr ev fun p hp => h.valueOf (hw p hp)).symm

end Adds

end Store

end LiveForm
