/-
  What changes that tell nobody leave alone.

  Nodes go on showing what they show and running as they run, whatever changes come to pass that tell
  nobody. Those who may not write leave the properties of objects alone, too, and dispose of nothing.

  * `Store.Spares`: what has become of the objects and nodes of a store; `Spares.changes`: changes make
    no other difference.
-/
import LiveForm.Proofs.Changing

namespace LiveForm

variable {H : Type} {L : Licence H}

/-- A proxy shows the same and runs the same, and stays disposed of; it is disposed of only by those who
    may write. -/
structure ProxyState.Spared (L : Licence H) (x y : ProxyState H) : Prop where
  source : y.source = x.source
  binding : y.binding = x.binding
  cached : y.cached = x.cached
  generation : y.generation = x.generation
  guard : y.guard = x.guard
  disposed : x.disposed → y.disposed
  kept : ¬ L.writes → y.disposed = x.disposed

/-- A validator shows the same and runs the same, and stays disposed of; it is disposed of only by those
    who may write. -/
structure ValidatorState.Spared (L : Licence H) (x y : ValidatorState H) : Prop where
  field : y.field = x.field
  rules : y.rules = x.rules
  result : y.result = x.result
  guard : y.guard = x.guard
  disposed : x.disposed → y.disposed
  kept : ¬ L.writes → y.disposed = x.disposed

theorem ProxyState.Spared.refl (x : ProxyState H) : x.Spared L x :=
  ⟨rfl, rfl, rfl, rfl, rfl, id, fun _ => rfl⟩

theorem ProxyState.Spared.trans {x y z : ProxyState H} (h₁ : x.Spared L y) (h₂ : y.Spared L z) :
    x.Spared L z where
  source := h₂.source.trans h₁.source
  binding := h₂.binding.trans h₁.binding
  cached := h₂.cached.trans h₁.cached
  generation := h₂.generation.trans h₁.generation
  guard := h₂.guard.trans h₁.guard
  disposed hd := h₂.disposed (h₁.disposed hd)
  kept hw := (h₂.kept hw).trans (h₁.kept hw)

theorem ValidatorState.Spared.refl (x : ValidatorState H) : x.Spared L x :=
  ⟨rfl, rfl, rfl, rfl, id, fun _ => rfl⟩

theorem ValidatorState.Spared.trans {x y z : ValidatorState H} (h₁ : x.Spared L y)
    (h₂ : y.Spared L z) : x.Spared L z where
  field := h₂.field.trans h₁.field
  rules := h₂.rules.trans h₁.rules
  result := h₂.result.trans h₁.result
  guard := h₂.guard.trans h₁.guard
  disposed hd := h₂.disposed (h₁.disposed hd)
  kept hw := (h₂.kept hw).trans (h₁.kept hw)

/-- No run is in progress under a guard, and none has been asked for. -/
structure Guard.Rests (g : Guard) : Prop where
  running : g.running = false
  pending : g.pending = false
  pendingForce : g.pendingForce = false

theorem Guard.rests_ofLimit (limit : Nat) : (Guard.ofLimit limit).Rests := ⟨rfl, rfl, rfl⟩

namespace Store

variable {s t u : Store H}

/-- What may have become of the objects of a store: those who may not write have left the properties of
    old ones alone. -/
def SparesObject (L : Licence H) (s : Store H) (o : ObjectId) (y : ObjectState H) : Prop :=
  (∃ x, s.object? o = some x ∧ (¬ L.writes → y.properties = x.properties)) ∨
    s.objects.next ≤ o.index

/-- What may have become of the proxies of a store: old ones are spared, and new ones have not been
    used. -/
def SparesProxy (L : Licence H) (s : Store H) (p : ProxyId) (y : ProxyState H) : Prop :=
  (∃ x, s.proxy? p = some x ∧ x.Spared L y) ∨
    s.proxies.next ≤ p.index ∧ y.generation = 0 ∧ y.guard.Rests

def SparesValidator (L : Licence H) (s : Store H) (v : ValidatorId) (y : ValidatorState H) : Prop :=
  (∃ x, s.validator? v = some x ∧ x.Spared L y) ∨ s.validators.next ≤ v.index ∧ y.guard.Rests

def spared (L : Licence H) (s : Store H) : Trait H where
  objects := s.objects.next
  proxies := s.proxies.next
  validators := s.validators.next
  object := s.SparesObject L
  proxy := s.SparesProxy L
  validator := s.SparesValidator L

/-- The nodes of a store show the same and run the same in another one, as far as they are left, and
    new ones have not been used. -/
abbrev Spares (L : Licence H) (s t : Store H) : Prop := t.All (s.spared L)

theorem Spares.refl (s : Store H) : s.Spares L s where
  objects := Nat.le_refl _
  object _ x hx := Or.inl ⟨x, hx, fun _ => rfl⟩
  proxies := Nat.le_refl _
  proxy _ x hx := Or.inl ⟨x, hx, .refl x⟩
  validators := Nat.le_refl _
  validator _ x hx := Or.inl ⟨x, hx, .refl x⟩

theorem SparesObject.map {o : ObjectId} {x y : ObjectState H} (h : s.SparesObject L o x)
    (hxy : ¬ L.writes → y.properties = x.properties) : s.SparesObject L o y :=
  h.imp_left fun ⟨z, hz, h⟩ => ⟨z, hz, fun hw => (hxy hw).trans (h hw)⟩

theorem SparesProxy.map {p : ProxyId} {x y : ProxyState H} (h : s.SparesProxy L p x)
    (hxy : x.Spared L y) : s.SparesProxy L p y := by
  rcases h with ⟨z, hz, h⟩ | ⟨hp, hg, hr⟩
  · exact Or.inl ⟨z, hz, h.trans hxy⟩
  · exact Or.inr ⟨hp, hxy.generation.trans hg, hxy.guard ▸ hr⟩

theorem SparesValidator.map {v : ValidatorId} {x y : ValidatorState H}
    (h : s.SparesValidator L v x) (hxy : x.Spared L y) : s.SparesValidator L v y := by
  rcases h with ⟨z, hz, h⟩ | ⟨hv, hr⟩
  · exact Or.inl ⟨z, hz, h.trans hxy⟩
  · exact Or.inr ⟨hv, hxy.guard ▸ hr⟩

theorem Spares.trans (h₁ : s.Spares L t) (h₂ : t.Spares L u) : s.Spares L u where
  objects := Nat.le_trans h₁.objects h₂.objects
  object o z hz := by
    rcases h₂.object o z hz with ⟨y, hy, hyz⟩ | ho
    · exact SparesObject.map (h₁.object o y hy) hyz
    · exact Or.inr (Nat.le_trans h₁.objects ho)
  proxies := Nat.le_trans h₁.proxies h₂.proxies
  proxy p z hz := by
    rcases h₂.proxy p z hz with ⟨y, hy, hyz⟩ | ⟨hp, hg⟩
    · exact SparesProxy.map (h₁.proxy p y hy) hyz
    · exact Or.inr ⟨Nat.le_trans h₁.proxies hp, hg⟩
  validators := Nat.le_trans h₁.validators h₂.validators
  validator v z hz := by
    rcases h₂.validator v z hz with ⟨y, hy, hyz⟩ | ⟨hv, hg⟩
    · exact SparesValidator.map (h₁.validator v y hy) hyz
    · exact Or.inr ⟨Nat.le_trans h₁.validators hv, hg⟩

theorem stable_spared (L : Licence H) (s : Store H) : (s.spared L).Stable L where
  newObject ho _ _ := Or.inr ho
  setProperty hw _ _ _ _ _ h := SparesObject.map h fun hn => absurd hw hn
  removeProperty hw _ _ _ h := SparesObject.map h fun hn => absurd hw hn
  subscribe _ _ _ h := SparesObject.map h fun _ => rfl
  attach _ _ h := SparesObject.map h fun _ => rfl
  unsubscribe _ h := SparesObject.map h fun _ => rfl
  newProxy _ _ _ limit hp := Or.inr ⟨hp, rfl, Guard.rests_ofLimit limit⟩
  subscriptions _ h := SparesProxy.map h ⟨rfl, rfl, rfl, rfl, rfl, id, fun _ => rfl⟩
  listen _ _ h := SparesProxy.map h ⟨rfl, rfl, rfl, rfl, rfl, id, fun _ => rfl⟩
  hear _ h := SparesProxy.map h ⟨rfl, rfl, rfl, rfl, rfl, id, fun _ => rfl⟩
  unlisten _ h := SparesProxy.map h ⟨rfl, rfl, rfl, rfl, rfl, id, fun _ => rfl⟩
  disposeProxy hw _ _ h :=
    SparesProxy.map h ⟨rfl, rfl, rfl, rfl, rfl, fun _ => rfl, fun hn => absurd hw hn⟩
  clear h := SparesProxy.map h ⟨rfl, rfl, rfl, rfl, rfl, id, fun _ => rfl⟩
  newValidator _ _ _ limit hv := Or.inr ⟨hv, Guard.rests_ofLimit limit⟩
  notes _ h := SparesValidator.map h ⟨rfl, rfl, rfl, rfl, id, fun _ => rfl⟩
  watch _ _ h := SparesValidator.map h ⟨rfl, rfl, rfl, rfl, id, fun _ => rfl⟩
  unwatch _ h := SparesValidator.map h ⟨rfl, rfl, rfl, rfl, id, fun _ => rfl⟩
  disposeValidator hw _ _ h :=
    SparesValidator.map h ⟨rfl, rfl, rfl, rfl, fun _ => rfl, fun hn => absurd hw hn⟩
  clearValidator h := SparesValidator.map h ⟨rfl, rfl, rfl, rfl, id, fun _ => rfl⟩

/-- Changes that tell nobody make no difference to what nodes show and how they run. -/
theorem Spares.changes (h : s.Spares L t) (hc : t.Changes L u) : s.Spares L u :=
  All.changes (stable_spared L s) h hc

theorem spares_attach (s : Store H) (p : ProxyId) : s.Spares L (s.attach p) :=
  All.attach (stable_spared L s) (Spares.refl s) p

theorem spares_detach (s : Store H) (p : ProxyId) : s.Spares L (s.detach p) :=
  All.detach (stable_spared L s) (Spares.refl s) p

theorem spares_follow (s : Store H) (p : ProxyId) : s.Spares L (s.follow p) :=
  All.follow (stable_spared L s) (Spares.refl s) p

theorem spares_of_changes (hc : s.Changes L t) : s.Spares L t := (Spares.refl s).changes hc

theorem spares_sweep (L : Licence H) (s : Store H) (held : List Entity) :
    s.Spares L (s.sweep held) :=
  spares_of_changes (s.changes_sweep held)

end Store

end LiveForm
