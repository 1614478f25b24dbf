/-
  Nothing is left that nobody holds.

  To take away one entity leaves the others, so as many turns as there are entities are enough to take
  away all that nobody holds. After every move a session is swept, so there is no garbage in it.

  * `Store.entities_drop`: what an entity that is taken away leaves;
  * `Store.garbage?_sweep` and `Reachable.clean`: there is no garbage after sweeping, nor in any session
    that comes about;
  * `Clean.sweep`: to sweep once more changes nothing.
-/
import LiveForm.Proofs.Moves

namespace LiveForm

namespace Roster

variable {α : Type} (r : Roster α) (n : Nat)

@[simp] theorem numbers_modify (f : α → α) : (r.modify n f).numbers = r.numbers := map_fst_modify ..

@[simp] theorem numbers_remove : (r.remove n).numbers = r.numbers.filter fun m => m ≠ n := by
  simp only [numbers, remove, List.filter_map]
  congr 1
  exact List.filter_congr fun e _ => by simp [bne, beq_eq_decide]

end Roster

namespace Store

variable {H : Type} {s : Store H} {held : List Entity}

theorem entities_modifyObject (o : ObjectId) (f : ObjectState H → ObjectState H) :
    (s.modifyObject o f).entities = s.entities := by
  simp only [entities, modifyObject, Roster.numbers_modify]

theorem entities_modifyProxy (p : ProxyId) (f : ProxyState H → ProxyState H) :
    (s.modifyProxy p f).entities = s.entities := by
  simp only [entities, modifyProxy, Roster.numbers_modify]

theorem entities_modifyValidator (v : ValidatorId) (f : ValidatorState H → ValidatorState H) :
    (s.modifyValidator v f).entities = s.entities := by
  simp only [entities, modifyValidator, Roster.numbers_modify]

theorem entities_unsubscribeAll (ws : List (ObjectId × Nat)) :
    (s.unsubscribeAll ws).entities = s.entities := by
  unfold unsubscribeAll
  induction ws generalizing s with
  | nil => rfl
  | cons w ws ih => exact ih.trans (entities_modifyObject ..)

theorem entities_unlistenAll (ws : List (ProxyId × Nat)) :
    (s.unlistenAll ws).entities = s.entities := by
  unfold unlistenAll
  induction ws generalizing s with
  | nil => rfl
  | cons w ws ih => exact ih.trans (entities_modifyProxy ..)

theorem entities_detach (p : ProxyId) : (s.detach p).entities = s.entities := by
  unfold detach
  split
  · rfl
  · exact (entities_modifyProxy ..).trans (entities_unsubscribeAll _)

theorem entities_silence (v : ValidatorId) : (s.silence v).entities = s.entities := by
  unfold silence
  split
  · rfl
  · exact (entities_modifyValidator ..).trans (entities_unlistenAll _)

theorem filter_entities (q : Entity → Bool) : s.entities.filter q =
    (s.objects.numbers.filter fun n => q (.object ⟨n⟩)).map (fun n => .object ⟨n⟩) ++
      (s.proxies.numbers.filter fun n => q (.proxy ⟨n⟩)).map (fun n => .proxy ⟨n⟩) ++
      (s.validators.numbers.filter fun n => q (.validator ⟨n⟩)).map (fun n => .validator ⟨n⟩) ++
      (s.forms.numbers.filter fun n => q (.form ⟨n⟩)).map (fun n => .form ⟨n⟩) := by
  simp only [entities, List.filter_append, List.filter_map]
  rfl

/-- To take an entity away leaves all the others. -/
theorem entities_drop (s : Store H) (e : Entity) :
    (s.drop e).entities = s.entities.filter fun z => z ≠ e := by
  cases e with
  | object o =>
    obtain ⟨o⟩ := o
    rw [filter_entities]
    simp [entities, drop]
  | proxy p =>
    refine Eq.trans ?_ (congrArg (List.filter _) (entities_detach p))
    rw [filter_entities, drop]
    generalize s.detach p = s
    obtain ⟨p⟩ := p
    simp [entities]
  | validator v =>
    refine Eq.trans ?_ (congrArg (List.filter _) (entities_silence v))
    rw [filter_entities, drop]
    generalize s.silence v = s
    obtain ⟨v⟩ := v
    simp [entities]
  | form f =>
    obtain ⟨f⟩ := f
    rw [filter_entities]
    simp [entities, drop]

theorem garbage?_eq_none_iff : s.garbage? held = none ↔ ∀ e, s.Alive e → e ∈ held ∨ s.Refers e := by
  simp [garbage?, ← mem_entities_iff, ← mem_references_iff, or_iff_not_imp_left]

/-- As many turns as there are entities are enough. -/
theorem garbage?_sweepUpTo {n : Nat} (h : s.entities.length ≤ n) :
    (s.sweepUpTo held n).garbage? held = none := by
  induction n generalizing s with
  | zero =>
    have hs : s.entities = [] := List.length_eq_zero_iff.1 (Nat.le_zero.1 h)
    simp [sweepUpTo, garbage?, hs]
  | succ n ih =>
    rw [sweepUpTo]
    split
    · next hg => exact hg
    · next e he =>
      have hm : e ∈ s.entities := List.mem_of_find?_eq_some he
      refine ih (Nat.le_of_lt_succ (Nat.lt_of_lt_of_le ?_ h))
      rw [entities_drop]
      exact List.length_filter_lt_length_iff_exists.2 ⟨e, hm, by simp⟩

/-- There is no garbage after sweeping. -/
theorem garbage?_sweep (s : Store H) (held : List Entity) : (s.sweep held).garbage? held = none :=
  garbage?_sweepUpTo (Nat.le_refl _)

theorem sweep_eq_self (h : s.garbage? held = none) : s.sweep held = s := by
  unfold sweep
  generalize s.entities.length = n
  cases n with
  | zero => rfl
  | succ n => rw [sweepUpTo, h]

end Store

namespace Session

variable {g : Engine} {s t : Session}

/-- All that is alive is held. -/
def Clean (s : Session) : Prop := ∀ e, s.store.Alive e → e ∈ s.held ∨ s.store.Refers e

theorem clean_sweep (s : Session) : s.sweep.Clean :=
  Store.garbage?_eq_none_iff.1 (Store.garbage?_sweep s.store s.held)

/-- To sweep a clean session changes nothing. -/
theorem Clean.sweep (h : s.Clean) : s.sweep = s := by
  rw [Session.sweep, Store.sweep_eq_self (Store.garbage?_eq_none_iff.2 h)]
  rfl

theorem Clean.move (h : s.Clean) (hm : s.Move t) : t.Clean := by
  have step : s.step.Clean := by
    unfold Session.step
    split
    · exact h
    · exact clean_sweep _
  cases hm with
  | step => exact step
  | give c hg =>
    cases hg with
    | caller | handler => exact clean_sweep _
    | script => exact step

/-- There is no garbage in any session that comes about. -/
theorem Reachable.clean (h : Reachable g s) : s.Clean := by
  obtain ⟨objects, s₀, h₀, h⟩ := h
  induction h with
  | refl =>
    obtain ⟨t, -, h₀⟩ := ok_of_bind h₀
    cases h₀
    exact clean_sweep _
  | tail _ hm ih => exact ih.move hm

end Session

end LiveForm
