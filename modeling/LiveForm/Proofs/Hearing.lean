/-
  What validators listen to.

  A validator notes a proxy and a number for everything that it listens to. It listens to all that it
  watches, its field and the sources of its rules, as long as neither it nor what it watches is
  disposed of.

  * `Store.Hearing`: the notes of a validator are its own, and it hears all that it watches;
  * `newValidator_spec`, `disposeValidator_spec`, `drop_validator_spec`: what the operations do.
-/
import LiveForm.Proofs.Frame

namespace LiveForm.Store

variable {H : Type} {s t : Store H} {r : Option Node} {v : ValidatorId} {x : ValidatorState H}

structure Hearing (s : Store H) (v : ValidatorId) : Prop where
  /-- The numbers that are noted have been given to nobody else. -/
  genuine : ∀ x, s.validator? v = some x → ∀ w ∈ x.subscriptions, s.Ear (· = .validator v) w.1 w.2
  watching : ∀ x, s.validator? v = some x → x.disposed = false → ∀ p ∈ x.watched,
    ∀ y, s.proxy? p = some y → y.disposed = false → ∃ k, s.Listens v p k

theorem Hearing.of_none (h : s.validator? v = none) : s.Hearing v :=
  ⟨fun x hx => by simp [h] at hx, fun x hx => by simp [h] at hx⟩

/-- A validator hears what it heard as long as it is left alone. -/
theorem Hearing.frame {n : Option Node} (h : s.Hearing v) (hf : Frame n r s t)
    (hn : n ≠ some (.validator v))
    (alive : ∀ x, s.validator? v = some x → ∀ p ∈ x.watched, (s.proxy? p).isSome) :
    t.Hearing v := by
  refine ⟨?genuine, ?watching⟩
  case genuine =>
    intro y hy w hw
    obtain ⟨x, hx, e⟩ := exists_of_map_eq (hf.validator v hn) hy
    obtain ⟨-, -, -, hws, -⟩ := ValidatorState.core_eq_iff.1 e
    exact (h.genuine x hx w (hws ▸ hw)).later hf.later
  case watching =>
    intro y hy hd p hp z hz hzd
    obtain ⟨x, hx, e⟩ := exists_of_map_eq (hf.validator v hn) hy
    obtain ⟨hfield, hrules, -, -, hdis⟩ := ValidatorState.core_eq_iff.1 e
    have hp : p ∈ x.watched := by rwa [ValidatorState.watched, ← hfield, ← hrules]
    obtain ⟨w, hw⟩ := Option.isSome_iff_exists.1 (alive x hx p hp)
    have hwd := hf.later.not_disposed hw hz hzd
    obtain ⟨k, hk⟩ := h.watching x hx (hdis ▸ hd) p hp w hw hwd
    exact ⟨k, hf.listening v hn p k z hk hz hzd⟩

theorem Hearing.of_eq (h : s.Hearing v) (hp : t.proxies = s.proxies)
    (hv : t.validators = s.validators) : t.Hearing v := by
  obtain ⟨o, p, w, f⟩ := t
  cases hp
  cases hv
  exact ⟨h.genuine, h.watching⟩

/-- A new result does not change what a validator hears. -/
theorem Hearing.replaceResult (h : s.Hearing v) (result : ValidationResult) :
    (s.replaceResult v result).Hearing v := by
  have back : ∀ y, (s.replaceResult v result).validator? v = some y →
      ∃ x, s.validator? v = some x ∧ { x with result := result } = y := by
    intro y hy
    rwa [Store.replaceResult, validator?_modifyValidator, if_pos rfl, Option.map_eq_some_iff] at hy
  refine ⟨?genuine, ?watching⟩
  case genuine =>
    intro y hy
    obtain ⟨x, hx, rfl⟩ := back y hy
    exact h.genuine x hx
  case watching =>
    intro y hy
    obtain ⟨x, hx, rfl⟩ := back y hy
    exact h.watching x hx

/-! ## New validators -/

theorem validators_listenAll (v : ValidatorId) (s : Store H) (ps : List ProxyId) :
    (listenAll v s ps).1.validators = s.validators := by
  induction ps generalizing s with
  | nil => rfl
  | cons p ps ih => exact ih _

theorem frame_listenAll (v : ValidatorId) (s : Store H) (ps : List ProxyId) :
    Frame (some (.validator v)) r s (listenAll v s ps).1 := by
  induction ps generalizing s with
  | nil => exact .refl s
  | cons p ps ih =>
    refine .trans (.listen ?_) (ih _)
    intro w hw e
    cases e
    exact hw rfl

theorem listens_listenAll (ps : List ProxyId) {w : ValidatorId} {p : ProxyId} {k : Nat}
    (h : s.Listens w p k) : (listenAll v s ps).1.Listens w p k := by
  induction ps generalizing s with
  | nil => exact h
  | cons p ps ih => exact ih (listens_listen.2 (Or.inl h))

theorem isSome_proxy?_listen {p q : ProxyId} {l : Listener H} (h : (s.proxy? p).isSome) :
    ((s.listen q l).1.proxy? p).isSome := by
  rw [listen, proxy?_modifyProxy]
  split
  · rwa [Option.isSome_map]
  · exact h

/-- A validator listens to all the proxies that it is made to listen to. -/
theorem exists_listens_listenAll {ps : List ProxyId} {p : ProxyId} (hp : p ∈ ps)
    (h : (s.proxy? p).isSome) : ∃ k, (listenAll v s ps).1.Listens v p k := by
  induction ps generalizing s with
  | nil => cases hp
  | cons q ps ih =>
    rcases List.mem_cons.1 hp with rfl | hp
    · exact ⟨_, listens_listenAll ps (listens_listen.2 (Or.inr ⟨rfl, h, rfl, rfl⟩))⟩
    · exact ih hp (isSome_proxy?_listen h)

/-- A listener gets a number that is its own. -/
theorem ear_listen {p : ProxyId} {l : Listener H} (h : (s.proxy? p).isSome) :
    (s.listen p l).1.Ear (· = l) p (s.listen p l).2 := by
  obtain ⟨x, hx⟩ := Option.isSome_iff_exists.1 h
  have hy : (s.listen p l).1.proxy? p = some { x with listeners := x.listeners.add l } :=
    proxy?_modifyProxy_self hx _
  have hk : (s.listen p l).2 = x.listeners.next := by simp only [listen, hx]; rfl
  refine ⟨Roster.lt_next_of_get? hy, ?_⟩
  intro y hy'
  obtain rfl := Option.some.inj (hy.symm.trans hy')
  rw [hk]
  refine ⟨Nat.lt_succ_self _, ?_⟩
  intro l' hl
  rw [Roster.get?_add, if_pos rfl] at hl
  exact (Option.some.inj hl).symm

theorem ear_of_mem_listenAll {ps : List ProxyId} (h : ∀ p ∈ ps, (s.proxy? p).isSome) :
    ∀ w ∈ (listenAll v s ps).2, (listenAll v s ps).1.Ear (· = .validator v) w.1 w.2 := by
  induction ps generalizing s with
  | nil => exact List.forall_mem_nil _
  | cons p ps ih =>
    intro w hw
    rcases List.mem_cons.1 hw with rfl | hw
    · exact (ear_listen (h p (by simp))).later (frame_listenAll (r := none) v _ ps).later
    · exact ih (fun q hq => isSome_proxy?_listen (h q (List.mem_cons_of_mem _ hq))) w hw

/-- A validator that has been made to listen to all that it watches hears it. -/
theorem listenAll_spec (hx : s.validator? v = some x)
    (alive : ∀ p ∈ x.watched, (s.proxy? p).isSome) :
    let made := listenAll v s x.watched
    let t := made.1.modifyValidator v fun y => { y with subscriptions := made.2 }
    Frame (some (.validator v)) r s t ∧ t.validator? v = some { x with subscriptions := made.2 } ∧
      t.Hearing v := by
  intro made t
  have hx' : made.1.validator? v = some x := by rwa [validator?, validators_listenAll]
  have hy : t.validator? v = some { x with subscriptions := made.2 } :=
    validator?_modifyValidator_self hx' _
  have hf : Frame (some (.validator v)) r s t :=
    (frame_listenAll v s _).trans (.modifyValidator_self (fun _ => rfl) fun _ => ⟨rfl, rfl, id⟩)
  refine ⟨hf, hy, ?genuine, ?watching⟩
  case genuine =>
    intro y hy' w hw
    obtain rfl := Option.some.inj (hy.symm.trans hy')
    exact ear_of_mem_listenAll alive w hw
  case watching =>
    intro y hy' _ p hp z hz _
    obtain rfl := Option.some.inj (hy.symm.trans hy')
    exact exists_listens_listenAll hp (alive p hp)

/-- A new validator shows its result and hears all that it watches. -/
theorem newValidator_spec (ev : Evaluator) (field : ProxyId) (rules : List (Rule ProxyId))
    (limit : Nat) (alive : ∀ p ∈ field :: rules.flatMap Rule.sources, (s.proxy? p).isSome) :
    Frame (some (.validator ⟨s.validators.next⟩)) (some (.validator ⟨s.validators.next⟩)) s
        (s.newValidator ev field rules limit).1 ∧
      (∃ ws, (s.newValidator ev field rules limit).1.validator? ⟨s.validators.next⟩ =
        some { ValidatorState.fresh field rules (s.validate ev field rules) limit with
          subscriptions := ws }) ∧
      (s.newValidator ev field rules limit).1.Hearing ⟨s.validators.next⟩ := by
  have hf := Frame.addValidator (s := s) (.fresh field rules (s.validate ev field rules) limit)
  have hx := validator?_add (s := s) (.fresh field rules (s.validate ev field rules) limit)
  obtain ⟨hf', hy, hh⟩ := listenAll_spec hx alive
  exact ⟨hf.trans hf', ⟨_, hy⟩, hh⟩

/-! ## Validators that go -/

theorem validators_unlistenAll (ws : List (ProxyId × Nat)) :
    (s.unlistenAll ws).validators = s.validators := by
  unfold unlistenAll
  induction ws generalizing s with
  | nil => rfl
  | cons w ws ih => exact ih

theorem frame_unlistenAll {ws : List (ProxyId × Nat)}
    (h : ∀ w ∈ ws, s.Ear (· = .validator v) w.1 w.2) :
    Frame (some (.validator v)) r s (s.unlistenAll ws) := by
  unfold unlistenAll
  induction ws generalizing s with
  | nil => exact .refl s
  | cons w ws ih =>
    have hf : Frame (some (.validator v)) r s (s.unlisten w.1 w.2) := by
      refine .unlisten (h w (by simp)) ?_
      intro q hq e
      cases e
      exact hq rfl
    refine hf.trans (ih ?_)
    intro w' hw'
    exact (h w' (List.mem_cons_of_mem _ hw')).later hf.later

theorem frame_silence
    (h : ∀ x, s.validator? v = some x → ∀ w ∈ x.subscriptions, s.Ear (· = .validator v) w.1 w.2) :
    Frame (some (.validator v)) r s (s.silence v) := by
  unfold silence
  split
  · exact .refl s
  · next x hx => exact .trans (frame_unlistenAll (h x hx)) (.modifyValidator_self (fun _ => rfl) fun _ => ⟨rfl, rfl, id⟩)

theorem validator?_silence (hx : s.validator? v = some x) :
    (s.silence v).validator? v = some { x with subscriptions := [] } := by
  simp only [silence, hx]
  exact validator?_modifyValidator_self (by rwa [validator?, validators_unlistenAll]) _

theorem disposeValidator_of_none (h : s.validator? v = none) : s.disposeValidator v = s := by
  simp only [disposeValidator, h]

theorem disposeValidator_of_disposed (hx : s.validator? v = some x) (hd : x.disposed) :
    s.disposeValidator v = s := by
  simp only [disposeValidator, hx, hd, ↓reduceIte]

theorem disposeValidator_of_not_disposed (hx : s.validator? v = some x) (hd : x.disposed = false) :
    s.disposeValidator v =
      ((s.modifyValidator v fun x => { x with disposed := true }).silence v).modifyValidator v
        fun x => { x with listeners := x.listeners.clear } := by
  simp [disposeValidator, hx, hd]

/-- A validator that is disposed of keeps its field and its rules. -/
theorem disposeValidator_spec (hx : s.validator? v = some x) (h : s.Hearing v) :
    Frame (some (.validator v)) r s (s.disposeValidator v) ∧
      ∃ y, (s.disposeValidator v).validator? v = some y ∧ y.disposed ∧ y.field = x.field ∧
        y.rules = x.rules ∧ (s.disposeValidator v).Hearing v := by
  cases hd : x.disposed with
  | true =>
    rw [disposeValidator_of_disposed hx hd]
    exact ⟨.refl s, x, hx, hd, rfl, rfl, h⟩
  | false =>
    have hx₁ := validator?_modifyValidator_self hx fun x => { x with disposed := true }
    have hx₂ := validator?_silence hx₁
    have hx₃ := validator?_modifyValidator_self hx₂ fun x =>
      { x with listeners := x.listeners.clear }
    have hf₁ : Frame (some (.validator v)) r s
        (s.modifyValidator v fun x => { x with disposed := true }) :=
      .modifyValidator_self (fun _ => rfl) fun _ => ⟨rfl, rfl, fun _ => rfl⟩
    have hf₂ : Frame (some (.validator v)) r
        (s.modifyValidator v fun x => { x with disposed := true })
        ((s.modifyValidator v fun x => { x with disposed := true }).silence v) := by
      refine frame_silence ?_
      intro y hy w hw
      obtain rfl := Option.some.inj (hx₁.symm.trans hy)
      exact h.genuine x hx w hw
    have hf := (hf₁.trans hf₂).trans
      (.modifyValidator_self (f := fun x => { x with listeners := x.listeners.clear }) (fun _ => rfl)
        fun _ => ⟨rfl, rfl, id⟩)
    rw [disposeValidator_of_not_disposed hx hd]
    refine ⟨hf, _, hx₃, rfl, rfl, rfl, ?genuine, ?watching⟩
    case genuine =>
      intro y hy w hw
      obtain rfl := Option.some.inj (hx₃.symm.trans hy)
      cases hw
    case watching =>
      intro y hy hyd
      obtain rfl := Option.some.inj (hx₃.symm.trans hy)
      cases hyd

theorem frame_disposeValidator (h : s.Hearing v) :
    Frame (some (.validator v)) r s (s.disposeValidator v) := by
  cases hx : s.validator? v with
  | none =>
    rw [disposeValidator_of_none hx]
    exact .refl s
  | some x => exact (disposeValidator_spec hx h).1

theorem isDisposed_disposeValidator (h : s.Hearing v) :
    (s.disposeValidator v).isDisposed (.validator v) := by
  cases hx : s.validator? v with
  | none => simp [disposeValidator_of_none hx, isDisposed, hx]
  | some x =>
    obtain ⟨-, y, hy, hd, -⟩ := disposeValidator_spec (r := none) hx h
    simp [isDisposed, hy, hd]

/-- Nothing is left of a validator that is taken away. -/
theorem drop_validator_spec (h : s.Hearing v) :
    Frame (some (.validator v)) (some (.validator v)) s (s.drop (.validator v)) ∧
      (s.drop (.validator v)).validator? v = none ∧ (s.drop (.validator v)).Hearing v := by
  have hn : (s.drop (.validator v)).validator? v = none := by
    simp only [drop, validator?, Roster.get?_remove, ↓reduceIte]
  exact ⟨(frame_silence h.genuine).trans (.removeValidator v), hn, .of_none hn⟩

end LiveForm.Store
