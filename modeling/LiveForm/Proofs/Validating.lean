/-
  Validators follow the proxies that they watch.

  A validator is woken by its field and by the sources of its rules, in the middle of their runs and
  while it may be running itself. As long as none of them is disposed of, it shows what its rules say
  of their values, or it is still to be told of a change, or has asked to be computed anew.

  * `Situation.Validates`: what a validator shows is as it should be, or one of these;
  * `Validates.step`: every step preserves that.
-/
import LiveForm.Proofs.Telling

namespace LiveForm

variable {H : Type}

namespace Store

variable {s t : Store H} {n r : Option Node} {v : ValidatorId}

theorem Frame.valueOf (hf : Frame n r s t) {q : ProxyId} (hn : n ≠ some (.proxy q)) :
    t.valueOf q = s.valueOf q := by
  have h := hf.proxy q hn
  unfold Store.valueOf
  cases hx : s.proxy? q with
  | none =>
    rw [hx, Option.map_none, Option.map_eq_none_iff] at h
    rw [h]
  | some x =>
    obtain ⟨y, hy, e⟩ := exists_of_map_eq h.symm hx
    rw [hy]
    exact (ProxyState.core_eq_iff.1 e).2.2.1.symm

theorem valueOf_eq {q : ProxyId} {x : ProxyState H} (hx : s.proxy? q = some x) :
    s.valueOf q = x.cached := by simp only [valueOf, hx]

/-- Who validates the same values by the same rules shows what it should. -/
theorem Fresh.congr_validator {ev : Evaluator}
    (core : (t.validator? v).map ValidatorState.core = (s.validator? v).map ValidatorState.core)
    (value : ∀ x, s.validator? v = some x → ∀ q ∈ x.watched, t.valueOf q = s.valueOf q)
    (h : s.Fresh ev (.validator v)) : t.Fresh ev (.validator v) := by
  intro y hy
  obtain ⟨x, hx, e⟩ := exists_of_map_eq core hy
  obtain ⟨ef, er, es, -, -⟩ := ValidatorState.core_eq_iff.1 e
  rw [es, ef, er, validate_congr ev (value x hx)]
  exact h x hx

end Store

namespace Situation

variable {ev : Evaluator} {c d : Situation H} {n r : Option Node} {v : ValidatorId}

/-- A validator that is not disposed of, nor any of the proxies that it watches, shows what its rules
    say of their values, or it will. -/
def Validates (ev : Evaluator) (c : Situation H) (v : ValidatorId) : Prop :=
  ∀ x, c.store.validator? v = some x → x.disposed = false →
    (∀ q ∈ x.watched, c.store.isDisposed (.proxy q) = false) →
      c.store.Fresh ev (.validator v) ∨ c.Told (.validator v) ∨ c.Asked (.validator v)

theorem Validates.of_disposed (h : c.store.isDisposed (.validator v)) : c.Validates ev v := by
  intro x hx hd
  simp [Store.isDisposed, hx, hd] at h

theorem Validates.of_fresh (h : c.store.Fresh ev (.validator v)) : c.Validates ev v :=
  fun _ _ _ _ => Or.inl h

/-- A validator goes on as it did as long as it is left alone, and so are the values that it
    watches. -/
theorem Validates.of_agree (ho : c.Ordered) (h : c.Validates ev v)
    (later : c.store.Later d.store)
    (core : (d.store.validator? v).map ValidatorState.core =
      (c.store.validator? v).map ValidatorState.core)
    (value : ∀ x, c.store.validator? v = some x → ∀ q ∈ x.watched,
      d.store.valueOf q = c.store.valueOf q)
    (listens : ∀ q k, d.store.isDisposed (.proxy q) = false → c.store.Listens v q k →
      d.store.Listens v q k)
    (told : (∀ e k, c.store.Hears (.validator v) e k → d.store.Hears (.validator v) e k) →
      c.Told (.validator v) → d.Told (.validator v))
    (asked : c.store.isDisposed (.validator v) = false → c.Asked (.validator v) →
      d.store.Fresh ev (.validator v) ∨ d.Asked (.validator v)) : d.Validates ev v := by
  intro y hy hd hw
  obtain ⟨x, hx, e⟩ := exists_of_map_eq core hy
  obtain ⟨ef, er, -, -, ed⟩ := ValidatorState.core_eq_iff.1 e
  have ew : y.watched = x.watched := by rw [ValidatorState.watched, ef, er]; rfl
  rw [ew] at hw
  have hw' : ∀ q ∈ x.watched, c.store.isDisposed (.proxy q) = false := by
    intro q hq
    obtain ⟨z, hz⟩ := Option.isSome_iff_exists.1 (ho.watched hx q hq)
    by_contra hc
    have := later.isDisposed (Roster.lt_next_of_get? hz) (by simpa using hc)
    rw [hw q hq] at this
    cases this
  have hears : ∀ e k, c.store.Hears (.validator v) e k → d.store.Hears (.validator v) e k := by
    intro e k h
    cases e with
    | property o m => cases h
    | result w r => cases h
    | value q w =>
      obtain ⟨⟨x', hx', hq⟩, hl⟩ := h
      obtain rfl := Option.some.inj (hx.symm.trans hx')
      exact ⟨⟨y, hy, ew ▸ hq⟩, listens q k (hw q hq) hl⟩
  rcases h x hx (ed ▸ hd) hw' with hf | ht | ha
  · exact Or.inl (hf.congr_validator core value)
  · exact Or.inr (Or.inl (told hears ht))
  · have hxd : c.store.isDisposed (.validator v) = false := by
      simp [Store.isDisposed, hx, ← ed, hd]
    exact (asked hxd ha).imp_right Or.inr

/-! ## Tasks -/

section

variable {s t : Store H} {tk : Task H} {new ts : List (Task H)} {held : List Entity}

/-- Only a pass changes the value of a proxy, and then the listeners are to be told. -/
theorem Ordered.valueOf_perform (ho : Ordered ⟨s, tk :: ts, held⟩) (hp : tk.Performs ev s t new)
    (q : ProxyId) : t.valueOf q = s.valueOf q ∨
      ∃ w, s.Suits q w ∧ t = s.replaceValue q w ∧ new = [t.roundOf (.value q w)] := by
  cases hp with
  | close | tell | miss | heed | ignore | refuse | keep | bound | pass | gone | goneExtra =>
    exact Or.inl rfl
  | @follow p x e hx hd =>
    obtain ⟨hf, ws, hy, -, -⟩ := Store.follow_spec (r := none) hx hd ho.sealed (ho.ledger p)
    by_cases hq : p = q
    · subst hq
      exact Or.inl ((Store.valueOf_eq hy).trans (Store.valueOf_eq hx).symm)
    · exact Or.inl (hf.valueOf fun e => hq (by cases e; rfl))
  | @bind b p ps x hx hd =>
    obtain ⟨ws, hy, -, -⟩ := Store.bindProxy_spec hx hd ho.sealed (ho.ledger p).toNoted b
    by_cases hq : p = q
    · subst hq
      exact Or.inl ((Store.valueOf_eq hy).trans (Store.valueOf_eq hx).symm)
    · have hf := Store.frame_bindProxy (r := none) (ho.ledger p).toNoted b
      exact Or.inl (hf.valueOf fun e => hq (by cases e; rfl))
  | @update p x w force hx hd hv =>
    by_cases hq : p = q
    · subst hq
      exact Or.inr ⟨w, Store.suits_sourceValue hx hv, rfl, rfl⟩
    · exact Or.inl ((Store.Frame.replaceValue (r := none) (Store.suits_sourceValue hx hv)).valueOf
        fun e => hq (by cases e; rfl))
  | @judge w x r force =>
    exact Or.inl ((Store.Frame.replaceResult (r := none) w r).valueOf (by simp))
  | @request m | @again m | @extra m =>
    exact Or.inl ((Store.Frame.setGuard (n := none) m _).valueOf (by simp))
  | @stop m | @stopExtra m =>
    exact Or.inl (((Store.Frame.setGuard (n := none) m _).trans (.noteOutcome m _)).valueOf
      (by simp))

/-- Who watches a proxy whose value changes is told. -/
theorem Told.update (ho : Ordered ⟨s, tk :: ts, held⟩) {x : ValidatorState H}
    (hx : s.validator? v = some x) (hd : x.disposed = false) {q : ProxyId} (hq : q ∈ x.watched)
    {w : Value} (hs : s.Suits q w) (hw : (s.replaceValue q w).isDisposed (.proxy q) = false) :
    Told ⟨s.replaceValue q w, [(s.replaceValue q w).roundOf (.value q w)] ++ ts, held⟩
      (.validator v) := by
  have hf : Store.Frame (some (.proxy q)) none s (s.replaceValue q w) := .replaceValue hs
  obtain ⟨z, hz, hzd⟩ := Store.isDisposed_proxy_eq_false hw
  obtain ⟨y, hy⟩ := Option.isSome_iff_exists.1 (ho.watched hx q hq)
  obtain ⟨k, hk⟩ := (ho.hearing v).watching x hx hd q hq y hy (hf.later.not_disposed hy hz hzd)
  have hl : (s.replaceValue q w).Listens v q k := hf.listening v (by simp) q k z hk hz hzd
  refine ⟨_, List.mem_append_left _ (List.mem_cons_self ..), k, ?_, ⟨x, hx, hq⟩, hl⟩
  obtain ⟨z', hz', hn⟩ := hl
  obtain rfl := Option.some.inj (hz.symm.trans hz')
  simp only [hz, Option.map_some, Option.getD_some]
  exact Roster.mem_numbers_iff.2 (by simp [hn])

/-- A validator goes on as it did when a task is performed that is not about it. -/
theorem Validates.perform_other (ho : Ordered ⟨s, tk :: ts, held⟩)
    (hg : Guarded ⟨s, tk :: ts, held⟩ (.validator v)) (h : Validates ev ⟨s, tk :: ts, held⟩ v)
    (hp : tk.Performs ev s t new) (hk : tk.subject? ≠ some (.validator v)) :
    Validates ev ⟨t, new ++ ts, held⟩ v := by
  obtain ⟨r, hf⟩ := ho.frame_perform hp
  by_cases hu : ∃ x, s.validator? v = some x ∧ ∃ q ∈ x.watched, ∃ w,
      s.Suits q w ∧ t = s.replaceValue q w ∧ new = [t.roundOf (.value q w)]
  · obtain ⟨x, hx, q, hq, w, hs, rfl, rfl⟩ := hu
    intro y hy hd hw
    obtain rfl := Option.some.inj (hx.symm.trans hy)
    exact Or.inr (Or.inl (.update ho hx hd hq hs (hw q hq)))
  · refine h.of_agree ho hf.later (hf.validator v hk) ?value ?listens ?told ?asked
    case value =>
      intro x hx q hq
      exact (ho.valueOf_perform hp q).resolve_right fun hw => hu ⟨x, hx, q, hq, hw⟩
    case listens =>
      intro q k hd hl
      obtain ⟨y, hy, hd⟩ := Store.isDisposed_proxy_eq_false hd
      exact hf.listening v hk q k y hl hy hd
    case told =>
      intro hs ht
      refine ht.perform hp hs ?_
      rintro l e rfl hl
      exact hk (by rw [← hl]; rfl)
    case asked =>
      intro hd ha
      refine Or.inr ((ha.perform ho hg hp hd).resolve_right ?_)
      rintro ⟨force, rfl⟩
      exact hk rfl

/-- Performing a task keeps validators following. -/
theorem Validates.perform (ho : Ordered ⟨s, tk :: ts, held⟩)
    (hg : Guarded ⟨s, tk :: ts, held⟩ (.validator v)) (h : Validates ev ⟨s, tk :: ts, held⟩ v)
    (hp : tk.Performs ev s t new) : Validates ev ⟨t, new ++ ts, held⟩ v := by
  by_cases hk : tk.subject? = some (.validator v)
  · cases hp with
    | close | tell | miss | follow | request | refuse | update | again | extra | stop | stopExtra
    | gone | goneExtra | bound | pass | bind => cases hk
    | heed =>
      cases hk
      intro _ _ _ _
      exact Or.inr (Or.inr (.of_mem _ (List.mem_cons_self ..) rfl))
    | ignore hd => exact .of_disposed (hd _ hk)
    | keep hm =>
      cases hk
      rcases hm with hd | hf
      · exact .of_disposed hd
      · exact .of_fresh hf
    | @judge w x r force hx hr =>
      cases hk
      refine .of_fresh ?_
      intro y hy
      obtain rfl := Option.some.inj ((Store.validator?_modifyValidator_self hx _).symm.trans hy)
      exact hr.trans (Store.validate_congr ev fun _ _ => rfl).symm
  · exact h.perform_other ho hg hp hk

end

/-! ## Steps -/

/-- A validator that is left alone by a step that performs no task goes on as it did, if the values
    that it watches are left alone too. -/
theorem Validates.quiet_frame (ho : c.Ordered) (h : c.Validates ev v) (hq : Quiet c d)
    (hf : Store.Frame n r c.store d.store) (hn : n ≠ some (.validator v))
    (value : ∀ x, c.store.validator? v = some x → ∀ q ∈ x.watched, n = some (.proxy q) →
      d.store.valueOf q = c.store.valueOf q) : d.Validates ev v := by
  refine h.of_agree ho hf.later (hf.validator v hn) ?value ?listens (fun hs ht => ht.mono hq.tasks hs)
    ?asked
  case value =>
    intro x hx q hq'
    by_cases e : n = some (.proxy q)
    · exact value x hx q hq' e
    · exact hf.valueOf e
  case listens =>
    intro q k hd hl
    obtain ⟨y, hy, hd⟩ := Store.isDisposed_proxy_eq_false hd
    exact hf.listening v hn q k y hl hy hd
  case asked =>
    intro hd ha
    obtain ⟨x, hx, -⟩ := Store.isDisposed_validator_eq_false hd
    obtain ⟨y, hy, -⟩ := exists_of_map_eq (hf.validator v hn).symm hx
    exact Or.inr (ha.quiet hq (Option.isSome_iff_exists.2 ⟨y, hy⟩)
      (Option.isSome_iff_exists.2 ⟨x, hx⟩))

/-- A validator does not notice a step that is about no proxy. -/
theorem Validates.quiet_other (ho : c.Ordered) (h : c.Validates ev v) (hq : Quiet c d)
    (hf : Store.Frame n r c.store d.store) (hn : n ≠ some (.validator v))
    (hp : ∀ q, n ≠ some (.proxy q)) : d.Validates ev v := by
  refine h.quiet_frame ho hq hf hn ?_
  intro _ _ q _ e
  exact absurd e (hp q)

/-- A validator does not notice a step that leaves all proxies and validators alone. -/
theorem Validates.quiet_same (ho : c.Ordered) (h : c.Validates ev v) (hq : Quiet c d)
    (hl : c.store.Later d.store) (hp : d.store.proxies = c.store.proxies)
    (hv : d.store.validators = c.store.validators) : d.Validates ev v := by
  have hx : ∀ w, d.store.validator? w = c.store.validator? w := by
    intro w
    rw [Store.validator?, hv]
    rfl
  refine h.of_agree ho hl (by rw [hx]) ?value ?listens (fun hs ht => ht.mono hq.tasks hs) ?asked
  case value =>
    intro x _ q _
    simp only [Store.valueOf, Store.proxy?, hp]
  case listens =>
    intro q k _
    simp only [Store.Listens, Store.proxy?, hp, imp_self]
  case asked =>
    intro hd ha
    obtain ⟨x, hc, -⟩ := Store.isDisposed_validator_eq_false hd
    have hd : d.store.Alive (Node.validator v).entity :=
      Option.isSome_iff_exists.2 ⟨x, (hx v).trans hc⟩
    exact Or.inr (ha.quiet hq hd (Option.isSome_iff_exists.2 ⟨x, hc⟩))

/-- Every step keeps validators following. -/
theorem Validates.step (ho : c.Ordered) (hg : c.Guarded (.validator v)) (h : c.Validates ev v)
    (hs : Step ev c d) : d.Validates ev v := by
  have later := ho.later hs
  rcases hs.quiet ho with hq | ⟨s, t, tk, new, ts, held, rfl, rfl, hp⟩
  swap
  · exact h.perform ho hg hp
  cases hs with
  | hold | change | form | ask | rebind => exact h.quiet_same ho hq later rfl rfl
  | build hb => exact h.quiet_same ho hq later hb.proxies hb.validators
  | handle hf => exact h.quiet_other ho hq hf (by simp) (by simp)
  | newProxy =>
    refine h.quiet_frame ho hq (Store.newProxy_spec _ _ _ ho.sealed (ho.ledger _)).1 (by simp) ?_
    intro x hx q hq e
    cases e
    exact absurd (ho.watched hx _ hq) (not_alive_new_proxy _)
  | @disposeProxy s ts held p =>
    refine h.quiet_frame ho hq (Store.frame_disposeProxy (r := none) (ho.ledger p)) (by simp) ?_
    intro x hx q hq e
    cases e
    obtain ⟨z, hz⟩ := Option.isSome_iff_exists.1 (ho.watched hx p hq)
    obtain ⟨-, y, hy, e, -⟩ := Store.disposeProxy_spec (r := none) hz (ho.ledger p)
    show (s.disposeProxy p).valueOf p = s.valueOf p
    rw [Store.valueOf_eq hy, Store.valueOf_eq hz]
    exact (ProxyState.core_eq_iff.1 e).2.2.1
  | @newValidator s ts held field rules limit hh =>
    obtain ⟨hf, ⟨ws, hy⟩, -⟩ := Store.newValidator_spec ev field rules limit hh
    by_cases hv : v = ⟨s.validators.next⟩
    · subst hv
      refine .of_fresh ?_
      intro y hy'
      obtain rfl := Option.some.inj (hy.symm.trans hy')
      exact (Store.validate_congr ev fun q _ => hf.valueOf (by simp)).symm
    · exact h.quiet_other ho hq hf (fun e => hv (by cases e; rfl)) (by simp)
  | @disposeValidator s ts held w =>
    by_cases hv : v = w
    · subst hv
      exact .of_disposed (Store.isDisposed_disposeValidator (ho.hearing v))
    · exact h.quiet_other ho hq (Store.frame_disposeValidator (r := none) (ho.hearing w))
        (fun e => hv (by cases e; rfl)) (by simp)
  | perform hp => exact h.perform ho hg hp
  | @drop s ts held e hn =>
    cases e with
    | object o => exact h.quiet_same ho hq later rfl rfl
    | form f => exact h.quiet_same ho hq later rfl rfl
    | proxy p =>
      refine h.quiet_frame ho hq (Store.drop_proxy_spec (ho.ledger p)).1 (by simp) ?_
      intro x hx q hq e
      cases e
      refine absurd (Or.inr (Or.inr (refers_of_validator hx _ ?_))) hn
      exact List.mem_map_of_mem hq
    | validator w =>
      obtain ⟨hf, hx, -⟩ := Store.drop_validator_spec (ho.hearing w)
      by_cases hv : v = w
      · subst hv
        intro y hy
        rw [hx] at hy
        cases hy
      · exact h.quiet_other ho hq hf (fun e => hv (by cases e; rfl)) (by simp)

end Situation

end LiveForm
