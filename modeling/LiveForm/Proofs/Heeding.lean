/-
  Validators that still have to react.

  A run of a validator may be cut off, and then the validator shows an old result until it is told of
  the next change. So what has come of its last run does not tell whether it will show what it should.
  A validator that does not run when it is told of a change will.

  * `Sound.hears`: who hears of an event goes on hearing of it until it is disposed of, or who it
    listens to is;
  * `Situation.Heeds`: a validator shows what it should, or will; `Heeds.perform` and `Heeds.ask`: that
    stays so as long as what it watches does.
-/
import LiveForm.Proofs.Soundness

namespace LiveForm

variable {H : Type}

namespace Store

variable {s t : Store H} {v : ValidatorId}

theorem Later.isDisposed_validator (h : s.Later t) (hv : v.index < s.validators.next)
    (hd : t.isDisposed (.validator v) = false) : s.isDisposed (.validator v) = false := by
  obtain ⟨y, hy, hyd⟩ := isDisposed_validator_eq_false hd
  obtain ⟨x, hx, hxy⟩ := h.validators.old _ y hv hy
  have hx : s.validator? v = some x := hx
  rw [Store.isDisposed, hx, Option.all_some]
  exact Bool.eq_false_iff.2 fun e => Bool.eq_false_iff.1 hyd (hxy.disposed e)

theorem Later.isDisposed_proxy (h : s.Later t) {p : ProxyId} (hp : p.index < s.proxies.next)
    (hd : t.isDisposed (.proxy p) = false) : s.isDisposed (.proxy p) = false :=
  Bool.eq_false_iff.2 fun e => Bool.eq_false_iff.1 hd (h.isDisposed hp e)

end Store

namespace Situation

variable {ev : Evaluator} {c d : Situation H} {v : ValidatorId} {q : ProxyId} {k : Nat}

/-! ## Who goes on hearing -/

/-- A validator goes on listening to a proxy, if neither is disposed of by a step. -/
theorem Ordered.listens (ho : c.Ordered) (hs : Step ev c d) (hl : c.store.Listens v q k)
    (hv : (c.store.validator? v).isSome) (hvd : d.store.isDisposed (.validator v) = false)
    (hqd : d.store.isDisposed (.proxy q) = false) : d.store.Listens v q k := by
  obtain ⟨z, hz, hzd⟩ := Store.isDisposed_proxy_eq_false hqd
  have frame {n r : Option Node} (hf : Store.Frame n r c.store d.store)
      (hn : n ≠ some (.validator v)) : d.store.Listens v q k := hf.listening v hn q k z hl hz hzd
  cases hs with
  | hold | change | form | ask | rebind => exact hl
  | build hb => simpa only [Store.Listens, Store.proxy?, hb.proxies] using hl
  | handle hf => exact frame hf (by simp)
  | newProxy => exact frame (Store.newProxy_spec _ _ _ ho.sealed (ho.ledger _)).1 (by simp)
  | disposeProxy p => exact frame (Store.frame_disposeProxy (r := none) (ho.ledger p)) (by simp)
  | newValidator hh =>
    refine frame (Store.newValidator_spec ev _ _ _ hh).1 fun e => ?_
    cases e
    exact not_alive_new_validator _ hv
  | disposeValidator w =>
    refine frame (Store.frame_disposeValidator (r := none) (ho.hearing w)) fun e => ?_
    cases e
    rw [Store.isDisposed_disposeValidator (ho.hearing v)] at hvd
    cases hvd
  | @perform s t tk new ts held hp =>
    obtain ⟨r, hf⟩ := ho.frame_perform hp
    by_cases hk : tk.subject? = some (.validator v)
    · -- a task that is about a validator leaves all proxies alone
      cases hp with
      | close | tell | miss | heed | ignore | refuse | keep | bound | pass | gone | goneExtra
      | judge => exact hl
      | follow | request | update | again | extra | stop | stopExtra | bind => cases hk
    · exact frame hf hk
  | drop e hn =>
    cases e with
    | object o => exact hl
    | form f => exact hl
    | proxy p => exact frame (Store.drop_proxy_spec (ho.ledger p)).1 (by simp)
    | validator w =>
      obtain ⟨hf, hx, -⟩ := Store.drop_validator_spec (ho.hearing w)
      refine frame hf fun e => ?_
      cases e
      rw [Store.isDisposed, hx] at hvd
      cases hvd

/-- A validator goes on hearing of the proxies that it watches, if neither it nor any of them is
    disposed of. -/
theorem Sound.hears (h : c.Sound ev) (hs : Steps ev c d) (hv : (c.store.validator? v).isSome)
    (hvd : d.store.isDisposed (.validator v) = false)
    (hqd : ∀ x, d.store.validator? v = some x → ∀ q ∈ x.watched,
      d.store.isDisposed (.proxy q) = false) {e : Event}
    (he : c.store.Hears (.validator v) e k) : d.store.Hears (.validator v) e k := by
  obtain ⟨y, hy, -⟩ := Store.isDisposed_validator_eq_false hvd
  induction hs using Relation.ReflTransGen.head_induction_on with
  | refl => exact he
  | @head c c' hst hs ih =>
    have hc' := h.step hst
    obtain ⟨x, hx⟩ := Option.isSome_iff_exists.1 hv
    have hn := Nat.lt_of_lt_of_le (Roster.lt_next_of_get? hx) (h.toOrdered.later hst).validators.next
    obtain ⟨x', hx', hxy⟩ := (hc'.later hs).validators.old _ y hn hy
    have hx' : c'.store.validator? v = some x' := hx'
    have hxx := (h.toOrdered.later hst).validator? hx hx'
    refine ih hc' (Option.isSome_iff_exists.2 ⟨x', hx'⟩) ?_
    cases e with
    | property o m => cases he
    | result w r => cases he
    | value q w =>
      obtain ⟨⟨z, hz, hq⟩, hl⟩ := he
      obtain rfl := Option.some.inj (hx.symm.trans hz)
      have watched : x'.watched = x.watched := by
        rw [ValidatorState.watched, ValidatorState.watched, hxx.field, hxx.rules]
      have watched' : y.watched = x'.watched := by
        rw [ValidatorState.watched, ValidatorState.watched, hxy.field, hxy.rules]
      have hq' : q ∈ y.watched := watched' ▸ watched ▸ hq
      refine ⟨⟨x', hx', watched ▸ hq⟩, h.toOrdered.listens hst hl hv ?_ ?_⟩
      · exact (hc'.later hs).isDisposed_validator hn hvd
      · exact (hc'.later hs).isDisposed_proxy
          (Nat.lt_of_lt_of_le hl.lt_next (h.toOrdered.later hst).proxies.next) (hqd y hy q hq')

/-! ## Who is to react -/

/-- A validator shows what it should, or is computed anew next; or it does not run, and is still to be
    told of a change or has been asked for. -/
def Heeds (ev : Evaluator) (c : Situation H) (v : ValidatorId) : Prop :=
  c.store.Fresh ev (.validator v) ∨ (∃ force, .pass (.validator v) force ∈ c.tasks) ∨
    (∀ tk ∈ c.tasks, tk.settles (.validator v) = false) ∧
      (c.Told (.validator v) ∨ ∃ force, .recompute (.validator v) force ∈ c.tasks)

/-- Where nothing is left to be done, a validator that heeds what it watches shows what it should. -/
theorem Heeds.fresh (h : c.Heeds ev v) (idle : c.tasks = []) :
    c.store.Fresh ev (.validator v) := by
  rcases h with h | ⟨force, hm⟩ | ⟨-, ht | ⟨force, hm⟩⟩
  · exact h
  · rw [idle] at hm
    cases hm
  · exact absurd idle ht.not_idle
  · rw [idle] at hm
    cases hm

/-- A validator goes on heeding what it watches when no task is performed and handlers take their
    turns. -/
theorem Heeds.ask (h : c.Heeds ev v)
    (old : ∀ tk ∈ c.tasks, (∀ f e, tk ≠ .call (.handler f) e) → tk ∈ d.tasks)
    (new : ∀ tk ∈ d.tasks, tk ∈ c.tasks ∨ tk.settles (.validator v) = false)
    (fresh : c.store.Fresh ev (.validator v) → d.store.Fresh ev (.validator v))
    (hears : ∀ e k, c.store.Hears (.validator v) e k → d.store.Hears (.validator v) e k) :
    d.Heeds ev v := by
  rcases h with h | ⟨force, hm⟩ | ⟨hr, ha⟩
  · exact Or.inl (fresh h)
  · exact Or.inr (Or.inl ⟨force, old _ hm nofun⟩)
  refine Or.inr (Or.inr ⟨fun tk htk => (new tk htk).elim (hr tk) id, ?_⟩)
  rcases ha with ⟨tk, htk, tells⟩ | ⟨force, hm⟩
  · have htk' : tk ∈ d.tasks := old tk htk fun f e hf => by
      subst hf
      cases tells
    refine Or.inl ⟨tk, htk', ?_⟩
    unfold Task.Tells at tells ⊢
    split at tells
    · exact tells
    · obtain ⟨k, hk, tells⟩ := tells
      exact ⟨k, hk, hears _ _ tells⟩
    · cases tells
  · exact Or.inr ⟨force, old _ hm nofun⟩

section

variable {s t u : Store H} {tk : Task H} {new ts : List (Task H)} {held held' : List Entity}

/-- A pass leaves a validator with the result that it should show. -/
theorem fresh_of_pass {force : Bool} (hp : Task.Performs ev s (.pass (.validator v) force) t new)
    (hd : s.isDisposed (.validator v) = false) : t.Fresh ev (.validator v) := by
  cases hp with
  | keep hm => exact hm.resolve_left (by simp [hd])
  | @judge _ x r _ hx hr =>
    intro y hy
    obtain rfl := Option.some.inj ((Store.validator?_modifyValidator_self hx _).symm.trans hy)
    exact hr.trans (Store.validate_congr ev fun _ _ => rfl).symm

/-- A validator goes on showing what it should as long as what it watches shows the same. -/
theorem Ordered.fresh_perform (ho : Ordered ⟨s, tk :: ts, held⟩) (hp : tk.Performs ev s t new)
    (hd : s.isDisposed (.validator v) = false)
    (value : ∀ x, s.validator? v = some x → ∀ q ∈ x.watched, t.valueOf q = s.valueOf q)
    (h : s.Fresh ev (.validator v)) : t.Fresh ev (.validator v) := by
  by_cases hk : tk.subject? = some (.validator v)
  · cases hp with
    | close | tell | miss | follow | request | refuse | update | again | extra | stop | stopExtra
    | gone | goneExtra | bound | pass | bind => cases hk
    | heed | ignore => exact h
    | @keep _ force hm =>
      cases hk
      have hp : Task.Performs ev s (.pass (.validator v) force) s [] := .keep hm
      exact fresh_of_pass hp hd
    | @judge _ _ _ force hx hr =>
      cases hk
      have hp : Task.Performs ev s (.pass (.validator v) force) _ _ := .judge hx hr
      exact fresh_of_pass hp hd
  · obtain ⟨r, hf⟩ := ho.frame_perform hp
    exact h.congr_validator (hf.validator v hk) value

/-- Tasks that do nothing to the runs of a node put no ends of its passes among the tasks. -/
theorem settles_of_performs {n : Node} (hp : tk.Performs ev s t new) (hk : tk.runs n = false) :
    ∀ tk' ∈ new, tk'.settles n = false := by
  cases hp with
  | close | refuse | keep | stop | stopExtra | gone | goneExtra | ignore | bound =>
    exact List.forall_mem_nil _
  | tell | miss | follow | heed | update | pass | bind => simp [Task.settles, Store.roundOf]
  | judge => split <;> simp [Task.settles, Store.roundOf]
  | request =>
    have hk : _ = false := hk
    split <;> simp_all [Task.settles, Task.runs]
  | again => simp_all [Task.settles, Task.runs]
  | extra => simp_all [Task.settles, Task.runs]

/-- A validator goes on heeding what it watches when a task is performed, in every store in which it
    shows and hears the same. -/
theorem Heeds.perform (ho : Ordered ⟨s, tk :: ts, held⟩)
    (hg : Guarded ⟨s, tk :: ts, held⟩ (.validator v)) (h : Heeds ev ⟨s, tk :: ts, held⟩ v)
    (hp : tk.Performs ev s t new) (hd : s.isDisposed (.validator v) = false)
    (value : ∀ x, s.validator? v = some x → ∀ q ∈ x.watched, t.valueOf q = s.valueOf q)
    (fresh : t.Fresh ev (.validator v) → u.Fresh ev (.validator v))
    (hears : ∀ e k, s.Hears (.validator v) e k → u.Hears (.validator v) e k) :
    Heeds ev ⟨u, new ++ ts, held'⟩ v := by
  rcases h with hf | ⟨force, hm⟩ | ⟨hr, ha⟩
  · exact Or.inl (fresh (ho.fresh_perform hp hd value hf))
  · rcases List.mem_cons.1 hm with rfl | hm
    · exact Or.inl (fresh (fresh_of_pass hp hd))
    · exact Or.inr (Or.inl ⟨force, List.mem_append_right _ hm⟩)
  obtain ⟨hk, hts⟩ := List.forall_mem_cons.1 hr
  by_cases asked : ∃ force, tk = .recompute (.validator v) force
  · -- no run is in progress, so the request starts one
    obtain ⟨force, rfl⟩ := asked
    cases hp with
    | refuse hd' => simp [hd] at hd'
    | @request _ _ g _ hgs =>
      obtain ⟨o, hro⟩ := guard?_eq_some_iff.1 hgs
      have idle : g.running = false := by
        have hc := (hg g o hro).1
        rw [List.countP_eq_zero.2 fun tk htk => by simp [hr tk htk]] at hc
        by_contra hn
        simp [hn] at hc
      have starts : (g.request force).2 = true := by simp [Guard.request, idle]
      rw [if_pos starts]
      exact Or.inr (Or.inl ⟨force, by simp⟩)
  have runs : tk.runs (.validator v) = false := by
    cases tk with
    | recompute m force =>
      refine decide_eq_false fun e => asked ⟨force, ?_⟩
      rw [e]
    | settle | settleExtra => exact hk
    | _ => rfl
  refine Or.inr (Or.inr ⟨List.forall_mem_append.2 ⟨settles_of_performs hp runs, hts⟩, ?_⟩)
  rcases ha with ha | ⟨force, hm⟩
  · by_cases called : ∃ l e, tk = .call l e ∧ l.node? = some (.validator v)
    · obtain ⟨l, e, rfl, hl⟩ := called
      cases l with
      | handler | proxy => cases hl
      | validator w =>
        cases hl
        cases hp with
        | heed => exact Or.inr ⟨false, by simp⟩
        | ignore hd' => simp [hd, Listener.node?] at hd'
    · exact Or.inl (ha.perform hp hears fun l e h₁ h₂ => called ⟨l, e, h₁, h₂⟩)
  · refine Or.inr ⟨force, List.mem_append_right _ ?_⟩
    exact (List.mem_cons.1 hm).resolve_left fun e => asked ⟨force, e.symm⟩

end

end Situation

end LiveForm
