/-
  Nodes that are disposed of are mute.

  Whoever is told of a node is called by a round that began before, under a number that was given out
  before. A node that is disposed of gives up its listeners and begins no round any more, and numbers
  are never given out again. So the rounds in progress find nobody, and who begins to listen later is
  in none of them.

  * `Store.Vacates`: none of those who listened to a node is left; `Changes.vacates`: so it is when the
    node has been disposed of;
  * `Session.InRounds`: what holds of the numbers in the rounds of a node; `InRounds.turn`: it goes on to
    hold;
  * `Reachable.call_first`: to call a listener is always what comes next;
  * `Session.Muted`: nobody will be told of a node any more; `Muted.move` and `Reachable.muted`: it stays
    so, and to dispose of a node mutes it.
-/
import LiveForm.Proofs.Swapping

namespace LiveForm

variable {H : Type}

namespace Store

variable {L : Licence H} {s t u : Store H} {n : Node}

/-! ## Who listens to a node -/

/-- Those who listen to a node. -/
def listeners? (s : Store H) : Node → Option (Roster (Listener H))
  | .proxy p => (s.proxy? p).map fun x => x.listeners
  | .validator v => (s.validator? v).map fun x => x.listeners

theorem listener?_of_node {e : Event} (he : e.node? = some n) (k : Nat) :
    s.listener? e k = (s.listeners? n).bind fun r => r.get? k := by
  cases e with
  | property o name => cases he
  | value p v =>
    cases he
    rw [listeners?, Option.bind_map]
    rfl
  | result v r =>
    cases he
    rw [listeners?, Option.bind_map]
    rfl

theorem made_of_listeners? {r : Roster (Listener H)} (h : s.listeners? n = some r) : s.Made n := by
  cases n with
  | proxy p =>
    obtain ⟨x, hx, -⟩ := Option.map_eq_some_iff.1 h
    exact Roster.lt_next_of_get? hx
  | validator v =>
    obtain ⟨x, hx, -⟩ := Option.map_eq_some_iff.1 h
    exact Roster.lt_next_of_get? hx

/-- Those who listen to the nodes of a store come from those who listened before. -/
def succession (s : Store H) : Trait H where
  objects := 0
  proxies := s.proxies.next
  validators := s.validators.next
  object _ _ := True
  proxy p y := p.index < s.proxies.next → ∃ x, s.proxy? p = some x ∧ x.listeners.Later Eq y.listeners
  validator v y := v.index < s.validators.next →
    ∃ x, s.validator? v = some x ∧ x.listeners.Later Eq y.listeners

theorem ofListeners_succession (s : Store H) : s.succession.OfListeners where
  proxy e h := by simpa only [succession, e] using h
  validator e h := by simpa only [succession, e] using h

theorem all_succession (s : Store H) : s.All s.succession where
  objects := Nat.zero_le _
  object _ _ _ := trivial
  proxies := Nat.le_refl _
  proxy _ x hx _ := ⟨x, hx, .refl fun _ => rfl⟩
  validators := Nat.le_refl _
  validator _ x hx _ := ⟨x, hx, .refl fun _ => rfl⟩

theorem stable_succession (s : Store H) : s.succession.Stable L where
  newObject _ _ _ := trivial
  setProperty _ _ _ _ _ _ _ := trivial
  removeProperty _ _ _ _ _ := trivial
  subscribe _ _ _ _ := trivial
  attach _ _ _ := trivial
  unsubscribe _ _ := trivial
  newProxy _ _ _ _ hp hn := absurd hn (Nat.not_lt.2 hp)
  subscriptions _ h := h
  listen _ _ h hn :=
    have ⟨x, hx, hl⟩ := h hn
    ⟨x, hx, hl.trans (fun _ _ _ => Eq.trans) (.add (fun _ => rfl) _)⟩
  hear _ h hn :=
    have ⟨x, hx, hl⟩ := h hn
    ⟨x, hx, hl.trans (fun _ _ _ => Eq.trans) (.add (fun _ => rfl) _)⟩
  unlisten _ h hn :=
    have ⟨x, hx, hl⟩ := h hn
    ⟨x, hx, hl.trans (fun _ _ _ => Eq.trans) (.remove (fun _ => rfl) _)⟩
  disposeProxy _ _ _ h := h
  clear h hn :=
    have ⟨x, hx, hl⟩ := h hn
    ⟨x, hx, hl.trans (fun _ _ _ => Eq.trans) .clear⟩
  newValidator _ _ _ _ hv hn := absurd hn (Nat.not_lt.2 hv)
  notes _ h := h
  watch _ _ h hn :=
    have ⟨x, hx, hl⟩ := h hn
    ⟨x, hx, hl.trans (fun _ _ _ => Eq.trans) (.add (fun _ => rfl) _)⟩
  unwatch _ h hn :=
    have ⟨x, hx, hl⟩ := h hn
    ⟨x, hx, hl.trans (fun _ _ _ => Eq.trans) (.remove (fun _ => rfl) _)⟩
  disposeValidator _ _ _ h := h
  clearValidator h hn :=
    have ⟨x, hx, hl⟩ := h hn
    ⟨x, hx, hl.trans (fun _ _ _ => Eq.trans) .clear⟩

/-- Under an old number of an old node there is nobody but who was there before. -/
theorem All.listeners? (h : t.All s.succession) (hn : s.Made n) {r' : Roster (Listener H)}
    (hr : t.listeners? n = some r') : ∃ r, s.listeners? n = some r ∧ r.Later Eq r' := by
  cases n with
  | proxy p =>
    obtain ⟨y, hy, rfl⟩ := Option.map_eq_some_iff.1 hr
    obtain ⟨x, hx, hl⟩ := h.proxy p y hy hn
    exact ⟨x.listeners, by rw [Store.listeners?, hx]; rfl, hl⟩
  | validator v =>
    obtain ⟨y, hy, rfl⟩ := Option.map_eq_some_iff.1 hr
    obtain ⟨x, hx, hl⟩ := h.validator v y hy hn
    exact ⟨x.listeners, by rw [Store.listeners?, hx]; rfl, hl⟩

theorem All.made (h : t.All s.succession) (hn : s.Made n) : t.Made n := by
  cases n with
  | proxy p => exact Nat.lt_of_lt_of_le hn h.proxies
  | validator v => exact Nat.lt_of_lt_of_le hn h.validators

/-! ## Disposal -/

/-- None of those who listened to a node is left. -/
def Vacates (n : Node) (s t : Store H) : Prop :=
  ∀ r r', s.listeners? n = some r → t.listeners? n = some r' → ∀ k < r.next, r'.get? k = none

theorem isDisposed_proxy_congr {p : ProxyId}
    (h : (t.proxy? p).map (fun x => x.disposed) = (s.proxy? p).map fun x => x.disposed) :
    t.isDisposed (.proxy p) = s.isDisposed (.proxy p) := by
  simp only [isDisposed]
  cases hx : t.proxy? p <;> cases hy : s.proxy? p <;> simp_all

theorem isDisposed_validator_congr {v : ValidatorId}
    (h : (t.validator? v).map (fun x => x.disposed) = (s.validator? v).map fun x => x.disposed) :
    t.isDisposed (.validator v) = s.isDisposed (.validator v) := by
  simp only [isDisposed]
  cases hx : t.validator? v <;> cases hy : s.validator? v <;> simp_all

/-- A proxy that is disposed of gives up its listeners. -/
theorem listeners?_disposeProxy {p : ProxyId} {x : ProxyState H} (hx : s.proxy? p = some x)
    (hd : x.disposed = false) :
    (s.disposeProxy p).listeners? (.proxy p) = some x.listeners.clear := by
  have kept := map_proxy?_detach (s := s.modifyProxy p fun x => { x with disposed := true })
    (f := fun x => x.listeners.clear) (fun _ _ => rfl) p p
  rw [proxy?_modifyProxy_self hx] at kept
  rw [disposeProxy_of_not_disposed hx hd, listeners?, proxy?_modifyProxy, if_pos rfl, Option.map_map]
  exact kept

/-- A validator that is disposed of gives up its listeners. -/
theorem listeners?_disposeValidator {v : ValidatorId} {x : ValidatorState H}
    (hx : s.validator? v = some x) (hd : x.disposed = false) :
    (s.disposeValidator v).listeners? (.validator v) = some x.listeners.clear := by
  have hy := validator?_silence (validator?_modifyValidator_self hx fun x =>
    { x with disposed := true })
  rw [disposeValidator_of_not_disposed hx hd, listeners?, validator?_modifyValidator_self hy]
  rfl

/-- To dispose of a proxy disposes of no other node. -/
theorem isDisposed_disposeProxy_of_ne {p : ProxyId} (hn : n ≠ .proxy p) :
    (s.disposeProxy p).isDisposed n = s.isDisposed n := by
  cases hx : s.proxy? p with
  | none => rw [disposeProxy_of_none hx]
  | some x =>
    cases hd : x.disposed with
    | true => rw [disposeProxy_of_disposed hx hd]
    | false =>
      rw [disposeProxy_of_not_disposed hx hd]
      cases n with
      | proxy q =>
        have hq : q ≠ p := fun e => hn (congrArg Node.proxy e)
        refine isDisposed_proxy_congr ?_
        rw [proxy?_modifyProxy_of_ne hq, map_proxy?_detach fun _ _ => rfl,
          proxy?_modifyProxy_of_ne hq]
      | validator v =>
        refine isDisposed_validator_congr (congrArg _ ?_)
        show ((s.modifyProxy p _).detach p).validators.get? _ = _
        rw [validators_detach]
        rfl

/-- To dispose of a validator disposes of no other node. -/
theorem isDisposed_disposeValidator_of_ne {v : ValidatorId} (hn : n ≠ .validator v) :
    (s.disposeValidator v).isDisposed n = s.isDisposed n := by
  cases hx : s.validator? v with
  | none => rw [disposeValidator_of_none hx]
  | some x =>
    cases hd : x.disposed with
    | true => rw [disposeValidator_of_disposed hx hd]
    | false =>
      rw [disposeValidator_of_not_disposed hx hd]
      cases n with
      | proxy q => exact isDisposed_proxy_congr (map_proxy?_silence (fun _ _ => rfl) v q)
      | validator w =>
        have hw : w ≠ v := fun e => hn (congrArg Node.validator e)
        have silenced : ∀ u : Store H, (u.silence v).validator? w = u.validator? w := by
          intro u
          unfold silence
          split
          · rfl
          · rw [validator?_modifyValidator, if_neg hw, validator?, validators_unlistenAll]
            rfl
        refine isDisposed_validator_congr ?_
        rw [validator?_modifyValidator, if_neg hw, silenced, validator?_modifyValidator, if_neg hw]

/-- A change does nothing that is writing, or leaves the nodes alone, or disposes of one of them. -/
theorem Change.cases_writes (h : s.Change L t) :
    s.Change { L with writes := False } t ∨ (t.proxies = s.proxies ∧ t.validators = s.validators) ∨
      (∃ p, t = s.disposeProxy p) ∨ ∃ v, t = s.disposeValidator v := by
  cases h with
  | newObject typeName => exact Or.inr (Or.inl ⟨rfl, rfl⟩)
  | newObjectOf j =>
    have made := (s.newObjectOf_spec j).1
    exact Or.inr (Or.inl ⟨made.proxies, made.validators⟩)
  | setProperty | removeProperty => exact Or.inr (Or.inl ⟨rfl, rfl⟩)
  | disposeProxy p => exact Or.inr (Or.inr (Or.inl ⟨p, rfl⟩))
  | disposeValidator v => exact Or.inr (Or.inr (Or.inr ⟨v, rfl⟩))
  | document j => exact Or.inl (.document s j)
  | subscribe o name hf => exact Or.inl (.subscribe s o name hf)
  | unsubscribe o k => exact Or.inl (.unsubscribe s o k)
  | newProxy source b limit => exact Or.inl (.newProxy s source b limit)
  | listen p hf => exact Or.inl (.listen s p hf)
  | unlisten p k => exact Or.inl (.unlisten s p k)
  | newValidator ev field rules limit => exact Or.inl (.newValidator s ev field rules limit)
  | watch v hf => exact Or.inl (.watch s v hf)
  | unwatch v k => exact Or.inl (.unwatch s v k)
  | newForm fields b => exact Or.inl (.newForm s fields b)
  | bindForm f b => exact Or.inl (.bindForm s f b)
  | drop e => exact Or.inl (.drop s e)

/-- Without writing nothing is disposed of, though it may be gone. -/
theorem Spares.isDisposed_eq (h : s.Spares L t) (hw : ¬ L.writes) (hn : s.Made n)
    {r : Roster (Listener H)} (hr : t.listeners? n = some r) : t.isDisposed n = s.isDisposed n := by
  cases n with
  | proxy p =>
    obtain ⟨y, hy, -⟩ := Option.map_eq_some_iff.1 hr
    rcases h.proxy p y hy with ⟨x, hx, hxy⟩ | ⟨hp, -⟩
    · simp [Store.isDisposed, hx, hy, hxy.kept hw]
    · exact absurd hn (Nat.not_lt.2 hp)
  | validator v =>
    obtain ⟨y, hy, -⟩ := Option.map_eq_some_iff.1 hr
    rcases h.validator v y hy with ⟨x, hx, hxy⟩ | ⟨hv, -⟩
    · simp [Store.isDisposed, hx, hy, hxy.kept hw]
    · exact absurd hn (Nat.not_lt.2 hv)

/-- Of those who listened to a node nobody is left when it is disposed of. -/
theorem Change.vacates (h : s.Change L t) (hd : s.isDisposed n = false) (hd' : t.isDisposed n) :
    s.Vacates n t := by
  intro r r' hr hr' k hk
  have same : t.isDisposed n ≠ s.isDisposed n := by simp [hd, hd']
  rcases h.cases_writes with h | ⟨hp, hv⟩ | ⟨p, rfl⟩ | ⟨v, rfl⟩
  · have := (spares_of_changes (.single h)).isDisposed_eq id (made_of_listeners? hr) hr'
    exact absurd this same
  · refine absurd ?_ same
    cases n <;> simp only [isDisposed, proxy?, validator?, hp, hv]
  · have hn : n = .proxy p := by
      by_contra hn
      exact same (isDisposed_disposeProxy_of_ne hn)
    subst hn
    obtain ⟨x, hx, hxd⟩ := isDisposed_proxy_eq_false hd
    rw [listeners?_disposeProxy hx hxd] at hr'
    cases hr'
    rfl
  · have hn : n = .validator v := by
      by_contra hn
      exact same (isDisposed_disposeValidator_of_ne hn)
    subst hn
    obtain ⟨x, hx, hxd⟩ := isDisposed_validator_eq_false hd
    rw [listeners?_disposeValidator hx hxd] at hr'
    cases hr'
    rfl

theorem Changes.vacates (h : s.Changes L t) (hd : s.isDisposed n = false) (hd' : t.isDisposed n) :
    s.Vacates n t := by
  induction h using Relation.ReflTransGen.head_induction_on with
  | refl =>
    rw [hd] at hd'
    cases hd'
  | @head s u hc h ih =>
    intro r r' hr hr' k hk
    have made := made_of_listeners? hr
    have before := (all_succession s).change (stable_succession s) hc
    have after := (all_succession u).changes (stable_succession u) h
    obtain ⟨r₁, hr₁, later⟩ := after.listeners? (before.made made) hr'
    obtain ⟨r₀, hr₀, first⟩ := before.listeners? made hr₁
    obtain rfl := Option.some.inj (hr.symm.trans hr₀)
    have hk₁ : k < r₁.next := Nat.lt_of_lt_of_le hk first.next
    cases hu : u.isDisposed n with
    | false => exact ih hu r₁ r' hr₁ hr' k hk₁
    | true =>
      have gone := hc.vacates hd hu r r₁ hr hr₁ k hk
      rw [Option.eq_none_iff_forall_ne_some]
      intro l hl
      obtain ⟨l', hl', -⟩ := later.old k l hk₁ hl
      rw [gone] at hl'
      cases hl'

end Store

/-! ## Tasks -/

section

variable {ev : Evaluator} {s u : Store H} {tk : Task H} {new : List (Task H)} {n : Node}

/-- A round of a node that is put first goes on with another one, or it begins and is for those who
    listen to the node, which is not disposed of. -/
theorem Task.Performs.round_new (h : tk.Performs ev s u new) {e : Event} {ks : List Nat}
    (hm : .round e ks ∈ new) (he : e.node? = some n) :
    (∃ ks', tk = .round e ks' ∧ ∀ k ∈ ks, k ∈ ks') ∨
      s.isDisposed n = false ∧ ∃ r, u.listeners? n = some r ∧ ks = r.numbers := by
  cases h with
  | close | ignore | refuse | keep | stop | stopExtra | gone | goneExtra | bound =>
    exact absurd hm List.not_mem_nil
  | @tell e' k ks' l hl =>
    simp only [List.mem_cons, reduceCtorEq, Task.round.injEq, List.not_mem_nil, or_false,
      false_or] at hm
    obtain ⟨rfl, rfl⟩ := hm
    exact Or.inl ⟨_, rfl, fun k hk => List.mem_cons_of_mem _ hk⟩
  | @miss e' k ks' hl =>
    simp only [List.mem_singleton, Task.round.injEq] at hm
    obtain ⟨rfl, rfl⟩ := hm
    exact Or.inl ⟨_, rfl, fun k hk => List.mem_cons_of_mem _ hk⟩
  | follow | heed | again | extra | pass | bind => simp at hm
  | request => split at hm <;> simp at hm
  | @update p x v force hx hd =>
    simp only [Store.roundOf, List.mem_singleton, Task.round.injEq] at hm
    obtain ⟨rfl, rfl⟩ := hm
    cases he
    have hy : (s.replaceValue p v).proxy? p = _ := Store.proxy?_modifyProxy_self hx _
    refine Or.inr ⟨by simp [Store.isDisposed, hx, hd], _, by rw [Store.listeners?, hy]; rfl, ?_⟩
    rw [hy]
    rfl
  | @judge v x r force hx =>
    split at hm
    · cases hm
    · next hd =>
      simp only [Store.roundOf, List.mem_singleton, Task.round.injEq] at hm
      obtain ⟨rfl, rfl⟩ := hm
      cases he
      have hy : (s.replaceResult v r).validator? v = _ := Store.validator?_modifyValidator_self hx _
      refine Or.inr ⟨by simpa [Store.isDisposed, hx] using hd, _,
        by rw [Store.listeners?, hy]; rfl, ?_⟩
      rw [hy]
      rfl

/-- Who is called has the next number of a round in progress. -/
theorem Task.Performs.call_new (h : tk.Performs ev s u new) {l : Listener H} {e : Event}
    (hm : .call l e ∈ new) : ∃ k ks, tk = .round e (k :: ks) ∧ s.listener? e k = some l := by
  cases h with
  | @tell e' k ks l' hl =>
    simp only [List.mem_cons, Task.call.injEq, reduceCtorEq, List.not_mem_nil, or_false] at hm
    obtain ⟨rfl, rfl⟩ := hm
    exact ⟨k, ks, rfl, hl⟩
  | request => split at hm <;> simp at hm
  | judge => split at hm <;> simp [Store.roundOf] at hm
  | update => simp [Store.roundOf] at hm
  | _ => simp at hm

/-- A pass of a proxy that is disposed of comes to nothing. -/
theorem Task.Performs.eq_of_disposed {p : ProxyId} {force : Bool}
    (h : (Task.pass (.proxy p) force).Performs ev s u new) (hd : s.isDisposed (.proxy p)) :
    u = s := by
  cases h with
  | keep => rfl
  | update hx hd' =>
    rw [Store.isDisposed, hx, Option.all_some, hd'] at hd
    cases hd

end

namespace Session

variable {L : Licence Script} {g : Engine} {s t u : Session} {n : Node} {c : Command}

/-! ## Rounds in progress -/

theorem Turn.succession (ht : s.Turn L t) : t.store.All s.store.succession :=
  ht.all (Store.stable_succession _) (Store.ofListeners_succession _) (Store.all_succession _)

/-- What has been disposed of stays so. -/
theorem Turn.isDisposed (ht : s.Turn L t) (hn : s.store.Made n) (hd : s.store.isDisposed n) :
    t.store.isDisposed n := by
  by_contra hd'
  have hd' : t.store.isDisposed n = false := by simpa using hd'
  cases ht with
  | @perform tk _ _ _ _ hu =>
    have hp := tk.performs s.engine.evaluator s.store
    have := (Store.spares_of_changes hu).isDisposed (hp.made hn) hd'
    rw [hp.isDisposed, hd] at this
    cases this
  | ask _ _ _ _ _ hu =>
    have := (Store.spares_of_changes hu).isDisposed hn hd'
    rw [hd] at this
    cases this

/-- Something holds of the numbers under which the rounds of a node are still to tell of it, and of those
    who listen to the node. -/
def InRounds (P : Roster (Listener Script) → Nat → Prop) (n : Node) (s : Session) : Prop :=
  ∀ e ks, .task (.round e ks) ∈ s.agenda → e.node? = some n →
    s.store.Made n ∧ ∀ r, s.store.listeners? n = some r → ∀ k ∈ ks, P r k

variable {P : Roster (Listener Script) → Nat → Prop}

/-- What listeners who come and go make no difference to, and holds where a round begins, holds of all
    rounds. -/
theorem InRounds.turn (later : ∀ r r' k, r.Later Eq r' → P r k → P r' k)
    (begins : s.store.isDisposed n = false → ∀ r k, k ∈ r.numbers → P r k)
    (h : s.InRounds P n) (ht : s.Turn L t) : t.InRounds P n := by
  have all := ht.succession
  have old : ∀ (e : Event) (ks ks' : List Nat), .task (.round e ks') ∈ s.agenda → (∀ k ∈ ks, k ∈ ks') →
      e.node? = some n →
      t.store.Made n ∧ ∀ r, t.store.listeners? n = some r → ∀ k ∈ ks, P r k := by
    intro e ks ks' hm hk he
    obtain ⟨made, hP⟩ := h e ks' hm he
    refine ⟨all.made made, fun r' hr' k hk' => ?_⟩
    obtain ⟨r, hr, hl⟩ := all.listeners? made hr'
    exact later r r' k hl (hP r hr k (hk k hk'))
  intro e ks hm he
  cases ht with
  | @perform tk rest hs inner ht hu =>
    have hp := tk.performs s.engine.evaluator s.store
    rw [ht] at hm
    rcases List.mem_append.1 hm with hm | hm
    · obtain ⟨tk', hm, e'⟩ := List.mem_map.1 hm
      cases e'
      rcases hp.round_new hm he with ⟨ks', rfl, hk⟩ | ⟨hd, r₀, hr₀, rfl⟩
      · exact old e ks ks' (by rw [hs]; exact List.mem_cons_self) hk he
      · -- the round has just begun, and those who listen are those whom it is for
        have made := Store.made_of_listeners? hr₀
        have after := (Store.all_succession _).changes (Store.stable_succession _) hu
        refine ⟨after.made made, fun r' hr' k hk => ?_⟩
        obtain ⟨r, hr, hl⟩ := after.listeners? made hr'
        obtain rfl := Option.some.inj (hr₀.symm.trans hr)
        exact later _ r' k hl (begins hd _ k hk)
    · exact old e ks ks (by rw [hs]; exact List.mem_cons_of_mem _ hm) (fun _ => id) he
  | @ask pre ws rest hs hp outer ht hw hu =>
    rw [ht] at hm
    rcases List.mem_append.1 hm with hm | hm
    · have ask : (Task.round e ks : Task Script).IsAsk := (hw _ hm).1
      cases e with
      | property => cases he
      | value | result => cases ask
    · exact old e ks ks (by rw [hs]; exact List.mem_append_right _ hm) (fun _ => id) he

/-- In every session that comes about, rounds tell nobody under numbers that have not been given out. -/
theorem Reachable.numbered (h : Reachable g s) (n : Node) : s.InRounds (fun r k => k < r.next) n := by
  obtain ⟨objects, s₀, h₀, h⟩ := h
  induction h with
  | refl =>
    intro e ks hm
    rw [agenda_withObjects h₀] at hm
    cases hm
  | tail _ hm ih =>
    refine ih.turn (fun r r' k hl hk => Nat.lt_of_lt_of_le hk hl.next) (fun _ r k hk => ?_) hm.turn
    exact r.lt_next k hk

/-! ## Calls -/

end Session

/-- A listener is called. -/
def Work.isCall : Work → Bool
  | .task (.call _ _) => true
  | _ => false

theorem Work.IsAsk.isCall {w : Work} (h : w.IsAsk) : w.isCall = false := by
  cases w with
  | task tk =>
    cases tk with
    | call => cases h
    | _ => rfl
  | script | reply => rfl

/-- Of the tasks that are put first none but the first one is a call. -/
theorem Task.Performs.call_first {ev : Evaluator} {s u : Store Script} {tk : Task Script}
    {new : List (Task Script)} (h : tk.Performs ev s u new) :
    ∀ tk' ∈ new.tail, (Work.task tk').isCall = false := by
  cases h with
  | request | judge => split <;> simp [Work.isCall]
  | _ => simp [Work.isCall]

namespace Session

variable {L : Licence Script} {g : Engine} {s t u : Session} {n : Node} {c : Command}

/-- Where a command is given, no listener is just being called. -/
theorem Gives.head (h : s.Gives c t) : ∀ w ∈ s.agenda.head?, w.isOuter ∧ w.isCall = false := by
  cases h with
  | caller hs => simp [hs]
  | handler hs | script hs => simp [hs, Work.isOuter, Work.isCall]

/-- A command that is given changes the store, and puts before the rest what commands leave. -/
theorem Gives.asks (h : s.Gives c t) : ∃ ws rest, t.agenda = ws ++ rest ∧ (∀ w ∈ ws, w.IsAsk) ∧
    (∀ w ∈ rest, w ∈ s.agenda) ∧ s.store.Changes .all t.store := by
  cases h.turn with
  | perform hs inner =>
    have := (h.head _ (by rw [hs]; rfl)).1
    rw [inner] at this
    cases this
  | @ask pre ws rest hs hp outer ht hw hu =>
    exact ⟨ws, rest, ht, fun w hm => (hw w hm).1, fun w hm => hs ▸ List.mem_append_right _ hm, hu⟩

/-- To call a listener is always what comes next, unless a handler is called again. -/
theorem Turn.call_first (h : ∀ w ∈ s.agenda.tail, w.isCall = false)
    (hc : ∀ w ∈ s.agenda.head?, w.isOuter → w.isCall = false) (ht : s.Turn L t) :
    ∀ w ∈ t.agenda.tail, w.isCall = false := by
  cases ht with
  | @perform tk rest hs inner ht =>
    have first := (tk.performs s.engine.evaluator s.store).call_first
    have later : ∀ w ∈ rest, w.isCall = false := by rwa [hs] at h
    generalize (tk.perform s.engine.evaluator s.store).2 = new at first ht
    rw [ht]
    intro w hw
    cases new with
    | nil => exact later w (List.mem_of_mem_tail hw)
    | cons tk' new =>
      rcases List.mem_append.1 hw with hw | hw
      · obtain ⟨tk'', hm, rfl⟩ := List.mem_map.1 hw
        exact first tk'' hm
      · exact later w hw
  | @ask pre ws rest hs hp outer ht hw =>
    have none : ∀ w ∈ s.agenda, w.isCall = false := by
      intro w hm
      cases hs' : s.agenda with
      | nil => rw [hs'] at hm; cases hm
      | cons w' ws' =>
        rw [hs'] at hm h hc outer
        rcases List.mem_cons.1 hm with rfl | hm
        · exact hc w rfl (outer w rfl)
        · exact h w hm
    rw [ht]
    intro w hm
    rcases List.mem_append.1 (List.mem_of_mem_tail hm) with hm | hm
    · exact (hw w hm).1.isCall
    · exact none w (hs ▸ List.mem_append_right _ hm)

/-- In every session that comes about, to call a listener is what comes next. -/
theorem Reachable.call_first (h : Reachable g s) : ∀ w ∈ s.agenda.tail, w.isCall = false := by
  obtain ⟨objects, s₀, h₀, h⟩ := h
  induction h with
  | refl =>
    rw [agenda_withObjects h₀]
    exact List.forall_mem_nil _
  | @tail s t _ hm ih =>
    by_cases hc : ∀ w ∈ s.agenda.head?, w.isOuter → w.isCall = false
    · exact hm.turn.call_first ih hc
    · -- a handler is called, which is nothing but the next step
      cases hm with
      | give c hg => exact absurd (fun w hw _ => (hg.head w hw).2) hc
      | step =>
        cases hs : s.agenda with
        | nil => simp [hs] at hc
        | cons w rest =>
          rw [hs] at ih
          have called : ∃ x e, w = .task (.call (.handler x) e) := by
            by_contra hn
            refine hc fun w' hw' ho => ?_
            rw [hs] at hw'
            cases hw'
            match w with
            | .task (.call (.handler x) e) => exact absurd ⟨x, e, rfl⟩ hn
            | .script .. | .reply .. => rfl
          obtain ⟨x, e, rfl⟩ := called
          rw [step_of_agenda hs]
          exact ih

/-! ## Nodes that are mute -/

/-- A node is disposed of, and nobody will be told of it any more. -/
structure Muted (n : Node) (s : Session) : Prop where
  made : s.store.Made n
  disposed : s.store.isDisposed n
  /-- Rounds in progress find nobody, not even one who begins to listen now. -/
  rounds : s.InRounds (fun r k => k < r.next ∧ r.get? k = none) n
  calls : ∀ l e, .task (.call l e) ∈ s.agenda → e.node? ≠ some n

/-- None of the listeners of a mute node is called. -/
theorem Muted.calls_eq_nil (h : s.Muted n) : s.calls n = [] := by
  rw [Session.calls, List.filterMap_eq_nil_iff]
  intro tk htk
  obtain ⟨w, hw, hk⟩ := List.mem_filterMap.1 htk
  cases w with
  | script | reply => cases hk
  | task tk' =>
    cases hk
    cases tk with
    | call l e => exact if_neg (h.calls l e hw)
    | _ => rfl

/-- A node that is mute stays so. -/
theorem Muted.move (h : s.Muted n) (hm : s.Move t) : t.Muted n := by
  have ht := hm.turn
  refine ⟨ht.succession.made h.made, ht.isDisposed h.made h.disposed, ?rounds, ?calls⟩
  case rounds =>
    refine h.rounds.turn ?_ (fun hd => ?_) ht
    · intro r r' k hl ⟨hk, hn⟩
      refine ⟨Nat.lt_of_lt_of_le hk hl.next, Option.eq_none_iff_forall_ne_some.2 fun l hl' => ?_⟩
      obtain ⟨l', hl', -⟩ := hl.old k l hk hl'
      rw [hn] at hl'
      cases hl'
    · rw [h.disposed] at hd
      cases hd
  case calls =>
    intro l e hc he
    cases ht with
    | @perform tk rest hs inner ht =>
      rw [ht] at hc
      rcases List.mem_append.1 hc with hc | hc
      · obtain ⟨tk', hc, e'⟩ := List.mem_map.1 hc
        cases e'
        obtain ⟨k, ks, rfl, hl⟩ := (tk.performs s.engine.evaluator s.store).call_new hc
        rw [Store.listener?_of_node he] at hl
        obtain ⟨r, hr, hl⟩ := Option.bind_eq_some_iff.1 hl
        have := (h.rounds e (k :: ks) (by simp [hs]) he).2 r hr k List.mem_cons_self
        rw [this.2] at hl
        cases hl
      · exact h.calls l e (by simp [hs, hc]) he
    | @ask pre ws rest hs hp outer ht hw =>
      rw [ht] at hc
      rcases List.mem_append.1 hc with hc | hc
      · exact absurd (hw _ hc).1 id
      · exact h.calls l e (by rw [hs]; exact List.mem_append_right _ hc) he

theorem Muted.moves (h : s.Muted n) (hm : s.Moves t) : t.Muted n := by
  induction hm with
  | refl => exact h
  | tail _ hm ih => exact ih.move hm

/-- A node that a command disposes of is mute from then on, wherever the command is given. -/
theorem Reachable.muted (h : Reachable g s) (hg : s.Gives c t) (hd : s.store.isDisposed n = false)
    (hd' : t.store.isDisposed n) : t.Muted n := by
  have made := Store.made_of_not_disposed hd
  have none : ∀ w ∈ s.agenda, w.isCall = false := by
    intro w hw
    cases hs : s.agenda with
    | nil => rw [hs] at hw; cases hw
    | cons w' ws =>
      rw [hs] at hw
      rcases List.mem_cons.1 hw with rfl | hw
      · exact (hg.head w (by simp [hs])).2
      · exact h.call_first w (by simpa [hs] using hw)
  have all := hg.turn.succession
  obtain ⟨ws, rest, ht, hw, old, hu⟩ := hg.asks
  refine ⟨all.made made, hd', ?rounds, ?calls⟩
  case rounds =>
    intro e ks hm he
    refine ⟨all.made made, fun r' hr' k hk => ?_⟩
    obtain ⟨r, hr, hl⟩ := all.listeners? made hr'
    rw [ht] at hm
    rcases List.mem_append.1 hm with hm | hm
    · have ask : (Task.round e ks : Task Script).IsAsk := hw _ hm
      cases e with
      | property => cases he
      | value | result => cases ask
    · have hk := (h.numbered n e ks (old _ hm) he).2 r hr k hk
      exact ⟨Nat.lt_of_lt_of_le hk hl.next, Store.Changes.vacates hu hd hd' r r' hr hr' k hk⟩
  case calls =>
    intro l e hm he
    rw [ht] at hm
    rcases List.mem_append.1 hm with hm | hm
    · exact absurd (hw _ hm) id
    · cases none _ (old _ hm)

end Session

end LiveForm
