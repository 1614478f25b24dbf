/-
  What a change leaves alone.

  Most changes of a store concern one proxy or one validator, with what it is subscribed to, and
  handlers. `Frame n r s t` says that all but the node `n` and the runs of the node `r` is in `t` what
  it was in `s`; where there is no node, nothing but handlers may have come and gone. The listeners
  of a proxy may go when it is disposed of.
-/
import LiveForm.Proofs.Later

namespace LiveForm

variable {H : Type}

/-- A proxy without its listeners, its runs and what is only shown. -/
def ProxyState.core (x : ProxyState H) : ProxyState H :=
  { ProxyState.fresh x.source x.binding x.cached 0 with
    subscriptions := x.subscriptions
    disposed := x.disposed }

/-- A validator without its listeners, its runs and what is only shown. -/
def ValidatorState.core (x : ValidatorState H) : ValidatorState H :=
  { ValidatorState.fresh x.field x.rules x.result 0 with
    subscriptions := x.subscriptions
    disposed := x.disposed }

theorem ProxyState.core_eq_iff {x y : ProxyState H} : y.core = x.core ↔
    y.source = x.source ∧ y.binding = x.binding ∧ y.cached = x.cached ∧
      y.subscriptions = x.subscriptions ∧ y.disposed = x.disposed := by
  simp [core, fresh]

theorem ValidatorState.core_eq_iff {x y : ValidatorState H} : y.core = x.core ↔
    y.field = x.field ∧ y.rules = x.rules ∧ y.result = x.result ∧
      y.subscriptions = x.subscriptions ∧ y.disposed = x.disposed := by
  simp [core, fresh]

/-- What is there on one side of an equation of cores is there on the other one. -/
theorem exists_of_map_eq {α β : Type} {f : α → β} {a b : Option α} (h : a.map f = b.map f) {y : α}
    (hy : a = some y) : ∃ x, b = some x ∧ f y = f x := by
  rw [hy] at h
  obtain ⟨x, hx, e⟩ := Option.map_eq_some_iff.1 h.symm
  exact ⟨x, hx, e.symm⟩

namespace Store

variable {s t u : Store H} {n r : Option Node}

/-- All is as it was but for a node with its subscriptions, and for the runs of a node. -/
structure Frame (n r : Option Node) (s t : Store H) : Prop where
  contents : t.contents = s.contents
  forms : t.forms = s.forms
  proxy : ∀ q, n ≠ some (.proxy q) →
    (t.proxy? q).map ProxyState.core = (s.proxy? q).map ProxyState.core
  validator : ∀ w, n ≠ some (.validator w) →
    (t.validator? w).map ValidatorState.core = (s.validator? w).map ValidatorState.core
  subscribed : ∀ q, n ≠ some (.proxy q) → ∀ o k name,
    t.Subscribed q o k name ↔ s.Subscribed q o k name
  listens : ∀ w, n ≠ some (.validator w) → ∀ q k, t.Listens w q k → s.Listens w q k
  listening : ∀ w, n ≠ some (.validator w) → ∀ q k y, s.Listens w q k → t.proxy? q = some y →
    y.disposed = false → t.Listens w q k
  run : ∀ m, r ≠ some m → t.run? m = s.run? m
  later : s.Later t

/-- A value can be shown by a proxy: a constant shows no other one. -/
def Suits (s : Store H) (p : ProxyId) (v : Value) : Prop :=
  ∀ x, s.proxy? p = some x → ∀ w, x.source = .constant w → v = w

theorem suits_sourceValue {p : ProxyId} {x : ProxyState H} {v : Value}
    (hx : s.proxy? p = some x) (hv : v = s.sourceValue x.binding x.source) : s.Suits p v := by
  intro y hy w hw
  obtain rfl := Option.some.inj (hx.symm.trans hy)
  rw [hv, hw, sourceValue]

namespace Frame

theorem refl (s : Store H) : Frame n r s s where
  contents := rfl
  forms := rfl
  proxy _ _ := rfl
  validator _ _ := rfl
  subscribed _ _ _ _ _ := Iff.rfl
  listens _ _ _ _ := id
  listening _ _ _ _ _ h _ _ := h
  run _ _ := rfl
  later := .refl s

theorem trans (h₁ : Frame n r s t) (h₂ : Frame n r t u) : Frame n r s u where
  contents := h₂.contents.trans h₁.contents
  forms := h₂.forms.trans h₁.forms
  proxy q hq := (h₂.proxy q hq).trans (h₁.proxy q hq)
  validator w hw := (h₂.validator w hw).trans (h₁.validator w hw)
  subscribed q hq o k name := (h₂.subscribed q hq o k name).trans (h₁.subscribed q hq o k name)
  listens w hw q k h := h₁.listens w hw q k (h₂.listens w hw q k h)
  listening w hw q k z h hz hd := by
    have hq : q.index < t.proxies.next := Nat.lt_of_lt_of_le h.lt_next h₁.later.proxies.next
    obtain ⟨y, hy, -⟩ := h₂.later.proxies.old _ z hq hz
    have hyd := h₂.later.not_disposed hy hz hd
    exact h₂.listening w hw q k z (h₁.listening w hw q k y h hy hyd) hz hd
  run m hm := (h₂.run m hm).trans (h₁.run m hm)
  later := h₁.later.trans h₂.later

/-- All but the node is alive as before. -/
theorem alive_iff (h : Frame n r s t) {e : Entity} (hn : ∀ m, n = some m → e ≠ m.entity) :
    t.Alive e ↔ s.Alive e := by
  have some_iff {α β : Type} {f : α → β} {a b : Option α} (h : a.map f = b.map f) :
      a.isSome ↔ b.isSome := by
    rw [← Option.isSome_map (f := f), h, Option.isSome_map]
  cases e with
  | object o => exact lives_congr h.contents
  | proxy q => exact some_iff (h.proxy q fun e => hn _ e rfl)
  | validator w => exact some_iff (h.validator w fun e => hn _ e rfl)
  | form f => simp only [Alive, form?, h.forms]

theorem alive_iff_of_none (h : Frame none r s t) {e : Entity} : t.Alive e ↔ s.Alive e :=
  h.alive_iff nofun

theorem run_eq (h : Frame n none s t) (m : Node) : t.run? m = s.run? m := h.run m nofun

/-- A node that stays is alive together with all the rest. -/
theorem alive_of (h : Frame n r s t) (hn : ∀ m, n = some m → t.Alive m.entity) {e : Entity}
    (he : s.Alive e) : t.Alive e := by
  by_cases hm : ∃ m, n = some m ∧ e = m.entity
  · obtain ⟨m, hm, rfl⟩ := hm
    exact hn m hm
  · exact (h.alive_iff fun m hn e => hm ⟨m, hn, e⟩).2 he

theorem alive_of_some {m : Node} (h : Frame (some m) r s t) (hm : t.Alive m.entity) {e : Entity}
    (he : s.Alive e) : t.Alive e := by
  refine h.alive_of ?_ he
  intro m' e
  cases e
  exact hm

/-- What is held after a change was held before or is held by the node. -/
theorem refers (h : Frame n r s t) {e : Entity} (he : t.Refers e) :
    s.Refers e ∨ (∃ p x, n = some (.proxy p) ∧ t.proxy? p = some x ∧ e ∈ x.entities) ∨
      ∃ v x, n = some (.validator v) ∧ t.validator? v = some x ∧ e ∈ x.entities := by
  rcases he with ⟨o, y, hy, he⟩ | ⟨q, y, hy, he⟩ | ⟨w, y, hy, he⟩ | ⟨f, y, hy, he⟩
  · obtain ⟨x, hx, hxy⟩ := exists_of_map_eq (congrFun h.contents o) hy
    refine Or.inl (Or.inl ⟨o, x, hx, ?_⟩)
    rwa [ObjectState.entities, ← hxy]
  · by_cases hq : n = some (.proxy q)
    · exact Or.inr (Or.inl ⟨q, y, hq, hy, he⟩)
    · obtain ⟨x, hx, hxy⟩ := exists_of_map_eq (h.proxy q hq) hy
      obtain ⟨hs, -, hc, -, -⟩ := ProxyState.core_eq_iff.1 hxy
      refine Or.inl (Or.inr (Or.inl ⟨q, x, hx, ?_⟩))
      rwa [ProxyState.entities, ← hs, ← hc]
  · by_cases hw : n = some (.validator w)
    · exact Or.inr (Or.inr ⟨w, y, hw, hy, he⟩)
    · obtain ⟨x, hx, hxy⟩ := exists_of_map_eq (h.validator w hw) hy
      obtain ⟨hf, hr, -⟩ := ValidatorState.core_eq_iff.1 hxy
      refine Or.inl (Or.inr (Or.inr (Or.inl ⟨w, x, hx, ?_⟩)))
      rwa [ValidatorState.entities, ← hf, ← hr]
  · refine Or.inl (Or.inr (Or.inr (Or.inr ⟨f, y, ?_, he⟩)))
    rwa [form?, ← h.forms]

/-! ## Changes of one of the rosters -/

theorem of_objects (hp : t.proxies = s.proxies) (hv : t.validators = s.validators)
    (hf : t.forms = s.forms) (hc : t.contents = s.contents)
    (hs : ∀ q, n ≠ some (.proxy q) → ∀ o k name,
      t.Subscribed q o k name ↔ s.Subscribed q o k name)
    (hl : s.objects.Later ObjectState.Later t.objects) : Frame n r s t where
  contents := hc
  forms := hf
  proxy q _ := by rw [proxy?, proxy?, hp]
  validator w _ := by rw [validator?, validator?, hv]
  subscribed := hs
  listens w _ q k h := by simpa only [Listens, proxy?, hp] using h
  listening w _ q k _ h _ _ := by simpa only [Listens, proxy?, hp] using h
  run m _ := by cases m <;> simp only [run?, proxy?, validator?, hp, hv]
  later := .of_objects hl hp hv hf

theorem of_proxies (ho : t.objects = s.objects) (hv : t.validators = s.validators)
    (hf : t.forms = s.forms)
    (hp : ∀ q, n ≠ some (.proxy q) →
      (t.proxy? q).map ProxyState.core = (s.proxy? q).map ProxyState.core)
    (listens : ∀ w, n ≠ some (.validator w) → ∀ q k, t.Listens w q k → s.Listens w q k)
    (listening : ∀ w, n ≠ some (.validator w) → ∀ q k y, s.Listens w q k → t.proxy? q = some y →
      y.disposed = false → t.Listens w q k)
    (run : ∀ q, r ≠ some (.proxy q) → t.run? (.proxy q) = s.run? (.proxy q))
    (hl : s.proxies.Later ProxyState.Later t.proxies) : Frame n r s t where
  contents := by funext o; simp only [Store.contents, object?, ho]
  forms := hf
  proxy := hp
  validator w _ := by rw [validator?, validator?, hv]
  subscribed q _ o k name := by simp only [Subscribed, object?, ho]
  listens := listens
  listening := listening
  run
    | .proxy q, hq => run q hq
    | .validator w, _ => by simp only [run?, validator?, hv]
  later := .of_proxies hl ho hv hf

theorem of_validators (ho : t.objects = s.objects) (hp : t.proxies = s.proxies)
    (hf : t.forms = s.forms)
    (hv : ∀ w, n ≠ some (.validator w) →
      (t.validator? w).map ValidatorState.core = (s.validator? w).map ValidatorState.core)
    (run : ∀ w, r ≠ some (.validator w) → t.run? (.validator w) = s.run? (.validator w))
    (hl : s.validators.Later ValidatorState.Later t.validators) : Frame n r s t where
  contents := by funext o; simp only [Store.contents, object?, ho]
  forms := hf
  proxy q _ := by rw [proxy?, proxy?, hp]
  validator := hv
  subscribed q _ o k name := by simp only [Subscribed, object?, ho]
  listens w _ q k h := by simpa only [Listens, proxy?, hp] using h
  listening w _ q k _ h _ _ := by simpa only [Listens, proxy?, hp] using h
  run
    | .proxy q, _ => by simp only [run?, proxy?, hp]
    | .validator w, hw => run w hw
  later := .of_validators hl ho hp hf

/-! ## Changes of a node -/

theorem modifyProxy {p : ProxyId} {f : ProxyState H → ProxyState H}
    (hc : n ≠ some (.proxy p) → ∀ x, (f x).core = x.core)
    (hr : r ≠ some (.proxy p) → ∀ x, ((f x).guard, (f x).lastRun) = (x.guard, x.lastRun))
    (hd : ∀ x, s.proxy? p = some x → x.disposed → (f x).disposed)
    (hl : ∀ x, s.proxy? p = some x → (f x).listeners = x.listeners ∨
      (f x).disposed ∧ (f x).listeners = x.listeners.clear)
    (hs : ∀ x, (f x).source = x.source)
    (hv : ∀ x, s.proxy? p = some x → x.Steady → (f x).Steady) :
    Frame n r s (s.modifyProxy p f) := by
  refine of_proxies rfl rfl rfl ?proxy ?listens ?listening ?run ?later
  case proxy =>
    intro q hq
    exact map_proxy?_modifyProxy fun e => hc fun e' => hq (by rw [e', e])
  case listens =>
    rintro w - q k ⟨y, hy, hk⟩
    by_cases hq : q = p
    · subst hq
      rw [proxy?_modifyProxy, if_pos rfl, Option.map_eq_some_iff] at hy
      obtain ⟨x, hx, rfl⟩ := hy
      rcases hl x hx with e | ⟨-, e⟩ <;> rw [e] at hk
      · exact ⟨x, hx, hk⟩
      · simp at hk
    · rw [proxy?_modifyProxy_of_ne hq] at hy
      exact ⟨y, hy, hk⟩
  case listening =>
    rintro w - q k y ⟨x, hx, hk⟩ hy hyd
    by_cases hq : q = p
    · subst hq
      rw [proxy?_modifyProxy_self hx] at hy
      obtain rfl := Option.some.inj hy
      rcases hl x hx with e | ⟨e, -⟩
      · exact ⟨f x, proxy?_modifyProxy_self hx f, by rw [e]; exact hk⟩
      · rw [e] at hyd; cases hyd
    · exact ⟨x, by rwa [proxy?_modifyProxy_of_ne hq], hk⟩
  case run =>
    intro q hq
    exact map_proxy?_modifyProxy fun e => hr fun e' => hq (by rw [e', e])
  case later =>
    refine .modify ProxyState.Later.refl fun x hx => ⟨?_, hd x hx, hs x, hv x hx⟩
    rcases hl x hx with e | ⟨-, e⟩ <;> rw [e]
    · exact .refl fun _ => rfl
    · exact .clear

/-- A change of a proxy that touches neither its listeners nor its runs. -/
theorem modifyProxy_self {p : ProxyId} {f : ProxyState H → ProxyState H}
    (hr : ∀ x, ((f x).guard, (f x).lastRun) = (x.guard, x.lastRun))
    (hd : ∀ x, (f x).disposed = x.disposed) (hl : ∀ x, (f x).listeners = x.listeners)
    (hs : ∀ x, (f x).source = x.source)
    (hv : ∀ x, s.proxy? p = some x → x.Steady → (f x).Steady) :
    Frame (some (.proxy p)) r s (s.modifyProxy p f) :=
  modifyProxy (absurd rfl) (fun _ => hr) (fun x _ h => (hd x).trans h) (fun x _ => Or.inl (hl x)) hs hv

theorem modifyValidator {v : ValidatorId} {f : ValidatorState H → ValidatorState H}
    (hc : n ≠ some (.validator v) → ∀ x, (f x).core = x.core)
    (hr : r ≠ some (.validator v) → ∀ x, ((f x).guard, (f x).lastRun) = (x.guard, x.lastRun))
    (hl : ∀ x : ValidatorState H, x.Later (f x)) : Frame n r s (s.modifyValidator v f) :=
  of_validators rfl rfl rfl
    (fun w hw => map_validator?_modifyValidator fun e => hc fun e' => hw (by rw [e', e]))
    (fun w hw => map_validator?_modifyValidator fun e => hr fun e' => hw (by rw [e', e]))
    (.modify ValidatorState.Later.refl fun x _ => hl x)

/-- A change of a validator that does not touch its runs. -/
theorem modifyValidator_self {v : ValidatorId} {f : ValidatorState H → ValidatorState H}
    (hr : ∀ x, ((f x).guard, (f x).lastRun) = (x.guard, x.lastRun))
    (hl : ∀ x : ValidatorState H, x.Later (f x)) :
    Frame (some (.validator v)) r s (s.modifyValidator v f) :=
  modifyValidator (absurd rfl) (fun _ => hr) hl

theorem setGuard (m : Node) (g : Guard) : Frame n (some m) s (s.setGuard m g) := by
  cases m with
  | proxy p =>
    exact modifyProxy (fun _ _ => rfl) (absurd rfl) (fun _ _ => id) (fun _ _ => Or.inl rfl)
      (fun _ => rfl) fun _ _ => id
  | validator v => exact modifyValidator (fun _ _ => rfl) (absurd rfl) fun _ => ⟨rfl, rfl, id⟩

theorem noteOutcome (m : Node) (o : RunOutcome) : Frame n (some m) s (s.noteOutcome m o) := by
  cases m with
  | proxy p =>
    exact modifyProxy (fun _ _ => rfl) (absurd rfl) (fun _ _ => id) (fun _ _ => Or.inl rfl)
      (fun _ => rfl) fun _ _ => id
  | validator v => exact modifyValidator (fun _ _ => rfl) (absurd rfl) fun _ => ⟨rfl, rfl, id⟩

theorem replaceValue {p : ProxyId} {v : Value} (h : s.Suits p v) :
    Frame (some (.proxy p)) r s (s.replaceValue p v) :=
  .modifyProxy_self (fun _ => rfl) (fun _ => rfl) (fun _ => rfl) (fun _ => rfl) fun x hx _ => h x hx

theorem replaceResult (v : ValidatorId) (result : ValidationResult) :
    Frame (some (.validator v)) r s (s.replaceResult v result) :=
  .modifyValidator_self (fun _ => rfl) fun _ => ⟨rfl, rfl, id⟩

/-! ## New nodes and nodes that go -/

/-- A new proxy without listeners. -/
theorem addProxy {x : ProxyState H} (hx : ∀ k, x.listeners.get? k = none) :
    Frame (some (.proxy ⟨s.proxies.next⟩)) (some (.proxy ⟨s.proxies.next⟩)) s
      { s with proxies := s.proxies.add x } := by
  refine of_proxies rfl rfl rfl ?proxy ?listens ?listening ?run ?later
  case proxy =>
    intro q hq
    have hq : q.index ≠ s.proxies.next := fun e => hq (by rw [← e])
    simp only [proxy?, Roster.get?_add, if_neg hq]
  case listens =>
    rintro w - q k ⟨y, hy, hk⟩
    simp only [proxy?, Roster.get?_add] at hy
    split at hy
    · cases hy
      rw [hx] at hk
      cases hk
    · exact ⟨y, hy, hk⟩
  case listening =>
    rintro w - q k - ⟨y, hy, hk⟩ - -
    have hq : q.index ≠ s.proxies.next := Nat.ne_of_lt (Roster.lt_next_of_get? hy)
    refine ⟨y, ?_, hk⟩
    simpa only [proxy?, Roster.get?_add, if_neg hq] using hy
  case run =>
    intro q hq
    have hq : q.index ≠ s.proxies.next := fun e => hq (by rw [← e])
    simp only [run?, proxy?, Roster.get?_add, if_neg hq]
  case later => exact .add ProxyState.Later.refl x

theorem removeProxy (p : ProxyId) : Frame (some (.proxy p)) (some (.proxy p)) s
    { s with proxies := s.proxies.remove p.index } := by
  have get : ∀ q, ({ s with proxies := s.proxies.remove p.index } : Store H).proxy? q =
      if q = p then none else s.proxy? q := by
    intro q
    simp only [proxy?, Roster.get?_remove, ProxyId.index_inj]
  refine of_proxies rfl rfl rfl ?proxy ?listens ?listening ?run ?later
  case proxy =>
    intro q hq
    rw [get, if_neg fun e => hq (by rw [e])]
  case listens =>
    rintro w - q k ⟨y, hy, hk⟩
    rw [get] at hy
    split at hy
    · cases hy
    · exact ⟨y, hy, hk⟩
  case listening =>
    rintro w - q k y ⟨x, hx, hk⟩ hy -
    refine ⟨x, ?_, hk⟩
    rw [get] at hy ⊢
    split at hy
    · cases hy
    · next hq => rwa [if_neg hq]
  case run =>
    intro q hq
    rw [run?, run?, get, if_neg fun e => hq (by rw [e])]
  case later => exact .remove ProxyState.Later.refl _

theorem addValidator (x : ValidatorState H) :
    Frame (some (.validator ⟨s.validators.next⟩)) (some (.validator ⟨s.validators.next⟩)) s
      { s with validators := s.validators.add x } := by
  refine of_validators rfl rfl rfl (fun w hw => ?_) (fun w hw => ?_)
    (.add ValidatorState.Later.refl x) <;>
    have hw : w.index ≠ s.validators.next := fun e => hw (by rw [← e])
  · simp only [validator?, Roster.get?_add, if_neg hw]
  · simp only [run?, validator?, Roster.get?_add, if_neg hw]

theorem removeValidator (v : ValidatorId) :
    Frame (some (.validator v)) (some (.validator v)) s
      { s with validators := s.validators.remove v.index } := by
  refine of_validators rfl rfl rfl (fun w hw => ?_) (fun w hw => ?_)
    (.remove ValidatorState.Later.refl _) <;>
    have hw : w ≠ v := fun e => hw (by rw [e])
  · simp only [validator?, Roster.get?_remove, ValidatorId.index_inj, if_neg hw]
  · simp only [run?, validator?, Roster.get?_remove, ValidatorId.index_inj, if_neg hw]

/-! ## Listeners that come and go -/

theorem subscribe {o : ObjectId} {name : String} {l : Listener H}
    (hl : ∀ q, n ≠ some (.proxy q) → l ≠ .proxy q) : Frame n r s (s.subscribe o name l).1 :=
  of_objects rfl rfl rfl (contents_modifyObject fun _ => rfl)
    (fun q hq o' k m => subscribed_subscribe.trans (by simp [hl q hq]))
    (Later.subscribe o name l).objects

theorem unsubscribe {L : Listener H → Prop} {o : ObjectId} {k : Nat} (h : s.Seat L o k)
    (hL : ∀ q, n ≠ some (.proxy q) → ¬ L (.proxy q)) : Frame n r s (s.unsubscribe o k) := by
  refine of_objects rfl rfl rfl (contents_modifyObject fun _ => rfl) (fun q hq o' k' m => ?_)
    (Later.unsubscribe o k).objects
  rw [subscribed_unsubscribe, and_iff_left_iff_imp]
  rintro hs ⟨rfl, rfl⟩
  exact h.not_subscribed (hL q hq) hs

theorem listen {p : ProxyId} {l : Listener H}
    (hl : ∀ w, n ≠ some (.validator w) → l ≠ .validator w) : Frame n r s (s.listen p l).1 :=
  of_proxies rfl rfl rfl (fun q _ => map_proxy?_modifyProxy fun _ _ => rfl)
    (fun w hw q k h => by simpa [listens_listen, hl w hw] using h)
    (fun w hw q k y h _ _ => listens_listen.2 (Or.inl h))
    (fun q _ => map_proxy?_modifyProxy fun _ _ => rfl) (Later.listen p l).proxies

theorem unlisten {L : Listener H → Prop} {p : ProxyId} {k : Nat} (h : s.Ear L p k)
    (hL : ∀ w, n ≠ some (.validator w) → ¬ L (.validator w)) : Frame n r s (s.unlisten p k) := by
  refine of_proxies rfl rfl rfl (fun q _ => map_proxy?_modifyProxy fun _ _ => rfl)
    (fun w _ q k h => (listens_unlisten.1 h).1)
    (fun w hw q k' y hs _ _ => listens_unlisten.2 ⟨hs, ?_⟩)
    (fun q _ => map_proxy?_modifyProxy fun _ _ => rfl) (Later.unlisten p k).proxies
  rintro ⟨rfl, rfl⟩
  exact h.not_listens (hL w hw) hs

theorem watch {v : ValidatorId} {l : Listener H} : Frame n r s (s.watch v l).1 :=
  modifyValidator (fun _ _ => rfl) (fun _ _ => rfl) fun _ => ⟨rfl, rfl, id⟩

theorem unwatch {v : ValidatorId} {k : Nat} : Frame n r s (s.unwatch v k) :=
  modifyValidator (fun _ _ => rfl) (fun _ _ => rfl) fun _ => ⟨rfl, rfl, id⟩

end Frame

end Store

end LiveForm
