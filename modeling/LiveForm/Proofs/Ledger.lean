/-
  What proxies note of their subscriptions.

  A proxy notes an object and a number for every subscription. By these notes subscriptions are
  ended, so they must be complete and must not speak of the listeners of others.

  * `Store.Ledger`: the notes of a proxy are in order; `Store.Attached`: it is subscribed exactly to
    what it is to be subscribed to, in this order;
  * `attach_spec`, `detach_spec`, `bindProxy_spec`, `follow_spec` and `disposeProxy_spec`: what the
    operations on the subscriptions of a proxy do.
-/
import LiveForm.Proofs.Frame
import Mathlib.Data.List.Forall2

namespace LiveForm

/-- Of two lists that belong together, each element of the first one has one in the second. -/
theorem exists_right_of_forall₂ {α β : Type} {R : α → β → Prop} {as : List α} {bs : List β}
    (h : List.Forall₂ R as bs) {a : α} (ha : a ∈ as) : ∃ b ∈ bs, R a b := by
  induction h with
  | nil => cases ha
  | cons hab _ ih =>
    rcases List.mem_cons.1 ha with rfl | ha
    · exact ⟨_, List.mem_cons_self .., hab⟩
    · obtain ⟨b, hb, hab⟩ := ih ha
      exact ⟨b, List.mem_cons_of_mem _ hb, hab⟩

namespace Store

variable {H : Type} {s t : Store H} {r : Option Node} {p : ProxyId} {x : ProxyState H}

/-! ## Subscriptions of a proxy -/

/-- The notes of a proxy tell of its subscriptions and of nothing else. -/
structure Noted (s : Store H) (p : ProxyId) : Prop where
  /-- Every subscription is noted. -/
  recorded : ∀ o n name, s.Subscribed p o n name →
    ∃ x, s.proxy? p = some x ∧ (o, n) ∈ x.subscriptions
  /-- The numbers that are noted have been given to nobody else. -/
  genuine : ∀ x, s.proxy? p = some x → ∀ w ∈ x.subscriptions, s.Seat (· = .proxy p) w.1 w.2

/-- The notes of a proxy are in order, and there are none where there is nothing to follow. -/
structure Ledger (s : Store H) (p : ProxyId) : Prop extends s.Noted p where
  released : ∀ x, s.proxy? p = some x → x.disposed ∨ x.source.isConstant → x.subscriptions = []

/-- A proxy is subscribed to what it is to be subscribed to, in this order. -/
def Attached (s : Store H) (p : ProxyId) (x : ProxyState H) : Prop :=
  List.Forall₂ (fun w z => w.1 = z.1 ∧ s.Subscribed p w.1 w.2 z.2) x.subscriptions (s.watchesOf x)

/-- The properties of objects lead to objects that are alive. -/
def Sealed (s : Store H) : Prop :=
  ∀ o ps, s.contents o = some ps → ∀ z ∈ ps, ∀ r ∈ z.2.objects, s.Lives r

theorem Subscribed.functional {q : ProxyId} {o : ObjectId} {n : Nat} {name m : String}
    (h₁ : s.Subscribed p o n name) (h₂ : s.Subscribed q o n m) : p = q ∧ name = m := by
  obtain ⟨x, hx, hn⟩ := h₁
  obtain ⟨y, hy, hm⟩ := h₂
  obtain rfl : x = y := Option.some.inj (hx ▸ hy)
  have e := Option.some.inj (hn ▸ hm)
  simp only [Subscriber.mk.injEq, Listener.proxy.injEq] at e
  exact ⟨e.2, e.1⟩

/-- An attached proxy is subscribed to every property that it is to be subscribed to. -/
theorem Attached.exists_subscribed (h : s.Attached p x) {z : ObjectId × String}
    (hz : z ∈ s.watchesOf x) : ∃ n, (z.1, n) ∈ x.subscriptions ∧ s.Subscribed p z.1 n z.2 := by
  obtain ⟨w, hw, e, hs⟩ := exists_right_of_forall₂ h.flip hz
  rw [← e]
  exact ⟨w.2, hw, hs⟩

/-- The notes of an attached proxy are about properties that it is to be subscribed to. -/
theorem Attached.exists_watched (h : s.Attached p x) {w : ObjectId × Nat}
    (hw : w ∈ x.subscriptions) :
    ∃ name, (w.1, name) ∈ s.watchesOf x ∧ s.Subscribed p w.1 w.2 name := by
  obtain ⟨z, hz, e, hs⟩ := exists_right_of_forall₂ h hw
  rw [e] at hs ⊢
  exact ⟨z.2, hz, hs⟩

theorem Ledger.congr (h : s.Ledger p)
    (hp : (t.proxy? p).map ProxyState.core = (s.proxy? p).map ProxyState.core)
    (hs : ∀ o n name, t.Subscribed p o n name → s.Subscribed p o n name) (hl : s.Later t) :
    t.Ledger p := by
  refine ⟨⟨?recorded, ?genuine⟩, ?released⟩
  case recorded =>
    intro o n name ht
    obtain ⟨x, hx, hn⟩ := h.recorded o n name (hs o n name ht)
    obtain ⟨y, hy, e⟩ := exists_of_map_eq hp.symm hx
    obtain ⟨-, -, -, hws, -⟩ := ProxyState.core_eq_iff.1 e
    exact ⟨y, hy, hws ▸ hn⟩
  case genuine =>
    intro y hy w hw
    obtain ⟨x, hx, e⟩ := exists_of_map_eq hp hy
    obtain ⟨-, -, -, hws, -⟩ := ProxyState.core_eq_iff.1 e
    exact (h.genuine x hx w (hws ▸ hw)).later hl
  case released =>
    intro y hy hd
    obtain ⟨x, hx, e⟩ := exists_of_map_eq hp hy
    obtain ⟨hsrc, -, -, hws, hdis⟩ := ProxyState.core_eq_iff.1 e
    rw [hsrc, hdis] at hd
    rw [hws]
    exact h.released x hx hd

/-- The notes of a proxy stay in order as long as it is left alone. -/
theorem Ledger.frame {n : Option Node} (h : s.Ledger p) (hf : Frame n r s t)
    (hn : n ≠ some (.proxy p)) : t.Ledger p :=
  h.congr (hf.proxy p hn) (fun o k m => (hf.subscribed p hn o k m).1) hf.later

/-- A change of a proxy that does not touch its notes leaves them in order. -/
theorem Ledger.modifyProxy {f : ProxyState H → ProxyState H} (h : s.Ledger p)
    (hs : ∀ x, (f x).source = x.source) (hw : ∀ x, (f x).subscriptions = x.subscriptions)
    (hd : ∀ x, (f x).disposed = x.disposed) : (s.modifyProxy p f).Ledger p := by
  have back : ∀ y, (s.modifyProxy p f).proxy? p = some y → ∃ x, s.proxy? p = some x ∧ f x = y := by
    intro y hy
    rwa [proxy?_modifyProxy, if_pos rfl, Option.map_eq_some_iff] at hy
  refine ⟨⟨?recorded, ?genuine⟩, ?released⟩
  case recorded =>
    intro o n name hn
    obtain ⟨x, hx, hn⟩ := h.recorded o n name hn
    exact ⟨f x, proxy?_modifyProxy_self hx f, by rwa [hw]⟩
  case genuine =>
    intro y hy w hn
    obtain ⟨x, hx, rfl⟩ := back y hy
    exact h.genuine x hx w (by rwa [hw] at hn)
  case released =>
    intro y hy hr
    obtain ⟨x, hx, rfl⟩ := back y hy
    rw [hw]
    exact h.released x hx (by rwa [hd, hs] at hr)

theorem Sealed.congr (h : s.Sealed) (hc : t.contents = s.contents) : t.Sealed := by
  intro o ps hps z hz r hr
  rw [hc] at hps
  rw [lives_iff_contents, hc, ← lives_iff_contents]
  exact h o ps hps z hz r hr

theorem Sealed.property (h : s.Sealed) {o : ObjectId} {name : String} {v : Value}
    (hv : s.property o name = some v) : ∀ r ∈ v.objects, s.Lives r := by
  obtain ⟨x, hx, hv⟩ := exists_of_property hv
  exact h o x.properties (by simp [contents, hx]) (name, v) hv

/-- What is to be watched is alive. -/
theorem Sealed.lives_of_mem_watchesOf (h : s.Sealed) : ∀ z ∈ s.watchesOf x, s.Lives z.1 := by
  unfold watchesOf
  split
  · exact List.forall_mem_nil _
  · exact Scope.watches_closed (fun o name r _ hr => h.property hr r.id (by simp [Value.objects]))
      fun r o ho => (scope_root_eq_some_iff.1 ho).2

/-! ### Beginning them -/

theorem proxies_subscribeProxy (p : ProxyId) (s : Store H) (ws : List (ObjectId × String)) :
    (subscribeProxy p s ws).1.proxies = s.proxies := by
  induction ws generalizing s with
  | nil => rfl
  | cons z ws ih => exact ih _

theorem frame_subscribeProxy (p : ProxyId) (s : Store H) (ws : List (ObjectId × String)) :
    Frame (some (.proxy p)) r s (subscribeProxy p s ws).1 := by
  induction ws generalizing s with
  | nil => exact .refl s
  | cons z ws ih =>
    refine .trans (.subscribe ?_) (ih _)
    intro q hq e
    cases e
    exact hq rfl

theorem subscribed_subscribeProxy (ws : List (ObjectId × String)) {o : ObjectId} {n : Nat}
    {name : String} (h : s.Subscribed p o n name) :
    (subscribeProxy p s ws).1.Subscribed p o n name := by
  induction ws generalizing s with
  | nil => exact h
  | cons z ws ih => exact ih (subscribed_subscribe.2 (Or.inl h))

/-- New subscriptions are given as they are made. -/
theorem mem_of_subscribed_subscribeProxy {ws : List (ObjectId × String)} {o : ObjectId} {n : Nat}
    {name : String} (h : (subscribeProxy p s ws).1.Subscribed p o n name) :
    s.Subscribed p o n name ∨ (o, n) ∈ (subscribeProxy p s ws).2 := by
  induction ws generalizing s with
  | nil => exact Or.inl h
  | cons z ws ih =>
    rcases ih h with h | h
    · rcases subscribed_subscribe.1 h with h | ⟨rfl, -, rfl, -, -⟩
      · exact Or.inl h
      · exact Or.inr (List.mem_cons_self ..)
    · exact Or.inr (List.mem_cons_of_mem _ h)

theorem forall₂_subscribeProxy {ws : List (ObjectId × String)} (h : ∀ z ∈ ws, s.Lives z.1) :
    List.Forall₂ (fun w z => w.1 = z.1 ∧ (subscribeProxy p s ws).1.Subscribed p w.1 w.2 z.2)
      (subscribeProxy p s ws).2 ws := by
  induction ws generalizing s with
  | nil => exact .nil
  | cons z ws ih =>
    have hz : s.Lives z.1 := h z (by simp)
    have hs : (s.subscribe z.1 z.2 (.proxy p)).1.Subscribed p z.1
        (s.subscribe z.1 z.2 (.proxy p)).2 z.2 :=
      subscribed_subscribe.2 (Or.inr ⟨rfl, hz, rfl, rfl, rfl⟩)
    have hc : (s.subscribe z.1 z.2 (.proxy p)).1.contents = s.contents :=
      contents_modifyObject fun _ => rfl
    refine .cons ⟨rfl, subscribed_subscribeProxy ws hs⟩ (ih ?_)
    intro z' hz'
    exact (lives_congr hc).2 (h z' (List.mem_cons_of_mem _ hz'))

theorem frame_attach (p : ProxyId) : Frame (some (.proxy p)) r s (s.attach p) := by
  unfold attach
  split
  · exact .refl s
  · exact .trans (frame_subscribeProxy ..)
      (.modifyProxy_self (fun _ => rfl) (fun _ => rfl) (fun _ => rfl) (fun _ => rfl) fun _ _ => id)

theorem attach_eq (hx : s.proxy? p = some x) : s.attach p =
    (subscribeProxy p s (s.watchesOf x)).1.modifyProxy p fun y =>
      { y with subscriptions := (subscribeProxy p s (s.watchesOf x)).2 } := by
  simp only [attach, hx]

theorem proxy?_attach (hx : s.proxy? p = some x) : (s.attach p).proxy? p =
    some { x with subscriptions := (subscribeProxy p s (s.watchesOf x)).2 } := by
  rw [attach_eq hx]
  refine proxy?_modifyProxy_self ?_ _
  rwa [proxy?, proxies_subscribeProxy]

theorem contents_attach (p : ProxyId) : (s.attach p).contents = s.contents :=
  (frame_attach (r := none) p).contents

theorem attached_attach (hx : s.proxy? p = some x) (hs : s.Sealed) :
    (s.attach p).Attached p
      { x with subscriptions := (subscribeProxy p s (s.watchesOf x)).2 } := by
  rw [Attached, watchesOf_congr (contents_attach p), attach_eq hx]
  exact forall₂_subscribeProxy (p := p) (hs.lives_of_mem_watchesOf (x := x))

/-- A proxy without subscriptions gets all that it is to have. -/
theorem attach_spec (hx : s.proxy? p = some x) (hd : x.disposed = false) (hs : s.Sealed)
    (hn : ∀ o n name, ¬ s.Subscribed p o n name) :
    ∃ ws, (s.attach p).proxy? p = some { x with subscriptions := ws } ∧
      (s.attach p).Attached p { x with subscriptions := ws } ∧ (s.attach p).Ledger p := by
  have hy := proxy?_attach hx
  have ha := attached_attach hx hs
  refine ⟨_, hy, ha, ⟨?recorded, ?genuine⟩, ?released⟩
  case recorded =>
    intro o n name h
    rw [attach_eq hx] at h
    exact ⟨_, hy, (mem_of_subscribed_subscribeProxy h).resolve_left (hn o n name)⟩
  case genuine =>
    intro y hy' w hw
    obtain rfl := Option.some.inj (hy.symm.trans hy')
    obtain ⟨name, -, h⟩ := ha.exists_watched hw
    exact h.seat
  case released =>
    intro y hy' hr
    obtain rfl := Option.some.inj (hy.symm.trans hy')
    have hcst : x.source.isConstant := by simpa [hd] using hr
    have hw : s.watchesOf x = [] := by
      unfold watchesOf
      split
      · rfl
      · next h => rw [h] at hcst; cases hcst
    simp only [hw, subscribeProxy]

/-! ### Ending them -/

theorem proxies_unsubscribeAll (ws : List (ObjectId × Nat)) :
    (s.unsubscribeAll ws).proxies = s.proxies := by
  unfold unsubscribeAll
  induction ws generalizing s with
  | nil => rfl
  | cons w ws ih => exact ih

theorem subscribed_unsubscribeAll {ws : List (ObjectId × Nat)} {q : ProxyId} {o : ObjectId}
    {n : Nat} {name : String} :
    (s.unsubscribeAll ws).Subscribed q o n name ↔ s.Subscribed q o n name ∧ (o, n) ∉ ws := by
  unfold unsubscribeAll
  induction ws generalizing s with
  | nil => simp
  | cons w ws ih =>
    rw [List.foldl_cons, ih, subscribed_unsubscribe, List.mem_cons, not_or, and_assoc]

theorem frame_unsubscribeAll {ws : List (ObjectId × Nat)}
    (h : ∀ w ∈ ws, s.Seat (· = .proxy p) w.1 w.2) :
    Frame (some (.proxy p)) r s (s.unsubscribeAll ws) := by
  unfold unsubscribeAll
  induction ws generalizing s with
  | nil => exact .refl s
  | cons w ws ih =>
    have hf : Frame (some (.proxy p)) r s (s.unsubscribe w.1 w.2) := by
      refine .unsubscribe (h w (by simp)) ?_
      intro q hq e
      cases e
      exact hq rfl
    refine hf.trans (ih ?_)
    intro w' hw'
    exact (h w' (List.mem_cons_of_mem _ hw')).later hf.later

theorem frame_detach (h : s.Noted p) : Frame (some (.proxy p)) r s (s.detach p) := by
  unfold detach
  split
  · exact .refl s
  · next x hx =>
    exact .trans (frame_unsubscribeAll (h.genuine x hx))
      (.modifyProxy_self (fun _ => rfl) (fun _ => rfl) (fun _ => rfl) (fun _ => rfl) fun _ _ => id)

/-- A proxy loses all its subscriptions, and its notes of them. -/
theorem detach_spec (hx : s.proxy? p = some x) (h : s.Noted p) :
    (s.detach p).proxy? p = some { x with subscriptions := [] } ∧
      ∀ o n name, ¬ (s.detach p).Subscribed p o n name := by
  simp only [detach, hx]
  constructor
  · exact proxy?_modifyProxy_self (by rwa [proxy?, proxies_unsubscribeAll]) _
  · intro o n name hn
    obtain ⟨hs, hn⟩ := subscribed_unsubscribeAll.1 hn
    obtain ⟨y, hy, hw⟩ := h.recorded o n name hs
    obtain rfl := Option.some.inj (hx.symm.trans hy)
    exact hn hw

theorem Ledger.of_empty (hx : s.proxy? p = some x) (hw : x.subscriptions = [])
    (hn : ∀ o n name, ¬ s.Subscribed p o n name) : s.Ledger p := by
  refine ⟨⟨?recorded, ?genuine⟩, ?released⟩
  case recorded =>
    intro o n name h
    exact absurd h (hn o n name)
  case genuine =>
    intro y hy w hw'
    obtain rfl := Option.some.inj (hx.symm.trans hy)
    rw [hw] at hw'
    cases hw'
  case released =>
    intro y hy _
    obtain rfl := Option.some.inj (hx.symm.trans hy)
    exact hw

theorem Ledger.of_none (hn : s.proxy? p = none) (h : ∀ o n name, ¬ s.Subscribed p o n name) :
    s.Ledger p :=
  ⟨⟨fun o n name hs => absurd hs (h o n name), fun y hy => by simp [hn] at hy⟩,
    fun y hy => by simp [hn] at hy⟩

/-- Where there is no proxy yet, nobody is subscribed in its name. -/
theorem Ledger.not_subscribed (h : s.Ledger p) (hn : s.proxy? p = none) (o : ObjectId) (n : Nat)
    (name : String) : ¬ s.Subscribed p o n name := by
  intro hs
  obtain ⟨x, hx, -⟩ := h.recorded o n name hs
  rw [hn] at hx
  cases hx

/-! ### Operations on proxies -/

theorem frame_bindProxy (h : s.Noted p) (b : Binding) :
    Frame (some (.proxy p)) r s (s.bindProxy p b) := by
  have hb : Frame (some (.proxy p)) r (s.detach p)
      ((s.detach p).modifyProxy p fun x => { x with binding := b }) :=
    .modifyProxy_self (fun _ => rfl) (fun _ => rfl) (fun _ => rfl) (fun _ => rfl) fun _ _ => id
  exact ((frame_detach h).trans hb).trans (frame_attach p)

/-- A proxy that is bound to other objects is subscribed to what it depends on there. -/
theorem bindProxy_spec (hx : s.proxy? p = some x) (hd : x.disposed = false) (hs : s.Sealed)
    (h : s.Noted p) (b : Binding) :
    ∃ ws, (s.bindProxy p b).proxy? p = some { x with binding := b, subscriptions := ws } ∧
      (s.bindProxy p b).Attached p { x with binding := b, subscriptions := ws } ∧
      (s.bindProxy p b).Ledger p := by
  obtain ⟨hy, hn⟩ := detach_spec hx h
  have hc : (s.detach p).contents = s.contents := (frame_detach (r := none) h).contents
  exact attach_spec (x := { x with binding := b, subscriptions := [] })
    (proxy?_modifyProxy_self hy _) hd (hs.congr hc) hn

theorem follow_of_nested (hx : s.proxy? p = some x) (hn : x.source.isNested) :
    s.follow p = (s.detach p).attach p := by
  unfold ProxySource.isNested at hn
  split at hn
  · cases hn
  · next t ht => simp only [follow, hx, ht, hn, ↓reduceIte]

theorem follow_of_not_nested (hx : s.proxy? p = some x) (hn : x.source.isNested = false) :
    s.follow p = s := by
  simp only [follow, hx]
  unfold ProxySource.isNested at hn
  split at hn
  · next hc => simp only [hc]
  · next t ht => simp [ht, hn]

/-- A proxy whose paths may lead to other objects now is subscribed anew; another one keeps its
    subscriptions. -/
theorem follow_spec (hx : s.proxy? p = some x) (hd : x.disposed = false) (hs : s.Sealed)
    (h : s.Ledger p) :
    Frame (some (.proxy p)) r s (s.follow p) ∧
      ∃ ws, (s.follow p).proxy? p = some { x with subscriptions := ws } ∧
        (x.source.isNested ∨ s.Attached p x →
          (s.follow p).Attached p { x with subscriptions := ws }) ∧
        (s.follow p).Ledger p := by
  cases hn : x.source.isNested with
  | false =>
    rw [follow_of_not_nested hx hn]
    exact ⟨.refl s, x.subscriptions, hx, fun ha => ha.resolve_left (by simp), h⟩
  | true =>
    have hf := frame_detach (r := r) h.toNoted
    obtain ⟨hy, hno⟩ := detach_spec hx h.toNoted
    obtain ⟨ws, hy, ha, hl⟩ := attach_spec hy hd (hs.congr hf.contents) hno
    rw [follow_of_nested hx hn]
    exact ⟨hf.trans (frame_attach p), ws, hy, fun _ => ha, hl⟩

theorem disposeProxy_of_none (h : s.proxy? p = none) : s.disposeProxy p = s := by
  simp only [disposeProxy, h]

theorem disposeProxy_of_disposed (hx : s.proxy? p = some x) (hd : x.disposed) :
    s.disposeProxy p = s := by
  simp only [disposeProxy, hx, hd, ↓reduceIte]

theorem disposeProxy_of_not_disposed (hx : s.proxy? p = some x) (hd : x.disposed = false) :
    s.disposeProxy p =
      ((s.modifyProxy p fun x => { x with disposed := true }).detach p).modifyProxy p
        fun x => { x with listeners := x.listeners.clear } := by
  simp [disposeProxy, hx, hd]

/-- A proxy that is disposed of keeps what it shows, but has no subscriptions any more. -/
theorem disposeProxy_spec (hx : s.proxy? p = some x) (h : s.Ledger p) :
    Frame (some (.proxy p)) r s (s.disposeProxy p) ∧
      ∃ y, (s.disposeProxy p).proxy? p = some y ∧
        y.core = { x with disposed := true, subscriptions := [] }.core ∧
        (s.disposeProxy p).Ledger p := by
  cases hd : x.disposed with
  | true =>
    rw [disposeProxy_of_disposed hx hd]
    refine ⟨.refl s, x, hx, ?_, h⟩
    rw [← hd, ← h.released x hx (Or.inl hd)]
  | false =>
    -- the store in between has notes, but they are those of a proxy that is disposed of
    have hx₁ : (s.modifyProxy p fun x => { x with disposed := true }).proxy? p =
        some { x with disposed := true } := proxy?_modifyProxy_self hx _
    have hf₁ : Frame (some (.proxy p)) r s (s.modifyProxy p fun x => { x with disposed := true }) :=
      .modifyProxy (absurd rfl) (fun _ _ => rfl) (fun _ _ _ => rfl) (fun _ _ => Or.inl rfl)
        (fun _ => rfl) fun _ _ => id
    have h₁ : (s.modifyProxy p fun x => { x with disposed := true }).Noted p := by
      refine ⟨?recorded, ?genuine⟩
      case recorded =>
        intro o n name hn
        obtain ⟨y, hy, hw⟩ := h.recorded o n name hn
        obtain rfl := Option.some.inj (hx.symm.trans hy)
        exact ⟨_, hx₁, hw⟩
      case genuine =>
        intro y hy w hw
        obtain rfl := Option.some.inj (hx₁.symm.trans hy)
        exact h.genuine x hx w hw
    obtain ⟨hx₂, hn₂⟩ := detach_spec hx₁ h₁
    have hx₃ := proxy?_modifyProxy_self hx₂ fun x => { x with listeners := x.listeners.clear }
    rw [disposeProxy_of_not_disposed hx hd]
    refine ⟨(hf₁.trans (frame_detach h₁)).trans ?_, _, hx₃, rfl, .of_empty hx₃ rfl hn₂⟩
    refine .modifyProxy (absurd rfl) (fun _ _ => rfl) (fun _ _ h => h) ?_ (fun _ => rfl) fun _ _ => id
    intro y hy
    obtain rfl := Option.some.inj (hx₂.symm.trans hy)
    exact Or.inr ⟨rfl, rfl⟩

theorem frame_disposeProxy (h : s.Ledger p) : Frame (some (.proxy p)) r s (s.disposeProxy p) := by
  cases hx : s.proxy? p with
  | none =>
    rw [disposeProxy_of_none hx]
    exact .refl s
  | some x => exact (disposeProxy_spec hx h).1

theorem isDisposed_disposeProxy (h : s.Ledger p) : (s.disposeProxy p).isDisposed (.proxy p) := by
  cases hx : s.proxy? p with
  | none => simp [disposeProxy_of_none hx, isDisposed, hx]
  | some x =>
    obtain ⟨-, y, hy, e, -⟩ := disposeProxy_spec (r := none) hx h
    simp [isDisposed, hy, (ProxyState.core_eq_iff.1 e).2.2.2.2]

theorem frame_newProxy (source : ProxySource) (b : Binding) (limit : Nat) :
    Frame (some (.proxy ⟨s.proxies.next⟩)) (some (.proxy ⟨s.proxies.next⟩)) s
      (s.newProxy source b limit).1 :=
  (Frame.addProxy (x := .fresh source b (s.sourceValue b source) limit) fun _ => rfl).trans
    (frame_attach _)

theorem proxy?_newProxy (source : ProxySource) (b : Binding) (limit : Nat) :
    ∃ ws, (s.newProxy source b limit).1.proxy? ⟨s.proxies.next⟩ =
      some { ProxyState.fresh source b (s.sourceValue b source) limit with subscriptions := ws } :=
  ⟨_, proxy?_attach (proxy?_add _)⟩

/-- A new proxy shows its value and is subscribed to all that it depends on. -/
theorem newProxy_spec (source : ProxySource) (b : Binding) (limit : Nat)
    (hs : s.Sealed) (h : s.Ledger ⟨s.proxies.next⟩) :
    Frame (some (.proxy ⟨s.proxies.next⟩)) (some (.proxy ⟨s.proxies.next⟩)) s
        (s.newProxy source b limit).1 ∧
      ∃ ws, (s.newProxy source b limit).1.proxy? ⟨s.proxies.next⟩ =
          some { ProxyState.fresh source b (s.sourceValue b source) limit with
            subscriptions := ws } ∧
        (s.newProxy source b limit).1.Attached ⟨s.proxies.next⟩
          { ProxyState.fresh source b (s.sourceValue b source) limit with
            subscriptions := ws } ∧
        (s.newProxy source b limit).1.Ledger ⟨s.proxies.next⟩ := by
  have hn := h.not_subscribed (Roster.get?_next _)
  have hf := Frame.addProxy (s := s)
    (x := .fresh source b (s.sourceValue b source) limit) fun k => rfl
  have hx := proxy?_add (s := s) (.fresh source b (s.sourceValue b source) limit)
  exact ⟨frame_newProxy .., attach_spec hx rfl (hs.congr hf.contents) hn⟩

/-- Nothing is left of a proxy that is taken away. -/
theorem drop_proxy_spec (h : s.Ledger p) :
    Frame (some (.proxy p)) (some (.proxy p)) s (s.drop (.proxy p)) ∧
      (s.drop (.proxy p)).proxy? p = none ∧ (s.drop (.proxy p)).Ledger p := by
  have hn : (s.drop (.proxy p)).proxy? p = none := by
    simp only [drop, proxy?, Roster.get?_remove, ↓reduceIte]
  refine ⟨(frame_detach h.toNoted).trans (.removeProxy p), hn, .of_none hn ?_⟩
  intro o n name hs
  have hs : (s.detach p).Subscribed p o n name := hs
  cases hx : s.proxy? p with
  | none =>
    have hd : s.detach p = s := by simp only [detach, hx]
    exact h.not_subscribed hx o n name (hd ▸ hs)
  | some x => exact (detach_spec hx h.toNoted).2 o n name hs

end Store

end LiveForm
