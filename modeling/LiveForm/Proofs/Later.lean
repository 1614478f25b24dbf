/-
  What stays true of a store for ever.

  A number that has been given out is never given out again, and what is under it is never replaced.
  So a later store knows nothing under an old number but what was there before.

  * `Roster.Later` and `Store.Later`: one roster or store comes from another by any changes;
  * `Store.Seat` and `Store.Ear`: a number at an object or at a proxy has been given to a listener of
    some kind. `Seat.later` and `Ear.later`: that stays so.
-/
import LiveForm.Proofs.View

namespace LiveForm

/-! ## Rosters -/

namespace Roster

variable {α : Type} {R : α → α → Prop} {r r' r'' : Roster α}

/-- What is under an old number comes from what was there before. -/
structure Later (R : α → α → Prop) (r r' : Roster α) : Prop where
  next : r.next ≤ r'.next
  old : ∀ n b, n < r.next → r'.get? n = some b → ∃ a, r.get? n = some a ∧ R a b

theorem Later.refl (h : ∀ a, R a a) : r.Later R r := ⟨Nat.le_refl _, fun _ b _ hb => ⟨b, hb, h b⟩⟩

theorem Later.trans (h : ∀ a b c, R a b → R b c → R a c) (h₁ : r.Later R r') (h₂ : r'.Later R r'') :
    r.Later R r'' := by
  refine ⟨Nat.le_trans h₁.next h₂.next, ?_⟩
  intro n c hn hc
  obtain ⟨b, hb, hbc⟩ := h₂.old n c (Nat.lt_of_lt_of_le hn h₁.next) hc
  obtain ⟨a, ha, hab⟩ := h₁.old n b hn hb
  exact ⟨a, ha, h a b c hab hbc⟩

theorem Later.add (h : ∀ a, R a a) (a : α) : r.Later R (r.add a) := by
  refine ⟨Nat.le_succ _, fun n b hn hb => ⟨b, ?_, h b⟩⟩
  rwa [get?_add, if_neg (Nat.ne_of_lt hn)] at hb

theorem Later.remove (h : ∀ a, R a a) (m : Nat) : r.Later R (r.remove m) := by
  refine ⟨Nat.le_refl _, fun n b _ hb => ⟨b, ?_, h b⟩⟩
  rw [get?_remove] at hb
  split at hb
  · cases hb
  · exact hb

theorem Later.clear : r.Later R r.clear := ⟨Nat.le_refl _, fun n b _ hb => by simp at hb⟩

theorem Later.modify (h : ∀ a, R a a) {m : Nat} {f : α → α}
    (hf : ∀ a, r.get? m = some a → R a (f a)) : r.Later R (r.modify m f) := by
  refine ⟨Nat.le_refl _, ?_⟩
  intro n b _ hb
  rw [get?_modify] at hb
  split at hb
  · next hn =>
    obtain ⟨a, ha, rfl⟩ := Option.map_eq_some_iff.1 hb
    exact ⟨a, ha, hf a (hn ▸ ha)⟩
  · exact ⟨b, hb, h b⟩

end Roster

/-! ## Stores -/

variable {H : Type}

/-- The listeners of an object under old numbers are as they were. -/
def ObjectState.Later (x y : ObjectState H) : Prop := x.subscribers.Later Eq y.subscribers

/-- A proxy of a constant shows it. -/
def ProxyState.Steady (x : ProxyState H) : Prop := ∀ v, x.source = .constant v → x.cached = v

/-- The listeners of a proxy under old numbers are as they were, and it stays disposed of and is
    computed from the same. -/
structure ProxyState.Later (x y : ProxyState H) : Prop where
  listeners : x.listeners.Later Eq y.listeners
  disposed : x.disposed → y.disposed
  source : y.source = x.source
  steady : x.Steady → y.Steady

/-- A validator judges the same by the same rules, and stays disposed of. -/
structure ValidatorState.Later (x y : ValidatorState H) : Prop where
  field : y.field = x.field
  rules : y.rules = x.rules
  disposed : x.disposed → y.disposed

/-- A form has the same fields. -/
def FormState.Later (x y : FormState) : Prop := y.fields = x.fields

theorem ObjectState.Later.refl (x : ObjectState H) : x.Later x := Roster.Later.refl fun _ => rfl

theorem ObjectState.Later.trans (x y z : ObjectState H) (h₁ : x.Later y) (h₂ : y.Later z) :
    x.Later z :=
  Roster.Later.trans (fun _ _ _ => Eq.trans) h₁ h₂

theorem ProxyState.Later.refl (x : ProxyState H) : x.Later x :=
  ⟨Roster.Later.refl fun _ => rfl, id, rfl, id⟩

theorem ProxyState.Later.trans (x y z : ProxyState H) (h₁ : x.Later y) (h₂ : y.Later z) :
    x.Later z where
  listeners := Roster.Later.trans (fun _ _ _ => Eq.trans) h₁.listeners h₂.listeners
  disposed h := h₂.disposed (h₁.disposed h)
  source := h₂.source.trans h₁.source
  steady h := h₂.steady (h₁.steady h)

theorem ValidatorState.Later.refl (x : ValidatorState H) : x.Later x := ⟨rfl, rfl, id⟩

theorem ValidatorState.Later.trans (x y z : ValidatorState H) (h₁ : x.Later y) (h₂ : y.Later z) :
    x.Later z :=
  ⟨h₂.field.trans h₁.field, h₂.rules.trans h₁.rules, fun hd => h₂.disposed (h₁.disposed hd)⟩

theorem FormState.Later.refl (x : FormState) : x.Later x := rfl

theorem FormState.Later.trans (x y z : FormState) (h₁ : x.Later y) (h₂ : y.Later z) : x.Later z :=
  Eq.trans h₂ h₁

namespace Store

variable {s t u : Store H}

/-- A store comes from another one by any changes. -/
structure Later (s t : Store H) : Prop where
  objects : s.objects.Later ObjectState.Later t.objects
  proxies : s.proxies.Later ProxyState.Later t.proxies
  validators : s.validators.Later ValidatorState.Later t.validators
  forms : s.forms.Later FormState.Later t.forms

theorem Later.refl (s : Store H) : s.Later s :=
  ⟨.refl ObjectState.Later.refl, .refl ProxyState.Later.refl, .refl ValidatorState.Later.refl,
    .refl FormState.Later.refl⟩

theorem Later.trans (h₁ : s.Later t) (h₂ : t.Later u) : s.Later u :=
  ⟨h₁.objects.trans ObjectState.Later.trans h₂.objects,
    h₁.proxies.trans ProxyState.Later.trans h₂.proxies,
    h₁.validators.trans ValidatorState.Later.trans h₂.validators,
    h₁.forms.trans FormState.Later.trans h₂.forms⟩

theorem Later.proxy? (h : s.Later t) {p : ProxyId} {x y : ProxyState H} (hx : s.proxy? p = some x)
    (hy : t.proxy? p = some y) : x.Later y := by
  obtain ⟨x', hx', hxy⟩ := h.proxies.old _ y (Roster.lt_next_of_get? hx) hy
  rwa [Option.some.inj (hx.symm.trans hx')]

theorem Later.validator? (h : s.Later t) {v : ValidatorId} {x y : ValidatorState H}
    (hx : s.validator? v = some x) (hy : t.validator? v = some y) : x.Later y := by
  obtain ⟨x', hx', hxy⟩ := h.validators.old _ y (Roster.lt_next_of_get? hx) hy
  rwa [Option.some.inj (hx.symm.trans hx')]

theorem Later.fields_form (h : s.Later t) {f : FormId} {x y : FormState} (hx : s.form? f = some x)
    (hy : t.form? f = some y) : y.fields = x.fields := by
  obtain ⟨x', hx', hxy⟩ := h.forms.old _ y (Roster.lt_next_of_get? hx) hy
  rwa [Option.some.inj (hx.symm.trans hx')]

/-- A field has the same proxies as long as it has its validator. -/
theorem Later.proxiesOf (h : s.Later t) {y : Field} (hs : (s.validator? y.validator).isSome)
    (ht : (t.validator? y.validator).isSome) : t.proxiesOf y = s.proxiesOf y := by
  obtain ⟨v, hv⟩ := Option.isSome_iff_exists.1 hs
  obtain ⟨w, hw⟩ := Option.isSome_iff_exists.1 ht
  simp only [Store.proxiesOf, rulesOf, hv, hw, (h.validator? hv hw).rules]

theorem Later.of_objects (h : s.objects.Later ObjectState.Later t.objects)
    (hp : t.proxies = s.proxies) (hv : t.validators = s.validators) (hf : t.forms = s.forms) :
    s.Later t :=
  ⟨h, hp ▸ .refl ProxyState.Later.refl, hv ▸ .refl ValidatorState.Later.refl,
    hf ▸ .refl FormState.Later.refl⟩

theorem Later.of_proxies (h : s.proxies.Later ProxyState.Later t.proxies)
    (ho : t.objects = s.objects) (hv : t.validators = s.validators) (hf : t.forms = s.forms) :
    s.Later t :=
  ⟨ho ▸ .refl ObjectState.Later.refl, h, hv ▸ .refl ValidatorState.Later.refl,
    hf ▸ .refl FormState.Later.refl⟩

theorem Later.of_validators (h : s.validators.Later ValidatorState.Later t.validators)
    (ho : t.objects = s.objects) (hp : t.proxies = s.proxies) (hf : t.forms = s.forms) :
    s.Later t :=
  ⟨ho ▸ .refl ObjectState.Later.refl, hp ▸ .refl ProxyState.Later.refl, h,
    hf ▸ .refl FormState.Later.refl⟩

theorem Later.of_forms (h : s.forms.Later FormState.Later t.forms) (ho : t.objects = s.objects)
    (hp : t.proxies = s.proxies) (hv : t.validators = s.validators) : s.Later t :=
  ⟨ho ▸ .refl ObjectState.Later.refl, hp ▸ .refl ProxyState.Later.refl,
    hv ▸ .refl ValidatorState.Later.refl, h⟩

theorem Later.modifyObject {o : ObjectId} {f : ObjectState H → ObjectState H}
    (hf : ∀ x : ObjectState H, x.Later (f x)) : s.Later (s.modifyObject o f) :=
  .of_objects (.modify ObjectState.Later.refl fun x _ => hf x) rfl rfl rfl

theorem Later.modifyProxy {p : ProxyId} {f : ProxyState H → ProxyState H}
    (hf : ∀ x, s.proxy? p = some x → x.Later (f x)) : s.Later (s.modifyProxy p f) :=
  .of_proxies (.modify ProxyState.Later.refl hf) rfl rfl rfl

theorem Later.subscribe (o : ObjectId) (name : String) (l : Listener H) :
    s.Later (s.subscribe o name l).1 :=
  .modifyObject fun x => by exact Roster.Later.add (fun _ => rfl) _

theorem Later.unsubscribe (o : ObjectId) (n : Nat) : s.Later (s.unsubscribe o n) :=
  .modifyObject fun x => by exact Roster.Later.remove (fun _ => rfl) _

theorem Later.listen (p : ProxyId) (l : Listener H) : s.Later (s.listen p l).1 :=
  .modifyProxy fun x _ => ⟨by exact Roster.Later.add (fun _ => rfl) _, id, rfl, id⟩

theorem Later.unlisten (p : ProxyId) (n : Nat) : s.Later (s.unlisten p n) :=
  .modifyProxy fun x _ => ⟨by exact Roster.Later.remove (fun _ => rfl) _, id, rfl, id⟩

/-- What has been disposed of stays so. -/
theorem Later.isDisposed (h : s.Later t) {p : ProxyId} (hp : p.index < s.proxies.next)
    (hd : s.isDisposed (.proxy p)) : t.isDisposed (.proxy p) := by
  simp only [Store.isDisposed, Option.all_eq_true] at hd ⊢
  intro y hy
  obtain ⟨x, hx, hxy⟩ := h.proxies.old _ y hp hy
  exact hxy.disposed (hd x hx)

/-- What is not disposed of has never been. -/
theorem Later.not_disposed (h : s.Later t) {p : ProxyId} {x y : ProxyState H}
    (hx : s.proxy? p = some x) (hy : t.proxy? p = some y) (hd : y.disposed = false) :
    x.disposed = false :=
  Bool.eq_false_iff.2 fun e => Bool.eq_false_iff.1 hd ((h.proxy? hx hy).disposed e)

theorem Later.knows (h : s.Later t) {b : Binding} (hb : s.Knows b) : t.Knows b :=
  fun r o ho => Nat.lt_of_lt_of_le (hb r o ho) h.objects.next

/-! ## Numbers that have been given out -/

/-- A number at an object has been given to a listener of the kind `L`. -/
def Seat (s : Store H) (L : Listener H → Prop) (o : ObjectId) (n : Nat) : Prop :=
  o.index < s.objects.next ∧ ∀ x, s.object? o = some x →
    n < x.subscribers.next ∧ ∀ e, x.subscribers.get? n = some e → L e.listener

/-- A number at a proxy has been given to a listener of the kind `L`. -/
def Ear (s : Store H) (L : Listener H → Prop) (p : ProxyId) (n : Nat) : Prop :=
  p.index < s.proxies.next ∧ ∀ x, s.proxy? p = some x →
    n < x.listeners.next ∧ ∀ l, x.listeners.get? n = some l → L l

variable {L : Listener H → Prop}

theorem Seat.later {o : ObjectId} {n : Nat} (h : s.Seat L o n) (hst : s.Later t) : t.Seat L o n := by
  refine ⟨Nat.lt_of_lt_of_le h.1 hst.objects.next, ?_⟩
  intro y hy
  obtain ⟨x, hx, hxy⟩ := hst.objects.old _ y h.1 hy
  obtain ⟨hn, hL⟩ := h.2 x hx
  refine ⟨Nat.lt_of_lt_of_le hn hxy.next, ?_⟩
  intro e he
  obtain ⟨_, ha, rfl⟩ := hxy.old n e hn he
  exact hL _ ha

theorem Ear.later {p : ProxyId} {n : Nat} (h : s.Ear L p n) (hst : s.Later t) : t.Ear L p n := by
  refine ⟨Nat.lt_of_lt_of_le h.1 hst.proxies.next, ?_⟩
  intro y hy
  obtain ⟨x, hx, hxy⟩ := hst.proxies.old _ y h.1 hy
  obtain ⟨hn, hL⟩ := h.2 x hx
  refine ⟨Nat.lt_of_lt_of_le hn hxy.listeners.next, ?_⟩
  intro l hl
  obtain ⟨_, ha, rfl⟩ := hxy.listeners.old n l hn hl
  exact hL _ ha

/-- Who is subscribed has a seat. -/
theorem Subscribed.seat {p : ProxyId} {o : ObjectId} {n : Nat} {name : String}
    (h : s.Subscribed p o n name) : s.Seat (· = .proxy p) o n := by
  obtain ⟨x, hx, hn⟩ := h
  refine ⟨Roster.lt_next_of_get? hx, ?_⟩
  intro y hy
  obtain rfl : x = y := Option.some.inj (hx ▸ hy)
  refine ⟨Roster.lt_next_of_get? hn, ?_⟩
  intro e he
  obtain rfl : ⟨name, .proxy p⟩ = e := Option.some.inj (hn ▸ he)
  rfl

theorem Seat.not_subscribed {p : ProxyId} {o : ObjectId} {n : Nat} {name : String}
    (h : s.Seat L o n) (hL : ¬ L (.proxy p)) : ¬ s.Subscribed p o n name := by
  rintro ⟨x, hx, hn⟩
  exact hL ((h.2 x hx).2 _ hn)

theorem Ear.not_listens {v : ValidatorId} {p : ProxyId} {n : Nat} (h : s.Ear L p n)
    (hL : ¬ L (.validator v)) : ¬ s.Listens v p n := by
  rintro ⟨x, hx, hn⟩
  exact hL ((h.2 x hx).2 _ hn)

end Store

end LiveForm
