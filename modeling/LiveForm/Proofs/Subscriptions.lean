/-
  Proxies are subscribed to what they depend on, and to nothing else.

  When nothing is going on, a proxy has exactly one subscription for each property that is met on the
  way along its paths, whatever has happened before, and no subscription is left of a proxy that is
  disposed of or gone, nor of one of a form that has been disposed of.

  * `Store.Exact`: the subscriptions of a proxy are what they should be;
  * `Session.Retired`: a proxy belonged to a form that has been disposed of;
  * `Reachable.subscriptions_exact`: the result.
-/
import LiveForm.Proofs.Coherence

namespace LiveForm

open Situation

section

variable {α β : Type} {R : α → β → Prop} {as : List α} {bs : List β}

/-- Where every element of the first list belongs to one element and the second list has no
    repetitions, the first one has none. -/
theorem nodup_left_of_forall₂ (h : List.Forall₂ R as bs)
    (functional : ∀ a b b', R a b → R a b' → b = b') (hb : bs.Nodup) : as.Nodup := by
  induction h with
  | nil => exact .nil
  | @cons a b as bs hab h ih =>
    obtain ⟨hn, hb⟩ := List.nodup_cons.1 hb
    refine List.nodup_cons.2 ⟨fun ha => hn ?_, ih hb⟩
    obtain ⟨b', hb', hab'⟩ := exists_right_of_forall₂ h ha
    rwa [functional a b b' hab hab']

/-- And then no two elements of the first one belong to the same element. -/
theorem eq_of_forall₂ (h : List.Forall₂ R as bs) (functional : ∀ a b b', R a b → R a b' → b = b')
    (hb : bs.Nodup) {a a' : α} {b : β} (ha : a ∈ as) (ha' : a' ∈ as) (hab : R a b)
    (hab' : R a' b) : a = a' := by
  induction h with
  | nil => cases ha
  | @cons a₁ b₁ as bs h₁ h ih =>
    obtain ⟨hn, hb⟩ := List.nodup_cons.1 hb
    -- an element of the rest belongs to one of the rest, so it does not belong to the first one
    have apart : ∀ a₂ ∈ as, ¬ (R a₁ b ∧ R a₂ b) := by
      rintro a₂ ha₂ ⟨hb₁, hb₂⟩
      obtain ⟨b₂, hm, h₂⟩ := exists_right_of_forall₂ h ha₂
      rw [functional a₁ b₁ b h₁ hb₁, functional a₂ b b₂ hb₂ h₂] at hn
      exact hn hm
    rcases List.mem_cons.1 ha with rfl | hm <;> rcases List.mem_cons.1 ha' with rfl | hm'
    · rfl
    · exact absurd ⟨hab, hab'⟩ (apart a' hm')
    · exact absurd ⟨hab', hab⟩ (apart a hm)
    · exact ih hb hm hm'

end

namespace Store

variable {H : Type} {s t : Store H} {p : ProxyId} {x : ProxyState H}

/-! ## One proxy -/

/-- The property `name` of an object is met on the way along a path that a template depends on. -/
def Met (s : Store H) (b : Binding) (t : Template) (o : ObjectId) (name : String) : Prop :=
  ∃ path ∈ t.dependencies, ∃ o₀, (s.scope b).root path.root = some o₀ ∧
    (s.scope b).Walk o₀ path.segments o name

/-- The subscriptions of a proxy are exactly one for each property that is met. -/
structure Exact (s : Store H) (p : ProxyId) (x : ProxyState H) (t : Template) : Prop where
  /-- There is one for each property that is met. -/
  one : ∀ o name, s.Met x.binding t o name → ∃! n, s.Subscribed p o n name
  /-- There are no others. -/
  met : ∀ o n name, s.Subscribed p o n name → s.Met x.binding t o name
  /-- They are what the proxy notes. -/
  noted : ∀ o n, (o, n) ∈ x.subscriptions ↔ ∃ name, s.Subscribed p o n name
  /-- It notes each of them once. -/
  once : x.subscriptions.Nodup

theorem met_iff {b : Binding} {t : Template} {o : ObjectId} {name : String} :
    s.Met b t o name ↔ (o, name) ∈ (s.scope b).watches t := by
  simp only [Met, Scope.mem_watches_iff, Template.dependencies, List.mem_eraseDups]

theorem nodup_watchesOf (s : Store H) (x : ProxyState H) : (s.watchesOf x).Nodup := by
  unfold watchesOf
  split
  · exact .nil
  · exact Scope.nodup_watches ..

/-- An attached proxy whose notes are in order has exactly the subscriptions that it should have. -/
theorem Attached.exact (h : s.Attached p x) (hx : s.proxy? p = some x) (hl : s.Ledger p)
    {ev : Evaluator} {t : Template} (ht : x.source = .template ev t) : s.Exact p x t := by
  have hw : s.watchesOf x = (s.scope x.binding).watches t := by simp only [watchesOf, ht]
  have functional : ∀ (w : ObjectId × Nat) (z z' : ObjectId × String),
      w.1 = z.1 ∧ s.Subscribed p w.1 w.2 z.2 → w.1 = z'.1 ∧ s.Subscribed p w.1 w.2 z'.2 → z = z' :=
    fun w z z' hz hz' => Prod.ext (hz.1.symm.trans hz'.1) (hz.2.functional hz'.2).2
  have noted : ∀ o n name, s.Subscribed p o n name → (o, n) ∈ x.subscriptions := by
    intro o n name hs
    obtain ⟨y, hy, hn⟩ := hl.recorded o n name hs
    obtain rfl := Option.some.inj (hx.symm.trans hy)
    exact hn
  constructor
  case one =>
    intro o name hm
    rw [met_iff, ← hw] at hm
    obtain ⟨n, hn, hs⟩ := h.exists_subscribed hm
    refine ⟨n, hs, ?_⟩
    intro m hm
    exact congrArg Prod.snd (eq_of_forall₂ (b := (o, name)) h functional (s.nodup_watchesOf x)
      (noted o m name hm) hn ⟨rfl, hm⟩ ⟨rfl, hs⟩)
  case met =>
    intro o n name hs
    obtain ⟨m, hm, hs'⟩ := h.exists_watched (noted o n name hs)
    obtain ⟨-, rfl⟩ := hs.functional hs'
    rwa [met_iff, ← hw]
  case noted =>
    intro o n
    constructor
    · intro hn
      obtain ⟨name, -, hs⟩ := h.exists_watched hn
      exact ⟨name, hs⟩
    · rintro ⟨name, hs⟩
      exact noted o n name hs
  case once => exact nodup_left_of_forall₂ h functional (s.nodup_watchesOf x)

/-- Who is subscribed is a template that has not been disposed of, and notes it. -/
theorem Ledger.subscriber (h : s.Ledger p) {o : ObjectId} {n : Nat} {name : String}
    (hs : s.Subscribed p o n name) : ∃ x ev t, s.proxy? p = some x ∧ x.source = .template ev t ∧
      x.disposed = false ∧ (o, n) ∈ x.subscriptions := by
  obtain ⟨x, hx, hn⟩ := h.recorded o n name hs
  have hr : ¬ (x.disposed ∨ x.source.isConstant) := fun hr => by
    rw [h.released x hx hr] at hn
    cases hn
  obtain ⟨hd, hc⟩ := not_or.1 hr
  cases ht : x.source with
  | constant v => exact absurd (by rw [ht]; rfl) hc
  | template ev t => exact ⟨x, ev, t, hx, ht, Bool.eq_false_iff.2 hd, hn⟩

/-- A proxy that is disposed of, or gone, has no subscriptions. -/
theorem Ledger.not_subscribed_of_disposed (h : s.Ledger p) (hd : s.isDisposed (.proxy p))
    (o : ObjectId) (n : Nat) (name : String) : ¬ s.Subscribed p o n name := by
  intro hs
  obtain ⟨x, ev, t, hx, -, hd', -⟩ := h.subscriber hs
  rw [isDisposed, hx, Option.all_some, hd'] at hd
  cases hd

/-! ## Forms -/

theorem rulesOf_eq (s : Store H) (y : Field) :
    s.rulesOf y = ((s.validator? y.validator).map ValidatorState.rules).getD [] := by
  unfold rulesOf
  cases s.validator? y.validator <;> rfl

/-- The rules of a field stay as long as its validator is left alone. -/
theorem Frame.rulesOf {n r : Option Node} (h : Frame n r s t) {y : Field}
    (hn : n ≠ some (.validator y.validator)) : t.rulesOf y = s.rulesOf y := by
  have e := congrArg (Option.map ValidatorState.rules) (h.validator y.validator hn)
  rw [Option.map_map, Option.map_map] at e
  rw [rulesOf_eq, rulesOf_eq]
  exact congrArg (·.getD []) e

/-- They stay when a validator is disposed of. -/
theorem rulesOf_disposeValidator {v : ValidatorId} (h : s.Hearing v) (y : Field) :
    (s.disposeValidator v).rulesOf y = s.rulesOf y := by
  cases hx : s.validator? v with
  | none => rw [disposeValidator_of_none hx]
  | some x =>
    obtain ⟨hf, z, hz, -, -, hr, -⟩ := disposeValidator_spec (r := none) hx h
    by_cases hv : y.validator = v
    · rw [rulesOf_eq, rulesOf_eq, hv, hz, hx, Option.map_some, hr, Option.map_some]
    · exact hf.rulesOf fun e => hv (by cases e; rfl)

end Store

namespace Situation

variable {ev : Evaluator} {u : Store Script} {ts : List (Task Script)} {held : List Entity}
  {p : ProxyId}

/-- All of some proxies are disposed of. -/
theorem Sound.isDisposed_disposeProxies (h : Sound ev ⟨u, ts, held⟩) {ps : List ProxyId}
    (hp : p ∈ ps) (hn : p.index < u.proxies.next) :
    (ps.foldl Store.disposeProxy u).isDisposed (.proxy p) := by
  induction ps generalizing u with
  | nil => cases hp
  | cons q ps ih =>
    have hq : Sound ev ⟨u.disposeProxy q, ts, held⟩ := h.step (.disposeProxy q)
    have hn' : p.index < (u.disposeProxy q).proxies.next :=
      Nat.lt_of_lt_of_le hn (h.later (.single (.disposeProxy q))).proxies.next
    rcases List.mem_cons.1 hp with rfl | hp
    · exact (hq.later (Session.steps_disposeProxies ev _ ps ts held)).isDisposed hn'
        (Store.isDisposed_disposeProxy (h.ledger p))
    · exact ih hq hp hn'

theorem Sound.rulesOf_disposeProxies (h : Sound ev ⟨u, ts, held⟩) (ps : List ProxyId) (y : Field) :
    (ps.foldl Store.disposeProxy u).rulesOf y = u.rulesOf y := by
  induction ps generalizing u with
  | nil => rfl
  | cons q ps ih =>
    exact (ih (h.step (.disposeProxy q))).trans
      ((Store.frame_disposeProxy (r := none) (h.ledger q)).rulesOf nofun)

theorem Sound.proxiesOf_disposeField (h : Sound ev ⟨u, ts, held⟩) (f y : Field) :
    (u.disposeField f).proxiesOf y = u.proxiesOf y := by
  have hv : Sound ev ⟨u.disposeValidator f.validator, ts, held⟩ :=
    h.step (.disposeValidator f.validator)
  rw [Store.proxiesOf, Store.disposeField, hv.rulesOf_disposeProxies,
    Store.rulesOf_disposeValidator (h.hearing _), Store.proxiesOf]

/-- All the proxies of some fields are disposed of. -/
theorem Sound.isDisposed_disposeFields (h : Sound ev ⟨u, ts, held⟩) {fs : List Field} {y : Field}
    (hy : y ∈ fs) (hp : p ∈ u.proxiesOf y) (hn : p.index < u.proxies.next) :
    (fs.foldl Store.disposeField u).isDisposed (.proxy p) := by
  induction fs generalizing u with
  | nil => cases hy
  | cons f fs ih =>
    have hs := Session.steps_disposeField ev u f ts held
    have hn' : p.index < (u.disposeField f).proxies.next :=
      Nat.lt_of_lt_of_le hn (h.later hs).proxies.next
    rcases List.mem_cons.1 hy with rfl | hy
    · have hv : Sound ev ⟨u.disposeValidator y.validator, ts, held⟩ :=
        h.step (.disposeValidator y.validator)
      refine ((h.steps hs).later (Session.steps_disposeFields ev _ fs ts held)).isDisposed hn' ?_
      exact hv.isDisposed_disposeProxies hp (Nat.lt_of_lt_of_le hn
        (h.later (.single (.disposeValidator y.validator))).proxies.next)
    · exact ih (h.steps hs) hy (by rwa [h.proxiesOf_disposeField]) hn'

end Situation

namespace Session

variable {g : Engine} {s t : Session} {p : ProxyId}

/-- A proxy belonged to a form that has been disposed of on the way to a session. -/
def Retired (g : Engine) (s : Session) (p : ProxyId) : Prop :=
  ∃ r t name f x, Reachable g r ∧ r.forms.lookup name = some f ∧ r.store.form? f = some x ∧
    r.Gives (.disposeForm name) t ∧ t.Moves s ∧ ∃ y ∈ x.fields, p ∈ r.store.proxiesOf y

theorem store_start_disposeForm {name : String} {f : FormId} {x : FormState}
    (hf : s.forms.lookup name = some f) (hx : s.store.form? f = some x) (e : Option Occasion)
    (handler : Option String) :
    (s.start e (.disposeForm name) handler).store = x.fields.foldl Store.disposeField s.store := by
  have hc : s.carryOut e (.disposeForm name) = (s.withStore (s.store.disposeForm f)).answering .done := by
    simp [carryOut, formed, orMissing, hf, hx, present]
  have hd : s.store.disposeForm f = x.fields.foldl Store.disposeField s.store := by
    simp only [Store.disposeForm, hx]
  rw [start, hc, hd]
  rfl

/-- The proxies of a form that has been disposed of are, and stay, disposed of. -/
theorem Retired.isDisposed (h : Retired g s p) : s.store.isDisposed (.proxy p) := by
  obtain ⟨r, t, name, f, x, hr, hf, hx, hg, hm, y, hy, hp⟩ := h
  obtain ⟨r', e, handler, hr', he, hw, -, hforms, rfl⟩ := hr.sound.gives hg
  have hs : r'.store = r.store := congrArg Workspace.store hw
  rw [← hforms] at hf
  rw [← hs] at hx hp
  have hc := hr'.sound.start he (.disposeForm name) handler
  have hn : p.index < r'.store.proxies.next :=
    have ⟨_, hz⟩ := Option.isSome_iff_exists.1 ((alive_of_field hr'.sound hx hy).2 p hp)
    Roster.lt_next_of_get? hz
  have hd : (r'.start e (.disposeForm name) handler).store.isDisposed (.proxy p) := by
    rw [store_start_disposeForm hf hx]
    exact Sound.isDisposed_disposeFields hr'.sound.situation hy hp hn
  have later := (hc.sound.sweep.trans (hc.sound.sweep.sound.moves hm)).later
  exact later.isDisposed (Nat.lt_of_lt_of_le hn hc.later.proxies.next) hd

/-- When nothing is going on,

    * a proxy that is not disposed of, and whose objects are alive, has exactly one subscription for
      each property that is met on the way along the paths of its template;
    * a proxy that has any subscription is alive, has a template and is not disposed of, and it has
      noted the subscription;
    * a proxy that is disposed of or gone has none, nor has one of a form that has been disposed of.

    A proxy that has lost one of its objects may keep subscriptions to others until it is told of a
    change. Custom filters are taken to be pure and to make no objects, as `Filter` has them. -/
theorem Reachable.subscriptions_exact (h : Reachable g s) (idle : s.agenda = []) :
    (∀ p x ev t, s.store.proxy? p = some x → x.source = .template ev t → x.disposed = false →
      s.store.Holds x.binding → s.store.Exact p x t) ∧
    (∀ p o n name, s.store.Subscribed p o n name → ∃ x ev t, s.store.proxy? p = some x ∧
      x.source = .template ev t ∧ x.disposed = false ∧ (o, n) ∈ x.subscriptions) ∧
    ∀ p, s.store.isDisposed (.proxy p) ∨ Retired g s p →
      ∀ o n name, ¬ s.store.Subscribed p o n name := by
  have hs := h.sound
  refine ⟨fun p x ev t hx ht hd hb => ?_, fun p o n name hn => ?_, fun p hp => ?_⟩
  · exact (hs.follows_of_idle idle hx hd hb).1.exact hx (hs.situation.ledger p) ht
  · exact (hs.situation.ledger p).subscriber hn
  · exact (hs.situation.ledger p).not_subscribed_of_disposed (hp.elim id Retired.isDisposed)

/-- After an object on the way has been replaced and a form has been disposed of, a proxy has one
    subscription for each of the two properties that it meets, and the proxy of the field has none. -/
theorem subscriptions_exact_replaced : ∃ s : Session,
    Reachable (.ofConfiguration .testing .empty) s ∧ s.agenda = [] ∧
      (∃ p x ev t, s.store.proxy? p = some x ∧ x.source = .template ev t ∧ x.disposed = false ∧
        s.store.Holds x.binding ∧ x.subscriptions.length = 2 ∧ s.store.Exact p x t) ∧
      ∃ q, Retired (.ofConfiguration .testing .empty) s q ∧ ∀ o n m, ¬ s.store.Subscribed q o n m := by
  have run : (trial (.ofConfiguration .testing .empty) 60
      [("a", [("next", .object "b"), ("n", .value (.integer 3))]), ("b", [("n", .value (.integer 1))]),
        ("c", [("n", .value (.integer 2))])]
      [.bind "p" "\x7bBinding next.n\x7d" none ⟨some "a", none⟩,
        .compile "f" "[\x7b\"key\":\"n\"\x7d]" ⟨some "a", none⟩,
        .set "a" "next" (.object "c")]).any (fun r => (r.execute 60 (.disposeForm "f")).any fun s =>
          ((r.forms.lookup "f").bind r.store.form?).any (fun x => !x.fields.isEmpty) &&
          (s.store.proxy? ⟨0⟩).any fun x => decide (x.source.isConstant = false ∧
            x.disposed = false ∧ s.store.Holds x.binding ∧ x.subscriptions.length = 2)) = true := by
    decide +kernel
  obtain ⟨r, hr, run⟩ := (Option.any_eq_true _ _).1 run
  obtain ⟨s, hs, run⟩ := (Option.any_eq_true _ _).1 run
  obtain ⟨hform, hproxy⟩ := Bool.and_eq_true_iff.1 run
  obtain ⟨h, hi⟩ := reachable_of_trial hr
  obtain ⟨hm, idle⟩ := moves_of_finish hs
  have hs := (h.execute hi hs).1
  obtain ⟨exact, -, none⟩ := hs.subscriptions_exact idle
  refine ⟨s, hs, idle, ?_, ?_⟩
  · obtain ⟨x, hx, hp⟩ := (Option.any_eq_true _ _).1 hproxy
    obtain ⟨hc, hd, hb, hl⟩ := of_decide_eq_true hp
    cases ht : x.source with
    | constant v => rw [ht] at hc; cases hc
    | template ev t => exact ⟨⟨0⟩, x, ev, t, hx, ht, hd, hb, hl, exact ⟨0⟩ x ev t hx ht hd hb⟩
  · obtain ⟨x, hx, hf⟩ := (Option.any_eq_true _ _).1 hform
    obtain ⟨f, hlook, hx⟩ := Option.bind_eq_some_iff.1 hx
    cases hy : x.fields with
    | nil => rw [hy] at hf; cases hf
    | cons y ys =>
      have hq : Retired (.ofConfiguration .testing .empty) s y.value :=
        ⟨r, _, "f", f, x, h, hlook, hx, .caller hi, hm, y, by rw [hy]; exact List.mem_cons_self .., List.mem_cons_self ..⟩
      exact ⟨y.value, hq, none _ (Or.inr hq)⟩

end Session

end LiveForm
