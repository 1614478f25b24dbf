/-
  Changes that start nothing.

  Most changes of a store make no nodes and install no handlers, and let the runs in progress be.
  What such changes leave to do gets less and less, which is why all that follows from a command is
  over in the end.

  * `Store.Subsides r s t`: `t` comes from `s` by such changes, except that the run of the node `r` may
    have ended;
  * `Task.Performs.subsides`: to perform a task is such a change, unless the task ends a pass.
-/
import LiveForm.Proofs.Building

namespace LiveForm

variable {H : Type}

/-! ## Parts of a store -/

/-- No handler has come to the listeners of a node. -/
def Roster.Fewer (ls ls' : Roster (Listener H)) : Prop :=
  ∀ k h, ls'.get? k = some (.handler h) → ls.get? k = some (.handler h)

/-- A guard has kept its limit, and goes on running unless its run may end. -/
def Guard.Stays (ends : Prop) (g g' : Guard) : Prop :=
  g'.limit = g.limit ∧ (¬ ends → g.running → g'.running)

namespace Roster

variable {ls ls' ls'' : Roster (Listener H)}

theorem Fewer.refl (ls : Roster (Listener H)) : ls.Fewer ls := fun _ _ => id

theorem Fewer.trans (h₁ : ls.Fewer ls') (h₂ : ls'.Fewer ls'') : ls.Fewer ls'' :=
  fun k h hk => h₁ k h (h₂ k h hk)

theorem fewer_remove (ls : Roster (Listener H)) (n : Nat) : ls.Fewer (ls.remove n) := by
  intro k h hk
  rw [get?_remove] at hk
  split at hk
  · cases hk
  · exact hk

theorem fewer_clear (ls : Roster (Listener H)) : ls.Fewer ls.clear := fun k h hk => by cases hk

end Roster

namespace Guard

variable {e : Prop} {g g' g'' : Guard}

theorem Stays.refl (e : Prop) (g : Guard) : g.Stays e g := ⟨rfl, fun _ => id⟩

theorem Stays.trans (h₁ : g.Stays e g') (h₂ : g'.Stays e g'') : g.Stays e g'' :=
  ⟨h₂.1.trans h₁.1, fun he hr => h₂.2 he (h₁.2 he hr)⟩

end Guard

namespace Store

variable {s t u : Store H} {r : Option Node}

/-- No node has been made and no handler installed, and what runs goes on running, but for one node
    perhaps. -/
structure Subsides (r : Option Node) (s t : Store H) : Prop where
  objects : ∀ o y k name h, t.object? o = some y → y.subscribers.get? k = some ⟨name, .handler h⟩ →
    ∃ x, s.object? o = some x ∧ x.subscribers.get? k = some ⟨name, .handler h⟩
  proxies : ∀ p y, t.proxy? p = some y → ∃ x, s.proxy? p = some x ∧
    x.guard.Stays (r = some (.proxy p)) y.guard ∧ x.listeners.Fewer y.listeners
  validators : ∀ v y, t.validator? v = some y → ∃ x, s.validator? v = some x ∧
    x.guard.Stays (r = some (.validator v)) y.guard ∧ x.listeners.Fewer y.listeners

namespace Subsides

theorem refl (s : Store H) : s.Subsides r s where
  objects _ y _ _ _ hy hk := ⟨y, hy, hk⟩
  proxies _ y hy := ⟨y, hy, .refl _ _, .refl _⟩
  validators _ y hy := ⟨y, hy, .refl _ _, .refl _⟩

theorem trans (h₁ : s.Subsides r t) (h₂ : t.Subsides r u) : s.Subsides r u where
  objects o z k name h hz hk := by
    obtain ⟨y, hy, hk⟩ := h₂.objects o z k name h hz hk
    exact h₁.objects o y k name h hy hk
  proxies p z hz := by
    obtain ⟨y, hy, hg, hl⟩ := h₂.proxies p z hz
    obtain ⟨x, hx, hg', hl'⟩ := h₁.proxies p y hy
    exact ⟨x, hx, hg'.trans hg, hl'.trans hl⟩
  validators v z hz := by
    obtain ⟨y, hy, hg, hl⟩ := h₂.validators v z hz
    obtain ⟨x, hx, hg', hl'⟩ := h₁.validators v y hy
    exact ⟨x, hx, hg'.trans hg, hl'.trans hl⟩

/-- The runs in progress, that of the node included. -/
theorem mono (h : s.Subsides none t) : s.Subsides r t where
  objects := h.objects
  proxies p y hy := by
    obtain ⟨x, hx, hg, hl⟩ := h.proxies p y hy
    exact ⟨x, hx, ⟨hg.1, fun _ => hg.2 nofun⟩, hl⟩
  validators v y hy := by
    obtain ⟨x, hx, hg, hl⟩ := h.validators v y hy
    exact ⟨x, hx, ⟨hg.1, fun _ => hg.2 nofun⟩, hl⟩

theorem guard? (h : s.Subsides r t) {n : Node} {g' : Guard} (hg : t.guard? n = some g') :
    ∃ g, s.guard? n = some g ∧ g.Stays (r = some n) g' := by
  cases n with
  | proxy p =>
    obtain ⟨y, hy, rfl⟩ := Option.map_eq_some_iff.1 hg
    obtain ⟨x, hx, hg, -⟩ := h.proxies p y hy
    exact ⟨x.guard, by simp [Store.guard?, hx], hg⟩
  | validator v =>
    obtain ⟨y, hy, rfl⟩ := Option.map_eq_some_iff.1 hg
    obtain ⟨x, hx, hg, -⟩ := h.validators v y hy
    exact ⟨x.guard, by simp [Store.guard?, hx], hg⟩

/-- A node that was not running in the beginning is no exception. -/
theorem of_idle {n : Node} (h : s.Subsides (some n) t)
    (hn : ∀ g, s.guard? n = some g → g.running = false) : s.Subsides none t where
  objects := h.objects
  proxies p y hy := by
    obtain ⟨x, hx, ⟨hm, hr⟩, hl⟩ := h.proxies p y hy
    refine ⟨x, hx, ⟨hm, fun _ hx' => ?_⟩, hl⟩
    refine hr (fun e => ?_) hx'
    cases e
    have := hn x.guard (by simp [Store.guard?, hx])
    simp [this] at hx'
  validators v y hy := by
    obtain ⟨x, hx, ⟨hm, hr⟩, hl⟩ := h.validators v y hy
    refine ⟨x, hx, ⟨hm, fun _ hx' => ?_⟩, hl⟩
    refine hr (fun e => ?_) hx'
    cases e
    have := hn x.guard (by simp [Store.guard?, hx])
    simp [this] at hx'

/-! ## Changes of one entity -/

theorem modifyObject {o : ObjectId} {f : ObjectState H → ObjectState H}
    (hf : ∀ x k name h, (f x).subscribers.get? k = some ⟨name, .handler h⟩ →
      x.subscribers.get? k = some ⟨name, .handler h⟩) : s.Subsides r (s.modifyObject o f) where
  objects o' y k name h hy hk := by
    rw [object?_modifyObject] at hy
    split at hy
    · obtain ⟨x, hx, rfl⟩ := Option.map_eq_some_iff.1 hy
      exact ⟨x, hx, hf x k name h hk⟩
    · exact ⟨y, hy, hk⟩
  proxies := (refl s).proxies
  validators := (refl s).validators

theorem modifyProxy {p : ProxyId} {f : ProxyState H → ProxyState H}
    (hf : ∀ x, s.proxy? p = some x →
      x.guard.Stays (r = some (.proxy p)) (f x).guard ∧ x.listeners.Fewer (f x).listeners) :
    s.Subsides r (s.modifyProxy p f) where
  objects := (refl (r := r) s).objects
  proxies q y hy := by
    rw [proxy?_modifyProxy] at hy
    split at hy
    · next hq =>
      obtain ⟨x, hx, rfl⟩ := Option.map_eq_some_iff.1 hy
      subst hq
      exact ⟨x, hx, hf x hx⟩
    · exact (refl s).proxies q y hy
  validators := (refl s).validators

theorem modifyValidator {v : ValidatorId} {f : ValidatorState H → ValidatorState H}
    (hf : ∀ x, s.validator? v = some x →
      x.guard.Stays (r = some (.validator v)) (f x).guard ∧ x.listeners.Fewer (f x).listeners) :
    s.Subsides r (s.modifyValidator v f) where
  objects := (refl (r := r) s).objects
  proxies := (refl s).proxies
  validators w y hy := by
    rw [validator?_modifyValidator] at hy
    split at hy
    · next hw =>
      obtain ⟨x, hx, rfl⟩ := Option.map_eq_some_iff.1 hy
      subst hw
      exact ⟨x, hx, hf x hx⟩
    · exact (refl s).validators w y hy

/-- To make objects starts nothing. -/
theorem build (h : s.Builds t) : s.Subsides r t where
  objects o y k name l hy hk := by
    by_cases ho : o.index < s.objects.next
    · exact ⟨y, by rwa [h.old o ho] at hy, hk⟩
    · have := (h.fresh o y (Nat.le_of_not_lt ho) hy).1 k
      rw [this] at hk
      cases hk
  proxies p y hy := (refl s).proxies p y (by rwa [proxy?, h.proxies] at hy)
  validators v y hy := (refl s).validators v y (by rwa [validator?, h.validators] at hy)

theorem change {name : String} {o : ObjectId} {f : ObjectState H → ObjectState H}
    (h : s.Touches name f) : s.Subsides r (s.modifyObject o f) :=
  .modifyObject fun x k m l hk => by rwa [h.subscribers] at hk

/-- A node subscribes to a property. -/
theorem subscribe (o : ObjectId) (name : String) (p : ProxyId) :
    s.Subsides r (s.subscribe o name (.proxy p)).1 := by
  refine .modifyObject fun x k m h hk => ?_
  rw [Roster.get?_add] at hk
  split at hk
  · cases hk
  · exact hk

theorem unsubscribe (o : ObjectId) (n : Nat) : s.Subsides r (s.unsubscribe o n) := by
  refine .modifyObject fun x k m h hk => ?_
  rw [Roster.get?_remove] at hk
  split at hk
  · cases hk
  · exact hk

theorem unlisten (p : ProxyId) (n : Nat) : s.Subsides r (s.unlisten p n) :=
  .modifyProxy fun x _ => ⟨.refl _ _, x.listeners.fewer_remove n⟩

theorem unwatch (v : ValidatorId) (n : Nat) : s.Subsides r (s.unwatch v n) :=
  .modifyValidator fun x _ => ⟨.refl _ _, x.listeners.fewer_remove n⟩

/-- A guard is replaced, and its run may end if it is that of the node. -/
theorem setGuard {n : Node} {g g' : Guard} (hg : s.guard? n = some g)
    (h : g.Stays (r = some n) g') : s.Subsides r (s.setGuard n g') := by
  cases n with
  | proxy p =>
    refine .modifyProxy fun x hx => ⟨?_, .refl _⟩
    obtain rfl : x.guard = g := by simpa [Store.guard?, hx] using hg
    exact h
  | validator v =>
    refine .modifyValidator fun x hx => ⟨?_, .refl _⟩
    obtain rfl : x.guard = g := by simpa [Store.guard?, hx] using hg
    exact h

theorem noteOutcome (n : Node) (o : RunOutcome) : s.Subsides r (s.noteOutcome n o) := by
  cases n with
  | proxy p => exact .modifyProxy fun x _ => ⟨.refl _ _, .refl _⟩
  | validator v => exact .modifyValidator fun x _ => ⟨.refl _ _, .refl _⟩

/-! ## Subscriptions -/

theorem subscribeProxy (p : ProxyId) (ws : List (ObjectId × String)) :
    s.Subsides r (s.subscribeProxy p ws).1 := by
  induction ws generalizing s with
  | nil => exact .refl s
  | cons w ws ih => exact (subscribe w.1 w.2 p).trans ih

theorem attach (p : ProxyId) : s.Subsides r (s.attach p) := by
  unfold Store.attach
  split
  · exact .refl s
  · exact (subscribeProxy p _).trans (.modifyProxy fun x _ => ⟨.refl _ _, .refl _⟩)

theorem unsubscribeAll (ws : List (ObjectId × Nat)) : s.Subsides r (s.unsubscribeAll ws) := by
  induction ws generalizing s with
  | nil => exact .refl s
  | cons w ws ih => exact (unsubscribe w.1 w.2).trans ih

theorem detach (p : ProxyId) : s.Subsides r (s.detach p) := by
  unfold Store.detach
  split
  · exact .refl s
  · exact (unsubscribeAll _).trans (.modifyProxy fun x _ => ⟨.refl _ _, .refl _⟩)

theorem follow (p : ProxyId) : s.Subsides r (s.follow p) := by
  unfold Store.follow
  split
  · split
    · split
      · exact (detach p).trans (attach p)
      · exact .refl s
    · exact .refl s
  · exact .refl s

theorem bindProxy (p : ProxyId) (b : Binding) : s.Subsides r (s.bindProxy p b) := by
  have bound : (s.detach p).Subsides r ((s.detach p).modifyProxy p fun x => { x with binding := b }) :=
    .modifyProxy fun x _ => ⟨.refl _ _, .refl _⟩
  exact ((detach p).trans bound).trans (attach p)

theorem disposeProxy (p : ProxyId) : s.Subsides r (s.disposeProxy p) := by
  unfold Store.disposeProxy
  split
  · exact .refl s
  · split
    · exact .refl s
    · have marked : s.Subsides r (s.modifyProxy p fun x => { x with disposed := true }) :=
        .modifyProxy fun x _ => ⟨.refl _ _, .refl _⟩
      exact (marked.trans (detach p)).trans
        (.modifyProxy fun x _ => ⟨.refl _ _, x.listeners.fewer_clear⟩)

theorem unlistenAll (ws : List (ProxyId × Nat)) : s.Subsides r (s.unlistenAll ws) := by
  induction ws generalizing s with
  | nil => exact .refl s
  | cons w ws ih => exact (unlisten w.1 w.2).trans ih

theorem silence (v : ValidatorId) : s.Subsides r (s.silence v) := by
  unfold Store.silence
  split
  · exact .refl s
  · exact (unlistenAll _).trans (.modifyValidator fun x _ => ⟨.refl _ _, .refl _⟩)

theorem disposeValidator (v : ValidatorId) : s.Subsides r (s.disposeValidator v) := by
  unfold Store.disposeValidator
  split
  · exact .refl s
  · split
    · exact .refl s
    · have marked : s.Subsides r (s.modifyValidator v fun x => { x with disposed := true }) :=
        .modifyValidator fun x _ => ⟨.refl _ _, .refl _⟩
      exact (marked.trans (silence v)).trans
        (.modifyValidator fun x _ => ⟨.refl _ _, x.listeners.fewer_clear⟩)

/-! ## Forms and what nobody holds -/

theorem of_forms (fs : Roster FormState) : s.Subsides r { s with forms := fs } where
  objects := (refl (r := r) s).objects
  proxies := (refl s).proxies
  validators := (refl s).validators

theorem disposeField (f : Field) : s.Subsides r (s.disposeField f) := by
  have all : ∀ (ps : List ProxyId) (s : Store H), s.Subsides r (ps.foldl Store.disposeProxy s) := by
    intro ps
    induction ps with
    | nil => exact fun s => .refl s
    | cons p ps ih => exact fun s => (disposeProxy p).trans (ih _)
  exact (disposeValidator f.validator).trans (all _ _)

theorem disposeForm (f : FormId) : s.Subsides r (s.disposeForm f) := by
  have all : ∀ (fs : List Field) (s : Store H), s.Subsides r (fs.foldl Store.disposeField s) := by
    intro fs
    induction fs with
    | nil => exact fun s => .refl s
    | cons f fs ih => exact fun s => (disposeField f).trans (ih _)
  unfold Store.disposeForm
  split
  · exact .refl s
  · exact all _ _

theorem drop (e : Entity) : s.Subsides r (s.drop e) := by
  cases e with
  | object o =>
    refine ⟨fun o' y k name h hy hk => ?_, (refl s).proxies, (refl s).validators⟩
    rw [object?_drop] at hy
    split at hy
    · cases hy
    · exact ⟨y, hy, hk⟩
  | proxy p =>
    refine (detach p).trans ⟨(refl (r := r) _).objects, fun q y hy => ?_, (refl _).validators⟩
    rw [Store.drop, proxy?, Roster.get?_remove] at hy
    split at hy
    · cases hy
    · exact (refl _).proxies q y hy
  | validator v =>
    refine (silence v).trans ⟨(refl (r := r) _).objects, (refl _).proxies, fun w y hy => ?_⟩
    rw [Store.drop, validator?, Roster.get?_remove] at hy
    split at hy
    · cases hy
    · exact (refl _).validators w y hy
  | form f => exact .of_forms _

theorem sweepUpTo (held : List Entity) (n : Nat) : s.Subsides r (s.sweepUpTo held n) := by
  induction n generalizing s with
  | zero => exact .refl s
  | succ n ih =>
    rw [Store.sweepUpTo]
    split
    · exact .refl s
    · exact (drop _).trans ih

theorem sweep (held : List Entity) : s.Subsides r (s.sweep held) := sweepUpTo held _

end Subsides

end Store

/-! ## Tasks -/

/-- The node whose pass a task ends. -/
def Task.ends? : Task H → Option Node
  | .settle n _ | .settleExtra n _ => some n
  | _ => none

open Store in
/-- To perform a task that ends no pass starts nothing, and the tasks that it puts first end none, but
    for those of a run that it starts. -/
theorem Task.Performs.subsides {ev : Evaluator} {s t : Store H} {tk : Task H} {new : List (Task H)}
    (h : tk.Performs ev s t new) (hk : tk.ends? = none) : s.Subsides none t := by
  cases h with
  | close | tell | miss | heed | ignore | refuse | keep | bound | pass => exact .refl s
  | follow => exact .follow _
  | @request n force g hd hg =>
    refine .setGuard hg ?_
    unfold Guard.request
    split
    · exact ⟨rfl, fun _ => id⟩
    · exact ⟨rfl, fun _ _ => rfl⟩
  | update => exact .modifyProxy fun x _ => ⟨.refl _ _, .refl _⟩
  | judge => exact .modifyValidator fun x _ => ⟨.refl _ _, .refl _⟩
  | again | extra | stop | stopExtra | gone | goneExtra => cases hk
  | bind => exact .bindProxy _ _

end LiveForm
