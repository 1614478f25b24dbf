/-
  Changes of a store that tell nobody.

  Whatever a command does at once comes to changes of few kinds. Some of them are allowed only to those
  who may write: a licence says who may do what. So it is enough to see of every kind of change what it
  leaves alone, and under which licence.

  * `Licence`, `Store.Change` and `Store.Changes`: what is allowed, the kinds of changes, and any number
    of them;
  * `Store.Trait`, `Store.All` and `Trait.Stable`: something holds of all that there is, and every way
    of touching it keeps it so; `All.changes`: then all changes do;
  * `Store.heard`: of what kinds those are who listen.
-/
import LiveForm.Proofs.Building
import LiveForm.Proofs.Keeping

namespace LiveForm

variable {H : Type}

/-- What changes may do. -/
structure Licence (H : Type) where
  /-- Objects may be made for their own sake and their properties may change, nodes may be bound to
      other objects and be disposed of. -/
  writes : Prop
  /-- The values that may be put into properties. -/
  puts : Value → Prop
  /-- The handlers that may be installed. -/
  installs : H → Prop

/-- Everything is allowed. -/
def Licence.all : Licence H := ⟨True, fun _ => True, fun _ => True⟩

/-- A change of a store that tells nobody. -/
inductive Store.Change (L : Licence H) : Store H → Store H → Prop
  | newObject (s : Store H) (typeName : String) (h : L.writes) : Change L s (s.newObject typeName).1
  | newObjectOf (s : Store H) (j : Json) (h : L.writes) : Change L s (s.newObjectOf j).1
  | setProperty (s : Store H) (o : ObjectId) (name : String) (v : Value) (h : L.writes)
      (hv : L.puts v) : Change L s (s.setProperty o name v)
  | removeProperty (s : Store H) (o : ObjectId) (name : String) (h : L.writes) :
      Change L s (s.removeProperty o name)
  | document (s : Store H) (j : Json) : Change L s (s.newValue j).1
  | subscribe (s : Store H) (o : ObjectId) (name : String) {f : H} (h : L.installs f) :
      Change L s (s.subscribe o name (.handler f)).1
  | unsubscribe (s : Store H) (o : ObjectId) (n : Nat) : Change L s (s.unsubscribe o n)
  | newProxy (s : Store H) (source : ProxySource) (b : Binding) (limit : Nat) :
      Change L s (s.newProxy source b limit).1
  | disposeProxy (s : Store H) (p : ProxyId) (h : L.writes) : Change L s (s.disposeProxy p)
  | listen (s : Store H) (p : ProxyId) {f : H} (h : L.installs f) :
      Change L s (s.listen p (.handler f)).1
  | unlisten (s : Store H) (p : ProxyId) (n : Nat) : Change L s (s.unlisten p n)
  | newValidator (s : Store H) (ev : Evaluator) (field : ProxyId) (rules : List (Rule ProxyId))
      (limit : Nat) : Change L s (s.newValidator ev field rules limit).1
  | disposeValidator (s : Store H) (v : ValidatorId) (h : L.writes) :
      Change L s (s.disposeValidator v)
  | watch (s : Store H) (v : ValidatorId) {f : H} (h : L.installs f) :
      Change L s (s.watch v (.handler f)).1
  | unwatch (s : Store H) (v : ValidatorId) (n : Nat) : Change L s (s.unwatch v n)
  | newForm (s : Store H) (fields : List Field) (b : Binding) : Change L s (s.newForm fields b).1
  | bindForm (s : Store H) (f : FormId) (b : Binding) :
      Change L s (s.modifyForm f fun x => { x with binding := b })
  | drop (s : Store H) (e : Entity) : Change L s (s.drop e)

abbrev Store.Changes (L : Licence H) : Store H → Store H → Prop :=
  Relation.ReflTransGen (Store.Change L)

/-- Something that holds of an entry that is added and of all that were there holds of all. -/
theorem Roster.forall_add {α : Type} {r : Roster α} {Q : α → Prop} {a : α} (ha : Q a)
    (h : ∀ k b, r.get? k = some b → Q b) : ∀ k b, (r.add a).get? k = some b → Q b := by
  intro k b hb
  rw [get?_add] at hb
  split at hb
  · cases hb
    exact ha
  · exact h k b hb

theorem Roster.forall_remove {α : Type} {r : Roster α} {Q : α → Prop} (n : Nat)
    (h : ∀ k b, r.get? k = some b → Q b) : ∀ k b, (r.remove n).get? k = some b → Q b := by
  intro k b hb
  rw [get?_remove] at hb
  split at hb
  · cases hb
  · exact h k b hb

namespace Store

variable {L : Licence H} {s t : Store H}

open Relation.ReflTransGen (refl single)

/-! ## Forms and sweeps -/

/-- What is made for a form comes to changes. -/
theorem kept_changes (L : Licence H) (s : Store H) (b : Binding) :
    Compilation.Kept b (s.Changes L) fun _ => True where
  template _ _ _ h := ⟨h.tail (.newProxy ..), trivial⟩
  constant _ h := ⟨h.tail (.newProxy ..), trivial⟩
  document j h := h.tail (.document _ j)
  validator _ _ _ _ h _ := h.tail (.newValidator ..)

theorem changes_disposeForm (h : L.writes) (s : Store H) (f : FormId) :
    s.Changes L (s.disposeForm f) := by
  have proxies : ∀ (ps : List ProxyId) (u : Store H), u.Changes L (ps.foldl disposeProxy u) := by
    intro ps
    induction ps with
    | nil => exact fun u => refl
    | cons p ps ih => exact fun u => .head (.disposeProxy u p h) (ih _)
  have fields : ∀ (fs : List Field) (u : Store H), u.Changes L (fs.foldl disposeField u) := by
    intro fs
    induction fs with
    | nil => exact fun u => refl
    | cons x fs ih => exact fun u => (Relation.ReflTransGen.head (.disposeValidator u x.validator h)
        (proxies (u.proxiesOf x) _)).trans (ih _)
  unfold disposeForm
  split
  · exact refl
  · exact fields _ s

theorem changes_sweep (s : Store H) (held : List Entity) : s.Changes L (s.sweep held) := by
  have upTo : ∀ (n : Nat) (u : Store H), u.Changes L (u.sweepUpTo held n) := by
    intro n
    induction n with
    | zero => exact fun u => refl
    | succ n ih =>
      intro u
      rw [sweepUpTo]
      split
      · exact refl
      · next e _ => exact .head (.drop u e) (ih _)
  exact upTo _ s

/-! ## New objects -/

/-- Objects from a number on hold only objects from that number on. -/
def Own (n : Nat) (s : Store H) : Prop :=
  ∀ o x, n ≤ o.index → s.object? o = some x → ∀ z ∈ x.properties, ∀ r ∈ z.2.objects, n ≤ r.index

variable {n : Nat}

theorem own_next (s : Store H) : s.Own s.objects.next := by
  intro o x ho hx
  exact absurd (Roster.lt_next_of_get? hx) (Nat.not_lt.2 ho)

theorem Own.newObject (h : s.Own n) (typeName : String) : (s.newObject typeName).1.Own n := by
  intro o x ho hx
  rw [object?_newObject] at hx
  split at hx
  · cases hx
    exact List.forall_mem_nil _
  · exact h o x ho hx

theorem Own.setProperty (h : s.Own n) (o : ObjectId) (name : String) {v : Value}
    (hv : ∀ r ∈ v.objects, n ≤ r.index) : (s.setProperty o name v).Own n := by
  intro o' x ho hx
  rw [Store.setProperty, object?_modifyObject] at hx
  split at hx
  · obtain ⟨y, hy, rfl⟩ := Option.map_eq_some_iff.1 hx
    intro z hz
    rcases mem_putProperty hz with hz | hz
    · exact h o' y ho hy z hz
    · exact hz ▸ hv
  · exact h o' x ho hx

mutual

theorem Own.newValue {s : Store H} (h : s.Own n) (hn : n ≤ s.objects.next) (j : Json) :
    (s.newValue j).1.Own n := by
  match j with
  | .null | .boolean _ | .integer _ | .float _ | .string _ => exact h
  | .array items => exact Own.newValues h hn items
  | .object members =>
    exact Own.setMembers (h.newObject documentType) (Nat.le_succ_of_le hn) _ members

theorem Own.newValues {s : Store H} (h : s.Own n) (hn : n ≤ s.objects.next)
    (js : List Json) :
    (s.newValues js).1.Own n := by
  match js with
  | [] => exact h
  | j :: js =>
    exact Own.newValues (Own.newValue h hn j) (Nat.le_trans hn (newValue_spec s j).1.next) js

theorem Own.setMembers {s : Store H} (h : s.Own n) (hn : n ≤ s.objects.next) (o : ObjectId)
    (ms : List (String × Json)) : (s.setMembers o ms).Own n := by
  match ms with
  | [] => exact h
  | (name, j) :: ms =>
    exact Own.setMembers ((Own.newValue h hn j).setProperty o name
      fun r hr => Nat.le_trans hn (le_of_mem_newValue s j r hr))
      (Nat.le_trans hn (newValue_spec s j).1.next) o ms

end

theorem Own.newObjectOf (h : s.Own n) (hn : n ≤ s.objects.next) (j : Json) :
    (s.newObjectOf j).1.Own n := by
  have made := h.newObject documentType
  cases j with
  | object members => exact made.setMembers (Nat.le_succ_of_le hn) _ members
  | null | boolean | integer | float | string | array => exact made

/-! ## Ways of touching things -/

/-- Something that may hold of objects, proxies and validators. Those from some numbers on count as
    new. -/
structure Trait (H : Type) where
  objects : Nat
  proxies : Nat
  validators : Nat
  object : ObjectId → ObjectState H → Prop
  proxy : ProxyId → ProxyState H → Prop
  validator : ValidatorId → ValidatorState H → Prop

/-- A trait holds of all that there is, and what has been made since counts as new. -/
structure All (T : Trait H) (s : Store H) : Prop where
  objects : T.objects ≤ s.objects.next
  object : ∀ o x, s.object? o = some x → T.object o x
  proxies : T.proxies ≤ s.proxies.next
  proxy : ∀ p x, s.proxy? p = some x → T.proxy p x
  validators : T.validators ≤ s.validators.next
  validator : ∀ v x, s.validator? v = some x → T.validator v x

/-- Every way in which changes under a licence touch a thing keeps what holds of it. -/
structure Trait.Stable (L : Licence H) (T : Trait H) : Prop where
  newObject : ∀ {o x}, T.objects ≤ o.index → (∀ k, x.subscribers.get? k = none) →
    (∀ z ∈ x.properties, ∀ r ∈ z.2.objects, T.objects ≤ r.index) → T.object o x
  setProperty : L.writes → ∀ {o x} name v, L.puts v → T.object o x →
    T.object o { x with properties := putProperty name v x.properties }
  removeProperty : L.writes → ∀ {o x} name, T.object o x →
    T.object o { x with properties := x.properties.filter fun p => p.1 != name }
  subscribe : ∀ {o x} name f, L.installs f → T.object o x →
    T.object o { x with subscribers := x.subscribers.add ⟨name, .handler f⟩ }
  attach : ∀ {o x} name p, T.object o x →
    T.object o { x with subscribers := x.subscribers.add ⟨name, .proxy p⟩ }
  unsubscribe : ∀ {o x} k, T.object o x →
    T.object o { x with subscribers := x.subscribers.remove k }
  newProxy : ∀ {p} source b v limit, T.proxies ≤ p.index → T.proxy p (.fresh source b v limit)
  subscriptions : ∀ {p x} ws, T.proxy p x → T.proxy p { x with subscriptions := ws }
  listen : ∀ {p x} f, L.installs f → T.proxy p x →
    T.proxy p { x with listeners := x.listeners.add (.handler f) }
  hear : ∀ {p x} v, T.proxy p x → T.proxy p { x with listeners := x.listeners.add (.validator v) }
  unlisten : ∀ {p x} k, T.proxy p x → T.proxy p { x with listeners := x.listeners.remove k }
  disposeProxy : L.writes → ∀ {p x}, T.proxy p x → T.proxy p { x with disposed := true }
  clear : ∀ {p x}, T.proxy p x → T.proxy p { x with listeners := x.listeners.clear }
  newValidator : ∀ {v} field rules r limit, T.validators ≤ v.index →
    T.validator v (.fresh field rules r limit)
  notes : ∀ {v x} ws, T.validator v x → T.validator v { x with subscriptions := ws }
  watch : ∀ {v x} f, L.installs f → T.validator v x →
    T.validator v { x with listeners := x.listeners.add (.handler f) }
  unwatch : ∀ {v x} k, T.validator v x → T.validator v { x with listeners := x.listeners.remove k }
  disposeValidator : L.writes → ∀ {v x}, T.validator v x → T.validator v { x with disposed := true }
  clearValidator : ∀ {v x}, T.validator v x → T.validator v { x with listeners := x.listeners.clear }

variable {T : Trait H}

namespace All

theorem modifyObject (h : s.All T) {o : ObjectId} {f : ObjectState H → ObjectState H}
    (hf : ∀ x, T.object o x → T.object o (f x)) : (s.modifyObject o f).All T where
  objects := h.objects
  object o' x hx := by
    rw [object?_modifyObject] at hx
    split at hx
    · next e =>
      subst e
      obtain ⟨y, hy, rfl⟩ := Option.map_eq_some_iff.1 hx
      exact hf y (h.object o' y hy)
    · exact h.object o' x hx
  proxies := h.proxies
  proxy := h.proxy
  validators := h.validators
  validator := h.validator

theorem modifyProxy (h : s.All T) {p : ProxyId} {f : ProxyState H → ProxyState H}
    (hf : ∀ x, s.proxy? p = some x → T.proxy p x → T.proxy p (f x)) : (s.modifyProxy p f).All T where
  objects := h.objects
  object := h.object
  proxies := h.proxies
  proxy q x hx := by
    rw [proxy?_modifyProxy] at hx
    split at hx
    · next e =>
      subst e
      obtain ⟨y, hy, rfl⟩ := Option.map_eq_some_iff.1 hx
      exact hf y hy (h.proxy q y hy)
    · exact h.proxy q x hx
  validators := h.validators
  validator := h.validator

theorem modifyValidator (h : s.All T) {v : ValidatorId}
    {f : ValidatorState H → ValidatorState H}
    (hf : ∀ x, s.validator? v = some x → T.validator v x → T.validator v (f x)) :
    (s.modifyValidator v f).All T where
  objects := h.objects
  object := h.object
  proxies := h.proxies
  proxy := h.proxy
  validators := h.validators
  validator w x hx := by
    rw [validator?_modifyValidator] at hx
    split at hx
    · next e =>
      subst e
      obtain ⟨y, hy, rfl⟩ := Option.map_eq_some_iff.1 hx
      exact hf y hy (h.validator w y hy)
    · exact h.validator w x hx

theorem addProxy (h : s.All T) {x : ProxyState H}
    (hx : ∀ p : ProxyId, T.proxies ≤ p.index → T.proxy p x) :
    ({ s with proxies := s.proxies.add x } : Store H).All T where
  objects := h.objects
  object := h.object
  proxies := Nat.le_succ_of_le h.proxies
  proxy p y hy := by
    rw [proxy?, Roster.get?_add] at hy
    split at hy
    · next e =>
      cases hy
      exact hx p (e ▸ h.proxies)
    · exact h.proxy p y hy
  validators := h.validators
  validator := h.validator

theorem addValidator (h : s.All T) {x : ValidatorState H}
    (hx : ∀ v : ValidatorId, T.validators ≤ v.index → T.validator v x) :
    ({ s with validators := s.validators.add x } : Store H).All T where
  objects := h.objects
  object := h.object
  proxies := h.proxies
  proxy := h.proxy
  validators := Nat.le_succ_of_le h.validators
  validator v y hy := by
    rw [validator?, Roster.get?_add] at hy
    split at hy
    · next e =>
      cases hy
      exact hx v (e ▸ h.validators)
    · exact h.validator v y hy

theorem of_forms (h : s.All T) (fs : Roster FormState) :
    ({ s with forms := fs } : Store H).All T :=
  ⟨h.objects, h.object, h.proxies, h.proxy, h.validators, h.validator⟩

variable (st : T.Stable L)

include st

/-- New objects that hold only new objects are all right. -/
theorem builds (h : s.All T) (hb : s.Builds t) (own : t.Own s.objects.next) : t.All T where
  objects := Nat.le_trans h.objects hb.next
  object o x hx := by
    by_cases ho : o.index < s.objects.next
    · exact h.object o x (hb.old o ho ▸ hx)
    · have ho := Nat.le_of_not_lt ho
      exact st.newObject (Nat.le_trans h.objects ho) (hb.fresh o x ho hx).1 fun z hz r hr =>
        Nat.le_trans h.objects (own o x ho hx z hz r hr)
  proxies := by simpa only [hb.proxies] using h.proxies
  proxy p x hx := h.proxy p x (by rwa [proxy?, hb.proxies] at hx)
  validators := by simpa only [hb.validators] using h.validators
  validator v x hx := h.validator v x (by rwa [validator?, hb.validators] at hx)

/-! ### Subscriptions -/

theorem subscribeProxy (h : s.All T) (p : ProxyId) (ws : List (ObjectId × String)) :
    (s.subscribeProxy p ws).1.All T := by
  induction ws generalizing s with
  | nil => exact h
  | cons w ws ih => exact ih (h.modifyObject fun _ => st.attach w.2 p)

theorem attach (h : s.All T) (p : ProxyId) : (s.attach p).All T := by
  unfold Store.attach
  split
  · exact h
  · exact (h.subscribeProxy st p _).modifyProxy fun _ _ => st.subscriptions _

theorem unsubscribeAll (h : s.All T) (ws : List (ObjectId × Nat)) :
    (s.unsubscribeAll ws).All T := by
  unfold Store.unsubscribeAll
  induction ws generalizing s with
  | nil => exact h
  | cons w ws ih => exact ih (h.modifyObject fun _ => st.unsubscribe w.2)

theorem detach (h : s.All T) (p : ProxyId) : (s.detach p).All T := by
  unfold Store.detach
  split
  · exact h
  · exact (h.unsubscribeAll st _).modifyProxy fun _ _ => st.subscriptions _

theorem follow (h : s.All T) (p : ProxyId) : (s.follow p).All T := by
  unfold Store.follow
  split
  · split
    · split
      · exact (h.detach st p).attach st p
      · exact h
    · exact h
  · exact h

theorem listenAll (h : s.All T) (v : ValidatorId) (ps : List ProxyId) :
    (listenAll v s ps).1.All T := by
  induction ps generalizing s with
  | nil => exact h
  | cons p ps ih => exact ih (h.modifyProxy fun _ _ => st.hear v)

theorem unlistenAll (h : s.All T) (ws : List (ProxyId × Nat)) : (s.unlistenAll ws).All T := by
  unfold Store.unlistenAll
  induction ws generalizing s with
  | nil => exact h
  | cons w ws ih => exact ih (h.modifyProxy fun _ _ => st.unlisten w.2)

theorem silence (h : s.All T) (v : ValidatorId) : (s.silence v).All T := by
  unfold Store.silence
  split
  · exact h
  · exact (h.unlistenAll st _).modifyValidator fun _ _ => st.notes _

/-! ### Nodes that come and go -/

theorem disposeProxy (hw : L.writes) (h : s.All T) (p : ProxyId) : (s.disposeProxy p).All T := by
  unfold Store.disposeProxy
  split
  · exact h
  · split
    · exact h
    · exact ((h.modifyProxy fun _ _ => st.disposeProxy hw).detach st p).modifyProxy
        fun _ _ => st.clear

theorem disposeValidator (hw : L.writes) (h : s.All T) (v : ValidatorId) :
    (s.disposeValidator v).All T := by
  unfold Store.disposeValidator
  split
  · exact h
  · split
    · exact h
    · exact ((h.modifyValidator fun _ _ => st.disposeValidator hw).silence st v).modifyValidator
        fun _ _ => st.clearValidator

theorem drop (h : s.All T) (e : Entity) : (s.drop e).All T := by
  cases e with
  | object o =>
    refine ⟨h.objects, fun o' x hx => ?_, h.proxies, h.proxy, h.validators, h.validator⟩
    rw [Store.drop, object?, Roster.get?_remove] at hx
    split at hx
    · cases hx
    · exact h.object o' x hx
  | proxy p =>
    have hd := h.detach st p
    refine ⟨hd.objects, hd.object, hd.proxies, fun q x hx => ?_, hd.validators, hd.validator⟩
    rw [Store.drop, proxy?, Roster.get?_remove] at hx
    split at hx
    · cases hx
    · exact hd.proxy q x hx
  | validator v =>
    have hd := h.silence st v
    refine ⟨hd.objects, hd.object, hd.proxies, hd.proxy, hd.validators, fun w x hx => ?_⟩
    rw [Store.drop, validator?, Roster.get?_remove] at hx
    split at hx
    · cases hx
    · exact hd.validator w x hx
  | form f => exact h.of_forms _

/-- What is stable outlasts a change that tells nobody. -/
theorem change (h : s.All T) (hc : s.Change L t) : t.All T := by
  cases hc with
  | newObject typeName =>
    exact h.builds st (s.builds_newObject typeName) ((own_next s).newObject typeName)
  | newObjectOf j =>
    exact h.builds st (s.newObjectOf_spec j).1 ((own_next s).newObjectOf (Nat.le_refl _) j)
  | document j => exact h.builds st (s.newValue_spec j).1 ((own_next s).newValue (Nat.le_refl _) j)
  | setProperty o name v hw hv => exact h.modifyObject fun _ => st.setProperty hw name v hv
  | removeProperty o name hw => exact h.modifyObject fun _ => st.removeProperty hw name
  | subscribe o name hf => exact h.modifyObject fun _ => st.subscribe name _ hf
  | unsubscribe o k => exact h.modifyObject fun _ => st.unsubscribe k
  | newProxy source b limit => exact (h.addProxy fun _ => st.newProxy _ _ _ _).attach st _
  | disposeProxy p hw => exact h.disposeProxy st hw p
  | listen p hf => exact h.modifyProxy fun _ _ => st.listen _ hf
  | unlisten p k => exact h.modifyProxy fun _ _ => st.unlisten k
  | newValidator ev field rules limit =>
    have made := h.addValidator fun _ =>
      st.newValidator field rules (s.validate ev field rules) limit
    exact (made.listenAll st ⟨s.validators.next⟩ (field :: rules.flatMap Rule.sources)).modifyValidator
      fun _ _ => st.notes _
  | disposeValidator v hw => exact h.disposeValidator st hw v
  | watch v hf => exact h.modifyValidator fun _ _ => st.watch _ hf
  | unwatch v k => exact h.modifyValidator fun _ _ => st.unwatch k
  | newForm | bindForm => exact h.of_forms _
  | drop e => exact h.drop st e

theorem changes (h : s.All T) (hc : s.Changes L t) : t.All T := by
  induction hc with
  | refl => exact h
  | tail _ hc ih => exact ih.change st hc

end All

/-! ## Who listens to whom -/

/-- Those who listen to objects are all of one kind, and those who listen to proxies and validators are
    all of another one. -/
def heard (Q R : Listener H → Prop) : Trait H where
  objects := 0
  proxies := 0
  validators := 0
  object _ x := ∀ k e, x.subscribers.get? k = some e → Q e.listener
  proxy _ x := ∀ k l, x.listeners.get? k = some l → R l
  validator _ x := ∀ k l, x.listeners.get? k = some l → R l

/-- The listeners stay of their kinds as long as the new ones are. -/
theorem stable_heard {Q R : Listener H → Prop}
    (handler : ∀ f, L.installs f → Q (.handler f) ∧ R (.handler f)) (proxy : ∀ p, Q (.proxy p))
    (validator : ∀ v, R (.validator v)) : (heard Q R).Stable L where
  newObject _ hk _ k e he := by rw [hk] at he; cases he
  setProperty _ _ _ _ _ _ h := h
  removeProperty _ _ _ _ h := h
  subscribe _ f hf h := Roster.forall_add (handler f hf).1 h
  attach _ p h := Roster.forall_add (proxy p) h
  unsubscribe k h := Roster.forall_remove k h
  newProxy _ _ _ _ _ _ _ h := nomatch h
  subscriptions _ h := h
  listen f hf h := Roster.forall_add (handler f hf).2 h
  hear v h := Roster.forall_add (validator v) h
  unlisten k h := Roster.forall_remove k h
  disposeProxy _ _ _ h := h
  clear _ _ _ h := nomatch h
  newValidator _ _ _ _ _ _ _ h := nomatch h
  notes _ h := h
  watch f hf h := Roster.forall_add (handler f hf).2 h
  unwatch k h := Roster.forall_remove k h
  disposeValidator _ _ _ h := h
  clearValidator _ _ _ h := nomatch h

end Store

end LiveForm
