/-
  What can be seen of a store, and how the changes of a store change it.

  * `contents` are the properties of the objects that are alive; a scope shows nothing else
    (`scope_congr`);
  * `Subscribed` and `Listens` say which proxies are subscribed to which properties, and which
    validators listen to which proxies;
  * `Alive`, `Refers` and `Knows` say which entities there are, which of them are held by others, and
    which objects there have ever been;
  * the lemmas after that say for each small change what it does to these.
-/
import LiveForm.Proofs.Reading
import LiveForm.Store.Agenda
import LiveForm.Store.Document
import LiveForm.Store.Sweep

namespace LiveForm

theorem ObjectId.index_inj {o o' : ObjectId} : o.index = o'.index ↔ o = o' := by
  cases o; cases o'; simp

theorem ProxyId.index_inj {p p' : ProxyId} : p.index = p'.index ↔ p = p' := by
  cases p; cases p'; simp

theorem ValidatorId.index_inj {v v' : ValidatorId} : v.index = v'.index ↔ v = v' := by
  cases v; cases v'; simp

theorem FormId.index_inj {f f' : FormId} : f.index = f'.index ↔ f = f' := by
  cases f; cases f'; simp

/-- What is found under a key in a list is there with this key. -/
theorem mem_of_lookup {α β : Type} [BEq α] [LawfulBEq α] {l : List (α × β)} {a : α} {b : β}
    (h : l.lookup a = some b) : (a, b) ∈ l := by
  obtain ⟨l₁, l₂, rfl, -⟩ := List.lookup_eq_some_iff.1 h
  simp

/-- The object that a binding gives a root. -/
def Binding.root (b : Binding) : Root → Option ObjectId
  | .model => b.model
  | .context => b.context

/-- The proxies that a validator follows. -/
def ValidatorState.watched {H : Type} (x : ValidatorState H) : List ProxyId :=
  x.field :: x.rules.flatMap Rule.sources

/-- Whether a source has a path that goes on from a property of a root object. -/
def ProxySource.isNested : ProxySource → Bool
  | .constant _ => false
  | .template _ t => t.hasNestedPaths

namespace Store

variable {H : Type}

/-! ## Views -/

/-- The properties of an object that is alive. -/
def contents (s : Store H) (o : ObjectId) : Option (List (String × Value)) :=
  (s.object? o).map ObjectState.properties

/-- An object is alive. -/
def Lives (s : Store H) (o : ObjectId) : Prop := (s.object? o).isSome

/-- A proxy is subscribed to a property of an object under a number. -/
def Subscribed (s : Store H) (p : ProxyId) (o : ObjectId) (n : Nat) (name : String) : Prop :=
  ∃ x, s.object? o = some x ∧ x.subscribers.get? n = some ⟨name, .proxy p⟩

/-- A validator listens to a proxy under a number. -/
def Listens (s : Store H) (v : ValidatorId) (p : ProxyId) (n : Nat) : Prop :=
  ∃ x, s.proxy? p = some x ∧ x.listeners.get? n = some (.validator v)

/-- An entity is alive. -/
def Alive (s : Store H) : Entity → Prop
  | .object o => s.Lives o
  | .proxy p => (s.proxy? p).isSome
  | .validator v => (s.validator? v).isSome
  | .form f => (s.form? f).isSome

/-- An entity is held by another one. -/
def Refers (s : Store H) (e : Entity) : Prop :=
  (∃ o x, s.object? o = some x ∧ e ∈ x.entities) ∨ (∃ p x, s.proxy? p = some x ∧ e ∈ x.entities) ∨
    (∃ v x, s.validator? v = some x ∧ e ∈ x.entities) ∨ ∃ f x, s.form? f = some x ∧ e ∈ x.entities

/-- The guard of a node, and how its last run ended. -/
def run? (s : Store H) : Node → Option (Guard × Option RunOutcome)
  | .proxy p => (s.proxy? p).map fun x => (x.guard, x.lastRun)
  | .validator v => (s.validator? v).map fun x => (x.guard, x.lastRun)

/-- The objects of a binding have been made, though they may be gone. -/
def Knows (s : Store H) (b : Binding) : Prop :=
  ∀ r o, b.root r = some o → o.index < s.objects.next

/-- The objects of a binding are alive. -/
def Holds (s : Store H) (b : Binding) : Prop := ∀ r o, b.root r = some o → s.Lives o

variable {s t : Store H}

theorem lives_iff {o : ObjectId} : s.Lives o ↔ ∃ x, s.object? o = some x :=
  Option.isSome_iff_exists

theorem lives_iff_contents {o : ObjectId} : s.Lives o ↔ (s.contents o).isSome := by
  simp [Lives, contents]

theorem lives_congr (h : t.contents = s.contents) {o : ObjectId} : t.Lives o ↔ s.Lives o := by
  rw [lives_iff_contents, lives_iff_contents, h]

theorem Subscribed.lives {p : ProxyId} {o : ObjectId} {n : Nat} {name : String}
    (h : s.Subscribed p o n name) : s.Lives o := by
  obtain ⟨x, hx, -⟩ := h
  exact lives_iff.2 ⟨x, hx⟩

theorem Listens.lt_next {v : ValidatorId} {p : ProxyId} {n : Nat} (h : s.Listens v p n) :
    p.index < s.proxies.next := by
  obtain ⟨x, hx, -⟩ := h
  exact Roster.lt_next_of_get? hx

theorem Lives.lt_next {o : ObjectId} (h : s.Lives o) : o.index < s.objects.next := by
  obtain ⟨x, hx⟩ := lives_iff.1 h
  exact Roster.lt_next_of_get? hx

theorem mem_entities_iff {e : Entity} : e ∈ s.entities ↔ s.Alive e := by
  cases e with
  | object o => obtain ⟨n⟩ := o; simp [entities, Alive, Lives, object?, Roster.mem_numbers_iff]
  | proxy p => obtain ⟨n⟩ := p; simp [entities, Alive, proxy?, Roster.mem_numbers_iff]
  | validator v => obtain ⟨n⟩ := v; simp [entities, Alive, validator?, Roster.mem_numbers_iff]
  | form f => obtain ⟨n⟩ := f; simp [entities, Alive, form?, Roster.mem_numbers_iff]

theorem mem_references_iff {e : Entity} : e ∈ s.references ↔ s.Refers e := by
  simp only [references, Refers, List.mem_append, List.mem_flatMap, Prod.exists, or_assoc,
    object?, proxy?, validator?, form?, Roster.get?_eq_some_iff]
  constructor
  · rintro (⟨n, x, h, he⟩ | ⟨n, x, h, he⟩ | ⟨n, x, h, he⟩ | ⟨n, x, h, he⟩)
    · exact Or.inl ⟨⟨n⟩, x, h, he⟩
    · exact Or.inr (Or.inl ⟨⟨n⟩, x, h, he⟩)
    · exact Or.inr (Or.inr (Or.inl ⟨⟨n⟩, x, h, he⟩))
    · exact Or.inr (Or.inr (Or.inr ⟨⟨n⟩, x, h, he⟩))
  · rintro (⟨o, x, h, he⟩ | ⟨p, x, h, he⟩ | ⟨v, x, h, he⟩ | ⟨f, x, h, he⟩)
    · exact Or.inl ⟨_, x, h, he⟩
    · exact Or.inr (Or.inl ⟨_, x, h, he⟩)
    · exact Or.inr (Or.inr (Or.inl ⟨_, x, h, he⟩))
    · exact Or.inr (Or.inr (Or.inr ⟨_, x, h, he⟩))

/-! ## Scopes -/

theorem property_eq (s : Store H) (o : ObjectId) (name : String) :
    s.property o name = (s.contents o).bind fun ps => ps.lookup name := by
  simp only [property, contents, bind]
  cases s.object? o <;> rfl

theorem exists_of_property {o : ObjectId} {name : String} {v : Value}
    (h : s.property o name = some v) : ∃ x, s.object? o = some x ∧ (name, v) ∈ x.properties := by
  obtain ⟨x, hx, hv⟩ := Option.bind_eq_some_iff.1 h
  exact ⟨x, hx, mem_of_lookup hv⟩

/-- An object holds what its properties hold. -/
theorem refers_of_property {o : ObjectId} {name : String} {v : Value}
    (h : s.property o name = some v) : ∀ e ∈ v.entities, s.Refers e := fun e he => by
  obtain ⟨x, hx, hv⟩ := exists_of_property h
  exact Or.inl ⟨o, x, hx, List.mem_flatMap.2 ⟨_, hv, he⟩⟩

theorem alive?_eq_some_iff {o o' : ObjectId} : s.alive? o = some o' ↔ o' = o ∧ s.Lives o := by
  cases h : s.object? o <;> simp [alive?, Lives, h, eq_comm]

theorem scope_root (s : Store H) (b : Binding) (r : Root) :
    (s.scope b).root r = (b.root r).bind s.alive? := by
  cases r <;> rfl

theorem scope_root_eq_some_iff {b : Binding} {r : Root} {o : ObjectId} :
    (s.scope b).root r = some o ↔ b.root r = some o ∧ s.Lives o := by
  rw [scope_root, Option.bind_eq_some_iff]
  constructor
  · rintro ⟨o', h, ho⟩
    obtain ⟨rfl, hl⟩ := alive?_eq_some_iff.1 ho
    exact ⟨h, hl⟩
  · rintro ⟨h, hl⟩
    exact ⟨o, h, alive?_eq_some_iff.2 ⟨rfl, hl⟩⟩

theorem root_scope_congr {b : Binding} (h : ∀ r o, b.root r = some o → (t.Lives o ↔ s.Lives o)) :
    (t.scope b).root = (s.scope b).root := by
  funext r
  ext o
  rw [scope_root_eq_some_iff, scope_root_eq_some_iff]
  exact and_congr_right fun hr => h r o hr

/-- A scope shows only the contents of the objects. -/
theorem scope_congr (h : t.contents = s.contents) (b : Binding) : t.scope b = s.scope b := by
  have hp : t.property = s.property := by
    funext o name
    rw [property_eq, property_eq, h]
  have hr : (t.scope b).root = (s.scope b).root :=
    root_scope_congr fun r o _ => lives_congr h
  have hs : (t.scope b).property = (s.scope b).property := hp
  rcases ht : t.scope b with ⟨property, root⟩
  rcases hs' : s.scope b with ⟨property', root'⟩
  rw [ht, hs'] at hr hs
  cases hr
  cases hs
  rfl

theorem watchesOf_congr (h : t.contents = s.contents) (x : ProxyState H) :
    t.watchesOf x = s.watchesOf x := by
  cases hx : x.source <;> simp [watchesOf, hx, scope_congr h]

theorem sourceValue_congr (h : t.contents = s.contents) (b : Binding)
    (source : ProxySource) : t.sourceValue b source = s.sourceValue b source := by
  cases source <;> simp [sourceValue, scope_congr h]

theorem validate_congr (ev : Evaluator) {field : ProxyId} {rules : List (Rule ProxyId)}
    (h : ∀ p ∈ field :: rules.flatMap Rule.sources, t.valueOf p = s.valueOf p) :
    t.validate ev field rules = s.validate ev field rules := by
  rw [validate, validate, h field (by simp)]
  exact Rule.validate_congr fun p hp => h p (List.mem_cons_of_mem _ hp)

/-! ## Small changes -/

theorem object?_modifyObject (s : Store H) (o o' : ObjectId) (f : ObjectState H → ObjectState H) :
    (s.modifyObject o f).object? o' = if o' = o then (s.object? o').map f else s.object? o' := by
  simp only [object?, modifyObject, Roster.get?_modify, ObjectId.index_inj]

theorem proxy?_modifyProxy (s : Store H) (p p' : ProxyId) (f : ProxyState H → ProxyState H) :
    (s.modifyProxy p f).proxy? p' = if p' = p then (s.proxy? p').map f else s.proxy? p' := by
  simp only [proxy?, modifyProxy, Roster.get?_modify, ProxyId.index_inj]

theorem validator?_modifyValidator (s : Store H) (v v' : ValidatorId)
    (f : ValidatorState H → ValidatorState H) :
    (s.modifyValidator v f).validator? v' =
      if v' = v then (s.validator? v').map f else s.validator? v' := by
  simp only [validator?, modifyValidator, Roster.get?_modify, ValidatorId.index_inj]

theorem proxy?_modifyProxy_self {p : ProxyId} {x : ProxyState H} (h : s.proxy? p = some x)
    (f : ProxyState H → ProxyState H) : (s.modifyProxy p f).proxy? p = some (f x) := by
  simp [proxy?_modifyProxy, h]

theorem proxy?_modifyProxy_of_ne {p q : ProxyId} (h : q ≠ p) (f : ProxyState H → ProxyState H) :
    (s.modifyProxy p f).proxy? q = s.proxy? q := by simp [proxy?_modifyProxy, h]

theorem validator?_modifyValidator_self {v : ValidatorId} {x : ValidatorState H}
    (h : s.validator? v = some x) (f : ValidatorState H → ValidatorState H) :
    (s.modifyValidator v f).validator? v = some (f x) := by
  simp [validator?_modifyValidator, h]

/-- A change of a proxy does not change what is not touched of any proxy. -/
theorem map_proxy?_modifyProxy {β : Type} {p q : ProxyId} {f : ProxyState H → ProxyState H}
    {g : ProxyState H → β} (h : q = p → ∀ x, g (f x) = g x) :
    ((s.modifyProxy p f).proxy? q).map g = (s.proxy? q).map g := by
  rw [proxy?_modifyProxy]
  split
  · next hq => cases s.proxy? q <;> simp [h hq]
  · rfl

/-- A change of a validator does not change what is not touched of any validator. -/
theorem map_validator?_modifyValidator {β : Type} {v w : ValidatorId}
    {f : ValidatorState H → ValidatorState H} {g : ValidatorState H → β}
    (h : w = v → ∀ x, g (f x) = g x) :
    ((s.modifyValidator v f).validator? w).map g = (s.validator? w).map g := by
  rw [validator?_modifyValidator]
  split
  · next hw => cases s.validator? w <;> simp [h hw]
  · rfl

theorem proxy?_add (x : ProxyState H) :
    ({ s with proxies := s.proxies.add x } : Store H).proxy? ⟨s.proxies.next⟩ = some x :=
  (Roster.get?_add ..).trans (if_pos rfl)

theorem validator?_add (x : ValidatorState H) :
    ({ s with validators := s.validators.add x } : Store H).validator? ⟨s.validators.next⟩ = some x :=
  (Roster.get?_add ..).trans (if_pos rfl)

/-- A change of an object that leaves the properties as they are does not change what can be
    read. -/
theorem contents_modifyObject {o : ObjectId} {f : ObjectState H → ObjectState H}
    (h : ∀ x, (f x).properties = x.properties) : (s.modifyObject o f).contents = s.contents := by
  funext o'
  simp only [contents, object?_modifyObject]
  split
  · cases s.object? o' <;> simp [h]
  · rfl

/-- Who is subscribed after a new subscription. -/
theorem subscribed_subscribe {o o' : ObjectId} {name m : String} {l : Listener H} {q : ProxyId}
    {n : Nat} :
    (s.subscribe o name l).1.Subscribed q o' n m ↔ s.Subscribed q o' n m ∨
      o' = o ∧ s.Lives o ∧ n = (s.subscribe o name l).2 ∧ m = name ∧ l = .proxy q := by
  simp only [subscribe, Subscribed, object?_modifyObject]
  by_cases ho : o' = o
  · subst ho
    cases hx : s.object? o' with
    | none => simp [Lives, hx]
    | some x =>
      simp only [↓reduceIte, Option.map_some, Option.some.injEq, exists_eq_left', Roster.get?_add,
        Option.getD_some, Lives, hx, Option.isSome_some, true_and]
      by_cases hn : n = x.subscribers.next
      · simp only [hn, ↓reduceIte, Roster.get?_next, Option.some.injEq, Subscriber.mk.injEq,
          reduceCtorEq, false_or, true_and, eq_comm]
      · simp [hn]
  · simp [ho]

/-- Who is subscribed after the end of a subscription. -/
theorem subscribed_unsubscribe {o o' : ObjectId} {n n' : Nat} {q : ProxyId} {m : String} :
    (s.unsubscribe o n).Subscribed q o' n' m ↔ s.Subscribed q o' n' m ∧ (o', n') ≠ (o, n) := by
  simp only [unsubscribe, Subscribed, object?_modifyObject]
  by_cases ho : o' = o
  · subst ho
    cases hx : s.object? o' with
    | none => simp
    | some x => by_cases hn : n' = n <;> simp [Roster.get?_remove, hn]
  · simp [ho]

/-- Who listens after a new listener has come. -/
theorem listens_listen {p p' : ProxyId} {l : Listener H} {w : ValidatorId} {n : Nat} :
    (s.listen p l).1.Listens w p' n ↔ s.Listens w p' n ∨
      p' = p ∧ (s.proxy? p).isSome ∧ n = (s.listen p l).2 ∧ l = .validator w := by
  simp only [listen, Listens, proxy?_modifyProxy]
  by_cases hp : p' = p
  · subst hp
    cases hx : s.proxy? p' with
    | none => simp
    | some x =>
      simp only [↓reduceIte, Option.map_some, Option.some.injEq, exists_eq_left', Roster.get?_add,
        Option.getD_some, Option.isSome_some, true_and]
      by_cases hn : n = x.listeners.next
      · simp only [hn, ↓reduceIte, Roster.get?_next, Option.some.injEq, reduceCtorEq, false_or,
          true_and]
      · simp [hn]
  · simp [hp]

/-- Who listens after a listener has gone. -/
theorem listens_unlisten {p p' : ProxyId} {n n' : Nat} {w : ValidatorId} :
    (s.unlisten p n).Listens w p' n' ↔ s.Listens w p' n' ∧ (p', n') ≠ (p, n) := by
  simp only [unlisten, Listens, proxy?_modifyProxy]
  by_cases hp : p' = p
  · subst hp
    cases hx : s.proxy? p' with
    | none => simp
    | some x => by_cases hn : n' = n <;> simp [Roster.get?_remove, hn]
  · simp [hp]

end Store

end LiveForm
