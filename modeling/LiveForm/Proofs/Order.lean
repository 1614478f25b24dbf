/-
  What is in order in every situation.

  Whatever is held by anybody is alive, and every binding is to objects that have been made. The notes
  of proxies and validators are in order. These facts need one another: a proxy can only be subscribed
  to what is alive, and an entity may only be taken away together with its subscriptions.

  * `Situation.Closed` and `Situation.Ordered`: the facts; `Ordered.step`: every step preserves them.
-/
import LiveForm.Proofs.Situation

namespace LiveForm

variable {H : Type}

/-! ## Changes of objects -/

namespace Store

variable {s t : Store H} {o : ObjectId} {name : String} {f : ObjectState H → ObjectState H}

theorem Builds.later (h : s.Builds t) : s.Later t := by
  refine .of_objects ⟨h.next, fun n y hn hy => ⟨y, ?_, .refl y⟩⟩ h.proxies h.validators h.forms
  have := h.old ⟨n⟩ hn
  exact this.symm.trans hy

theorem Builds.subscribed (h : s.Builds t) {p : ProxyId} {o : ObjectId} {k : Nat} {name : String} :
    t.Subscribed p o k name ↔ s.Subscribed p o k name := by
  by_cases ho : o.index < s.objects.next
  · simp only [Subscribed, h.old o ho]
  · constructor
    · rintro ⟨x, hx, hk⟩
      rw [(h.fresh o x (Nat.le_of_not_lt ho) hx).1 k] at hk
      cases hk
    · exact fun hs => absurd hs.lives.lt_next ho

theorem Builds.lives (h : s.Builds t) {o : ObjectId} (ho : s.Lives o) : t.Lives o := by
  rw [Lives, h.old o ho.lt_next]
  exact ho

theorem Builds.alive (h : s.Builds t) {e : Entity} (he : s.Alive e) : t.Alive e := by
  cases e with
  | object o => exact h.lives he
  | proxy p => simpa only [Alive, proxy?, h.proxies] using he
  | validator v => simpa only [Alive, validator?, h.validators] using he
  | form f => simpa only [Alive, form?, h.forms] using he

theorem Builds.refers (h : s.Builds t) {e : Entity} (he : t.Refers e) : s.Refers e ∨ t.Alive e := by
  rcases he with ⟨o, x, hx, he⟩ | he
  · by_cases ho : o.index < s.objects.next
    · rw [h.old o ho] at hx
      exact Or.inl (Or.inl ⟨o, x, hx, he⟩)
    · exact Or.inr ((h.fresh o x (Nat.le_of_not_lt ho) hx).2 e he)
  · refine Or.inl (Or.inr ?_)
    simpa only [proxy?, validator?, form?, h.proxies, h.validators, h.forms] using he

theorem Touches.later (h : s.Touches name f) : s.Later (s.modifyObject o f) :=
  .modifyObject fun x => by
    rw [ObjectState.Later, h.subscribers]
    exact .refl fun _ => rfl

theorem lives_modifyObject {o' : ObjectId} : (s.modifyObject o f).Lives o' ↔ s.Lives o' := by
  rw [Lives, Lives, object?_modifyObject]
  split
  · rw [Option.isSome_map]
  · rfl

theorem Touches.subscribed (h : s.Touches name f) {p : ProxyId} {o' : ObjectId} {k : Nat}
    {m : String} : (s.modifyObject o f).Subscribed p o' k m ↔ s.Subscribed p o' k m := by
  simp only [Subscribed, object?_modifyObject]
  split
  · cases s.object? o' <;> simp [h.subscribers]
  · rfl

theorem alive_modifyObject {e : Entity} : (s.modifyObject o f).Alive e ↔ s.Alive e := by
  cases e with
  | object o' => exact lives_modifyObject
  | proxy p => rfl
  | validator v => rfl
  | form f => rfl

theorem Touches.refers (h : s.Touches name f) {e : Entity} (he : (s.modifyObject o f).Refers e) :
    s.Refers e ∨ s.Alive e := by
  rcases he with ⟨o', y, hy, he⟩ | he
  · rw [object?_modifyObject] at hy
    split at hy
    · obtain ⟨x, hx, rfl⟩ := Option.map_eq_some_iff.1 hy
      obtain ⟨z, hz, he⟩ := List.mem_flatMap.1 he
      rcases h.alive x z hz with hz | hz
      · exact Or.inl (Or.inl ⟨o', x, hx, List.mem_flatMap.2 ⟨z, hz, he⟩⟩)
      · obtain ⟨r, hr, rfl⟩ := List.mem_map.1 he
        exact Or.inr (hz r hr)
    · exact Or.inl (Or.inl ⟨o', y, hy, he⟩)
  · exact Or.inl (Or.inr he)

theorem object?_drop (s : Store H) (o o' : ObjectId) :
    (s.drop (.object o)).object? o' = if o' = o then none else s.object? o' := by
  simp only [drop, object?, Roster.get?_remove, ObjectId.index_inj]

theorem later_drop_object (o : ObjectId) : s.Later (s.drop (.object o)) :=
  .of_objects (.remove ObjectState.Later.refl _) rfl rfl rfl

theorem subscribed_of_drop_object {o : ObjectId} {p : ProxyId} {o' : ObjectId} {k : Nat} {m : String}
    (h : (s.drop (.object o)).Subscribed p o' k m) : s.Subscribed p o' k m := by
  obtain ⟨x, hx, hk⟩ := h
  rw [object?_drop] at hx
  split at hx
  · cases hx
  · exact ⟨x, hx, hk⟩

end Store

/-! ## Closed situations -/

/-- A task speaks only of what is alive and known. -/
def Task.Closed (s : Store H) (tk : Task H) : Prop :=
  (∀ e ∈ tk.entities, s.Alive e) ∧ ∀ b, tk.binding? = some b → s.Knows b

/-- Most tasks bind nothing. -/
theorem Task.Closed.of_unbound {s : Store H} {tk : Task H} (he : ∀ e ∈ tk.entities, s.Alive e)
    (hb : tk.binding? = none) : tk.Closed s :=
  ⟨he, fun b h => by cases hb.symm.trans h⟩

/-- Requests, passes and their ends speak of one node. -/
theorem Task.Closed.of_node {s : Store H} {m : Node} {tk : Task H}
    (hm : s.Alive m.entity) (he : tk.entities = [m.entity]) (hb : tk.binding? = none) :
    tk.Closed s :=
  .of_unbound (by simpa [he] using hm) hb

namespace Situation

/-- What is held by anybody is alive, and what anything is bound to has been made. -/
structure Closed (c : Situation H) : Prop where
  alive : ∀ e, c.Keeps e → c.store.Alive e
  knows : ∀ b, c.Binds b → c.store.Knows b

structure Ordered (c : Situation H) : Prop extends c.Closed where
  ledger : ∀ p, c.store.Ledger p
  hearing : ∀ v, c.store.Hearing v

variable {ev : Evaluator} {c d : Situation H} {n r : Option Node}

theorem Closed.sealed (h : c.Closed) : c.store.Sealed := by
  intro o ps hps z hz i hi
  obtain ⟨x, hx, rfl⟩ := Option.map_eq_some_iff.1 hps
  exact h.alive (.object i) (Or.inr (Or.inr (Or.inl ⟨o, x, hx,
    List.mem_flatMap.2 ⟨z, hz, List.mem_map_of_mem hi⟩⟩)))

/-- What a validator watches is alive. -/
theorem Closed.watched (h : c.Closed) {v : ValidatorId} {x : ValidatorState H}
    (hx : c.store.validator? v = some x) : ∀ p ∈ x.watched, (c.store.proxy? p).isSome :=
  fun p hp => h.alive (.proxy p) (Or.inr (Or.inr (Or.inr (Or.inr (Or.inl ⟨v, x, hx,
    List.mem_map_of_mem hp⟩)))))

/-- A change keeps a situation closed if all that is held and bound newly is alive and known. -/
theorem Closed.of (h : c.Closed) (hk : ∀ e, d.Keeps e → c.Keeps e ∨ d.store.Alive e)
    (ha : ∀ e, c.Keeps e → c.store.Alive e → d.store.Alive e)
    (hb : ∀ b, d.Binds b → c.Binds b ∨ d.store.Knows b) (hl : c.store.Later d.store) :
    d.Closed where
  alive e he := (hk e he).elim (fun he => ha e he (h.alive e he)) id
  knows b he := (hb b he).elim (fun he => hl.knows (h.knows b he)) id

/-- A change of a node keeps a situation closed if the node and the new tasks speak only of what is
    alive and known. -/
theorem Closed.frame {t : Store H} {ts : List (Task H)} (h : c.Closed)
    (hf : Store.Frame n r c.store t)
    (hp : ∀ p, n = some (.proxy p) → ∃ x, t.proxy? p = some x ∧
      (∀ e ∈ x.entities, c.store.Refers e ∨ t.Alive e) ∧
      (c.Binds x.binding ∨ t.Knows x.binding))
    (hv : ∀ v, n = some (.validator v) → ∃ x, t.validator? v = some x ∧
      ∀ e ∈ x.entities, c.store.Refers e ∨ t.Alive e)
    (ht : ∀ tk ∈ ts, tk ∈ c.tasks ∨ tk.Closed t) : Closed ⟨t, ts, c.held⟩ := by
  have alive : ∀ e, c.store.Alive e → t.Alive e := by
    intro e he
    refine hf.alive_of ?_ he
    rintro (p | v) hm
    · obtain ⟨x, hx, -⟩ := hp p hm
      exact Option.isSome_iff_exists.2 ⟨x, hx⟩
    · obtain ⟨x, hx, -⟩ := hv v hm
      exact Option.isSome_iff_exists.2 ⟨x, hx⟩
  have refers : ∀ e, c.store.Refers e ∨ t.Alive e → c.Keeps e ∨ t.Alive e := by
    intro e h
    exact h.imp_left fun h => Or.inr (Or.inr h)
  refine h.of ?keeps (fun e _ => alive e) ?binds hf.later
  case keeps =>
    rintro e (he | ⟨tk, htk, he⟩ | he)
    · exact Or.inl (Or.inl he)
    · rcases ht tk htk with h | h
      · exact Or.inl (Or.inr (Or.inl ⟨tk, h, he⟩))
      · exact Or.inr (h.1 e he)
    · rcases hf.refers he with he | ⟨p, x, hn, hx, he⟩ | ⟨v, x, hn, hx, he⟩
      · exact refers e (Or.inl he)
      · obtain ⟨y, hy, h, -⟩ := hp p hn
        obtain rfl := Option.some.inj (hx.symm.trans hy)
        exact refers e (h e he)
      · obtain ⟨y, hy, h⟩ := hv v hn
        obtain rfl := Option.some.inj (hx.symm.trans hy)
        exact refers e (h e he)
  case binds =>
    rintro b (⟨q, y, hy, rfl⟩ | ⟨f, y, hy, rfl⟩ | ⟨tk, htk, hb⟩)
    · by_cases hq : n = some (.proxy q)
      · obtain ⟨z, hz, -, h⟩ := hp q hq
        obtain rfl := Option.some.inj (hy.symm.trans hz)
        exact h
      · obtain ⟨x, hx, e⟩ := exists_of_map_eq (hf.proxy q hq) hy
        exact Or.inl (Or.inl ⟨q, x, hx, (ProxyState.core_eq_iff.1 e).2.1.symm⟩)
    · exact Or.inl (Or.inr (Or.inl ⟨f, y, by rwa [Store.form?, ← hf.forms], rfl⟩))
    · rcases ht tk htk with h | h
      · exact Or.inl (Or.inr (Or.inr ⟨tk, h, hb⟩))
      · exact Or.inr (h.2 b hb)

theorem Closed.task {s : Store H} {tk : Task H} {ts : List (Task H)} {held : List Entity}
    (h : Closed ⟨s, tk :: ts, held⟩) : tk.Closed s :=
  ⟨fun e he => h.alive e (Or.inr (Or.inl ⟨tk, by simp, he⟩)),
    fun b hb => h.knows b (Or.inr (Or.inr ⟨tk, by simp, hb⟩))⟩

section

variable {t : Store H} {ts : List (Task H)}

/-- A change that leaves the nodes alone keeps a situation in order. -/
theorem Ordered.frame_none (h : c.Ordered) (hf : Store.Frame none r c.store t)
    (ht : ∀ tk ∈ ts, tk ∈ c.tasks ∨ tk.Closed t) : Ordered ⟨t, ts, c.held⟩ where
  toClosed := h.toClosed.frame hf nofun nofun ht
  ledger p := (h.ledger p).frame hf nofun
  hearing v := (h.hearing v).frame hf nofun fun _ => h.watched

/-- A change of a proxy keeps a situation in order if the proxy speaks only of what is alive and
    known, and its notes are in order. -/
theorem Ordered.frame_proxy {p : ProxyId} {x : ProxyState H} (h : c.Ordered)
    (hf : Store.Frame (some (.proxy p)) r c.store t) (hx : t.proxy? p = some x)
    (he : ∀ e ∈ x.entities, c.store.Refers e ∨ t.Alive e)
    (hb : c.Binds x.binding ∨ t.Knows x.binding) (hl : t.Ledger p)
    (ht : ∀ tk ∈ ts, tk ∈ c.tasks ∨ tk.Closed t) : Ordered ⟨t, ts, c.held⟩ where
  toClosed := h.toClosed.frame hf (fun q e => by cases e; exact ⟨x, hx, he, hb⟩) nofun ht
  ledger q := by
    by_cases hq : q = p
    · exact hq ▸ hl
    · exact (h.ledger q).frame hf fun e => hq (by cases e; rfl)
  hearing v := (h.hearing v).frame hf nofun fun _ => h.watched

/-- A change of a validator keeps a situation in order if the validator speaks only of what is
    alive, and its notes are in order. -/
theorem Ordered.frame_validator {v : ValidatorId} {x : ValidatorState H} (h : c.Ordered)
    (hf : Store.Frame (some (.validator v)) r c.store t) (hx : t.validator? v = some x)
    (he : ∀ e ∈ x.entities, c.store.Refers e ∨ t.Alive e) (hh : t.Hearing v)
    (ht : ∀ tk ∈ ts, tk ∈ c.tasks ∨ tk.Closed t) : Ordered ⟨t, ts, c.held⟩ where
  toClosed := h.toClosed.frame hf nofun (fun w e => by cases e; exact ⟨x, hx, he⟩) ht
  ledger p := (h.ledger p).frame hf nofun
  hearing w := by
    by_cases hw : w = v
    · exact hw ▸ hh
    · exact (h.hearing w).frame hf (fun e => hw (by cases e; rfl)) fun _ => h.watched

end

/-! ## Tasks -/

theorem refers_of_proxy {s : Store H} {p : ProxyId} {x : ProxyState H} (hx : s.proxy? p = some x) :
    ∀ e ∈ x.entities, s.Refers e := fun _ he => Or.inr (Or.inl ⟨p, x, hx, he⟩)

theorem refers_of_validator {s : Store H} {v : ValidatorId} {x : ValidatorState H}
    (hx : s.validator? v = some x) : ∀ e ∈ x.entities, s.Refers e :=
  fun _ he => Or.inr (Or.inr (Or.inl ⟨v, x, hx, he⟩))

/-- The value of a source speaks only of what is alive, if the source does. -/
theorem Closed.sourceValue (h : c.Closed) (b : Binding) {source : ProxySource}
    (hs : ∀ v, source = .constant v → ∀ e ∈ v.entities, c.store.Alive e) :
    ∀ e ∈ (c.store.sourceValue b source).entities, c.store.Alive e := by
  cases source with
  | constant v => exact hs v rfl
  | template ev t =>
    intro e he
    obtain ⟨i, hi, rfl⟩ := List.mem_map.1 he
    exact ev.objects_valueOf (fun o name v hv => h.sealed.property hv) t.root i hi

section

variable {s t : Store H} {tk : Task H} {new ts : List (Task H)} {held : List Entity}

/-- The tasks after one has been performed are those that were left, and those that it puts first. -/
theorem mem_or_closed (hn : ∀ tk' ∈ new, tk'.Closed t) :
    ∀ tk' ∈ new ++ ts, tk' ∈ tk :: ts ∨ tk'.Closed t := by
  intro tk' h
  rcases List.mem_append.1 h with h | h
  · exact Or.inr (hn tk' h)
  · exact Or.inl (List.mem_cons_of_mem _ h)

/-- A task that changes a guard, and puts tasks first that are about the same node. -/
theorem Ordered.perform_setGuard {m : Node} (h : Ordered ⟨s, tk :: ts, held⟩)
    (hm : m.entity ∈ tk.entities) (g : Guard)
    (hn : ∀ tk' ∈ new, tk'.entities = [m.entity] ∧ tk'.binding? = none) :
    Ordered ⟨s.setGuard m g, new ++ ts, held⟩ := by
  have hf := Store.Frame.setGuard (n := none) (s := s) m g
  have alive := hf.alive_iff_of_none.2 (h.task.1 m.entity hm)
  refine h.frame_none hf (mem_or_closed ?_)
  intro tk' h'
  obtain ⟨he, hb⟩ := hn tk' h'
  exact .of_node alive he hb

/-- A proxy that shows a new value tells of it. -/
theorem Ordered.perform_update {p : ProxyId} {x : ProxyState H} {v : Value}
    (h : Ordered ⟨s, tk :: ts, held⟩) (hx : s.proxy? p = some x)
    (hv : v = s.sourceValue x.binding x.source) :
    Ordered ⟨s.replaceValue p v, [(s.replaceValue p v).roundOf (.value p v)] ++ ts, held⟩ := by
  have hy := Store.proxy?_modifyProxy_self hx fun x =>
    { x with cached := v, generation := x.generation + 1 }
  have hf : Store.Frame (some (.proxy p)) none s (s.replaceValue p v) :=
    .replaceValue (Store.suits_sourceValue hx hv)
  have known : (s.replaceValue p v).Alive (.proxy p) := Option.isSome_iff_exists.2 ⟨_, hy⟩
  have alive : ∀ e, s.Alive e → (s.replaceValue p v).Alive e := fun e => hf.alive_of_some known
  -- a constant keeps the objects of its value, a template is worked out from what is alive
  have source : ∀ w, x.source = .constant w → ∀ e ∈ w.entities, s.Refers e := by
    intro w hw e he
    exact refers_of_proxy hx e (by simp [ProxyState.entities, hw, he])
  have value : ∀ e ∈ v.entities, s.Alive e := by
    rw [hv]
    refine h.sourceValue x.binding ?_
    intro w hw e he
    exact h.alive e (Or.inr (Or.inr (source w hw e he)))
  have ledger : (s.replaceValue p v).Ledger p :=
    (h.ledger p).modifyProxy (fun _ => rfl) (fun _ => rfl) fun _ => rfl
  refine h.frame_proxy hf hy ?entities (Or.inl (Or.inl ⟨p, x, hx, rfl⟩)) ledger
    (mem_or_closed ?round)
  case entities =>
    intro e he
    rcases List.mem_append.1 he with he | he
    · exact Or.inr (alive e (value e he))
    · exact Or.inl (refers_of_proxy hx e (List.mem_append.2 (Or.inr he)))
  case round =>
    intro tk' h'
    obtain rfl := List.mem_singleton.1 h'
    refine .of_unbound ?_ rfl
    intro e he
    rcases List.mem_cons.1 he with rfl | he
    · exact known
    · exact alive e (value e he)

/-- A proxy is bound to other objects. -/
theorem Ordered.perform_bind {b : Binding} {p : ProxyId} {ps : List ProxyId} {x : ProxyState H}
    (h : Ordered ⟨s, .rebind b (p :: ps) :: ts, held⟩) (hx : s.proxy? p = some x)
    (hd : x.disposed = false) :
    Ordered ⟨s.bindProxy p b, [.recompute (.proxy p) true, .rebind b ps] ++ ts, held⟩ := by
  obtain ⟨htk, hbk⟩ := h.task
  obtain ⟨ws, hy, -, hl⟩ := Store.bindProxy_spec hx hd h.sealed (h.ledger p).toNoted b
  have hf := Store.frame_bindProxy (r := none) (h.ledger p).toNoted b
  have known : (s.bindProxy p b).Alive (.proxy p) := Option.isSome_iff_exists.2 ⟨_, hy⟩
  refine h.frame_proxy hf hy (fun e he => Or.inl (refers_of_proxy hx e he))
    (Or.inl (Or.inr (Or.inr ⟨_, List.mem_cons_self .., rfl⟩))) hl (mem_or_closed ?_)
  intro tk' h'
  rcases List.mem_pair.1 h' with rfl | rfl
  · exact .of_node (m := .proxy p) known rfl rfl
  · refine ⟨?entities, ?binding⟩
    case entities =>
      intro e he
      exact hf.alive_of_some known (htk e (List.mem_cons_of_mem _ he))
    case binding =>
      intro b' hb'
      exact hf.later.knows (hbk b' hb')

/-- Performing a task keeps a situation in order. -/
theorem Ordered.perform (h : Ordered ⟨s, tk :: ts, held⟩) (hp : tk.Performs ev s t new) :
    Ordered ⟨t, new ++ ts, held⟩ := by
  have idle : (∀ tk' ∈ new, tk'.Closed s) → t = s → Ordered ⟨t, new ++ ts, held⟩ := by
    rintro hn rfl
    exact h.frame_none (.refl (r := none) t) (mem_or_closed hn)
  obtain ⟨htk, hbk⟩ := h.task
  cases hp with
  | close | ignore | refuse | keep | gone | goneExtra | bound =>
    exact idle (List.forall_mem_nil _) rfl
  | tell =>
    refine idle ?_ rfl
    intro tk' h'
    rcases List.mem_pair.1 h' with rfl | rfl
    · exact .of_unbound htk rfl
    · exact .of_unbound htk rfl
  | miss =>
    refine idle ?_ rfl
    intro tk' h'
    obtain rfl := List.mem_singleton.1 h'
    exact .of_unbound htk rfl
  | @follow p x e hx hd =>
    obtain ⟨hf, ws, hy, -, hl⟩ := Store.follow_spec (r := none) hx hd h.sealed (h.ledger p)
    refine h.frame_proxy hf hy (fun e he => Or.inl (refers_of_proxy hx e he))
      (Or.inl (Or.inl ⟨p, x, hx, rfl⟩)) hl (mem_or_closed ?_)
    intro tk' h'
    obtain rfl := List.mem_singleton.1 h'
    exact .of_node (m := .proxy p) (Option.isSome_iff_exists.2 ⟨_, hy⟩) rfl rfl
  | @heed v x e hx hd =>
    refine idle ?_ rfl
    intro tk' h'
    obtain rfl := List.mem_singleton.1 h'
    exact .of_node (m := .validator v) (Option.isSome_iff_exists.2 ⟨_, hx⟩) rfl rfl
  | @request m force g hd hg =>
    refine h.perform_setGuard (m := m) (by simp [Task.entities]) _ ?_
    intro tk' h'
    split at h'
    · rcases List.mem_pair.1 h' with rfl | rfl
      · exact ⟨rfl, rfl⟩
      · exact ⟨rfl, rfl⟩
    · cases h'
  | update hx hd hv => exact h.perform_update hx hv
  | @judge v x r force hx hr =>
    have hy := Store.validator?_modifyValidator_self hx fun x => { x with result := r }
    refine h.frame_validator (Store.Frame.replaceResult (r := none) v r) hy
      (fun e he => Or.inl (refers_of_validator hx e he)) ((h.hearing v).replaceResult r)
      (mem_or_closed ?_)
    intro tk' h'
    split at h'
    · cases h'
    · obtain rfl := List.mem_singleton.1 h'
      exact .of_node (m := .validator v) (Option.isSome_iff_exists.2 ⟨_, hy⟩) rfl rfl
  | @again m | @extra m =>
    refine h.perform_setGuard (m := m) (by simp [Task.entities]) _ ?_
    intro tk' h'
    rcases List.mem_pair.1 h' with rfl | rfl
    · exact ⟨rfl, rfl⟩
    · exact ⟨rfl, rfl⟩
  | @stop m k g g' o hg hp =>
    exact h.frame_none ((Store.Frame.setGuard m g').trans (.noteOutcome m o))
      (mem_or_closed (List.forall_mem_nil _))
  | @stopExtra m k g hg =>
    exact h.frame_none ((Store.Frame.setGuard m _).trans (.noteOutcome m _))
      (mem_or_closed (List.forall_mem_nil _))
  | pass =>
    refine idle ?_ rfl
    intro tk' h'
    obtain rfl := List.mem_singleton.1 h'
    exact ⟨fun e he => htk e (List.mem_cons_of_mem _ he), hbk⟩
  | bind hx hd => exact h.perform_bind hx hd

end

/-! ## Steps -/

/-- To make objects keeps a situation in order. -/
theorem Ordered.build {s t : Store H} {ts : List (Task H)} {held : List Entity}
    (h : Ordered ⟨s, ts, held⟩) (hb : s.Builds t) : Ordered ⟨t, ts, held⟩ where
  toClosed := by
    refine h.toClosed.of ?keeps (fun e _ => hb.alive) ?binds hb.later
    case keeps =>
      rintro e (he | he | he)
      · exact Or.inl (Or.inl he)
      · exact Or.inl (Or.inr (Or.inl he))
      · exact (hb.refers he).imp_left fun he => Or.inr (Or.inr he)
    case binds =>
      intro b hb'
      exact Or.inl (by simpa only [Binds, Store.proxy?, Store.form?, hb.proxies, hb.forms] using hb')
  ledger p := (h.ledger p).congr (by simp only [Store.proxy?, hb.proxies])
    (fun _ _ _ => hb.subscribed.1) hb.later
  hearing v := (h.hearing v).of_eq hb.proxies hb.validators

/-- A change of a property keeps a situation in order. -/
theorem Ordered.change {s : Store H} {ts : List (Task H)} {held : List Entity} {o : ObjectId}
    {name : String} {f : ObjectState H → ObjectState H} (h : Ordered ⟨s, ts, held⟩)
    (ho : s.Lives o) (hf : s.Touches name f) :
    Ordered ⟨s.modifyObject o f, (s.modifyObject o f).roundOf (.property o name) :: ts, held⟩ where
  toClosed := by
    refine h.toClosed.of ?keeps (fun e _ => Store.alive_modifyObject.2) ?binds hf.later
    case keeps =>
      rintro e (he | ⟨tk, htk, he⟩ | he)
      · exact Or.inl (Or.inl he)
      · rcases List.mem_cons.1 htk with rfl | htk
        · obtain rfl := List.mem_singleton.1 he
          exact Or.inr (Store.lives_modifyObject.2 ho)
        · exact Or.inl (Or.inr (Or.inl ⟨tk, htk, he⟩))
      · exact (hf.refers he).imp (fun he => Or.inr (Or.inr he)) Store.alive_modifyObject.2
    case binds =>
      rintro b (hb | hb | ⟨tk, htk, hb⟩)
      · exact Or.inl (Or.inl hb)
      · exact Or.inl (Or.inr (Or.inl hb))
      · rcases List.mem_cons.1 htk with rfl | htk
        · cases hb
        · exact Or.inl (Or.inr (Or.inr ⟨tk, htk, hb⟩))
  ledger p := (h.ledger p).congr rfl (fun _ _ _ => hf.subscribed.1) hf.later
  hearing v := (h.hearing v).of_eq rfl rfl

/-- To take away what nobody holds keeps a situation closed. -/
theorem Closed.drop {t : Store H} {e : Entity} (h : c.Closed) (hn : ¬ c.Keeps e)
    (ha : ∀ e', e' ≠ e → c.store.Alive e' → t.Alive e')
    (hr : ∀ e', t.Refers e' → c.store.Refers e')
    (hp : ∀ p y, t.proxy? p = some y → ∃ x, c.store.proxy? p = some x ∧ x.binding = y.binding)
    (hf : ∀ f x, t.form? f = some x → c.store.form? f = some x) (hl : c.store.Later t) :
    Closed ⟨t, c.tasks, c.held⟩ := by
  refine h.of ?keeps ?alive ?binds hl
  case keeps =>
    intro e' he
    exact Or.inl (he.imp_right fun he => he.imp_right (hr e'))
  case alive =>
    intro e' hk
    have he : e' ≠ e := by
      rintro rfl
      exact hn hk
    exact ha e' he
  case binds =>
    rintro b (⟨p, y, hy, rfl⟩ | ⟨f, x, hx, hb⟩ | hb)
    · obtain ⟨x, hx, e⟩ := hp p y hy
      exact Or.inl (Or.inl ⟨p, x, hx, e⟩)
    · exact Or.inl (Or.inr (Or.inl ⟨f, x, hf f x hx, hb⟩))
    · exact Or.inl (Or.inr (Or.inr hb))

/-- To take away a node that nobody holds keeps a situation closed. -/
theorem Closed.drop_node {t : Store H} {m : Node} (h : c.Closed) (hn : ¬ c.Keeps m.entity)
    (hf : Store.Frame (some m) r c.store t) (hm : ¬ t.Alive m.entity) :
    Closed ⟨t, c.tasks, c.held⟩ := by
  refine h.drop hn ?alive ?refers ?proxies ?forms hf.later
  case alive =>
    intro e he ha
    refine (hf.alive_iff ?_).2 ha
    rintro m' hm'
    cases hm'
    exact he
  case refers =>
    intro e he
    rcases hf.refers he with he | ⟨p, x, e, hx, -⟩ | ⟨v, x, e, hx, -⟩
    · exact he
    · cases e
      exact absurd (Option.isSome_iff_exists.2 ⟨x, hx⟩) hm
    · cases e
      exact absurd (Option.isSome_iff_exists.2 ⟨x, hx⟩) hm
  case proxies =>
    intro p y hy
    have hp : some m ≠ some (.proxy p) := by
      intro e
      cases e
      exact hm (Option.isSome_iff_exists.2 ⟨y, hy⟩)
    obtain ⟨x, hx, e⟩ := exists_of_map_eq (hf.proxy p hp) hy
    exact ⟨x, hx, (ProxyState.core_eq_iff.1 e).2.1.symm⟩
  case forms =>
    intro f x hx
    rwa [Store.form?, ← hf.forms]

section

variable {s : Store H} {ts : List (Task H)} {held : List Entity}

theorem Ordered.drop_object {o : ObjectId} (h : Ordered ⟨s, ts, held⟩)
    (hn : ¬ Keeps ⟨s, ts, held⟩ (.object o)) : Ordered ⟨s.drop (.object o), ts, held⟩ where
  toClosed := by
    refine h.toClosed.drop hn ?alive ?refers ?proxies (fun f x hx => hx) (Store.later_drop_object o)
    case alive =>
      intro e he ha
      cases e with
      | object o' =>
        have ho : o' ≠ o := fun e => he (by rw [e])
        rw [Store.Alive, Store.Lives, Store.object?_drop, if_neg ho]
        exact ha
      | proxy p => exact ha
      | validator v => exact ha
      | form f => exact ha
    case refers =>
      rintro e (⟨o', x, hx, he⟩ | he)
      · rw [Store.object?_drop] at hx
        split at hx
        · cases hx
        · exact Or.inl ⟨o', x, hx, he⟩
      · exact Or.inr he
    case proxies =>
      intro p y hy
      exact ⟨y, hy, rfl⟩
  ledger p := (h.ledger p).congr rfl (fun _ _ _ => Store.subscribed_of_drop_object)
    (Store.later_drop_object o)
  hearing v := (h.hearing v).of_eq rfl rfl

theorem Ordered.drop_proxy {p : ProxyId} (h : Ordered ⟨s, ts, held⟩)
    (hn : ¬ Keeps ⟨s, ts, held⟩ (.proxy p)) : Ordered ⟨s.drop (.proxy p), ts, held⟩ := by
  obtain ⟨hf, hx, hl⟩ := Store.drop_proxy_spec (h.ledger p)
  refine ⟨?closed, ?ledger, ?hearing⟩
  case closed =>
    exact h.toClosed.drop_node (m := .proxy p) hn hf (by simp [Node.entity, Store.Alive, hx])
  case ledger =>
    intro q
    by_cases hq : q = p
    · rw [hq]
      exact hl
    · exact (h.ledger q).frame hf fun e => hq (by cases e; rfl)
  case hearing =>
    intro v
    exact (h.hearing v).frame hf (by simp) fun _ => h.watched

theorem Ordered.drop_validator {v : ValidatorId} (h : Ordered ⟨s, ts, held⟩)
    (hn : ¬ Keeps ⟨s, ts, held⟩ (.validator v)) : Ordered ⟨s.drop (.validator v), ts, held⟩ := by
  obtain ⟨hf, hx, hh⟩ := Store.drop_validator_spec (h.hearing v)
  refine ⟨?closed, ?ledger, ?hearing⟩
  case closed =>
    exact h.toClosed.drop_node (m := .validator v) hn hf (by simp [Node.entity, Store.Alive, hx])
  case ledger =>
    intro q
    exact (h.ledger q).frame hf (by simp)
  case hearing =>
    intro w
    by_cases hw : w = v
    · rw [hw]
      exact hh
    · exact (h.hearing w).frame hf (fun e => hw (by cases e; rfl)) fun _ => h.watched

theorem Ordered.drop_form {f : FormId} (h : Ordered ⟨s, ts, held⟩)
    (hn : ¬ Keeps ⟨s, ts, held⟩ (.form f)) : Ordered ⟨s.drop (.form f), ts, held⟩ := by
  have hl : s.Later (s.drop (.form f)) := .of_forms (.remove FormState.Later.refl _) rfl rfl rfl
  have get : ∀ f', (s.drop (.form f)).form? f' = if f' = f then none else s.form? f' := by
    intro f'
    simp only [Store.drop, Store.form?, Roster.get?_remove, FormId.index_inj]
  have back : ∀ f' x, (s.drop (.form f)).form? f' = some x → s.form? f' = some x := by
    intro f' x hx
    rw [get] at hx
    split at hx
    · cases hx
    · exact hx
  refine ⟨?closed, ?ledger, ?hearing⟩
  case closed =>
    refine h.toClosed.drop hn ?alive ?refers (fun p y hy => ⟨y, hy, rfl⟩) back hl
    case alive =>
      intro e he ha
      cases e with
      | object o => exact ha
      | proxy p => exact ha
      | validator v => exact ha
      | form f' =>
        have hf : f' ≠ f := fun e => he (by rw [e])
        rw [Store.Alive, get, if_neg hf]
        exact ha
    case refers =>
      rintro e (he | he | he | ⟨f', x, hx, he⟩)
      · exact Or.inl he
      · exact Or.inr (Or.inl he)
      · exact Or.inr (Or.inr (Or.inl he))
      · exact Or.inr (Or.inr (Or.inr ⟨f', x, back f' x hx, he⟩))
  case ledger =>
    intro p
    exact (h.ledger p).congr rfl (fun _ _ _ => id) hl
  case hearing =>
    intro v
    exact (h.hearing v).of_eq rfl rfl

theorem Ordered.drop {e : Entity} (h : Ordered ⟨s, ts, held⟩) (hn : ¬ Keeps ⟨s, ts, held⟩ e) :
    Ordered ⟨s.drop e, ts, held⟩ := by
  cases e with
  | object o => exact h.drop_object hn
  | proxy p => exact h.drop_proxy hn
  | validator v => exact h.drop_validator hn
  | form f => exact h.drop_form hn

/-- To write into the list of forms keeps a situation in order if what the forms speak of is alive
    and known. -/
theorem Ordered.write_forms {fs : Roster FormState} (h : Ordered ⟨s, ts, held⟩)
    (hh : ∀ i x, fs.get? i = some x → (∀ e ∈ x.entities, s.Alive e) ∧ s.Knows x.binding)
    (hs : ∀ i, (s.forms.get? i).isSome → (fs.get? i).isSome)
    (hf : s.forms.Later FormState.Later fs) : Ordered ⟨{ s with forms := fs }, ts, held⟩ := by
  have hl : s.Later { s with forms := fs } := .of_forms hf rfl rfl rfl
  have alive : ∀ e, s.Alive e → Store.Alive { s with forms := fs } e := by
    intro e he
    cases e with
    | object o => exact he
    | proxy p => exact he
    | validator v => exact he
    | form f => exact hs f.index he
  refine ⟨?closed, ?ledger, ?hearing⟩
  case closed =>
    refine h.toClosed.of ?keeps (fun e _ => alive e) ?binds hl
    case keeps =>
      rintro e (he | he | he | he | he | ⟨f, x, hx, he⟩)
      · exact Or.inl (Or.inl he)
      · exact Or.inl (Or.inr (Or.inl he))
      · exact Or.inl (Or.inr (Or.inr (Or.inl he)))
      · exact Or.inl (Or.inr (Or.inr (Or.inr (Or.inl he))))
      · exact Or.inl (Or.inr (Or.inr (Or.inr (Or.inr (Or.inl he)))))
      · exact Or.inr (alive e ((hh f.index x hx).1 e he))
    case binds =>
      rintro b (hb | ⟨f, x, hx, rfl⟩ | hb)
      · exact Or.inl (Or.inl hb)
      · exact Or.inr (hh f.index x hx).2
      · exact Or.inl (Or.inr (Or.inr hb))
  case ledger =>
    intro p
    exact (h.ledger p).congr rfl (fun _ _ _ => id) hl
  case hearing =>
    intro v
    exact (h.hearing v).of_eq rfl rfl

end

/-- Every step keeps a situation in order. -/
theorem Ordered.step (h : c.Ordered) (hs : Step ev c d) : d.Ordered := by
  cases hs with
  | @hold s ts held held' hh =>
    refine ⟨h.toClosed.of ?_ (fun e _ => id) (fun b => Or.inl) (.refl s), h.ledger, h.hearing⟩
    rintro e (he | he)
    · exact Or.inr (hh e he)
    · exact Or.inl (Or.inr he)
  | build hb => exact h.build hb
  | change ho hf => exact h.change ho hf
  | handle hf => exact h.frame_none hf fun _ => Or.inl
  | @newProxy s ts held source b limit hh hb =>
    obtain ⟨hf, ws, hy, -, hl⟩ := Store.newProxy_spec source b limit h.sealed (h.ledger _)
    refine h.frame_proxy hf hy ?_ (Or.inr (hf.later.knows hb)) hl fun _ => Or.inl
    intro e he
    refine Or.inr (hf.alive_of_some (Option.isSome_iff_exists.2 ⟨_, hy⟩) ?_)
    rcases List.mem_append.1 he with he | he
    · exact h.sourceValue b hh e he
    · cases source with
      | constant v => exact hh v rfl e he
      | template ev t => cases he
  | @disposeProxy s ts held p =>
    cases hx : s.proxy? p with
    | none =>
      rwa [Store.disposeProxy_of_none hx]
    | some x =>
      obtain ⟨hf, y, hy, e, hl⟩ := Store.disposeProxy_spec (r := none) hx (h.ledger p)
      obtain ⟨es, eb, ec, -, -⟩ := ProxyState.core_eq_iff.1 e
      refine h.frame_proxy hf hy ?_ (Or.inl (Or.inl ⟨p, x, hx, eb.symm⟩)) hl fun _ => Or.inl
      intro e he
      rw [ProxyState.entities, es, ec] at he
      exact Or.inl (refers_of_proxy hx e he)
  | @newValidator s ts held field rules limit hh =>
    obtain ⟨hf, ⟨ws, hy⟩, hv⟩ := Store.newValidator_spec ev field rules limit hh
    refine h.frame_validator hf hy ?_ hv fun _ => Or.inl
    intro e he
    obtain ⟨p, hp, rfl⟩ := List.mem_map.1 he
    exact Or.inr (hf.alive_of_some (Option.isSome_iff_exists.2 ⟨_, hy⟩) (hh p hp))
  | @disposeValidator s ts held v =>
    cases hx : s.validator? v with
    | none =>
      rwa [Store.disposeValidator_of_none hx]
    | some x =>
      obtain ⟨hf, y, hy, -, ef, er, hh⟩ := Store.disposeValidator_spec (r := none) hx (h.hearing v)
      refine h.frame_validator hf hy ?_ hh fun _ => Or.inl
      intro e he
      rw [ValidatorState.entities, ef, er] at he
      exact Or.inl (refers_of_validator hx e he)
  | form hh hs hf => exact h.write_forms hh hs hf
  | @ask s ts held force m hm =>
    refine h.frame_none (.refl (r := none) s) ?_
    intro tk htk
    rcases List.mem_cons.1 htk with rfl | htk
    · exact Or.inr (.of_node hm rfl rfl)
    · exact Or.inl htk
  | @rebind s ts held b ps hp hb =>
    refine h.frame_none (.refl (r := none) s) ?_
    intro tk htk
    rcases List.mem_cons.1 htk with rfl | htk
    · refine Or.inr ⟨?entities, ?binding⟩
      case entities =>
        intro e he
        obtain ⟨p, hp', rfl⟩ := List.mem_map.1 he
        exact hp p hp'
      case binding =>
        intro b' hb'
        cases hb'
        exact hb
    · exact Or.inl htk
  | perform hp => exact h.perform hp
  | drop e hn => exact h.drop hn

end Situation

end LiveForm
