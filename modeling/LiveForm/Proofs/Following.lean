/-
  Proxies follow the objects that they are computed from.

  In the middle of the work a proxy may show an old value, and its subscriptions may be to the wrong
  objects, but then it is still to be told of a change, or has asked to be computed anew.

  * `Situation.Follows`: what a proxy shows and watches is as it should be, or one of these;
  * `Follows.step`: every step preserves that.
-/
import LiveForm.Proofs.Telling

namespace LiveForm

variable {H : Type}

namespace Store

variable {s t : Store H} {p : ProxyId} {x y : ProxyState H}

theorem watchesOf_eq (hc : t.contents = s.contents) (hs : y.source = x.source)
    (hb : y.binding = x.binding) : t.watchesOf y = s.watchesOf x := by
  rw [watchesOf_congr hc, watchesOf, watchesOf, hs, hb]

/-- A proxy stays attached as long as it watches the same and is subscribed to it. -/
theorem Attached.congr (h : s.Attached p x) (hw : t.watchesOf y = s.watchesOf x)
    (hy : y.subscriptions = x.subscriptions)
    (hs : ∀ z ∈ s.watchesOf x, ∀ k, s.Subscribed p z.1 k z.2 → t.Subscribed p z.1 k z.2) :
    t.Attached p y := by
  rw [Attached, hy, hw]
  unfold Attached at h
  generalize x.subscriptions = ws, s.watchesOf x = zs at h hs
  induction h with
  | nil => exact .nil
  | @cons w z ws zs hz _ ih =>
    refine .cons ⟨hz.1, ?_⟩ (ih fun z' hz' => hs z' (List.mem_cons_of_mem _ hz'))
    obtain ⟨e, hz⟩ := hz
    rw [e] at hz ⊢
    exact hs z (List.mem_cons_self ..) w.2 hz

theorem root_scope_of_holds {b : Binding} (hs : s.Holds b) (ht : t.Holds b) :
    (t.scope b).root = (s.scope b).root :=
  root_scope_congr fun r o ho => iff_of_true (ht r o ho) (hs r o ho)

/-- Where it is the same with all that is watched, no more and no less is watched, and the value is
    the same. -/
theorem watchesOf_agree (hs : s.Holds x.binding) (ht : t.Holds x.binding)
    (h : ∀ z ∈ s.watchesOf x, t.property z.1 z.2 = s.property z.1 z.2) :
    t.watchesOf x = s.watchesOf x ∧
      t.sourceValue x.binding x.source = s.sourceValue x.binding x.source := by
  have hr := root_scope_of_holds hs ht
  unfold watchesOf at h ⊢
  cases hx : x.source with
  | constant v => exact ⟨rfl, rfl⟩
  | template ev t =>
    rw [hx] at h
    exact ⟨Scope.watches_congr hr h, Scope.valueOf_congr ev hr h⟩

theorem watchesOf_eq_of_not_nested (hr : (t.scope x.binding).root = (s.scope x.binding).root)
    (hn : x.source.isNested = false) : t.watchesOf x = s.watchesOf x := by
  unfold watchesOf
  unfold ProxySource.isNested at hn
  cases hx : x.source with
  | constant v => rfl
  | template ev t =>
    rw [hx] at hn
    exact Scope.watches_eq_of_not_nested hr hn

/-- Objects among which properties do not lead outside and to which a proxy is bound are all that it
    watches. -/
theorem watchesOf_closed {P : ObjectId → Prop}
    (closed : ∀ o name r, P o → s.property o name = some (.object r) → P r.id)
    (root : ∀ r o, x.binding.root r = some o → P o) : ∀ z ∈ s.watchesOf x, P z.1 := by
  unfold watchesOf
  split
  · nofun
  · exact Scope.watches_closed closed fun r o ho => root r o (scope_root_eq_some_iff.1 ho).1

theorem Holds.congr {b : Binding} (hc : t.contents = s.contents) : t.Holds b ↔ s.Holds b :=
  forall_congr' fun _ => forall_congr' fun _ => forall_congr' fun _ => lives_congr hc

end Store

namespace Situation

variable {ev : Evaluator} {c d : Situation H} {n r : Option Node} {p : ProxyId} {x : ProxyState H}

/-- A proxy that is not disposed of, and whose objects are alive, watches what it should and shows
    what it should, or it will. -/
def Follows (ev : Evaluator) (c : Situation H) (p : ProxyId) : Prop :=
  ∀ x, c.store.proxy? p = some x → x.disposed = false → c.store.Holds x.binding →
    c.store.Attached p x ∧
        (c.store.Fresh ev (.proxy p) ∨ c.Told (.proxy p) ∨ c.Asked (.proxy p)) ∨
      x.source.isNested ∧ c.Told (.proxy p)

theorem Follows.of_disposed (h : c.store.isDisposed (.proxy p)) : c.Follows ev p := by
  intro x hx hd
  simp [Store.isDisposed, hx, hd] at h

/-- A proxy goes on following as long as its objects are alive and it is the same with all that it
    watches. -/
theorem Follows.of_agree (h : c.Follows ev p)
    (core : (d.store.proxy? p).map ProxyState.core = (c.store.proxy? p).map ProxyState.core)
    (holds : ∀ x, c.store.proxy? p = some x → d.store.Holds x.binding → c.store.Holds x.binding)
    (agree : ∀ x, c.store.proxy? p = some x → d.store.Holds x.binding → ∀ z ∈ c.store.watchesOf x,
      d.store.property z.1 z.2 = c.store.property z.1 z.2 ∧
        ∀ k, c.store.Subscribed p z.1 k z.2 → d.store.Subscribed p z.1 k z.2)
    (told : c.store.isDisposed (.proxy p) = false → c.Told (.proxy p) → d.Told (.proxy p))
    (asked : c.store.isDisposed (.proxy p) = false → c.Asked (.proxy p) →
      d.store.Fresh ev (.proxy p) ∨ d.Told (.proxy p) ∨ d.Asked (.proxy p)) : d.Follows ev p := by
  intro y hy hd hb
  obtain ⟨x, hx, e⟩ := exists_of_map_eq core hy
  obtain ⟨es, eb, ec, ew, ed⟩ := ProxyState.core_eq_iff.1 e
  have hxd : c.store.isDisposed (.proxy p) = false := by simp [Store.isDisposed, hx, ← ed, hd]
  rw [eb] at hb
  have hz := agree x hx hb
  obtain ⟨hw, hv⟩ := Store.watchesOf_agree (holds x hx hb) hb fun z hm => (hz z hm).1
  rw [es]
  rcases h x hx (ed ▸ hd) (holds x hx hb) with ⟨ha, hf⟩ | ⟨hn, ht⟩
  · refine Or.inl ⟨?_, ?_⟩
    · exact ha.congr ((Store.watchesOf_eq rfl es eb).trans hw) ew fun z hm k => (hz z hm).2 k
    · rcases hf with hf | hf | hf
      · refine Or.inl ?_
        intro z hz
        obtain rfl := Option.some.inj (hy.symm.trans hz)
        rw [ec, es, eb, hv]
        exact hf x hx
      · exact Or.inr (Or.inl (told hxd hf))
      · exact asked hxd hf
  · exact Or.inr ⟨hn, told hxd ht⟩

/-- A proxy that is left alone goes on following. -/
theorem Follows.frame (h : c.Follows ev p) (hf : Store.Frame n r c.store d.store)
    (hn : n ≠ some (.proxy p))
    (told : c.store.isDisposed (.proxy p) = false → c.Told (.proxy p) → d.Told (.proxy p))
    (asked : c.store.isDisposed (.proxy p) = false → c.Asked (.proxy p) →
      d.store.Fresh ev (.proxy p) ∨ d.Told (.proxy p) ∨ d.Asked (.proxy p)) : d.Follows ev p := by
  refine h.of_agree (hf.proxy p hn) (fun x _ => (Store.Holds.congr hf.contents).1)
    (fun x _ _ z _ => ⟨?_, fun k => (hf.subscribed p hn _ k _).2⟩) told asked
  rw [Store.property_eq, Store.property_eq, hf.contents]

/-! ## Tasks -/

section

variable {s t : Store H} {tk : Task H} {new ts : List (Task H)} {held : List Entity}

/-- A proxy goes on following when a task is performed that is not about it. -/
theorem Follows.perform_other (ho : Ordered ⟨s, tk :: ts, held⟩)
    (hg : Guarded ⟨s, tk :: ts, held⟩ (.proxy p)) (h : Follows ev ⟨s, tk :: ts, held⟩ p)
    (hp : tk.Performs ev s t new) (hk : tk.subject? ≠ some (.proxy p)) :
    Follows ev ⟨t, new ++ ts, held⟩ p := by
  obtain ⟨r, hf⟩ := ho.frame_perform hp
  refine h.frame hf hk ?told ?asked
  case told =>
    intro _ ht
    refine ht.perform hp (fun _ _ => .of_subscribed fun o k m => (hf.subscribed p hk o k m).2) ?_
    rintro l e rfl hl
    exact hk (by rw [← hl]; rfl)
  case asked =>
    intro hd ha
    refine Or.inr (Or.inr ((ha.perform ho hg hp hd).resolve_right ?_))
    rintro ⟨force, rfl⟩
    exact hk rfl

/-- A proxy that has just been attached anew follows, since it asks to be computed. -/
theorem Follows.of_attached (hx : t.proxy? p = some x) (ha : t.Holds x.binding → t.Attached p x)
    {force : Bool} (hn : .recompute (.proxy p) force ∈ new) : Follows ev ⟨t, new ++ ts, held⟩ p := by
  intro y hy _ hb
  obtain rfl := Option.some.inj (hx.symm.trans hy)
  exact Or.inl ⟨ha hb, Or.inr (Or.inr (.of_mem _ hn rfl))⟩

/-- A proxy whose value has just been computed follows. -/
theorem Follows.of_fresh (h : Follows ev ⟨s, tk :: ts, held⟩ p) (hp : tk.Performs ev s t new)
    (hk : ∀ l e, tk ≠ .call l e) (hx : s.proxy? p = some x) {y : ProxyState H}
    (hy : t.proxy? p = some y) (hc : t.contents = s.contents)
    (hs : ∀ o k m, s.Subscribed p o k m → t.Subscribed p o k m)
    (he : y.source = x.source ∧ y.binding = x.binding ∧ y.subscriptions = x.subscriptions ∧
      y.disposed = x.disposed) (hf : t.Fresh ev (.proxy p)) :
    Follows ev ⟨t, new ++ ts, held⟩ p := by
  intro z hz hd hb
  obtain rfl := Option.some.inj (hy.symm.trans hz)
  obtain ⟨es, eb, ew, ed⟩ := he
  have hb : s.Holds x.binding := eb ▸ (Store.Holds.congr hc).1 hb
  rcases h x hx (ed ▸ hd) hb with ⟨ha, -⟩ | ⟨hn, ht⟩
  · refine Or.inl ⟨?_, Or.inl hf⟩
    exact ha.congr (Store.watchesOf_eq hc es eb) ew fun z _ k => hs z.1 k z.2
  · refine Or.inr ⟨es ▸ hn, ht.perform hp (fun _ _ => .of_subscribed hs) ?_⟩
    intro l e he _
    exact hk l e he

/-- Performing a task keeps proxies following. -/
theorem Follows.perform (ho : Ordered ⟨s, tk :: ts, held⟩)
    (hg : Guarded ⟨s, tk :: ts, held⟩ (.proxy p)) (h : Follows ev ⟨s, tk :: ts, held⟩ p)
    (hp : tk.Performs ev s t new) : Follows ev ⟨t, new ++ ts, held⟩ p := by
  by_cases hk : tk.subject? = some (.proxy p)
  · cases hp with
    | close | tell | miss | heed | request | refuse | judge | again | extra | stop | stopExtra
    | gone | goneExtra | bound => cases hk
    | ignore hd => exact .of_disposed (hd _ hk)
    | pass hd => cases hk; exact .of_disposed hd
    | @follow q x e hx hd =>
      cases hk
      obtain ⟨hf, ws, hy, ha, -⟩ := Store.follow_spec (r := none) hx hd ho.sealed (ho.ledger p)
      refine .of_attached hy (fun hb => ha ?_) (List.mem_cons_self ..)
      exact (h x hx hd ((Store.Holds.congr hf.contents).1 hb)).symm.imp And.left And.left
    | @bind b q ps x hx hd =>
      cases hk
      obtain ⟨ws, hy, ha, -⟩ := Store.bindProxy_spec hx hd ho.sealed (ho.ledger p).toNoted b
      exact .of_attached hy (fun _ => ha) (List.mem_cons_self ..)
    | @keep m force hm =>
      cases hk
      rcases hm with hm | hm
      · exact .of_disposed hm
      · intro x hx
        exact h.of_fresh (.keep (Or.inr hm)) (by simp) hx hx rfl (fun _ _ _ => id)
          ⟨rfl, rfl, rfl, rfl⟩ hm x hx
    | @update q x v force hx hd hv =>
      cases hk
      have hy := Store.proxy?_modifyProxy_self hx fun x =>
        { x with cached := v, generation := x.generation + 1 }
      refine h.of_fresh (.update hx hd hv) (by simp) hx hy rfl (fun _ _ _ => id)
        ⟨rfl, rfl, rfl, rfl⟩ ?_
      intro z hz
      obtain rfl := Option.some.inj (hy.symm.trans hz)
      have e : (s.replaceValue p v).sourceValue x.binding x.source = v :=
        (Store.sourceValue_congr rfl x.binding x.source).trans hv.symm
      show (v == (s.replaceValue p v).sourceValue x.binding x.source) = true
      rw [e]
      exact Value.same_refl v
  · exact h.perform_other ho hg hp hk

end

/-! ## Steps -/

/-- A proxy goes on following through a step that performs no task, as long as its objects are alive
    and it is the same with all that it watches. -/
theorem Follows.quiet (h : c.Follows ev p) (hq : Quiet c d)
    (core : (d.store.proxy? p).map ProxyState.core = (c.store.proxy? p).map ProxyState.core)
    (holds : ∀ x, c.store.proxy? p = some x → d.store.Holds x.binding → c.store.Holds x.binding)
    (agree : ∀ x, c.store.proxy? p = some x → d.store.Holds x.binding → ∀ z ∈ c.store.watchesOf x,
      d.store.property z.1 z.2 = c.store.property z.1 z.2 ∧
        ∀ k, c.store.Subscribed p z.1 k z.2 → d.store.Subscribed p z.1 k z.2)
    (told : c.Told (.proxy p) → d.Told (.proxy p)) : d.Follows ev p := by
  refine h.of_agree core holds agree (fun _ => told) ?_
  intro hd ha
  refine Or.inr (Or.inr ?_)
  obtain ⟨x, hx, -⟩ := Store.isDisposed_proxy_eq_false hd
  obtain ⟨y, hy, -⟩ := exists_of_map_eq core.symm hx
  exact ha.quiet hq (Option.isSome_iff_exists.2 ⟨y, hy⟩) (Option.isSome_iff_exists.2 ⟨x, hx⟩)

/-- A proxy that is left alone by a step that performs no task goes on following. -/
theorem Follows.quiet_frame (h : c.Follows ev p) (hq : Quiet c d)
    (hf : Store.Frame n r c.store d.store) (hn : n ≠ some (.proxy p)) : d.Follows ev p := by
  have hs : ∀ o k m, c.store.Subscribed p o k m → d.store.Subscribed p o k m :=
    fun o k m => (hf.subscribed p hn o k m).2
  refine h.quiet hq (hf.proxy p hn) (fun x _ => (Store.Holds.congr hf.contents).1) ?agree ?told
  case agree =>
    intro x _ _ z _
    refine ⟨?_, fun k => hs _ k _⟩
    rw [Store.property_eq, Store.property_eq, hf.contents]
  case told =>
    intro ht
    exact ht.mono hq.tasks fun _ _ => .of_subscribed hs

section

variable {s t : Store H} {ts : List (Task H)} {held : List Entity} {o : ObjectId} {name : String}
  {f : ObjectState H → ObjectState H}

/-- Objects that are made are not watched yet. -/
theorem Follows.build (ho : Ordered ⟨s, ts, held⟩) (h : Follows ev ⟨s, ts, held⟩ p)
    (hb : s.Builds t) (hq : Quiet ⟨s, ts, held⟩ ⟨t, ts, held⟩) : Follows ev ⟨t, ts, held⟩ p := by
  have hc : ∀ o, o.index < s.objects.next → t.object? o = s.object? o := hb.old
  refine h.quiet hq (by simp only [Store.proxy?, hb.proxies]) ?holds ?agree ?told
  case holds =>
    intro x hx hl r o hr
    have hk := ho.knows x.binding (Or.inl ⟨p, x, hx, rfl⟩)
    rw [Store.Lives, ← hc o (hk r o hr)]
    exact hl r o hr
  case agree =>
    intro x hx _ z hz
    have hz := (ho.sealed.lives_of_mem_watchesOf z hz).lt_next
    exact ⟨by simp only [Store.property, hc z.1 hz], fun k => hb.subscribed.2⟩
  case told =>
    intro ht
    exact ht.mono hq.tasks fun _ _ => .of_subscribed fun _ _ _ => hb.subscribed.2

/-- Who watches a property is told of a change of it. -/
theorem Told.change {x : ProxyState H} (hf : s.Touches name f) (ha : s.Attached p x)
    (hz : (o, name) ∈ s.watchesOf x) :
    Told ⟨s.modifyObject o f, (s.modifyObject o f).roundOf (.property o name) :: ts, held⟩
      (.proxy p) := by
  obtain ⟨k, -, hk⟩ := ha.exists_subscribed hz
  have hk := hf.subscribed (o := o).2 hk
  obtain ⟨y, hy, hn⟩ := id hk
  refine ⟨_, List.mem_cons_self .., k, ?_, name, hk⟩
  simp only [Store.subscribersOf, hy, List.mem_map, List.mem_filter]
  exact ⟨_, ⟨Roster.get?_eq_some_iff.1 hn, by simp⟩, rfl⟩

theorem Touches.property_of_ne (hf : s.Touches name f) {z : ObjectId × String} (hz : z ≠ (o, name)) :
    (s.modifyObject o f).property z.1 z.2 = s.property z.1 z.2 := by
  simp only [Store.property, Store.object?_modifyObject]
  split
  · next e =>
    have hm : z.2 ≠ name := fun e' => hz (Prod.ext e e')
    cases s.object? z.1 with
    | none => rfl
    | some x => exact hf.others x z.2 hm
  · rfl

/-- Who watches a property that changes is told; all others do not see the change. -/
theorem Follows.change (h : Follows ev ⟨s, ts, held⟩ p) (hf : s.Touches name f)
    (hq : Quiet ⟨s, ts, held⟩
      ⟨s.modifyObject o f, (s.modifyObject o f).roundOf (.property o name) :: ts, held⟩) :
    Follows ev ⟨s.modifyObject o f, (s.modifyObject o f).roundOf (.property o name) :: ts, held⟩
      p := by
  have hs : ∀ o' k m, s.Subscribed p o' k m → (s.modifyObject o f).Subscribed p o' k m :=
    fun _ _ _ => hf.subscribed.2
  have told : Told ⟨s, ts, held⟩ (.proxy p) →
      Told ⟨s.modifyObject o f, (s.modifyObject o f).roundOf (.property o name) :: ts, held⟩
        (.proxy p) := by
    intro ht
    exact ht.mono hq.tasks fun _ _ => .of_subscribed hs
  have holds : ∀ x : ProxyState H, (s.modifyObject o f).Holds x.binding → s.Holds x.binding := by
    intro x hl r o' hr
    exact Store.lives_modifyObject.1 (hl r o' hr)
  by_cases hw : ∃ x, s.proxy? p = some x ∧ (o, name) ∈ s.watchesOf x
  · obtain ⟨x, hx, hw⟩ := hw
    intro y hy hd hb
    obtain rfl := Option.some.inj (hx.symm.trans hy)
    rcases h x hx hd (holds x hb) with ⟨ha, -⟩ | ⟨hn, ht⟩
    · have ht : Told ⟨s.modifyObject o f, _ :: ts, held⟩ (.proxy p) := .change hf ha hw
      cases hn : x.source.isNested with
      | true => exact Or.inr ⟨rfl, ht⟩
      | false =>
        refine Or.inl ⟨ha.congr ?_ rfl fun z _ k => hs z.1 k z.2, Or.inr (Or.inl ht)⟩
        exact Store.watchesOf_eq_of_not_nested (Store.root_scope_of_holds (holds x hb) hb) hn
    · exact Or.inr ⟨hn, told ht⟩
  · refine h.quiet hq rfl (fun x _ => holds x) ?_ told
    intro x hx _ z hz
    have hz : z ≠ (o, name) := by
      rintro rfl
      exact hw ⟨x, hx, hz⟩
    exact ⟨Touches.property_of_ne hf hz, fun k => hs _ k _⟩

theorem subscribed_drop_object {o' : ObjectId} {k : Nat} {m : String} (hs : s.Subscribed p o' k m)
    (ho : o' ≠ o) : (s.drop (.object o)).Subscribed p o' k m := by
  rwa [Store.Subscribed, Store.object?_drop, if_neg ho]

/-- An object that is told of is held, so who is told stays told. -/
theorem Told.drop_object (ht : Told ⟨s, ts, held⟩ (.proxy p))
    (hn : ¬ Keeps ⟨s, ts, held⟩ (.object o)) : Told ⟨s.drop (.object o), ts, held⟩ (.proxy p) := by
  obtain ⟨tk, htk, ht⟩ := ht
  refine ⟨tk, htk, ?_⟩
  unfold Task.Tells at ht ⊢
  split at ht
  · exact ht
  · next e ks =>
    obtain ⟨k, hk, ht⟩ := ht
    refine ⟨k, hk, ?_⟩
    cases e with
    | property o' m =>
      obtain ⟨m', hs⟩ := ht
      refine ⟨m', subscribed_drop_object hs ?_⟩
      rintro rfl
      exact hn (Or.inr (Or.inl ⟨_, htk, by simp [Task.entities, Event.entities]⟩))
    | value q w => cases ht
    | result v r => cases ht
  · cases ht

/-- An object that nobody holds is watched only by proxies that are bound to it. -/
theorem Follows.drop_object (h : Follows ev ⟨s, ts, held⟩ p)
    (hn : ¬ Keeps ⟨s, ts, held⟩ (.object o))
    (hq : Quiet ⟨s, ts, held⟩ ⟨s.drop (.object o), ts, held⟩) :
    Follows ev ⟨s.drop (.object o), ts, held⟩ p := by
  have get : ∀ o', o' ≠ o → (s.drop (.object o)).object? o' = s.object? o' := by
    intro o' e
    rw [Store.object?_drop, if_neg e]
  have other : ∀ o', (s.drop (.object o)).Lives o' → o' ≠ o := by
    rintro o' hl rfl
    simp [Store.Lives, Store.object?_drop] at hl
  refine h.quiet hq rfl ?holds ?agree fun ht => ht.drop_object hn
  case holds =>
    intro x _ hl r o' hr
    rw [Store.Lives, ← get o' (other o' (hl r o' hr))]
    exact hl r o' hr
  case agree =>
    intro x hx hl z hz
    -- no way leads to the object, since nobody holds it
    have e : z.1 ≠ o := by
      refine Store.watchesOf_closed (P := (· ≠ o)) ?property ?root z hz
      case property =>
        intro o' m r _ hr e
        refine hn (Or.inr (Or.inr (Store.refers_of_property hr _ ?_)))
        simp [Value.entities, Value.objects, e]
      case root =>
        intro r o' hr
        exact other o' (hl r o' hr)
    exact ⟨by simp only [Store.property, get z.1 e], fun k hs => subscribed_drop_object hs e⟩

end

/-- Every step keeps proxies following. -/
theorem Follows.step (ho : c.Ordered) (hg : c.Guarded (.proxy p)) (h : c.Follows ev p)
    (hs : Step ev c d) : d.Follows ev p := by
  rcases hs.quiet ho with hq | ⟨s, t, tk, new, ts, held, rfl, rfl, hp⟩
  swap
  · exact h.perform ho hg hp
  cases hs with
  | hold | ask | rebind => exact h.quiet_frame hq (.refl (n := none) (r := none) _) nofun
  | build hb => exact h.build ho hb hq
  | change hl hf => exact h.change hf hq
  | handle hf => exact h.quiet_frame hq hf nofun
  | @newProxy s ts held source b limit hh hb =>
    obtain ⟨hf, ws, hy, ha, -⟩ := Store.newProxy_spec source b limit ho.sealed (ho.ledger _)
    by_cases hp : p = ⟨s.proxies.next⟩
    · subst hp
      intro y hy' _ _
      obtain rfl := Option.some.inj (hy.symm.trans hy')
      refine Or.inl ⟨ha, Or.inl ?_⟩
      intro z hz
      obtain rfl := Option.some.inj (hy.symm.trans hz)
      show (s.sourceValue b source ==
        (s.newProxy source b limit).1.sourceValue b source) = true
      rw [Store.sourceValue_congr hf.contents]
      exact Value.same_refl _
    · exact h.quiet_frame hq hf fun e => hp (by cases e; rfl)
  | @disposeProxy s ts held q =>
    by_cases hp : p = q
    · subst hp
      exact .of_disposed (Store.isDisposed_disposeProxy (ho.ledger p))
    · exact h.quiet_frame hq (Store.frame_disposeProxy (r := none) (ho.ledger q)) fun e =>
        hp (by cases e; rfl)
  | newValidator hh => exact h.quiet_frame hq (Store.newValidator_spec ev _ _ _ hh).1 nofun
  | disposeValidator v =>
    exact h.quiet_frame hq (Store.frame_disposeValidator (r := none) (ho.hearing v)) nofun
  | form =>
    exact h.quiet hq rfl (fun _ _ => id) (fun _ _ _ _ _ => ⟨rfl, fun _ => id⟩) fun ht =>
      ht.mono hq.tasks fun _ _ => .of_subscribed fun _ _ _ => id
  | perform hp => exact h.perform ho hg hp
  | @drop s ts held e hn =>
    cases e with
    | object o => exact h.drop_object hn hq
    | proxy q =>
      obtain ⟨hf, hx, -⟩ := Store.drop_proxy_spec (ho.ledger q)
      by_cases hp : p = q
      · subst hp
        intro y hy
        rw [hx] at hy
        cases hy
      · exact h.quiet_frame hq hf fun e => hp (by cases e; rfl)
    | validator v => exact h.quiet_frame hq (Store.drop_validator_spec (ho.hearing v)).1 nofun
    | form f =>
      exact h.quiet hq rfl (fun _ _ => id) (fun _ _ _ _ _ => ⟨rfl, fun _ => id⟩) fun ht =>
        ht.mono hq.tasks fun _ _ => .of_subscribed fun _ _ _ => id

end Situation

end LiveForm
