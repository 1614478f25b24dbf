/-
  A form is bound to other objects.

  The proxies of a form are bound to the new objects one after the other, each with a forced pass that
  tells its listeners, and the validators react while some proxies still show what the old objects say.
  As long as nothing is written, a proxy that has had its pass goes on showing what the new objects say.
  A validator is told of the last of its proxies when no run is in progress, so it is computed anew
  from what all of them show.

  * `Session.Rebinds`: how far a form has got, and which proxies are left; `Rebinds.step`: a step leads
    no proxy and no validator back;
  * `Session.Phase`: what is on the agenda on the way; `Rebinds.phase`: one phase leads to another;
  * `Offered.rebound`: in the end every proxy and every validator shows what it should.
-/
import LiveForm.Proofs.Heeding
import LiveForm.Proofs.Observing

namespace LiveForm

open Situation

/-- Only tasks that bind proxies to other objects lead to such tasks. -/
theorem Task.Performs.isRebind {H : Type} {ev : Evaluator} {s u : Store H} {tk : Task H}
    {new : List (Task H)} (h : tk.Performs ev s u new) (hk : tk.isRebind = false) :
    ∀ tk' ∈ new, tk'.isRebind = false := by
  cases h with
  | bound | pass | bind => cases hk
  | request | judge => split <;> simp [Task.isRebind, Store.roundOf]
  | _ => simp [Task.isRebind, Store.roundOf]

/-- Work from outside the store is the call of a handler, or no task at all. -/
theorem Work.task?_ne_of_outer {w : Work} (h : w.isOuter) {tk : Task Script} (hw : w.task? = some tk)
    (hf : ∀ f e, tk ≠ .call (.handler f) e) : False := by
  cases w with
  | script | reply => cases hw
  | task tk' =>
    cases hw
    unfold isOuter at h
    split at h
    · next e => exact hf _ _ (Work.task.inj e)
    · cases h
    · next e => cases e
    · next e => cases e

/-- What commands and handlers leave ends no pass. -/
theorem Work.IsAsk.settles {w : Work} (h : w.IsAsk) {tk : Task Script} (hw : w.task? = some tk)
    (n : Node) : tk.settles n = false := by
  cases w with
  | script | reply => cases hw
  | task tk' =>
    cases hw
    cases tk with
    | settle | settleExtra => cases h
    | _ => rfl

theorem head?_append_of_length_le {α : Type} {as bs : List α} {a : α} (h : as.length ≤ 1)
    (ha : a ∈ as) : a ∈ (as ++ bs).head? := by
  match as, h, ha with
  | [a'], _, ha => rw [List.mem_singleton.1 ha]; rfl

/-- At most the first piece of work is over. -/
theorem exists_rest {α : Type} {pre rest as : List α} {a : α} (h : pre ++ rest = a :: as)
    (hp : pre.length ≤ 1) : ∃ kept, rest = kept ++ as ∧ ∀ b ∈ kept, b = a := by
  match pre, hp with
  | [], _ => exact ⟨[a], h, fun b hb => List.mem_singleton.1 hb⟩
  | [_], _ => exact ⟨[], (List.cons.inj h).2, List.forall_mem_nil _⟩

namespace Store

variable {H : Type} {s : Store H}

theorem forms_detach (s : Store H) (p : ProxyId) : (s.detach p).forms = s.forms := by
  have unsubscribed : ∀ (ws : List (ObjectId × Nat)) (u : Store H),
      (u.unsubscribeAll ws).forms = u.forms := by
    unfold unsubscribeAll
    intro ws
    induction ws with
    | nil => exact fun u => rfl
    | cons w ws ih => exact fun u => ih _
  unfold detach
  split
  · rfl
  · exact unsubscribed ..

theorem forms_silence (s : Store H) (v : ValidatorId) : (s.silence v).forms = s.forms := by
  have unlistened : ∀ (ws : List (ProxyId × Nat)) (u : Store H),
      (u.unlistenAll ws).forms = u.forms := by
    unfold unlistenAll
    intro ws
    induction ws with
    | nil => exact fun u => rfl
    | cons w ws ih => exact fun u => ih _
  unfold silence
  split
  · rfl
  · exact unlistened ..

/-- A form that is left when something is taken away was there before. -/
theorem form?_of_drop {e : Entity} {f : FormId} {x : FormState} (h : (s.drop e).form? f = some x) :
    s.form? f = some x := by
  cases e with
  | object o => exact h
  | proxy p =>
    rwa [drop, form?, forms_detach] at h
  | validator v =>
    rwa [drop, form?, forms_silence] at h
  | form g =>
    rw [drop, form?, Roster.get?_remove] at h
    split at h
    · cases h
    · exact h

theorem form?_of_sweep {held : List Entity} {f : FormId} {x : FormState}
    (h : (s.sweep held).form? f = some x) : s.form? f = some x := by
  have upTo : ∀ (n : Nat) (u : Store H), (u.sweepUpTo held n).form? f = some x → u.form? f = some x := by
    intro n
    induction n with
    | zero => exact fun u => id
    | succ n ih =>
      intro u h
      rw [sweepUpTo] at h
      split at h
      · exact h
      · next e _ => exact form?_of_drop (ih _ h)
  exact upTo _ s h

end Store

namespace Session

variable {L : Licence Script} {s t : Session} {f : FormId} {x : FormState} {b : Binding}
  {left : List ProxyId} {p : ProxyId}

/-! ## Validators in a step -/

/-- A validator goes on heeding what it watches in a step that writes nothing, if none of that is
    disposed of and all of it shows what it should. -/
theorem Turn.heeds (ht : s.Turn L t) (hw : ¬ L.writes) (onward : s.Onward t) (hs : s.Sound)
    {v : ValidatorId} {x y : ValidatorState Script} (hx : s.store.validator? v = some x)
    (hy : t.store.validator? v = some y) (hd : y.disposed = false)
    (left : ∀ q ∈ x.watched, t.store.isDisposed (.proxy q) = false)
    (exact_ : ∀ q ∈ x.watched, ∀ z, s.store.proxy? q = some z →
      z.cached = s.store.sourceValue z.binding z.source)
    (h : s.situation.Heeds s.engine.evaluator v) : t.situation.Heeds t.engine.evaluator v := by
  have hxd : s.store.isDisposed (.validator v) = false := by
    rw [Store.isDisposed, hx, Option.all_some, ← ht.validator? hw hs hx hy, hd]
  have hyd : t.store.isDisposed (.validator v) = false := by
    rw [Store.isDisposed, hy, Option.all_some, hd]
  have watched : y.watched = x.watched := by
    have hxy := onward.later.validator? hx hy
    rw [ValidatorState.watched, ValidatorState.watched, hxy.field, hxy.rules]
  have hears : ∀ e k, s.store.Hears (.validator v) e k → t.store.Hears (.validator v) e k := by
    intro e k he
    refine hs.situation.hears onward.steps (Option.isSome_iff_exists.2 ⟨x, hx⟩) hyd ?_ he
    intro z hz q hq
    obtain rfl := Option.some.inj (hy.symm.trans hz)
    exact left q (watched ▸ hq)
  have alive : ∀ q ∈ x.watched, (t.store.proxy? q).isSome := fun q hq =>
    onward.sound.situation.watched hy q (watched ▸ hq)
  rw [onward.engine.evaluator]
  cases ht with
  | @perform tk rest ha inner ht hu hn =>
    have hp := tk.performs s.engine.evaluator s.store
    have sound := hs.situation
    rw [situation_of_task ha] at sound h
    have agenda : t.situation = ⟨t.store, (tk.perform s.engine.evaluator s.store).2 ++
        rest.filterMap Work.task?, t.situation.held⟩ := by
      simp only [situation, ht, List.filterMap_append, filterMap_task?_map]
    obtain ⟨z, hz, field, rules, -⟩ := sound.validator_perform hp hx
    have watched' : z.watched = x.watched := by
      rw [ValidatorState.watched, ValidatorState.watched, field, rules]
    rw [agenda]
    refine h.perform sound.toOrdered (sound.guarded _) hp hxd ?value ?fresh hears
    case value =>
      intro x' hx' q hq
      obtain rfl := Option.some.inj (hx.symm.trans hx')
      obtain ⟨w, hw⟩ := Option.isSome_iff_exists.1 (sound.watched hx q hq)
      obtain ⟨w', hw', -, -, -, cached⟩ := sound.proxy_perform hp hw
      rw [Store.valueOf_eq hw, Store.valueOf_eq hw']
      exact cached.elim id (·.trans (exact_ q hq w hw).symm)
    case fresh =>
      refine (Store.spares_of_changes hu).fresh_validator hz fun q hq => ?_
      rw [watched'] at hq
      obtain ⟨w, hw⟩ := Option.isSome_iff_exists.1 (sound.watched hx q hq)
      obtain ⟨w', hw', -⟩ := sound.proxy_perform hp hw
      exact ⟨Option.isSome_iff_exists.2 ⟨w', hw'⟩, alive q hq⟩
  | @ask pre ws rest ha hpre outer ht hws hu hn =>
    have tasks : s.situation.tasks = pre.filterMap Work.task? ++ rest.filterMap Work.task? := by
      simp only [situation, ha, List.filterMap_append]
    have tasks' : t.situation.tasks = ws.filterMap Work.task? ++ rest.filterMap Work.task? := by
      simp only [situation, ht, List.filterMap_append]
    refine h.ask (fun tk htk hf => ?old) (fun tk htk => ?new) ?fresh hears
    case old =>
      rw [tasks] at htk
      rw [tasks']
      refine List.mem_append_right _ ((List.mem_append.1 htk).resolve_left fun htk => ?_)
      obtain ⟨w, hw, hwt⟩ := List.mem_filterMap.1 htk
      exact Work.task?_ne_of_outer (outer w (ha ▸ head?_append_of_length_le hpre hw)) hwt hf
    case new =>
      rw [tasks'] at htk
      rw [tasks]
      rcases List.mem_append.1 htk with htk | htk
      · obtain ⟨w, hw, hwt⟩ := List.mem_filterMap.1 htk
        exact Or.inr (Work.IsAsk.settles (hws w hw).1 hwt _)
      · exact Or.inl (List.mem_append_right _ htk)
    case fresh =>
      exact (Store.spares_of_changes hu).fresh_validator hx fun q hq =>
        ⟨hs.situation.watched hx q hq, alive q hq⟩

/-! ## How far a form has got -/

/-- A form is there of which nothing is disposed of, and the objects that it is to be bound to have
    names. The values of its fields follow objects, and its validators judge them. -/
structure Offered (s : Session) (f : FormId) (x : FormState) (b : Binding) : Prop where
  sound : s.Sound
  form : s.store.form? f = some x
  names : s.Names b
  values : ∀ y ∈ x.fields, s.store.isConstant y.value = false
  proxies : ∀ y ∈ x.fields, ∀ p ∈ s.store.proxiesOf y, ∀ z, s.store.proxy? p = some z →
    z.disposed = false ∧ z.Steady
  validators : ∀ y ∈ x.fields, ∀ z, s.store.validator? y.validator = some z →
    z.disposed = false ∧ z.field = y.value

/-- A form has been bound to other objects but for the proxies that are left, and nobody has written
    anything. The others show what these objects say. A validator that watches none of those that are
    left shows what it should, or will. -/
structure Rebinds (s : Session) (x : FormState) (b : Binding) (left : List ProxyId) (t : Session) :
    Prop where
  sound : t.Sound
  observing : t.Observing
  later : s.store.Later t.store
  objects : t.objects = s.objects
  parts : ∀ p ∈ left, ∃ y ∈ x.fields, p ∈ s.store.proxiesOf y
  proxy : ∀ y ∈ x.fields, ∀ p ∈ s.store.proxiesOf y, ∀ z, t.store.proxy? p = some z →
    z.disposed = false ∧ (p ∉ left →
      z.cached = t.store.sourceValue z.binding z.source ∧
        (z.source.isConstant = false → z.binding = b))
  validator : ∀ y ∈ x.fields, ∀ z, t.store.validator? y.validator = some z → z.disposed = false ∧
    ((∃ q ∈ z.watched, q ∈ left) ∨ t.situation.Heeds t.engine.evaluator y.validator)

namespace Rebinds

/-- A validator watches proxies of its field. -/
theorem watched (h : s.Rebinds x b left t) (o : s.Offered f x b) {y : Field} (hy : y ∈ x.fields)
    {z : ValidatorState Script} (hz : t.store.validator? y.validator = some z) :
    ∀ q ∈ z.watched, q ∈ s.store.proxiesOf y := by
  obtain ⟨z', hz'⟩ := Option.isSome_iff_exists.1 (alive_of_field o.sound o.form hy).1
  have hzz := h.later.validator? hz' hz
  intro q hq
  rw [ValidatorState.watched, hzz.field, hzz.rules, (o.validators y hy z' hz').2] at hq
  rcases List.mem_cons.1 hq with rfl | hq
  · exact List.mem_append_left _ (List.mem_cons_self ..)
  · exact List.mem_append_right _ (by simpa only [Store.rulesOf, hz'] using hq)

theorem holds (h : s.Rebinds x b left t) (o : s.Offered f x b) : t.store.Holds b :=
  h.sound.holds fun r p hp => by
    rw [h.objects]
    exact o.names r p hp

/-- A proxy of the form that is there now was there in the beginning. -/
theorem made (h : s.Rebinds x b left t) (o : s.Offered f x b) {y : Field} (hy : y ∈ x.fields)
    {p : ProxyId} (hp : p ∈ s.store.proxiesOf y) : p.index < t.store.proxies.next := by
  obtain ⟨z, hz⟩ := Option.isSome_iff_exists.1 ((alive_of_field o.sound o.form hy).2 p hp)
  exact Nat.lt_of_lt_of_le (Roster.lt_next_of_get? hz) h.later.proxies.next

/-- As long as a form is there, so are its proxies. -/
theorem alive (h : s.Rebinds x b left t) (o : s.Offered f x b) (hf : t.store.Alive (.form f))
    {y : Field} (hy : y ∈ x.fields) {p : ProxyId} (hp : p ∈ s.store.proxiesOf y) :
    ∃ z, t.store.proxy? p = some z := by
  obtain ⟨x', hx'⟩ := Option.isSome_iff_exists.1 hf
  have hy' : y ∈ x'.fields := (h.later.fields_form o.form hx').symm ▸ hy
  obtain ⟨hv, hps⟩ := alive_of_field h.sound hx' hy'
  refine Option.isSome_iff_exists.1 (hps p ?_)
  rwa [h.later.proxiesOf (alive_of_field o.sound o.form hy).1 hv]

/-- What a proxy shows that is not left is still what the objects say after a step. -/
theorem sourceValue_step (h : s.Rebinds x b left t) (o : s.Offered f x b) {z : ProxyState Script}
    (hb : z.source.isConstant = false → z.binding = b) :
    t.step.store.sourceValue z.binding z.source =
      t.store.sourceValue z.binding z.source := by
  have onward := h.sound.step
  cases hs : z.source with
  | constant v => rfl
  | template ev T =>
    have turn := h.observing.turn
    rw [hb (by rw [hs]; rfl)]
    refine (turn.consents id h.sound).sourceValue h.sound.situation.sealed
      onward.sound.situation.sealed (h.holds o) (onward.sound.holds fun r p hp => ?_) _
    rw [turn.objects id, h.objects]
    exact o.names r p hp

/-- A step leads no proxy back, unless it binds one that is not left, and no validator. -/
theorem step (h : s.Rebinds x b left t) (o : s.Offered f x b)
    (head : ∀ c p ps, t.agenda.head? = some (.task (.rebind c (p :: ps))) → p ∈ left) :
    s.Rebinds x b left t.step := by
  have turn := h.observing.turn
  have onward := h.sound.step
  have proxy : ∀ y ∈ x.fields, ∀ p ∈ s.store.proxiesOf y, ∀ z, t.step.store.proxy? p = some z →
      z.disposed = false ∧ (p ∉ left →
        z.cached = t.step.store.sourceValue z.binding z.source ∧
          (z.source.isConstant = false → z.binding = b)) := by
    intro y hy p hp z' hz'
    obtain ⟨z, hz, -⟩ := onward.later.proxies.old _ z' (h.made o hy hp) hz'
    obtain ⟨source, disposed, binding, cached⟩ := turn.proxy? id h.sound hz hz'
    obtain ⟨hd, exact_⟩ := h.proxy y hy p hp z hz
    refine ⟨disposed.trans hd, fun hl => ?_⟩
    obtain ⟨hc, hb⟩ := exact_ hl
    have binding : z'.binding = z.binding :=
      binding.resolve_right fun ⟨c, ps, hk, _⟩ => hl (head c p ps hk)
    refine ⟨?_, fun hcst => binding.trans (hb (source ▸ hcst))⟩
    rw [binding, source, h.sourceValue_step o hb]
    exact cached.elim (·.trans hc) id
  refine ⟨onward.sound, h.observing.step, h.later.trans onward.later,
    (turn.objects id).trans h.objects, h.parts, proxy, ?_⟩
  intro y hy z' hz'
  obtain ⟨v, hv⟩ := Option.isSome_iff_exists.1 (alive_of_field o.sound o.form hy).1
  have made := Nat.lt_of_lt_of_le (Roster.lt_next_of_get? hv) h.later.validators.next
  obtain ⟨z, hz, hzz⟩ := onward.later.validators.old _ z' made hz'
  obtain ⟨hd, hh⟩ := h.validator y hy z hz
  have hd' : z'.disposed = false := (turn.validator? id h.sound hz hz').trans hd
  have watched : z'.watched = z.watched := by
    rw [ValidatorState.watched, ValidatorState.watched, hzz.field, hzz.rules]
  refine ⟨hd', ?_⟩
  by_cases hl : ∃ q ∈ z.watched, q ∈ left
  · exact Or.inl (watched ▸ hl)
  refine Or.inr (turn.heeds id onward h.sound hz hz' hd' (fun q hq => ?_) (fun q hq w hw => ?_)
    (hh.resolve_left hl))
  · obtain ⟨w, hw⟩ := Option.isSome_iff_exists.1 (onward.sound.situation.watched hz' q (watched ▸ hq))
    have hw : t.step.store.proxy? q = some w := hw
    rw [Store.isDisposed, hw, Option.all_some]
    exact (proxy y hy q (h.watched o hy hz q hq) w hw).1
  · exact ((h.proxy y hy q (h.watched o hy hz q hq) w hw).2 fun hm => hl ⟨q, hq, hm⟩).1

end Rebinds

/-! ## What is on the agenda -/

/-- The reply that a form has been bound to other objects. -/
def replyBound (f : FormId) (b : Binding) : Work := .reply (.formBound f b none) none

/-- What is on the agenda while a form is bound to other objects, and which proxies are left. -/
inductive Phase (f : FormId) (b : Binding) (t : Session) : List ProxyId → Prop
  /-- What has followed from the last proxy is not over, and others are left. -/
  | amid (inner : List Work) {left : List ProxyId}
      (ha : t.agenda = inner ++ [.task (.rebind b left), replyBound f b])
      (hi : ∀ w ∈ inner, w.isRebind = false) : Phase f b t left
  /-- A proxy has got the objects and has been asked to recompute. -/
  | asked {p : ProxyId} {left : List ProxyId}
      (ha : t.agenda = [.task (.recompute (.proxy p) true), .task (.rebind b left), replyBound f b])
      (hb : ∀ z, t.store.proxy? p = some z → z.binding = b) : Phase f b t (p :: left)
  /-- It is computed anew next. -/
  | passing {p : ProxyId} {left : List ProxyId}
      (ha : t.agenda = [.task (.pass (.proxy p) true), .task (.settle (.proxy p) 1),
        .task (.rebind b left), replyBound f b])
      (hb : ∀ z, t.store.proxy? p = some z → z.binding = b) : Phase f b t (p :: left)
  | last (ha : t.agenda = [replyBound f b]) : Phase f b t []
  | done (ha : t.agenda = []) (hb : ∀ z, t.store.form? f = some z → z.binding = b) : Phase f b t []

theorem agenda_step {tk : Task Script} {rest : List Work} (hs : s.agenda = .task tk :: rest)
    (inner : (Work.task tk).isOuter = false) :
    s.step.agenda = (tk.perform s.engine.evaluator s.store).2.map .task ++ rest := by
  rw [step_perform hs inner]
  rfl

theorem spares_step {tk : Task Script} {rest : List Work} (hs : s.agenda = .task tk :: rest)
    (inner : (Work.task tk).isOuter = false) (L : Licence Script) :
    (tk.perform s.engine.evaluator s.store).1.Spares L s.step.store := by
  rw [step_perform hs inner]
  exact Store.spares_sweep ..

namespace Rebinds

/-- As long as the reply is to be given, the form is there. -/
theorem form (h : s.Rebinds x b left t) (hr : replyBound f b ∈ t.agenda) :
    t.store.Alive (.form f) :=
  h.sound.alive (List.mem_append_right _ (List.mem_flatMap.2 ⟨_, hr, List.mem_cons_self ..⟩))

/-- A proxy that is next is there and not disposed of. -/
theorem next (h : s.Rebinds x b (p :: left) t) (o : s.Offered f x b)
    (hr : replyBound f b ∈ t.agenda) : ∃ z, t.store.proxy? p = some z ∧ z.disposed = false := by
  obtain ⟨y, hy, hp⟩ := h.parts p (List.mem_cons_self ..)
  obtain ⟨z, hz⟩ := h.alive o (h.form hr) hy hp
  exact ⟨z, hz, (h.proxy y hy p hp z hz).1⟩

/-- A proxy goes on having its objects in a step that binds no proxy to others. -/
theorem binding_step (h : s.Rebinds x b (p :: left) t) (o : s.Offered f x b)
    (hr : replyBound f b ∈ t.agenda)
    (head : ∀ c ps, t.agenda.head? ≠ some (.task (.rebind c ps)))
    (hb : ∀ z, t.store.proxy? p = some z → z.binding = b) :
    ∀ z, t.step.store.proxy? p = some z → z.binding = b := by
  intro z' hz'
  obtain ⟨z, hz, -⟩ := h.next o hr
  obtain ⟨-, -, binding, -⟩ := h.observing.turn.proxy? id h.sound hz hz'
  exact (binding.resolve_right fun ⟨c, ps, hk, _⟩ => head c _ hk).trans (hb z hz)

/-- The next proxy gets the objects. -/
theorem step_rebind (h : s.Rebinds x b (p :: left) t) (o : s.Offered f x b)
    (ha : t.agenda = [.task (.rebind b (p :: left)), replyBound f b]) :
    Phase f b t.step (p :: left) := by
  obtain ⟨z, hz, hd⟩ := h.next o (by rw [ha]; simp)
  have bound : (Task.rebind b (p :: left)).perform t.engine.evaluator t.store =
      (t.store.bindProxy p b, [.recompute (.proxy p) true, .rebind b left]) := by
    simp [Task.perform, Store.isDisposed, hz, hd]
  refine .asked ?_ fun z' hz' => ?_
  · rw [agenda_step ha rfl, bound]
    rfl
  · have sp := spares_step ha rfl .all
    rw [bound] at sp
    have ho := h.sound.situation
    obtain ⟨ws, hw, -⟩ := Store.bindProxy_spec hz hd ho.sealed (ho.ledger p).toNoted b
    rcases sp.proxy p z' hz' with ⟨w, hw', hwz⟩ | ⟨hp, -⟩
    · obtain rfl := Option.some.inj (hw.symm.trans hw')
      exact hwz.binding
    · exact absurd (Roster.lt_next_of_get? hw) (Nat.not_lt.2 hp)

/-- The request of the next proxy starts a run, since none is in progress. -/
theorem step_recompute (h : s.Rebinds x b (p :: left) t) (o : s.Offered f x b)
    (ha : t.agenda = [.task (.recompute (.proxy p) true), .task (.rebind b left), replyBound f b])
    (hb : ∀ z, t.store.proxy? p = some z → z.binding = b) : Phase f b t.step (p :: left) := by
  obtain ⟨z, hz, hd⟩ := h.next o (by rw [ha]; simp)
  refine .passing ?_ (h.binding_step o (by rw [ha]; simp) (by simp [ha]) hb)
  have idle : z.guard.running = false := by
    have tasks : t.situation.tasks = [.recompute (.proxy p) true, .rebind b left] := by
      simp only [situation, ha]
      rfl
    have run : t.situation.store.run? (.proxy p) = some (z.guard, z.lastRun) :=
      congrArg (Option.map fun x : ProxyState Script => (x.guard, x.lastRun)) hz
    have hg := (h.sound.situation.guarded (.proxy p) _ _ run).1
    by_contra hn
    simp [tasks, Task.settles, hn] at hg
  have starts : (z.guard.request true).2 = true := by simp [Guard.request, idle]
  have asked : (Task.recompute (.proxy p) true : Task Script).perform t.engine.evaluator t.store =
      (t.store.setGuard (.proxy p) (z.guard.request true).1,
        [.pass (.proxy p) true, .settle (.proxy p) 1]) := by
    simp [Task.perform, Store.isDisposed, Store.guard?, hz, hd, starts]
  rw [agenda_step ha rfl, asked]
  rfl

omit s in
/-- After a forced pass of a proxy, whoever watches it is still to be told. -/
theorem told_of_pass (h : t.Sound) {rest : List Work}
    (ha : t.agenda = .task (.pass (.proxy p) true) :: rest) {w : ProxyState Script}
    (hw : t.store.proxy? p = some w) (hd : w.disposed = false) {v : ValidatorId}
    {z : ValidatorState Script} (hz : t.store.validator? v = some z) (hp : p ∈ z.watched)
    (hv : t.step.store.isDisposed (.validator v) = false)
    (left : ∀ z, t.step.store.validator? v = some z → ∀ q ∈ z.watched,
      t.step.store.isDisposed (.proxy q) = false) : t.step.situation.Told (.validator v) := by
  obtain ⟨a, hva⟩ : ∃ a, a = t.store.sourceValue w.binding w.source := ⟨_, rfl⟩
  have passed : (Task.pass (.proxy p) true : Task Script).perform t.engine.evaluator t.store =
      (t.store.replaceValue p a, [(t.store.replaceValue p a).roundOf (.value p a)]) := by
    simp [Task.perform, Store.passProxy, hw, hd, hva]
  -- the session before what nobody holds is taken away
  obtain ⟨u, hu⟩ : ∃ u, u = (({ t with agenda := rest } : Session).withStore
      (t.store.replaceValue p a)).push [.task ((t.store.replaceValue p a).roundOf (.value p a))] :=
    ⟨_, rfl⟩
  have hstep : t.step = u.sweep := by
    rw [step_perform ha rfl, passed, hu]
    rfl
  have onward : t.Onward u := by
    have hp := Task.performs t.engine.evaluator t.store (.pass (.proxy p) true)
    rw [passed] at hp
    have onward := h.perform ha hp
    rw [hu]
    exact onward
  have sweep := onward.sound.sweep
  rw [← hstep] at sweep
  have situation : u.situation = ⟨t.store.replaceValue p a,
      [(t.store.replaceValue p a).roundOf (.value p a)] ++ rest.filterMap Work.task?,
      u.situation.held⟩ := by
    rw [hu]
    rfl
  have ordered := h.situation.toOrdered
  rw [situation_of_task ha] at ordered
  have hzd : z.disposed = false := by
    have hn := (onward.trans sweep).later.isDisposed_validator (Roster.lt_next_of_get? hz) hv
    simpa only [Store.isDisposed, hz, Option.all_some] using hn
  have hpd : (t.store.replaceValue p a).isDisposed (.proxy p) = false := by
    rw [Store.isDisposed, Store.replaceValue, Store.proxy?_modifyProxy_self hw]
    exact hd
  have told : u.situation.Told (.validator v) := by
    have told := Told.update ordered hz hzd hp (Store.suits_sourceValue hw hva) hpd
    rw [situation]
    exact told
  refine told.mono (fun tk htk => ?_) fun e k he => ?_
  · rw [hstep]
    exact htk
  · refine onward.sound.situation.hears sweep.steps ?_ hv left he
    rw [situation]
    exact Option.isSome_iff_exists.2 ⟨z, hz⟩

/-- The pass of a proxy brings it up to date and tells all validators that watch it. -/
theorem step_pass (h : s.Rebinds x b (p :: left) t) (o : s.Offered f x b)
    (ha : t.agenda = [.task (.pass (.proxy p) true), .task (.settle (.proxy p) 1),
      .task (.rebind b left), replyBound f b])
    (hb : ∀ z, t.store.proxy? p = some z → z.binding = b) :
    s.Rebinds x b left t.step ∧ Phase f b t.step left := by
  have hr : replyBound f b ∈ t.agenda := by rw [ha]; simp
  obtain ⟨w, hw, hd⟩ := h.next o hr
  obtain ⟨v, hv⟩ : ∃ v, v = t.store.sourceValue w.binding w.source := ⟨_, rfl⟩
  have passed : (Task.pass (.proxy p) true : Task Script).perform t.engine.evaluator t.store =
      (t.store.replaceValue p v, [(t.store.replaceValue p v).roundOf (.value p v)]) := by
    simp [Task.perform, Store.passProxy, hw, hd, hv]
  have step := h.step o (by simp [ha])
  have agenda : t.step.agenda = [.task ((t.store.replaceValue p v).roundOf (.value p v)),
      .task (.settle (.proxy p) 1)] ++ [.task (.rebind b left), replyBound f b] := by
    rw [agenda_step ha rfl, passed]
    rfl
  refine ⟨{ step with parts := ?parts, proxy := ?proxy, validator := ?validator },
    .amid _ agenda (by simp [Work.isRebind, Task.isRebind, Store.roundOf])⟩
  case parts => exact fun q hq => h.parts q (List.mem_cons_of_mem _ hq)
  case proxy =>
    intro y hy q hq z' hz'
    obtain ⟨hd', exact_⟩ := step.proxy y hy q hq z' hz'
    refine ⟨hd', fun hl => ?_⟩
    by_cases e : q = p
    · subst e
      obtain ⟨source, -, -, -⟩ := h.observing.turn.proxy? id h.sound hw hz'
      have binding := h.binding_step o hr (by simp [ha]) hb z' hz'
      have sp := spares_step ha rfl .all
      rw [passed] at sp
      have cached : z'.cached = v := by
        have replaced := Store.proxy?_modifyProxy_self hw fun x =>
          { x with cached := v, generation := x.generation + 1 }
        rcases sp.proxy q z' hz' with ⟨u, hu, huz⟩ | ⟨hn, -⟩
        · have hu := Option.some.inj (hu.symm.trans replaced)
          rw [huz.cached, hu]
        · exact absurd (Roster.lt_next_of_get? replaced) (Nat.not_lt.2 hn)
      refine ⟨?_, fun _ => binding⟩
      rw [cached, hv, ← h.sourceValue_step o fun _ => hb w hw, source, binding, hb w hw]
    · exact exact_ fun hm => (List.mem_cons.1 hm).elim e hl
  case validator =>
    intro y hy z' hz'
    obtain ⟨hd', heeds⟩ := step.validator y hy z' hz'
    refine ⟨hd', ?_⟩
    rcases heeds with ⟨q, hq, hl⟩ | heeds
    swap
    · exact Or.inr heeds
    rcases List.mem_cons.1 hl with rfl | hl
    swap
    · exact Or.inl ⟨q, hq, hl⟩
    refine Or.inr (Or.inr (Or.inr ⟨?rests, Or.inl ?told⟩))
    case rests =>
      have tasks : t.step.situation.tasks = [(t.store.replaceValue q v).roundOf (.value q v),
          .settle (.proxy q) 1, .rebind b left] := by
        simp only [situation, agenda]
        rfl
      simp [tasks, Task.settles, Store.roundOf]
    case told =>
      obtain ⟨z, hz⟩ := Option.isSome_iff_exists.1 (alive_of_field o.sound o.form hy).1
      have made := Nat.lt_of_lt_of_le (Roster.lt_next_of_get? hz) h.later.validators.next
      obtain ⟨z, hz, hzz⟩ := h.sound.step.later.validators.old _ z' made hz'
      have watched : z'.watched = z.watched := by
        rw [ValidatorState.watched, ValidatorState.watched, hzz.field, hzz.rules]
      refine told_of_pass h.sound ha hw hd hz (watched ▸ hq) ?_ fun z'' hz'' r hr => ?_
      · rw [Store.isDisposed, hz', Option.all_some, hd']
      · obtain rfl := Option.some.inj (hz'.symm.trans hz'')
        obtain ⟨u, hu⟩ := Option.isSome_iff_exists.1 (step.sound.situation.watched hz' r hr)
        have hu : t.step.store.proxy? r = some u := hu
        rw [Store.isDisposed, hu, Option.all_some]
        exact (step.proxy y hy r (step.watched o hy hz' r hr) u hu).1

/-- When all is over the form has its binding. -/
theorem step_reply (ha : t.agenda = [replyBound f b]) : Phase f b t.step [] := by
  have hstep := step_of_agenda ha
  refine .done ?_ fun z hz => ?_
  · rw [hstep]
    rfl
  · rw [hstep] at hz
    have hz := Store.form?_of_sweep hz
    have bound : (t.store.modifyForm f fun x => { x with binding := b }).form? f = some z := hz
    rw [Store.modifyForm, Store.form?, Roster.get?_modify, if_pos rfl] at bound
    obtain ⟨z', -, rfl⟩ := Option.map_eq_some_iff.1 bound
    rfl

/-- One phase leads to another, or goes on. -/
theorem phase (h : s.Rebinds x b left t) (o : s.Offered f x b) (ph : Phase f b t left) :
    ∃ left', s.Rebinds x b left' t.step ∧ Phase f b t.step left' := by
  cases ph with
  | asked ha hb => exact ⟨_, h.step o (by simp [ha]), h.step_recompute o ha hb⟩
  | passing ha hb => exact ⟨_, h.step_pass o ha hb⟩
  | last ha => exact ⟨_, h.step o (by simp [ha, replyBound]), step_reply ha⟩
  | done ha hb =>
    have still : t.step = t := by simp only [Session.step, ha]
    rw [still]
    exact ⟨_, h, .done ha hb⟩
  | amid inner ha hi =>
    cases inner with
    | nil =>
      have head : ∀ c p ps, t.agenda.head? = some (.task (.rebind c (p :: ps))) → p ∈ left := by
        intro c p ps hk
        rw [ha] at hk
        cases hk
        exact List.mem_cons_self ..
      cases left with
      | nil =>
        refine ⟨_, h.step o head, .last ?_⟩
        rw [agenda_step ha rfl]
        rfl
      | cons p left => exact ⟨_, h.step o head, h.step_rebind o ha⟩
    | cons w inner =>
      obtain ⟨hw, quiet⟩ := List.forall_mem_cons.1 hi
      have ha : t.agenda = w :: (inner ++ [.task (.rebind b left), replyBound f b]) := ha
      have head : ∀ c p ps, t.agenda.head? = some (.task (.rebind c (p :: ps))) → p ∈ left := by
        intro c p ps hk
        rw [ha] at hk
        cases hk
        cases hw
      refine ⟨_, h.step o head, ?_⟩
      cases h.observing.turn with
      | @perform tk rest hs _ ht hu hn =>
        obtain ⟨rfl, rfl⟩ := List.cons.inj (hs.symm.trans ha)
        refine .amid ((tk.perform t.engine.evaluator t.store).2.map .task ++ inner)
          (by rw [ht, List.append_assoc]) ?_
        refine List.forall_mem_append.2 ⟨List.forall_mem_map.2 ?_, quiet⟩
        exact (tk.performs t.engine.evaluator t.store).isRebind hw
      | @ask pre ws rest hs hp outer ht hws hu hn =>
        obtain ⟨kept, rfl, hk⟩ := exists_rest (hs.symm.trans ha) hp
        refine .amid (ws ++ (kept ++ inner))
          (by rw [ht, List.append_assoc, List.append_assoc]) ?_
        refine List.forall_mem_append.2 ⟨fun w hw => ?_,
          List.forall_mem_append.2 ⟨fun w' hw' => ?_, quiet⟩⟩
        · exact Bool.eq_false_iff.2 fun e => (hws w hw).2.2 e
        · exact (hk w' hw') ▸ hw

end Rebinds

/-! ## The whole way -/

theorem carryOut_setFormBinding {name : String} {names : BindingNames} (e : Option Occasion)
    (hf : s.forms.lookup name = some f) (hx : s.store.form? f = some x)
    (hm : s.objectOf names.model = .ok b.model) (hc : s.objectOf names.context = .ok b.context) :
    s.carryOut e (.setFormBinding name names) =
      ⟨s, [.rebind b (s.store.boundProxies x)], .formBound f b none⟩ := by
  simp [carryOut, formed, orMissing, hf, hx, present, bound, hm, hc, rebindForm]

theorem initiated_setFormBinding {name : String} {names : BindingNames}
    (hf : s.forms.lookup name = some f) (hx : s.store.form? f = some x)
    (hm : s.objectOf names.model = .ok b.model) (hc : s.objectOf names.context = .ok b.context) :
    s.initiated (.setFormBinding name names) = (({ s with log := [], answer := none } : Session).push
      [.task (.rebind b (s.store.boundProxies x)), replyBound f b]).sweep := by
  have hc := carryOut_setFormBinding (s := { s with log := [], answer := none }) none hf hx hm hc
  rw [initiated, start, hc]
  rfl

/-- In the beginning all the proxies are left that follow objects. -/
theorem Offered.initiated (o : s.Offered f x b) (idle : s.agenda = []) (observed : s.store.Observed)
    {name : String} {names : BindingNames} (hf : s.forms.lookup name = some f)
    (hm : s.objectOf names.model = .ok b.model) (hc : s.objectOf names.context = .ok b.context) :
    s.Rebinds x b (s.store.boundProxies x) (s.initiated (.setFormBinding name names)) ∧
      Phase f b (s.initiated (.setFormBinding name names)) (s.store.boundProxies x) := by
  obtain ⟨u, hu⟩ : ∃ u, u = s.initiated (.setFormBinding name names) := ⟨_, rfl⟩
  rw [← hu]
  have onward : s.Onward u := by
    have logged := o.sound.logged [] none
    have started := logged.sound.start aware_none (.setFormBinding name names) none
    exact hu ▸ (logged.trans started).trans started.sound.sweep
  have observing : u.Observing := by
    have observing : s.Observing := ⟨observed, by rw [idle]; exact List.forall_mem_nil _⟩
    exact hu ▸ observing.initiated idle trivial
  rw [initiated_setFormBinding hf o.form hm hc] at hu
  have sp : s.store.Spares .observing u.store := by
    rw [hu]
    exact Store.spares_sweep ..
  have proxy : ∀ {p : ProxyId} {z z' : ProxyState Script}, s.store.proxy? p = some z →
      u.store.proxy? p = some z' → z.Spared .observing z' := by
    intro p z z' hz hz'
    rcases sp.proxy p z' hz' with ⟨w, hw, h⟩ | ⟨hp, -⟩
    · rwa [Option.some.inj (hz.symm.trans hw)]
    · exact absurd (Roster.lt_next_of_get? hz) (Nat.not_lt.2 hp)
  refine ⟨⟨onward.sound, observing, onward.later, by rw [hu]; rfl, ?parts, ?proxy, ?validator⟩,
    .amid [] ?agenda (List.forall_mem_nil _)⟩
  case agenda =>
    rw [hu]
    show _ ++ s.agenda = _
    rw [idle]
    rfl
  case parts =>
    intro p hp
    obtain ⟨y, hy, hp⟩ := List.mem_flatMap.1 (List.mem_filter.1 hp).1
    exact ⟨y, hy, hp⟩
  case proxy =>
    intro y hy p hp z' hz'
    obtain ⟨z, hz⟩ := Option.isSome_iff_exists.1 ((alive_of_field o.sound o.form hy).2 p hp)
    obtain ⟨hd, steady⟩ := o.proxies y hy p hp z hz
    have h := proxy hz hz'
    refine ⟨(h.kept id).trans hd, fun hl => ?_⟩
    have constant : z.source.isConstant = true := by
      by_contra hn
      refine hl (List.mem_filter.2 ⟨List.mem_flatMap.2 ⟨y, hy, hp⟩, ?_⟩)
      simp [Store.isConstant, hz, Bool.eq_false_iff.2 hn]
    rw [h.source, h.cached]
    cases hs : z.source with
    | template _ T => rw [hs] at constant; cases constant
    | constant v => exact ⟨steady v hs, nofun⟩
  case validator =>
    intro y hy z' hz'
    obtain ⟨z, hz⟩ := Option.isSome_iff_exists.1 (alive_of_field o.sound o.form hy).1
    obtain ⟨hd, field⟩ := o.validators y hy z hz
    rcases sp.validator y.validator z' hz' with ⟨w, hw, h⟩ | ⟨hv, -⟩
    · obtain rfl := Option.some.inj (hz.symm.trans hw)
      refine ⟨(h.kept id).trans hd, Or.inl ⟨y.value, ?_, ?_⟩⟩
      · rw [ValidatorState.watched, h.field, field]
        exact List.mem_cons_self ..
      · refine List.mem_filter.2 ⟨List.mem_flatMap.2 ⟨y, hy, List.mem_cons_self ..⟩, ?_⟩
        rw [o.values y hy]
        rfl
    · exact absurd (Roster.lt_next_of_get? hz) (Nat.not_lt.2 hv)

/-- In the end no proxy is left, and the form has its binding. -/
theorem Offered.rebound (o : s.Offered f x b) (idle : s.agenda = []) (observed : s.store.Observed)
    {name : String} {names : BindingNames} (hf : s.forms.lookup name = some f)
    (hm : s.objectOf names.model = .ok b.model) (hc : s.objectOf names.context = .ok b.context)
    {fuel : Nat} (h : s.execute fuel (.setFormBinding name names) = some t) :
    s.Rebinds x b [] t ∧ t.agenda = [] ∧ ∀ z, t.store.form? f = some z → z.binding = b := by
  have run := of_finish (P := fun u => ∃ left, s.Rebinds x b left u ∧ Phase f b u left)
    (fun u ⟨_, hu, ph⟩ => hu.phase o ph) ⟨_, o.initiated idle observed hf hm hc⟩ h
  obtain ⟨⟨left, rebinds, ph⟩, ha⟩ := run
  cases ph with
  | done _ hb => exact ⟨rebinds, ha, hb⟩
  | amid inner ha' => simp [ha] at ha'
  | asked ha' | passing ha' | last ha' => rw [ha] at ha'; cases ha'

end Session

end LiveForm
