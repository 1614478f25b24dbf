/-
  Runs go from stage to stage.

  Of the tasks that are left, few concern one node: its pass, the round that tells what it shows, the
  call of one of its listeners, and the end of the pass. They stand in this order, each of them once at
  most, and as long as there is a round the node shows what the round tells.

  * `Store.shown?`: what a node shows, as the event that tells of it;
  * `Store.Stage`: the tasks that may concern a node; `Stage.perform`: to perform a task leads from one
    stage to another;
  * `Session.Orderly` and `Orderly.move`: in every session that comes about each node is at a stage.
-/
import LiveForm.Proofs.Turning
import LiveForm.Proofs.Coherence
import LiveForm.Proofs.Termination

namespace LiveForm

variable {H : Type}

/-! ## What nodes show -/

/-- The node that an event tells of. -/
def Event.node? : Event → Option Node
  | .property _ _ => none
  | .value p _ => some (.proxy p)
  | .result v _ => some (.validator v)

/-- A task is a stage of a run of a node. -/
def Task.concerns (n : Node) : Task H → Bool
  | .round e _ | .call _ e => e.node? = some n
  | .pass m _ | .settle m _ | .settleExtra m _ => m = n
  | .recompute _ _ | .rebind _ _ => false

theorem Task.IsAsk.concerns {tk : Task H} (h : tk.IsAsk) (n : Node) : tk.concerns n = false := by
  cases tk with
  | round e ks =>
    cases e with
    | property o name => simp [Task.concerns, Event.node?]
    | value | result => cases h
  | recompute | rebind => rfl
  | call | pass | settle | settleExtra => cases h

theorem Task.settles_of_ends {z : Task H} {n : Node} (h : z.ends? = some n) : z.settles n := by
  cases z <;> simp_all [Task.ends?, Task.settles]

namespace Store

variable {L : Licence H} {s t u : Store H} {n : Node}

/-- What a node shows, as the event that tells of it. -/
def shown? (s : Store H) : Node → Option Event
  | .proxy p => (s.proxy? p).map fun x => .value p x.cached
  | .validator v => (s.validator? v).map fun x => .result v x.result

/-- A node has been made, though it may be gone. -/
def Made (s : Store H) : Node → Prop
  | .proxy p => p.index < s.proxies.next
  | .validator v => v.index < s.validators.next

theorem made_of_shown? {e : Event} (h : s.shown? n = some e) : s.Made n := by
  cases n with
  | proxy p =>
    obtain ⟨x, hx, -⟩ := Option.map_eq_some_iff.1 h
    exact Roster.lt_next_of_get? hx
  | validator v =>
    obtain ⟨x, hx, -⟩ := Option.map_eq_some_iff.1 h
    exact Roster.lt_next_of_get? hx

theorem made_of_guard? {g : Guard} (h : s.guard? n = some g) : s.Made n := by
  cases n with
  | proxy p =>
    obtain ⟨x, hx, -⟩ := Option.map_eq_some_iff.1 h
    exact Roster.lt_next_of_get? hx
  | validator v =>
    obtain ⟨x, hx, -⟩ := Option.map_eq_some_iff.1 h
    exact Roster.lt_next_of_get? hx

theorem Spares.made (h : s.Spares L t) (hn : s.Made n) : t.Made n := by
  cases n with
  | proxy p => exact Nat.lt_of_lt_of_le hn h.proxies
  | validator v => exact Nat.lt_of_lt_of_le hn h.validators

/-- What an old node shows it showed before. -/
theorem Spares.shown? (h : s.Spares L t) (hn : s.Made n) {e : Event} (he : t.shown? n = some e) :
    s.shown? n = some e := by
  cases n with
  | proxy p =>
    obtain ⟨y, hy, rfl⟩ := Option.map_eq_some_iff.1 he
    rcases h.proxy p y hy with ⟨x, hx, hxy⟩ | ⟨hp, -⟩
    · simp [Store.shown?, hx, hxy.cached]
    · exact absurd hn (Nat.not_lt.2 hp)
  | validator v =>
    obtain ⟨y, hy, rfl⟩ := Option.map_eq_some_iff.1 he
    rcases h.validator v y hy with ⟨x, hx, hxy⟩ | ⟨hv, -⟩
    · simp [Store.shown?, hx, hxy.result]
    · exact absurd hn (Nat.not_lt.2 hv)

/-- A node runs as it did before, or it is new and at rest. -/
theorem Spares.guard? (h : s.Spares L t) {g : Guard} (hg : t.guard? n = some g) :
    s.guard? n = some g ∨ ¬ s.Made n ∧ g.Rests := by
  cases n with
  | proxy p =>
    obtain ⟨y, hy, rfl⟩ := Option.map_eq_some_iff.1 hg
    rcases h.proxy p y hy with ⟨x, hx, hxy⟩ | ⟨hp, -, hr⟩
    · exact Or.inl (by simp [Store.guard?, hx, hxy.guard])
    · exact Or.inr ⟨Nat.not_lt.2 hp, hr⟩
  | validator v =>
    obtain ⟨y, hy, rfl⟩ := Option.map_eq_some_iff.1 hg
    rcases h.validator v y hy with ⟨x, hx, hxy⟩ | ⟨hv, hr⟩
    · exact Or.inl (by simp [Store.guard?, hx, hxy.guard])
    · exact Or.inr ⟨Nat.not_lt.2 hv, hr⟩

/-! ### Operations that are no passes -/

theorem validators_subscribeProxy (p : ProxyId) (s : Store H) (ws : List (ObjectId × String)) :
    (subscribeProxy p s ws).1.validators = s.validators := by
  induction ws generalizing s with
  | nil => rfl
  | cons z ws ih => exact ih _

theorem validators_unsubscribeAll (ws : List (ObjectId × Nat)) :
    (s.unsubscribeAll ws).validators = s.validators := by
  unfold unsubscribeAll
  induction ws generalizing s with
  | nil => rfl
  | cons w ws ih => exact ih

theorem validators_attach (p : ProxyId) : (s.attach p).validators = s.validators := by
  unfold attach
  split
  · rfl
  · exact validators_subscribeProxy ..

theorem validators_detach (p : ProxyId) : (s.detach p).validators = s.validators := by
  unfold detach
  split
  · rfl
  · exact validators_unsubscribeAll _

theorem validators_follow (p : ProxyId) : (s.follow p).validators = s.validators := by
  unfold follow
  split
  · split
    · split
      · rw [validators_attach, validators_detach]
      · rfl
    · rfl
  · rfl

theorem validators_bindProxy (p : ProxyId) (b : Binding) :
    (s.bindProxy p b).validators = s.validators := by
  rw [bindProxy, validators_attach]
  exact validators_detach p

section

variable {β : Type} {f : ProxyState H → β}

/-- What subscriptions make no difference to is the same after new ones have begun. -/
theorem map_proxy?_attach (hf : ∀ x ws, f { x with subscriptions := ws } = f x) (p q : ProxyId) :
    ((s.attach p).proxy? q).map f = (s.proxy? q).map f := by
  unfold attach
  split
  · rfl
  · rw [map_proxy?_modifyProxy fun _ x => hf x _, proxy?, proxies_subscribeProxy]
    rfl

theorem map_proxy?_detach (hf : ∀ x ws, f { x with subscriptions := ws } = f x) (p q : ProxyId) :
    ((s.detach p).proxy? q).map f = (s.proxy? q).map f := by
  unfold detach
  split
  · rfl
  · rw [map_proxy?_modifyProxy fun _ x => hf x _, proxy?, proxies_unsubscribeAll]
    rfl

theorem map_proxy?_follow (hf : ∀ x ws, f { x with subscriptions := ws } = f x) (p q : ProxyId) :
    ((s.follow p).proxy? q).map f = (s.proxy? q).map f := by
  unfold follow
  split
  · split
    · split
      · rw [map_proxy?_attach hf, map_proxy?_detach hf]
      · rfl
    · rfl
  · rfl

theorem map_proxy?_bindProxy (hf : ∀ x ws, f { x with subscriptions := ws } = f x)
    (hb : ∀ x b, f { x with binding := b } = f x) (p q : ProxyId) (b : Binding) :
    ((s.bindProxy p b).proxy? q).map f = (s.proxy? q).map f := by
  rw [bindProxy, map_proxy?_attach hf, map_proxy?_modifyProxy fun _ x => hb x b,
    map_proxy?_detach hf]

end

/-! ### Passes -/

theorem shown?_replaceValue {p : ProxyId} {x : ProxyState H} (hx : s.proxy? p = some x) (v : Value) :
    (s.replaceValue p v).shown? (.proxy p) = some (.value p v) := by
  rw [shown?, replaceValue, proxy?_modifyProxy_self hx, Option.map_some]

theorem shown?_replaceResult {v : ValidatorId} {x : ValidatorState H} (hx : s.validator? v = some x)
    (r : ValidationResult) : (s.replaceResult v r).shown? (.validator v) = some (.result v r) := by
  rw [shown?, replaceResult, validator?_modifyValidator_self hx, Option.map_some]

end Store

section

variable {ev : Evaluator} {s u : Store H} {tk : Task H} {new : List (Task H)} {β : Type}

/-- To perform a task makes no difference to a proxy but for its subscriptions, its binding and the
    account of its runs, unless it is a pass of the proxy. -/
theorem Task.Performs.map_proxy? {f : ProxyState H → β}
    (hf : ∀ x ws b g o d, f { x with
      subscriptions := ws, binding := b, guard := g, lastRun := o, diagnostic := d } = f x)
    (h : tk.Performs ev s u new) {p : ProxyId} (hk : ∀ force, tk ≠ .pass (.proxy p) force) :
    (u.proxy? p).map f = (s.proxy? p).map f := by
  have subscribed : ∀ x ws, f { x with subscriptions := ws } = f x :=
    fun x ws => hf x ws x.binding x.guard x.lastRun x.diagnostic
  have guarded : ∀ m g, ((s.setGuard m g).proxy? p).map f = (s.proxy? p).map f := by
    rintro (q | v) g
    · exact Store.map_proxy?_modifyProxy
        fun _ x => hf x x.subscriptions x.binding g x.lastRun x.diagnostic
    · rfl
  have noted : ∀ (t : Store H) m o, ((t.noteOutcome m o).proxy? p).map f = (t.proxy? p).map f := by
    rintro t (q | v) o
    · exact Store.map_proxy?_modifyProxy
        fun _ x => hf x x.subscriptions x.binding x.guard (some o) _
    · rfl
  cases h with
  | close | tell | miss | heed | ignore | refuse | keep | judge | gone | goneExtra | bound | pass =>
    rfl
  | follow => exact Store.map_proxy?_follow subscribed ..
  | bind =>
    exact Store.map_proxy?_bindProxy subscribed
      (fun x b => hf x x.subscriptions b x.guard x.lastRun x.diagnostic) ..
  | request | again | extra => exact guarded ..
  | stop | stopExtra => exact (noted ..).trans (guarded ..)
  | update => exact Store.map_proxy?_modifyProxy fun e => absurd (by rw [e]) (hk _)

/-- The same for a validator. -/
theorem Task.Performs.map_validator? {f : ValidatorState H → β}
    (hf : ∀ x g o d, f { x with guard := g, lastRun := o, diagnostic := d } = f x)
    (h : tk.Performs ev s u new) {v : ValidatorId}
    (hk : ∀ force, tk ≠ .pass (.validator v) force) :
    (u.validator? v).map f = (s.validator? v).map f := by
  have guarded : ∀ m g, ((s.setGuard m g).validator? v).map f = (s.validator? v).map f := by
    rintro (q | w) g
    · rfl
    · exact Store.map_validator?_modifyValidator fun _ x => hf x g x.lastRun x.diagnostic
  have noted : ∀ (t : Store H) m o,
      ((t.noteOutcome m o).validator? v).map f = (t.validator? v).map f := by
    rintro t (q | w) o
    · rfl
    · exact Store.map_validator?_modifyValidator fun _ x => hf x x.guard (some o) _
  cases h with
  | close | tell | miss | heed | ignore | refuse | keep | update | gone | goneExtra | bound | pass =>
    rfl
  | follow => rw [Store.validator?, Store.validators_follow]; rfl
  | bind => rw [Store.validator?, Store.validators_bindProxy]; rfl
  | request | again | extra => exact guarded ..
  | stop | stopExtra => exact (noted ..).trans (guarded ..)
  | judge => exact Store.map_validator?_modifyValidator fun e => absurd (by rw [e]) (hk _)

/-- To perform a task makes no difference to what a node shows, unless it is a pass of the node. -/
theorem Task.Performs.shown? (h : tk.Performs ev s u new) {n : Node}
    (hk : ∀ force, tk ≠ .pass n force) : u.shown? n = s.shown? n := by
  cases n with
  | proxy p => exact h.map_proxy? (f := fun x => Event.value p x.cached) (fun _ _ _ _ _ _ => rfl) hk
  | validator v =>
    exact h.map_validator? (f := fun x => Event.result v x.result) (fun _ _ _ _ => rfl) hk

end

/-- A node that has been made stays so when a task is performed. -/
theorem Task.Performs.made {ev : Evaluator} {s u : Store H} {tk : Task H} {new : List (Task H)}
    (h : tk.Performs ev s u new) {n : Node} (hn : s.Made n) : u.Made n := by
  have same : u.proxies.next = s.proxies.next → u.validators.next = s.validators.next → u.Made n := by
    intro hp hv
    cases n with
    | proxy p => exact Nat.lt_of_lt_of_eq hn hp.symm
    | validator v => exact Nat.lt_of_lt_of_eq hn hv.symm
  cases h with
  | @follow p => exact Store.Spares.made (L := .all) (s.spares_follow p) hn
  | @bind b p =>
    have detached : (s.detach p).Made n := Store.Spares.made (L := .all) (s.spares_detach p) hn
    have bound : ((s.detach p).modifyProxy p fun x => { x with binding := b }).Made n := by
      cases n <;> exact detached
    exact Store.Spares.made (L := .all) (Store.spares_attach _ p) bound
  | @request m | @again m | @extra m | @stop m | @stopExtra m => cases m <;> exact same rfl rfl
  | _ => exact same rfl rfl

namespace Store

/-! ## Stages -/

/-- The tasks that concern a node, from the next one on. -/
inductive Stage (s : Store H) (n : Node) : List (Task H) → Prop
  /-- The node does not run. -/
  | rest : Stage s n []
  /-- A pass is to come. -/
  | pass {force z} (hz : z.ends? = some n) : Stage s n [.pass n force, z]
  /-- Listeners are to be told what the node shows. -/
  | round {e ks z} (he : e.node? = some n) (hn : s.Made n)
      (hs : ∀ e', s.shown? n = some e' → e' = e) (hz : z.ends? = some n) : Stage s n [.round e ks, z]
  /-- A listener is to be told. -/
  | call {l e ks z} (he : e.node? = some n) (hn : s.Made n)
      (hs : ∀ e', s.shown? n = some e' → e' = e) (hz : z.ends? = some n) :
      Stage s n [.call l e, .round e ks, z]
  /-- The pass is to end. -/
  | settle {z} (hz : z.ends? = some n) : Stage s n [z]

namespace Stage

variable {L : Licence H} {s t u : Store H} {n : Node} {l : List (Task H)}

theorem mono (h : s.Stage n l) (hm : s.Made n → t.Made n)
    (hs : ∀ e, s.Made n → t.shown? n = some e → s.shown? n = some e) : t.Stage n l := by
  cases h with
  | rest => exact .rest
  | pass hz => exact .pass hz
  | round he hn hs' hz => exact .round he (hm hn) (fun e h => hs' e (hs e hn h)) hz
  | call he hn hs' hz => exact .call he (hm hn) (fun e h => hs' e (hs e hn h)) hz
  | settle hz => exact .settle hz

theorem spares (h : s.Stage n l) (ht : s.Spares L t) : t.Stage n l :=
  h.mono ht.made fun _ hn he => ht.shown? hn he

theorem congr (h : s.Stage n l) (hm : s.Made n → t.Made n) (hs : t.shown? n = s.shown? n) :
    t.Stage n l :=
  h.mono hm fun _ _ he => hs ▸ he

/-! ### What comes next -/

theorem of_pass {force : Bool} (h : s.Stage n (.pass n force :: l)) :
    ∃ z, l = [z] ∧ z.ends? = some n := by
  cases h with
  | pass hz => exact ⟨_, rfl, hz⟩
  | settle hz => cases hz

theorem of_round {e : Event} {ks : List Nat} (h : s.Stage n (.round e ks :: l)) :
    ∃ z, l = [z] ∧ z.ends? = some n ∧ s.Made n ∧ ∀ e', s.shown? n = some e' → e' = e := by
  cases h with
  | round he hn hs hz => exact ⟨_, rfl, hz, hn, hs⟩
  | settle hz => cases hz

theorem of_call {x : Listener H} {e : Event} (h : s.Stage n (.call x e :: l)) :
    s.Stage n l := by
  cases h with
  | call he hn hs hz => exact .round he hn hs hz
  | settle hz => cases hz

theorem of_ends {z : Task H} (hz : z.ends? = some n) (h : s.Stage n (z :: l)) : l = [] := by
  cases h with
  | pass | round | call => cases hz
  | settle => rfl

/-- Where no pass of the node is to end, nothing concerns the node. -/
theorem eq_nil (h : s.Stage n l) (hl : ∀ z ∈ l, z.settles n = false) : l = [] := by
  have ends : ∀ {z : Task H}, z.ends? = some n → z ∉ l := by
    intro z hz hm
    have := hl z hm
    rw [Task.settles_of_ends hz] at this
    cases this
  cases h with
  | rest => rfl
  | pass hz | round _ _ _ hz | call _ _ _ hz | settle hz => exact absurd (by simp) (ends hz)

end Stage

end Store

/-! ## Tasks -/

section

variable {ev : Evaluator} {s u : Store H} {tk : Task H} {new ts : List (Task H)} {n : Node}

theorem filter_concerns_append (hk : tk.concerns n = false)
    (hn : ∀ tk' ∈ new, tk'.concerns n = false) :
    (new ++ ts).filter (Task.concerns n) = (tk :: ts).filter (Task.concerns n) := by
  rw [List.filter_append, List.filter_cons_of_neg (by simp [hk]),
    List.filter_eq_nil_iff.2 fun tk' h => by simp [hn tk' h], List.nil_append]

open Store

/-- A task that does not concern a node, and asks for no run of it, leaves it at its stage. -/
theorem Task.Performs.stage_of_not_concerns (h : tk.Performs ev s u new)
    (hk : tk.concerns n = false) (hn : ∀ tk' ∈ new, tk'.concerns n = false)
    (hs : s.Stage n ((tk :: ts).filter (Task.concerns n))) :
    u.Stage n ((new ++ ts).filter (Task.concerns n)) := by
  rw [filter_concerns_append hk hn]
  refine hs.congr h.made (h.shown? fun force e => ?_)
  rw [e] at hk
  simp [Task.concerns] at hk

/-- A task that does not concern a node leads to none that does, unless it asks for a run. -/
theorem Task.Performs.not_concerns (h : tk.Performs ev s u new) (hk : tk.concerns n = false)
    (hr : ∀ force, tk ≠ .recompute n force) : ∀ tk' ∈ new, tk'.concerns n = false := by
  cases h with
  | close | ignore | refuse | keep | stop | stopExtra | gone | goneExtra | bound =>
    exact List.forall_mem_nil _
  | miss => exact List.forall_mem_singleton.2 hk
  | follow | heed | pass => exact List.forall_mem_singleton.2 rfl
  | tell => exact List.forall_mem_cons.2 ⟨hk, List.forall_mem_singleton.2 hk⟩
  | again | extra => exact List.forall_mem_cons.2 ⟨hk, List.forall_mem_singleton.2 hk⟩
  | bind => exact List.forall_mem_cons.2 ⟨rfl, List.forall_mem_singleton.2 rfl⟩
  | update =>
    refine List.forall_mem_singleton.2 ?_
    simpa [Store.roundOf, Task.concerns, Event.node?] using hk
  | judge =>
    split
    · exact List.forall_mem_nil _
    · refine List.forall_mem_singleton.2 ?_
      simpa [Store.roundOf, Task.concerns, Event.node?] using hk
  | @request m force =>
    have hm : m ≠ n := fun e => hr force (by rw [e])
    split
    · exact List.forall_mem_cons.2
        ⟨by simp [Task.concerns, hm], List.forall_mem_singleton.2 (by simp [Task.concerns, hm])⟩
    · exact List.forall_mem_nil _

/-- A request leads to a pass where the node does not run, and to nothing else. -/
theorem Task.Performs.stage_request {force : Bool} (h : (Task.recompute n force).Performs ev s u new)
    (hg : ∀ g, s.guard? n = some g →
      (Task.recompute n force :: ts).countP (Task.settles n) = if g.running then 1 else 0)
    (hs : s.Stage n (ts.filter (Task.concerns n))) :
    u.Stage n ((new ++ ts).filter (Task.concerns n)) := by
  have hu : u.Stage n (ts.filter (Task.concerns n)) := hs.congr h.made (h.shown? nofun)
  cases h with
  | refuse => exact hu
  | @request _ _ g hd hg' =>
    split
    · next starts =>
      have hc := hg g hg'
      rw [(Guard.of_request_starts starts).1] at hc
      have hz : ts.filter (Task.concerns n) = [] := by
        refine hs.eq_nil fun z hz => ?_
        have := List.countP_eq_zero.1 hc z (List.mem_cons_of_mem _ (List.mem_filter.1 hz).1)
        simpa using this
      simp only [List.cons_append, List.nil_append, List.filter_cons, Task.concerns, decide_true,
        ↓reduceIte, hz]
      exact .pass rfl
    · exact hu

/-- A task that concerns a node leads it to the next stage. -/
theorem Task.Performs.stage_concerns (h : tk.Performs ev s u new) (hk : tk.concerns n)
    (hs : s.Stage n (tk :: ts.filter (Task.concerns n))) :
    u.Stage n (new.filter (Task.concerns n) ++ ts.filter (Task.concerns n)) := by
  generalize ts.filter (Task.concerns n) = l at hs ⊢
  -- the end of a pass, after which nothing is left that concerns the node
  have ends : ∀ {z : Task H}, z.ends? = some n → s.Stage n (z :: l) → l = [] :=
    Stage.of_ends
  cases h with
  | close =>
    obtain ⟨z, rfl, hz, -⟩ := hs.of_round
    exact .settle hz
  | tell =>
    obtain ⟨z, rfl, hz, hn, hv⟩ := hs.of_round
    have he : _ = some n := of_decide_eq_true hk
    simp only [List.filter_cons, Task.concerns, he, decide_true, ↓reduceIte, List.filter_nil]
    exact .call he hn hv hz
  | miss =>
    obtain ⟨z, rfl, hz, hn, hv⟩ := hs.of_round
    have he : _ = some n := of_decide_eq_true hk
    simp only [List.filter_cons, Task.concerns, he, decide_true, ↓reduceIte, List.filter_nil]
    exact .round he hn hv hz
  | @follow p x e hx hd =>
    have hp : Task.Performs ev s (.call (.proxy p) e) (s.follow p) _ := .follow hx hd
    exact hs.of_call.congr hp.made (hp.shown? nofun)
  | heed | ignore => exact hs.of_call
  | request | refuse | bound | pass | bind => cases hk
  | keep =>
    obtain rfl : _ = n := of_decide_eq_true hk
    obtain ⟨z, rfl, hz⟩ := hs.of_pass
    exact .settle hz
  | @update p x v force hx =>
    obtain rfl : _ = n := of_decide_eq_true hk
    obtain ⟨z, rfl, hz⟩ := hs.of_pass
    have hv := shown?_replaceValue hx v
    have he : (Event.value p v).node? = some (.proxy p) := rfl
    simp only [roundOf, List.filter_cons, Task.concerns, he, decide_true, ↓reduceIte, List.filter_nil]
    refine .round he (made_of_shown? hv) (fun e' h => ?_) hz
    exact Option.some.inj (h.symm.trans hv)
  | @judge v x r force hx =>
    obtain rfl : _ = n := of_decide_eq_true hk
    obtain ⟨z, rfl, hz⟩ := hs.of_pass
    have hv := shown?_replaceResult hx r
    have he : (Event.result v r).node? = some (.validator v) := rfl
    split
    · exact .settle hz
    · simp only [roundOf, List.filter_cons, Task.concerns, he, decide_true, ↓reduceIte,
        List.filter_nil]
      refine .round he (made_of_shown? hv) (fun e' h => ?_) hz
      exact Option.some.inj (h.symm.trans hv)
  | again | extra =>
    obtain rfl : _ = n := of_decide_eq_true hk
    obtain rfl := ends rfl hs
    simp only [List.filter_cons, Task.concerns, decide_true, ↓reduceIte, List.filter_nil]
    exact .pass rfl
  | stop | stopExtra | gone | goneExtra =>
    obtain rfl : _ = n := of_decide_eq_true hk
    obtain rfl := ends rfl hs
    exact .rest

/-- To perform a task leads each node from one stage to another. -/
theorem Task.Performs.stage (h : tk.Performs ev s u new)
    (hg : ∀ g, s.guard? n = some g →
      (tk :: ts).countP (Task.settles n) = if g.running then 1 else 0)
    (hs : s.Stage n ((tk :: ts).filter (Task.concerns n))) :
    u.Stage n ((new ++ ts).filter (Task.concerns n)) := by
  by_cases hk : tk.concerns n
  · rw [List.filter_append]
    rw [List.filter_cons_of_pos hk] at hs
    exact h.stage_concerns hk hs
  · have hk : tk.concerns n = false := by simpa using hk
    by_cases hr : ∃ force, tk = .recompute n force
    · obtain ⟨force, rfl⟩ := hr
      rw [List.filter_cons_of_neg (by simp [Task.concerns])] at hs
      exact h.stage_request hg hs
    · exact h.stage_of_not_concerns hk (h.not_concerns hk fun force e => hr ⟨force, e⟩) hs

end

/-! ## Guards -/

/-- What a task does to the guard of a node. -/
inductive Task.Drives (n : Node) (g : Guard) : Task H → Guard → Prop
  | request (force : Bool) : Drives n g (.recompute n force) (g.request force).1
  | settle (k : Nat) : Drives n g (.settle n k) (g.afterPass k).1
  | settleExtra (k : Nat) : Drives n g (.settleExtra n k) (g.afterExtra k).1

/-- A request is pending where a forced one is. -/
def Guard.Even (g : Guard) : Prop := g.pendingForce → g.pending

/-- A forced request is pending only if it was before or has just been made. -/
theorem Task.Drives.pendingForce {tk : Task H} {n : Node} {g h : Guard} (hg : tk.Drives n g h)
    (hf : h.pendingForce) : g.pendingForce ∨ tk = .recompute n true := by
  cases hg with
  | request force =>
    unfold Guard.request at hf
    split at hf
    · rcases Bool.or_eq_true_iff.1 hf with hf | rfl
      · exact Or.inl hf
      · exact Or.inr rfl
    · exact Or.inl hf
  | settle k =>
    unfold Guard.afterPass at hf
    split at hf
    · exact Or.inl hf
    · dsimp only at hf
      split at hf
      · cases hf
      · split at hf <;> cases hf
  | settleExtra k => cases hf

theorem Task.Drives.even {tk : Task H} {n : Node} {g h : Guard} (hg : tk.Drives n g h)
    (he : g.Even) : h.Even := by
  intro hf
  cases hg with
  | request force =>
    unfold Guard.request at hf ⊢
    split at hf
    · next hr => simp [hr]
    · next hr => simpa [hr] using he hf
  | settle k =>
    unfold Guard.afterPass at hf ⊢
    split at hf
    · next hp =>
      have hp : g.pending = false := by simpa using hp
      rw [he hf] at hp
      cases hp
    · dsimp only at hf
      split at hf
      · cases hf
      · split at hf <;> cases hf
  | settleExtra k => cases hf

theorem Store.guard?_noteOutcome {s : Store H} (n m : Node) (o : RunOutcome) :
    (s.noteOutcome m o).guard? n = s.guard? n := by
  rw [guard?_eq, run?_noteOutcome, guard?_eq]
  split
  · rw [Option.map_map]
    rfl
  · rfl

section

variable {ev : Evaluator} {s u : Store H} {tk : Task H} {new ts : List (Task H)} {n : Node}
  {held : List Entity}

open Situation

/-- To perform a task makes no difference to a guard, or the task drives it. -/
theorem Task.Performs.guard? (ho : Ordered ⟨s, tk :: ts, held⟩) (h : tk.Performs ev s u new)
    {g : Guard} (hg : u.guard? n = some g) :
    s.guard? n = some g ∨ ∃ g₀, s.guard? n = some g₀ ∧ tk.Drives n g₀ g := by
  have set : ∀ {m : Node} {h h' : Guard}, s.guard? m = some h → tk.Drives m h h' →
      (s.setGuard m h').guard? n = some g →
      s.guard? n = some g ∨ ∃ g₀, s.guard? n = some g₀ ∧ tk.Drives n g₀ g := by
    intro m h h' hm hd hg
    rw [Store.guard?_setGuard] at hg
    split at hg
    · next e =>
      subst e
      rw [hm] at hg
      cases hg
      exact Or.inr ⟨h, hm, hd⟩
    · exact Or.inl hg
  have ended : ∀ {m : Node} {h h' : Guard} {k : Nat} {x : Guard.Next}, h.afterPass k = (h', x) →
      (Task.settle m k : Task H).Drives m h h' := by
    intro m h h' k x hp
    have := Drives.settle (H := H) (n := m) (g := h) k
    rwa [hp] at this
  have kept : tk.runs n = false → u.guard? n = s.guard? n := fun hk => by
    rw [Store.guard?_eq, ho.run?_perform h hk, ← Store.guard?_eq]
  cases h with
  | request hd hm => exact set hm (.request _) hg
  | again hm hp => exact set hm (ended hp) hg
  | extra hm hp => exact set hm (ended hp) hg
  | stop hm hp =>
    rw [Store.guard?_noteOutcome] at hg
    exact set hm (ended hp) hg
  | stopExtra hm =>
    rw [Store.guard?_noteOutcome] at hg
    exact set hm (.settleExtra _) hg
  | close | tell | miss | heed | ignore | refuse | keep | bound | pass | gone | goneExtra =>
    exact Or.inl hg
  | follow | bind | update | judge => exact Or.inl (kept rfl ▸ hg)

/-- A pass that is put first has its end behind it. -/
theorem Task.Performs.paired (h : tk.Performs ev s u new) {force : Bool}
    (hn : new.head? = some (.pass n force)) : ∃ z, new = [.pass n force, z] ∧ z.ends? = some n := by
  cases h with
  | request =>
    split at hn
    · cases hn
      exact ⟨_, if_pos ‹_›, rfl⟩
    · cases hn
  | again | extra =>
    cases hn
    exact ⟨_, rfl, rfl⟩
  | judge =>
    split at hn
    · cases hn
    · simp [Store.roundOf] at hn
  | update => simp [Store.roundOf] at hn
  | _ => cases hn

/-- Nothing is pending where a pass is put first. -/
theorem Task.Performs.calm (h : tk.Performs ev s u new)
    (hr : ∀ g, s.guard? n = some g → g.pending → g.running) {force : Bool}
    (hn : new.head? = some (.pass n force)) {g : Guard} (hg : u.guard? n = some g) :
    g.pending = false := by
  cases h with
  | @request m force' g₀ hd hm =>
    split at hn
    · next starts =>
      cases hn
      rw [Store.guard?_setGuard, if_pos rfl, hm] at hg
      cases hg
      obtain ⟨h₁, -, h₂⟩ := Guard.of_request_starts starts
      rw [h₂]
      by_contra hp
      rw [hr g₀ hm (by simpa using hp)] at h₁
      cases h₁
    · cases hn
  | again hm hp =>
    cases hn
    rw [Store.guard?_setGuard, if_pos rfl, hm] at hg
    cases hg
    exact (Guard.of_afterPass_pass hp).2
  | extra hm hp =>
    cases hn
    rw [Store.guard?_setGuard, if_pos rfl, hm] at hg
    cases hg
    exact (Guard.of_afterPass_extra hp).2
  | judge =>
    split at hn
    · cases hn
    · simp [Store.roundOf] at hn
  | update => simp [Store.roundOf] at hn
  | _ => cases hn

end

/-! ## Sessions -/

/-- A piece of work that is done as soon as it comes up: a pass, and a forced request. -/
def Work.isUrgent : Work → Bool
  | .task (.pass _ _) | .task (.recompute _ true) => true
  | _ => false

theorem Work.IsAsk.isUrgent {w : Work} (h : w.IsAsk) : w.isUrgent = false := by
  cases w with
  | task tk =>
    cases tk with
    | recompute n force =>
      cases force with
      | false => rfl
      | true => cases h
    | pass => cases h
    | _ => rfl
  | script | reply => rfl

theorem Work.not_urgent_of_outer {w : Work} (h : w.isOuter) : w.isUrgent = false := by
  cases w with
  | task tk =>
    cases tk with
    | call l e => rfl
    | _ => cases h
  | script | reply => rfl

/-- Of the tasks that are put first none but the first one is urgent. -/
theorem Task.Performs.prompt {ev : Evaluator} {s u : Store Script} {tk : Task Script}
    {new : List (Task Script)} (h : tk.Performs ev s u new) :
    ∀ tk' ∈ new.tail, (Work.task tk').isUrgent = false := by
  cases h with
  | request | judge => split <;> simp [Work.isUrgent]
  | _ => simp [Work.isUrgent]

namespace Session

variable {L : Licence Script} {g : Engine} {s t : Session}

structure Orderly (s : Session) : Prop where
  /-- Passes and forced requests come next wherever there are any. -/
  prompt : ∀ w ∈ s.agenda.tail, w.isUrgent = false
  /-- A request is pending where a forced one is. -/
  even : ∀ n g, s.store.guard? n = some g → g.Even
  /-- Nothing is pending where a pass comes next. -/
  calm : ∀ n force, s.agenda.head? = some (.task (.pass n force)) →
    ∀ g, s.store.guard? n = some g → g.pending = false
  /-- A pass that comes next has its end behind it. -/
  paired : ∀ n force, s.agenda.head? = some (.task (.pass n force)) →
    ∃ z rest, s.agenda = .task (.pass n force) :: .task z :: rest ∧ z.ends? = some n
  staged : ∀ n, s.store.Stage n (s.situation.tasks.filter (Task.concerns n))

theorem situation_of_task {tk : Task Script} {rest : List Work} (hs : s.agenda = .task tk :: rest) :
    s.situation = ⟨s.store, tk :: rest.filterMap Work.task?, s.situation.held⟩ := by
  simp only [situation, hs, List.filterMap_cons, Work.task?]

/-- What is urgent after a task has been put first by it. -/
theorem Orderly.head?_of_urgent (h : s.Orderly) {tk tk' : Task Script} {rest : List Work}
    (ha : s.agenda = .task tk :: rest) {new : List (Task Script)}
    (ht : t.agenda = new.map .task ++ rest) (hu : (Work.task tk').isUrgent)
    (hn : t.agenda.head? = some (.task tk')) : new.head? = some tk' := by
  rw [ht] at hn
  cases new with
  | nil =>
    have := h.prompt _ (by rw [ha]; exact List.mem_of_head? hn)
    rw [hu] at this
    cases this
  | cons tk'' new =>
    cases hn
    rfl

theorem Orderly.perform (h : s.Orderly) (hs : s.Sound) {tk : Task Script} {rest : List Work}
    (ha : s.agenda = .task tk :: rest)
    (ht : t.agenda = (tk.perform s.engine.evaluator s.store).2.map .task ++ rest)
    (hu : (tk.perform s.engine.evaluator s.store).1.Changes L t.store) : t.Orderly := by
  have hp := tk.performs s.engine.evaluator s.store
  have hsp := Store.spares_of_changes hu
  have guarded := hs.situation.guarded
  have ordered := hs.situation.toOrdered
  rw [situation_of_task ha] at guarded ordered
  have later : ∀ w ∈ rest, w.isUrgent = false := by
    have := h.prompt
    rwa [ha] at this
  have pending : ∀ n g, s.store.guard? n = some g → g.pending → g.running := by
    intro n g hg
    obtain ⟨o, hr⟩ := Situation.guard?_eq_some_iff.1 hg
    exact (guarded n g o hr).2
  have first : ∀ n force, t.agenda.head? = some (.task (.pass n force)) →
      (tk.perform s.engine.evaluator s.store).2.head? = some (.pass n force) :=
    fun _ _ hn => h.head?_of_urgent ha ht rfl hn
  refine ⟨?prompt, ?even, ?calm, ?paired, ?staged⟩
  case prompt =>
    rw [ht]
    have first := hp.prompt
    generalize (tk.perform s.engine.evaluator s.store).2 = new at first
    intro w hw
    cases new with
    | nil => exact later w (List.mem_of_mem_tail hw)
    | cons tk' new =>
      rcases List.mem_append.1 hw with hw | hw
      · obtain ⟨tk'', hm, rfl⟩ := List.mem_map.1 hw
        exact first tk'' hm
      · exact later w hw
  case even =>
    intro n g hg
    rcases hsp.guard? hg with hg | ⟨-, hg⟩
    · rcases hp.guard? ordered hg with hg | ⟨g₀, hg₀, hd⟩
      · exact h.even n g hg
      · exact hd.even (h.even n g₀ hg₀)
    · intro hf
      rw [hg.pendingForce] at hf
      cases hf
  case calm =>
    intro n force hn g hg
    rcases hsp.guard? hg with hg | ⟨-, hg⟩
    · exact hp.calm (pending n) (first n force hn) hg
    · exact hg.pending
  case paired =>
    intro n force hn
    obtain ⟨z, hz, he⟩ := hp.paired (first n force hn)
    exact ⟨z, rest, by rw [ht, hz]; rfl, he⟩
  case staged =>
    intro n
    have staged := h.staged n
    rw [situation_of_task ha] at staged
    have count : ∀ g, s.store.guard? n = some g →
        (tk :: rest.filterMap Work.task?).countP (Task.settles n) = if g.running then 1 else 0 := by
      intro g hg
      obtain ⟨o, hr⟩ := Situation.guard?_eq_some_iff.1 hg
      exact (guarded n g o hr).1
    have tasks : t.situation.tasks =
        (tk.perform s.engine.evaluator s.store).2 ++ rest.filterMap Work.task? := by
      simp only [situation, ht, List.filterMap_append, filterMap_task?_map]
    rw [tasks]
    exact (hp.stage count staged).spares hsp

/-- Work from outside that is over leaves a node at its stage, or ends a call. -/
theorem staged_of_outer {u : Store Script} {n : Node} {w : Work} {rest : List Work}
    (hw : w.isOuter)
    (h : u.Stage n (((w :: rest).filterMap Work.task?).filter (Task.concerns n))) :
    u.Stage n ((rest.filterMap Work.task?).filter (Task.concerns n)) := by
  cases w with
  | script | reply => exact h
  | task tk =>
    rw [List.filterMap_cons_some (f := Work.task?) (b := tk) rfl] at h
    by_cases hk : tk.concerns n
    · rw [List.filter_cons_of_pos hk] at h
      cases tk with
      | call l e => exact h.of_call
      | _ => cases hw
    · rwa [List.filter_cons_of_neg hk] at h

/-- Nothing urgent is left where something happens outside the store. -/
theorem Orderly.not_urgent (h : s.Orderly) {pre ws rest : List Work} (ha : s.agenda = pre ++ rest)
    (outer : ∀ w ∈ s.agenda.head?, w.isOuter) (hw : ∀ w ∈ ws, w.IsAsk) :
    ∀ w ∈ ws ++ rest, w.isUrgent = false := by
  intro w hm
  rcases List.mem_append.1 hm with hm | hm
  · exact (hw w hm).isUrgent
  · have hs : w ∈ s.agenda := ha ▸ List.mem_append_right _ hm
    cases hs' : s.agenda with
    | nil =>
      rw [hs'] at hs
      cases hs
    | cons w' ws' =>
      rw [hs'] at hs
      rcases List.mem_cons.1 hs with rfl | hs
      · exact Work.not_urgent_of_outer (outer w (by rw [hs']; rfl))
      · exact h.prompt w (by rwa [hs'])

theorem Orderly.ask (h : s.Orderly) {pre ws rest : List Work} (ha : s.agenda = pre ++ rest)
    (hp : pre.length ≤ 1) (outer : ∀ w ∈ s.agenda.head?, w.isOuter) (ht : t.agenda = ws ++ rest)
    (hw : ∀ w ∈ ws, w.IsAsk) (hu : s.store.Changes L t.store) : t.Orderly := by
  have hsp := Store.spares_of_changes hu
  have later := h.not_urgent ha outer hw
  refine ⟨?prompt, ?even, ?calm, ?paired, ?staged⟩
  case prompt =>
    rw [ht]
    exact fun w hm => later w (List.mem_of_mem_tail hm)
  case even =>
    intro n g hg
    rcases hsp.guard? hg with hg | ⟨-, hg⟩
    · exact h.even n g hg
    · intro hf
      rw [hg.pendingForce] at hf
      cases hf
  case calm =>
    intro n force hn
    rw [ht] at hn
    have := later _ (List.mem_of_head? hn)
    cases this
  case paired =>
    intro n force hn
    rw [ht] at hn
    have := later _ (List.mem_of_head? hn)
    cases this
  case staged =>
    intro n
    have none : (ws.filterMap Work.task?).filter (Task.concerns n) = [] := by
      rw [List.filter_eq_nil_iff]
      intro tk htk
      obtain ⟨w, hm, hk⟩ := List.mem_filterMap.1 htk
      cases w with
      | task tk' =>
        cases hk
        simp [(hw _ hm : tk.IsAsk).concerns n]
      | script | reply => cases hk
    have staged : s.store.Stage n ((rest.filterMap Work.task?).filter (Task.concerns n)) := by
      have staged : s.store.Stage n ((s.agenda.filterMap Work.task?).filter (Task.concerns n)) :=
        h.staged n
      rw [ha] at staged outer
      cases pre with
      | nil => exact staged
      | cons w pre =>
        obtain rfl := List.eq_nil_of_length_eq_zero (Nat.le_zero.1 (Nat.le_of_succ_le_succ hp))
        exact staged_of_outer (outer w rfl) staged
    simp only [situation, ht, List.filterMap_append, List.filter_append, none, List.nil_append]
    exact staged.spares hsp

/-- Whatever happens keeps a session orderly. -/
theorem Orderly.turn (h : s.Orderly) (hs : s.Sound) (ht : s.Turn L t) : t.Orderly := by
  cases ht with
  | perform ha _ ht hu => exact h.perform hs ha ht hu
  | ask ha hp outer ht hw hu => exact h.ask ha hp outer ht (fun w hm => (hw w hm).1) hu

theorem Orderly.move (h : s.Orderly) (hs : s.Sound) (hm : s.Move t) : t.Orderly :=
  h.turn hs hm.turn

/-- A session begins with some objects and what has been swept. -/
theorem introduces_withObjects {objects : List (String × List (String × Operand))}
    (h : (ofEngine g).withObjects objects = .ok s) :
    ∃ u : Session, u.Introduces g ∧ s = u.sweep := by
  obtain ⟨t, ht, h⟩ := ok_of_bind h
  have hi : (ofEngine g).Introduces g := ⟨rfl, .refl _, fun _ hx => by cases hx⟩
  cases h
  exact ⟨_, (hi.newObjects objects).setEach ht, rfl⟩

/-- There are no nodes in the beginning. -/
theorem guard?_withObjects {objects : List (String × List (String × Operand))}
    (h : (ofEngine g).withObjects objects = .ok s) (n : Node) : s.store.guard? n = none := by
  obtain ⟨u, hu, rfl⟩ := introduces_withObjects h
  rw [Option.eq_none_iff_forall_ne_some]
  intro k hk
  obtain ⟨k, hk, -⟩ := (Store.Subsides.sweep (r := none) u.held).guard? hk
  cases n with
  | proxy p =>
    simp only [Store.guard?, Store.proxy?, hu.builds.proxies] at hk
    cases hk
  | validator v =>
    simp only [Store.guard?, Store.validator?, hu.builds.validators] at hk
    cases hk

theorem orderly_withObjects {objects : List (String × List (String × Operand))}
    (h : (ofEngine g).withObjects objects = .ok s) : s.Orderly where
  prompt := by
    rw [agenda_withObjects h]
    exact List.forall_mem_nil _
  even n k hk := by
    rw [guard?_withObjects h] at hk
    cases hk
  calm n force hn := by
    rw [agenda_withObjects h] at hn
    cases hn
  paired n force hn := by
    rw [agenda_withObjects h] at hn
    cases hn
  staged n := by
    rw [tasks_of_idle (agenda_withObjects h)]
    exact .rest

/-- Every session that comes about is orderly. -/
theorem Reachable.orderly (h : Reachable g s) : s.Orderly := by
  obtain ⟨objects, s₀, h₀, h⟩ := h
  have hs := sound_withObjects h₀
  induction h with
  | refl => exact orderly_withObjects h₀
  | tail h hm ih => exact ih.move (hs.moves h).sound hm

end Session

end LiveForm
