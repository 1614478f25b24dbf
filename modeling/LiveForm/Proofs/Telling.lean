/-
  Who is still to be told of a change.

  A round tells listeners by their numbers, one after the other, and between two of them anything may
  happen. Who hears of an event under a number that is left in the round will be told, unless it gives
  the number up.

  * `Store.Hears` and `Situation.Told`: a node hears under a number, and is still to be told;
  * `Told.perform`: it is then told, or still to be told, when a task is performed;
  * `Ordered.frame_perform`: a task changes the node that it is about, and runs;
  * `Ordered.later`: a step leads to a later store.
-/
import LiveForm.Proofs.Runs

namespace LiveForm

variable {H : Type}

/-- A node hears of an event under a number: a proxy of the properties that it is subscribed to, and
    a validator of the proxies that it watches. -/
def Store.Hears (s : Store H) : Node → Event → Nat → Prop
  | .proxy p, .property o _, k => ∃ name, s.Subscribed p o k name
  | .validator v, .value q _, k => (∃ x, s.validator? v = some x ∧ q ∈ x.watched) ∧ s.Listens v q k
  | _, _, _ => False

/-- A task tells a node of a change. -/
def Task.Tells (s : Store H) (n : Node) : Task H → Prop
  | .call l _ => l.node? = some n
  | .round e ks => ∃ k ∈ ks, s.Hears n e k
  | _ => False

/-- The node that a task may change, but for its runs. -/
def Task.subject? : Task H → Option Node
  | .call l _ => l.node?
  | .pass n _ => some n
  | .rebind _ (p :: _) => some (.proxy p)
  | _ => none

namespace Store

variable {s t : Store H} {n : Node} {e : Event} {k : Nat}

theorem Hears.listener? (h : s.Hears n e k) : ∃ l, s.listener? e k = some l ∧ l.node? = some n := by
  unfold Hears at h
  split at h
  · next p o m =>
    obtain ⟨name, x, hx, hk⟩ := h
    exact ⟨.proxy p, by simp [Store.listener?, hx, hk], rfl⟩
  · next v q w =>
    obtain ⟨-, x, hx, hk⟩ := h
    exact ⟨.validator v, by simp [Store.listener?, hx, hk], rfl⟩
  · cases h

theorem Hears.of_subscribed {p : ProxyId}
    (hs : ∀ o k name, s.Subscribed p o k name → t.Subscribed p o k name)
    (h : s.Hears (.proxy p) e k) : t.Hears (.proxy p) e k := by
  cases e with
  | property o m =>
    obtain ⟨name, h⟩ := h
    exact ⟨name, hs _ _ _ h⟩
  | value q v => cases h
  | result v r => cases h

end Store

namespace Situation

variable {ev : Evaluator} {c d : Situation H} {n : Node}

/-- A node is still to be told of a change. -/
def Told (c : Situation H) (n : Node) : Prop := ∃ tk ∈ c.tasks, tk.Tells c.store n

theorem Told.mono (h : c.Told n) (ht : ∀ tk ∈ c.tasks, tk ∈ d.tasks)
    (hs : ∀ e k, c.store.Hears n e k → d.store.Hears n e k) : d.Told n := by
  obtain ⟨tk, htk, h⟩ := h
  refine ⟨tk, ht tk htk, ?_⟩
  unfold Task.Tells at h ⊢
  split at h
  · exact h
  · obtain ⟨k, hk, h⟩ := h
    exact ⟨k, hk, hs _ _ h⟩
  · cases h

section

variable {s t : Store H} {tk : Task H} {new ts : List (Task H)} {held : List Entity}

/-- A task changes its subject alone, and runs. -/
theorem Ordered.frame_perform (ho : Ordered ⟨s, tk :: ts, held⟩) (hp : tk.Performs ev s t new) :
    ∃ r, Store.Frame tk.subject? r s t := by
  cases hp with
  | close | tell | miss | heed | ignore | refuse | keep | bound | pass | gone | goneExtra =>
    exact ⟨none, .refl s⟩
  | @follow p x e hx hd =>
    exact ⟨none, (Store.follow_spec hx hd ho.sealed (ho.ledger p)).1⟩
  | @bind b p ps x hx hd => exact ⟨none, Store.frame_bindProxy (ho.ledger p).toNoted b⟩
  | update hx hd hv => exact ⟨none, .replaceValue (Store.suits_sourceValue hx hv)⟩
  | @judge v x r force hx hr => exact ⟨none, .replaceResult v r⟩
  | @request m | @again m | @extra m => exact ⟨some m, .setGuard m _⟩
  | @stop m | @stopExtra m => exact ⟨some m, (Store.Frame.setGuard m _).trans (.noteOutcome m _)⟩

/-- Who is to be told is told or still to be told when a task is performed, in every store in which it
    hears what it heard. -/
theorem Told.perform {u : Store H} {held' : List Entity} (h : Told ⟨s, tk :: ts, held⟩ n)
    (hp : tk.Performs ev s t new) (hs : ∀ e k, s.Hears n e k → u.Hears n e k)
    (hk : ∀ l e, tk = .call l e → l.node? ≠ some n) : Told ⟨u, new ++ ts, held'⟩ n := by
  obtain ⟨tk', htk, h⟩ := h
  rcases List.mem_cons.1 htk with rfl | htk
  · unfold Task.Tells at h
    split at h
    · exact absurd h (hk _ _ rfl)
    · obtain ⟨k, hk, h⟩ := h
      cases hp with
      | close => cases hk
      | @tell e k' ks l hl =>
        rcases List.mem_cons.1 hk with rfl | hk
        · obtain ⟨l', hl', hn⟩ := h.listener?
          obtain rfl := Option.some.inj (hl.symm.trans hl')
          exact ⟨_, List.mem_append_left _ (List.mem_cons_self ..), hn⟩
        · exact ⟨_, List.mem_append_left _ (List.mem_cons_of_mem _ (List.mem_cons_self ..)), k, hk,
            hs _ _ h⟩
      | @miss e k' ks hl =>
        rcases List.mem_cons.1 hk with rfl | hk
        · obtain ⟨l', hl', -⟩ := h.listener?
          rw [hl] at hl'
          cases hl'
        · exact ⟨_, List.mem_append_left _ (List.mem_cons_self ..), k, hk, hs _ _ h⟩
    · cases h
  · exact Told.mono (c := ⟨s, ts, held⟩) ⟨tk', htk, h⟩ (fun _ => List.mem_append_right _) hs

end

/-- A step leads to a later store. -/
theorem Ordered.later (ho : c.Ordered) (hs : Step ev c d) : c.store.Later d.store := by
  cases hs with
  | hold | ask | rebind => exact .refl _
  | build hb => exact hb.later
  | change _ hf => exact hf.later
  | handle hf => exact hf.later
  | newProxy => exact (Store.newProxy_spec _ _ _ ho.sealed (ho.ledger _)).1.later
  | disposeProxy p => exact (Store.frame_disposeProxy (r := none) (ho.ledger p)).later
  | newValidator hh => exact (Store.newValidator_spec ev _ _ _ hh).1.later
  | disposeValidator v => exact (Store.frame_disposeValidator (r := none) (ho.hearing v)).later
  | form _ _ hf => exact .of_forms hf rfl rfl rfl
  | perform hp =>
    obtain ⟨r, hf⟩ := ho.frame_perform hp
    exact hf.later
  | @drop s ts held e hn =>
    cases e with
    | object o => exact Store.later_drop_object o
    | proxy p => exact (Store.drop_proxy_spec (ho.ledger p)).1.later
    | validator v => exact (Store.drop_validator_spec (ho.hearing v)).1.later
    | form f => exact .of_forms (.remove FormState.Later.refl _) rfl rfl rfl

end Situation

end LiveForm
