/-
  Sound situations: all that every step preserves.

  * `Situation.Sound` and `Sound.step`: the facts and their preservation;
  * `Situation.Steps`: any number of steps;
  * `Guarded.idle_rest` and `Asked.idle_cutOff`: what they come to where nothing is left to be done;
  * `Situation.Grows`: steps that add to the store and touch neither the tasks nor what is held.
-/
import LiveForm.Proofs.Following
import LiveForm.Proofs.Validating
import Mathlib.Logic.Relation

namespace LiveForm

variable {H : Type}

namespace Situation

variable {ev : Evaluator} {c d : Situation H}

structure Sound (ev : Evaluator) (c : Situation H) : Prop extends c.Ordered where
  guarded : ∀ n, c.Guarded n
  follows : ∀ p, c.Follows ev p
  validates : ∀ v, c.Validates ev v

/-- Every step keeps a situation sound. -/
theorem Sound.step (h : c.Sound ev) (hs : Step ev c d) : d.Sound ev where
  toOrdered := h.toOrdered.step hs
  guarded n := (h.guarded n).step h.toOrdered hs
  follows p := (h.follows p).step h.toOrdered (h.guarded _) hs
  validates v := (h.validates v).step h.toOrdered (h.guarded _) hs

/-- The situation without anything in it is sound. -/
theorem sound_empty (ev : Evaluator) : Sound ev (⟨.empty, [], []⟩ : Situation H) where
  alive e he := by
    rcases he with he | ⟨tk, htk, -⟩ | he
    · cases he
    · cases htk
    · rcases he with ⟨o, x, hx, -⟩ | ⟨p, x, hx, -⟩ | ⟨v, x, hx, -⟩ | ⟨f, x, hx, -⟩ <;> cases hx
  knows b hb := by
    rcases hb with ⟨p, x, hx, -⟩ | ⟨f, x, hx, -⟩ | ⟨tk, htk, -⟩
    · cases hx
    · cases hx
    · cases htk
  ledger p := .of_none rfl fun o n name h => by
    obtain ⟨x, hx, -⟩ := h
    cases hx
  hearing v := .of_none rfl
  guarded n := by
    intro g o h
    cases n <;> cases h
  follows p := by
    intro x hx
    cases hx
  validates v := by
    intro x hx
    cases hx

abbrev Steps (ev : Evaluator) : Situation H → Situation H → Prop := Relation.ReflTransGen (Step ev)

theorem Sound.steps (h : c.Sound ev) (hs : Steps ev c d) : d.Sound ev := by
  induction hs with
  | refl => exact h
  | tail _ hs ih => exact ih.step hs

/-- Steps lead to a later store. -/
theorem Sound.later (h : c.Sound ev) (hs : Steps ev c d) : c.store.Later d.store := by
  induction hs with
  | refl => exact .refl _
  | tail hs hst ih => exact ih.trans ((h.steps hs).toOrdered.later hst)

/-! ## Rest -/

theorem Told.not_idle {n : Node} (h : c.Told n) : c.tasks ≠ [] := by
  intro ht
  obtain ⟨tk, htk, -⟩ := h
  rw [ht] at htk
  cases htk

/-- Where nothing is left to be done, no node runs and no request is pending. -/
theorem Guarded.idle_rest {n : Node} (h : c.Guarded n) (ht : c.tasks = []) {g : Guard}
    {o : Option RunOutcome} (hr : c.store.run? n = some (g, o)) :
    g.running = false ∧ g.pending = false := by
  obtain ⟨hc, hp⟩ := h g o hr
  have hg : g.running = false := by
    rw [ht, List.countP_nil] at hc
    by_contra hg
    simp [hg] at hc
  exact ⟨hg, by simpa [hg] using hp⟩

/-- Where nothing is left to be done, who still asks to be computed anew has been cut off. -/
theorem Asked.idle_cutOff {n : Node} (h : c.Asked n) (hg : c.Guarded n) (ht : c.tasks = []) :
    ∃ g k, c.store.run? n = some (g, some (.cutOff k)) := by
  rcases h with ⟨tk, htk, -⟩ | ⟨g, o, hr, h⟩
  · rw [ht] at htk
    cases htk
  · rcases h with hp | ⟨-, k, rfl⟩
    · rw [(hg.idle_rest ht hr).2] at hp
      cases hp
    · exact ⟨g, k, hr⟩

/-! ## Growth -/

/-- A store comes from that of a situation by steps that take nothing away. -/
structure Grows (ev : Evaluator) (c : Situation H) (t : Store H) : Prop where
  steps : Steps ev c { c with store := t }
  alive : ∀ e, c.store.Alive e → t.Alive e

variable {t u : Store H}

theorem Grows.refl (c : Situation H) : c.Grows ev c.store := ⟨.refl, fun _ => id⟩

theorem Grows.trans (h₁ : c.Grows ev t) (h₂ : Grows ev { c with store := t } u) : c.Grows ev u :=
  ⟨h₁.steps.trans h₂.steps, fun e he => h₂.alive e (h₁.alive e he)⟩

theorem Grows.build (h : c.store.Builds t) : c.Grows ev t :=
  ⟨.single (.build h), fun _ => h.alive⟩

/-- A proxy of what is alive and known can be made. -/
theorem Grows.newProxy (h : c.Ordered) (source : ProxySource) {b : Binding}
    (limit : Nat)
    (hs : ∀ v, source = .constant v → ∀ e ∈ v.entities, c.store.Alive e) (hb : c.store.Knows b) :
    c.Grows ev (c.store.newProxy source b limit).1 ∧
      (c.store.newProxy source b limit).1.Alive
        (.proxy (c.store.newProxy source b limit).2) := by
  obtain ⟨hf, ws, hy, -, -⟩ := Store.newProxy_spec source b limit h.sealed (h.ledger _)
  have hp : (c.store.newProxy source b limit).1.Alive (.proxy ⟨c.store.proxies.next⟩) :=
    Option.isSome_iff_exists.2 ⟨_, hy⟩
  exact ⟨⟨.single (.newProxy hs hb), fun e => hf.alive_of_some hp⟩, hp⟩

/-- A validator of proxies that are alive can be made. -/
theorem Grows.newValidator (ev : Evaluator) (field : ProxyId) (rules : List (Rule ProxyId))
    (limit : Nat) (hp : ∀ p ∈ field :: rules.flatMap Rule.sources, c.store.Alive (.proxy p)) :
    c.Grows ev (c.store.newValidator ev field rules limit).1 ∧
      (c.store.newValidator ev field rules limit).1.Alive
        (.validator (c.store.newValidator ev field rules limit).2) := by
  obtain ⟨hf, ⟨ws, hy⟩, -⟩ := Store.newValidator_spec ev field rules limit hp
  have hv : (c.store.newValidator ev field rules limit).1.Alive
      (.validator ⟨c.store.validators.next⟩) := Option.isSome_iff_exists.2 ⟨_, hy⟩
  exact ⟨⟨.single (.newValidator hp), fun e => hf.alive_of_some hv⟩, hv⟩

/-- A form of fields that are alive can be made. -/
theorem Grows.newForm (h : c.Ordered) (ev : Evaluator) {fields : List Field} {b : Binding}
    (hf : ∀ e ∈ (FormState.mk fields b).entities, c.store.Alive e) (hb : c.store.Knows b) :
    c.Grows ev (c.store.newForm fields b).1 ∧
      (c.store.newForm fields b).1.Alive (.form (c.store.newForm fields b).2) := by
  have get : ∀ n, (c.store.forms.add ⟨fields, b⟩).get? n =
      if n = c.store.forms.next then some ⟨fields, b⟩ else c.store.forms.get? n :=
    fun n => Roster.get?_add ..
  have hs : ∀ n, (c.store.forms.get? n).isSome → ((c.store.forms.add ⟨fields, b⟩).get? n).isSome := by
    intro n hn
    rw [get]
    split
    · rfl
    · exact hn
  refine ⟨⟨.single (.form (fun n x hx => ?_) hs (.add FormState.Later.refl _)), fun e he => ?_⟩, ?_⟩
  · rw [get] at hx
    split at hx
    · cases hx
      exact ⟨hf, hb⟩
    · exact ⟨fun e he => h.alive e (Or.inr (Or.inr (Or.inr (Or.inr (Or.inr ⟨⟨n⟩, x, hx, he⟩))))),
        h.knows _ (Or.inr (Or.inl ⟨⟨n⟩, x, hx, rfl⟩))⟩
  · cases e with
    | object o => exact he
    | proxy p => exact he
    | validator v => exact he
    | form f => exact hs f.index he
  · show ((c.store.forms.add ⟨fields, b⟩).get? c.store.forms.next).isSome
    rw [get, if_pos rfl]
    rfl

theorem Grows.knows (hg : c.Grows ev t) (h : c.Sound ev) {b : Binding} (hb : c.store.Knows b) :
    t.Knows b := (h.later hg.steps).knows hb

theorem Grows.sound (hg : c.Grows ev t) (h : c.Sound ev) : Sound ev { c with store := t } :=
  h.steps hg.steps

end Situation

end LiveForm
