/-
  Sessions as situations.

  A session is a situation in which the names, the scripts and the replies on the agenda hold
  entities. What it knows besides are numbers of handlers, by which handlers are taken back, and
  bindings that forms are to get.

  * `Session.Sound`: the situation is sound, and the numbers and bindings are in order;
  * `Session.Onward`: a session goes on to a sound one, and its engine reads templates at most;
  * `Session.Extends`: it goes on, and nothing has been taken away;
  * `Effect.Leads`: it goes on when an effect takes place.
-/
import LiveForm.Proofs.Caching
import LiveForm.Proofs.Soundness
import LiveForm.Session.Run

namespace LiveForm

open Situation

/-- A listener is a handler. -/
def Listener.IsHandler {H : Type} : Listener H → Prop
  | .handler _ => True
  | _ => False

def Work.task? : Work → Option (Task Script)
  | .task t => some t
  | _ => none

namespace Session

/-- What has a name. -/
def named (s : Session) : List Entity :=
  s.objects.map (fun n => .object n.2.id) ++ s.proxies.map (fun n => .proxy n.2) ++
    s.validators.map (fun n => .validator n.2) ++ s.forms.map (fun n => .form n.2)

def situation (s : Session) : Situation Script where
  store := s.store
  tasks := s.agenda.filterMap Work.task?
  held := s.named ++ (s.agenda.filter (·.task?.isNone)).flatMap Work.entities

structure Owned (s : Session) : Prop where
  /-- The numbers that observers are taken back by are those of handlers. -/
  observers : ∀ x ∈ s.observers, s.store.Seat Listener.IsHandler x.2.1 x.2.2
  /-- The numbers that listeners are taken back by are those of handlers. -/
  listeners : ∀ x ∈ s.listeners, s.store.Ear Listener.IsHandler x.2.1 x.2.2
  /-- The bindings that forms are to get are known. -/
  bindings : ∀ f b named handler, .reply (.formBound f b named) handler ∈ s.agenda →
    s.store.Knows b

structure Sound (s : Session) : Prop extends s.Owned where
  situation : s.situation.Sound s.engine.evaluator

/-- A session goes on to a sound one by steps of its situation, and its engine reads templates at
    most. -/
structure Onward (s t : Session) : Prop where
  sound : t.Sound
  engine : s.engine.Later t.engine
  later : s.store.Later t.store
  steps : Steps s.engine.evaluator s.situation t.situation

/-- A session goes on, and nothing is taken away. -/
structure Extends (s t : Session) : Prop extends s.Onward t where
  alive : ∀ e, s.store.Alive e → t.store.Alive e

variable {s t u : Session}

theorem Onward.refl (h : s.Sound) : s.Onward s := ⟨h, .refl _, .refl _, .refl⟩

theorem Onward.trans (h₁ : s.Onward t) (h₂ : t.Onward u) : s.Onward u where
  sound := h₂.sound
  engine := h₁.engine.trans h₂.engine
  later := h₁.later.trans h₂.later
  steps := h₁.steps.trans (h₁.engine.evaluator ▸ h₂.steps)

theorem Extends.refl (h : s.Sound) : s.Extends s := ⟨.refl h, fun _ => id⟩

theorem Extends.trans (h₁ : s.Extends t) (h₂ : t.Extends u) : s.Extends u :=
  ⟨h₁.toOnward.trans h₂.toOnward, fun e he => h₂.alive e (h₁.alive e he)⟩

/-! ## What is held -/

/-- In the situation of a session everything is held that the session holds. -/
theorem keeps_situation {e : Entity} :
    s.situation.Keeps e ↔ e ∈ s.held ∨ s.store.Refers e := by
  simp only [Keeps, situation, held, named, List.mem_append, List.mem_flatMap, List.mem_filter,
    List.mem_filterMap]
  constructor
  · rintro ((h | ⟨w, ⟨hw, -⟩, he⟩) | ⟨tk, ⟨w, hw, hwt⟩, he⟩ | h)
    · exact Or.inl (Or.inl h)
    · exact Or.inl (Or.inr ⟨w, hw, he⟩)
    · refine Or.inl (Or.inr ⟨w, hw, ?_⟩)
      cases w with
      | task tk' => cases hwt; exact he
      | script | reply => cases hwt
    · exact Or.inr h
  · rintro ((h | ⟨w, hw, he⟩) | h)
    · exact Or.inl (Or.inl h)
    · cases w with
      | task tk => exact Or.inr (Or.inl ⟨tk, ⟨_, hw, rfl⟩, he⟩)
      | script | reply => exact Or.inl (Or.inr ⟨_, ⟨hw, rfl⟩, he⟩)
    · exact Or.inr (Or.inr h)

theorem Sound.alive (h : s.Sound) {e : Entity} (he : e ∈ s.held) : s.store.Alive e :=
  h.situation.alive e (keeps_situation.2 (Or.inl he))

theorem Sound.object (h : s.Sound) {x : String × ObjectRef} (hx : x ∈ s.objects) :
    s.store.Lives x.2.id := by
  refine h.alive (e := .object x.2.id) ?_
  simp only [held, List.mem_append, List.mem_map]
  exact Or.inl (Or.inl (Or.inl (Or.inl ⟨x, hx, rfl⟩)))

theorem Sound.proxy (h : s.Sound) {x : String × ProxyId} (hx : x ∈ s.proxies) :
    s.store.Alive (.proxy x.2) := by
  refine h.alive ?_
  simp only [held, List.mem_append, List.mem_map]
  exact Or.inl (Or.inl (Or.inl (Or.inr ⟨x, hx, rfl⟩)))

theorem Sound.validator (h : s.Sound) {x : String × ValidatorId} (hx : x ∈ s.validators) :
    s.store.Alive (.validator x.2) := by
  refine h.alive ?_
  simp only [held, List.mem_append, List.mem_map]
  exact Or.inl (Or.inl (Or.inr ⟨x, hx, rfl⟩))

theorem Sound.form (h : s.Sound) {x : String × FormId} (hx : x ∈ s.forms) :
    s.store.Alive (.form x.2) := by
  refine h.alive ?_
  simp only [held, List.mem_append, List.mem_map]
  exact Or.inl (Or.inr ⟨x, hx, rfl⟩)

theorem mem_putName {α : Type} {name : String} {a : α} {names : List (String × α)}
    {x : String × α} (h : x ∈ putName name a names) : x ∈ names ∨ x = (name, a) := by
  rcases List.mem_cons.1 h with h | h
  · exact Or.inr h
  · exact Or.inl (List.mem_filter.1 h).1

theorem mem_dropName {α : Type} {name : String} {names : List (String × α)} {x : String × α}
    (h : x ∈ dropName name names) : x ∈ names := (List.mem_filter.1 h).1

/-! ## Going on -/

/-- A session goes on by steps of its situation, as long as its numbers and bindings stay in
    order. -/
theorem Onward.of_steps (h : s.Sound) (he : s.engine.Later t.engine)
    (hs : Steps s.engine.evaluator s.situation t.situation)
    (observers : ∀ x ∈ t.observers, x ∈ s.observers ∨ t.store.Seat Listener.IsHandler x.2.1 x.2.2)
    (listeners : ∀ x ∈ t.listeners, x ∈ s.listeners ∨ t.store.Ear Listener.IsHandler x.2.1 x.2.2)
    (bindings : ∀ f b named handler, .reply (.formBound f b named) handler ∈ t.agenda →
      .reply (.formBound f b named) handler ∈ s.agenda ∨ t.store.Knows b) : s.Onward t := by
  have hl : s.store.Later t.store := h.situation.later hs
  refine ⟨⟨⟨fun x hx => ?_, fun x hx => ?_, fun f b n k hx => ?_⟩, ?_⟩, he, hl, hs⟩
  · exact (observers x hx).elim (fun hx => (h.observers x hx).later hl) id
  · exact (listeners x hx).elim (fun hx => (h.listeners x hx).later hl) id
  · exact (bindings f b n k hx).elim (fun hx => hl.knows (h.bindings f b n k hx)) id
  · rw [he.evaluator]
    exact h.situation.steps hs

/-- A session goes on with a store that comes from its own by additions. -/
theorem Extends.of_grows (h : s.Sound) {w : Workspace Script}
    (he : s.engine.Later w.engine)
    (hg : Grows s.engine.evaluator s.situation w.store) :
    s.Extends { s with workspace := w } :=
  ⟨.of_steps h he hg.steps (fun _ => Or.inl) (fun _ => Or.inl) fun _ _ _ _ => Or.inl, hg.alive⟩

theorem Extends.withStore (h : s.Sound) {u : Store Script}
    (hg : Grows s.engine.evaluator s.situation u) : s.Extends (s.withStore u) :=
  .of_grows h (.refl _) hg

theorem Extends.of_builds (h : s.Sound) {u : Store Script} (hb : s.store.Builds u) :
    s.Extends (s.withStore u) := .withStore h (.build hb)

theorem Extends.of_frame (h : s.Sound) {u : Store Script} (hf : Store.Frame none none s.store u) :
    s.Extends (s.withStore u) :=
  .withStore h ⟨.single (.handle hf), fun _ => hf.alive_iff_of_none.2⟩

/-- What is alive may have names. -/
theorem Extends.names (h : s.Sound) {objects : List (String × ObjectRef)}
    {proxies : List (String × ProxyId)} {validators : List (String × ValidatorId)}
    {forms : List (String × FormId)} (ho : ∀ x ∈ objects, s.store.Lives x.2.id)
    (hp : ∀ x ∈ proxies, s.store.Alive (.proxy x.2))
    (hv : ∀ x ∈ validators, s.store.Alive (.validator x.2))
    (hf : ∀ x ∈ forms, s.store.Alive (.form x.2)) :
    s.Extends { s with
      objects := objects, proxies := proxies, validators := validators, forms := forms } := by
  refine ⟨.of_steps h (.refl _) (.single (.hold fun e he => ?_)) (fun _ => Or.inl) (fun _ => Or.inl)
    fun _ _ _ _ => Or.inl, fun _ => id⟩
  rcases List.mem_append.1 he with he | he
  · simp only [named, List.mem_append, List.mem_map] at he
    obtain ((⟨x, hx, rfl⟩ | ⟨x, hx, rfl⟩) | ⟨x, hx, rfl⟩) | ⟨x, hx, rfl⟩ := he
    · exact ho x hx
    · exact hp x hx
    · exact hv x hx
    · exact hf x hx
  · exact h.situation.alive e (Or.inl (List.mem_append_right _ he))

theorem Extends.nameObject (h : s.Sound) (name : String) {o : ObjectRef} (ho : s.store.Lives o.id) :
    s.Extends { s with objects := putName name o s.objects } :=
  .names h (fun x hx => (mem_putName hx).elim (fun hx => h.object hx) fun e => by rwa [e])
    (fun _ => h.proxy) (fun _ => h.validator) fun _ => h.form

theorem Extends.nameProxy (h : s.Sound) (name : String) {p : ProxyId}
    (hp : s.store.Alive (.proxy p)) : s.Extends { s with proxies := putName name p s.proxies } :=
  .names h (fun _ => h.object)
    (fun x hx => (mem_putName hx).elim (fun hx => h.proxy hx) fun e => by rwa [e])
    (fun _ => h.validator) fun _ => h.form

theorem Extends.nameValidator (h : s.Sound) (name : String) {v : ValidatorId}
    (hv : s.store.Alive (.validator v)) :
    s.Extends { s with validators := putName name v s.validators } :=
  .names h (fun _ => h.object) (fun _ => h.proxy)
    (fun x hx => (mem_putName hx).elim (fun hx => h.validator hx) fun e => by rwa [e])
    fun _ => h.form

theorem Extends.nameForm (h : s.Sound) (name : String) {f : FormId}
    (hf : s.store.Alive (.form f)) : s.Extends { s with forms := putName name f s.forms } :=
  .names h (fun _ => h.object) (fun _ => h.proxy) (fun _ => h.validator)
    fun x hx => (mem_putName hx).elim (fun hx => h.form hx) fun e => by rwa [e]

end Session

/-! ## Effects -/

/-- A session goes on when an effect takes place, whoever is to get the answer. -/
def Effect.Leads (s : Session) (x : Effect) : Prop :=
  ∀ handler, s.Onward (x.session.push (x.tasks.map .task ++ [.reply x.reply handler]))

namespace Session

variable {s t : Session}

theorem leads_of_onward {x : Effect} (h : s.Onward t) (hx : x.Leads t) : x.Leads s :=
  fun handler => h.trans (hx handler)

theorem filterMap_task?_map (tasks : List (Task Script)) :
    (tasks.map Work.task).filterMap Work.task? = tasks := by
  rw [List.filterMap_map]
  exact List.filterMap_some

theorem filter_task?_map (tasks : List (Task Script)) :
    (tasks.map Work.task).filter (·.task?.isNone) = [] := by
  rw [List.filter_eq_nil_iff]
  intro w hw
  obtain ⟨tk, -, rfl⟩ := List.mem_map.1 hw
  simp [Work.task?]

/-- Tasks are put before the others, and the reply holds what it is about. -/
theorem situation_push (s : Session) (u : Store Script) (tasks : List (Task Script)) (r : Reply)
    (handler : Option String) :
    ((s.withStore u).push (tasks.map .task ++ [.reply r handler])).situation =
      ⟨u, tasks ++ s.situation.tasks,
        s.named ++ (r.entities ++ (s.agenda.filter (·.task?.isNone)).flatMap Work.entities)⟩ := by
  have h₃ : [Work.reply r handler].filterMap Work.task? = [] := rfl
  have h₄ : [Work.reply r handler].filter (·.task?.isNone) = [.reply r handler] := rfl
  show Situation.mk u (List.filterMap _ (_ ++ _ ++ _)) (s.named ++ (List.filter _ (_ ++ _ ++ _)).flatMap _) = _
  rw [List.filterMap_append, List.filterMap_append, filterMap_task?_map, h₃, List.append_nil,
    List.filter_append, List.filter_append, filter_task?_map, h₄]
  rfl

/-- A session goes on when steps are taken that put some tasks before the others, and the reply is
    about what is alive. -/
theorem leads_of_steps (h : s.Sound) {u : Store Script} {t : List (Task Script)} {r : Reply}
    (hs : Steps s.engine.evaluator s.situation
      ⟨u, t ++ s.situation.tasks, s.situation.held⟩)
    (hr : ∀ e ∈ r.entities, u.Alive e) (hb : ∀ f b named, r = .formBound f b named → u.Knows b) :
    Effect.Leads s ⟨s.withStore u, t, r⟩ := by
  intro handler
  have hs' := h.situation.steps hs
  refine .of_steps h (.refl _) ?_ (fun _ => Or.inl) (fun _ => Or.inl) fun f b named handler' hm => ?_
  · rw [situation_push]
    refine hs.tail (.hold ?_)
    intro e he
    rcases List.mem_append.1 he with he | he
    · exact hs'.alive e (Or.inl (List.mem_append_left _ he))
    · rcases List.mem_append.1 he with he | he
      · exact hr e he
      · exact hs'.alive e (Or.inl (List.mem_append_right _ he))
  · simp only [push, List.mem_append, List.mem_map, List.mem_singleton] at hm
    rcases hm with (⟨tk, -, e⟩ | e) | hm
    · cases e
    · cases e
      exact Or.inr (hb f b named rfl)
    · exact Or.inl hm

/-- A reply that is about no entity asks for nothing. -/
theorem leads_of_steps_of_empty (h : s.Sound) {u : Store Script} {t : List (Task Script)} {r : Reply}
    (hs : Steps s.engine.evaluator s.situation ⟨u, t ++ s.situation.tasks, s.situation.held⟩)
    (hr : r.entities = []) : Effect.Leads s ⟨s.withStore u, t, r⟩ := by
  refine leads_of_steps h hs ?alive ?binding
  case alive =>
    rw [hr]
    exact List.forall_mem_nil _
  case binding =>
    rintro f b named rfl
    cases hr

/-- A command that is over at once. -/
theorem leads_answering (h : s.Sound) {a : Answer}
    (ha : ∀ e ∈ (Reply.answer a).entities, s.store.Alive e) : (s.answering a).Leads s := by
  refine leads_of_steps h (u := s.store) (t := []) .refl ha ?binding
  intro f b named e
  cases e

theorem leads_answering_of_empty (h : s.Sound) {a : Answer}
    (ha : (Reply.answer a).entities = []) : (s.answering a).Leads s :=
  leads_of_steps_of_empty h (u := s.store) (t := []) .refl ha

theorem leads_present {α : Type} (h : s.Sound) {x : Except Missing α} {f : α → Effect}
    (hf : ∀ a, x = .ok a → (f a).Leads s) : (s.present x f).Leads s := by
  cases x with
  | ok a => exact hf a rfl
  | error m => exact leads_answering_of_empty h rfl

end Session

end LiveForm
