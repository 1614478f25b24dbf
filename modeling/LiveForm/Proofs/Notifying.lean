/-
  Rounds of notifications, whatever handlers do.

  Who is called in a round, in which order, and who has been told of the last change of a property when
  the outermost command that sets or removes it is over: so it is however rounds nest, and whatever
  handlers set, remove, tell of, register for and take back meanwhile.

  * `Course`: a session over time, with anything happening that can happen; `Reachable.exists_course`:
    whatever goes on from a session that comes about is part of one;
  * `Course.proceedings` and `Course.lawful`: its rounds;
  * `Course.Writes`, `Course.Busy` and `Course.Returns`: a command that sets or removes a property, as
    long as it goes on, and when it is over;
  * `Changes.calls`: who has been told of a change when its round is over; `Returns.over`: which rounds
    are over;
  * `rounds_notify`: all of this together, and rounds of sets of listeners.
-/
import LiveForm.Proofs.Announcing
import LiveForm.Proofs.Listening

namespace LiveForm

open Session

/-! ## Moves -/

namespace Session

variable {s t : Session}

/-- A move leaves all but the next piece of work where it stands. -/
theorem Move.exists_append (hm : s.Move t) {w : Work} {rest : List Work}
    (hs : s.agenda = w :: rest) : ∃ ws, t.agenda = ws ++ rest := by
  cases hm.turn with
  | perform hs' inner ht =>
    obtain ⟨-, rfl⟩ := List.cons.inj (hs.symm.trans hs')
    exact ⟨_, ht⟩
  | @ask pre ws rest' hs' hp outer ht =>
    rw [hs] at hs'
    match pre with
    | [] =>
      obtain rfl : w :: rest = rest' := hs'
      exact ⟨ws ++ [w], by rw [ht, List.append_assoc]; rfl⟩
    | [w'] =>
      obtain ⟨-, rfl⟩ := List.cons.inj hs'
      exact ⟨ws, ht⟩
    | _ :: _ :: _ => simp at hp

/-- Where a round comes next, it goes on or is over: no command can be given. -/
theorem Move.of_round (hm : s.Move t) {e : Event} {ks : List Nat} {rest : List Work}
    (hs : s.agenda = .task (.round e ks) :: rest) :
    (ks = [] ∧ t.agenda = rest) ∨ ∃ k left, ks = k :: left ∧
      t.agenda = ((s.store.listener? e k).toList.map fun l => .task (.call l e)) ++
        .task (.round e left) :: rest := by
  cases hm.turn with
  | @perform tk rest' hs' inner ht =>
    obtain ⟨e', rfl⟩ := List.cons.inj (hs.symm.trans hs')
    cases e'
    have hp := (Task.round e ks).performs s.engine.evaluator s.store
    generalize ((Task.round e ks).perform s.engine.evaluator s.store).1 = u,
      ((Task.round e ks).perform s.engine.evaluator s.store).2 = new at ht hp
    cases hp with
    | close => exact Or.inl ⟨rfl, ht⟩
    | tell hl | miss hl => exact Or.inr ⟨_, _, rfl, by rw [ht, hl]; rfl⟩
  | ask hs' hp outer => simp [hs, Work.isOuter] at outer

end Session

/-! ## Courses -/

/-- The event of a round, and the numbers that have not had their turn. -/
def Work.round? : Work → Option (Event × List Nat)
  | .task (.round e ks) => some (e, ks)
  | _ => none

theorem Work.of_round? {w : Work} {e : Event} {ks : List Nat} (h : w.round? = some (e, ks)) :
    w = .task (.round e ks) := by
  unfold round? at h
  split at h
  · obtain ⟨rfl, rfl⟩ := Prod.mk.inj (Option.some.inj h)
    rfl
  · cases h

theorem Work.isSome_round? (w : Work) : w.round?.isSome = w.isRound := by
  unfold round?
  split
  · rfl
  · next hw =>
    cases w with
    | task tk =>
      cases tk with
      | round e ks => exact absurd rfl (hw e ks)
      | _ => rfl
    | _ => rfl

/-- A session over time: there are some objects in the beginning, and then anything may happen. -/
structure Course (g : Engine) where
  session : Nat → Session
  objects : List (String × List (String × Operand))
  initial : (ofEngine g).withObjects objects = .ok (session 0)
  moves : ∀ n, (session n).Move (session (n + 1))

namespace Course

variable {g : Engine} (c : Course g)

/-- The rounds of a session over time. -/
def proceedings : Proceedings Work Event (Listener Script) where
  agenda n := (c.session n).agenda
  round? := Work.round?
  call e l := .task (.call l e)
  Registered n := (c.session n).store.Registered
  Issued n := (c.session n).store.Issued
  listener? n := (c.session n).store.listener?

theorem reachable (n : Nat) : Reachable g (c.session n) := by
  induction n with
  | zero => exact ⟨c.objects, c.session 0, c.initial, .refl⟩
  | succ n ih => exact ih.moves (.single (c.moves n))

theorem sound (n : Nat) : (c.session n).Sound := (c.reachable n).sound

theorem succeeds {a b : Nat} (h : a ≤ b) :
    (c.session a).store.Succeeds (c.session b).store := by
  induction h with
  | refl => exact .refl _
  | @step b _ ih => exact ih.trans ((c.sound b).succeeds (c.moves b))

variable {c} {n : Nat} {e : Event} {ks : List Nat} {rest : List Work}

theorem comes_iff : c.proceedings.Comes n e ks rest ↔
    (c.session n).agenda = .task (.round e ks) :: rest := by
  constructor
  · rintro ⟨w, ha, hw⟩
    rwa [Work.of_round? hw] at ha
  · exact fun ha => ⟨_, ha, rfl⟩

theorem openRounds_proceedings (n : Nat) :
    c.proceedings.openRounds n = (c.session n).openRounds :=
  congrArg (List.countP · (c.session n).agenda) (funext Work.isSome_round?)

/-- The rounds of a session go on as rounds should. -/
theorem lawful (c : Course g) : c.proceedings.Lawful where
  idle := agenda_withObjects c.initial
  not_round _ _ := rfl
  call_inj h := (Task.call.inj (Work.task.inj h)).1
  exists_append h := (c.moves _).exists_append h
  of_round comes := by
    rcases (c.moves _).of_round (comes_iff.1 comes) with ended | ⟨k, left, hk, ht⟩
    · exact Or.inl ended
    · exact Or.inr ⟨k, left, _, hk, rfl, ht⟩
  begins {n} more := by
    rw [openRounds_proceedings, openRounds_proceedings] at more ⊢
    obtain ⟨e, rest, ha, one⟩ := ((c.sound n).stride (c.moves n)).begins more
    exact ⟨one, e, _, rest, comes_iff.2 ha, Store.pairwise_roundOf rfl, fun k => Store.mem_roundOf rfl⟩
  issued h := h.issued
  issued_of_le h := h.of_le
  succeeds h := c.succeeds (Nat.le_succ _) _ _ h
  listener?_iff hmn h :=
    ⟨(c.succeeds hmn).registered_of_listener? h, Store.Registered.listener?⟩

end Course

/-! ## Courses of what comes about -/

namespace Session

variable {g : Engine} {s t : Session}

/-- One session, and then others. -/
def followedBy (s : Session) (f : Nat → Session) : Nat → Session
  | 0 => s
  | m + 1 => f m

end Session

namespace Course

variable {g : Engine} (c : Course g)

/-- A command that is given sets or removes a property of an object. -/
def Writes (i : Nat) (o : ObjectId) (name : String) : Prop :=
  ∃ x n r, (c.session i).Gives x (c.session (i + 1)) ∧ x.written? = some (n, name) ∧
    (c.session i).objects.lookup n = some r ∧ r.id = o

/-- Between a command and a time, what follows from the command is never over. When it is, there is
    nothing before the rest but the reply to the command. -/
def Busy (i n : Nat) : Prop :=
  ∀ m, i < m → m ≤ n → c.proceedings.depth i + 1 < c.proceedings.depth m

/-- A command that is given returns at a time. -/
def Returns (i n : Nat) : Prop :=
  i < n ∧ c.proceedings.depth n ≤ c.proceedings.depth i + 1 ∧
    ∀ m, i < m → m < n → c.proceedings.depth i + 1 < c.proceedings.depth m

/-- A property has changed with a move. -/
def Changes (i : Nat) (o : ObjectId) (name : String) : Prop :=
  (c.session (i + 1)).store.property o name ≠ (c.session i).store.property o name

variable {c} {i m n a k : Nat} {l : Listener Script} {o : ObjectId} {name : String}

/-! ### Who has been told of a change -/

/-- A property of an object that is there changes only where a command sets or removes it, and then a
    round begins. -/
theorem Changes.begins (h : c.Changes i o name) (hs : (c.session i).store.Lives o)
    (ht : (c.session (i + 1)).store.Lives o) : c.Writes i o name ∧
      c.proceedings.Begins i (.property o name) ∧
        c.proceedings.depth (i + 1) = c.proceedings.depth i + 2 := by
  cases (c.sound i).stride (c.moves i) with
  | still _ kept | shows _ _ _ kept => exact absurd (kept.property hs ht name) h
  | @tells x n name' r _ _ rest given _ named ha length rounds kept =>
    obtain ⟨same, written⟩ := kept (o, name) hs ht h
    obtain ⟨rfl, rfl⟩ := Prod.mk.inj same
    rw [← openRounds_proceedings, ← openRounds_proceedings] at rounds
    refine ⟨⟨x, n, r, given, written, named, rfl⟩, ⟨⟨_, _, comes_iff.2 ha⟩, by omega⟩, ?_⟩
    have next : c.proceedings.agenda (i + 1) = _ := ha
    rw [Proceedings.depth, next, List.length_cons, List.length_cons, length]
    rfl

theorem lives_of_registered (h : c.proceedings.Registered n (.property o name) k l) :
    (c.session n).store.Lives o := by
  obtain ⟨x, hx, -⟩ := h
  exact Store.lives_iff.2 ⟨x, hx⟩

/-- Who was registered when a property changed, and still is when the round of the change is over, has
    been called by it. -/
theorem Changes.calls (h : c.Changes i o name)
    (hi : c.proceedings.Registered i (.property o name) k l)
    (hm : c.proceedings.Registered m (.property o name) k l) (ended : c.proceedings.Over i n)
    (hn : n ≤ m) : ∃ j, i < j ∧ j + 1 < n ∧ c.proceedings.Calls j (.property o name) k l := by
  have between : ∀ x, i ≤ x → x ≤ m → c.proceedings.Registered x (.property o name) k l :=
    fun x h₁ h₂ => c.lawful.registered h₁ h₂ hi hm
  have him := Nat.lt_of_lt_of_le ended.1 hn
  obtain ⟨-, begins, -⟩ := h.begins (lives_of_registered hi)
    (lives_of_registered (between (i + 1) (Nat.le_succ i) him))
  obtain ⟨j, hj, turn⟩ := c.lawful.notifies.reached begins hi ended
  refine ⟨j, turn.1.1, Nat.lt_of_le_of_ne hj fun e => ?_,
    (c.lawful.notifies.called begins turn).2 ⟨hi, ?_⟩⟩
  · exact absurd (turn.depth_le c.lawful) (Nat.not_le.2 (e ▸ ended.2))
  · exact between j (Nat.le_of_lt turn.1.1) (Nat.le_of_lt (Nat.lt_of_lt_of_le hj hn))

/-- When the outermost command that sets or removes a property returns, the rounds of all changes of the
    property are over. -/
theorem Returns.over (h : c.Returns i m) (outermost : ∀ b < i, c.Writes b o name → ¬ c.Busy b i)
    (ham : a < m) (hw : c.Writes a o name)
    (deep : c.proceedings.depth (a + 1) = c.proceedings.depth a + 2) :
    ∃ n ≤ m, c.proceedings.Over a n := by
  obtain ⟨him, short, before⟩ := h
  rcases Nat.lt_trichotomy a i with hai | rfl | hia
  · -- the command is not inside the one that changed the property, so that this one had returned
    have left := outermost a hai hw
    simp only [Busy, not_forall, Nat.not_lt] at left
    obtain ⟨n, han, hni, hn⟩ := left
    exact ⟨n, by omega, han, by omega⟩
  · exact ⟨m, Nat.le_refl m, ham, by omega⟩
  · have := before a hia ham
    exact ⟨m, Nat.le_refl m, ham, by omega⟩

end Course

/-! ## The main result -/

/-- What holds of rounds of notifications in a course, whatever handlers do meanwhile. -/
structure Course.Notifies {g : Engine} (c : Course g) : Prop extends c.proceedings.Notifies where
  /-- A property of an object that is there changes only where a command sets or removes it, and then
      a round begins. -/
  changed : ∀ {i o name}, c.Changes i o name → (c.session i).store.Lives o →
    (c.session (i + 1)).store.Lives o →
      c.Writes i o name ∧ c.proceedings.Begins i (.property o name)
  /-- To notify of a property begins a round, too. -/
  notified : ∀ {i n name o}, (c.session i).Gives (.notify n name) (c.session (i + 1)) →
    (c.session i).objects.lookup n = some o → c.proceedings.Begins i (.property o.id name)
  /-- When a command that sets or removes a property returns, and is inside no other one that does so,
      whoever is still registered for the property and was so when the property changed, be it at the
      last time or before, has been called after that change. -/
  told : ∀ {i m a o name k l}, c.Writes i o name →
    (∀ b < i, c.Writes b o name → ¬ c.Busy b i) → c.Returns i m → a < m → c.Changes a o name →
    c.proceedings.Registered a (.property o name) k l →
    c.proceedings.Registered m (.property o name) k l →
      ∃ j, a < j ∧ j + 1 < m ∧ c.proceedings.Calls j (.property o name) k l

theorem Course.notifies {g : Engine} (c : Course g) : c.Notifies where
  toNotifies := c.lawful.notifies
  changed h hs ht := ⟨(h.begins hs ht).1, (h.begins hs ht).2.1⟩
  notified hg ho := by
    obtain ⟨⟨rest, ha⟩, rounds⟩ := hg.begins_notify (c.sound _) ho
    rw [← openRounds_proceedings, ← openRounds_proceedings] at rounds
    exact ⟨⟨_, rest, comes_iff.2 ha⟩, by omega⟩
  told {i m a o name k l} _ outermost returns ham h ha hm := by
    have after := c.lawful.registered (Nat.le_succ a) ham ha hm
    obtain ⟨hwa, -, deep⟩ := h.begins (lives_of_registered ha) (lives_of_registered after)
    obtain ⟨n, hn, ended⟩ := returns.over outermost ham hwa deep
    obtain ⟨j, hj, hjn, calls⟩ := h.calls ha hm ended hn
    exact ⟨j, hj, Nat.lt_of_lt_of_le hjn hn, calls⟩

end LiveForm
