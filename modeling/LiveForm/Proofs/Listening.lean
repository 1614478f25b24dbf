/-
  Rounds of sets of listeners.

  A round tells the listeners that were there when it began, as it keeps them itself. Under their numbers
  there is nobody else later, so whoever is told is the one who is registered, and a forum is a case of
  proceedings with rounds, whatever listeners do that have the word.

  * `Forum.Registered` and `Forum.Issued`: a listener is there, and a number has been given out;
  * `Forum.Goes` and `Forum.move_cases`: what a move can do; `succeeds_move`: nobody gets a number a
    second time;
  * `Forum.Sound`: the rounds of a forum tell who was there; `sound_after`;
  * `Forum.proceedings` and `Forum.lawful`: rounds of a forum over time.
-/
import LiveForm.Proofs.Later
import LiveForm.Proofs.Rounds

namespace LiveForm

theorem ListenerSet.contains_eq {L : Type} (s : ListenerSet L) (k : Nat) :
    s.contains k = (s.get? k).isSome := by
  rw [Bool.eq_iff_iff, ← Roster.mem_numbers_iff, contains, Roster.numbers, List.any_eq_true]
  simp only [List.mem_map, beq_iff_eq]

namespace Forum

variable {A L : Type} {f : Forum A L} {set k : Nat} {a : A} {l : L} {w : Frame A L}
  {rest : List (Frame A L)}

/-! ## Who is registered -/

/-- The listener that has a number in a set. -/
def listener? (f : Forum A L) (set k : Nat) : Option L := (f.sets.get? set).bind fun s => s.get? k

def Registered (f : Forum A L) (set k : Nat) (l : L) : Prop := f.listener? set k = some l

/-- A set has given out a number. -/
def Issued (f : Forum A L) (set k : Nat) : Prop := ∃ s, f.sets.get? set = some s ∧ k < s.next

theorem contains_eq (f : Forum A L) (set k : Nat) : f.contains set k = (f.listener? set k).isSome := by
  unfold contains listener?
  cases f.sets.get? set with
  | none => rfl
  | some s => exact s.contains_eq k

theorem Registered.issued (h : f.Registered set k l) : f.Issued set k := by
  obtain ⟨s, hs, hk⟩ := Option.bind_eq_some_iff.1 h
  exact ⟨s, hs, Roster.lt_next_of_get? hk⟩

theorem mem_snapshot : (k, l) ∈ f.snapshot set ↔ f.Registered set k l := by
  unfold snapshot Registered listener?
  cases f.sets.get? set with
  | none => simp
  | some s => exact Roster.get?_eq_some_iff.symm

/-- The numbers of a set stand in the order of their listeners. -/
theorem pairwise_snapshot (f : Forum A L) (set : Nat) :
    ((f.snapshot set).map Prod.fst).Pairwise (· < ·) := by
  unfold snapshot
  cases f.sets.get? set with
  | none => exact .nil
  | some s => exact s.increasing

/-- Numbers stay given out when listeners of a set come and go. -/
theorem succeeds_modify {g : ListenerSet L → ListenerSet L} (later : ∀ s : ListenerSet L, s.Later Eq (g s))
    (n : Nat) (h : f.Issued set k) : ({ f with sets := f.sets.modify n g } : Forum A L).Issued set k ∧
      ∀ l, ({ f with sets := f.sets.modify n g } : Forum A L).Registered set k l →
        f.Registered set k l := by
  obtain ⟨s, hs, hk⟩ := h
  unfold Issued Registered listener?
  simp only [Roster.get?_modify, hs]
  split
  · refine ⟨⟨g s, rfl, Nat.lt_of_lt_of_le hk (later s).next⟩, fun l hl => ?_⟩
    obtain ⟨_, before, rfl⟩ := (later s).old k l hk hl
    exact before
  · exact ⟨⟨s, rfl, hk⟩, fun l hl => hl⟩

theorem succeeds_act (d : Deed A L) (h : f.Issued set k) : (f.act d).Issued set k ∧
    ∀ l, (f.act d).Registered set k l → f.Registered set k l := by
  cases d with
  | create =>
    obtain ⟨s, hs, hk⟩ := h
    have old : (f.sets.add .empty).get? set = some s := by
      rw [Roster.get?_add, if_neg (Nat.ne_of_lt (Roster.lt_next_of_get? hs)), hs]
    refine ⟨⟨s, old, hk⟩, fun l hl => ?_⟩
    simpa only [Registered, listener?, act, old, hs] using hl
  | add n l => exact succeeds_modify (fun s => .add (fun _ => rfl) l) n h
  | drop n m => exact succeeds_modify (fun s => .remove (fun _ => rfl) m) n h
  | clear n => exact succeeds_modify (fun s => .clear) n h
  | notify => exact ⟨h, fun _ => id⟩

/-! ## Moves -/

/-- What stands in the place of a frame when it goes on. -/
inductive Goes : Frame A L → List (Frame A L) → Prop
  | close (set : Nat) (a : A) : Goes (.round set a []) []
  | tell (set : Nat) (a : A) (k : Nat) (l : L) (left : List (Nat × L)) :
      Goes (.round set a ((k, l) :: left)) [.call set a l, .round set a left]
  | miss (set : Nat) (a : A) (k : Nat) (l : L) (left : List (Nat × L)) :
      Goes (.round set a ((k, l) :: left)) [.round set a left]
  | leave (set : Nat) (a : A) (l : L) : Goes (.call set a l) []

theorem sets_advance (f : Forum A L) : f.advance.sets = f.sets := by
  unfold advance
  split <;> rfl

theorem exists_goes_advance (h : f.frames = w :: rest) :
    ∃ ws, Goes w ws ∧ f.advance.frames = ws ++ rest := by
  unfold advance
  rw [h]
  cases w with
  | call set a l => exact ⟨[], .leave set a l, rfl⟩
  | round set a left =>
    cases left with
    | nil => exact ⟨[], .close set a, rfl⟩
    | cons z left =>
      obtain ⟨k, l⟩ := z
      dsimp only
      split
      · exact ⟨_, .tell set a k l left, rfl⟩
      · exact ⟨_, .miss set a k l left, rfl⟩

/-- A move is a deed of code that has the word, or what is going on goes on. -/
theorem move_cases (f : Forum A L) (d : Option (Deed A L)) :
    f.move d = f.advance ∨ ∃ deed, f.isFree ∧ f.move d = f.act deed := by
  cases d with
  | none => exact Or.inl rfl
  | some deed =>
    by_cases free : f.isFree
    · exact Or.inr ⟨deed, free, if_pos free⟩
    · exact Or.inl (if_neg free)

/-- Whoever is registered under a number that had been given out was so before. -/
theorem succeeds_move (d : Option (Deed A L)) (h : f.Issued set k) : (f.move d).Issued set k ∧
    ∀ l, (f.move d).Registered set k l → f.Registered set k l := by
  rcases f.move_cases d with hm | ⟨deed, -, hm⟩
  · rw [hm]
    unfold Issued Registered listener?
    rw [sets_advance]
    exact ⟨h, fun _ => id⟩
  · rw [hm]
    exact succeeds_act deed h

/-! ## Rounds -/

/-- The rounds tell who was there: under the numbers that are left, nobody else is registered. -/
def Sound (f : Forum A L) : Prop := ∀ set a left, .round set a left ∈ f.frames →
  ∀ k l, (k, l) ∈ left → f.Issued set k ∧ ∀ l', f.Registered set k l' → l' = l

/-- A round that is going on after a move was so before, or it begins with the move. -/
theorem mem_frames_move {d : Option (Deed A L)} {left : List (Nat × L)}
    (h : .round set a left ∈ (f.move d).frames) :
    (∃ before, .round set a before ∈ f.frames ∧ left ⊆ before) ∨ left = f.snapshot set := by
  rcases f.move_cases d with hm | ⟨deed, -, hm⟩
  · rw [hm] at h
    left
    cases hf : f.frames with
    | nil =>
      simp only [advance, hf] at h
      cases h
    | cons w rest =>
      obtain ⟨ws, goes, ht⟩ := exists_goes_advance hf
      rcases List.mem_append.1 (ht ▸ h) with h | h
      · cases goes with
        | close | leave => cases h
        | tell _ _ k l left' | miss _ _ k l left' =>
          simp only [List.mem_cons, reduceCtorEq, List.not_mem_nil, or_false, false_or] at h
          cases h
          exact ⟨_, List.mem_cons_self, List.subset_cons_self _ _⟩
      · exact ⟨left, List.mem_cons_of_mem _ h, fun _ => id⟩
  · rw [hm] at h
    cases deed with
    | notify n b =>
      rcases List.mem_cons.1 h with h | h
      · cases h
        exact Or.inr rfl
      · exact Or.inl ⟨left, h, fun _ => id⟩
    | create | add | drop | clear => exact Or.inl ⟨left, h, fun _ => id⟩

theorem Sound.move (h : f.Sound) (d : Option (Deed A L)) : (f.move d).Sound := by
  intro set a left hround k l hk
  obtain ⟨issued, same⟩ : f.Issued set k ∧ ∀ l', f.Registered set k l' → l' = l := by
    rcases mem_frames_move hround with ⟨before, hb, sub⟩ | rfl
    · exact h set a before hb k l (sub hk)
    · have now := mem_snapshot.1 hk
      exact ⟨now.issued, fun l' hl' => Option.some.inj (hl'.symm.trans now)⟩
  obtain ⟨issued', back⟩ := succeeds_move d issued
  exact ⟨issued', fun l' hl' => same l' (back l' hl')⟩

theorem sound_after (deeds : Nat → Option (Deed A L)) (n : Nat) : (after deeds n).Sound := by
  induction n with
  | zero => exact fun _ _ _ h => absurd h List.not_mem_nil
  | succ n ih => exact ih.move (deeds n)

/-- Where a round comes next, it goes on: nobody has the word. -/
theorem move_of_round {left : List (Nat × L)} (h : f.frames = .round set a left :: rest)
    (d : Option (Deed A L)) : f.move d = f.advance := by
  have busy : f.isFree = false := by rw [isFree, h]
  cases d with
  | none => rfl
  | some d => simp only [move, busy, Bool.false_eq_true, if_false]

/-- The next listener of a round is told if it is still registered. -/
theorem Sound.advance_round (h : f.Sound) {left : List (Nat × L)}
    (hf : f.frames = .round set a ((k, l) :: left) :: rest) : f.advance.frames =
      (f.listener? set k).toList.map (.call set a) ++ .round set a left :: rest := by
  have same : ∀ l', f.listener? set k = some l' → l' = l :=
    (h set a _ (hf ▸ List.mem_cons_self) k l List.mem_cons_self).2
  simp only [advance, hf, contains_eq]
  cases hl : f.listener? set k with
  | none => rfl
  | some l' => rw [same l' hl]; rfl

theorem exists_append_move (hf : f.frames = w :: rest) (d : Option (Deed A L)) :
    ∃ ws, (f.move d).frames = ws ++ rest := by
  rcases f.move_cases d with hm | ⟨deed, -, hm⟩
  · obtain ⟨ws, -, ht⟩ := exists_goes_advance hf
    exact ⟨ws, hm ▸ ht⟩
  · rw [hm]
    cases deed with
    | notify n b => exact ⟨[_, w], congrArg (_ :: ·) hf⟩
    | create | add | drop | clear => exact ⟨[w], hf⟩

/-! ## Proceedings -/

/-- The rounds of a forum over time. Events are values that are told to the listeners of a set. -/
def proceedings (deeds : Nat → Option (Deed A L)) : Proceedings (Frame A L) (Nat × A) L where
  agenda n := (after deeds n).frames
  round?
    | .round set a left => some ((set, a), left.map Prod.fst)
    | .call .. => none
  call e l := .call e.1 e.2 l
  Registered n e k l := (after deeds n).Registered e.1 k l
  Issued n e k := (after deeds n).Issued e.1 k
  listener? n e k := (after deeds n).listener? e.1 k

variable {deeds : Nat → Option (Deed A L)} {n : Nat}

theorem exists_of_comes {e : Nat × A} {ks : List Nat} (h : (proceedings deeds).Comes n e ks rest) :
    ∃ left, (after deeds n).frames = .round e.1 e.2 left :: rest ∧ ks = left.map Prod.fst := by
  obtain ⟨w, ha, hw⟩ := h
  cases w with
  | call => cases hw
  | round set a left =>
    cases hw
    exact ⟨left, ha, rfl⟩

/-- No round begins when what is going on goes on. -/
theorem countP_advance_le (f : Forum A L) : f.advance.frames.countP (proceedings deeds).isRound ≤
    f.frames.countP (proceedings deeds).isRound := by
  cases hf : f.frames with
  | nil => simp only [advance, hf, Nat.le_refl]
  | cons w rest =>
    obtain ⟨ws, goes, ht⟩ := exists_goes_advance hf
    rw [ht, List.countP_append, List.countP_cons, Nat.add_comm]
    refine Nat.add_le_add_left ?_ _
    cases goes with
    | close | leave => exact Nat.zero_le _
    | tell | miss => exact Nat.le_refl 1

/-- A round begins where code that has the word notifies. -/
theorem exists_notify_of_begins
    (h : (proceedings deeds).openRounds n < (proceedings deeds).openRounds (n + 1)) :
    ∃ set a, after deeds (n + 1) = (after deeds n).act (.notify set a) := by
  have more : (after deeds n).frames.countP (proceedings deeds).isRound <
      ((after deeds n).move (deeds n)).frames.countP (proceedings deeds).isRound := h
  show ∃ set a, (after deeds n).move (deeds n) = _
  rcases (after deeds n).move_cases (deeds n) with hm | ⟨deed, -, hm⟩
  · rw [hm] at more
    exact absurd more (Nat.not_lt.2 (countP_advance_le _))
  · rw [hm] at more ⊢
    cases deed with
    | notify set a => exact ⟨set, a, rfl⟩
    | create | add | drop | clear => exact absurd more (Nat.lt_irrefl _)

/-- To notify begins a round of those who are there. -/
theorem begins_of_notify {set : Nat} {a : A}
    (h : after deeds (n + 1) = (after deeds n).act (.notify set a)) :
    (proceedings deeds).openRounds (n + 1) = (proceedings deeds).openRounds n + 1 ∧
      (proceedings deeds).Comes (n + 1) (set, a) (((after deeds n).snapshot set).map Prod.fst)
        (after deeds n).frames := by
  have frames : (proceedings deeds).agenda (n + 1) =
      .round set a ((after deeds n).snapshot set) :: (after deeds n).frames :=
    congrArg Forum.frames h
  refine ⟨?_, _, frames, rfl⟩
  rw [Proceedings.openRounds, frames, List.countP_cons_of_pos rfl]
  rfl

/-- The rounds of a forum go on as rounds should, whatever listeners do. -/
theorem lawful (deeds : Nat → Option (Deed A L)) : (proceedings deeds).Lawful where
  idle := rfl
  not_round _ _ := rfl
  call_inj h := by injection h
  exists_append h := exists_append_move h _
  of_round {n e ks rest} comes := by
    obtain ⟨left, hf, rfl⟩ := exists_of_comes comes
    have next : (proceedings deeds).agenda (n + 1) = (after deeds n).advance.frames :=
      congrArg Forum.frames (move_of_round hf (deeds n))
    cases left with
    | nil => exact Or.inl ⟨rfl, by rw [next, advance, hf]⟩
    | cons z left =>
      exact Or.inr ⟨z.1, left.map Prod.fst, .round e.1 e.2 left, rfl, rfl,
        next.trans ((sound_after deeds n).advance_round hf)⟩
  begins more := by
    obtain ⟨set, a, h⟩ := exists_notify_of_begins more
    obtain ⟨one, comes⟩ := begins_of_notify h
    refine ⟨one, _, _, _, comes, pairwise_snapshot _ _, fun k => ?_⟩
    simp only [List.mem_map, Prod.exists, exists_and_right, exists_eq_right, mem_snapshot]
    rfl
  issued h := h.issued
  issued_of_le h hm := by
    obtain ⟨s, hs, hk⟩ := h
    exact ⟨s, hs, Nat.lt_of_le_of_lt hm hk⟩
  succeeds h := succeeds_move _ h
  listener?_iff _ _ := Iff.rfl

/-- What holds of the rounds of a forum, whatever code does that has the word. -/
structure Notifies (deeds : Nat → Option (Deed A L)) : Prop extends (proceedings deeds).Notifies where
  /-- To notify the listeners of a set begins a round. -/
  notified : ∀ {n set a}, (after deeds n).isFree → deeds n = some (.notify set a) →
    (proceedings deeds).Begins n (set, a)

theorem notifies (deeds : Nat → Option (Deed A L)) : Notifies deeds where
  toNotifies := (lawful deeds).notifies
  notified {n set a} free h := by
    have next : after deeds (n + 1) = (after deeds n).act (.notify set a) := by
      show (after deeds n).move (deeds n) = _
      rw [h, move, if_pos free]
    obtain ⟨one, comes⟩ := begins_of_notify next
    exact ⟨⟨_, _, comes⟩, by omega⟩

end Forum

end LiveForm
