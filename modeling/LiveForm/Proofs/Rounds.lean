/-
  Rounds within rounds.

  A round tells those who are registered one after the other, and whoever is told may do anything: other
  rounds begin within the round, and listeners come and go. A round is over when the agenda is shorter
  than it was when the round began, and until then the rest of the round stands where the round stood.

  * `Proceedings`: something with rounds that goes on over time; `Proceedings.Lawful`: what its moves do;
  * `Begins`, `Turn` and `Calls`: a round begins, a number has its turn in it, and a listener is called;
  * `Progress`: how far a round has come; `Progress.step` and `Lawful.progress`: as long as a round goes
    on it has come to some point; `Over.turn`: a round that is over has come to its end;
  * `Lawful.exists_begins`: every round on the agenda has begun and goes on since;
  * `Notifies` and `Lawful.notifies`: who is called in a round, and in which order.
-/
import Mathlib.Data.List.Basic

namespace LiveForm

/-- Something with rounds that goes on over time, in which listeners are told of events. -/
structure Proceedings (W E L : Type) where
  /-- What is still to be done at a time, the next piece of work first. -/
  agenda : Nat → List W
  /-- A round tells of an event, and some numbers have not had their turn. -/
  round? : W → Option (E × List Nat)
  /-- The call of a listener. -/
  call : E → L → W
  /-- A listener is registered for an event under a number at a time. -/
  Registered : Nat → E → Nat → L → Prop
  /-- A number has been given out. -/
  Issued : Nat → E → Nat → Prop
  /-- Who is called if a number has its turn. -/
  listener? : Nat → E → Nat → Option L

namespace Proceedings

variable {W E L : Type} (p : Proceedings W E L)

def depth (n : Nat) : Nat := (p.agenda n).length

def isRound (w : W) : Bool := (p.round? w).isSome

/-- How many rounds are going on. -/
def openRounds (n : Nat) : Nat := (p.agenda n).countP p.isRound

/-- A round comes next, with some numbers left and the rest of the agenda below it. -/
def Comes (n : Nat) (e : E) (ks : List Nat) (rest : List W) : Prop :=
  ∃ w, p.agenda n = w :: rest ∧ p.round? w = some (e, ks)

/-- What moves do, as far as rounds go. -/
structure Lawful : Prop where
  idle : p.agenda 0 = []
  not_round : ∀ e l, p.round? (p.call e l) = none
  call_inj : ∀ {e l l'}, p.call e l = p.call e l' → l = l'
  /-- A move leaves all but the next piece of work where it stands. -/
  exists_append : ∀ {n w rest}, p.agenda n = w :: rest → ∃ ws, p.agenda (n + 1) = ws ++ rest
  /-- Where a round comes next, it is over or the next number has its turn. -/
  of_round : ∀ {n e ks rest}, p.Comes n e ks rest → (ks = [] ∧ p.agenda (n + 1) = rest) ∨
    ∃ k left w, ks = k :: left ∧ p.round? w = some (e, left) ∧
      p.agenda (n + 1) = ((p.listener? n e k).toList.map (p.call e)) ++ w :: rest
  /-- One move begins one round at most, which comes next. It is for those who are registered, in the
      order of their numbers. -/
  begins : ∀ {n}, p.openRounds n < p.openRounds (n + 1) → p.openRounds (n + 1) = p.openRounds n + 1 ∧
    ∃ e ks rest, p.Comes (n + 1) e ks rest ∧ ks.Pairwise (· < ·) ∧
      ∀ k, k ∈ ks ↔ ∃ l, p.Registered n e k l
  issued : ∀ {n e k l}, p.Registered n e k l → p.Issued n e k
  issued_of_le : ∀ {n e k m}, p.Issued n e k → m ≤ k → p.Issued n e m
  /-- Who is registered under a number that had been given out was so before. -/
  succeeds : ∀ {n e k}, p.Issued n e k →
    p.Issued (n + 1) e k ∧ ∀ l, p.Registered (n + 1) e k l → p.Registered n e k l
  /-- Who was registered under a number is called if it is still there. -/
  listener?_iff : ∀ {m n e k l l'}, m ≤ n → p.Registered m e k l' →
    (p.listener? n e k = some l ↔ p.Registered n e k l)

/-! ### Rounds -/

/-- A round of an event begins with a move: there is one more than before, and it comes next. -/
def Begins (i : Nat) (e : E) : Prop :=
  (∃ ks rest, p.Comes (i + 1) e ks rest) ∧ p.openRounds i < p.openRounds (i + 1)

/-- A round that begins with a move is going on at a time. -/
def Within (i n : Nat) : Prop := i < n ∧ ∀ m, i < m → m ≤ n → p.depth (i + 1) ≤ p.depth m

/-- A number has its turn in the round that begins with a move: it is the next one of the round, and
    the round comes next. -/
def Turn (i : Nat) (e : E) (k j : Nat) : Prop :=
  p.Within i j ∧ p.depth j = p.depth (i + 1) ∧ ∃ left rest, p.Comes j e (k :: left) rest

/-- A listener is called by a round under the number whose turn it is. -/
def Calls (j : Nat) (e : E) (k : Nat) (l : L) : Prop :=
  (∃ left rest, p.Comes j e (k :: left) rest) ∧ (p.agenda (j + 1)).head? = some (p.call e l)

/-- The round that begins with a move is over at a time. -/
def Over (i n : Nat) : Prop := i < n ∧ p.depth n < p.depth (i + 1)

variable {p} {i j n k : Nat} {e : E} {l : L} {ks : List Nat} {rest : List W}

theorem Comes.inj {e' : E} {ks' : List Nat} {rest' : List W} (h : p.Comes n e ks rest)
    (h' : p.Comes n e' ks' rest') : e = e' ∧ ks = ks' ∧ rest = rest' := by
  obtain ⟨w, ha, hw⟩ := h
  obtain ⟨w', ha', hw'⟩ := h'
  obtain ⟨rfl, rfl⟩ := List.cons.inj (ha.symm.trans ha')
  obtain ⟨rfl, rfl⟩ := Prod.mk.inj (Option.some.inj (hw.symm.trans hw'))
  exact ⟨rfl, rfl, rfl⟩

/-- Where a round comes next, nothing stands before it. -/
theorem Comes.depth (h : p.Comes n e ks rest) : p.depth n = rest.length + 1 := by
  obtain ⟨w, ha, -⟩ := h
  rw [Proceedings.depth, ha, List.length_cons]

/-! ### Who is registered -/

namespace Lawful

theorem succeeds_le (h : p.Lawful) {a b : Nat} (hab : a ≤ b) (hk : p.Issued a e k) :
    p.Issued b e k ∧ ∀ l, p.Registered b e k l → p.Registered a e k l := by
  induction hab with
  | refl => exact ⟨hk, fun _ => id⟩
  | @step b _ ih =>
    obtain ⟨hb, back⟩ := ih
    obtain ⟨hb', back'⟩ := h.succeeds hb
    exact ⟨hb', fun l hl => back l (back' l hl)⟩

/-- Who is registered before and after has been so in between. -/
theorem registered (h : p.Lawful) {a b : Nat} (hai : a ≤ i) (hib : i ≤ b) (ha : p.Registered a e k l)
    (hb : p.Registered b e k l) : p.Registered i e k l :=
  (h.succeeds_le hib (h.succeeds_le hai (h.issued ha)).1).2 l hb

/-- Who is registered later is registered under a later number. -/
theorem lt_of_registered (h : p.Lawful) {a b m : Nat} {l' : L} (hab : a ≤ b)
    (hk : p.Registered a e k l) (hm : ∀ l, ¬ p.Registered a e m l) (hb : p.Registered b e m l') :
    k < m := by
  by_contra hle
  have issued : p.Issued a e m := h.issued_of_le (h.issued hk) (Nat.le_of_not_lt hle)
  exact hm l' ((h.succeeds_le hab issued).2 l' hb)

end Lawful

/-- A round begins for those who are registered then, in the order of their numbers. -/
theorem Begins.registered (hp : p.Lawful) (h : p.Begins i e) : ∃ ks rest,
    p.Comes (i + 1) e ks rest ∧ ks.Pairwise (· < ·) ∧ ∀ k, k ∈ ks ↔ ∃ l, p.Registered i e k l := by
  obtain ⟨⟨ks, rest, ha⟩, more⟩ := h
  obtain ⟨-, e', ks', rest', ha', increasing, all⟩ := hp.begins more
  obtain ⟨rfl, rfl, -⟩ := ha.inj ha'
  exact ⟨ks, rest, ha, increasing, all⟩

/-! ### The progress of a round -/

/-- How far a round has come: some numbers had their turns, and the rest of the round stands where the
    round stood, below what is going on within it. -/
structure Progress (p : Proceedings W E L) (i : Nat) (e : E) (ks : List Nat) (rest : List W) (n : Nat)
    (done left : List Nat) : Prop where
  split : ks = done ++ left
  agenda : ∃ above w, p.agenda n = above ++ w :: rest ∧ p.round? w = some (e, left)
  turn : ∀ k ∈ done, ∃ j < n, p.Turn i e k j
  had : ∀ k, ∀ j < n, p.Turn i e k j → k ∈ done

/-- A round has not come any further in the beginning. -/
theorem Comes.progress (hb : p.Comes (i + 1) e ks rest) : p.Progress i e ks rest (i + 1) [] ks where
  split := rfl
  agenda := ⟨[], hb⟩
  turn := List.forall_mem_nil _
  had _ _ hj h := absurd h.1.1 (Nat.not_lt.2 (Nat.le_of_lt_succ hj))

/-- With a move something goes on within the round, or the next number has its turn. -/
theorem Progress.step {done left : List Nat} (h : p.Progress i e ks rest n done left) (hp : p.Lawful)
    (hb : p.Comes (i + 1) e ks rest) (hw : p.Within i (n + 1)) (hn : i < n) :
    ∃ done left, p.Progress i e ks rest (n + 1) done left := by
  obtain ⟨above, w, ha, hround⟩ := h.agenda
  have within : p.Within i n := ⟨hn, fun m hi hm => hw.2 m hi (Nat.le_succ_of_le hm)⟩
  have deep := hw.2 (n + 1) (Nat.lt_succ_of_lt hn) (Nat.le_refl _)
  rw [hb.depth] at deep
  cases above with
  | cons x above =>
    rw [List.cons_append] at ha
    obtain ⟨ws, ht⟩ := hp.exists_append ha
    refine ⟨done, left, h.split, ⟨ws ++ above, w, ?_, hround⟩, fun k hk => ?_, fun k j hj hk => ?_⟩
    · rw [List.append_assoc]
      exact ht
    · obtain ⟨j, hj, hk⟩ := h.turn k hk
      exact ⟨j, Nat.lt_succ_of_lt hj, hk⟩
    · refine h.had k j ((Nat.lt_succ_iff_lt_or_eq.1 hj).resolve_right ?_) hk
      -- the round does not come next here
      rintro rfl
      have := hk.2.1
      rw [hb.depth, depth, ha, List.length_cons, List.length_append, List.length_cons] at this
      omega
  | nil =>
    have comes : p.Comes n e left rest := ⟨w, ha, hround⟩
    rcases hp.of_round comes with ⟨-, ht⟩ | ⟨k, left, w', rfl, hw', ht⟩
    · rw [depth, ht] at deep
      omega
    · have turn : p.Turn i e k n := ⟨within, by rw [hb.depth, comes.depth], left, rest, comes⟩
      refine ⟨done ++ [k], left, ?_, ⟨_, w', ht, hw'⟩, fun m hm => ?_, fun m j hj hm => ?_⟩
      · rw [h.split, List.append_assoc]
        rfl
      · rcases List.mem_append.1 hm with hm | hm
        · obtain ⟨j, hj, hm⟩ := h.turn m hm
          exact ⟨j, Nat.lt_succ_of_lt hj, hm⟩
        · obtain rfl := List.mem_singleton.1 hm
          exact ⟨n, Nat.lt_succ_self n, turn⟩
      · rcases Nat.lt_succ_iff_lt_or_eq.1 hj with hj | rfl
        · exact List.mem_append_left _ (h.had m j hj hm)
        · obtain ⟨left', rest', comes'⟩ := hm.2.2
          obtain ⟨rfl, -⟩ := List.cons.inj (comes.inj comes').2.1
          exact List.mem_append_right _ (List.mem_singleton_self _)

/-- Until a round is over, it has come to some point. -/
theorem Lawful.progress (hp : p.Lawful) (hb : p.Comes (i + 1) e ks rest) (hw : p.Within i n) :
    ∃ done left, p.Progress i e ks rest n done left := by
  obtain ⟨hn, within⟩ := hw
  induction hn with
  | refl => exact ⟨[], ks, hb.progress⟩
  | @step n hn ih =>
    obtain ⟨done, left, h⟩ := ih fun m hi hm => within m hi (Nat.le_succ_of_le hm)
    exact h.step hp hb ⟨Nat.lt_succ_of_lt hn, within⟩ hn

/-- Where a number has its turn, the numbers before it had theirs. -/
theorem Turn.progress (h : p.Turn i e k j) (hp : p.Lawful) (hb : p.Comes (i + 1) e ks rest) :
    ∃ done left, p.Progress i e ks rest j done (k :: left) := by
  obtain ⟨within, deep, left, rest', comes⟩ := h
  obtain ⟨done, left', progress⟩ := hp.progress hb within
  obtain ⟨above, w, ha, hround⟩ := progress.agenda
  rw [hb.depth, depth, ha, List.length_append, List.length_cons] at deep
  obtain rfl : above = [] := List.length_eq_zero_iff.1 (by omega)
  obtain ⟨-, rfl, -⟩ := comes.inj ⟨w, ha, hround⟩
  exact ⟨done, left, progress⟩

/-- A round is going on until it ends with a move. -/
theorem within_or_ends (hn : i < n) :
    p.Within i n ∨ ∃ y < n, p.Within i y ∧ p.depth (y + 1) < p.depth (i + 1) := by
  induction hn with
  | refl =>
    refine Or.inl ⟨Nat.lt_succ_self i, fun m hi hm => ?_⟩
    obtain rfl : m = i + 1 := Nat.le_antisymm hm hi
    exact Nat.le_refl _
  | @step n hn ih =>
    rcases ih with within | ⟨y, hy, ends⟩
    · by_cases short : p.depth (n + 1) < p.depth (i + 1)
      · exact Or.inr ⟨n, Nat.lt_succ_self n, within, short⟩
      · refine Or.inl ⟨Nat.lt_succ_of_lt hn, fun m hi hm => ?_⟩
        rcases Nat.le_succ_iff.1 hm with hm | rfl
        · exact within.2 m hi hm
        · exact Nat.not_lt.1 short
    · exact Or.inr ⟨y, Nat.lt_succ_of_lt hy, ends⟩

/-- A round ends with a move by which nothing is left of it. -/
theorem Progress.left_eq_nil {done left : List Nat} (h : p.Progress i e ks rest n done left)
    (hp : p.Lawful) (hb : p.Comes (i + 1) e ks rest) (short : p.depth (n + 1) < p.depth (i + 1)) :
    left = [] := by
  rw [hb.depth] at short
  obtain ⟨above, w, ha, hround⟩ := h.agenda
  cases above with
  | cons x above =>
    rw [List.cons_append] at ha
    obtain ⟨ws, ht⟩ := hp.exists_append ha
    rw [depth, ht, List.length_append, List.length_append, List.length_cons] at short
    omega
  | nil =>
    rcases hp.of_round ⟨w, ha, hround⟩ with ⟨nothing, -⟩ | ⟨k, left, w', -, -, ht⟩
    · exact nothing
    · rw [depth, ht, List.length_append, List.length_cons] at short
      omega

/-- In a round that is over every number has had its turn. -/
theorem Over.turn (h : p.Over i n) (hp : p.Lawful) (hb : p.Comes (i + 1) e ks rest) :
    ∀ k ∈ ks, ∃ j < n, p.Turn i e k j := by
  intro k hk
  rcases p.within_or_ends h.1 with within | ⟨y, hy, within, short⟩
  · exact absurd (within.2 n h.1 (Nat.le_refl n)) (Nat.not_le.2 h.2)
  · obtain ⟨done, left, progress⟩ := hp.progress hb within
    rw [progress.split, progress.left_eq_nil hp hb short, List.append_nil] at hk
    obtain ⟨j, hj, turn⟩ := progress.turn k hk
    exact ⟨j, Nat.lt_trans hj hy, turn⟩

/-- A round is not over with the turn of a number. -/
theorem Turn.depth_le (h : p.Turn i e k j) (hp : p.Lawful) : p.depth (i + 1) ≤ p.depth (j + 1) := by
  obtain ⟨-, deep, left, rest, comes⟩ := h
  rw [← deep, comes.depth, depth]
  rcases hp.of_round comes with ⟨nothing, -⟩ | ⟨_, left', w', -, -, ht⟩
  · cases nothing
  · rw [ht, List.length_append, List.length_cons]
    omega

/-! ### Where rounds come from -/

/-- A round that goes on leaves on the agenda what stands below it. -/
theorem Lawful.exists_round_of_comes (hp : p.Lawful) {e' : E} {tail above : List W} {w : W}
    {left : List Nat} (comes : p.Comes n e' ks tail) (h : p.agenda (n + 1) = above ++ w :: rest)
    (hw : p.round? w = some (e, left)) :
    ∃ above w left, p.agenda n = above ++ w :: rest ∧ p.round? w = some (e, left) := by
  obtain ⟨x, ha, hx⟩ := id comes
  have inside : ∀ above', tail = above' ++ w :: rest →
      ∃ above w left, p.agenda n = above ++ w :: rest ∧ p.round? w = some (e, left) :=
    fun above' ht => ⟨_ :: above', w, left, ha.trans (congrArg (_ :: ·) ht), hw⟩
  have here : ∀ w' left' above', p.round? w' = some (e', left') → w' :: tail = above' ++ w :: rest →
      ∃ above w left, p.agenda n = above ++ w :: rest ∧ p.round? w = some (e, left) := by
    intro w' left' above' hw' ht
    rcases List.cons_eq_append_iff.1 ht with ⟨-, ht⟩ | ⟨above'', -, ht⟩
    · obtain ⟨rfl, rfl⟩ := List.cons.inj ht
      obtain ⟨rfl, rfl⟩ := Prod.mk.inj (Option.some.inj (hw.symm.trans hw'))
      exact ⟨[], x, ks, ha, hx⟩
    · exact inside above'' ht
  rcases hp.of_round comes with ⟨-, ht⟩ | ⟨k, left', w', -, hw', ht⟩
  · exact inside above (ht.symm.trans h)
  · have ht := ht.symm.trans h
    cases hl : p.listener? n e' k with
    | none => exact here w' left' above hw' (by simpa [hl] using ht)
    | some l =>
      rw [hl] at ht
      rcases List.cons_eq_append_iff.1 ht with ⟨-, ht⟩ | ⟨above', -, ht⟩
      · -- a call is no round
        rw [(List.cons.inj ht).1, hp.not_round] at hw
        cases hw
      · exact here w' left' above' hw' ht

/-- A round comes onto the agenda where it begins. -/
theorem Lawful.begins_or_exists_round (hp : p.Lawful) {above : List W} {w : W} {left : List Nat}
    (h : p.agenda (n + 1) = above ++ w :: rest) (hw : p.round? w = some (e, left)) :
    (above = [] ∧ p.Begins n e) ∨
      ∃ above w left, p.agenda n = above ++ w :: rest ∧ p.round? w = some (e, left) := by
  by_cases hr : ∃ e' ks tail, p.Comes n e' ks tail
  · obtain ⟨e', ks, tail, comes⟩ := hr
    exact Or.inr (hp.exists_round_of_comes comes h hw)
  -- what is gone from the agenda is no round
  obtain ⟨pre, ws, tail, ha, ht, count⟩ : ∃ pre ws tail, p.agenda n = pre ++ tail ∧
      p.agenda (n + 1) = ws ++ tail ∧ pre.countP p.isRound = 0 := by
    cases ha : p.agenda n with
    | nil => exact ⟨[], p.agenda (n + 1), [], rfl, (List.append_nil _).symm, rfl⟩
    | cons x tail =>
      obtain ⟨ws, ht⟩ := hp.exists_append ha
      refine ⟨[x], ws, tail, rfl, ht, ?_⟩
      cases hx : p.round? x with
      | none => simp [isRound, hx]
      | some r => exact absurd ⟨r.1, r.2, tail, x, ha, hx⟩ hr
  rcases List.append_eq_append_iff.1 (h.symm.trans ht) with ⟨new, hws, hnew⟩ | ⟨old, -, htail⟩
  · rcases List.cons_eq_append_iff.1 hnew with ⟨-, htail⟩ | ⟨new, rfl, -⟩
    · exact Or.inr ⟨pre, w, left, by rw [ha, htail], hw⟩
    -- the round is new, and no other one is
    have before : p.openRounds n = tail.countP p.isRound := by
      rw [openRounds, ha, List.countP_append, count, Nat.zero_add]
    have after : p.openRounds (n + 1) = above.countP p.isRound + (new.countP p.isRound + 1) +
        tail.countP p.isRound := by
      rw [openRounds, ht, hws, List.countP_append, List.countP_append,
        List.countP_cons_of_pos (by rw [isRound, hw]; rfl)]
    obtain ⟨one, e', ks', rest', ⟨w', ha', hw'⟩, -⟩ := hp.begins (n := n) (by omega)
    have first : above = [] := by
      cases above with
      | nil => rfl
      | cons x above =>
        obtain ⟨rfl, -⟩ := List.cons.inj (h.symm.trans ha')
        rw [List.countP_cons_of_pos (by rw [isRound, hw']; rfl)] at after
        omega
    subst first
    exact Or.inl ⟨rfl, ⟨left, rest, w, h, hw⟩, by omega⟩
  · exact Or.inr ⟨pre ++ old, w, left, by rw [ha, htail, List.append_assoc], hw⟩

/-- Every round on the agenda has begun with a move and goes on since. -/
theorem Lawful.exists_begins (hp : p.Lawful) (above : List W) {w : W} {left : List Nat}
    (h : p.agenda n = above ++ w :: rest) (hw : p.round? w = some (e, left)) :
    ∃ i, p.Begins i e ∧ p.Within i n ∧ p.depth (i + 1) = rest.length + 1 := by
  induction n generalizing above w left with
  | zero => simp [hp.idle] at h
  | succ n ih =>
    have deep : rest.length + 1 ≤ p.depth (n + 1) := by
      rw [depth, h, List.length_append, List.length_cons]
      omega
    rcases hp.begins_or_exists_round h hw with ⟨rfl, begins⟩ | ⟨above', w', left', ha, hw'⟩
    · have comes : p.Comes (n + 1) e left rest := ⟨w, h, hw⟩
      refine ⟨n, begins, ⟨Nat.lt_succ_self n, fun m hn hm => ?_⟩, comes.depth⟩
      obtain rfl : m = n + 1 := Nat.le_antisymm hm hn
      exact Nat.le_refl _
    · obtain ⟨i, begins, within, hi⟩ := ih _ ha hw'
      refine ⟨i, begins, ⟨Nat.lt_succ_of_lt within.1, fun m him hm => ?_⟩, hi⟩
      rcases Nat.le_succ_iff.1 hm with hm | rfl
      · exact within.2 m him hm
      · exact hi ▸ deep

/-! ### Who is called -/

/-- Who has a turn was registered when the round began. -/
theorem Begins.registered_of_turn (h : p.Begins i e) (hp : p.Lawful) (hk : p.Turn i e k j) :
    ∃ l, p.Registered i e k l := by
  obtain ⟨ks, rest, ha, -, all⟩ := h.registered hp
  obtain ⟨done, left, progress⟩ := hk.progress hp ha
  refine (all k).1 ?_
  rw [progress.split]
  exact List.mem_append_right _ List.mem_cons_self

/-- The numbers that had their turns before are smaller. -/
theorem Begins.lt_of_lt (h : p.Begins i e) (hp : p.Lawful) {m : Nat} (hk : p.Turn i e k j)
    (hm : p.Turn i e m n) (hlt : j < n) : k < m := by
  obtain ⟨ks, rest, ha, increasing, -⟩ := h.registered hp
  obtain ⟨done, left, progress⟩ := hm.progress hp ha
  rw [progress.split, List.pairwise_append] at increasing
  exact increasing.2.2 k (progress.had k j hlt hk) m List.mem_cons_self

/-- Whoever has its turn is called if it was registered when the round began and still is. -/
theorem Begins.calls_iff (h : p.Begins i e) (hp : p.Lawful) (hk : p.Turn i e k j) :
    p.Calls j e k l ↔ p.Registered i e k l ∧ p.Registered j e k l := by
  obtain ⟨first, hfirst⟩ := h.registered_of_turn hp hk
  have hij := Nat.le_of_lt hk.1.1
  obtain ⟨left, rest, comes⟩ := hk.2.2
  have called : p.Calls j e k l ↔ p.listener? j e k = some l := by
    obtain ⟨nothing, -⟩ | ⟨k', left', w, same, hw, ht⟩ := hp.of_round comes
    · cases nothing
    obtain ⟨rfl, rfl⟩ := List.cons.inj same
    have next : (p.agenda (j + 1)).head? = some (p.call e l) ↔ p.listener? j e k = some l := by
      rw [ht]
      cases p.listener? j e k with
      | none =>
        refine ⟨fun hc => ?_, nofun⟩
        rw [show w = p.call e l from Option.some.inj hc, hp.not_round] at hw
        cases hw
      | some l' =>
        exact ⟨fun hc => congrArg some (hp.call_inj (Option.some.inj hc)), fun hl => by
          rw [Option.some.inj hl]; rfl⟩
    exact ⟨fun hc => next.1 hc.2, fun hl => ⟨⟨left, rest, comes⟩, next.2 hl⟩⟩
  rw [called, hp.listener?_iff hij hfirst]
  exact ⟨fun hl => ⟨(hp.succeeds_le hij (hp.issued hfirst)).2 l hl, hl⟩, And.right⟩

/-- What holds of rounds, whatever listeners do meanwhile. -/
structure Notifies (p : Proceedings W E L) : Prop where
  /-- A number has its turn in a round once at most. -/
  once : ∀ {i e k j j'}, p.Begins i e → p.Turn i e k j → p.Turn i e k j' → j = j'
  /-- The turns of a round go by the numbers. -/
  ordered : ∀ {i e k k' j j'}, p.Begins i e → p.Turn i e k j → p.Turn i e k' j' →
    (j < j' ↔ k < k')
  /-- Who is registered later has a later number. -/
  numbered : ∀ {a b e k k' l l'}, a ≤ b → p.Registered a e k l →
    (∀ l, ¬ p.Registered a e k' l) → p.Registered b e k' l' → k < k'
  /-- Who was registered when a round began has had its turn when the round is over. -/
  reached : ∀ {i e k l n}, p.Begins i e → p.Registered i e k l → p.Over i n →
    ∃ j < n, p.Turn i e k j
  /-- Whoever has its turn is called if it was registered when the round began and is registered
      still, and nobody else is called. -/
  called : ∀ {i e k l j}, p.Begins i e → p.Turn i e k j →
    (p.Calls j e k l ↔ p.Registered i e k l ∧ p.Registered j e k l)
  /-- Every call of a round belongs to one that has begun. -/
  belongs : ∀ {e k l j}, p.Calls j e k l → ∃ i, p.Begins i e ∧ p.Turn i e k j
  /-- Who is registered during a round has no turn in it. -/
  added : ∀ {i e k j}, p.Begins i e → (∀ l, ¬ p.Registered i e k l) → ¬ p.Turn i e k j

theorem Lawful.notifies (hp : p.Lawful) : p.Notifies where
  once hb hk hk' := by
    rcases Nat.lt_trichotomy _ _ with hlt | h | hlt
    · exact absurd (hb.lt_of_lt hp hk hk' hlt) (Nat.lt_irrefl _)
    · exact h
    · exact absurd (hb.lt_of_lt hp hk' hk hlt) (Nat.lt_irrefl _)
  ordered {i e k k' j j'} hb hk hk' := by
    refine ⟨hb.lt_of_lt hp hk hk', fun hlt => ?_⟩
    rcases Nat.lt_trichotomy j j' with h | rfl | h
    · exact h
    · obtain ⟨left, rest, comes⟩ := hk.2.2
      obtain ⟨left', rest', comes'⟩ := hk'.2.2
      have same := (List.cons.inj (comes.inj comes').2.1).1
      exact absurd hlt (same ▸ Nat.lt_irrefl k)
    · exact absurd (hb.lt_of_lt hp hk' hk h) (Nat.lt_asymm hlt)
  numbered hab hk hnone hk' := hp.lt_of_registered hab hk hnone hk'
  reached hb hk ended := by
    obtain ⟨ks, rest, ha, -, all⟩ := hb.registered hp
    exact ended.turn hp ha _ ((all _).2 ⟨_, hk⟩)
  called hb hk := hb.calls_iff hp hk
  belongs {e k l j} h := by
    obtain ⟨left, rest, comes⟩ := h.1
    obtain ⟨w, ha, hw⟩ := id comes
    obtain ⟨i, begins, within, deep⟩ := hp.exists_begins [] ha hw
    exact ⟨i, begins, within, by rw [deep, comes.depth], left, rest, comes⟩
  added hb hnone hk := by
    obtain ⟨l, hl⟩ := hb.registered_of_turn hp hk
    exact hnone l hl

end Proceedings

end LiveForm
