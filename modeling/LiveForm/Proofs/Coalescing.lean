/-
  Whole runs of a guard.

  A run is a loop that is changed from inside of its own passes: a request that a pass makes decides
  whether there is another pass, and whether that one is forced. Here the loop is unrolled.

  * `Guard.pass` is what pass number `i` has to be, counted from 0, and `Guard.Ends` says after how
    many passes a run ends, and how;
  * `Guard.runFrom_eq`: from any pass on, a run consists of these passes and leaves the guard at
    rest;
  * `Guard.run_coalesces`: the passes and the outcome of a run by the requests, for all limits.
-/
import LiveForm.Guard
import Mathlib.Data.List.Range

namespace LiveForm

namespace Guard

variable {m : Nat} {force : Bool} {requests : Nat → List Bool}

/-! ## Passes -/

/-- Whether pass number `i` is forced: the first one as the run is, any other if one of the requests
    before it was. -/
def isForced (force : Bool) (requests : Nat → List Bool) : Nat → Bool
  | 0 => force
  | i + 1 => decide (true ∈ requests i)

/-- Pass number `i`: all its requests are put off. -/
def pass (force : Bool) (requests : Nat → List Bool) (i : Nat) : Pass :=
  ⟨isForced force requests i, (requests i).map fun _ => (true, .coalesced)⟩

/-- Pass number `i` is the first one that makes no request. -/
def IsFirstQuiet (requests : Nat → List Bool) (i : Nat) : Prop :=
  requests i = [] ∧ ∀ j < i, requests j ≠ []

theorem IsFirstQuiet.unique {i j : Nat} (hi : IsFirstQuiet requests i)
    (hj : IsFirstQuiet requests j) : i = j := by
  rcases Nat.lt_trichotomy i j with h | h | h
  · exact absurd hi.1 (hj.2 i h)
  · exact h
  · exact absurd hj.1 (hi.2 j h)

/-- How a run ends after a number of passes, of which at most `m` are allowed. -/
inductive Ends (m : Nat) (requests : Nat → List Bool) : Nat → RunOutcome → Prop
  | settled {i : Nat} (hi : i < m) (h : IsFirstQuiet requests i) :
      Ends m requests (i + 1) (.settled (i + 1))
  | cutOff (h : ∀ i < m, requests i ≠ []) (hf : true ∉ requests (m - 1)) :
      Ends m requests m (.cutOff m)
  | extra (h : ∀ i < m, requests i ≠ []) (hf : true ∈ requests (m - 1)) :
      Ends m requests (m + 1) (.cutOff (m + 1))

/-- The guard in a pass of a run, after some requests of the pass. -/
def busy (m : Nat) (forces : List Bool) : Guard :=
  ⟨m, true, !forces.isEmpty, decide (true ∈ forces)⟩

theorem answers_busy (forces rest : List Bool) :
    (busy m forces).answers rest =
      (busy m (forces ++ rest), rest.map fun _ => (true, .coalesced)) := by
  induction rest generalizing forces with
  | nil => simp [answers]
  | cons f rest ih =>
    have hrequest : (busy m forces).runQuiet f = (busy m (forces ++ [f]), .coalesced) := by
      cases f <;> simp [runQuiet, request, busy]
    have hrunning : (busy m (forces ++ [f])).running = true := rfl
    simp [answers, hrequest, hrunning, ih]

theorem afterPass_busy (forces : List Bool) (passes : Nat) :
    (busy m forces).afterPass passes =
      if forces = [] then (⟨m, false, false, false⟩, .stop (.settled passes))
      else if passes < m then (busy m [], .pass (decide (true ∈ forces)))
      else if true ∈ forces then (busy m [], .extra)
      else (⟨m, false, false, false⟩, .stop (.cutOff passes)) := by
  cases forces with
  | nil => rfl
  | cons f fs =>
    by_cases hlt : passes < m <;> by_cases hf : true ∈ f :: fs <;>
      simp [afterPass, busy, hlt, hf]

/-! ## Runs -/

section

variable {g k : Guard} {n : Nat}

theorem runFrom_of_stop {o : RunOutcome}
    (h : (g.answers (requests n)).1.afterPass (n + 1) = (k, .stop o)) :
    runFrom requests g force n = (k, [⟨force, (g.answers (requests n)).2⟩], o) := by
  rw [runFrom]
  split <;> next h' => cases h.symm.trans h' <;> rfl

theorem runFrom_of_extra (h : (g.answers (requests n)).1.afterPass (n + 1) = (k, .extra)) :
    runFrom requests g force n =
      (((k.answers (requests (n + 1))).1.afterExtra (n + 2)).1,
        [⟨force, (g.answers (requests n)).2⟩, ⟨true, (k.answers (requests (n + 1))).2⟩],
        ((k.answers (requests (n + 1))).1.afterExtra (n + 2)).2) := by
  rw [runFrom]
  split <;> next h' => cases h.symm.trans h' <;> rfl

theorem runFrom_of_pass {again : Bool}
    (h : (g.answers (requests n)).1.afterPass (n + 1) = (k, .pass again)) :
    runFrom requests g force n =
      ((runFrom requests k again (n + 1)).1,
        ⟨force, (g.answers (requests n)).2⟩ :: (runFrom requests k again (n + 1)).2.1,
        (runFrom requests k again (n + 1)).2.2) := by
  rw [runFrom]
  split <;> next h' => cases h.symm.trans h' <;> rfl

end

/-- From pass number `i` on, a run has the passes up to its end, and it leaves the guard at rest. -/
theorem runFrom_eq {i : Nat} (hi : i < m) (hbusy : ∀ j < i, requests j ≠ []) :
    ∃ t o, runFrom requests (busy m []) (isForced force requests i) i =
        (⟨m, false, false, false⟩, (List.range' i (t - i)).map (pass force requests), o) ∧
      i < t ∧ Ends m requests t o := by
  have hanswers (n : Nat) : (busy m []).answers (requests n) =
      (busy m (requests n), (requests n).map fun _ => (true, .coalesced)) :=
    answers_busy [] (requests n)
  have hnext := afterPass_busy (m := m) (requests i) (i + 1)
  have hafter : ((busy m []).answers (requests i)).1.afterPass (i + 1) =
      (busy m (requests i)).afterPass (i + 1) := by rw [hanswers]
  by_cases hquiet : requests i = []
  · rw [if_pos hquiet, ← hafter] at hnext
    refine ⟨i + 1, _, ?_, by omega, .settled hi ⟨hquiet, hbusy⟩⟩
    rw [runFrom_of_stop hnext, hanswers]
    simp [pass]
  rw [if_neg hquiet] at hnext
  have hbusy' : ∀ j < i + 1, requests j ≠ [] := by
    intro j hj
    rcases Nat.lt_succ_iff_lt_or_eq.1 hj with hj | rfl
    · exact hbusy j hj
    · exact hquiet
  by_cases hlast : i + 1 < m
  · rw [if_pos hlast, ← hafter] at hnext
    obtain ⟨t, o, hrun, ht, hends⟩ := runFrom_eq hlast hbusy'
    refine ⟨t, o, ?_, by omega, hends⟩
    rw [isForced] at hrun
    rw [runFrom_of_pass hnext, hrun, hanswers, show t - i = t - (i + 1) + 1 by omega,
      List.range'_succ]
    rfl
  obtain rfl : i + 1 = m := by omega
  rw [if_neg hlast] at hnext
  by_cases hforced : true ∈ requests i
  · rw [if_pos hforced, ← hafter] at hnext
    refine ⟨i + 2, _, ?_, by omega, .extra hbusy' hforced⟩
    rw [runFrom_of_extra hnext, hanswers, hanswers]
    simp [pass, isForced, hforced, afterExtra, busy, List.range'_succ]
  · rw [if_neg hforced, ← hafter] at hnext
    refine ⟨i + 1, _, ?_, by omega, .cutOff hbusy' hforced⟩
    rw [runFrom_of_stop hnext, hanswers]
    simp [pass]
termination_by m - i

/-- What becomes of the requests in a run of at most `m` passes, where `requests i` are made in pass
    number `i`. -/
structure Coalesces (m : Nat) (force : Bool) (requests : Nat → List Bool) (ps : List Pass)
    (o : RunOutcome) : Prop where
  /-- There is a first pass, and it is forced as the run is. -/
  first : ps.head?.map Pass.force = some force
  /-- No request starts a run of its own. -/
  answers : ∀ i, ∀ p ∈ ps[i]?, p.answers = (requests i).map fun _ => (true, .coalesced)
  /-- Below the limit there is another pass if the last one made a request. -/
  again : ∀ i, i + 1 < m → (i + 1 < ps.length ↔ i < ps.length ∧ requests i ≠ [])
  /-- A further pass is forced if one of the requests before it was. -/
  forced : ∀ i, ∀ p ∈ ps[i + 1]?, p.force = decide (true ∈ requests i)
  /-- A run settles with the first pass that makes no request. -/
  settled : ∀ k, o = .settled k ↔ ∃ i < m, k = i + 1 ∧ IsFirstQuiet requests i
  length_of_settled : ∀ k, o = .settled k → ps.length = k
  /-- Where no pass is quiet the run is cut off, after an extra pass if one of the last requests was
      forced. -/
  cutOff : (∀ i < m, ¬IsFirstQuiet requests i) →
    if true ∈ requests (m - 1) then ps.length = m + 1 ∧ o = .cutOff (m + 1)
    else ps.length = m ∧ o = .cutOff m

theorem Ends.coalesces {t : Nat} {o : RunOutcome} (h : Ends m requests t o) (ht : 0 < t) :
    Coalesces m force requests ((List.range t).map (pass force requests)) o := by
  have hlength : ((List.range t).map (pass force requests)).length = t := by simp
  have hget (i : Nat) : ∀ p ∈ ((List.range t).map (pass force requests))[i]?,
      p = pass force requests i := by
    intro p hp
    obtain ⟨hi, rfl⟩ := List.getElem?_eq_some_iff.1 hp
    simp
  constructor
  case first =>
    obtain ⟨t, rfl⟩ : ∃ t', t = t' + 1 := ⟨t - 1, by omega⟩
    simp [List.range_succ_eq_map, pass, isForced]
  case answers =>
    intro i p hp
    rw [hget i p hp, pass]
  case forced =>
    intro i p hp
    rw [hget _ p hp, pass, isForced]
  case again =>
    intro i hi
    rw [hlength]
    cases h with
    | @settled n _ hq =>
      constructor
      · exact fun h => ⟨by omega, hq.2 i (by omega)⟩
      · rintro ⟨h, hne⟩
        have : i ≠ n := by
          rintro rfl
          exact hne hq.1
        omega
    | cutOff hbusy => exact ⟨fun _ => ⟨by omega, hbusy i (by omega)⟩, fun _ => hi⟩
    | extra hbusy => exact ⟨fun _ => ⟨by omega, hbusy i (by omega)⟩, fun _ => by omega⟩
  case settled =>
    intro k
    cases h with
    | @settled n hn hq =>
      constructor
      · intro hk
        exact ⟨n, hn, (RunOutcome.settled.inj hk).symm, hq⟩
      · rintro ⟨i, -, rfl, hi⟩
        rw [hq.unique hi]
    | cutOff hbusy | extra hbusy =>
      refine ⟨nofun, ?_⟩
      rintro ⟨i, hi, -, hq⟩
      exact absurd hq.1 (hbusy i hi)
  case length_of_settled =>
    rintro k rfl
    rw [hlength]
    cases h
    rfl
  case cutOff =>
    intro hnone
    rw [hlength]
    cases h with
    | settled hn hq => exact absurd hq (hnone _ hn)
    | cutOff _ hf => rw [if_neg hf]; exact ⟨rfl, rfl⟩
    | extra _ hf => rw [if_pos hf]; exact ⟨rfl, rfl⟩

/-- A run of a guard at rest leaves the guard as it was. -/
theorem run_coalesces (limit : Nat) (force : Bool) (requests : Nat → List Bool) :
    ((ofLimit limit).run force requests).1 = ofLimit limit ∧
      Coalesces (max limit 1) force requests ((ofLimit limit).run force requests).2.1
        ((ofLimit limit).run force requests).2.2 := by
  have hrun : (ofLimit limit).run force requests =
      runFrom requests (busy (max limit 1) []) (isForced force requests 0) 0 := by
    simp [run, request, ofLimit, busy, isForced]
  obtain ⟨t, o, hfrom, ht, hends⟩ :=
    @runFrom_eq (max limit 1) force requests 0 (by omega) fun j hj => absurd hj (by omega)
  rw [Nat.sub_zero, ← List.range_eq_range'] at hfrom
  rw [hrun, hfrom]
  exact ⟨rfl, hends.coalesces ht⟩

end Guard

end LiveForm
