/-
  What a cache of templates remembers.

  A cache is used by look-ups and by clearings. Whatever its uses were, it holds the templates of
  the texts looked up last, as many different ones as there is room for, and a look-up gives what
  reading the text anew would give.

  * `used capacity us`: a cache after a history of uses, and `lookedUp us`, `recent us` what the
    history alone tells: the texts looked up since the last clearing, and those of them that are
    templates, each one once;
  * `Recalls us c`: a cache stands as its history tells; `recalls_used` by induction on the history;
  * `get_used`: what a look-up gives and counts, after any history.

  Histories stand as the entries of a cache do, the latest first.
-/
import LiveForm.Proofs.Caching
import LiveForm.Proofs.Reading
import Mathlib.Data.List.Nodup

namespace LiveForm.Template.Cache

/-! ## Lists without repetition -/

section Distinct

variable {α : Type} [DecidableEq α]

/-- The first occurrences of what passes a filter. -/
theorem eraseDups_filter (p : α → Bool) (l : List α) :
    (l.filter p).eraseDups = l.eraseDups.filter p := by
  -- On the length: past its first element, `eraseDups` goes on with a filtered rest.
  induction hn : l.length using Nat.strongRecOn generalizing l with
  | ind n ih =>
    cases l with
    | nil => rfl
    | cons a l =>
      have hlen : (l.filter (! · == a)).length < n :=
        Nat.lt_of_le_of_lt (List.length_filter_le _ _) (by simp [← hn])
      have hrest := ih _ hlen (l.filter (! · == a)) rfl
      rw [List.eraseDups_cons]
      cases hp : p a with
      | true =>
        rw [List.filter_cons_of_pos hp, List.eraseDups_cons, List.filter_cons_of_pos hp, ← hrest,
          List.filter_filter, List.filter_filter]
        simp only [Bool.and_comm]
      | false =>
        rw [List.filter_cons_of_neg (by simp [hp]), List.filter_cons_of_neg (by simp [hp]), ← hrest,
          List.filter_filter]
        congr 1
        refine List.filter_congr fun b _ => ?_
        by_cases hb : b = a
        · simp [hb, hp]
        · simp [hb]

/-- Where nothing stands twice, taking one thing out moves up at most one other. -/
theorem take_filter_take {l : List α} (h : l.Nodup) (a : α) (n : Nat) :
    ((l.take (n + 1)).filter (· != a)).take n = (l.filter (· != a)).take n := by
  induction l generalizing n with
  | nil => rfl
  | cons b l ih =>
    obtain ⟨hb, hl⟩ := List.nodup_cons.1 h
    by_cases hba : b = a
    · have hne : ∀ c ∈ l, (c != a) = true := fun c hc => by
        simpa using fun hca : c = a => hb (by rwa [hba, ← hca])
      rw [List.take_succ_cons, List.filter_cons_of_neg (by simp [hba]),
        List.filter_cons_of_neg (by simp [hba]), List.filter_eq_self.2 hne,
        List.filter_eq_self.2 fun c hc => hne c (List.mem_of_mem_take hc), List.take_take, Nat.min_self]
    · rw [List.take_succ_cons, List.filter_cons_of_pos (by simp [hba]),
        List.filter_cons_of_pos (by simp [hba])]
      cases n with
      | zero => rfl
      | succ n => rw [List.take_succ_cons, List.take_succ_cons, ih hl]

end Distinct

/-! ## Histories -/

/-- A use of a cache. -/
inductive Use where
  | get (source : String)
  | clear

/-- A cache after a history of uses. -/
def used (capacity : Nat) : List Use → Cache
  | [] => empty capacity
  | .get source :: us => ((used capacity us).get source).2
  | .clear :: us => (used capacity us).clear

/-- The texts looked up since the last clearing. -/
def lookedUp : List Use → List String
  | [] => []
  | .get source :: us => source :: lookedUp us
  | .clear :: _ => []

/-- The different templates among the texts looked up since the last clearing. -/
def recent (us : List Use) : List String :=
  ((lookedUp us).filter fun source => (parse source).isOk).eraseDups

variable {capacity : Nat} {us : List Use} {source : String}

theorem nodup_recent (us : List Use) : (recent us).Nodup := nodup_eraseDups _

/-- A template that is looked up stands first from then on. -/
theorem recent_get_of_ok {t : Template} (h : parse source = .ok t) :
    recent (.get source :: us) = source :: (recent us).filter (· != source) := by
  rw [recent, lookedUp, List.filter_cons_of_pos (by rw [h]; rfl), List.eraseDups_cons,
    eraseDups_filter]
  rfl

/-- A text that is no template leaves no trace. -/
theorem recent_get_of_error {e : SyntaxError} (h : parse source = .error e) :
    recent (.get source :: us) = recent us := by
  rw [recent, lookedUp, List.filter_cons_of_neg (by rw [h]; exact Bool.false_ne_true)]
  rfl

/-! ## One look-up -/

variable {c : Cache}

/-- The texts of the templates that are held. -/
def sources (c : Cache) : List String := c.entries.map (·.source)

theorem find?_isSome_iff : (c.find? source).isSome ↔ source ∈ c.sources := by
  simp [find?, sources]

theorem sources_push (c : Cache) (t : Template) :
    (c.push t).sources = (t.source :: c.sources.filter (· != t.source)).take c.capacity := by
  simp only [push, sources, List.map_take, List.map_cons, List.filter_map]
  rfl

/-- A held template is given, and stands first afterwards. -/
theorem get_of_find?_some {t : Template} (h : c.find? source = some t) :
    c.get source = (.ok t, { c.push t with hits := c.hits + 1 }) := by
  rw [get, h]

/-- A text that is not held is read, and held from then on if it is a template. -/
theorem get_of_find?_none (h : c.find? source = none) :
    c.get source = match parse source with
      | .error e => (.error e, { c with misses := c.misses + 1 })
      | .ok t => (.ok t, { c.push t with misses := c.misses + 1 }) := by
  rw [get, h]
  cases parse source <;> rfl

theorem capacity_get (c : Cache) (source : String) : (c.get source).2.capacity = c.capacity := by
  cases hf : c.find? source with
  | some t => rw [get_of_find?_some hf]; rfl
  | none => rw [get_of_find?_none hf]; cases parse source <;> rfl

/-- A text that is held is found: only the count of those goes up. -/
theorem counts_of_mem (h : source ∈ c.sources) :
    (c.get source).2.hits = c.hits + 1 ∧ (c.get source).2.misses = c.misses := by
  obtain ⟨t, ht⟩ := Option.isSome_iff_exists.1 (find?_isSome_iff.2 h)
  rw [get_of_find?_some ht]
  exact ⟨rfl, rfl⟩

/-- A text that is not held is missed. -/
theorem counts_of_notMem (h : source ∉ c.sources) :
    (c.get source).2.hits = c.hits ∧ (c.get source).2.misses = c.misses + 1 := by
  have hf : c.find? source = none := by
    rwa [← Option.not_isSome_iff_eq_none, find?_isSome_iff]
  rw [get_of_find?_none hf]
  cases parse source <;> exact ⟨rfl, rfl⟩

/-- Each look-up is counted once. -/
theorem counts_get (c : Cache) (source : String) :
    (c.get source).2.hits + (c.get source).2.misses = c.hits + c.misses + 1 := by
  by_cases h : source ∈ c.sources
  · rw [(counts_of_mem h).1, (counts_of_mem h).2]; omega
  · rw [(counts_of_notMem h).1, (counts_of_notMem h).2]; omega

/-- Looking up a template puts it in front. -/
theorem sources_get_of_ok {t : Template} (ht : parse source = .ok t) :
    (c.get source).2.sources =
      (source :: c.sources.filter (· != source)).take c.capacity := by
  cases hf : c.find? source with
  | some u =>
    obtain ⟨-, rfl⟩ := find?_spec hf
    rw [get_of_find?_some hf]
    exact sources_push c u
  | none =>
    obtain rfl := source_of_parse ht
    rw [get_of_find?_none hf, ht]
    exact sources_push c t

/-- Looking up a text that is no template moves nothing. -/
theorem Honest.entries_get_of_error (h : c.Honest) {e : SyntaxError}
    (he : parse source = .error e) : (c.get source).2.entries = c.entries := by
  cases hf : c.find? source with
  | some t =>
    obtain ⟨hm, rfl⟩ := find?_spec hf
    cases he.symm.trans (h t hm)
  | none => rw [get_of_find?_none hf, he]

/-! ## Any number of uses -/

/-- A cache stands as its history tells: the templates looked up last are held, as many as there is
    room for, and each look-up is counted. -/
structure Recalls (us : List Use) (c : Cache) : Prop where
  honest : c.Honest
  sources : c.sources = (recent us).take c.capacity
  counts : c.hits + c.misses = (lookedUp us).length

theorem recalls_empty (h : lookedUp us = []) (capacity : Nat) : Recalls us (empty capacity) where
  honest := honest_empty capacity
  sources := by rw [recent, h]; exact List.take_nil.symm
  counts := by rw [h]; rfl

theorem Recalls.get (h : Recalls us c) (source : String) :
    Recalls (.get source :: us) (c.get source).2 where
  honest := (h.honest.get source).2
  sources := by
    rw [capacity_get]
    cases hp : parse source with
    | error e =>
      rw [recent_get_of_error hp, ← h.sources, Cache.sources, Cache.sources,
        h.honest.entries_get_of_error hp]
    | ok t =>
      rw [recent_get_of_ok hp, sources_get_of_ok hp, h.sources]
      cases c.capacity with
      | zero => rfl
      | succ n =>
        rw [List.take_succ_cons, List.take_succ_cons, take_filter_take (nodup_recent us)]
  counts := by rw [counts_get, h.counts]; rfl

/-- A cache stands as its history tells, whatever the history is. -/
theorem recalls_used (capacity : Nat) (us : List Use) : Recalls us (used capacity us) := by
  induction us with
  | nil => exact recalls_empty rfl capacity
  | cons u us ih =>
    cases u with
    | get source => exact ih.get source
    | clear => exact recalls_empty rfl _

theorem capacity_used (capacity : Nat) (us : List Use) : (used capacity us).capacity = capacity := by
  induction us with
  | nil => rfl
  | cons u us ih =>
    cases u with
    | get source => exact (capacity_get _ source).trans ih
    | clear => exact ih

/-- After any history of look-ups and clearings, a look-up gives what the text is read as, whatever
    room the cache has. It is a hit for the texts that were looked up last, as many different
    templates as there is room for, and a miss for all others. A text that is no template moves
    nothing, there are never more templates than there is room for, and hits and misses together
    are the look-ups since the last clearing. -/
theorem get_used (capacity : Nat) (us : List Use) (source : String) :
    let c := used capacity us
    (c.get source).1 = parse source ∧
      (source ∈ (recent us).take capacity →
        (c.get source).2.hits = c.hits + 1 ∧ (c.get source).2.misses = c.misses) ∧
      (source ∉ (recent us).take capacity →
        (c.get source).2.hits = c.hits ∧ (c.get source).2.misses = c.misses + 1) ∧
      c.entries.map (·.source) = (recent us).take capacity ∧
      (∀ e, parse source = .error e → (c.get source).2.entries = c.entries) ∧
      c.size ≤ capacity ∧
      c.hits + c.misses = (lookedUp us).length := by
  intro c
  have h : Recalls us c := recalls_used capacity us
  have hc : c.capacity = capacity := capacity_used capacity us
  have hs : c.sources = (recent us).take capacity := by rw [h.sources, hc]
  refine ⟨(h.honest.get source).1, ?_, ?_, hs, fun e he => h.honest.entries_get_of_error he, ?_,
    h.counts⟩
  · intro hm
    exact counts_of_mem (hs ▸ hm)
  · intro hm
    exact counts_of_notMem (hs ▸ hm)
  · calc
      c.size = c.sources.length := (List.length_map _).symm
      _ = ((recent us).take capacity).length := by rw [hs]
      _ ≤ capacity := List.length_take_le _ _

/-- The template used again stays, and the text in between takes no room. -/
example : (used 2 [.get "c", .get "\x7b", .get "a", .get "b", .get "a"]).entries.map (·.source) =
    ["c", "a"] := by decide +kernel

end LiveForm.Template.Cache
