/-
  Rosters: entries under numbers that are given out in order and never again.
-/

namespace LiveForm

structure Roster (α : Type) where
  /-- The entries with their numbers, in the order in which they were added. -/
  entries : List (Nat × α)
  /-- The number of the next entry. -/
  next : Nat
  increasing : (entries.map Prod.fst).Pairwise (· < ·)
  lt_next : ∀ n ∈ entries.map Prod.fst, n < next

namespace Roster

variable {α : Type}

/-- A roster without entries, whose first one will have the given number. -/
def startingAt (first : Nat) : Roster α := ⟨[], first, by simp, by simp⟩

instance : Inhabited (Roster α) := ⟨startingAt 0⟩

/-- Adds an entry, which gets the number `r.next`. -/
def add (r : Roster α) (a : α) : Roster α where
  entries := r.entries ++ [(r.next, a)]
  next := r.next + 1
  increasing := by
    rw [List.map_append, List.pairwise_append]
    refine ⟨r.increasing, by simp, fun n hn m hm => ?_⟩
    obtain rfl : m = r.next := by simpa using hm
    exact r.lt_next n hn
  lt_next n hn := by
    rw [List.map_append, List.mem_append] at hn
    rcases hn with hn | hn
    · exact Nat.lt_succ_of_lt (r.lt_next n hn)
    · obtain rfl : n = r.next := by simpa using hn
      exact Nat.lt_succ_self _

def get? (r : Roster α) (n : Nat) : Option α := r.entries.lookup n

def remove (r : Roster α) (n : Nat) : Roster α where
  entries := r.entries.filter fun e => e.1 != n
  next := r.next
  increasing := r.increasing.sublist (List.filter_sublist.map _)
  lt_next m hm := r.lt_next m ((List.filter_sublist.map _).subset hm)

/-- Removes every entry; the numbers stay given out. -/
def clear (r : Roster α) : Roster α := ⟨[], r.next, by simp, by simp⟩

theorem map_fst_modify (es : List (Nat × α)) (n : Nat) (f : α → α) :
    (es.map fun e => if e.1 = n then (n, f e.2) else e).map Prod.fst = es.map Prod.fst := by
  rw [List.map_map]
  refine List.map_congr_left fun e _ => ?_
  by_cases h : e.1 = n <;> simp [h]

/-- Changes the entry of a number. -/
def modify (r : Roster α) (n : Nat) (f : α → α) : Roster α where
  entries := r.entries.map fun e => if e.1 = n then (n, f e.2) else e
  next := r.next
  increasing := by rw [map_fst_modify]; exact r.increasing
  lt_next := by rw [map_fst_modify]; exact r.lt_next

def numbers (r : Roster α) : List Nat := r.entries.map Prod.fst

def size (r : Roster α) : Nat := r.entries.length

/-! ## What is under a number -/

theorem get?_eq_some_iff {r : Roster α} {n : Nat} {a : α} :
    r.get? n = some a ↔ (n, a) ∈ r.entries := by
  have nodup : ∀ {es : List (Nat × α)}, (es.map Prod.fst).Pairwise (· < ·) →
      (es.lookup n = some a ↔ (n, a) ∈ es) := by
    intro es h
    induction es with
    | nil => simp
    | cons e es ih =>
      obtain ⟨m, b⟩ := e
      rw [List.map_cons, List.pairwise_cons] at h
      by_cases hm : n = m
      · subst hm
        have : (n, a) ∉ es := fun ha => Nat.lt_irrefl n (h.1 n (List.mem_map_of_mem (f := Prod.fst) ha))
        simp [this, eq_comm]
      · have hb : (n == m) = false := by simpa using hm
        simp [List.lookup_cons, hb, ih h.2, hm]
  exact nodup r.increasing

theorem mem_numbers_iff {r : Roster α} {n : Nat} : n ∈ r.numbers ↔ (r.get? n).isSome := by
  rw [Option.isSome_iff_exists]
  simp [numbers, get?_eq_some_iff]

theorem lt_next_of_get? {r : Roster α} {n : Nat} {a : α} (h : r.get? n = some a) : n < r.next :=
  r.lt_next n (List.mem_map_of_mem (f := Prod.fst) (get?_eq_some_iff.1 h))

theorem get?_next (r : Roster α) : r.get? r.next = none := by
  rw [Option.eq_none_iff_forall_ne_some]
  exact fun a h => Nat.lt_irrefl _ (lt_next_of_get? h)

@[simp] theorem get?_startingAt (first n : Nat) : (startingAt first : Roster α).get? n = none := rfl

@[simp] theorem get?_clear (r : Roster α) (n : Nat) : r.clear.get? n = none := rfl

theorem get?_add (r : Roster α) (a : α) (n : Nat) :
    (r.add a).get? n = if n = r.next then some a else r.get? n := by
  ext b
  rw [get?_eq_some_iff]
  by_cases h : n = r.next
  · subst h
    have : (r.next, b) ∉ r.entries := fun hb => by
      have := get?_eq_some_iff.2 hb
      simp [get?_next] at this
    simp [add, this, eq_comm]
  · simp [add, h, get?_eq_some_iff]

theorem get?_remove (r : Roster α) (m n : Nat) :
    (r.remove m).get? n = if n = m then none else r.get? n := by
  ext b
  rw [get?_eq_some_iff]
  by_cases h : n = m <;> simp [remove, h, get?_eq_some_iff]

theorem get?_modify (r : Roster α) (m n : Nat) (f : α → α) :
    (r.modify m f).get? n = if n = m then (r.get? n).map f else r.get? n := by
  ext b
  rw [get?_eq_some_iff]
  simp only [modify, List.mem_map, Prod.exists]
  by_cases h : n = m
  · subst h
    simp only [↓reduceIte, Option.map_eq_some_iff, get?_eq_some_iff]
    constructor
    · rintro ⟨k, a, ha, he⟩
      split at he
      · next hk => simp only [Prod.mk.injEq, true_and] at he; exact ⟨a, hk ▸ ha, he⟩
      · next hk => simp only [Prod.mk.injEq] at he; exact absurd he.1 hk
    · rintro ⟨a, ha, rfl⟩
      exact ⟨n, a, ha, by simp⟩
  · simp only [h, ↓reduceIte, get?_eq_some_iff]
    constructor
    · rintro ⟨k, a, ha, he⟩
      split at he
      · next hk => simp only [Prod.mk.injEq] at he; exact absurd he.1.symm h
      · simp only [Prod.mk.injEq] at he; obtain ⟨rfl, rfl⟩ := he; exact ha
    · exact fun hb => ⟨n, b, hb, by simp [h]⟩

@[simp] theorem next_add (r : Roster α) (a : α) : (r.add a).next = r.next + 1 := rfl

@[simp] theorem next_remove (r : Roster α) (n : Nat) : (r.remove n).next = r.next := rfl

@[simp] theorem next_modify (r : Roster α) (n : Nat) (f : α → α) : (r.modify n f).next = r.next :=
  rfl

@[simp] theorem next_clear (r : Roster α) : r.clear.next = r.next := rfl

end Roster

end LiveForm
