/-
  Sets of listeners.

  Listeners are numbered in the order in which they are added, and told of a value in that order. Whoever
  is told may add listeners, drop them, clear sets and tell other listeners, so that rounds nest. A forum
  has some sets and what is going on among them.

  * `ListenerSet`: the listeners of one thing;
  * `Forum.act`: what code may do that has the word, and `Forum.advance`: how a round goes on;
  * `Forum.after`: a forum after some moves.
-/
import LiveForm.Store.Roster

namespace LiveForm

/-- The listeners of one thing, under numbers from 0 on. To drop a subscription is to remove the listener
    that has its number. -/
abbrev ListenerSet (L : Type) := Roster L

namespace ListenerSet

variable {L : Type}

abbrev empty : ListenerSet L := .startingAt 0

/-- A listener is there that has a number. -/
def contains (s : ListenerSet L) (k : Nat) : Bool := s.entries.any fun e => e.1 == k

end ListenerSet

/-! ## Forums -/

/-- What code can do with sets of listeners, which are numbered as they are made. A subscription that is
    kept for ever is one that is never dropped, and a set that nobody uses any more stays as it is. -/
inductive Deed (A L : Type) where
  | create
  | add (set : Nat) (l : L)
  | drop (set number : Nat)
  | clear (set : Nat)
  | notify (set : Nat) (a : A)

/-- Something that is going on in a forum. -/
inductive Frame (A L : Type) where
  /-- A round of a value, with the listeners that have not had their turn of those of the beginning. -/
  | round (set : Nat) (a : A) (left : List (Nat × L))
  /-- A listener is being told a value. -/
  | call (set : Nat) (a : A) (l : L)

/-- Sets of listeners of type `L`, which are told values of type `A`, and what is going on among them, the
    innermost first. -/
structure Forum (A L : Type) where
  sets : Roster (ListenerSet L)
  frames : List (Frame A L)

namespace Forum

variable {A L : Type}

def empty : Forum A L := ⟨.startingAt 0, []⟩

/-- Code has the word: a listener that is being told something, or whoever is outside of all rounds. -/
def isFree (f : Forum A L) : Bool :=
  match f.frames with
  | [] | .call .. :: _ => true
  | .round .. :: _ => false

/-- The listeners of a set as they stand. -/
def snapshot (f : Forum A L) (set : Nat) : List (Nat × L) := ((f.sets.get? set).map (·.entries)).getD []

def act (f : Forum A L) : Deed A L → Forum A L
  | .create => { f with sets := f.sets.add .empty }
  | .add set l => { f with sets := f.sets.modify set fun s => s.add l }
  | .drop set k => { f with sets := f.sets.modify set fun s => s.remove k }
  | .clear set => { f with sets := f.sets.modify set fun s => s.clear }
  | .notify set a => { f with frames := .round set a (f.snapshot set) :: f.frames }

/-- A set has a listener under a number. -/
def contains (f : Forum A L) (set k : Nat) : Bool := (f.sets.get? set).any fun s => s.contains k

/-- The next listener of a round has its turn, and is told if it is still there, or what comes next is
    over. -/
def advance (f : Forum A L) : Forum A L :=
  match f.frames with
  | [] => f
  | .round set a ((k, l) :: left) :: rest =>
    { f with frames :=
      (if f.contains set k then [.call set a l] else []) ++ .round set a left :: rest }
  | .round _ _ [] :: rest | .call .. :: rest => { f with frames := rest }

/-- One move: code that has the word does something, or leaves the word. -/
def move (f : Forum A L) : Option (Deed A L) → Forum A L
  | some d => if f.isFree then f.act d else f.advance
  | none => f.advance

/-- A forum after some moves, where whoever has the word does as is said for each of them. -/
def after (deeds : Nat → Option (Deed A L)) : Nat → Forum A L
  | 0 => empty
  | n + 1 => (after deeds n).move (deeds n)

end Forum

end LiveForm
