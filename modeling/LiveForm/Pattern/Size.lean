/-
  The size of patterns.

  A pattern is too large if an automaton for its matches takes more than ten mebibytes. There are
  two of them, one that reads the bytes of a match forward and one that reads them backward; both
  are limited. The automata are not built here: their states are numbered and the bytes that they
  take are added up, until the limit is passed (`Count`).

  * `countOf` counts the states of a pattern, and `Pattern.fits` says whether a pattern is small
    enough.
-/
import LiveForm.Pattern.Basic
import LiveForm.Text.Utf8

namespace LiveForm.Pattern

open Utf8 (ByteRange)

/-! ## Counting -/

/-- The states so far and the bytes that they take. -/
structure Tally where
  states : Nat
  bytes : Nat

/-- The bytes of a state, of each range of bytes in a state that has a list of them, and of each
    way on from a fork. -/
def stateBytes : Nat := 32

def rangeBytes : Nat := 8

def wayBytes : Nat := 4

/-- The bytes that an automaton may take. -/
def byteLimit : Nat := 10 * 1024 * 1024

/-- Counting that ends when the limit is passed. -/
abbrev Count := StateT Tally Option

def takeBytes (n : Nat) : Count Unit := fun t =>
  if t.bytes + n ≤ byteLimit then some ((), { t with bytes := t.bytes + n }) else none

/-- Adds a state with a list of ranges, and gives its number. -/
def stateWith (ranges : Nat) : Count Nat := fun t =>
  let bytes := t.bytes + stateBytes + ranges * rangeBytes
  if bytes ≤ byteLimit then some (t.states, ⟨t.states + 1, bytes⟩) else none

def state : Count Unit := do let _ ← stateWith 0

/-- Adds ways on from a fork. -/
def ways (n : Nat) : Count Unit := takeBytes (n * wayBytes)

/-- How a part ends: going on from a fork takes a further way. -/
inductive Ending where
  | plain
  | fork

def goOn : Ending → Count Unit
  | .plain => pure ()
  | .fork => ways 1

/-! ## Sequences, choices and repetition -/

/-- Goes on with parts one after the other. -/
def chainFrom (e : Ending) : List (Count Ending) → Count Ending
  | [] => pure e
  | part :: rest => do
    let e' ← part
    goOn e
    chainFrom e' rest

def chain : List (Count Ending) → Count Ending
  | [] => do state; return .plain
  | part :: rest => do chainFrom (← part) rest

/-- Goes on with a part `n` times. -/
def copiesFrom (part : Count Ending) (e : Ending) : Nat → Count Ending
  | 0 => pure e
  | n + 1 => do
    let e' ← part
    goOn e
    copiesFrom part e' n

def copies (part : Count Ending) : Nat → Count Ending
  | 0 => do state; return .plain
  | n + 1 => do copiesFrom part (← part) n

/-- The branches of a fork after its first two. -/
def branchesFrom : List (Count Ending) → Count Ending
  | [] => pure .plain
  | branch :: rest => do
    let e ← branch
    ways 1
    goOn e
    branchesFrom rest

def fork : List (Count Ending) → Count Ending
  | [] => do state; return .plain
  | [branch] => branch
  | a :: b :: rest => do
    let e ← a
    let e' ← b
    state
    state
    ways 2
    goOn e
    goOn e'
    branchesFrom rest

/-- A part that may be left out `n` times in a row. -/
def optionalFrom (part : Count Ending) (e : Ending) : Nat → Count Ending
  | 0 => do goOn e; return .plain
  | n + 1 => do
    state
    let e' ← part
    goOn e
    ways 2
    optionalFrom part e' n

/-- A part that is repeated without an upper bound; a part that may be empty needs more states. -/
def unbounded (part : Count Ending) (takesBytes : Bool) : Nat → Count Ending
  | 0 => do
    if takesBytes then
      state
      let e ← part
      ways 1
      goOn e
      return .fork
    else
      let e ← part
      state
      goOn e
      ways 1
      state
      state
      ways 3
      return .plain
  | 1 => do
    let e ← part
    state
    goOn e
    ways 1
    return .fork
  | n + 2 => do
    let e ← copies part (n + 1)
    let e' ← part
    state
    goOn e
    goOn e'
    ways 1
    return .fork

def repetition (part : Count Ending) (takesBytes : Bool) (min : Nat) : Option Nat → Count Ending
  | none => unbounded part takesBytes min
  | some max =>
    if min = 0 ∧ max = 1 then do
      state
      let e ← part
      state
      ways 2
      goOn e
      return .plain
    else if min = max then copies part min
    else do
      let e ← copies part min
      state
      optionalFrom part e (max - min)

/-! ## Sets -/

/-- A table that remembers the numbers of states by what these are. A state that comes to stand in
    the same slot takes the place of the one before it. -/
structure Memo where
  slots : Array (Option (List Nat × Nat))

namespace Memo

def ofSize (n : Nat) : Memo := ⟨Array.replicate n none⟩

/-- A state as a single number (the hash FNV-1a). -/
def hash (key : List Nat) : UInt64 :=
  key.foldl (fun h n => (h ^^^ n.toUInt64) * 1099511628211) 14695981039346656037

def slotOf (m : Memo) (key : List Nat) : Nat := (hash key).toNat % m.slots.size

def find? (m : Memo) (key : List Nat) : Option Nat :=
  match m.slots[m.slotOf key]? with
  | some (some (k, n)) => if k = key then some n else none
  | _ => none

def insert (m : Memo) (key : List Nat) (n : Nat) : Memo :=
  let i := m.slotOf key
  ⟨m.slots.setIfInBounds i (some (key, n))⟩

end Memo

/-- A state with a list of ranges, which is shared with all equal states that are remembered. -/
def sharedState (m : Memo) (key : List Nat) (ranges : Nat) : Count (Nat × Memo) :=
  match m.find? key with
  | some n => pure (n, m)
  | none => do
    let n ← stateWith ranges
    pure (n, m.insert key n)

/-- Puts neighbouring sequences together that begin with the same range. -/
def byFirst : List (List ByteRange) → List (ByteRange × List (List ByteRange))
  | [] => []
  | [] :: rest => byFirst rest
  | (r :: rs) :: rest =>
    match byFirst rest with
    | (q, tails) :: groups =>
      if q = r then (r, rs :: tails) :: groups else (r, [rs]) :: (q, tails) :: groups
    | [] => [(r, [rs])]

/-- The ranges of a state and the states behind them, as one list. -/
def edges (next : List (List ByteRange) → Memo → Count (Nat × Memo)) (m : Memo) :
    List (ByteRange × List (List ByteRange)) → Count (List Nat × Memo)
  | [] => pure ([], m)
  | ((lo, hi), tails) :: groups => do
    let (n, m) ← next tails m
    let (rest, m) ← edges next m groups
    pure (lo :: hi :: n :: rest, m)

/-- The states that read sequences of at most `length` ranges forward, each state after those behind
    it. -/
def forwardStates (target : Nat) : Nat → List (List ByteRange) → Memo → Count (Nat × Memo)
  | 0, _, m => pure (target, m)
  | length + 1, sequences, m =>
    if sequences.any List.isEmpty then pure (target, m)
    else do
      let (key, m) ← edges (forwardStates target length) m (byFirst sequences)
      sharedState m key (key.length / 3)

/-- The states that read one sequence backward, of which the last one goes on to `target`. -/
def backwardStates (target : Nat) (m : Memo) : List ByteRange → Count Memo
  | [] => do ways 1; return m
  | (lo, hi) :: rest => do
    let (n, m) ← sharedState m [target, lo, hi] 0
    backwardStates n m rest

/-- The states that read all sequences backward. -/
def allBackwardStates (target : Nat) (m : Memo) : List (List ByteRange) → Count Unit
  | [] => pure ()
  | ranges :: rest => do
    let m ← backwardStates target m ranges
    allBackwardStates target m rest

/-- The slots for the states of a set, forward and backward. -/
def forwardSlots : Nat := 10000

def backwardSlots : Nat := 1000

/-- The states of a set. -/
def countSet (backward : Bool) (s : CharSet) : Count Ending := do
  if s.isAscii then
    state
    let _ ← stateWith s.ranges.length
  else if backward then
    state
    let target ← stateWith 0
    allBackwardStates target (.ofSize backwardSlots) s.byteSequences
  else
    let target ← stateWith 0
    let _ ← forwardStates target 4 s.byteSequences (.ofSize forwardSlots)
  return .plain

/-! ## Choices between literals -/

/-- Texts by their beginnings. The ways on from a node come in sections: where a text ends at the
    node, a section ends, and later texts do not share the ways before it. -/
inductive Trie where
  | node (closed : List (List (Nat × Trie))) (open_ : List (Nat × Trie))

namespace Trie

def empty : Trie := .node [] []

/-- Changes the way of a byte, which is put in order if it is new. -/
def change (b : Nat) (f : Trie → Trie) : List (Nat × Trie) → List (Nat × Trie)
  | [] => [(b, f empty)]
  | (a, t) :: rest =>
    if b < a then (b, f empty) :: (a, t) :: rest
    else if b = a then (a, f t) :: rest
    else (a, t) :: change b f rest

/-- Adds a text. -/
def add : List Nat → Trie → Trie
  | [], .node closed open_ =>
    if open_.isEmpty ∧ closed.all List.isEmpty ∧ !closed.isEmpty then .node closed open_
    else .node (closed ++ [open_]) []
  | b :: bs, .node closed open_ => .node closed (change b (add bs) open_)

/-- A state for each section of some lengths; a section with one way needs no list. -/
def sectionStates : List Nat → Count Unit
  | [] => pure ()
  | n :: rest => do
    let _ ← stateWith (if n = 1 then 0 else n)
    sectionStates rest

mutual

/-- The states of a node and those behind it. -/
def count : Trie → Count Unit
  | .node closed open_ => do
    countSections closed
    countWays open_
    let lengths := ((closed ++ [open_]).map List.length).filter (0 < ·)
    if !lengths.isEmpty then
      sectionStates lengths
      state
      ways (lengths.length + closed.length)

def countSections : List (List (Nat × Trie)) → Count Unit
  | [] => pure ()
  | s :: rest => do
    countWays s
    countSections rest

def countWays : List (Nat × Trie) → Count Unit
  | [] => pure ()
  | (_, t) :: rest => do
    count t
    countWays rest

end

end Trie

/-- The bytes of a text. -/
def bytesOf (cs : List Char) : List Nat :=
  (String.ofList cs).toUTF8.toList.map UInt8.toNat

/-- The states of a choice between literals. -/
def countLiterals (backward : Bool) (literals : List (List Char)) : Count Ending := do
  let texts := literals.map fun cs => if backward then (bytesOf cs).reverse else bytesOf cs
  state
  (texts.foldl (fun t bs => t.add bs) Trie.empty).count
  return .plain

/-! ## Patterns -/

/-- The text of a pattern that is a literal. -/
def literal? : Pattern → Option (List Char)
  | .literal cs => some cs
  | _ => none

/-- Adds the states of a text. -/
def countBytes : Nat → Count Unit
  | 0 => pure ()
  | n + 1 => do state; countBytes n

mutual

/-- The states of a pattern. -/
def countOf (backward : Bool) : Pattern → Count Ending
  | .empty => do state; return .plain
  | .literal cs => do countBytes (Text.width cs); return .plain
  | .oneOf s => countSet backward s
  | .anchor _ => do state; return .plain
  | .sequence ps =>
    let parts := countsOf backward ps
    chain (if backward then parts.reverse else parts)
  | .choice ps =>
    match ps.mapM literal? with
    | some literals => countLiterals backward literals
    | none => fork (countsOf backward ps)
  | .repeated p min max =>
    repetition (countOf backward p) (p.leastWidth.any (0 < ·)) min max
  | .group p =>
    if backward then countOf backward p
    else do
      state
      let e ← countOf backward p
      state
      goOn e
      return .plain

/-- The countings of several patterns, none of which has begun. -/
def countsOf (backward : Bool) : List Pattern → List (Count Ending)
  | [] => []
  | p :: ps => countOf backward p :: countsOf backward ps

end

/-- The states of a whole automaton. Where a match need not begin at the end of the text that is
    read first, there is a loop in front that passes over bytes. -/
def countWhole (backward : Bool) (p : Pattern) : Count Unit := do
  let anchored := if backward then p.isAtEnd else p.isAtStart
  state
  if !anchored then
    state
    let _ ← stateWith 1
    ways 1
  let e ← countOf backward (if backward then p else .group p)
  state
  goOn e
  if !anchored then ways 1

/-- Whether both automata of a pattern stay within the limit. -/
def fits (p : Pattern) : Bool :=
  (countWhole false p ⟨0, 0⟩).isSome && (countWhole true p ⟨0, 0⟩).isSome

end LiveForm.Pattern
