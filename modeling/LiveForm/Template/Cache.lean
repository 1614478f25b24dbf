/-
  A cache of templates by their text. When it is full, the template that has not been asked for the
  longest makes room.

  The entries stand in the order of their last use, the latest first. A text that is no template is
  looked up in vain every time, and a cache without room holds nothing.
-/
import LiveForm.Number.Binary64
import LiveForm.Template.Basic

namespace LiveForm.Template

structure Cache where
  capacity : Nat
  /-- The templates held, the latest used first. -/
  entries : List Template
  hits : Nat
  misses : Nat
deriving Inhabited

namespace Cache

/-- A cache with room for `capacity` templates. -/
def empty (capacity : Nat) : Cache := ⟨capacity, [], 0, 0⟩

/-- The template of a text, if it is held. -/
def find? (c : Cache) (source : String) : Option Template :=
  c.entries.find? (·.source == source)

def size (c : Cache) : Nat := c.entries.length

/-- Puts a template in front of the others; the last one goes where there is no room for it. -/
def push (c : Cache) (t : Template) : Cache :=
  { c with entries := (t :: c.entries.filter (·.source != t.source)).take c.capacity }

/-- The template of a text, held or newly read, and the cache after the look-up. -/
def get (c : Cache) (source : String) : Except SyntaxError Template × Cache :=
  match c.find? source with
  | some t => (.ok t, { c.push t with hits := c.hits + 1 })
  | none =>
    let c := { c with misses := c.misses + 1 }
    match parse source with
    | .error e => (.error e, c)
    | .ok t => (.ok t, c.push t)

/-- The cache with all its room, as if it had never been used. -/
def clear (c : Cache) : Cache := empty c.capacity

/-- The share of look-ups that found their template, in percent. -/
def hitRatio (c : Cache) : Binary64 :=
  (do
    let share ← (← Binary64.ofNat? c.hits).div? (← Binary64.ofNat? (c.hits + c.misses))
    share.mul? (← Binary64.ofNat? 100)).getD .zero

end Cache

end LiveForm.Template
