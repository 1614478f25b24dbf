/-
  Ranges of characters as ranges of bytes.

  In UTF-8 a range of characters is a union of products of byte ranges: sequences of ranges, one for
  each byte. `CharSet.byteSequences` gives the fewest such sequences, in ascending order.
-/
import LiveForm.Text.CharSet

namespace LiveForm.Utf8

/-- The range of a byte, both ends included. -/
abbrev ByteRange := Nat × Nat

/-- All bytes that go on with a character. -/
def continuation : ByteRange := (0x80, 0xBF)

/-- The sequences for the numbers from `lo` to `hi` whose last `k` digits in base 64 stand in bytes
    of their own, and whose other digits stand in a byte that counts from `base`. -/
def blocks (base lo hi : Nat) : Nat → List (List ByteRange)
  | 0 => [[(base + lo, base + hi)]]
  | k + 1 =>
    let unit := 64 ^ (k + 1)
    let first := lo / unit
    let last := hi / unit
    let under := fun (n lo hi : Nat) => (blocks 0x80 lo hi k).map ((base + n, base + n) :: ·)
    if first = last then under first (lo % unit) (hi % unit)
    else
      let front := if lo % unit = 0 then [] else under first (lo % unit) (unit - 1)
      let back := if hi % unit = unit - 1 then [] else under last 0 (hi % unit)
      let start := if front.isEmpty then first else first + 1
      let stop := if back.isEmpty then last + 1 else last
      let middle := if start < stop then
          [(base + start, base + stop - 1) :: List.replicate (k + 1) continuation]
        else []
      front ++ middle ++ back

/-- The largest code points of one, two, three and four bytes, with the number of bytes after the
    first one and the first byte for zero. -/
def lengths : List (Nat × Nat × Nat) :=
  [(0x7F, 0, 0), (0x7FF, 1, 0xC0), (0xFFFF, 2, 0xE0), (0x10FFFF, 3, 0xF0)]

/-- The sequences for a range of code points above `below`, by the lengths that are left. -/
def sequences (lo hi : Nat) : List (Nat × Nat × Nat) → List (List ByteRange)
  | [] => []
  | (largest, k, base) :: rest =>
    if largest < lo then sequences lo hi rest
    else if hi ≤ largest then blocks base lo hi k
    else blocks base lo largest k ++ sequences (largest + 1) hi rest

end LiveForm.Utf8

namespace LiveForm.CharSet

/-- The sequences of byte ranges of all characters of a set, in ascending order. -/
def byteSequences (s : CharSet) : List (List Utf8.ByteRange) :=
  s.ranges.flatMap fun r => Utf8.sequences r.1 r.2 Utf8.lengths

end LiveForm.CharSet
