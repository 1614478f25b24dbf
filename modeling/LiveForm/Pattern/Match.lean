/-
  Where patterns match.

  The places of a text lie before, between and after its characters. A set of places is a number
  whose bits stand for them, the lowest one for the place before the first character. What a pattern
  does in one text is a motion of such sets: from the places where matches begin to those where they
  end. Which of several matches is taken plays no part.
-/
import LiveForm.Pattern.Basic
import LiveForm.Unicode.Property

namespace LiveForm

/-- The characters of words: letters, marks, digits, connectors and the two joiners. -/
def CharSet.word : CharSet :=
  unions [alphabetic, mark, decimalNumber, connectorPunctuation, joinControl]

/-- The characters of words in ASCII. -/
def CharSet.asciiWord : CharSet := ascii ∩ word

/-- Whether a condition on words holds between two characters that are in words or not. -/
def WordAnchor.holds (a : WordAnchor) (before after : Bool) : Bool :=
  match a with
  | .boundary => before != after
  | .noBoundary => before == after
  | .start => !before && after
  | .finish => before && !after
  | .startHalf => !before
  | .finishHalf => !after

/-- Whether the condition holds between the characters `before` and `after`. A line feed after a
    carriage return ends the line together with it. -/
def Anchor.holds (a : Anchor) (before after : Option Char) : Bool :=
  match a with
  | .textStart => before.isNone
  | .textEnd => after.isNone
  | .lineStart orReturn =>
    before.all (· == '\n') || (orReturn && before == some '\r' && after != some '\n')
  | .lineEnd orReturn =>
    if orReturn then
      after.all (· == '\r') || (after == some '\n' && before != some '\r')
    else after.all (· == '\n')
  | .word w ascii =>
    let s := if ascii then CharSet.asciiWord else CharSet.word
    w.holds (before.any s.contains) (after.any s.contains)

/-! ## Motions -/

/-- What a pattern does to places. -/
inductive Motion where
  /-- Keeps some places. -/
  | stay (places : Nat)
  /-- Goes on from some places to the next ones. -/
  | step (places : Nat)
  | andThen (a b : Motion)
  | either (a b : Motion)
  /-- At least `min` times, and at most `more` times more. -/
  | again (a : Motion) (min more : Nat)

namespace Motion

/-- Applies a motion `n` times. -/
def exactly (f : Nat → Nat) : Nat → Nat → Nat
  | 0, s => s
  | n + 1, s =>
    let t := f s
    if s = 0 ∨ t = s then t else exactly f n t

/-- Adds what a motion reaches, `n` times over. -/
def upTo (f : Nat → Nat) : Nat → Nat → Nat
  | 0, s => s
  | n + 1, s =>
    let t := s ||| f s
    if t = s then s else upTo f n t

/-- The places that are reached. -/
def run : Motion → Nat → Nat
  | .stay places, s => s &&& places
  | .step places, s => (s &&& places) <<< 1
  | .andThen a b, s => b.run (a.run s)
  | .either a b, s => a.run s ||| b.run s
  | .again a min more, s => upTo a.run more (exactly a.run min s)

end Motion

/-! ## Patterns in a text -/

namespace Pattern

/-- A number with a bit for each of some truth values, the lowest first. -/
def bits (bs : List Bool) : Nat := bs.foldr (fun b n => 2 * n + b.toNat) 0

/-- The pairs of characters on the two sides of each place, after the character `before`. -/
def around (before : Option Char) : List Char → List (Option Char × Option Char)
  | [] => [(before, none)]
  | c :: cs => (before, some c) :: around (some c) cs

/-- All places of a text. -/
def places (text : List Char) : Nat := (1 <<< (text.length + 1)) - 1

mutual

/-- The motion of a pattern in a text. No more rounds are needed than there are places. -/
def motion (text : List Char) : Pattern → Motion
  | .empty => .stay (places text)
  | .literal cs => cs.foldr (fun c m => .andThen (.step (bits (text.map (· == c)))) m)
      (.stay (places text))
  | .oneOf s => .step (bits (text.map s.contains))
  | .anchor a => .stay (bits ((around none text).map fun p => a.holds p.1 p.2))
  | .sequence ps => motionOfAll text ps
  | .choice ps => motionOfAny text ps
  | .repeated p min max => .again (motion text p) min ((max.map (· - min)).getD (text.length + 1))
  | .group p => motion text p

def motionOfAll (text : List Char) : List Pattern → Motion
  | [] => .stay (places text)
  | p :: ps => .andThen (motion text p) (motionOfAll text ps)

def motionOfAny (text : List Char) : List Pattern → Motion
  | [] => .stay 0
  | p :: ps => .either (motion text p) (motionOfAny text ps)

end

/-- Whether the pattern matches somewhere in the text. -/
def isMatch (p : Pattern) (s : String) : Bool :=
  (motion s.toList p).run (places s.toList) != 0

end Pattern

end LiveForm
