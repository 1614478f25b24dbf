/-
  What a backslash in a pattern stands for: characters, classes and conditions on places.
-/
import LiveForm.Pattern.Flags
import LiveForm.Pattern.Match
import LiveForm.Unicode.Query

namespace LiveForm.Pattern

/-- A piece of a pattern that has been read. -/
inductive Atom where
  | char (c : Char)
  | set (s : CharSet)
  | anchor (a : Anchor)

/-! ## Characters -/

/-- Characters with a meaning of their own, which a backslash takes away. -/
def isMeta (c : Char) : Bool :=
  ['\\', '.', '+', '*', '?', '(', ')', '|', '[', ']', '{', '}', '^', '$', '#', '&', '-',
    '~'].contains c

/-- Other characters that may be written with a backslash. -/
def mayEscape (c : Char) : Bool :=
  c.toNat < 0x80 && !c.isAlphanum && c != '<' && c != '>'

/-- The character of a letter behind a backslash. -/
def control? : Char → Option Char
  | 'a' => some '\x07'
  | 'f' => some '\x0c'
  | 't' => some '\t'
  | 'n' => some '\n'
  | 'r' => some '\r'
  | 'v' => some '\x0b'
  | _ => none

/-- The character of a code point in base sixteen. -/
def ofHex? (ds : List Char) : Option Char := do
  let n ← Text.hexNumeral? ds
  if !ds.isEmpty ∧ (n < 0xD800 ∨ (0xE000 ≤ n ∧ n < 0x110000)) then some (Char.ofNat n) else none

/-- The number of digits in a code point that begins with this letter. -/
def hexLength? : Char → Option Nat
  | 'x' => some 2
  | 'u' => some 4
  | 'U' => some 8
  | _ => none

/-- A code point of `n` digits, or of any number of digits between braces. Two digits without braces
    are a byte, which for ASCII is no character from 128 on. -/
def readHex (f : Flags) (n : Nat) (cs : List Char) : Option (Char × List Char) :=
  match f.skip cs with
  | '{' :: r => do
    let (ds, rest) ← f.until? '}' r
    some (← ofHex? ds, rest)
  | r => do
    let (ds, rest) ← f.take? n r
    let c ← ofHex? ds
    if f.ascii ∧ n = 2 ∧ 0x80 ≤ c.toNat then none else some (c, rest)

/-! ## Classes -/

/-- The classes that a letter is short for: digits, blanks and word characters, of all scripts or of
    ASCII. -/
def shorthand? (f : Flags) (c : Char) : Option CharSet :=
  match c with
  | 'd' => some (if f.ascii then .ofTable "30-39" else .decimalNumber)
  | 's' => some (if f.ascii then .ofTable "9-D 20" else .blank)
  | 'w' => some (if f.ascii then .asciiWord else .word)
  | _ => none

/-- Splits a text at the first place where another one stands. -/
def splitAtText? (sep : List Char) : List Char → Option (List Char × List Char)
  | [] => none
  | c :: r =>
    if sep.isPrefixOf (c :: r) then some ([], (c :: r).drop sep.length)
    else (splitAtText? sep r).map fun (a, b) => (c :: a, b)

/-- The set of a property, and whether the property is negated. A property may have a value after
    `!=`, `:` or `=`, which are looked for in this order. -/
def property? (name : List Char) : Option (Bool × CharSet) :=
  match splitAtText? ['!', '='] name with
  | some (p, v) => (CharSet.ofValue? p v).map (true, ·)
  | none =>
    match (splitAtText? [':'] name).orElse fun _ => splitAtText? ['='] name with
    | some (p, v) => (CharSet.ofValue? p v).map (false, ·)
    | none => (CharSet.ofName? name).map (false, ·)

/-- A class by a Unicode property: one letter, or a name between braces. -/
def readProperty (f : Flags) (negated : Bool) (cs : List Char) : Option (CharSet × List Char) := do
  let (name, rest) ← match f.skip cs with
    | '{' :: r => f.until? '}' r
    | '\\' :: _ => none
    | c :: r => some ([c], r)
    | [] => none
  let (differs, s) ← property? name
  if f.ascii then none else some (← f.finish? (negated != differs) s, rest)

/-! ## Conditions on places -/

/-- The named conditions on words. -/
def wordAnchor? (name : List Char) : Option WordAnchor :=
  match String.ofList name with
  | "start" => some .start
  | "end" => some .finish
  | "start-half" => some .startHalf
  | "end-half" => some .finishHalf
  | _ => none

/-- A word boundary, perhaps with a name in braces. Braces that open with anything but a letter or a
    hyphen count repetitions. -/
def readBoundary (f : Flags) (cs : List Char) : Option (WordAnchor × List Char) :=
  match cs with
  | '{' :: r =>
    match f.skip r with
    | [] => none
    | c :: _ =>
      if c.isAlpha || c == '-' then do
        let (name, rest) ← f.until? '}' r
        some (← wordAnchor? name, rest)
      else some (.boundary, cs)
  | _ => some (.boundary, cs)

/-! ## Escapes -/

/-- What a backslash stands for together with the text after it. -/
def readEscape (f : Flags) : List Char → Option (Atom × List Char)
  | [] => none
  | c :: r =>
    match hexLength? c, shorthand? f c, shorthand? f c.toLower, control? c with
    | some n, _, _, _ => (readHex f n r).map fun (c, rest) => (.char c, rest)
    | _, some s, _, _ => some (.set s, r)
    | _, _, some s, _ => (f.negate? true s).map fun s => (.set s, r)
    | _, _, _, some c => some (.char c, r)
    | _, _, _, _ =>
      if isMeta c || mayEscape c then some (.char c, r)
      else match c with
        | 'p' => (readProperty f false r).map fun (s, rest) => (.set s, rest)
        | 'P' => (readProperty f true r).map fun (s, rest) => (.set s, rest)
        | 'A' => some (.anchor .textStart, r)
        | 'z' => some (.anchor .textEnd, r)
        | 'b' => (readBoundary f r).map fun (a, rest) => (.anchor (.word a f.ascii), rest)
        | 'B' => some (.anchor (.word .noBoundary f.ascii), r)
        | '<' => some (.anchor (.word .start f.ascii), r)
        | '>' => some (.anchor (.word .finish f.ascii), r)
        | _ => none

end LiveForm.Pattern
