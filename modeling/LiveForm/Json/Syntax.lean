/-
  The written form of JSON, before the meaning of numerals and escapes is looked at.

  Reading goes in two steps. The first splits the text into tokens and groups them; it refuses what
  no JSON text may hold. The second step gives a document to the grouped text and refuses numerals
  that are too large, halves of surrogate pairs, and nesting that is too deep. The part of a text
  whose content does not matter need only pass the first step.
-/
import LiveForm.Json.Numeral

namespace LiveForm.Json

inductive Token where
  | mark (c : Char)
  | null
  | boolean (b : Bool)
  | number (n : Numeral)
  /-- A string; nothing stands for one with half of a surrogate pair. -/
  | string (s : Option String)

/-- Grouped tokens. -/
inductive Syntax where
  | null
  | boolean (b : Bool)
  | number (n : Numeral)
  | string (s : Option String)
  | array (items : List Syntax)
  | object (members : List (Option String × Syntax))
deriving Inhabited

/-! ## Strings -/

/-- The character that a backslash and this letter stand for. -/
def simpleEscape? : Char → Option Char
  | '"' => some '"'
  | '\\' => some '\\'
  | '/' => some '/'
  | 'b' => some '\x08'
  | 'f' => some '\x0c'
  | 'n' => some '\n'
  | 'r' => some '\r'
  | 't' => some '\t'
  | _ => none

/-- The code units of a string after its opening quote, and the text after its closing quote. -/
def stringBody : List Char → Option (List Nat × List Char)
  | [] => none
  | '"' :: r => some ([], r)
  | '\\' :: 'u' :: a :: b :: c :: d :: r => do
    let unit ← Text.hexNumeral? [a, b, c, d]
    let (units, rest) ← stringBody r
    some (unit :: units, rest)
  | '\\' :: e :: r => do
    let c ← simpleEscape? e
    let (units, rest) ← stringBody r
    some (c.toNat :: units, rest)
  | c :: r =>
    if c = '\\' ∨ c.toNat < 0x20 then none
    else do
      let (units, rest) ← stringBody r
      some (c.toNat :: units, rest)

/-- The characters of code units, in which the two halves of a surrogate pair are one character. -/
def assemble : List Nat → Option (List Char)
  | [] => some []
  | [u] => if 0xD800 ≤ u ∧ u < 0xE000 then none else some [Char.ofNat u]
  | u :: v :: us =>
    if 0xD800 ≤ u ∧ u < 0xDC00 then
      if 0xDC00 ≤ v ∧ v < 0xE000 then
        (assemble us).map (Char.ofNat (0x10000 + (u - 0xD800) * 0x400 + (v - 0xDC00)) :: ·)
      else none
    else if 0xDC00 ≤ u ∧ u < 0xE000 then none
    else (assemble (v :: us)).map (Char.ofNat u :: ·)

/-! ## Numerals -/

def isDigit (c : Char) : Bool := '0' ≤ c ∧ c ≤ '9'

/-- Splits off the digits at the front. -/
def spanDigits (cs : List Char) : List Char × List Char :=
  (cs.takeWhile isDigit, cs.dropWhile isDigit)

/-- Splits off a sign: whether it is a minus, and the text after it. -/
def splitSign : List Char → Bool × List Char
  | '-' :: r => (true, r)
  | '+' :: r => (false, r)
  | r => (false, r)

/-- The places after an optional point, of which there must be some if there is a point. -/
def readPlaces : List Char → Option (List Char × List Char)
  | '.' :: r => if (spanDigits r).1.isEmpty then none else some (spanDigits r)
  | r => some ([], r)

/-- The exponent after its letter. -/
def readExponent (cs : List Char) : Option (Int × List Char) :=
  let (negative, body) := splitSign cs
  let (ds, rest) := spanDigits body
  if ds.isEmpty then none
  else some (if negative then -(Text.numeral ds : Int) else Text.numeral ds, rest)

/-- An optional exponent with its letter. -/
def readPower : List Char → Option (Option Int × List Char)
  | 'e' :: r => (readExponent r).map fun (e, rest) => (some e, rest)
  | 'E' :: r => (readExponent r).map fun (e, rest) => (some e, rest)
  | r => some (none, r)

/-- Reads a numeral whose sign has been read: no leading zero, and digits on both sides of a
    point. -/
def readNumeral (negative : Bool) (cs : List Char) : Option (Numeral × List Char) := do
  let (whole, r) := spanDigits cs
  if whole.isEmpty ∨ (whole.length > 1 ∧ whole.head? = some '0') then none
  else
    let (places, r) ← readPlaces r
    let (exponent, r) ← readPower r
    some (⟨negative, whole.filterMap Text.digit?, places.filterMap Text.digit?, exponent⟩, r)

/-! ## Tokens -/

def isSpace (c : Char) : Bool := c == ' ' || c == '\n' || c == '\r' || c == '\t'

/-- The characters that stand for themselves between values. -/
def isMark (c : Char) : Bool := ['[', ']', '{', '}', ',', ':'].contains c

/-- The token that starts with `c`, and the text after it. -/
def readToken (c : Char) (r : List Char) : Option (Token × List Char) :=
  match c, r with
  | '"', r => (stringBody r).map fun (units, rest) =>
    (.string ((assemble units).map String.ofList), rest)
  | 'n', 'u' :: 'l' :: 'l' :: r => some (.null, r)
  | 't', 'r' :: 'u' :: 'e' :: r => some (.boolean true, r)
  | 'f', 'a' :: 'l' :: 's' :: 'e' :: r => some (.boolean false, r)
  | '-', r => (readNumeral true r).map fun (n, rest) => (.number n, rest)
  | c, r =>
    if isMark c then some (.mark c, r)
    else if isDigit c then (readNumeral false (c :: r)).map fun (n, rest) => (.number n, rest)
    else none

theorem stringBody_length {cs rest : List Char} {units : List Nat}
    (h : stringBody cs = some (units, rest)) : rest.length ≤ cs.length := by
  fun_induction stringBody cs generalizing units rest with
  | case1 => simp at h
  | case2 r => simp at h; simp [h]
  | case3 a b c d r ih =>
    simp only [bind, Option.bind_eq_some_iff] at h
    obtain ⟨_, _, ⟨u, t⟩, ht, h⟩ := h
    have := ih ht
    simp only [Option.some.injEq, Prod.mk.injEq] at h
    obtain ⟨_, rfl⟩ := h
    simp only [List.length_cons]; omega
  | case4 e r _ ih =>
    simp only [bind, Option.bind_eq_some_iff] at h
    obtain ⟨_, _, ⟨u, t⟩, ht, h⟩ := h
    have := ih ht
    simp only [Option.some.injEq, Prod.mk.injEq] at h
    obtain ⟨_, rfl⟩ := h
    simp only [List.length_cons]; omega
  | case5 => simp at h
  | case6 c r _ _ _ _ ih =>
    simp only [bind, Option.bind_eq_some_iff] at h
    obtain ⟨⟨u, t⟩, ht, h⟩ := h
    have := ih ht
    simp only [Option.some.injEq, Prod.mk.injEq] at h
    obtain ⟨_, rfl⟩ := h
    simp only [List.length_cons]; omega

theorem spanDigits_length_add (cs : List Char) :
    (spanDigits cs).1.length + (spanDigits cs).2.length = cs.length := by
  rw [← List.length_append]; simp [spanDigits]

theorem spanDigits_length (cs : List Char) : (spanDigits cs).2.length ≤ cs.length := by
  have := spanDigits_length_add cs; omega

theorem splitSign_length (cs : List Char) : (splitSign cs).2.length ≤ cs.length := by
  unfold splitSign; split <;> simp

theorem readPlaces_length {cs ds rest : List Char} (h : readPlaces cs = some (ds, rest)) :
    rest.length ≤ cs.length := by
  unfold readPlaces at h
  split at h
  · rename_i r
    have := spanDigits_length r
    split at h
    · simp at h
    · simp only [Option.some.injEq] at h
      rw [h] at this; simp only [List.length_cons] at *; omega
  · simp only [Option.some.injEq, Prod.mk.injEq] at h; simp [h]

theorem readExponent_length {cs rest : List Char} {e : Int}
    (h : readExponent cs = some (e, rest)) : rest.length ≤ cs.length := by
  have h₁ := splitSign_length cs
  have h₂ := spanDigits_length (splitSign cs).2
  simp only [readExponent] at h
  split at h
  · simp at h
  · simp only [Option.some.injEq, Prod.mk.injEq] at h
    rw [← h.2]; omega

theorem readPower_length {cs rest : List Char} {e : Option Int}
    (h : readPower cs = some (e, rest)) : rest.length ≤ cs.length := by
  unfold readPower at h
  split at h
  · simp only [Option.map_eq_some_iff, Prod.mk.injEq, Prod.exists] at h
    obtain ⟨x, t, hx, -, rfl⟩ := h
    have := readExponent_length hx
    simp only [List.length_cons]; omega
  · simp only [Option.map_eq_some_iff, Prod.mk.injEq, Prod.exists] at h
    obtain ⟨x, t, hx, -, rfl⟩ := h
    have := readExponent_length hx
    simp only [List.length_cons]; omega
  · simp only [Option.some.injEq, Prod.mk.injEq] at h; simp [h]

theorem readNumeral_length {negative : Bool} {cs rest : List Char} {n : Numeral}
    (h : readNumeral negative cs = some (n, rest)) : rest.length < cs.length := by
  have h₀ := spanDigits_length_add cs
  simp only [readNumeral] at h
  split at h
  · simp at h
  · rename_i hw
    simp only [bind, Option.bind_eq_some_iff, Prod.exists] at h
    obtain ⟨ds, r₁, h₁, e, r₂, h₂, h⟩ := h
    have h₁ := readPlaces_length h₁
    have h₂ := readPower_length h₂
    simp only [Option.some.injEq, Prod.mk.injEq] at h
    obtain ⟨-, rfl⟩ := h
    have : 0 < (spanDigits cs).1.length := by
      rw [List.length_pos_iff]; intro hn; exact hw (Or.inl (by simp [hn]))
    omega

theorem readToken_length {c : Char} {r rest : List Char} {t : Token}
    (h : readToken c r = some (t, rest)) : rest.length ≤ r.length := by
  unfold readToken at h
  split at h
  · simp only [Option.map_eq_some_iff, Prod.mk.injEq, Prod.exists] at h
    obtain ⟨_, _, hx, -, rfl⟩ := h
    exact stringBody_length hx
  · simp only [Option.some.injEq, Prod.mk.injEq] at h; simp only [← h.2, List.length_cons]; omega
  · simp only [Option.some.injEq, Prod.mk.injEq] at h; simp only [← h.2, List.length_cons]; omega
  · simp only [Option.some.injEq, Prod.mk.injEq] at h; simp only [← h.2, List.length_cons]; omega
  · simp only [Option.map_eq_some_iff, Prod.mk.injEq, Prod.exists] at h
    obtain ⟨_, _, hx, -, rfl⟩ := h
    exact Nat.le_of_lt (readNumeral_length hx)
  · split at h
    · simp only [Option.some.injEq, Prod.mk.injEq] at h; simp [h]
    · split at h
      · simp only [Option.map_eq_some_iff, Prod.mk.injEq, Prod.exists] at h
        obtain ⟨_, _, hx, -, rfl⟩ := h
        have := readNumeral_length hx
        simp only [List.length_cons] at this; omega
      · simp at h

/-- The tokens of a text. -/
def tokens (cs : List Char) : Option (List Token) :=
  match cs with
  | [] => some []
  | c :: r =>
    if isSpace c then tokens r
    else
      match h : readToken c r with
      | none => none
      | some (t, rest) =>
        have := readToken_length h
        (tokens rest).map (t :: ·)
termination_by cs.length

/-! ## Grouping -/

/-- An open array or object: what it holds so far, last first, and the name of the member that is
    being read. -/
inductive Frame where
  | items (done : List Syntax)
  | members (done : List (Option String × Syntax)) (name : Option String)

/-- What may come next. -/
inductive Mode where
  /-- A value, or where `close` holds the end of an array that is still empty. -/
  | value (close : Bool)
  /-- The name of a member, or where `close` holds the end of an object that is still empty. -/
  | name (done : List (Option String × Syntax)) (close : Bool)
  /-- The colon after a name. -/
  | colon (done : List (Option String × Syntax)) (name : Option String)
  /-- What follows a complete value. -/
  | after (v : Syntax)

/-- Groups tokens under open arrays and objects, the innermost first. -/
def group : List Frame → Mode → List Token → Option Syntax
  | [], .after v, [] => some v
  | _, _, [] => none
  | stack, .value _, .null :: ts => group stack (.after .null) ts
  | stack, .value _, .boolean b :: ts => group stack (.after (.boolean b)) ts
  | stack, .value _, .number n :: ts => group stack (.after (.number n)) ts
  | stack, .value _, .string s :: ts => group stack (.after (.string s)) ts
  | stack, .value close, .mark c :: ts =>
    if c = '[' then group (.items [] :: stack) (.value true) ts
    else if c = '{' then group stack (.name [] true) ts
    else if c = ']' ∧ close then
      match stack with
      | .items [] :: stack => group stack (.after (.array [])) ts
      | _ => none
    else none
  | stack, .name done _, .string s :: ts => group stack (.colon done s) ts
  | stack, .name done close, .mark c :: ts =>
    if c = '}' ∧ close then group stack (.after (.object done.reverse)) ts else none
  | _, .name _ _, _ => none
  | stack, .colon done name, .mark c :: ts =>
    if c = ':' then group (.members done name :: stack) (.value false) ts else none
  | _, .colon _ _, _ => none
  | .items done :: stack, .after v, .mark c :: ts =>
    if c = ',' then group (.items (v :: done) :: stack) (.value false) ts
    else if c = ']' then group stack (.after (.array (v :: done).reverse)) ts
    else none
  | .members done name :: stack, .after v, .mark c :: ts =>
    if c = ',' then group stack (.name ((name, v) :: done) false) ts
    else if c = '}' then group stack (.after (.object ((name, v) :: done).reverse)) ts
    else none
  | _, .after _, _ => none

/-- The grouped tokens of a text that is one JSON document. -/
def Syntax.read? (text : String) : Option Syntax := do
  group [] (.value false) (← tokens text.toList)

/-! ## Documents -/

mutual

/-- The document of grouped text, which may nest one level less than `room`. -/
def Syntax.json? (room : Nat) : Syntax → Option Json
  | .null => some .null
  | .boolean b => some (.boolean b)
  | .number n => n.json?
  | .string s => s.map .string
  | .array items =>
    if room ≤ 1 then none else (Syntax.items? (room - 1) items).map .array
  | .object members =>
    if room ≤ 1 then none else (Syntax.members? (room - 1) members).map ofMembers

def Syntax.items? (room : Nat) : List Syntax → Option (List Json)
  | [] => some []
  | s :: ss => do
    let j ← Syntax.json? room s
    let js ← Syntax.items? room ss
    some (j :: js)

def Syntax.members? (room : Nat) : List (Option String × Syntax) → Option (List (String × Json))
  | [] => some []
  | (name, s) :: ss => do
    let n ← name
    let j ← Syntax.json? room s
    let js ← Syntax.members? room ss
    some ((n, j) :: js)

end

/-- How deep documents may nest: one level less than this. -/
def maxNesting : Nat := 128

/-- Reads a text that is one JSON document. -/
def read? (text : String) : Option Json := do
  (← Syntax.read? text).json? maxNesting

end LiveForm.Json
