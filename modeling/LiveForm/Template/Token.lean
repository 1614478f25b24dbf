/-
  The tokens of an expression body: names, literals and marks, each with the bytes that it covers.

  `Token.scan` reads one token and says which characters it took; the lemma `scan_append` states
  that what it took and what it left are together what it was given.
-/
import LiveForm.Template.Error
import LiveForm.Text.Identifier
import LiveForm.Number.Decimal

namespace LiveForm

inductive Token where
  | identifier (name : String)
  | string (s : String)
  | integer (n : Int64)
  | decimal (d : Decimal)
  | boolean (b : Bool)
  | null
  | pipe
  | colon
  | dot
  | question
  | leftParen
  | rightParen
deriving DecidableEq, Inhabited

/-- A token with the offset of its first byte and the offset after its last one. -/
structure Lexeme where
  token : Token
  start : Nat
  stop : Nat
deriving DecidableEq, Inhabited

namespace Token

/-- The text of a token in messages. -/
def text : Token → String
  | .identifier name => name
  | .string s => "'" ++ s ++ "'"
  | .integer n => Text.ofInt n.toInt
  | .decimal d => String.ofList d.render
  | .boolean true => "true"
  | .boolean false => "false"
  | .null => "null"
  | .pipe => "|"
  | .colon => ":"
  | .dot => "."
  | .question => "?"
  | .leftParen => "("
  | .rightParen => ")"

/-- What a scan found: the token, the characters it took, and the characters it left. -/
structure Scan where
  token : Token
  taken : List Char
  rest : List Char

/-- The token of a word: three words are literals, all others are names. -/
def ofWord (word : List Char) : Token :=
  let s := String.ofList word
  if s = "true" then .boolean true
  else if s = "false" then .boolean false
  else if s = "null" then .null
  else .identifier s

/-- The token of a mark. -/
def mark? : Char → Option Token
  | '|' => some .pipe
  | ':' => some .colon
  | '.' => some .dot
  | '?' => some .question
  | '(' => some .leftParen
  | ')' => some .rightParen
  | _ => none

/-- The character that a backslash before `c` stands for. -/
def unescape (c : Char) : Char :=
  if c = 'n' then '\n' else if c = 't' then '\t' else if c = 'r' then '\r' else c

/-- The content of a string literal after its opening quote: its characters, the characters taken
    with the closing quote, and the characters left. Nothing if the quote is not closed. -/
def stringContent (quote : Char) : List Char → Option (List Char × List Char × List Char)
  | [] => none
  | c :: r =>
    if c = quote then some ([], [c], r)
    else if c = '\\' then
      match r with
      | [] => none
      | d :: r' => (stringContent quote r').map fun (value, taken, rest) =>
        (unescape d :: value, c :: d :: taken, rest)
    else (stringContent quote r).map fun (value, taken, rest) => (c :: value, c :: taken, rest)

def isDigit (c : Char) : Bool := '0' ≤ c ∧ c ≤ '9'

/-- A signed numeral as a 64-bit integer, if it is one. -/
def int64? (negative : Bool) (digits : List Char) : Option Int64 :=
  let n := Text.numeral digits
  if negative then if n ≤ 0x8000000000000000 then some (Int64.ofInt (-n)) else none
  else if n < 0x8000000000000000 then some (Int64.ofInt n) else none

/-- The places of a numeral with the point before them; none without a digit after the point. -/
def placesOf : List Char → List Char
  | '.' :: d :: r => if isDigit d then '.' :: d :: r.takeWhile isDigit else []
  | _ => []

/-- The token of a numeral: a decimal if it has places, else an integer. -/
def ofNumeral? (sign digits places : List Char) : Option Token :=
  if places.isEmpty then (int64? (!sign.isEmpty) digits).map .integer
  else (Decimal.read? (sign ++ digits ++ places)).map .decimal

/-- Reads a numeral whose sign, if it has one, is `sign`. -/
def scanNumeral (sign cs : List Char) (pos : Nat) : Except SyntaxError Scan :=
  let digits := cs.takeWhile isDigit
  let places := placesOf (cs.dropWhile isDigit)
  let taken := sign ++ digits ++ places
  match ofNumeral? sign digits places with
  | some t => .ok ⟨t, taken, cs.drop (digits.length + places.length)⟩
  | none => .error (.invalidNumber (String.ofList taken) pos)

/-- Reads the token that opens with `c`, which stands at offset `pos` and is no blank. -/
def scan (c : Char) (r : List Char) (pos : Nat) : Except SyntaxError Scan :=
  match mark? c with
  | some t => .ok ⟨t, [c], r⟩
  | none =>
    if c = '\'' ∨ c = '"' then
      match stringContent c r with
      | some (value, taken, rest) => .ok ⟨.string (String.ofList value), c :: taken, rest⟩
      | none => .error (.unclosedString pos)
    else if isDigit c then scanNumeral [] (c :: r) pos
    else if c = '-' ∧ (r.head?.any isDigit) then scanNumeral [c] r pos
    else if Identifier.isStart c then
      let word := c :: r.takeWhile Identifier.isContinue
      .ok ⟨ofWord word, word, r.dropWhile Identifier.isContinue⟩
    else if c = '{' then .error (.nestedBrace pos)
    else .error (.invalidCharacter c pos)

/-! ## Nothing is lost -/

theorem stringContent_append {quote : Char} {cs value taken rest : List Char}
    (h : stringContent quote cs = some (value, taken, rest)) : taken ++ rest = cs := by
  fun_induction stringContent quote cs generalizing value taken rest with
  | case1 => simp at h
  | case2 r => simp at h; simp [← h.2.1, h.2.2]
  | case3 => simp at h
  | case4 d r' _ ih =>
    simp only [Option.map_eq_some_iff, Prod.mk.injEq, Prod.exists] at h
    obtain ⟨_, _, _, hx, -, rfl, rfl⟩ := h
    simp [ih hx]
  | case5 c r _ _ ih =>
    simp only [Option.map_eq_some_iff, Prod.mk.injEq, Prod.exists] at h
    obtain ⟨_, _, _, hx, -, rfl, rfl⟩ := h
    simp [ih hx]

theorem placesOf_eq_take (cs : List Char) : placesOf cs = cs.take (placesOf cs).length := by
  unfold placesOf
  split
  · split
    · rename_i d r _
      have := (List.takeWhile_prefix (l := r) isDigit)
      rw [List.prefix_iff_eq_take] at this
      simp only [List.length_cons, List.take_succ_cons]
      rw [← this]
    · simp
  · simp

theorem scanNumeral_append {sign cs : List Char} {pos : Nat} {s : Scan}
    (h : scanNumeral sign cs pos = .ok s) : s.taken ++ s.rest = sign ++ cs := by
  simp only [scanNumeral] at h
  split at h
  · simp only [Except.ok.injEq] at h
    subst h
    simp only [List.append_assoc, List.append_cancel_left_eq]
    have hp := placesOf_eq_take (cs.dropWhile isDigit)
    have ht : cs = cs.takeWhile isDigit ++ cs.dropWhile isDigit := by simp
    conv => rhs; rw [ht]
    rw [List.append_cancel_left_eq]
    have hd : cs.drop (cs.takeWhile isDigit).length = cs.dropWhile isDigit :=
      @List.append_cancel_left _ (cs.takeWhile isDigit) _ _ (by
        rw [← ht]
        conv => lhs; lhs; rw [List.prefix_iff_eq_take.mp (List.takeWhile_prefix (l := cs) isDigit)]
        rw [List.take_append_drop])
    rw [← List.drop_drop, hd]
    conv =>
      rhs
      rw [← List.take_append_drop (placesOf (cs.dropWhile isDigit)).length (cs.dropWhile isDigit)]
    rw [← hp]
  · simp at h

/-- The characters taken and the characters left are the characters given. -/
theorem scan_append {c : Char} {r : List Char} {pos : Nat} {s : Scan}
    (h : scan c r pos = .ok s) : s.taken ++ s.rest = c :: r := by
  unfold scan at h
  split at h
  · simp only [Except.ok.injEq] at h; subst h; rfl
  · split at h
    · split at h
      · simp only [Except.ok.injEq] at h; subst h
        rename_i hx
        simp [stringContent_append hx]
      · simp at h
    · split at h
      · exact scanNumeral_append h
      · split at h
        · exact scanNumeral_append h
        · split at h
          · simp only [Except.ok.injEq] at h; subst h; simp
          · split at h <;> simp at h

/-- A token takes at least one character. -/
theorem scan_rest_length {c : Char} {r : List Char} {pos : Nat} {s : Scan}
    (h : scan c r pos = .ok s) : s.rest.length ≤ r.length := by
  have happ := congrArg List.length (scan_append h)
  have : s.taken ≠ [] := by
    unfold scan at h
    split at h
    · simp only [Except.ok.injEq] at h; subst h; simp
    · split at h
      · split at h
        · simp only [Except.ok.injEq] at h; subst h; simp
        · simp at h
      · split at h
        · rename_i hd
          simp only [scanNumeral] at h
          split at h
          · simp only [Except.ok.injEq] at h; subst h; simp [hd]
          · simp at h
        · split at h
          · simp only [scanNumeral] at h
            split at h
            · simp only [Except.ok.injEq] at h; subst h; simp
            · simp at h
          · split at h
            · simp only [Except.ok.injEq] at h; subst h; simp
            · split at h <;> simp at h
  have := List.length_pos_iff.mpr this
  simp only [List.length_append, List.length_cons] at happ
  omega

end Token

namespace Lexeme

/-- The tokens of a body whose first byte has offset `pos`. -/
def scanAll (pos : Nat) (cs : List Char) : Except SyntaxError (List Lexeme) :=
  match cs with
  | [] => .ok []
  | c :: r =>
    if Text.isBlank c then scanAll (pos + c.utf8Size) r
    else
      match h : Token.scan c r pos with
      | .error e => .error e
      | .ok s =>
        have := Token.scan_rest_length h
        (scanAll (pos + Text.width s.taken) s.rest).map
          (⟨s.token, pos, pos + Text.width s.taken⟩ :: ·)
termination_by cs.length

end Lexeme

end LiveForm
