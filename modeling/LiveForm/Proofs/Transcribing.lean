/-
  The text of JSON documents: what is written is read back.

  The reader works in three stages, and each is inverted on its own. `Json.toSyntax` is the grouped
  text that a document is written as, and `Syntax.toTokens` are the tokens of grouped text.

  * `Json.IsWhole.lexes`: the written text of a document is split into the tokens of its syntax;
  * `Json.Syntax.groups`: the tokens of any syntax are grouped to that syntax;
  * `Json.IsExact.json?_toSyntax`: the syntax of a document stands for that document, unless it nests
    too deep.

  Floating-point numbers are left out throughout (`Json.IsWhole`). Only the last stage asks for more
  (`Json.IsExact`), since reading an object puts its members in order.
-/
import LiveForm.Json.Writer
import LiveForm.Json.Syntax
import LiveForm.Proofs.Numerals
import Mathlib.Data.List.Forall2

namespace LiveForm.Json

/-! ## Characters of strings -/

theorem hexNumeral?_hexDigit {n : Nat} (hn : n < 0x20) :
    Text.hexNumeral? ['0', '0', hexDigit (n / 16), hexDigit (n % 16)] = some n := by
  decide +revert

theorem simpleEscape?_of_escapeLetter? {c e : Char} (h : escapeLetter? c = some e) :
    simpleEscape? e = some c ∧ e ≠ 'u' := by
  unfold escapeLetter? at h
  split at h <;> cases h <;> decide

theorem stringBody_escape (c : Char) (cs : List Char) :
    stringBody (escape c ++ cs) = (stringBody cs).map fun p => (c.toNat :: p.1, p.2) := by
  unfold escape
  split
  next e he =>
    obtain ⟨hs, hu⟩ := simpleEscape?_of_escapeLetter? he
    rw [List.cons_append, List.singleton_append, stringBody]
    · rw [hs]
      cases stringBody cs <;> rfl
    · -- four digits are only read after a `u`
      rintro a b c d r rfl
      exact absurd rfl hu
  next hl =>
    have hq : c ≠ '"' := by rintro rfl; cases hl
    have hb : c ≠ '\\' := by rintro rfl; cases hl
    split
    next hc =>
      simp only [List.cons_append, List.nil_append]
      rw [stringBody, hexNumeral?_hexDigit hc]
      cases stringBody cs <;> rfl
    next hc =>
      rw [List.singleton_append, stringBody]
      · rw [if_neg (by simp [hb, hc])]
        cases stringBody cs <;> rfl
      all_goals simp [hq, hb]

theorem stringBody_escaped (cs rest : List Char) :
    stringBody (cs.flatMap escape ++ '"' :: rest) = some (cs.map Char.toNat, rest) := by
  induction cs with
  | nil => rw [List.flatMap_nil, List.nil_append, stringBody, List.map_nil]
  | cons c cs ih =>
    rw [List.flatMap_cons, List.append_assoc, stringBody_escape, ih]
    rfl

/-- No character is half of a surrogate pair. -/
theorem not_isSurrogate (c : Char) : ¬(0xD800 ≤ c.toNat ∧ c.toNat < 0xE000) := by
  have := c.valid
  simp only [UInt32.isValidChar, Nat.isValidChar] at this
  change c.toNat < _ ∨ _ < c.toNat ∧ _ at this
  omega

theorem assemble_toNat (cs : List Char) : assemble (cs.map Char.toNat) = some cs := by
  induction cs with
  | nil => rfl
  | cons c cs ih =>
    have hc := not_isSurrogate c
    cases cs with
    | nil => rw [List.map_singleton, assemble, if_neg hc, Char.ofNat_toNat]
    | cons d cs =>
      rw [List.map_cons, List.map_cons, assemble, if_neg (by omega), if_neg (by omega),
        ← List.map_cons, ih, Char.ofNat_toNat]
      rfl

theorem readToken_string (s : String) (rest : List Char) :
    readToken '"' (s.toList.flatMap escape ++ '"' :: rest) = some (.string (some s), rest) := by
  rw [readToken, stringBody_escaped]
  simp [assemble_toNat]

/-! ## Numerals -/

/-- The numeral that an integer is written as. -/
def Numeral.ofInt (n : Int) : Numeral :=
  ⟨n < 0, (Text.digits n.natAbs).filterMap Text.digit?, [], none⟩

/-- The text goes on with a mark, if at all. A numeral ends in front of such a text. -/
def Delimited (rest : List Char) : Prop := ∀ c ∈ rest.head?, isMark c

theorem spanDigits_digits (n : Nat) {rest : List Char} (h : ∀ c ∈ rest.head?, ¬isDigit c) :
    spanDigits (Text.digits n ++ rest) = (Text.digits n, rest) := by
  have hd : ∀ c ∈ Text.digits n, isDigit c := fun _ => Text.isDigit_of_mem_digits
  rw [spanDigits, List.takeWhile_append_of_pos hd, List.dropWhile_append_of_pos hd]
  cases rest with
  | nil => simp
  | cons c rest => simp [h c rfl]

/-- A positive number is written without a zero in front. -/
theorem head?_digits {n : Nat} (hn : 0 < n) : (Text.digits n).head? ≠ some '0' := by
  induction n using Nat.strongRecOn with
  | ind n ih =>
    rw [Text.digits, Nat.toDigits_eq_if (by decide)]
    split
    next hlt =>
      have hdigit : ∀ d < 10, 0 < d → [Nat.digitChar d].head? ≠ some '0' := by decide
      exact hdigit n hlt hn
    next hle =>
      rw [List.head?_append_of_ne_nil _ Nat.toDigits_ne_nil]
      exact ih (n / 10) (by omega) (by omega)

namespace Delimited

variable {rest : List Char}

theorem mark {c : Char} (hc : isMark c) (cs : List Char) : Delimited (c :: cs) := by
  simpa [Delimited] using hc

theorem not_isDigit (h : Delimited rest) : ∀ c ∈ rest.head?, ¬isDigit c := by
  intro c hc
  have hm := h c hc
  simp only [isMark, List.contains_eq_mem, List.mem_cons, List.not_mem_nil, decide_eq_true_eq] at hm
  obtain rfl | rfl | rfl | rfl | rfl | rfl | hm := hm <;> first | decide | exact hm.elim

theorem readPlaces (h : Delimited rest) : readPlaces rest = some ([], rest) := by
  rw [Json.readPlaces]
  rintro r rfl
  exact absurd (h _ rfl) (by decide)

theorem readPower (h : Delimited rest) : readPower rest = some (none, rest) := by
  rw [Json.readPower] <;>
  · rintro r rfl
    exact absurd (h _ rfl) (by decide)

theorem readNumeral (h : Delimited rest) (negative : Bool) (n : Nat) :
    readNumeral negative (Text.digits n ++ rest) =
      some (⟨negative, (Text.digits n).filterMap Text.digit?, [], none⟩, rest) := by
  have hzero : ¬((Text.digits n).isEmpty ∨
      ((Text.digits n).length > 1 ∧ (Text.digits n).head? = some '0')) := by
    rintro (hempty | ⟨hlen, hhead⟩)
    · exact Text.digits_ne_nil n (List.isEmpty_iff.1 hempty)
    · rcases Nat.eq_zero_or_pos n with rfl | hn
      · exact absurd hlen (by decide)
      · exact head?_digits hn hhead
  rw [Json.readNumeral, spanDigits_digits n h.not_isDigit]
  simp only [if_neg hzero, h.readPlaces, Option.bind_eq_bind, Option.bind_some, h.readPower]
  rfl

end Delimited

/-- Digits that leave room for themselves are filled in without rest. -/
theorem Numeral.fill_digits {cs : List Char} (hc : ∀ c ∈ cs, Token.isDigit c) {n : Nat}
    (hn : Nat.ofDigitChars 10 cs n < bound) :
    fill n (cs.filterMap Text.digit?) = (Nat.ofDigitChars 10 cs n, 0) := by
  induction cs generalizing n with
  | nil => rfl
  | cons c cs ih =>
    obtain ⟨hd, hds⟩ := List.forall_mem_cons.1 hc
    rw [Nat.ofDigitChars_cons] at hn ⊢
    have hroom := Nat.lt_of_le_of_lt (le_ofDigitChars cs _) hn
    rw [List.filterMap_cons_some (Text.digit?_of_isDigit hd), fill, if_pos hroom, ih hds hn]

theorem Numeral.json?_ofInt {n : Int} (hlo : -0x8000000000000000 ≤ n)
    (hhi : n < 0x10000000000000000) : (ofInt n).json? = some (.integer n) := by
  have hfill : fill 0 (ofInt n).whole = (n.natAbs, 0) := by
    have hn : Nat.ofDigitChars 10 (Text.digits n.natAbs) 0 = n.natAbs := by
      rw [Text.digits, Nat.ofDigitChars_ten_toDigits]
    rw [ofInt, fill_digits (fun _ => Text.isDigit_of_mem_digits) (by rw [hn, bound]; omega), hn]
  have hinteger : (ofInt n).integer? = some n := by
    rw [integer?, hfill]
    change (if !decide (n < 0) then some (n.natAbs : Int)
      else if 0 < n.natAbs ∧ n.natAbs ≤ 0x8000000000000000 then some (-(n.natAbs : Int))
      else none) = some n
    by_cases hneg : n < 0
    · rw [decide_eq_true hneg, if_neg (by decide), if_pos (by omega),
        Int.ofNat_natAbs_of_nonpos (by omega), Int.neg_neg]
    · rw [decide_eq_false hneg, if_pos (by decide), Int.natAbs_of_nonneg (by omega)]
  rw [json?, hinteger]

/-! ## Grouping -/

namespace Syntax

/-- Induction over grouped text, with a hypothesis for each item and each member. -/
@[elab_as_elim, induction_eliminator]
theorem ind {motive : Syntax → Prop} (null : motive .null) (boolean : ∀ b, motive (.boolean b))
    (number : ∀ n, motive (.number n)) (string : ∀ s, motive (.string s))
    (array : ∀ items, (∀ s ∈ items, motive s) → motive (.array items))
    (object : ∀ members, (∀ m ∈ members, motive m.2) → motive (.object members)) (s : Syntax) :
    motive s :=
  @Syntax.rec motive (fun items => ∀ s ∈ items, motive s) (fun members => ∀ m ∈ members, motive m.2)
    (fun m => motive m.2) null boolean number string array object (by simp)
    (fun _ _ hs hss => List.forall_mem_cons.2 ⟨hs, hss⟩) (by simp)
    (fun _ _ hm hms => List.forall_mem_cons.2 ⟨hm, hms⟩) (fun _ _ h => h) s

mutual

/-- The tokens that are grouped to this. -/
def toTokens : Syntax → List Token
  | .null => [.null]
  | .boolean b => [.boolean b]
  | .number n => [.number n]
  | .string s => [.string s]
  | .array items => .mark '[' :: ([Token.mark ','].intercalate (itemTokens items) ++ [.mark ']'])
  | .object members =>
    .mark '{' :: ([Token.mark ','].intercalate (memberTokens members) ++ [.mark '}'])

def itemTokens : List Syntax → List (List Token)
  | [] => []
  | s :: ss => s.toTokens :: itemTokens ss

def memberTokens : List (Option String × Syntax) → List (List Token)
  | [] => []
  | (name, s) :: ms => (.string name :: .mark ':' :: s.toTokens) :: memberTokens ms

end

theorem group_openArray (stack : List Frame) (close : Bool) (ts : List Token) :
    group stack (.value close) (.mark '[' :: ts) = group (.items [] :: stack) (.value true) ts := by
  cases stack <;> rfl

theorem group_openObject (stack : List Frame) (close : Bool) (ts : List Token) :
    group stack (.value close) (.mark '{' :: ts) = group stack (.name [] true) ts := by
  cases stack <;> rfl

/-- The tokens of this are grouped to it wherever a value may stand. -/
def Groups (s : Syntax) : Prop := ∀ stack close ts,
  group stack (.value close) (s.toTokens ++ ts) = group stack (.after s) ts

/-- Items are put behind those that are done. An item comes first, so it does not matter whether the
    array may end here. -/
theorem group_items {stack : List Frame} {ts : List Token} {s : Syntax} {ss : List Syntax}
    (h : ∀ s' ∈ s :: ss, s'.Groups) (done : List Syntax) (close : Bool) :
    group (.items done :: stack) (.value close)
        ([Token.mark ','].intercalate (itemTokens (s :: ss)) ++ .mark ']' :: ts) =
      group stack (.after (.array (done.reverse ++ s :: ss))) ts := by
  induction ss generalizing s done close with
  | nil =>
    rw [itemTokens, itemTokens, List.intercalate_singleton, h s (by simp), group]
    simp
  | cons s' ss ih =>
    rw [itemTokens, itemTokens, List.intercalate_cons_cons, ← itemTokens, List.append_assoc,
      List.append_assoc, h s (by simp), List.singleton_append, group, if_pos rfl,
      ih fun t ht => h t (by simp_all)]
    simp

/-- Members are put behind those that are done. -/
theorem group_members {stack : List Frame} {ts : List Token} {m : Option String × Syntax}
    {ms : List (Option String × Syntax)} (h : ∀ m' ∈ m :: ms, m'.2.Groups)
    (done : List (Option String × Syntax)) (close : Bool) :
    group stack (.name done close)
        ([Token.mark ','].intercalate (memberTokens (m :: ms)) ++ .mark '}' :: ts) =
      group stack (.after (.object (done.reverse ++ m :: ms))) ts := by
  induction ms generalizing m done close with
  | nil =>
    rw [memberTokens, memberTokens, List.intercalate_singleton, List.cons_append, List.cons_append,
      group, group, if_pos rfl, h m (by simp), group]
    simp
  | cons m' ms ih =>
    rw [memberTokens, memberTokens, List.intercalate_cons_cons, ← memberTokens, List.append_assoc,
      List.append_assoc, List.cons_append, List.cons_append, group, group, if_pos rfl,
      h m (by simp), List.singleton_append, group, if_pos rfl, ih fun t ht => h t (by simp_all)]
    simp

theorem groups (s : Syntax) : s.Groups := by
  intro stack close ts
  induction s generalizing stack close ts with
  | null | boolean | number | string => rw [toTokens, List.singleton_append, group]
  | array items ih =>
    rw [toTokens, List.cons_append, List.append_assoc, group_openArray]
    cases items with
    | nil => simp [itemTokens, group]
    | cons s ss => exact group_items (fun s' hs => ih s' hs) [] true
  | object members ih =>
    rw [toTokens, List.cons_append, List.append_assoc, group_openObject]
    cases members with
    | nil => simp [memberTokens, group]
    | cons m ms => exact group_members (fun m' hm => ih m' hm) [] true

theorem itemTokens_eq (ss : List Syntax) : itemTokens ss = ss.map toTokens := by
  induction ss with
  | nil => rfl
  | cons s ss ih => rw [itemTokens, ih, List.map_cons]

theorem memberTokens_eq (ms : List (Option String × Syntax)) :
    memberTokens ms = ms.map fun m => .string m.1 :: .mark ':' :: m.2.toTokens := by
  induction ms with
  | nil => rfl
  | cons m ms ih => rw [memberTokens, ih, List.map_cons]

end Syntax

/-! ## Tokens -/

theorem renderItems_eq (js : List Json) : renderItems js = js.map renderChars := by
  induction js with
  | nil => rfl
  | cons j js ih => rw [renderItems, ih, List.map_cons]

theorem renderMembers_eq (ms : List (String × Json)) :
    renderMembers ms = ms.map fun m => renderString m.1 ++ ':' :: renderChars m.2 := by
  induction ms with
  | nil => rfl
  | cons m ms ih => rw [renderMembers, ih, List.map_cons]

mutual

/-- The grouped text of a document as it is written, floating-point numbers aside. -/
def toSyntax : Json → Syntax
  | .null => .null
  | .boolean b => .boolean b
  | .integer n => .number (.ofInt n)
  | .float _ => .null
  | .string s => .string (some s)
  | .array items => .array (itemSyntax items)
  | .object members => .object (memberSyntax members)

def itemSyntax : List Json → List Syntax
  | [] => []
  | j :: js => j.toSyntax :: itemSyntax js

def memberSyntax : List (String × Json) → List (Option String × Syntax)
  | [] => []
  | (n, j) :: ms => (some n, j.toSyntax) :: memberSyntax ms

end

theorem itemSyntax_eq (js : List Json) : itemSyntax js = js.map toSyntax := by
  induction js with
  | nil => rfl
  | cons j js ih => rw [itemSyntax, ih, List.map_cons]

theorem memberSyntax_eq (ms : List (String × Json)) :
    memberSyntax ms = ms.map fun m => (some m.1, m.2.toSyntax) := by
  induction ms with
  | nil => rfl
  | cons m ms ih => rw [memberSyntax, ih, List.map_cons]

/-- There is no floating-point number in a document. -/
inductive IsWhole : Json → Prop
  | null : IsWhole .null
  | boolean (b : Bool) : IsWhole (.boolean b)
  | integer (n : Int) : IsWhole (.integer n)
  | string (s : String) : IsWhole (.string s)
  | array {items : List Json} (h : ∀ j ∈ items, IsWhole j) : IsWhole (.array items)
  | object {members : List (String × Json)} (h : ∀ m ∈ members, IsWhole m.2) :
    IsWhole (.object members)

theorem tokens_cons {c : Char} {r rest : List Char} {t : Token} (hc : isSpace c = false)
    (h : readToken c r = some (t, rest)) : tokens (c :: r) = (tokens rest).map (t :: ·) := by
  rw [tokens, hc, if_neg Bool.false_ne_true]
  split
  next hn => rw [h] at hn; cases hn
  next t' rest' hs => rw [h] at hs; cases hs; rfl

theorem readToken_mark {c : Char} (hc : isMark c) (r : List Char) :
    isSpace c = false ∧ readToken c r = some (.mark c, r) := by
  simp only [isMark, List.contains_eq_mem, List.mem_cons, List.not_mem_nil, decide_eq_true_eq] at hc
  obtain rfl | rfl | rfl | rfl | rfl | rfl | hc := hc <;> first | exact ⟨rfl, rfl⟩ | exact hc.elim

theorem mem_of_isDigit {c : Char} (hc : isDigit c) :
    c ∈ ['0', '1', '2', '3', '4', '5', '6', '7', '8', '9'] := by
  have hdigits : ∀ d < 10, Char.ofNat (0x30 + d) ∈
      ['0', '1', '2', '3', '4', '5', '6', '7', '8', '9'] := by decide
  have hrange : 0x30 ≤ c.toNat ∧ c.toNat ≤ 0x39 := by
    simpa [isDigit, Char.le_def, UInt32.le_iff_toNat_le] using hc
  have := hdigits (c.toNat - 0x30) (by omega)
  rwa [Nat.add_sub_cancel' hrange.1, Char.ofNat_toNat] at this

theorem readToken_digit {c : Char} (hc : isDigit c) (r : List Char) :
    isSpace c = false ∧ readToken c r =
      (readNumeral false (c :: r)).map fun p => (.number p.1, p.2) := by
  have hmem := mem_of_isDigit hc
  simp only [List.mem_cons, List.not_mem_nil, or_false] at hmem
  obtain rfl | rfl | rfl | rfl | rfl | rfl | rfl | rfl | rfl | rfl := hmem <;> exact ⟨rfl, rfl⟩

/-- The text is split into these tokens, whatever mark follows it. -/
def Lexes (cs : List Char) (ts : List Token) : Prop :=
  ∀ rest, Delimited rest → tokens (cs ++ rest) = (tokens rest).map (ts ++ ·)

namespace Lexes

variable {cs : List Char} {ts : List Token}

theorem nil : Lexes [] [] := fun rest _ => by simp

theorem of_readToken {c : Char} {t : Token} (hc : isSpace c = false)
    (h : ∀ rest, Delimited rest → readToken c (cs ++ rest) = some (t, rest)) :
    Lexes (c :: cs) [t] := fun rest hr => tokens_cons hc (h rest hr)

theorem mark {c : Char} (hc : isMark c) (h : Lexes cs ts) : Lexes (c :: cs) (.mark c :: ts) := by
  intro rest hr
  obtain ⟨hs, ht⟩ := readToken_mark hc (cs ++ rest)
  rw [List.cons_append, tokens_cons hs ht, h rest hr, Option.map_map]
  rfl

theorem string (s : String) (h : Lexes cs ts) :
    Lexes (renderString s ++ cs) (.string (some s) :: ts) := by
  intro rest hr
  have ht := readToken_string s (cs ++ rest)
  rw [renderString, List.append_assoc, List.cons_append, List.append_assoc, List.singleton_append,
    tokens_cons rfl ht, h rest hr, Option.map_map]
  rfl

/-- Text goes on behind a mark. -/
theorem append {c : Char} {cs' : List Char} {ts' : List Token} (h : Lexes cs ts) (hc : isMark c)
    (h' : Lexes cs' ts') : Lexes (cs ++ c :: cs') (ts ++ .mark c :: ts') := by
  intro rest hr
  rw [List.append_assoc, List.cons_append, h _ (.mark hc _), ← List.cons_append, h'.mark hc rest hr,
    Option.map_map]
  simp [Function.comp_def]

theorem separated {css : List (List Char)} {tss : List (List Token)}
    (h : List.Forall₂ Lexes css tss) :
    Lexes (commaSeparated css) ([Token.mark ','].intercalate tss) := by
  induction h with
  | nil => exact nil
  | cons h hs ih =>
    cases hs with
    | nil => simpa [commaSeparated] using h
    | cons h' hs' =>
      rw [commaSeparated, List.intercalate_cons_cons, List.append_assoc]
      · exact h.append (by decide) ih
      · simp

theorem integer (n : Int) :
    Lexes ((if n < 0 then ['-'] else []) ++ Text.digits n.natAbs) [.number (.ofInt n)] := by
  by_cases hn : n < 0
  · rw [if_pos hn, List.singleton_append]
    refine of_readToken rfl fun rest hr => ?_
    rw [readToken, hr.readNumeral]
    simp [Numeral.ofInt, hn]
  · rw [if_neg hn, List.nil_append]
    obtain ⟨c, cs, hcs⟩ := List.exists_cons_of_ne_nil (Text.digits_ne_nil n.natAbs)
    have hc : isDigit c := Text.isDigit_of_mem_digits (n := n.natAbs) (by simp [hcs])
    rw [hcs]
    refine of_readToken (readToken_digit hc []).1 fun rest hr => ?_
    rw [(readToken_digit hc _).2, ← List.cons_append, ← hcs, hr.readNumeral]
    simp [Numeral.ofInt, hn]

end Lexes

theorem IsWhole.lexes {j : Json} (h : j.IsWhole) : Lexes (renderChars j) j.toSyntax.toTokens := by
  induction h with
  | null => exact .of_readToken rfl fun _ _ => rfl
  | boolean b => cases b <;> exact .of_readToken rfl fun _ _ => rfl
  | integer n => exact .integer n
  | string s => simpa [renderChars, toSyntax, Syntax.toTokens] using Lexes.nil.string s
  | @array items _ ih =>
    rw [renderChars, toSyntax, Syntax.toTokens, renderItems_eq, itemSyntax_eq,
      Syntax.itemTokens_eq, List.map_map]
    refine .mark (by decide) (.append (.separated ?_) (by decide) .nil)
    simpa [List.forall₂_map_left_iff, List.forall₂_map_right_iff, List.forall₂_same] using ih
  | @object members _ ih =>
    rw [renderChars, toSyntax, Syntax.toTokens, renderMembers_eq, memberSyntax_eq,
      Syntax.memberTokens_eq, List.map_map]
    refine .mark (by decide) (.append (.separated ?_) (by decide) .nil)
    simp only [List.forall₂_map_left_iff, List.forall₂_map_right_iff, List.forall₂_same]
    exact fun m hm => ((ih m hm).mark (by decide)).string m.1

/-- The written text of a document is grouped to its syntax. -/
theorem IsWhole.read?_render {j : Json} (h : j.IsWhole) :
    Syntax.read? j.render = some j.toSyntax := by
  have ht : tokens j.renderChars = some j.toSyntax.toTokens := by
    have := h.lexes [] (by simp [Delimited])
    rw [List.append_nil, tokens] at this
    simpa using this
  have hg := j.toSyntax.groups [] false []
  rw [List.append_nil] at hg
  rw [Syntax.read?, render, String.toList_ofList, ht]
  simpa [group] using hg

/-! ## Documents -/

/-- Reading all items of a list succeeds if it does for each. -/
theorem mapM_map_eq_ite {α β γ : Type} {write : α → β} {read : β → Option γ} {back : α → γ}
    {p : α → Prop} [DecidablePred p] {as : List α}
    (h : ∀ a ∈ as, read (write a) = if p a then some (back a) else none) :
    (as.map write).mapM read = if ∀ a ∈ as, p a then some (as.map back) else none := by
  induction as with
  | nil => simp
  | cons a as ih =>
    obtain ⟨ha, has⟩ := List.forall_mem_cons.1 h
    rw [List.map_cons, List.mapM_cons, ha, ih has]
    simp only [List.forall_mem_cons]
    by_cases hp : p a
    · by_cases hps : ∀ a ∈ as, p a
      · rw [if_pos hp, if_pos hps, if_pos ⟨hp, hps⟩]; rfl
      · rw [if_pos hp, if_neg hps, if_neg fun h => hps h.2]; rfl
    · have hall : ¬(p a ∧ ∀ a ∈ as, p a) := fun h => hp h.1
      rw [if_neg hp, if_neg hall]; rfl

namespace Syntax

theorem items?_eq (room : Nat) (ss : List Syntax) : items? room ss = ss.mapM (json? room) := by
  induction ss with
  | nil => rfl
  | cons s ss ih => rw [items?, ih, List.mapM_cons]; rfl

theorem members?_eq (room : Nat) (ms : List (Option String × Syntax)) :
    members? room ms = ms.mapM fun m => m.1.bind fun n => (m.2.json? room).map (n, ·) := by
  induction ms with
  | nil => rfl
  | cons m ms ih =>
    obtain ⟨name, s⟩ := m
    rw [members?, ih, List.mapM_cons]
    cases name with
    | none => rfl
    | some n => cases s.json? room <;> rfl

end Syntax

section

variable {name : String} {value : Json} {ms : List (String × Json)}

theorem putMember_of_lt (h : ∀ m ∈ ms, m.1 < name) :
    putMember name value ms = ms ++ [(name, value)] := by
  induction ms with
  | nil => rfl
  | cons m ms ih =>
    obtain ⟨hm, hms⟩ := List.forall_mem_cons.1 h
    have hne : name ≠ m.1 := by
      rintro rfl
      exact String.lt_irrefl _ hm
    rw [putMember, if_neg (String.lt_asymm hm), if_neg hne, ih hms, List.cons_append]

/-- Members that are in order stay as they are. -/
theorem ofMembers_of_sorted (h : ms.Pairwise fun m m' => m.1 < m'.1) :
    ofMembers ms = .object ms := by
  suffices hfold : ∀ done, (done ++ ms).Pairwise (fun m m' => m.1 < m'.1) →
      ms.foldl (fun ms m => putMember m.1 m.2 ms) done = done ++ ms by
    rw [ofMembers, hfold [] h, List.nil_append]
  clear h
  intro done h
  induction ms generalizing done with
  | nil => simp
  | cons m ms ih =>
    have hlt : ∀ m' ∈ done, m'.1 < m.1 := fun m' hm' =>
      (List.pairwise_append.1 h).2.2 m' hm' m (by simp)
    rw [List.append_cons] at h
    rw [List.foldl_cons, putMember_of_lt hlt, ih _ h, ← List.append_cons]

end

mutual

/-- How deep arrays and objects nest in a document. -/
def nesting : Json → Nat
  | .array items => itemNesting items + 1
  | .object members => memberNesting members + 1
  | _ => 0

def itemNesting : List Json → Nat
  | [] => 0
  | j :: js => max j.nesting (itemNesting js)

def memberNesting : List (String × Json) → Nat
  | [] => 0
  | (_, j) :: ms => max j.nesting (memberNesting ms)

end

theorem itemNesting_le {js : List Json} {n : Nat} :
    itemNesting js ≤ n ↔ ∀ j ∈ js, j.nesting ≤ n := by
  induction js with
  | nil => simp [itemNesting]
  | cons j js ih => rw [itemNesting, Nat.max_le, ih, List.forall_mem_cons]

theorem memberNesting_le {ms : List (String × Json)} {n : Nat} :
    memberNesting ms ≤ n ↔ ∀ m ∈ ms, m.2.nesting ≤ n := by
  induction ms with
  | nil => simp [memberNesting]
  | cons m ms ih => rw [memberNesting, Nat.max_le, ih, List.forall_mem_cons]

/-- A document as it is held after reading, floating-point numbers aside: integers fit 64 bits, and
    members are in the order of their names. -/
inductive IsExact : Json → Prop
  | null : IsExact .null
  | boolean (b : Bool) : IsExact (.boolean b)
  | integer {n : Int} (lo : -0x8000000000000000 ≤ n) (hi : n < 0x10000000000000000) :
    IsExact (.integer n)
  | string (s : String) : IsExact (.string s)
  | array {items : List Json} (h : ∀ j ∈ items, IsExact j) : IsExact (.array items)
  | object {members : List (String × Json)} (sorted : members.Pairwise fun m m' => m.1 < m'.1)
    (h : ∀ m ∈ members, IsExact m.2) : IsExact (.object members)

namespace IsExact

variable {j : Json}

theorem isWhole (h : j.IsExact) : j.IsWhole := by
  induction h with
  | null => exact .null
  | boolean b => exact .boolean b
  | integer => exact .integer _
  | string s => exact .string s
  | array _ ih => exact .array ih
  | object _ _ ih => exact .object ih

/-- The syntax of a document stands for that document, if there is room for its nesting. Of the room
    that the reader is given, one level may not be used. -/
theorem json?_toSyntax (h : j.IsExact) (room : Nat) :
    j.toSyntax.json? (room + 1) = if j.nesting ≤ room then some j else none := by
  -- the items of an array are given with one level less, so the induction is for every room
  induction h generalizing room with
  | null | boolean | string => simp [toSyntax, Syntax.json?, nesting]
  | integer lo hi => simp [toSyntax, Syntax.json?, nesting, Numeral.json?_ofInt lo hi]
  | @array items _ ih =>
    cases room with
    | zero => simp [toSyntax, Syntax.json?, nesting]
    | succ room =>
      have hitems : (items.map toSyntax).mapM (Syntax.json? (room + 1)) =
          if ∀ j ∈ items, j.nesting ≤ room then some (items.map id) else none :=
        mapM_map_eq_ite fun j hj => ih j hj room
      rw [toSyntax, Syntax.json?, if_neg (by omega), Nat.add_sub_cancel, Syntax.items?_eq,
        itemSyntax_eq, hitems, List.map_id]
      simp only [nesting, Nat.add_le_add_iff_right, itemNesting_le]
      split <;> rfl
  | @object members sorted _ ih =>
    cases room with
    | zero => simp [toSyntax, Syntax.json?, nesting]
    | succ room =>
      have hmembers : (members.map fun m => (some m.1, m.2.toSyntax)).mapM
          (fun m => m.1.bind fun n => (m.2.json? (room + 1)).map (n, ·)) =
            if ∀ m ∈ members, m.2.nesting ≤ room then some (members.map id) else none :=
        mapM_map_eq_ite fun m hm => by
          simp only [ih m hm room, Option.bind_some]
          split <;> rfl
      rw [toSyntax, Syntax.json?, if_neg (by omega), Nat.add_sub_cancel, Syntax.members?_eq,
        memberSyntax_eq, hmembers, List.map_id]
      simp only [nesting, Nat.add_le_add_iff_right, memberNesting_le]
      split
      · rw [Option.map_some, ofMembers_of_sorted sorted]
      · rfl

/-- A written document is read as itself, unless it nests too deep. -/
theorem read?_render (h : j.IsExact) :
    read? j.render = if j.nesting < maxNesting then some j else none := by
  rw [read?, h.isWhole.read?_render]
  exact h.json?_toSyntax 127 |>.trans (by simp only [maxNesting, Nat.lt_succ_iff])

end IsExact

end LiveForm.Json
