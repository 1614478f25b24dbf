/-
  Texts read in place, by byte offsets.

  The readers of templates go through lists of characters and count offsets beside them. Here texts
  are cut at the offsets instead. A cut inside of a character or behind the end gives nothing, and so
  does a reader that makes one.

  * `Text.from?` and `Text.slice?` cut a text at offsets, `Text.Opens` says that a character opens
    at an offset;
  * `Lexeme.scanAllIn` reads the tokens of a body with nothing but the body and an offset in it,
    and cuts their texts out of the body;
  * `Lexeme.scanAllIn_eq`: each of its cuts succeeds, and it reads what `Lexeme.scanAll` reads.
-/
import LiveForm.Template.Token
import Mathlib.Data.List.TakeWhile
import Mathlib.Tactic.SplitIfs

namespace LiveForm

namespace Text

variable {cs mid rest : List Char} {n pos : Nat}

/-! ## Cutting -/

/-- The text from an offset on. -/
def from? (n : Nat) : List Char → Option (List Char)
  | [] => if n = 0 then some [] else none
  | c :: cs =>
    if n = 0 then some (c :: cs)
    else if n < c.utf8Size then none
    else from? (n - c.utf8Size) cs

/-- The text up to an offset. -/
def upTo? (n : Nat) : List Char → Option (List Char)
  | [] => if n = 0 then some [] else none
  | c :: cs =>
    if n = 0 then some []
    else if n < c.utf8Size then none
    else (upTo? (n - c.utf8Size) cs).map (c :: ·)

/-- The text between two offsets. -/
def slice? (start stop : Nat) (cs : List Char) : Option (List Char) :=
  if start ≤ stop then (from? start cs).bind (upTo? (stop - start)) else none

theorem from?_append (pre post : List Char) : from? (width pre) (pre ++ post) = some post := by
  induction pre with
  | nil => cases post <;> simp [from?]
  | cons c pre ih =>
    have := c.utf8Size_pos
    rw [List.cons_append, from?, if_neg (by simp; omega), if_neg (by simp), width_cons,
      Nat.add_sub_cancel_left, ih]

theorem upTo?_append (pre post : List Char) : upTo? (width pre) (pre ++ post) = some pre := by
  induction pre with
  | nil => cases post <;> simp [upTo?]
  | cons c pre ih =>
    have := c.utf8Size_pos
    rw [List.cons_append, upTo?, if_neg (by simp; omega), if_neg (by simp), width_cons,
      Nat.add_sub_cancel_left, ih, Option.map_some]

theorem of_from? (h : from? n cs = some rest) : ∃ pre, cs = pre ++ rest ∧ width pre = n := by
  induction cs generalizing n with
  | nil =>
    rw [from?] at h
    split_ifs at h with hn
    cases h
    exact ⟨[], rfl, hn.symm⟩
  | cons c cs ih =>
    rw [from?] at h
    split_ifs at h with hn hc
    · cases h
      exact ⟨[], rfl, hn.symm⟩
    · obtain ⟨pre, rfl, hw⟩ := ih h
      exact ⟨c :: pre, rfl, by rw [width_cons]; omega⟩

theorem width_of_from? (h : from? n cs = some rest) : n + width rest = width cs := by
  obtain ⟨pre, rfl, rfl⟩ := of_from? h
  exact (width_append pre rest).symm

/-- What stands at an offset stands at a later one without its beginning. -/
theorem from?_of_append (mid : List Char) (h : from? n cs = some (mid ++ rest)) :
    from? (n + width mid) cs = some rest := by
  obtain ⟨pre, rfl, rfl⟩ := of_from? h
  rw [← width_append, ← List.append_assoc, from?_append]

theorem from?_of_cons {c : Char} (h : from? n cs = some (c :: rest)) :
    from? (n + c.utf8Size) cs = some rest :=
  from?_of_append [c] h

theorem lt_of_from? {c : Char} (h : from? n cs = some (c :: rest)) :
    width cs - (n + c.utf8Size) < width cs - n := by
  have hw := width_of_from? h
  have := c.utf8Size_pos
  rw [width_cons] at hw
  omega

theorem slice?_of_from? (h : from? n cs = some (mid ++ rest)) :
    slice? n (n + width mid) cs = some mid := by
  rw [slice?, if_pos (Nat.le_add_right n _), h, Nat.add_sub_cancel_left, Option.bind_some,
    upTo?_append]

theorem slice?_append (pre mid post : List Char) :
    slice? (width pre) (width pre + width mid) (pre ++ (mid ++ post)) = some mid :=
  slice?_of_from? (from?_append pre (mid ++ post))

example : slice? 1 3 ['a', 'é', 'b'] = some ['é'] ∧ slice? 2 3 ['a', 'é', 'b'] = none := by decide

/-! ## Offsets of characters -/

/-- A character of the text opens at the offset. -/
def Opens (cs : List Char) (pos : Nat) : Prop :=
  ∃ pre c post, cs = pre ++ c :: post ∧ pos = width pre

/-- Braces are one byte wide. -/
@[simp] theorem utf8Size_openBrace : ('{' : Char).utf8Size = 1 := rfl

@[simp] theorem utf8Size_closeBrace : ('}' : Char).utf8Size = 1 := rfl

theorem opens_append (pre : List Char) (c : Char) (post : List Char) :
    Opens (pre ++ c :: post) (width pre) :=
  ⟨pre, c, post, rfl, rfl⟩

/-! ## Going over characters -/

/-- The offset of the first character, from `pos` on, that does not pass the test. -/
def skipIn (p : Char → Bool) (cs : List Char) (pos : Nat) : Option Nat :=
  match h : from? pos cs with
  | none => none
  | some [] => some pos
  | some (c :: _) =>
    have := lt_of_from? h
    if p c then skipIn p cs (pos + c.utf8Size) else some pos
termination_by width cs - pos

theorem skipIn_eq (p : Char → Bool) (h : from? pos cs = some rest) :
    skipIn p cs pos = some (pos + width (rest.takeWhile p)) := by
  induction rest generalizing pos with
  | nil => rw [skipIn]; split <;> simp_all
  | cons c rest ih =>
    rw [skipIn]
    split
    · simp_all
    · simp_all
    · next c' r h' =>
      obtain ⟨rfl, rfl⟩ : c = c' ∧ rest = r := by simpa using h.symm.trans h'
      by_cases hp : p c
      · rw [if_pos hp, ih (from?_of_cons h), List.takeWhile_cons_of_pos hp, width_cons,
          Nat.add_assoc]
      · rw [if_neg hp, List.takeWhile_cons_of_neg hp, width_nil, Nat.add_zero]

theorem le_of_skipIn {p : Char → Bool} {stop : Nat} (h : skipIn p cs pos = some stop) :
    pos ≤ stop := by
  fun_induction skipIn p cs pos with
  | case1 => cases h
  | case2 => cases h; exact Nat.le_refl _
  | case3 pos c r hpos hlt hp ih => exact Nat.le_trans (Nat.le_add_right _ _) (ih h)
  | case4 => cases h; exact Nat.le_refl _

end Text

namespace Token

open Text

variable {cs rest : List Char} {pos start base : Nat}

/-! ## Strings -/

/-- The content of a string literal and the offset after its closing quote, or nothing without one.
    The content is cut out at its end if it has no backslash, and gathered from the first one on. -/
def contentIn (quote : Char) (cs : List Char) (start : Nat) (gathered : Option (List Char))
    (pos : Nat) : Option (Option (List Char × Nat)) :=
  match h : from? pos cs with
  | none => none
  | some [] => some none
  | some (c :: _) =>
    have := lt_of_from? h
    if c = quote then
      (gathered <|> slice? start (pos + c.utf8Size - quote.utf8Size) cs).map fun value =>
        some (value, pos + c.utf8Size)
    else if c = '\\' then
      match gathered <|> slice? start (pos + c.utf8Size - 1) cs with
      | none => none
      | some value =>
        match h' : from? (pos + c.utf8Size) cs with
        | none => none
        | some [] => some none
        | some (d :: _) =>
          have := Nat.lt_trans (lt_of_from? h') (lt_of_from? h)
          contentIn quote cs start (some (value ++ [unescape d])) (pos + c.utf8Size + d.utf8Size)
    else contentIn quote cs start (gathered.map (· ++ [c])) (pos + c.utf8Size)
termination_by width cs - pos

/-- The content so far is `value`, with `rest` behind it: it has been gathered, or it stands in the
    text from `start` up to `pos`. -/
def HasGathered (cs : List Char) (start : Nat) (gathered : Option (List Char)) (pos : Nat)
    (value rest : List Char) : Prop :=
  gathered = some value ∨
    gathered = none ∧ from? start cs = some (value ++ rest) ∧ pos = start + width value

theorem HasGathered.slice {gathered : Option (List Char)} {value : List Char}
    (h : HasGathered cs start gathered pos value rest) :
    (gathered <|> slice? start pos cs) = some value := by
  rcases h with rfl | ⟨rfl, hs, rfl⟩
  · rfl
  · exact slice?_of_from? hs

theorem HasGathered.char {gathered : Option (List Char)} {value : List Char} {c : Char}
    (h : HasGathered cs start gathered pos value (c :: rest)) :
    HasGathered cs start (gathered.map (· ++ [c])) (pos + c.utf8Size) (value ++ [c]) rest := by
  rcases h with rfl | ⟨rfl, hs, rfl⟩
  · exact .inl rfl
  · exact .inr ⟨rfl, by simpa using hs, by simp [Nat.add_assoc]⟩

section

variable {quote c : Char} {gathered : Option (List Char)} {value : List Char}

theorem contentIn_nil (h : from? pos cs = some []) :
    contentIn quote cs start gathered pos = some none := by
  rw [contentIn]
  split <;> simp_all

theorem contentIn_quote (h : from? pos cs = some (quote :: rest))
    (hg : (gathered <|> slice? start pos cs) = some value) :
    contentIn quote cs start gathered pos = some (some (value, pos + quote.utf8Size)) := by
  rw [contentIn]
  split <;> simp_all

theorem contentIn_backslash (h : from? pos cs = some ['\\']) (hq : '\\' ≠ quote)
    (hg : (gathered <|> slice? start pos cs) = some value) :
    contentIn quote cs start gathered pos = some none := by
  have hn : from? (pos + '\\'.utf8Size) cs = some [] := from?_of_cons h
  rw [contentIn]
  split
  · simp_all
  · simp_all
  · next h' =>
    rw [h, Option.some.injEq, List.cons.injEq] at h'
    obtain ⟨rfl, -⟩ := h'
    have hs : (gathered <|> slice? start (pos + '\\'.utf8Size - 1) cs) = some value := hg
    simp only [if_neg hq, if_pos, hs]
    split <;> simp_all

theorem contentIn_escape {d : Char} (h : from? pos cs = some ('\\' :: d :: rest))
    (hq : '\\' ≠ quote) (hg : (gathered <|> slice? start pos cs) = some value) :
    contentIn quote cs start gathered pos =
      contentIn quote cs start (some (value ++ [unescape d])) (pos + width ['\\', d]) := by
  have hn : from? (pos + '\\'.utf8Size) cs = some (d :: rest) := from?_of_cons h
  rw [contentIn]
  split
  · simp_all
  · simp_all
  · next h' =>
    rw [h, Option.some.injEq, List.cons.injEq] at h'
    obtain ⟨rfl, -⟩ := h'
    have hs : (gathered <|> slice? start (pos + '\\'.utf8Size - 1) cs) = some value := hg
    simp only [if_neg hq, if_pos, hs]
    split
    · simp_all
    · simp_all
    · next h'' =>
      have hd := hn.symm.trans h''
      rw [Option.some.injEq, List.cons.injEq] at hd
      obtain ⟨rfl, -⟩ := hd
      simp [Nat.add_assoc]

theorem contentIn_char (h : from? pos cs = some (c :: rest)) (hq : c ≠ quote) (hb : c ≠ '\\') :
    contentIn quote cs start gathered pos =
      contentIn quote cs start (gathered.map (· ++ [c])) (pos + c.utf8Size) := by
  rw [contentIn]
  split <;> simp_all

/-- The literal is read in place as it is read from the front of a list. -/
theorem contentIn_eq (h : from? pos cs = some rest)
    (hg : HasGathered cs start gathered pos value rest) :
    contentIn quote cs start gathered pos =
      some ((stringContent quote rest).map fun x => (value ++ x.1, pos + width x.2.1)) := by
  fun_induction stringContent quote rest generalizing pos gathered value with
  | case1 => exact contentIn_nil h
  | case2 r => simp [contentIn_quote h hg.slice]
  | case3 hq => exact contentIn_backslash h hq hg.slice
  | case4 d r hq ih =>
    rw [contentIn_escape h hq hg.slice, ih (from?_of_append ['\\', d] h) (.inl rfl)]
    cases stringContent quote r <;> simp [Nat.add_assoc]
  | case5 c r hq hb ih =>
    rw [contentIn_char h hq hb, ih (from?_of_cons h) hg.char]
    cases stringContent quote r <;> simp [Nat.add_assoc]

end

/-! ## Numerals -/

/-- A signed numeral as a 64-bit integer, if it is one. -/
def integer? : List Char → Option Int64
  | '-' :: digits => int64? true digits
  | digits => int64? false digits

/-- Whether a point and a digit come next. -/
def hasPlaces (cs : List Char) : Bool := cs.head? = some '.' ∧ cs.tail.head?.any isDigit

/-- The token of a numeral from its whole text. -/
def ofText? (isDecimal : Bool) (text : List Char) : Option Token :=
  if isDecimal then (Decimal.read? text).map .decimal else (integer? text).map .integer

/-- Reads a numeral, with its sign. -/
def numeralIn (base : Nat) (cs : List Char) (start : Nat) :
    Option (Except SyntaxError (Token × Nat)) := do
  let opened ← from? start cs
  let point ← skipIn isDigit cs (if opened.head? = some '-' then start + 1 else start)
  let ahead ← from? point cs
  let stop ← (if hasPlaces ahead then skipIn isDigit cs (point + 1) else some point)
  let text ← slice? start stop cs
  return match ofText? (hasPlaces ahead) text with
    | some t => .ok (t, stop)
    | none => .error (.invalidNumber (String.ofList text) (base + start))

theorem integer?_append {sign digits : List Char} (hs : sign = [] ∨ sign = ['-'])
    (hd : ∀ c ∈ digits, isDigit c) :
    integer? (sign ++ digits) = int64? (!sign.isEmpty) digits := by
  rcases hs with rfl | rfl
  · cases digits with
    | nil => rfl
    | cons c digits =>
      have hc : c ≠ '-' := by
        rintro rfl
        exact absurd (hd '-' (by simp)) (by decide)
      rw [List.nil_append, integer?]
      · rfl
      · simp [hc]
  · rfl

theorem placesOf_eq (cs : List Char) :
    placesOf cs = if hasPlaces cs then '.' :: cs.tail.takeWhile isDigit else [] := by
  unfold placesOf
  split
  · next d r => by_cases hd : isDigit d <;> simp [hasPlaces, hd]
  · next hne =>
    rw [if_neg]
    simp only [hasPlaces, decide_eq_true_eq, not_and]
    intro hdot hdigit
    obtain ⟨cs, rfl⟩ := List.head?_eq_some_iff.1 hdot
    cases cs with
    | nil => simp at hdigit
    | cons d r => exact hne d r rfl

theorem placesOf_append_drop (cs : List Char) :
    placesOf cs ++ cs.drop (placesOf cs).length = cs := by
  have h := List.take_append_drop (placesOf cs).length cs
  rwa [← placesOf_eq_take] at h

theorem skipIn_places (h : from? pos cs = some rest) :
    (if hasPlaces rest then skipIn isDigit cs (pos + 1) else some pos) =
      some (pos + width (placesOf rest)) := by
  rw [placesOf_eq]
  split_ifs with hplaces
  · have hdot : rest.head? = some '.' := (of_decide_eq_true hplaces).1
    obtain ⟨rest, rfl⟩ := List.head?_eq_some_iff.1 hdot
    have hskip : skipIn isDigit cs (pos + 1) = some (pos + 1 + width (rest.takeWhile isDigit)) :=
      skipIn_eq isDigit (from?_of_cons h)
    rw [hskip, List.tail_cons, Nat.add_assoc]
    rfl
  · rfl

theorem ofText?_places {sign digits : List Char} (hs : sign = [] ∨ sign = ['-'])
    (hd : ∀ c ∈ digits, isDigit c) (cs : List Char) :
    ofText? (hasPlaces cs) (sign ++ digits ++ placesOf cs) =
      ofNumeral? sign digits (placesOf cs) := by
  rw [placesOf_eq, ofText?]
  split_ifs with hplaces
  · rfl
  · rw [List.append_nil, integer?_append hs hd]
    rfl

/-- Numerals are read in place as they are read from the front of a list. -/
theorem numeralIn_eq (sign : List Char) (h : from? start cs = some (sign ++ rest))
    (hs : sign = [] ∧ rest.head? ≠ some '-' ∨ sign = ['-']) :
    numeralIn base cs start =
      some ((scanNumeral sign rest (base + start)).map fun s =>
        (s.token, start + width s.taken)) := by
  have hopen : (if (sign ++ rest).head? = some '-' then start + 1 else start) =
      start + width sign := by
    rcases hs with ⟨rfl, hr⟩ | rfl
    · simp [hr]
    · rfl
  have hpoint : from? (start + width sign + width (rest.takeWhile isDigit)) cs =
      some (rest.dropWhile isDigit) :=
    from?_of_append _ (by rw [List.takeWhile_append_dropWhile]; exact from?_of_append _ h)
  have htext : from? start cs = some (sign ++ rest.takeWhile isDigit ++
      placesOf (rest.dropWhile isDigit) ++
        (rest.dropWhile isDigit).drop (placesOf (rest.dropWhile isDigit)).length) := by
    rw [h, List.append_assoc, List.append_assoc, placesOf_append_drop,
      List.takeWhile_append_dropWhile]
  have hslice := slice?_of_from? htext
  simp only [width_append, ← Nat.add_assoc] at hslice
  have hdigits : ∀ c ∈ rest.takeWhile isDigit, isDigit c := fun c hc => List.mem_takeWhile_imp hc
  have htoken := ofText?_places (hs.imp And.left id) hdigits (rest.dropWhile isDigit)
  simp only [numeralIn, h, hopen, skipIn_eq isDigit (from?_of_append _ h), hpoint,
    skipIn_places hpoint, hslice, htoken, scanNumeral, Option.bind_eq_bind, Option.bind_some]
  cases ofNumeral? sign (rest.takeWhile isDigit) (placesOf (rest.dropWhile isDigit)) with
  | some t => simp [Except.map, Nat.add_assoc]
  | none => rfl

/-! ## Tokens -/

/-- Reads the word that opens with `c`. -/
def wordIn (c : Char) (cs : List Char) (start : Nat) : Option (Token × Nat) := do
  let stop ← skipIn Identifier.isContinue cs (start + c.utf8Size)
  let word ← slice? start stop cs
  return (ofWord word, stop)

/-- Reads the token that opens with `c`, which stands at offset `start` and is no blank. -/
def scanIn (base : Nat) (c : Char) (cs : List Char) (start : Nat) :
    Option (Except SyntaxError (Token × Nat)) :=
  match mark? c with
  | some t => some (.ok (t, start + c.utf8Size))
  | none =>
    if c = '\'' ∨ c = '"' then do
      match ← contentIn c cs (start + c.utf8Size) none (start + c.utf8Size) with
      | some (value, stop) => return .ok (.string (String.ofList value), stop)
      | none => return .error (.unclosedString (base + start))
    else if isDigit c then numeralIn base cs start
    else do
      let opened ← from? start cs
      if c = '-' ∧ opened.tail.head?.any isDigit then numeralIn base cs start
      else if Identifier.isStart c then return .ok (← wordIn c cs start)
      else if c = '{' then return .error (.nestedBrace (base + start))
      else return .error (.invalidCharacter c (base + start))

theorem wordIn_eq {c : Char} (h : from? start cs = some (c :: rest)) :
    wordIn c cs start = some (ofWord (c :: rest.takeWhile Identifier.isContinue),
      start + width (c :: rest.takeWhile Identifier.isContinue)) := by
  have hword : from? start cs = some ((c :: rest.takeWhile Identifier.isContinue) ++
      rest.dropWhile Identifier.isContinue) := by
    rw [h, List.cons_append, List.takeWhile_append_dropWhile]
  have hslice := slice?_of_from? hword
  rw [width_cons] at hslice
  simp [wordIn, skipIn_eq _ (from?_of_cons h), hslice, Nat.add_assoc]

theorem stringIn_eq {c : Char} (h : from? start cs = some (c :: rest)) :
    contentIn c cs (start + c.utf8Size) none (start + c.utf8Size) =
      some ((stringContent c rest).map fun x =>
        (x.1, start + c.utf8Size + width x.2.1)) := by
  have hempty : HasGathered cs (start + c.utf8Size) none (start + c.utf8Size) [] rest :=
    .inr ⟨rfl, from?_of_cons h, rfl⟩
  exact contentIn_eq (from?_of_cons h) hempty

/-- Tokens are read in place as they are read from the front of a list. -/
theorem scanIn_eq {c : Char} (base : Nat) (h : from? start cs = some (c :: rest)) :
    scanIn base c cs start = some ((scan c rest (base + start)).map fun s =>
      (s.token, start + width s.taken)) := by
  unfold scanIn scan
  cases mark? c with
  | some t => simp [Except.map]
  | none =>
    dsimp only
    by_cases hquote : c = '\'' ∨ c = '"'
    · rw [if_pos hquote, if_pos hquote, stringIn_eq h]
      cases stringContent c rest with
      | none => rfl
      | some x => simp [Except.map, Nat.add_assoc]
    rw [if_neg hquote, if_neg hquote]
    by_cases hdigit : isDigit c
    · have hc : c ≠ '-' := by
        rintro rfl
        exact absurd hdigit (by decide)
      rw [if_pos hdigit, if_pos hdigit]
      exact numeralIn_eq [] h (.inl ⟨rfl, by simpa using hc⟩)
    rw [if_neg hdigit, if_neg hdigit, h, Option.bind_eq_bind, Option.bind_some, List.tail_cons]
    by_cases hminus : c = '-' ∧ rest.head?.any isDigit
    · rw [if_pos hminus, if_pos hminus]
      obtain ⟨rfl, -⟩ := hminus
      exact numeralIn_eq ['-'] h (.inr rfl)
    rw [if_neg hminus, if_neg hminus]
    split_ifs
    · rw [wordIn_eq h]
      rfl
    · rfl
    · rfl

theorem lt_of_scanIn {c : Char} {stop : Nat} {t : Token} (h : from? start cs = some (c :: rest))
    (ht : scanIn base c cs start = some (.ok (t, stop))) : start < stop := by
  rw [scanIn_eq base h] at ht
  cases hs : scan c rest (base + start) with
  | error e => rw [hs] at ht; cases ht
  | ok s =>
    rw [hs] at ht
    cases ht
    have happ := congrArg List.length (scan_append hs)
    have hrest := scan_rest_length hs
    cases htaken : s.taken with
    | nil => simp [htaken] at happ; omega
    | cons d taken =>
      have := d.utf8Size_pos
      rw [width_cons]
      omega

end Token

namespace Lexeme

open Text

variable {cs rest : List Char} {pos base : Nat}

/-! ## Bodies -/

/-- The tokens of a body from the offset `pos` on, where the body itself has offset `base`. -/
def scanAllIn (base : Nat) (cs : List Char) (pos : Nat) :
    Option (Except SyntaxError (List Lexeme)) :=
  match hs : skipIn isBlank cs pos with
  | none => none
  | some start =>
    match hc : from? start cs with
    | none => none
    | some [] => some (.ok [])
    | some (c :: _) =>
      match ht : Token.scanIn base c cs start with
      | none => none
      | some (.error e) => some (.error e)
      | some (.ok (t, stop)) =>
        have : width cs - stop < width cs - pos := by
          have hstop := Token.lt_of_scanIn hc ht
          have hwidth := width_of_from? hc
          have := le_of_skipIn hs
          have := c.utf8Size_pos
          rw [width_cons] at hwidth
          omega
        (scanAllIn base cs stop).map (Except.map (⟨t, base + start, base + stop⟩ :: ·))
termination_by width cs - pos

theorem scanAll_of_blanks (pos : Nat) (cs : List Char) :
    scanAll pos cs = scanAll (pos + width (cs.takeWhile isBlank)) (cs.dropWhile isBlank) := by
  induction cs generalizing pos with
  | nil => rfl
  | cons c cs ih =>
    by_cases hc : isBlank c
    · rw [scanAll, if_pos hc, ih, List.takeWhile_cons_of_pos hc, List.dropWhile_cons_of_pos hc,
        width_cons, Nat.add_assoc]
    · rw [List.takeWhile_cons_of_neg hc, List.dropWhile_cons_of_neg hc]
      rfl

section

variable {start : Nat} {c : Char}

theorem scanAllIn_nil (hs : skipIn isBlank cs pos = some start) (hc : from? start cs = some []) :
    scanAllIn base cs pos = some (.ok []) := by
  rw [scanAllIn]
  split <;> simp_all
  split <;> simp_all

theorem scanAllIn_error {e : SyntaxError} (hs : skipIn isBlank cs pos = some start)
    (hc : from? start cs = some (c :: rest))
    (ht : Token.scanIn base c cs start = some (.error e)) :
    scanAllIn base cs pos = some (.error e) := by
  rw [scanAllIn]
  split <;> simp_all
  split <;> simp_all
  split <;> simp_all

theorem scanAllIn_ok {t : Token} {stop : Nat} (hs : skipIn isBlank cs pos = some start)
    (hc : from? start cs = some (c :: rest))
    (ht : Token.scanIn base c cs start = some (.ok (t, stop))) :
    scanAllIn base cs pos =
      (scanAllIn base cs stop).map (Except.map (⟨t, base + start, base + stop⟩ :: ·)) := by
  rw [scanAllIn]
  split <;> simp_all
  split <;> simp_all
  split <;> simp_all

end

/-- All cuts of the reader in place succeed, and it reads what the reader of lists reads. -/
theorem scanAllIn_eq (base : Nat) (h : from? pos cs = some rest) :
    scanAllIn base cs pos = some (scanAll (base + pos) rest) := by
  induction hn : rest.length using Nat.strongRecOn generalizing pos rest with
  | ind n ih =>
    have hs := skipIn_eq isBlank h
    have hc : from? (pos + width (rest.takeWhile isBlank)) cs = some (rest.dropWhile isBlank) :=
      from?_of_append _ (by rwa [List.takeWhile_append_dropWhile])
    have hlen : (rest.dropWhile isBlank).length ≤ n := hn ▸ List.length_dropWhile_le isBlank rest
    have hblank := List.head?_dropWhile_not isBlank rest
    rw [scanAll_of_blanks]
    cases hrest : rest.dropWhile isBlank with
    | nil =>
      rw [hrest] at hc
      rw [scanAllIn_nil hs hc, scanAll]
    | cons c r =>
      rw [hrest] at hc hlen hblank
      rw [scanAll, if_neg (by simpa using hblank), Nat.add_assoc]
      have ht := Token.scanIn_eq base hc
      split
      · next e he =>
        rw [he] at ht
        exact scanAllIn_error hs hc ht
      · next x hx =>
        rw [hx] at ht
        have hnext : from? (pos + width (rest.takeWhile isBlank) + width x.taken) cs =
            some x.rest := from?_of_append _ (by rw [hc, Token.scan_append hx])
        have hshort := Token.scan_rest_length hx
        rw [scanAllIn_ok hs hc ht, ih _ (by simp at hlen; omega) hnext rfl]
        simp [Nat.add_assoc]

end Lexeme

end LiveForm
