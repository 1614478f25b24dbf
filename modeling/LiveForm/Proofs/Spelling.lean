/-
  The text of an expression and its tokens.

  A text `Spells` tokens if the scanner reads it as these tokens wherever what comes after it cannot
  be taken for a part of it. What an expression renders as spells the tokens of one of its
  derivations (`Expression.Spelled`), under two provisos. `Expression.Named` says that the names in
  the expression are ones that a scan can give; it holds of everything the reader returns.
  `Expression.isPlain` leaves out what the renderer does not protect: a backslash in a string, a
  decimal without places, and a conditional that is piped.
-/
import LiveForm.Proofs.Grammar
import LiveForm.Proofs.Numerals

namespace LiveForm

open Grammar

/-! ## Expressions that the renderer protects -/

/-- Whether a literal is read back from its own text. -/
def Literal.isPlain : Literal → Bool
  | .decimal d => d.scale != 0
  | .string s => !s.toList.contains '\\'
  | _ => true

namespace Expression

def isConditional : Expression → Bool
  | .conditional .. => true
  | _ => false

mutual

/-- Whether strings are without backslashes, decimals have places, and no conditional is the source
    of a filter. -/
def isPlain : Expression → Bool
  | .literal l => l.isPlain
  | .path _ => true
  | .pipe source _ args => !source.isConditional && isPlain source && areArgsPlain args
  | .conditional c t f => isPlain c && isPlain t && isPlain f
  | .interpolation parts => arePartsPlain parts

def areArgsPlain : List Expression → Bool
  | [] => true
  | e :: es => isPlain e && areArgsPlain es

def arePartsPlain : List Part → Bool
  | [] => true
  | p :: ps => isPartPlain p && arePartsPlain ps

def isPartPlain : Part → Bool
  | .text _ => true
  | .expression e => isPlain e

end

end Expression

/-! ## Scans -/

namespace Token

/-- A character with which a scan begins a word. -/
def OpensWord (c : Char) : Prop :=
  Text.isBlank c = false ∧ mark? c = none ∧ ¬(c = '\'' ∨ c = '"') ∧ isDigit c = false ∧
    Identifier.isStart c = true

instance (c : Char) : Decidable (OpensWord c) := inferInstanceAs (Decidable (_ ∧ _))

/-- The characters of a word. -/
def IsWord : List Char → Prop
  | [] => False
  | c :: r => OpensWord c ∧ ∀ d ∈ r, Identifier.isContinue d = true

/-- A name is a word that stands for no literal. -/
def IsName (name : String) : Prop :=
  IsWord name.toList ∧ ofWord name.toList = .identifier name

theorem isBlank_of_isDigit {c : Char} (h : isDigit c) : Text.isBlank c = false := by
  have h : 48 ≤ c.toNat ∧ c.toNat ≤ 57 := by
    simpa [isDigit, Char.le_def, UInt32.le_iff_toNat_le] using h
  simp only [Text.isBlank, CharSet.contains, CharSet.blank, CharSet.memberOf]
  rw [if_neg (by omega), if_neg (by omega), if_neg (by omega), if_neg (by omega), if_pos (by omega)]
  rfl

/-- A text that does not go on with a word. -/
def Breaks (rest : List Char) : Prop := ∀ c ∈ rest.head?, Identifier.isContinue c = false

/-- A text that goes on neither with a word nor with a numeral. -/
def Ends (rest : List Char) : Prop :=
  ∀ c ∈ rest.head?, Identifier.isContinue c = false ∧ isDigit c = false ∧ c ≠ '.'

theorem Ends.breaks {rest : List Char} (h : Ends rest) : Breaks rest := fun c hc => (h c hc).1

theorem ends_nil : Ends [] := by simp [Ends]

theorem breaks_cons {c : Char} {r : List Char} (h : Identifier.isContinue c = false) :
    Breaks (c :: r) := by simpa [Breaks] using h

theorem ends_cons {c : Char} {r : List Char}
    (h : Identifier.isContinue c = false ∧ isDigit c = false ∧ c ≠ '.') : Ends (c :: r) := by
  simpa [Ends] using h

theorem takeWhile_append {p : Char → Bool} {cs rest : List Char} (h : ∀ c ∈ cs, p c = true)
    (hr : ∀ c ∈ rest.head?, p c = false) :
    (cs ++ rest).takeWhile p = cs ∧ (cs ++ rest).dropWhile p = rest := by
  have htake : rest.takeWhile p = [] ∧ rest.dropWhile p = rest := by
    cases rest with
    | nil => simp
    | cons c r => simp [hr c (by simp)]
  rw [List.takeWhile_append_of_pos h, List.dropWhile_append_of_pos h, htake.1, htake.2]
  simp

theorem scan_word {c : Char} {r : List Char} (h : IsWord (c :: r)) {rest : List Char}
    (hb : Breaks rest) (pos : Nat) :
    scan c (r ++ rest) pos = .ok ⟨ofWord (c :: r), c :: r, rest⟩ := by
  obtain ⟨⟨-, hm, hq, hd, hs⟩, hr⟩ := h
  have hminus : c ≠ '-' := by rintro rfl; exact absurd hs (by decide +kernel)
  obtain ⟨htake, hdrop⟩ := takeWhile_append hr hb
  simp [scan, hm, hq, hd, hs, hminus, htake, hdrop]

theorem scan_numeral {sign digits places rest : List Char} {t : Token}
    (hsign : sign = [] ∨ sign = ['-']) (hne : digits ≠ []) (hd : ∀ c ∈ digits, isDigit c)
    (hr : ∀ c ∈ (places ++ rest).head?, isDigit c = false) (hp : placesOf (places ++ rest) = places)
    (ht : ofNumeral? sign digits places = some t) :
    ∃ c r, sign ++ digits ++ (places ++ rest) = c :: r ∧ Text.isBlank c = false ∧
      ∀ pos, scan c r pos = .ok ⟨t, sign ++ digits ++ places, rest⟩ := by
  obtain ⟨htake, hdrop⟩ := takeWhile_append hd hr
  have hnum : ∀ pos, scanNumeral sign (digits ++ (places ++ rest)) pos =
      .ok ⟨t, sign ++ digits ++ places, rest⟩ := by
    intro pos
    simp [scanNumeral, htake, hdrop, hp, ht, List.drop_append]
  obtain ⟨c, ds, rfl⟩ := List.exists_cons_of_ne_nil hne
  have hc : isDigit c := hd c (by simp)
  have hmark : mark? c = none := by
    unfold mark?
    split <;> first | rfl | exact absurd hc (by decide)
  have hquote : ¬(c = '\'' ∨ c = '"') := by
    rintro (rfl | rfl) <;> exact absurd hc (by decide)
  rcases hsign with rfl | rfl
  · refine ⟨c, _, rfl, isBlank_of_isDigit hc, fun pos => ?_⟩
    simpa [scan, hmark, hquote, hc] using hnum pos
  · refine ⟨'-', _, rfl, by decide, fun pos => ?_⟩
    have hminus : mark? '-' = none ∧ isDigit '-' = false := by decide
    simpa [scan, hminus, hc] using hnum pos

/-- The characters stand for `c` in single quotes: they are `c` itself, which needs no protection
    there, or a backslash and what it makes `c` of. -/
def Denotes (cs : List Char) (c : Char) : Prop :=
  cs = [c] ∧ c ≠ '\'' ∧ c ≠ '\\' ∨ ∃ d, cs = ['\\', d] ∧ unescape d = c

theorem stringContent_quoted {escape : Char → List Char} {s : List Char}
    (h : ∀ c ∈ s, Denotes (escape c) c) (rest : List Char) :
    stringContent '\'' (s.flatMap escape ++ '\'' :: rest) =
      some (s, s.flatMap escape ++ ['\''], rest) := by
  induction s with
  | nil =>
    rw [stringContent.eq_def]
    simp
  | cons c s ih =>
    obtain ⟨hc, hs⟩ := List.forall_mem_cons.1 h
    have ih := ih hs
    rw [stringContent.eq_def]
    rcases hc with ⟨he, hquote, hback⟩ | ⟨d, he, rfl⟩
    · simp [he, hquote, hback, ih]
    · simp [he, ih]

theorem denotes_escapeQuote {c : Char} (h : c ≠ '\\') : Denotes (Literal.escapeQuote c) c := by
  by_cases hc : c = '\''
  · exact .inr ⟨'\'', by simp [Literal.escapeQuote, hc], by simp [hc, unescape]⟩
  · exact .inl ⟨by simp [Literal.escapeQuote, hc], hc, h⟩

end Token

/-! ## Texts as tokens -/

theorem Lexeme.scanAll_of_scan {c : Char} {r : List Char} {pos : Nat} {s : Token.Scan}
    (hc : Text.isBlank c = false) (hs : Token.scan c r pos = .ok s) :
    scanAll pos (c :: r) = (scanAll (pos + Text.width s.taken) s.rest).map
      (⟨s.token, pos, pos + Text.width s.taken⟩ :: ·) := by
  rw [scanAll, if_neg (by simp [hc])]
  split
  · next e he => cases hs.symm.trans he
  · next s' hs' =>
    cases hs.symm.trans hs'
    rfl

/-- The text is scanned as these tokens, wherever it stands. -/
def Reads (cs : List Char) (ts : List Token) : Prop :=
  ∀ pos, ∃ ls, Lexeme.scanAll pos cs = .ok ls ∧ ls.map Lexeme.token = ts

namespace Reads

variable {cs r taken rest : List Char} {c : Char} {t : Token} {ts us : List Token}

theorem nil : Reads [] [] := fun pos => ⟨[], by rw [Lexeme.scanAll], rfl⟩

theorem blank (hc : Text.isBlank c = true) (h : Reads r ts) : Reads (c :: r) ts := by
  intro pos
  rw [Lexeme.scanAll, if_pos hc]
  exact h _

theorem token (hc : Text.isBlank c = false)
    (hs : ∀ pos, Token.scan c r pos = .ok ⟨t, taken, rest⟩) (h : Reads rest ts) :
    Reads (c :: r) (t :: ts) := by
  intro pos
  obtain ⟨ls, hl, rfl⟩ := h (pos + Text.width taken)
  exact ⟨_, by rw [Lexeme.scanAll_of_scan hc (hs pos), hl]; rfl, rfl⟩

theorem mark (hm : Token.mark? c = some t) (hc : Text.isBlank c = false) (h : Reads r ts) :
    Reads (c :: r) (t :: ts) := by
  have hs : ∀ pos, Token.scan c r pos = .ok ⟨t, [c], r⟩ := fun pos => by simp only [Token.scan, hm]
  exact token hc hs h

theorem word (hw : Token.IsWord cs) (hb : Token.Breaks rest) (h : Reads rest ts) :
    Reads (cs ++ rest) (Token.ofWord cs :: ts) := by
  obtain ⟨c, r, rfl⟩ := List.exists_cons_of_ne_nil (show cs ≠ [] by rintro rfl; exact hw)
  exact token hw.1.1 (fun pos => Token.scan_word hw hb pos) h

theorem name {name : String} (hn : Token.IsName name) (hb : Token.Breaks rest)
    (h : Reads rest ts) : Reads (name.toList ++ rest) (.identifier name :: ts) :=
  hn.2 ▸ word hn.1 hb h

/-- A text is scanned in one way only. -/
theorem unique (h : Reads cs ts) (h' : Reads cs us) : ts = us := by
  obtain ⟨ls, hl, rfl⟩ := h 0
  obtain ⟨ls', hl', rfl⟩ := h' 0
  cases hl.symm.trans hl'
  rfl

/-- Blanks are scanned as no token. -/
theorem blanks (h : ∀ c ∈ cs, Text.isBlank c = true) : Reads cs [] := by
  induction cs with
  | nil => exact nil
  | cons c cs ih => exact blank (h c (by simp)) (ih fun d hd => h d (by simp [hd]))

end Reads

/-- The text is scanned as these tokens, followed by those of any text that ends them. -/
def Spells (cs : List Char) (ts : List Token) : Prop :=
  ∀ rest us, Token.Ends rest → Reads rest us → Reads (cs ++ rest) (ts ++ us)

namespace Spells

variable {a b : List Char} {c : Char} {t : Token} {ts us : List Token}

theorem nil : Spells [] [] := fun _ _ _ h => h

theorem append (ha : Spells a ts) (hb : Spells b us)
    (he : ∀ rest, Token.Ends rest → Token.Ends (b ++ rest)) : Spells (a ++ b) (ts ++ us) := by
  intro rest vs hr h
  rw [List.append_assoc, List.append_assoc]
  exact ha _ _ (he rest hr) (hb rest vs hr h)

/-- A text before one whose first character ends it. -/
theorem before (ha : Spells a ts) (hb : Spells (c :: b) us)
    (hc : Identifier.isContinue c = false ∧ Token.isDigit c = false ∧ c ≠ '.') :
    Spells (a ++ c :: b) (ts ++ us) :=
  ha.append hb fun _ _ => Token.ends_cons hc

theorem blank (hc : Text.isBlank c = true) (h : Spells b ts) : Spells (c :: b) ts :=
  fun rest us hr hu => .blank hc (h rest us hr hu)

theorem mark (hm : Token.mark? c = some t) (hc : Text.isBlank c = false) (h : Spells b ts) :
    Spells (c :: b) (t :: ts) :=
  fun rest us hr hu => .mark hm hc (h rest us hr hu)

theorem word (h : Token.IsWord a) : Spells a [Token.ofWord a] :=
  fun _ _ hr hu => .word h hr.breaks hu

theorem name {name : String} (h : Token.IsName name) : Spells name.toList [.identifier name] :=
  fun _ _ hr hu => .name h hr.breaks hu

theorem space (h : Spells b ts) : Spells (' ' :: b) ts := h.blank (by decide +kernel)

theorem numeral {sign digits places : List Char}
    (hsign : sign = [] ∨ sign = ['-']) (hne : digits ≠ []) (hd : ∀ c ∈ digits, Token.isDigit c)
    (hr : ∀ rest, Token.Ends rest → ∀ c ∈ (places ++ rest).head?, Token.isDigit c = false)
    (hp : ∀ rest, Token.Ends rest → Token.placesOf (places ++ rest) = places)
    (ht : Token.ofNumeral? sign digits places = some t) :
    Spells (sign ++ digits ++ places) [t] := by
  intro rest us he hu
  obtain ⟨c, r, hcs, hc, hs⟩ := Token.scan_numeral hsign hne hd (hr rest he) (hp rest he) ht
  rw [List.append_assoc _ places rest, hcs]
  exact .token hc hs hu

end Spells

/-! ## Literals -/

theorem isWord_of_true_false_null :
    Token.IsWord ['t', 'r', 'u', 'e'] ∧ Token.IsWord ['f', 'a', 'l', 's', 'e'] ∧
      Token.IsWord ['n', 'u', 'l', 'l'] := by
  simp only [Token.IsWord, List.forall_mem_cons, List.not_mem_nil, false_imp_iff, implies_true,
    and_true]
  decide +kernel

theorem spells_integer (n : Int64) : Spells (Literal.integer n).render [.integer n] := by
  have hr : (Literal.integer n).render =
      (if n.toInt < 0 then ['-'] else []) ++ Text.digits n.toInt.natAbs ++ [] := by
    simp [Literal.render, Text.ofInt]
  have hsign : (if n.toInt < 0 then ['-'] else []) = [] ∨
      (if n.toInt < 0 then ['-'] else []) = ['-'] := by split <;> simp
  have hnegative : (!(if n.toInt < 0 then ['-'] else []).isEmpty) = decide (n.toInt < 0) := by
    split <;> simp [*]
  rw [hr]
  refine .numeral hsign (Text.digits_ne_nil _) (fun _ => Text.isDigit_of_mem_digits) ?_ ?_ ?_
  · intro rest he c hc
    exact (he c hc).2.1
  · intro rest he
    -- Places begin with a point, and no point ends a numeral.
    unfold Token.placesOf
    split
    · next h => exact absurd rfl (he '.' (by simp_all)).2.2
    · rfl
  · rw [Token.ofNumeral?, List.isEmpty_nil, if_pos rfl, hnegative, Token.int64?_digits]
    rfl

theorem spells_decimal {d : Decimal} (hd : d.scale ≠ 0) :
    Spells (Literal.decimal d).render [.decimal d] := by
  obtain ⟨whole, places, hne, hlen, hds, hp⟩ := Decimal.pointed_eq d.coefficient.natAbs hd
  obtain ⟨hw, hps⟩ := List.forall_mem_append.1
    (hds ▸ fun c hc => Decimal.isDigit_of_mem_padded hc :
      ∀ c ∈ whole ++ places, Token.isDigit c = true)
  obtain ⟨p, ps, rfl⟩ := List.exists_cons_of_ne_nil
    (show places ≠ [] by rintro rfl; exact hd hlen.symm)
  have hr : (Literal.decimal d).render =
      (if d.coefficient < 0 then ['-'] else []) ++ whole ++ '.' :: p :: ps := by
    simp [Literal.render, Decimal.render, hp]
  have hsign : (if d.coefficient < 0 then ['-'] else []) = [] ∨
      (if d.coefficient < 0 then ['-'] else []) = ['-'] := by split <;> simp
  rw [hr]
  refine .numeral hsign hne hw ?_ ?_ ?_
  · rintro rest - c hc
    obtain rfl : '.' = c := by simpa using hc
    decide
  · intro rest he
    have htake : (ps ++ rest).takeWhile Token.isDigit = ps :=
      (Token.takeWhile_append (fun c hc => hps c (by simp [hc])) fun c hc => (he c hc).2.1).1
    simp [Token.placesOf, hps p (by simp), htake]
  · have hread := Decimal.read?_render d hd
    rw [Decimal.render, hp] at hread
    simp [Token.ofNumeral?, hread]

theorem spells_quoted {s : String} {escape : Char → List Char}
    (h : ∀ c ∈ s.toList, Token.Denotes (escape c) c) :
    Spells ('\'' :: (s.toList.flatMap escape ++ ['\''])) [.string s] := by
  intro rest us _ hu
  have hs : ∀ pos, Token.scan '\'' (s.toList.flatMap escape ++ '\'' :: rest) pos =
      .ok ⟨.string s, '\'' :: (s.toList.flatMap escape ++ ['\'']), rest⟩ := by
    intro pos
    have hmark : Token.mark? '\'' = none := rfl
    simp [Token.scan, hmark, Token.stringContent_quoted h]
  have := Reads.token (by decide) hs hu
  simpa using this

theorem denotes_of_isPlain {s : String} (h : (Literal.string s).isPlain) :
    ∀ c ∈ s.toList, Token.Denotes (Literal.escapeQuote c) c := by
  have h : '\\' ∉ s.toList := by simpa [Literal.isPlain] using h
  exact fun c hc => Token.denotes_escapeQuote (ne_of_mem_of_not_mem hc h)

theorem Literal.spells {l : Literal} (h : l.isPlain) : Spells l.render [literalToken l] := by
  obtain ⟨htrue, hfalse, hnull⟩ := isWord_of_true_false_null
  cases l with
  | null => exact .word hnull
  | boolean b => cases b with
    | true => exact .word htrue
    | false => exact .word hfalse
  | integer n => exact spells_integer n
  | decimal d => exact spells_decimal (by simpa [isPlain] using h)
  | string s => exact spells_quoted (denotes_of_isPlain h)

/-! ## Names -/

namespace Expression

mutual

/-- Whether the names in an expression are ones that a scan can give. -/
def Named : Expression → Prop
  | .literal _ => True
  | .path p => p.segments ≠ [] ∧ ∀ name ∈ p.segments, Token.IsName name
  | .pipe source filter args => Named source ∧ Token.IsName filter ∧ AreNamed args
  | .conditional c t f => Named c ∧ Named t ∧ Named f
  | .interpolation _ => False

def AreNamed : List Expression → Prop
  | [] => True
  | e :: es => Named e ∧ AreNamed es

end

end Expression

/-- The names among the tokens are ones that a scan can give. -/
def NamesIn (ts : List Token) : Prop := ∀ name, .identifier name ∈ ts → Token.IsName name

theorem Token.ofWord_eq_identifier {word : List Char} {name : String}
    (h : ofWord word = .identifier name) : word = name.toList := by
  simp only [ofWord] at h
  split_ifs at h
  obtain rfl : String.ofList word = name := by simpa using h
  simp

theorem Token.identifier_ne_of_scanNumeral {sign cs : List Char} {pos : Nat} {name : String}
    {s : Scan} (h : scanNumeral sign cs pos = .ok s) : s.token ≠ .identifier name := by
  simp only [scanNumeral] at h
  split at h
  · next t ht =>
    cases h
    rintro rfl
    unfold ofNumeral? at ht
    split_ifs at ht <;> simp at ht
  · cases h

theorem Token.isName_of_scan {c : Char} {r : List Char} {pos : Nat} {name : String} {s : Scan}
    (hc : Text.isBlank c = false) (h : scan c r pos = .ok s) (ht : s.token = .identifier name) :
    IsName name := by
  unfold scan at h
  split at h
  · next t hm =>
    cases h
    unfold mark? at hm
    split at hm <;> simp_all
  next hm =>
  split_ifs at h with hq hd hn hs hb
  · split at h <;> cases h
    cases ht
  · exact absurd ht (identifier_ne_of_scanNumeral h)
  · exact absurd ht (identifier_ne_of_scanNumeral h)
  · cases h
    have hw : IsWord (c :: r.takeWhile Identifier.isContinue) :=
      ⟨⟨hc, hm, hq, by simpa using hd, hs⟩, fun d hd => List.all_eq_true.1 (List.all_takeWhile ..) d hd⟩
    have hname := ofWord_eq_identifier ht
    exact ⟨hname ▸ hw, hname ▸ ht⟩

theorem namesIn_of_scanAll {pos : Nat} {cs : List Char} {ls : List Lexeme}
    (h : Lexeme.scanAll pos cs = .ok ls) : NamesIn (ls.map Lexeme.token) := by
  fun_induction Lexeme.scanAll pos cs generalizing ls with
  | case1 => cases h; simp [NamesIn]
  | case2 pos c r hc ih => exact ih h
  | case3 => cases h
  | case4 pos c r hc s hs hlt ih =>
    obtain ⟨ls', hr, rfl⟩ := exists_of_map_ok h
    intro name hname
    rcases List.mem_cons.1 hname with hname | hname
    · exact Token.isName_of_scan (by simpa using hc) hs hname.symm
    · exact ih hr name hname

theorem NamesIn.of_append {ts us : List Token} (h : NamesIn (ts ++ us)) : NamesIn ts ∧ NamesIn us :=
  ⟨fun n hn => h n (List.mem_append_left _ hn), fun n hn => h n (List.mem_append_right _ hn)⟩

theorem NamesIn.of_cons {t : Token} {ts : List Token} (h : NamesIn (t :: ts)) : NamesIn ts :=
  fun n hn => h n (List.mem_cons_of_mem _ hn)

theorem isName_of_mem_nameTokens {names : List String} (h : NamesIn (nameTokens names)) :
    ∀ name ∈ names, Token.IsName name := by
  induction names with
  | nil => simp
  | cons name names ih =>
    exact List.forall_mem_cons.2 ⟨h name (by simp [nameTokens]), ih h.of_cons.of_cons⟩

namespace Grammar

mutual

theorem Derivation.named (d : Derivation) (h : NamesIn d.tokens) : d.expression.Named := by
  match d with
  | .plain p => exact p.named h
  | .conditional p t f =>
    obtain ⟨hp, h⟩ := h.of_append
    obtain ⟨ht, hf⟩ := h.of_cons.of_append
    exact ⟨p.named hp, t.named ht, f.named hf.of_cons⟩

theorem Pipeline.named (p : Pipeline) (h : NamesIn p.tokens) : p.expression.Named := by
  match p with
  | .mk s cs => exact cs.named h.of_append.2 (s.named h.of_append.1)

theorem Calls.named (cs : Calls) {e : Expression} (h : NamesIn cs.tokens) (he : e.Named) :
    (cs.applyTo e).Named := by
  match cs with
  | .nil => exact he
  | .cons filter args rest =>
    obtain ⟨ha, hr⟩ := h.of_cons.of_cons.of_append
    exact rest.named hr ⟨he, h filter (by simp [Calls.tokens]), args.named ha⟩

theorem Arguments.named (as : Arguments) (h : NamesIn as.tokens) :
    Expression.AreNamed as.expressions := by
  match as with
  | .nil => exact trivial
  | .cons s rest =>
    obtain ⟨hs, hr⟩ := h.of_cons.of_append
    exact ⟨s.named hs, rest.named hr⟩

theorem Source.named (s : Source) (h : NamesIn s.tokens) : s.expression.Named := by
  match s with
  | .literal l => exact trivial
  | .path root first others =>
    exact ⟨by simp, List.forall_mem_cons.2
      ⟨h first (by simp [Source.tokens]), isName_of_mem_nameTokens h.of_cons.of_cons⟩⟩
  | .parens d => exact d.named h.of_cons.of_append.1

end

/-! ## Derivations of expressions -/

/-- One more filter at the end of a pipeline. -/
def Calls.snoc (filter : String) (args : Arguments) : Calls → Calls
  | .nil => .cons filter args .nil
  | .cons f as rest => .cons f as (rest.snoc filter args)

@[simp] theorem Calls.tokens_snoc (filter : String) (args : Arguments) (cs : Calls) :
    (cs.snoc filter args).tokens = cs.tokens ++ .pipe :: .identifier filter :: args.tokens := by
  match cs with
  | .nil => simp [snoc, tokens]
  | .cons f as rest => simp [snoc, tokens, tokens_snoc filter args rest]

@[simp] theorem Calls.applyTo_snoc (filter : String) (args : Arguments) (cs : Calls)
    (e : Expression) :
    (cs.snoc filter args).applyTo e = .pipe (cs.applyTo e) filter args.expressions := by
  match cs with
  | .nil => rfl
  | .cons f as rest => exact applyTo_snoc filter args rest _

end Grammar

/-- A text in parentheses spells a source. -/
theorem Spells.parens {cs : List Char} {d : Derivation} (h : Spells cs d.tokens) :
    Spells ('(' :: (cs ++ [')'])) (Source.parens d).tokens := by
  have hclose : Spells [')'] [.rightParen] := .mark rfl (by decide +kernel) .nil
  exact .mark rfl (by decide +kernel) (h.before hclose (by decide +kernel))

/-- The texts of three sources make up the text of a conditional. -/
theorem Spells.conditional {c t f : List Char} {s whenTrue whenFalse : Source}
    (hs : Spells c s.tokens) (ht : Spells t whenTrue.tokens) (hf : Spells f whenFalse.tokens) :
    Spells (c ++ ' ' :: '?' :: ' ' :: (t ++ ' ' :: ':' :: ' ' :: f))
      (Derivation.conditional (.mk s .nil) whenTrue whenFalse).tokens := by
  have hcolon := (hf.space.mark (c := ':') rfl (by decide +kernel)).space
  have hbranches := ht.before hcolon (by decide +kernel)
  have hquestion := (hbranches.space.mark (c := '?') rfl (by decide +kernel)).space
  simpa [Derivation.tokens, Pipeline.tokens, Calls.tokens] using
    hs.before hquestion (by decide +kernel)

namespace Expression

theorem spells_path {p : Path} (hne : p.segments ≠ []) (h : ∀ name ∈ p.segments, Token.IsName name) :
    ∃ s : Source, s.expression = .path p ∧ Spells p.render s.tokens := by
  obtain ⟨root, names⟩ := p
  obtain ⟨first, others, rfl⟩ := List.exists_cons_of_ne_nil hne
  have names_read : ∀ first others, (∀ name ∈ first :: others, Token.IsName name) →
      Spells (Path.renderSegments (first :: others)) (.identifier first :: nameTokens others) := by
    intro first others hn rest us hr hu
    induction others generalizing first with
    | nil => exact .name (hn first (by simp)) hr.breaks hu
    | cons name names ih =>
      have hdot : Identifier.isContinue '.' = false := by decide +kernel
      have htail := ih name fun n hm => hn n (List.mem_cons_of_mem _ hm)
      simpa [Path.renderSegments, nameTokens] using
        Reads.name (hn first (by simp)) (Token.breaks_cons hdot) (.mark rfl (by decide +kernel) htail)
  have hroot : Token.IsName root.keyword := by
    cases root <;> exact ⟨by simp [Root.keyword, Token.IsWord]; decide +kernel, by decide +kernel⟩
  refine ⟨.path root first others, rfl, ?_⟩
  exact (Spells.name hroot).before (names_read first others h).space (by decide +kernel)

/-- An expression has derivations whose tokens its text spells: as an expression, as a source with
    the parentheses that it needs there, and, unless it is a conditional, as a pipeline. -/
structure Spelled (e : Expression) : Prop where
  derivation : ∃ d : Derivation, d.expression = e ∧ Spells e.render d.tokens
  source : ∃ s : Source, s.expression = e ∧ Spells (inParens e e.render) s.tokens
  pipeline : e.isConditional = false →
    ∃ p : Pipeline, p.expression = e ∧ Spells e.render p.tokens

/-- A source spells a whole expression, too. -/
theorem Spelled.of_source {e : Expression} (he : e.isCompound = false) {s : Source}
    (hs : s.expression = e) (h : Spells e.render s.tokens) : e.Spelled := by
  have hp : Spells e.render (Pipeline.mk s .nil).tokens := by
    simpa [Pipeline.tokens, Calls.tokens] using h
  exact ⟨⟨.plain (.mk s .nil), hs, hp⟩, ⟨s, hs, by simpa [inParens, he] using h⟩,
    fun _ => ⟨.mk s .nil, hs, hp⟩⟩

/-- A compound expression becomes a source by its parentheses. -/
theorem Spelled.of_compound {e : Expression} (he : e.isCompound = true)
    (hd : ∃ d : Derivation, d.expression = e ∧ Spells e.render d.tokens)
    (hp : e.isConditional = false → ∃ p : Pipeline, p.expression = e ∧ Spells e.render p.tokens) :
    e.Spelled := by
  refine ⟨hd, ?_, hp⟩
  obtain ⟨d, rfl, h⟩ := hd
  exact ⟨.parens d, rfl, by simpa [inParens, he] using h.parens⟩

mutual

/-- The text of a plain expression with proper names spells the tokens of its derivations. -/
theorem spelled (e : Expression) (hn : e.Named) (hp : e.isPlain) : e.Spelled := by
  match e with
  | .literal l => exact .of_source rfl (s := .literal l) rfl (Literal.spells hp)
  | .path p =>
    obtain ⟨s, hs, h⟩ := spells_path hn.1 hn.2
    exact .of_source rfl hs h
  | .pipe source filter args =>
    simp only [isPlain, Bool.and_eq_true, Bool.not_eq_true'] at hp
    obtain ⟨⟨s, cs⟩, hs, h⟩ := (source.spelled hn.1 hp.1.2).pipeline hp.1.1
    obtain ⟨as, ha, hargs, hends⟩ := spelled_args args hn.2.2 hp.2
    have hfilter : Spells (filter.toList ++ renderArgs args) (.identifier filter :: as.tokens) :=
      (Spells.name hn.2.1).append hargs hends
    have hpipe : Spells (Expression.pipe source filter args).render
        (Pipeline.mk s (cs.snoc filter as)).tokens := by
      simpa [render, Pipeline.tokens] using
        h.before (hfilter.mark (c := '|') rfl (by decide +kernel)) (by decide +kernel)
    have he : (Pipeline.mk s (cs.snoc filter as)).expression = .pipe source filter args := by
      rw [← hs, ← ha]
      exact Calls.applyTo_snoc ..
    exact .of_compound rfl ⟨.plain (.mk s (cs.snoc filter as)), he, hpipe⟩ fun _ => ⟨_, he, hpipe⟩
  | .conditional c t f =>
    simp only [isPlain, Bool.and_eq_true] at hp
    obtain ⟨s, rfl, hs⟩ := (c.spelled hn.1 hp.1.1).source
    obtain ⟨whenTrue, rfl, ht⟩ := (t.spelled hn.2.1 hp.1.2).source
    obtain ⟨whenFalse, rfl, hf⟩ := (f.spelled hn.2.2 hp.2).source
    refine .of_compound rfl ⟨.conditional (.mk s .nil) whenTrue whenFalse, rfl, ?_⟩
      (by simp [isConditional])
    simpa [render] using hs.conditional ht hf

theorem spelled_args (es : List Expression) (hn : AreNamed es) (hp : areArgsPlain es) :
    ∃ as : Arguments, as.expressions = es ∧ Spells (renderArgs es) as.tokens ∧
      ∀ rest, Token.Ends rest → Token.Ends (renderArgs es ++ rest) := by
  match es with
  | [] => exact ⟨.nil, rfl, .nil, fun _ h => h⟩
  | e :: es =>
    simp only [areArgsPlain, Bool.and_eq_true] at hp
    obtain ⟨s, rfl, hs⟩ := (e.spelled hn.1 hp.1).source
    obtain ⟨as, rfl, hargs, hends⟩ := spelled_args es hn.2 hp.2
    refine ⟨.cons s as, rfl, ?_, fun rest _ => Token.ends_cons (by decide +kernel)⟩
    exact (hs.append hargs hends).mark (c := ':') rfl (by decide +kernel)

end

end Expression

end LiveForm
