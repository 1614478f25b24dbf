/-
  Templates from the text of their expressions.

  The text of a plain expression, put in braces, is a template of the same expression. The splitter
  has to find the closing brace (`Passes`: outside of quotes there is no brace, and quotes are
  closed), and then the body is read by one of its derivations (`IsBody` is both). In an
  interpolation the texts between the bodies are protected by backslashes. That is enough because
  the splitter never leaves a backslash at the end of a text that a body follows (`Proper`).
-/
import LiveForm.Proofs.Spelling

namespace LiveForm

open Grammar

/-- The text of an expression as a template: in braces, unless it has parts of its own. -/
def Expression.toTemplate : Expression → String
  | .interpolation parts => String.ofList (renderParts parts)
  | e => String.ofList ('{' :: (e.render ++ ['}']))

namespace Segment

/-! ## Bodies -/

/-- The splitter goes through the text inside a body, and is outside of quotes after it. -/
def Passes (cs : List Char) : Prop :=
  ∀ start gathered pos rest, ∃ pos',
    splitBody start gathered none pos (cs ++ rest) =
      splitBody start (cs.reverse ++ gathered) none pos' rest

/-- A character that is neither a brace nor a quote. -/
def IsUnmarked (c : Char) : Prop := c ≠ '{' ∧ c ≠ '}' ∧ c ≠ '\'' ∧ c ≠ '"'

instance (c : Char) : Decidable (IsUnmarked c) := inferInstanceAs (Decidable (_ ∧ _))

namespace Passes

variable {a b : List Char} {c : Char}

theorem nil : Passes [] := fun _ _ pos _ => ⟨pos, rfl⟩

theorem append (ha : Passes a) (hb : Passes b) : Passes (a ++ b) := by
  intro start gathered pos rest
  obtain ⟨pos₁, h₁⟩ := ha start gathered pos (b ++ rest)
  obtain ⟨pos₂, h₂⟩ := hb start (a.reverse ++ gathered) pos₁ rest
  exact ⟨pos₂, by rw [List.append_assoc, h₁, h₂, List.reverse_append, List.append_assoc]⟩

theorem char (hc : IsUnmarked c) : Passes [c] := by
  intro start gathered pos rest
  refine ⟨pos + c.utf8Size, ?_⟩
  rw [List.singleton_append, splitBody]
  simp [hc.1, hc.2.1, hc.2.2.1, hc.2.2.2]

theorem cons (hc : IsUnmarked c) (h : Passes b) : Passes (c :: b) := (char hc).append h

theorem unmarked (h : ∀ c ∈ a, IsUnmarked c) : Passes a := by
  induction a with
  | nil => exact nil
  | cons c a ih => exact cons (h c (by simp)) (ih fun d hd => h d (by simp [hd]))

theorem parens (h : Passes a) : Passes ('(' :: (a ++ [')'])) :=
  (h.append (.char (by decide))).cons (by decide)

theorem conditional {t f : List Char} (ha : Passes a) (ht : Passes t) (hf : Passes f) :
    Passes (a ++ ' ' :: '?' :: ' ' :: (t ++ ' ' :: ':' :: ' ' :: f)) := by
  have hcolon : Passes (' ' :: ':' :: ' ' :: f) :=
    ((hf.cons (by decide)).cons (by decide)).cons (by decide)
  exact ha.append ((((ht.append hcolon).cons (by decide)).cons (by decide)).cons (by decide))

/-- A text that is given is looked through. -/
theorem plain (h : a.all fun c => decide (IsUnmarked c)) : Passes a :=
  unmarked fun c hc => of_decide_eq_true (List.all_eq_true.1 h c hc)

/-- Inside of a quote the splitter stops at the closing one only. -/
theorem splitBody_quoted {escape : Char → List Char} {s : List Char}
    (h : ∀ c ∈ s, Token.Denotes (escape c) c) (start at_ : Nat) (gathered : List Char) (pos : Nat)
    (rest : List Char) :
    ∃ pos', splitBody start gathered (some ('\'', at_)) pos (s.flatMap escape ++ '\'' :: rest) =
      splitBody start ('\'' :: ((s.flatMap escape).reverse ++ gathered)) none pos' rest := by
  induction s generalizing gathered pos with
  | nil =>
    refine ⟨pos + '\''.utf8Size, ?_⟩
    rw [List.flatMap_nil, List.nil_append, splitBody.eq_def]
    simp
  | cons c s ih =>
    obtain ⟨hc, hs⟩ := List.forall_mem_cons.1 h
    rcases hc with ⟨he, hquote, hback⟩ | ⟨d, he, -⟩
    · obtain ⟨pos', hr⟩ := ih hs (c :: gathered) (pos + c.utf8Size)
      refine ⟨pos', ?_⟩
      rw [List.flatMap_cons, he, List.singleton_append, List.cons_append, splitBody.eq_def]
      simpa [hquote, hback] using hr
    · obtain ⟨pos', hr⟩ := ih hs (d :: '\\' :: gathered) (pos + 1 + d.utf8Size)
      exact ⟨pos', by simpa [he, splitBody] using hr⟩

theorem quoted {escape : Char → List Char} {s : List Char}
    (h : ∀ c ∈ s, Token.Denotes (escape c) c) :
    Passes ('\'' :: (s.flatMap escape ++ ['\''])) := by
  intro start gathered pos rest
  obtain ⟨pos', hs⟩ := splitBody_quoted h start pos ('\'' :: gathered) (pos + '\''.utf8Size) rest
  exact ⟨pos', by simpa [splitBody] using hs⟩

end Passes

theorem isUnmarked_of_isDigit {c : Char} (h : Token.isDigit c) : IsUnmarked c := by
  refine ⟨?_, ?_, ?_, ?_⟩ <;> rintro rfl <;> exact absurd h (by decide)

theorem isUnmarked_of_isContinue {c : Char} (h : Identifier.isContinue c = true) : IsUnmarked c := by
  refine ⟨?_, ?_, ?_, ?_⟩ <;> rintro rfl <;> exact absurd h (by decide +kernel)

theorem isUnmarked_of_isStart {c : Char} (h : Identifier.isStart c = true) : IsUnmarked c := by
  refine ⟨?_, ?_, ?_, ?_⟩ <;> rintro rfl <;> exact absurd h (by decide +kernel)

theorem isUnmarked_of_mem_word {cs : List Char} (h : Token.IsWord cs) :
    ∀ c ∈ cs, IsUnmarked c := by
  obtain ⟨c, r, rfl⟩ := List.exists_cons_of_ne_nil (show cs ≠ [] by rintro rfl; exact h)
  exact List.forall_mem_cons.2
    ⟨isUnmarked_of_isStart h.1.2.2.2.2, fun d hd => isUnmarked_of_isContinue (h.2 d hd)⟩

theorem Passes.name {name : String} (h : Token.IsName name) : Passes name.toList :=
  .unmarked (isUnmarked_of_mem_word h.1)

theorem passes_literal {l : Literal} (h : l.isPlain) : Passes l.render := by
  cases l with
  | null => exact .plain (by decide)
  | boolean b => cases b <;> exact .plain (by decide)
  | integer n =>
    refine .unmarked fun c hc => ?_
    have hc : (c = '-' ∧ n.toInt < 0) ∨ c ∈ Text.digits n.toInt.natAbs := by
      by_cases hn : n.toInt < 0 <;> simpa [Literal.render, Text.ofInt, hn] using hc
    rcases hc with ⟨rfl, -⟩ | hc
    · decide
    · exact isUnmarked_of_isDigit (Text.isDigit_of_mem_digits hc)
  | decimal d =>
    have hd : d.scale ≠ 0 := by simpa [Literal.isPlain] using h
    obtain ⟨whole, places, -, -, hds, hp⟩ := Decimal.pointed_eq d.coefficient.natAbs hd
    have hdigit : ∀ c ∈ whole ++ places, IsUnmarked c :=
      fun c hc => isUnmarked_of_isDigit (Decimal.isDigit_of_mem_padded (hds ▸ hc))
    obtain ⟨hw, hps⟩ := List.forall_mem_append.1 hdigit
    have hsign : Passes (if d.coefficient < 0 then ['-'] else []) := by
      split <;> exact .plain (by decide)
    rw [Literal.render, Decimal.render, hp]
    exact hsign.append ((Passes.unmarked hw).append ((Passes.unmarked hps).cons (by decide)))
  | string s => exact .quoted (denotes_of_isPlain h)

theorem passes_segments {names : List String} (h : ∀ name ∈ names, Token.IsName name) :
    Passes (Path.renderSegments names) := by
  fun_induction Path.renderSegments names with
  | case1 => exact .nil
  | case2 name => exact .name (h name (by simp))
  | case3 name other names ih =>
    exact (Passes.name (h name (by simp))).append
      ((ih fun n hn => h n (List.mem_cons_of_mem _ hn)).cons (by decide))

theorem passes_inParens {e : Expression} {cs : List Char} (h : Passes cs) :
    Passes (Expression.inParens e cs) := by
  unfold Expression.inParens
  split
  · exact h.parens
  · exact h

mutual

theorem passes_render (e : Expression) (hn : e.Named) (hp : e.isPlain) : Passes e.render := by
  match e with
  | .literal l => exact passes_literal hp
  | .path p =>
    have hroot : Passes p.root.keyword.toList := by
      cases p.root <;> exact .plain (by decide)
    exact hroot.append ((passes_segments hn.2).cons (by decide))
  | .pipe source filter args =>
    simp only [Expression.isPlain, Bool.and_eq_true] at hp
    exact (passes_render source hn.1 hp.1.2).append
      (((Passes.name hn.2.1).append (passes_args args hn.2.2 hp.2)).cons (by decide))
  | .conditional c t f =>
    simp only [Expression.isPlain, Bool.and_eq_true] at hp
    have hc := passes_inParens (e := c) (passes_render c hn.1 hp.1.1)
    have ht := passes_inParens (e := t) (passes_render t hn.2.1 hp.1.2)
    have hf := passes_inParens (e := f) (passes_render f hn.2.2 hp.2)
    exact hc.conditional ht hf

theorem passes_args (es : List Expression) (hn : Expression.AreNamed es)
    (hp : Expression.areArgsPlain es) : Passes (Expression.renderArgs es) := by
  match es with
  | [] => exact .nil
  | e :: es =>
    simp only [Expression.areArgsPlain, Bool.and_eq_true] at hp
    exact ((passes_inParens (passes_render e hn.1 hp.1)).append (passes_args es hn.2 hp.2)).cons
      (by decide)

end

/-! ## Texts -/

/-- A text whose backslashes are no escapes: none stands before a brace. -/
def ClearOf (s rest : List Char) : Prop :=
  s.getLast? = some '\\' → ∀ c ∈ rest.head?, c ≠ '{' ∧ c ≠ '}'

theorem head?_escapeBrace_append (c : Char) (r : List Char) :
    ∀ d ∈ (Part.escapeBrace c ++ r).head?, d ≠ '{' ∧ d ≠ '}' := by
  intro d hd
  unfold Part.escapeBrace at hd
  split_ifs at hd with hopen hclose
  · obtain rfl : '\\' = d := by simpa using hd
    decide
  · obtain rfl : '\\' = d := by simpa using hd
    decide
  · obtain rfl : c = d := by simpa using hd
    exact ⟨hopen, hclose⟩

/-- The splitter takes an escaped text as that text. -/
theorem splitText_escaped {s : List Char} (gathered : List Char) (pos : Nat) {rest : List Char}
    (h : ClearOf s rest) :
    ∃ pos', splitText gathered pos (s.flatMap Part.escapeBrace ++ rest) =
      splitText (s.reverse ++ gathered) pos' rest := by
  induction s generalizing gathered pos with
  | nil => exact ⟨pos, rfl⟩
  | cons c s ih =>
    have hs : ClearOf s rest := by
      intro hl
      refine h ?_
      rw [List.getLast?_cons, hl]
      rfl
    obtain ⟨pos', hr⟩ := ih (c :: gathered)
      (if c = '{' ∨ c = '}' then pos + 2 else pos + c.utf8Size) hs
    refine ⟨pos', ?_⟩
    rw [List.reverse_cons, List.append_assoc, List.singleton_append, ← hr, List.flatMap_cons,
      List.append_assoc]
    by_cases hopen : c = '{'
    · subst hopen
      simp [Part.escapeBrace, splitText]
    by_cases hclose : c = '}'
    · subst hclose
      simp [Part.escapeBrace, splitText]
    -- The character after a backslash is no brace: braces of the text have got one of their own.
    have hnext : c = '\\' → ∀ d ∈ (s.flatMap Part.escapeBrace ++ rest).head?, d ≠ '{' ∧ d ≠ '}' := by
      rintro rfl d hd
      cases s with
      | nil => exact h rfl d hd
      | cons x s =>
        rw [List.flatMap_cons, List.append_assoc] at hd
        exact head?_escapeBrace_append x _ d hd
    rw [Part.escapeBrace, if_neg hopen, if_neg hclose, List.singleton_append, splitText.eq_def]
    split
    · next h₀ => cases h₀
    · next r h₀ =>
      obtain ⟨hc, hr⟩ := List.cons.inj h₀
      exact absurd rfl (hnext hc '{' (by rw [hr]; rfl)).1
    · next r h₀ =>
      obtain ⟨hc, hr⟩ := List.cons.inj h₀
      exact absurd rfl (hnext hc '}' (by rw [hr]; rfl)).2
    · next h₀ =>
      obtain ⟨rfl, rfl⟩ := List.cons.inj h₀
      rw [if_neg hopen, if_neg hclose, if_neg (by simp [hopen, hclose])]

/-- The shape of what the splitter gives: texts have characters, are apart, and end in no backslash
    before a body. -/
def Proper : List Segment → Prop
  | [] => True
  | [.text s] => s ≠ ""
  | .text s :: .body b start :: rest =>
    s ≠ "" ∧ s.toList.getLast? ≠ some '\\' ∧ Proper (.body b start :: rest)
  | .text _ :: .text _ :: _ => False
  | .body _ _ :: rest => Proper rest

theorem proper_flush_append {gathered : List Char} {b : String} {start : Nat} {rest : List Segment}
    (hg : gathered.head? ≠ some '\\') (h : Proper (.body b start :: rest)) :
    Proper (flush gathered ++ .body b start :: rest) := by
  unfold flush
  split
  · exact h
  · next hne =>
    refine ⟨?_, ?_, h⟩
    · simpa [← String.toList_inj] using hne
    · simpa using hg

mutual

theorem splitText_proper {gathered cs : List Char} {pos : Nat} {segments : List Segment}
    (hg : gathered.head? = some '\\' → ∀ c ∈ cs.head?, c ≠ '{' ∧ c ≠ '}')
    (h : splitText gathered pos cs = .ok segments) : Proper segments := by
  rw [splitText.eq_def] at h
  split at h
  · cases h
    unfold flush
    split
    · trivial
    · next hne => simpa [Proper, ← String.toList_inj] using hne
  · exact splitText_proper (by simp) h
  · exact splitText_proper (by simp) h
  · next c r hopen hclose =>
    split_ifs at h with hc hc'
    · subst hc
      obtain ⟨segments', hb, rfl⟩ := exists_of_map_ok h
      obtain ⟨b, start, rest, rfl, hp⟩ := splitBody_proper hb
      exact proper_flush_append (fun hl => (hg hl '{' rfl).1 rfl) hp
    · refine splitText_proper (fun hl d hd => ?_) h
      obtain rfl : c = '\\' := by simpa using hl
      obtain ⟨r, rfl⟩ : ∃ r', r = d :: r' := by
        cases r with
        | nil => cases hd
        | cons x r => exact ⟨r, by simpa using hd⟩
      constructor
      · rintro rfl
        exact hopen r rfl rfl
      · rintro rfl
        exact hclose r rfl rfl
termination_by cs.length

theorem splitBody_proper {gathered cs : List Char} {start pos : Nat} {quote : Option Quote}
    {segments : List Segment} (h : splitBody start gathered quote pos cs = .ok segments) :
    ∃ b start rest, segments = .body b start :: rest ∧ Proper (.body b start :: rest) := by
  rw [splitBody.eq_def] at h
  split at h
  · split at h <;> cases h
  · next c r =>
    split at h
    · split_ifs at h
      · split at h
        · cases h
        · exact splitBody_proper h
      all_goals exact splitBody_proper h
    · split_ifs at h
      · obtain ⟨rest, hr, rfl⟩ := exists_of_map_ok h
        have hp : Proper rest := splitText_proper (fun hl => by cases hl) hr
        exact ⟨_, _, rest, rfl, hp⟩
      all_goals exact splitBody_proper h
termination_by cs.length

end

end Segment

/-! ## Reading the text again -/

/-- A text that is scanned as the tokens of a derivation is read as its expression. -/
theorem Reads.body {cs : List Char} {d : Derivation} (h : Reads cs d.tokens) (start : Nat) :
    Parser.body (String.ofList cs) start = .ok d.expression := by
  obtain ⟨ls, hl, ht⟩ := h start
  simp only [Parser.body, String.toList_ofList, hl]
  exact whole_of_tokens ht

theorem derivation_of_body {s : String} {start : Nat} {e : Expression}
    (h : Parser.body s start = .ok e) :
    ∃ (d : Derivation) (ls : List Lexeme), d.expression = e ∧
      Lexeme.scanAll start s.toList = .ok ls ∧ ls.map Lexeme.token = d.tokens := by
  cases hl : Lexeme.scanAll start s.toList with
  | error e => simp [Parser.body, hl, bind, Except.bind] at h
  | ok ls =>
    simp only [Parser.body, hl, bind, Except.bind] at h
    obtain ⟨d, hd, ht⟩ := derivation_of_whole h
    exact ⟨d, ls, hd, rfl, ht⟩

/-- A text that, in braces, is the expression: it spells a derivation of it, and the splitter goes
    through it. -/
structure IsBody (cs : List Char) (e : Expression) : Prop where
  spells : ∃ d : Derivation, d.expression = e ∧ Spells cs d.tokens
  passes : Segment.Passes cs

namespace IsBody

variable {cs : List Char} {e : Expression}

theorem reads (h : IsBody cs e) : ∃ d : Derivation, d.expression = e ∧ Reads cs d.tokens := by
  obtain ⟨d, hd, hs⟩ := h.spells
  exact ⟨d, hd, by simpa using hs [] [] Token.ends_nil .nil⟩

theorem body (h : IsBody cs e) (start : Nat) : Parser.body (String.ofList cs) start = .ok e := by
  obtain ⟨d, rfl, hr⟩ := h.reads
  exact hr.body start

theorem not_blank (h : IsBody cs e) : cs.all Text.isBlank = false := by
  obtain ⟨d, rfl, hr⟩ := h.reads
  by_contra hb
  have hnil : d.tokens = [] :=
    hr.unique (.blanks (by simpa using hb))
  have hempty : ([] : List Lexeme).map Lexeme.token = d.tokens ++ [] := by simp [hnil]
  obtain ⟨rest, hlt, -, -⟩ := expression_complete 0 hempty (without_nil afterExpression)
  exact absurd hlt (Nat.not_lt_zero _)

end IsBody

theorem Expression.isBody_render {e : Expression} (hn : e.Named) (hp : e.isPlain) :
    IsBody e.render e :=
  ⟨(e.spelled hn hp).derivation, Segment.passes_render e hn hp⟩

/-- What is read from a body has names that a scan gave. -/
theorem named_of_body {s : String} {start : Nat} {e : Expression}
    (h : Parser.body s start = .ok e) : e.Named := by
  obtain ⟨d, ls, rfl, hl, ht⟩ := derivation_of_body h
  exact d.named (ht ▸ namesIn_of_scanAll hl)

theorem body_of_part {g : Segment} {e : Expression} (h : Parser.part g = .ok (.expression e)) :
    ∃ b start, g = .body b start ∧ Parser.body b start = .ok e := by
  cases g with
  | text s => cases h
  | body b start =>
    obtain ⟨e', hb, he⟩ := exists_of_map_ok h
    cases he
    exact ⟨b, start, rfl, hb⟩

theorem part_body_eq_expression {b : String} {start : Nat} {p : Part}
    (h : Parser.part (.body b start) = .ok p) : ∃ e, p = .expression e := by
  obtain ⟨e, -, rfl⟩ := exists_of_map_ok h
  exact ⟨e, rfl⟩

/-- The segments are read as these parts. -/
def ReadsAs (segments : List Segment) (parts : List Part) : Prop :=
  segments.mapM Parser.part = .ok parts

theorem ReadsAs.nil : ReadsAs [] [] := rfl

theorem ReadsAs.of_nil {ps : List Part} (h : ReadsAs [] ps) : ps = [] := by
  cases h
  rfl

theorem ReadsAs.cons {g : Segment} {gs : List Segment} {p : Part} {ps : List Part}
    (hg : Parser.part g = .ok p) (h : ReadsAs gs ps) : ReadsAs (g :: gs) (p :: ps) := by
  unfold ReadsAs at *
  simp [List.mapM_cons, hg, h, bind, Except.bind, pure, Except.pure]

theorem ReadsAs.of_cons {g : Segment} {gs : List Segment} {ps : List Part}
    (h : ReadsAs (g :: gs) ps) :
    ∃ p qs, Parser.part g = .ok p ∧ ReadsAs gs qs ∧ ps = p :: qs := by
  unfold ReadsAs at *
  rw [List.mapM_cons] at h
  cases hg : Parser.part g with
  | error e => simp [hg, bind, Except.bind] at h
  | ok p =>
    cases hgs : gs.mapM Parser.part with
    | error e => simp [hg, hgs, bind, Except.bind] at h
    | ok qs =>
      simp only [hg, hgs, bind, Except.bind, pure, Except.pure, Except.ok.injEq] at h
      exact ⟨p, qs, rfl, rfl, h.symm⟩

namespace Segment

theorem flush_text {s : String} (h : s ≠ "") : flush s.toList.reverse = [.text s] := by
  have hne : s.toList ≠ [] := fun hs => h (String.toList_inj.1 hs)
  rw [flush, if_neg (by simpa using hne), List.reverse_reverse, String.ofList_toList]

theorem splitText_open (gathered : List Char) (pos : Nat) (r : List Char) :
    splitText gathered pos ('{' :: r) =
      (splitBody pos [] none (pos + 1) r).map (flush gathered ++ ·) := by
  rw [splitText.eq_def]
  simp

theorem splitBody_close {gathered : List Char} (h : gathered.all Text.isBlank = false)
    (start pos : Nat) (r : List Char) :
    splitBody start gathered none pos ('}' :: r) =
      (splitText [] (pos + 1) r).map
        (.body (String.ofList gathered.reverse) (start + 1) :: ·) := by
  rw [splitBody]
  simp [h]

/-- A text in braces that the splitter goes through is split off as a body. -/
theorem splitText_body {cs : List Char} (hp : Passes cs) (hb : cs.all Text.isBlank = false)
    (gathered : List Char) (pos : Nat) (rest : List Char) :
    ∃ start pos', splitText gathered pos ('{' :: (cs ++ '}' :: rest)) =
      (splitText [] pos' rest).map (flush gathered ++ .body (String.ofList cs) start :: ·) := by
  obtain ⟨pos₁, hpass⟩ := hp pos [] (pos + 1) ('}' :: rest)
  have hblank : (cs.reverse ++ []).all Text.isBlank = false := by simpa using hb
  refine ⟨pos + 1, pos₁ + 1, ?_⟩
  rw [splitText_open, hpass, splitBody_close hblank]
  cases splitText [] (pos₁ + 1) rest with
  | error e => rfl
  | ok gs => simp [Except.map]

/-- The text of plain parts is split into segments that are read as these parts. -/
theorem splitText_renderParts {segments : List Segment} {parts : List Part}
    (hr : ReadsAs segments parts) (hs : Proper segments) (hp : Expression.arePartsPlain parts)
    (gathered : List Char) (pos : Nat) (hg : gathered = [] ∨ ∀ s ps, parts ≠ .text s :: ps) :
    ∃ gs, splitText gathered pos (Expression.renderParts parts) = .ok (flush gathered ++ gs) ∧
      ReadsAs gs parts := by
  fun_induction Proper segments generalizing parts gathered pos with
  | case1 =>
    obtain rfl := hr.of_nil
    exact ⟨[], by simp [Expression.renderParts, splitText], .nil⟩
  | case2 s =>
    obtain ⟨_, _, hs', hr', rfl⟩ := hr.of_cons
    obtain rfl := hr'.of_nil
    cases hs'
    obtain rfl : gathered = [] := hg.resolve_right fun h => h s [] rfl
    have hclear : ClearOf s.toList [] := by simp [ClearOf]
    obtain ⟨pos', ht⟩ := splitText_escaped [] pos hclear
    refine ⟨[.text s], ?_, .cons rfl .nil⟩
    rw [Expression.renderParts, Expression.renderPart, Expression.renderParts, ht, splitText]
    rw [List.append_nil, flush_text hs]
    rfl
  | case3 s b start rest ih =>
    obtain ⟨_, parts, hs', hr', rfl⟩ := hr.of_cons
    cases hs'
    obtain ⟨e, qs, rfl⟩ : ∃ e qs, parts = .expression e :: qs := by
      obtain ⟨p, qs, hb, -, rfl⟩ := hr'.of_cons
      obtain ⟨e, rfl⟩ := part_body_eq_expression hb
      exact ⟨e, qs, rfl⟩
    obtain rfl : gathered = [] := hg.resolve_right fun h => h s _ rfl
    have hclear : ClearOf s.toList (Expression.renderParts (.expression e :: qs)) :=
      fun hl => absurd hl hs.2.1
    obtain ⟨pos', ht⟩ := splitText_escaped [] pos hclear
    have hqs : Expression.arePartsPlain (.expression e :: qs) := by
      simpa [Expression.arePartsPlain, Expression.isPartPlain] using hp
    obtain ⟨gs, hgs, hread⟩ := ih hr' hs.2.2 hqs
      s.toList.reverse pos' (.inr (by simp))
    refine ⟨.text s :: gs, ?_, .cons rfl hread⟩
    rw [Expression.renderParts, Expression.renderPart, ht, List.append_nil, hgs, flush_text hs.1]
    rfl
  | case4 => exact hs.elim
  | case5 b start rest ih =>
    obtain ⟨p, qs, hb, hr', rfl⟩ := hr.of_cons
    obtain ⟨e, rfl⟩ := part_body_eq_expression hb
    obtain ⟨_, _, -, he⟩ := body_of_part hb
    simp only [Expression.arePartsPlain, Expression.isPartPlain, Bool.and_eq_true] at hp
    have hbody := e.isBody_render (named_of_body he) hp.1
    obtain ⟨start', pos', hsplit⟩ :=
      splitText_body hbody.passes hbody.not_blank gathered pos (Expression.renderParts qs)
    obtain ⟨gs, hgs, hread⟩ := ih hr' hs hp.2 [] pos' (.inl rfl)
    refine ⟨.body (String.ofList e.render) start' :: gs, ?_, .cons ?_ hread⟩
    · rw [Expression.renderParts, Expression.renderPart]
      simpa [hgs, flush, Except.map] using hsplit
    · rw [Parser.part, hbody.body]
      rfl

end Segment

theorem Parser.template_of_segments {s : String} {gs : List Segment} {ps : List Part}
    (hs : Segment.split s.toList = .ok gs) (hr : ReadsAs gs ps) :
    Parser.template s = .ok (Parser.ofParts ps) := by
  unfold ReadsAs at hr
  simp [Parser.template, hs, hr, bind, Except.bind, pure, Except.pure]

/-- The text of a single expression, put in braces, is read as that expression. -/
theorem IsBody.template {cs : List Char} {e : Expression} (h : IsBody cs e) :
    Parser.template (String.ofList ('{' :: (cs ++ ['}']))) = .ok e := by
  obtain ⟨start, pos', hs⟩ := Segment.splitText_body h.passes h.not_blank [] 0 []
  have hread : ReadsAs [.body (String.ofList cs) start] [.expression e] := by
    refine .cons ?_ .nil
    rw [Parser.part, h.body]
    rfl
  refine Parser.template_of_segments ?_ hread
  rw [String.toList_ofList, Segment.split, hs, Segment.splitText]
  rfl

theorem Expression.toTemplate_of_named {e : Expression} (hn : e.Named) :
    e.toTemplate = String.ofList ('{' :: (e.render ++ ['}'])) := by
  cases e with
  | interpolation => exact hn.elim
  | _ => rfl

instance (s : String) (err : SyntaxError) : Decidable (Parser.template s = .error err) :=
  match Parser.template s with
  | .ok _ => isFalse nofun
  | .error err' => decidable_of_iff (err' = err) (by rw [Except.error.injEq])

instance (s : String) (l : Literal) : Decidable (Parser.template s = .ok (.literal l)) :=
  match Parser.template s with
  | .ok (.literal l') =>
    decidable_of_iff (l' = l) (by rw [Except.ok.injEq, Expression.literal.injEq])
  | .ok (.path _) | .ok (.pipe ..) | .ok (.conditional ..) | .ok (.interpolation _) => isFalse nofun
  | .error _ => isFalse nofun

/-- An expression that a text is read as, and what running the parser shows of it. -/
theorem Parser.exists_of_check {s : String} {p : Expression → Prop} [DecidablePred p]
    (h : (template s).toOption.any fun e => decide (p e)) : ∃ e, template s = .ok e ∧ p e := by
  cases ht : template s with
  | error _ =>
    rw [ht] at h
    cases h
  | ok e =>
    rw [ht] at h
    exact ⟨e, rfl, of_decide_eq_true h⟩

/-- The text of a plain expression that was read from a template is, as a template, read as that
    expression. -/
theorem Parser.template_toTemplate {s : String} {e : Expression} (h : Parser.template s = .ok e)
    (hp : e.isPlain) : Parser.template e.toTemplate = .ok e := by
  cases hs : Segment.split s.toList with
  | error e => simp [Parser.template, hs, bind, Except.bind] at h
  | ok gs =>
    cases hr : gs.mapM Parser.part with
    | error e => simp [Parser.template, hs, hr, bind, Except.bind] at h
    | ok ps =>
      cases (Parser.template_of_segments hs hr).symm.trans h
      have hproper : Segment.Proper gs := Segment.splitText_proper (fun hl => by cases hl) hs
      match ps, hr with
      | [], _ =>
        exact (Expression.isBody_render (e := .literal (.string "")) trivial (by decide)).template
      | [.text t], _ =>
        exact (Expression.isBody_render (e := .literal (.string t)) trivial hp).template
      | [.expression e], hr =>
        obtain ⟨g, hg⟩ : ∃ g, Parser.part g = .ok (.expression e) := by
          match gs, hr with
          | [], hr => cases ReadsAs.of_nil hr
          | g :: gs, hr =>
            obtain ⟨p, qs, hg, -, h⟩ := ReadsAs.of_cons hr
            cases h
            exact ⟨g, hg⟩
        obtain ⟨_, _, -, hb⟩ := body_of_part hg
        have hn := named_of_body hb
        rw [Parser.ofParts, Expression.toTemplate_of_named hn]
        exact (Expression.isBody_render hn hp).template
      | p :: q :: ps, hr =>
        have hshape : Parser.ofParts (p :: q :: ps) = .interpolation (p :: q :: ps) := by
          cases p <;> rfl
        rw [hshape] at hp ⊢
        obtain ⟨gs', hgs, hread⟩ := Segment.splitText_renderParts hr hproper hp [] 0 (.inl rfl)
        have hsplit : Segment.split (Expression.interpolation (p :: q :: ps)).toTemplate.toList =
            .ok gs' := by
          rw [Expression.toTemplate, String.toList_ofList]
          exact hgs
        rw [Parser.template_of_segments hsplit hread, hshape]

theorem Parser.template_toTemplate_greeting :
    ∃ s e, template s = .ok e ∧ e.isPlain ∧ template e.toTemplate = .ok e := by
  obtain ⟨e, h, hp⟩ : ∃ e,
      template "Hi \x7bBinding Name|Default:'guest'\x7d \\\x7bx\\\x7d" = .ok e ∧ e.isPlain :=
    exists_of_check (by decide +kernel)
  exact ⟨_, e, h, hp, template_toTemplate h hp⟩

/-- What the renderer does not protect is not read back: a conditional that is piped, a string with
    a backslash, and a decimal whose places were lost to rounding. -/
theorem Parser.template_toTemplate_of_not_plain :
    (∃ e, template "\x7b(Binding A ? 1 : 2)|F\x7d" = .ok e ∧
      template e.toTemplate = .error (.unexpectedToken "|" 18)) ∧
    (∃ e, template "a\\b" = .ok e ∧ template e.toTemplate = .ok (.literal (.string "ab")) ∧
      e.same (.literal (.string "ab")) = false) ∧
    ∃ e, template "\x7b10000000000000000000000000000.5\x7d" = .ok e ∧
      template e.toTemplate = .error (.invalidNumber "10000000000000000000000000001" 1) :=
  ⟨exists_of_check (by decide +kernel), exists_of_check (by decide +kernel),
    exists_of_check (by decide +kernel)⟩

end LiveForm
