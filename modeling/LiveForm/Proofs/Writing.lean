/-
  Every expression has a text.

  The renderer does not protect all that it prints. This module has a writer that does: it puts each
  operand in parentheses, and in strings it gives the quote and the backslash a backslash.

  * `Expression.write` is the text of an expression, for all expressions but interpolations;
  * `Expression.IsWritable`: the names are identifiers that stand for no literal, paths have at
    least one, and decimals have places, so that each of them is a token of its own;
  * `Parser.template_write`: what is written is, in braces, read as the same expression, whatever
    characters its strings have. So no such expression is out of reach of templates.
-/
import LiveForm.Proofs.RoundTrip

namespace LiveForm

open Grammar

/-! ## The writer -/

/-- A name that a path or a filter can have: an identifier other than the words for literals. -/
def IsWritableName (name : String) : Prop :=
  Identifier.isValid name.toList ∧ name ∉ ["true", "false", "null"]

instance (name : String) : Decidable (IsWritableName name) := inferInstanceAs (Decidable (_ ∧ _))

namespace Literal

/-- The characters of a string literal; the quote and the backslash get a backslash. -/
def escape (c : Char) : List Char := if c = '\'' ∨ c = '\\' then ['\\', c] else [c]

def write : Literal → List Char
  | .string s => '\'' :: (s.toList.flatMap escape ++ ['\''])
  | l => l.render

def IsWritable : Literal → Prop
  | .decimal d => 1 ≤ d.scale
  | _ => True

end Literal

namespace Expression

/-- A text in parentheses. -/
def parens (cs : List Char) : List Char := '(' :: (cs ++ [')'])

mutual

/-- The text of an expression with every operand in parentheses. -/
def write : Expression → List Char
  | .literal l => l.write
  | .path p => p.render
  | .pipe source filter args => parens (write source) ++ '|' :: (filter.toList ++ writeArgs args)
  | .conditional c t f =>
    parens (write c) ++ ' ' :: '?' :: ' ' :: (parens (write t) ++
      ' ' :: ':' :: ' ' :: parens (write f))
  | .interpolation parts => renderParts parts

def writeArgs : List Expression → List Char
  | [] => []
  | e :: es => ':' :: (parens (write e) ++ writeArgs es)

end

mutual

/-- Whether an expression is built from what tokens there are for, without interpolations. -/
def IsWritable : Expression → Prop
  | .literal l => l.IsWritable
  | .path p => p.segments ≠ [] ∧ ∀ name ∈ p.segments, IsWritableName name
  | .pipe source filter args => IsWritable source ∧ IsWritableName filter ∧ AreWritable args
  | .conditional c t f => IsWritable c ∧ IsWritable t ∧ IsWritable f
  | .interpolation _ => False

def AreWritable : List Expression → Prop
  | [] => True
  | e :: es => IsWritable e ∧ AreWritable es

end

end Expression

/-! ## Names -/

namespace CharSet

theorem exists_range_of_memberOf {flips : List Nat} {n : Nat} (h : memberOf flips n)
    (hn : n ≤ 0x10FFFF) : ∃ r ∈ rangesOf flips, r.1 ≤ n ∧ n ≤ r.2 := by
  fun_induction rangesOf flips with
  | case1 a b rest ih =>
    obtain ⟨ha, hb⟩ : a ≤ n ∧ (n < b ∨ memberOf rest n) := by
      simp only [memberOf] at h
      split_ifs at h with ha hb
      · exact ⟨by omega, .inl hb⟩
      · exact ⟨by omega, .inr (by simpa using h)⟩
    rcases hb with hb | hb
    · exact ⟨(a, b - 1), by simp, ha, by simp only; omega⟩
    · obtain ⟨r, hr, hle⟩ := ih hb
      exact ⟨r, List.mem_cons_of_mem _ hr, hle⟩
  | case2 a =>
    have ha : a ≤ n := by simpa [memberOf] using h
    exact ⟨(a, 0x10FFFF), by simp, ha, hn⟩
  | case3 => cases h

/-- No character is in both sets, by a look at those of the first. -/
theorem contains_eq_false {s t : CharSet} {c : Char} (hs : s.contains c)
    (h : ∀ r ∈ s.ranges, ∀ n ∈ List.range' r.1 (r.2 + 1 - r.1), memberOf t.flips n = false) :
    t.contains c = false := by
  have hc : c.toNat ≤ 0x10FFFF := by
    have := c.valid
    simp only [Char.toNat, UInt32.isValidChar, Nat.isValidChar] at this ⊢
    omega
  obtain ⟨r, hr, hle⟩ := exists_range_of_memberOf hs hc
  exact h r hr _ (List.mem_range'_1.2 (by omega))

end CharSet

/-- An identifier opens with no character of a set that neither the underscore nor any opening
    character belongs to. -/
theorem Identifier.contains_eq_false {s : CharSet} {c : Char} (h : isStart c)
    (hu : s.contains '_' = false)
    (hs : ∀ r ∈ s.ranges, ∀ n ∈ List.range' r.1 (r.2 + 1 - r.1),
      CharSet.memberOf CharSet.identifierStart.flips n = false) : s.contains c = false := by
  by_contra hc
  simp only [Bool.not_eq_false] at hc
  simp only [isStart, CharSet.contains_eq_false hc hs, Bool.or_false, beq_iff_eq] at h
  exact absurd hc (by simp [h, hu])

theorem Identifier.not_isDigit {c : Char} (h : isStart c) : Token.isDigit c = false := by
  have hdigits : (CharSet.mk [0x30, 0x3A]).contains c = false :=
    contains_eq_false h (by decide) (by decide +kernel)
  by_contra hd
  have hd : 48 ≤ c.toNat ∧ c.toNat ≤ 57 := by
    simpa [Token.isDigit, Char.le_def, UInt32.le_iff_toNat_le] using hd
  simp only [CharSet.contains, CharSet.memberOf, if_neg (show ¬c.toNat < 48 by omega),
    if_pos (show c.toNat < 58 by omega)] at hdigits
  cases hdigits

theorem Token.opensWord_of_isStart {c : Char} (h : Identifier.isStart c) : OpensWord c := by
  have hmark : mark? c = none := by
    unfold mark?
    split <;> first | rfl | exact absurd h (by decide +kernel)
  have hquote : ¬(c = '\'' ∨ c = '"') := by
    rintro (rfl | rfl) <;> exact absurd h (by decide +kernel)
  have hblank : Text.isBlank c = false :=
    Identifier.contains_eq_false h (by decide) (by decide +kernel)
  exact ⟨hblank, hmark, hquote, Identifier.not_isDigit h, h⟩

theorem IsWritableName.isName {name : String} (h : IsWritableName name) : Token.IsName name := by
  obtain ⟨hvalid, hword⟩ := h
  simp only [List.mem_cons, List.not_mem_nil, or_false, not_or] at hword
  refine ⟨?_, by simp [Token.ofWord, hword]⟩
  cases hcs : name.toList with
  | nil => simp [hcs, Identifier.isValid] at hvalid
  | cons c cs =>
    simp only [hcs, Identifier.isValid, Bool.and_eq_true, List.all_eq_true] at hvalid
    exact ⟨Token.opensWord_of_isStart hvalid.1, hvalid.2⟩

/-! ## Literals -/

theorem Literal.denotes_escape (c : Char) : Token.Denotes (escape c) c := by
  by_cases hc : c = '\'' ∨ c = '\\'
  · refine .inr ⟨c, by simp [escape, hc], ?_⟩
    rcases hc with rfl | rfl <;> rfl
  · exact .inl ⟨by simp [escape, hc], not_or.1 hc⟩

theorem Literal.isBody_write {l : Literal} (h : l.IsWritable) : IsBody l.write (.literal l) := by
  have hplain : l.isPlain → IsBody l.render (.literal l) :=
    fun hp => Expression.isBody_render (e := .literal l) trivial hp
  cases l with
  | null | boolean | integer => exact hplain rfl
  | decimal d => exact hplain (by simpa [isPlain, IsWritable, Nat.one_le_iff_ne_zero] using h)
  | string s =>
    have hs : ∀ c ∈ s.toList, Token.Denotes (escape c) c := fun c _ => denotes_escape c
    exact ⟨⟨.plain (.mk (.literal (.string s)) .nil), rfl, spells_quoted hs⟩, .quoted hs⟩

/-! ## Operands -/

/-- In parentheses, the text of an expression is the text of a source. -/
structure IsOperand (cs : List Char) (s : Source) : Prop where
  spells : Spells cs s.tokens
  passes : Segment.Passes cs

theorem IsBody.operand {cs : List Char} {e : Expression} (h : IsBody cs e) :
    ∃ s : Source, s.expression = e ∧ IsOperand (Expression.parens cs) s := by
  obtain ⟨d, rfl, hd⟩ := h.spells
  exact ⟨.parens d, rfl, hd.parens, h.passes.parens⟩

namespace Expression

theorem isBody_path {p : Path} (hne : p.segments ≠ [])
    (h : ∀ name ∈ p.segments, IsWritableName name) : IsBody p.render (.path p) := by
  have hnames : ∀ name ∈ p.segments, Token.IsName name := fun name hm => (h name hm).isName
  exact isBody_render (e := .path p) ⟨hne, hnames⟩ rfl

mutual

/-- What is written of an expression is, in braces, that expression. -/
theorem isBody_write (e : Expression) (h : e.IsWritable) : IsBody e.write e := by
  match e with
  | .literal l => exact l.isBody_write h
  | .path p => exact isBody_path h.1 h.2
  | .pipe source filter args =>
    obtain ⟨s, rfl, hs⟩ := (source.isBody_write h.1).operand
    obtain ⟨as, rfl, hargs, hpass, hends⟩ := areOperands_writeArgs args h.2.2
    have hname := h.2.1.isName
    have hfilter : Spells (filter.toList ++ writeArgs as.expressions)
        (.identifier filter :: as.tokens) := (Spells.name hname).append hargs hends
    refine ⟨⟨.plain (.mk s (.cons filter as .nil)), rfl, ?_⟩, ?_⟩
    · simpa [write, Derivation.tokens, Pipeline.tokens, Calls.tokens] using
        hs.spells.before (hfilter.mark (c := '|') rfl (by decide +kernel)) (by decide +kernel)
    · exact hs.passes.append (((Segment.Passes.name hname).append hpass).cons (by decide))
  | .conditional c t f =>
    obtain ⟨s, rfl, hs⟩ := (c.isBody_write h.1).operand
    obtain ⟨whenTrue, rfl, ht⟩ := (t.isBody_write h.2.1).operand
    obtain ⟨whenFalse, rfl, hf⟩ := (f.isBody_write h.2.2).operand
    exact ⟨⟨.conditional (.mk s .nil) whenTrue whenFalse, rfl,
      hs.spells.conditional ht.spells hf.spells⟩, hs.passes.conditional ht.passes hf.passes⟩

theorem areOperands_writeArgs (es : List Expression) (h : AreWritable es) :
    ∃ as : Arguments, as.expressions = es ∧ Spells (writeArgs es) as.tokens ∧
      Segment.Passes (writeArgs es) ∧
      ∀ rest, Token.Ends rest → Token.Ends (writeArgs es ++ rest) := by
  match es with
  | [] => exact ⟨.nil, rfl, .nil, .nil, fun _ h => h⟩
  | e :: es =>
    obtain ⟨s, rfl, hs⟩ := (e.isBody_write h.1).operand
    obtain ⟨as, rfl, hargs, hpass, hends⟩ := areOperands_writeArgs es h.2
    refine ⟨.cons s as, rfl, ?_, (hs.passes.append hpass).cons (by decide),
      fun rest _ => Token.ends_cons (by decide +kernel)⟩
    exact (hs.spells.append hargs hends).mark (c := ':') rfl (by decide +kernel)

end

end Expression

/-! ## Reading what was written -/

/-- Every writable expression is the one that its text, put in braces, is read as. -/
theorem Parser.template_write {e : Expression} (h : e.IsWritable) :
    Parser.template (String.ofList ('{' :: (e.write ++ ['}']))) = .ok e :=
  (e.isBody_write h).template

/-- An expression with a node of each kind, whose strings are made of marks. -/
def Expression.quoting : Expression :=
  .conditional
    (.pipe (.path ⟨.model, ["Owner", "Name"]⟩) "Default" [.literal (.string "it's \\ \x7bx\x7d\n")])
    (.conditional (.literal .null) (.literal (.decimal ⟨-150, 2, by decide, by decide⟩))
      (.path ⟨.context, ["Größe"]⟩))
    (.pipe (.pipe (.literal (.integer 7)) "Round" []) "Join"
      [.literal (.string "\\'"), .path ⟨.model, ["x"]⟩])

theorem Parser.template_write_quoting :
    Expression.quoting.IsWritable ∧
      Parser.template (String.ofList ('{' :: (Expression.quoting.write ++ ['}']))) =
        .ok Expression.quoting := by
  have h : Expression.quoting.IsWritable := by
    simp only [Expression.quoting, Expression.IsWritable, Expression.AreWritable,
      Literal.IsWritable]
    decide +kernel
  exact ⟨h, template_write h⟩

end LiveForm
