/-
  String literals in templates: the splitter and the scanner agree on them.

  The splitter has to know the string literals of a body, since braces inside of them do not count.
  It never reads them; it only follows quotes and backslashes up to the closing brace. The scanner
  reads them token by token, from the body alone.

  * `Segment.cut` is the splitter again, with the bodies cut out of the template by their offsets,
    and with the ranges of the literals that it has gone over;
  * `Segment.Layout` is what following the quotes finds in a text, from outside or inside of a
    literal on;
  * `Segment.cut_faithful`: all cuts succeed and give the segments of `Segment.split`, a body stands
    between its braces and has the layout that was noted, and an error points at a character;
  * `Lexeme.strings_agree`: the scanner finds the noted literals and no others, and never fails on a
    quote or a brace.
-/
import LiveForm.Proofs.Offsets
import LiveForm.Proofs.RoundTrip

namespace LiveForm

open Text

namespace Segment

/-! ## The splitter, by offsets -/

/-- A segment, and the ranges of the string literals in it. -/
structure Cut where
  segment : Segment
  quoted : List (Nat × Nat)

/-- The text gathered so far as a segment without literals; empty text is none. -/
def flushCuts (gathered : List Char) : List Cut := (flush gathered).map (⟨·, []⟩)

mutual

/-- Cuts text from offset `pos` on. Nothing if a body is cut out where it cannot be. -/
def cutText (template gathered : List Char) (pos : Nat) :
    List Char → Option (Except SyntaxError (List Cut))
  | [] => some (.ok (flushCuts gathered))
  | '\\' :: '{' :: r => cutText template ('{' :: gathered) (pos + 2) r
  | '\\' :: '}' :: r => cutText template ('}' :: gathered) (pos + 2) r
  | c :: r =>
    if c = '{' then
      (cutBody template pos none [] (pos + 1) r).map (Except.map (flushCuts gathered ++ ·))
    else if c = '}' then some (.error (.unexpectedCloseBrace pos))
    else cutText template (c :: gathered) (pos + c.utf8Size) r

/-- Cuts the body whose opening brace stands at `start`, from offset `pos` on. -/
def cutBody (template : List Char) (start : Nat) (quote : Option Quote)
    (quoted : List (Nat × Nat)) (pos : Nat) : List Char → Option (Except SyntaxError (List Cut))
  | [] =>
    match quote with
    | some (_, at_) => some (.error (.unclosedString at_))
    | none => some (.error (.unclosedBrace start))
  | c :: r =>
    match quote with
    | some (q, at_) =>
      if c = '\\' then
        match r with
        | [] => some (.error (.unclosedString at_))
        | d :: r' => cutBody template start quote quoted (pos + 1 + d.utf8Size) r'
      else if c = q then
        cutBody template start none (quoted ++ [(at_, pos + c.utf8Size)]) (pos + c.utf8Size) r
      else cutBody template start quote quoted (pos + c.utf8Size) r
    | none =>
      if c = '{' then some (.error (.nestedBrace pos))
      else if c = '}' then
        (slice? (start + 1) pos template).bind fun body =>
          if body.all isBlank then some (.error (.emptyExpression start))
          else (cutText template [] (pos + 1) r).map
            (Except.map (⟨.body (String.ofList body) (start + 1), quoted⟩ :: ·))
      else cutBody template start (if c = '\'' ∨ c = '"' then some (c, pos) else none) quoted
        (pos + c.utf8Size) r

end

/-- The cuts of a template. -/
def cut (template : List Char) : Option (Except SyntaxError (List Cut)) :=
  cutText template [] 0 template

/-! ## What following the quotes finds -/

/-- Following the quotes of a text at offset `pos` leads from one state to another, where a state is
    the literal that is open, and closes literals with these ranges. Outside of literals there are
    no braces. -/
inductive Layout : Option Quote → Nat → List Char → List (Nat × Nat) → Option Quote → Prop
  | nil {quote : Option Quote} {pos : Nat} : Layout quote pos [] [] quote
  | char {c : Char} {pos : Nat} {cs : List Char} {ranges : List (Nat × Nat)}
      {quote : Option Quote} (hc : IsUnmarked c)
      (h : Layout none (pos + c.utf8Size) cs ranges quote) : Layout none pos (c :: cs) ranges quote
  | opening {c : Char} {pos : Nat} {cs : List Char} {ranges : List (Nat × Nat)}
      {quote : Option Quote} (hc : c = '\'' ∨ c = '"')
      (h : Layout (some (c, pos)) (pos + c.utf8Size) cs ranges quote) :
      Layout none pos (c :: cs) ranges quote
  | inside {q c : Char} {at_ pos : Nat} {cs : List Char} {ranges : List (Nat × Nat)}
      {quote : Option Quote} (hq : c ≠ q) (hc : c ≠ '\\')
      (h : Layout (some (q, at_)) (pos + c.utf8Size) cs ranges quote) :
      Layout (some (q, at_)) pos (c :: cs) ranges quote
  | escaped {q d : Char} {at_ pos : Nat} {cs : List Char} {ranges : List (Nat × Nat)}
      {quote : Option Quote} (h : Layout (some (q, at_)) (pos + 1 + d.utf8Size) cs ranges quote) :
      Layout (some (q, at_)) pos ('\\' :: d :: cs) ranges quote
  | closing {q : Char} {at_ pos : Nat} {cs : List Char} {ranges : List (Nat × Nat)}
      {quote : Option Quote} (hq : q ≠ '\\') (h : Layout none (pos + q.utf8Size) cs ranges quote) :
      Layout (some (q, at_)) pos (q :: cs) ((at_, pos + q.utf8Size) :: ranges) quote

theorem Layout.append {as bs : List Char} {pos : Nat} {rs rs' : List (Nat × Nat)}
    {quote quote' quote'' : Option Quote} (h : Layout quote pos as rs quote')
    (h' : Layout quote' (pos + width as) bs rs' quote'') :
    Layout quote pos (as ++ bs) (rs ++ rs') quote'' := by
  induction h with
  | nil => exact h'
  | char hc _ ih => exact .char hc (ih (by rwa [Nat.add_assoc]))
  | opening hc _ ih => exact .opening hc (ih (by rwa [Nat.add_assoc]))
  | inside hq hc _ ih => exact .inside hq hc (ih (by rwa [Nat.add_assoc]))
  | escaped _ ih => exact .escaped (ih (by rwa [Nat.add_assoc, Nat.add_assoc]))
  | closing hq _ ih => exact .closing hq (ih (by rwa [Nat.add_assoc]))

/-! ## What the splitter cuts -/

section

variable {template gathered cs : List Char} {start pos : Nat} {quote quote' : Option Quote}
  {quoted ranges : List (Nat × Nat)}

/-- A body stands in the template between two braces, with the layout that was noted. -/
def Cut.Fits (template : List Char) (c : Cut) : Prop :=
  ∀ s start, c.segment = .body s start → ∃ before after,
    template = before ++ '{' :: (s.toList ++ '}' :: after) ∧ start = width before + 1 ∧
      Layout none start s.toList c.quoted none

/-- What the splitter by offsets should give for what the splitter gives. -/
inductive Faithful (template : List Char) :
    Option (Except SyntaxError (List Cut)) → Except SyntaxError (List Segment) → Prop
  | error {e : SyntaxError} (h : Opens template e.position) :
      Faithful template (some (.error e)) (.error e)
  | ok {cuts : List Cut} (h : ∀ c ∈ cuts, c.Fits template) :
      Faithful template (some (.ok cuts)) (.ok (cuts.map Cut.segment))

theorem Faithful.append {r : Option (Except SyntaxError (List Cut))}
    {x : Except SyntaxError (List Segment)} {cuts : List Cut} (h : Faithful template r x)
    (hc : ∀ c ∈ cuts, c.Fits template) :
    Faithful template (r.map (Except.map (cuts ++ ·))) (x.map (cuts.map Cut.segment ++ ·)) := by
  cases h with
  | error h => exact .error h
  | @ok others h =>
    have happ : Faithful template (some (.ok (cuts ++ others)))
        (.ok ((cuts ++ others).map Cut.segment)) :=
      .ok fun c hm => (List.mem_append.1 hm).elim (hc c) (h c)
    rwa [List.map_append] at happ

/-- Without the literals, the cuts are the segments. -/
theorem Faithful.erase {r : Option (Except SyntaxError (List Cut))}
    {x : Except SyntaxError (List Segment)} (h : Faithful template r x) :
    r.map (Except.map (List.map Cut.segment)) = some x := by
  cases h <;> rfl

theorem fits_flushCuts (template gathered : List Char) :
    ∀ c ∈ flushCuts gathered, c.Fits template := by
  intro c hc s start hs
  unfold flushCuts flush at hc
  split at hc <;> simp at hc
  subst hc
  cases hs

theorem segment_flushCuts (gathered : List Char) :
    (flushCuts gathered).map Cut.segment = flush gathered := by
  simp [flushCuts, Function.comp_def]

/-- The splitter has come to `pos` in the body whose brace stands at `start`, and `cs` is left. -/
structure InBody (template : List Char) (start : Nat) (gathered : List Char)
    (quote : Option Quote) (quoted : List (Nat × Nat)) (pos : Nat) (cs : List Char) : Prop where
  located : ∃ before, template = before ++ '{' :: (gathered.reverse ++ cs) ∧ start = width before
  pos_eq : pos = start + 1 + width gathered.reverse
  layout : Layout none (start + 1) gathered.reverse quoted quote
  opens : ∀ q ∈ quote, Opens template q.2

namespace InBody

theorem begin (before cs : List Char) :
    InBody (before ++ '{' :: cs) (width before) [] none [] (width before + 1) cs where
  located := ⟨before, rfl, rfl⟩
  pos_eq := rfl
  layout := .nil
  opens := by simp

theorem advance (taken : List Char)
    (h : InBody template start gathered quote quoted pos (taken ++ cs))
    (hl : Layout quote pos taken ranges quote') (hq : ∀ q ∈ quote', Opens template q.2) :
    InBody template start (taken.reverse ++ gathered) quote' (quoted ++ ranges)
      (pos + width taken) cs := by
  obtain ⟨⟨before, hb, hs⟩, rfl, hlayout, -⟩ := h
  refine ⟨⟨before, by simpa using hb, hs⟩, by simp [Nat.add_assoc], ?_, hq⟩
  rw [List.reverse_append, List.reverse_reverse]
  exact hlayout.append hl

/-- No literal has been closed on the way. -/
theorem pass (taken : List Char) (h : InBody template start gathered quote quoted pos (taken ++ cs))
    (hl : Layout quote pos taken [] quote') (hq : ∀ q ∈ quote', Opens template q.2) :
    InBody template start (taken.reverse ++ gathered) quote' quoted (pos + width taken) cs := by
  have hnext := h.advance taken hl hq
  rwa [List.append_nil] at hnext

theorem opens_start (h : InBody template start gathered quote quoted pos cs) :
    Opens template start := by
  obtain ⟨⟨before, rfl, rfl⟩, -⟩ := h
  exact opens_append before _ _

theorem opens_next {c : Char} (h : InBody template start gathered quote quoted pos (c :: cs)) :
    Opens template pos := by
  obtain ⟨⟨before, rfl, rfl⟩, rfl, -⟩ := h
  simpa [Nat.add_assoc] using opens_append (before ++ '{' :: gathered.reverse) c cs

theorem slice?_body (h : InBody template start gathered quote quoted pos cs) :
    slice? (start + 1) pos template = some gathered.reverse := by
  obtain ⟨⟨before, rfl, rfl⟩, rfl, -⟩ := h
  simpa using slice?_append (before ++ ['{']) gathered.reverse cs

theorem fits (h : InBody template start gathered none quoted pos ('}' :: cs)) :
    Cut.Fits template ⟨.body (String.ofList gathered.reverse) (start + 1), quoted⟩ := by
  obtain ⟨⟨before, hb, hs⟩, -, hlayout, -⟩ := h
  rintro s start' heq
  cases heq
  exact ⟨before, cs, by simpa using hb, by rw [hs], by simpa using hlayout⟩

/-- After the closing brace the text goes on. -/
theorem close (h : InBody template start gathered none quoted pos ('}' :: cs)) :
    ∃ before, template = before ++ cs ∧ pos + 1 = width before := by
  obtain ⟨⟨before, rfl, rfl⟩, rfl, -⟩ := h
  exact ⟨before ++ '{' :: (gathered.reverse ++ ['}']), by simp, by simp; omega⟩

end InBody

end

mutual

/-- All cuts of the splitter succeed, bodies have the layouts that are noted, and errors point at
    characters. -/
theorem cutText_faithful {template cs : List Char} {pos : Nat} (gathered before : List Char)
    (ht : template = before ++ cs) (hpos : pos = width before) :
    Faithful template (cutText template gathered pos cs) (splitText gathered pos cs) := by
  subst ht hpos
  rw [cutText.eq_def]
  split
  · have hok := Faithful.ok (fits_flushCuts (before ++ []) gathered)
    rwa [segment_flushCuts] at hok
  · next r =>
    rw [splitText]
    exact cutText_faithful _ (before ++ ['\\', '{']) (by simp) (by rw [width_append]; rfl)
  · next r =>
    rw [splitText]
    exact cutText_faithful _ (before ++ ['\\', '}']) (by simp) (by rw [width_append]; rfl)
  · next c r hescOpen hescClose =>
    rw [splitText.eq_4 gathered (width before) c r hescOpen hescClose]
    split_ifs with hopen hclose
    · subst hopen
      have hbody := cutBody_faithful (InBody.begin before r)
      have happ := hbody.append (fits_flushCuts _ gathered)
      rwa [segment_flushCuts] at happ
    · exact .error (e := .unexpectedCloseBrace _) (opens_append before c r)
    · exact cutText_faithful _ (before ++ [c]) (by simp) (by simp)
termination_by cs.length

theorem cutBody_faithful {template gathered cs : List Char} {start pos : Nat}
    {quote : Option Quote} {quoted : List (Nat × Nat)}
    (h : InBody template start gathered quote quoted pos cs) :
    Faithful template (cutBody template start quote quoted pos cs)
      (splitBody start gathered quote pos cs) := by
  cases cs with
  | nil =>
    rcases quote with _ | ⟨q, at_⟩
    · rw [cutBody, splitBody]
      exact .error (e := .unclosedBrace _) h.opens_start
    · rw [cutBody, splitBody]
      exact .error (e := .unclosedString _) (h.opens _ rfl)
  | cons c r =>
    rcases quote with _ | ⟨q, at_⟩
    -- Outside of literals braces count, and a quote opens a literal.
    · rw [splitBody, cutBody.eq_def]
      dsimp only
      by_cases hopen : c = '{'
      · rw [if_pos hopen, if_pos hopen]
        exact .error (e := .nestedBrace _) h.opens_next
      rw [if_neg hopen, if_neg hopen]
      by_cases hclose : c = '}'
      · subst hclose
        rw [if_pos rfl, if_pos rfl, h.slice?_body, Option.bind_some, List.all_reverse]
        split_ifs
        · exact .error (e := .emptyExpression _) h.opens_start
        · obtain ⟨before, ht, hpos⟩ := h.close
          have happ := (cutText_faithful [] before ht hpos).append
            (List.forall_mem_singleton.2 h.fits)
          exact happ
      rw [if_neg hclose, if_neg hclose]
      by_cases hquote : c = '\'' ∨ c = '"'
      · rw [if_pos hquote]
        refine cutBody_faithful (h.pass [c] (.opening hquote .nil) fun q hq => ?_)
        cases hq
        exact h.opens_next
      · rw [if_neg hquote]
        have hc : IsUnmarked c := ⟨hopen, hclose, not_or.1 hquote⟩
        exact cutBody_faithful (h.pass [c] (.char hc .nil) (by simp))
    -- Inside of a literal its own quote closes it, and a backslash takes a character along.
    · by_cases hc : c = '\\'
      · subst hc
        cases r with
        | nil =>
          rw [cutBody, splitBody, if_pos rfl, if_pos rfl]
          exact .error (e := .unclosedString _) (h.opens _ rfl)
        | cons d r =>
          rw [cutBody, splitBody, if_pos rfl, if_pos rfl]
          have hnext := h.pass ['\\', d] (.escaped .nil) h.opens
          rw [width_cons, ← Nat.add_assoc] at hnext
          exact cutBody_faithful hnext
      · rw [cutBody.eq_def, splitBody.eq_def]
        dsimp only
        rw [if_neg hc, if_neg hc]
        split_ifs with hq
        · subst hq
          exact cutBody_faithful (h.advance [c] (.closing hc .nil) (by simp))
        · exact cutBody_faithful (h.pass [c] (.inside hq hc .nil) h.opens)
termination_by cs.length

end

theorem cut_faithful (template : List Char) :
    Faithful template (cut template) (split template) :=
  cutText_faithful [] [] rfl rfl

/-! ## What the scanner finds -/

section

variable {cs taken rest : List Char} {pos : Nat} {ranges : List (Nat × Nat)}

theorem Layout.drop (h : Layout none pos (taken ++ rest) ranges none)
    (ht : ∀ c ∈ taken, IsUnmarked c) : Layout none (pos + width taken) rest ranges none := by
  induction taken generalizing pos with
  | nil => exact h
  | cons c taken ih =>
    obtain ⟨hc, ht⟩ := List.forall_mem_cons.1 ht
    cases h with
    | char _ h =>
      rw [width_cons, ← Nat.add_assoc]
      exact ih h ht
    | opening hquote _ => exact absurd hquote (not_or.2 hc.2.2)

/-- Inside of a literal the reader of strings closes it where the splitter does. -/
theorem Layout.stringContent {q : Char} {at_ : Nat} (h : Layout (some (q, at_)) pos cs ranges none)
    (hq : '\\' ≠ q) : ∃ value taken rest ranges',
      Token.stringContent q cs = some (value, taken, rest) ∧
        ranges = (at_, pos + width taken) :: ranges' ∧
        Layout none (pos + width taken) rest ranges' none := by
  fun_induction Token.stringContent q cs generalizing pos ranges with
  | case1 => cases h
  | case2 r =>
    cases h with
    | inside hne => exact absurd rfl hne
    | escaped => exact absurd rfl hq
    | closing _ h => exact ⟨[], [q], r, _, rfl, rfl, h⟩
  | case3 =>
    cases h with
    | inside _ hne => exact absurd rfl hne
    | closing hne => exact absurd rfl hne
  | case4 d r _ ih =>
    cases h with
    | inside _ hne => exact absurd rfl hne
    | closing hne => exact absurd rfl hne
    | escaped h =>
      obtain ⟨value, taken, rest, ranges', hs, hr, hl⟩ := ih h
      rw [Nat.add_assoc, Nat.add_assoc] at hr hl
      exact ⟨Token.unescape d :: value, '\\' :: d :: taken, rest, ranges', by rw [hs]; rfl, hr, hl⟩
  | case5 c r hne hback ih =>
    cases h with
    | inside _ _ h =>
      obtain ⟨value, taken, rest, ranges', hs, hr, hl⟩ := ih h
      rw [Nat.add_assoc] at hr hl
      exact ⟨c :: value, c :: taken, rest, ranges', by rw [hs]; rfl, hr, hl⟩
    | escaped => exact absurd rfl hback
    | closing => exact absurd rfl hne

end

end Segment

/-- An error that says that a quote or a brace stands where none can. -/
def SyntaxError.BlamesMark : SyntaxError → Prop
  | .unclosedString _ | .nestedBrace _ => True
  | .invalidCharacter c _ => c = '}'
  | _ => False

namespace Token

open Segment

variable {c : Char} {pos : Nat}

/-- The scan of a token other than a string has gone over no quotes and braces. -/
def IsPlainScan : Except SyntaxError Scan → Prop
  | .error e => ¬e.BlamesMark
  | .ok s => (∀ v, s.token ≠ .string v) ∧ ∀ d ∈ s.taken, IsUnmarked d

theorem isUnmarked_of_mem_places {cs : List Char} {d : Char} (hd : d ∈ placesOf cs) :
    IsUnmarked d := by
  rw [placesOf_eq] at hd
  split_ifs at hd
  · rcases List.mem_cons.1 hd with rfl | hd
    · decide
    · exact isUnmarked_of_isDigit (List.mem_takeWhile_imp hd)
  · cases hd

theorem not_string_of_ofNumeral? {sign digits places : List Char} {t : Token}
    (h : ofNumeral? sign digits places = some t) (v : String) : t ≠ .string v := by
  unfold ofNumeral? at h
  split at h <;> obtain ⟨_, -, rfl⟩ := Option.map_eq_some_iff.1 h <;> simp

theorem isPlainScan_scanNumeral {sign : List Char} (hs : ∀ c ∈ sign, IsUnmarked c)
    (cs : List Char) (pos : Nat) : IsPlainScan (scanNumeral sign cs pos) := by
  unfold scanNumeral
  dsimp only
  split
  · next t ht =>
    refine ⟨not_string_of_ofNumeral? ht, fun d hd => ?_⟩
    rcases List.mem_append.1 hd with hd | hd
    · rcases List.mem_append.1 hd with hd | hd
      · exact hs d hd
      · exact isUnmarked_of_isDigit (List.mem_takeWhile_imp hd)
    · exact isUnmarked_of_mem_places hd
  · exact id

theorem not_string_of_mark? {t : Token} (h : mark? c = some t) (v : String) : t ≠ .string v := by
  unfold mark? at h
  split at h <;> cases h <;> simp

theorem not_string_ofWord (word : List Char) (v : String) : ofWord word ≠ .string v := by
  unfold ofWord
  dsimp only
  split_ifs <;> simp

/-- What opens with no quote and no brace holds none. -/
theorem isPlainScan_scan (hc : IsUnmarked c) (r : List Char) (pos : Nat) :
    IsPlainScan (scan c r pos) := by
  unfold scan
  split
  · next t ht => exact ⟨not_string_of_mark? ht, by simpa using hc⟩
  · rw [if_neg (not_or.2 hc.2.2)]
    split_ifs with hdigit hminus hword hopen
    · exact isPlainScan_scanNumeral (by simp) _ _
    · exact isPlainScan_scanNumeral (by simpa using hc) _ _
    · refine ⟨not_string_ofWord _, fun d hd => ?_⟩
      rcases List.mem_cons.1 hd with rfl | hd
      · exact hc
      · exact isUnmarked_of_isContinue (List.mem_takeWhile_imp hd)
    · exact absurd hopen hc.1
    · exact hc.2.1

/-- A quote outside of literals opens the next one. -/
theorem scan_of_quote {r : List Char} {ranges : List (Nat × Nat)} (hc : c = '\'' ∨ c = '"')
    (h : Layout (some (c, pos)) (pos + c.utf8Size) r ranges none) :
    ∃ value taken rest ranges', scan c r pos = .ok ⟨.string value, taken, rest⟩ ∧
      ranges = (pos, pos + width taken) :: ranges' ∧
      Layout none (pos + width taken) rest ranges' none := by
  have hback : '\\' ≠ c := by rcases hc with rfl | rfl <;> decide
  have hmark : mark? c = none := by rcases hc with rfl | rfl <;> rfl
  obtain ⟨value, taken, rest, ranges', hs, hr, hl⟩ := h.stringContent hback
  rw [Nat.add_assoc] at hr hl
  refine ⟨String.ofList value, c :: taken, rest, ranges', ?_, hr, hl⟩
  rw [scan, hmark]
  dsimp only
  rw [if_pos hc, hs]

end Token

namespace Lexeme

/-- The range of a string literal. -/
def stringRange? : Lexeme → Option (Nat × Nat)
  | ⟨.string _, start, stop⟩ => some (start, stop)
  | _ => none

/-- The scanner has found these literals, or has failed on something else. -/
def FindsStrings (ranges : List (Nat × Nat)) : Except SyntaxError (List Lexeme) → Prop
  | .error e => ¬e.BlamesMark
  | .ok ls => ls.filterMap stringRange? = ranges

theorem stringRange?_eq_none {l : Lexeme} (h : ∀ v, l.token ≠ .string v) :
    stringRange? l = none := by
  unfold stringRange?
  split
  · next v _ _ => exact absurd rfl (h v)
  · rfl

theorem FindsStrings.cons {l : Lexeme} {ranges ranges' : List (Nat × Nat)}
    {r : Except SyntaxError (List Lexeme)} (h : FindsStrings ranges r)
    (hl : ranges' = (stringRange? l).toList ++ ranges) :
    FindsStrings ranges' (r.map (l :: ·)) := by
  cases r with
  | error e => exact h
  | ok ls =>
    subst hl
    show (l :: ls).filterMap stringRange? = _
    rw [← h]
    cases hr : stringRange? l <;> simp [hr]

/-- Where following the quotes finds literals, the scanner finds them. -/
theorem findsStrings_scanAll {pos : Nat} {cs : List Char} {ranges : List (Nat × Nat)}
    (h : Segment.Layout none pos cs ranges none) : FindsStrings ranges (scanAll pos cs) := by
  fun_induction scanAll pos cs generalizing ranges with
  | case1 => cases h; rfl
  | case2 pos c r hblank ih =>
    cases h with
    | char _ h => exact ih h
    | opening hc => rcases hc with rfl | rfl <;> exact absurd hblank (by decide +kernel)
  | case3 pos c r _ e he =>
    cases h with
    | char hc _ =>
      have hplain := Token.isPlainScan_scan hc r pos
      rw [he] at hplain
      exact hplain
    | opening hc h =>
      obtain ⟨_, _, _, _, hs, -⟩ := Token.scan_of_quote hc h
      rw [hs] at he
      cases he
  | case4 pos c r _ s hs _ ih =>
    cases h with
    | char hc h =>
      have hplain := Token.isPlainScan_scan hc r pos
      rw [hs] at hplain
      have htaken : Segment.Layout none pos (s.taken ++ s.rest) ranges none := by
        rw [Token.scan_append hs]
        exact .char hc h
      refine (ih (htaken.drop hplain.2)).cons ?_
      rw [stringRange?_eq_none hplain.1]
      rfl
    | opening hc h =>
      obtain ⟨value, taken, rest, ranges', hs', rfl, hl⟩ := Token.scan_of_quote hc h
      obtain rfl := Except.ok.inj (hs.symm.trans hs')
      exact (ih hl).cons rfl

/-- Of every template that the splitter takes, and every body in it: the scanner never fails at a
    string that is not closed, at an opening or at a closing brace; and if it takes the body, its
    string literals have the ranges of those that the splitter has gone over. -/
theorem strings_agree {template : String} {segments : List Segment}
    (h : Segment.split template.toList = .ok segments) :
    ∃ cuts, Segment.cut template.toList = some (.ok cuts) ∧
      cuts.map Segment.Cut.segment = segments ∧
      ∀ c ∈ cuts, ∀ s start, c.segment = .body s start →
        (∀ e, scanAll start s.toList = .error e →
          ∀ p, e ≠ .unclosedString p ∧ e ≠ .nestedBrace p ∧ e ≠ .invalidCharacter '}' p) ∧
        ∀ ls, scanAll start s.toList = .ok ls → ls.filterMap stringRange? = c.quoted := by
  have hcut := Segment.cut_faithful template.toList
  rw [h] at hcut
  generalize hr : Segment.cut template.toList = r at hcut
  cases hcut with
  | ok hfits =>
    refine ⟨_, rfl, rfl, fun c hc s start hs => ?_⟩
    obtain ⟨_, _, -, -, hlayout⟩ := hfits c hc s start hs
    have hfinds := findsStrings_scanAll hlayout
    constructor
    · rintro e he p
      rw [he] at hfinds
      refine ⟨?_, ?_, ?_⟩ <;> rintro rfl <;> exact hfinds (by simp [SyntaxError.BlamesMark])
    · intro ls hls
      rwa [hls] at hfinds

/-- A body with quotes of the other kind, a quote and a backslash after backslashes, and a brace in a
    literal. -/
def mixedQuotes : String := "Binding n|F:'it\\'s \"\x7d\"':\"\\\\\""

theorem strings_agree_mixedQuotes :
    Segment.split ("é \x7b" ++ mixedQuotes ++ "\x7d").toList =
        .ok [.text "é ", .body mixedQuotes 4] ∧
      ∃ cuts ls, Segment.cut ("é \x7b" ++ mixedQuotes ++ "\x7d").toList = some (.ok cuts) ∧
        scanAll 4 mixedQuotes.toList = .ok ls ∧
        ls.filterMap stringRange? = [(16, 27), (28, 32)] ∧
        ∃ c ∈ cuts, c.segment = .body mixedQuotes 4 ∧ c.quoted = [(16, 27), (28, 32)] := by
  have hsplit : Segment.split ("é \x7b" ++ mixedQuotes ++ "\x7d").toList =
      .ok [.text "é ", .body mixedQuotes 4] := by decide +kernel
  have hscan : (scanAll 4 mixedQuotes.toList).map (·.filterMap stringRange?) =
      .ok [(16, 27), (28, 32)] := by decide +kernel
  obtain ⟨cuts, hcut, hsegments, hagree⟩ := strings_agree hsplit
  have hbody : Segment.body mixedQuotes 4 ∈ cuts.map Segment.Cut.segment := by simp [hsegments]
  obtain ⟨c, hc, hs⟩ := List.mem_map.1 hbody
  cases hls : scanAll 4 mixedQuotes.toList with
  | error e => rw [hls] at hscan; cases hscan
  | ok ls =>
    rw [hls] at hscan
    have hranges := Except.ok.inj hscan
    have hquoted := (hagree c hc mixedQuotes 4 hs).2 ls hls
    exact ⟨hsplit, cuts, ls, hcut, rfl, hranges, c, hc, hs, hquoted.symm.trans hranges⟩

end Lexeme

end LiveForm
