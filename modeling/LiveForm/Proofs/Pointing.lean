/-
  The positions of syntax errors.

  Positions come from three layers: the splitter counts through the template, the scanner adds the
  offset of a body to offsets in it, and the parser takes the starts of tokens, an earlier point, or
  the end of the body. That end is the offset of the closing brace, so it is a character of the
  template too.

  * `Points` says of a reader that its errors are at offsets with a property, as are the tokens that
    it leaves. Each reader points where the tokens before it start (`points_expression` and its
    neighbours), and the scanner points at characters (`Lexeme.points_scanAll`);
  * `Parser.opens_of_error`: an error of a template is where a character of the template opens;
  * `Parser.errors_point`: so the template can be cut there and a caret stands under the character;
    and no cut of the splitter or of the scanner fails.
-/
import LiveForm.Proofs.Quoting

namespace LiveForm

open Text

/-- The tokens start at offsets with the property. -/
def Starts (P : Nat → Prop) (ts : List Lexeme) : Prop := ∀ l ∈ ts, P l.start

/-- An error has a position with the property, and what is read leaves tokens that start at such. -/
def Points {α : Type} (P : Nat → Prop) (rest : α → List Lexeme) : Except SyntaxError α → Prop
  | .error e => P e.position
  | .ok x => Starts P (rest x)

namespace Points

variable {α β : Type} {P : Nat → Prop} {rest : α → List Lexeme} {r : Except SyntaxError α}

theorem error {e : SyntaxError} (h : Points P rest r) (hr : r = .error e) : P e.position := by
  subst hr
  exact h

theorem starts {x : α} (h : Points P rest r) (hr : r = .ok x) : Starts P (rest x) := by
  subst hr
  exact h

theorem map {rest' : β → List Lexeme} {f : α → β} (h : Points P rest r)
    (hf : ∀ x, rest' (f x) = rest x) : Points P rest' (r.map f) := by
  cases r with
  | error e => exact h
  | ok x =>
    show Starts P (rest' (f x))
    rw [hf]
    exact h

end Points

/-! ## The scanner -/

theorem Token.position_of_scanNumeral {sign cs : List Char} {pos : Nat} {e : SyntaxError}
    (h : scanNumeral sign cs pos = .error e) : e.position = pos := by
  unfold scanNumeral at h
  dsimp only at h
  split at h <;> cases h
  rfl

theorem Token.position_of_scan {c : Char} {r : List Char} {pos : Nat} {e : SyntaxError}
    (h : scan c r pos = .error e) : e.position = pos := by
  unfold scan at h
  split at h
  · cases h
  · split at h
    · split at h <;> cases h
      rfl
    · split at h
      · exact position_of_scanNumeral h
      · split at h
        · exact position_of_scanNumeral h
        · split at h
          · cases h
          · split at h <;> cases h <;> rfl

/-- The scanner of a part of a text points at characters of the text. -/
theorem Lexeme.points_scanAll {text cs : List Char} {pos : Nat} (before after : List Char)
    (ht : text = before ++ (cs ++ after)) (hpos : pos = width before) :
    Points (Opens text) id (scanAll pos cs) := by
  fun_induction scanAll pos cs generalizing before with
  | case1 => simp [Points, Starts]
  | case2 pos c r _ ih => exact ih (before ++ [c]) (by simp [ht]) (by simp [hpos])
  | case3 pos c r _ e he =>
    subst ht hpos
    show Opens _ e.position
    rw [Token.position_of_scan he]
    exact opens_append before c _
  | case4 pos c r _ s hs _ ih =>
    have happ := Token.scan_append hs
    have hrest := ih (before ++ s.taken) (by simp [ht, ← happ]) (by simp [hpos])
    subst ht hpos
    cases hr : scanAll (width before + width s.taken) s.rest with
    | error e => rw [hr] at hrest; exact hrest
    | ok ls =>
      rw [hr] at hrest
      exact List.forall_mem_cons.2 ⟨opens_append before c _, hrest⟩

/-! ## The parser -/

section

variable {P : Nat → Prop} {stop : Nat} {ts rest : List Lexeme}

theorem Starts.offset (h : Starts P ts) (hstop : P stop) : P (Parser.offset stop ts) := by
  cases ts with
  | nil => exact hstop
  | cons l ts => exact h l (by simp)

theorem Starts.next? {t : Token} {u : Unit} {hlt : rest.length < ts.length} (h : Starts P ts)
    (hn : Parser.next? t ts = some ⟨u, rest, hlt⟩) : Starts P rest := by
  cases ts with
  | nil => cases hn
  | cons l ts =>
    simp only [Parser.next?] at hn
    split at hn <;> cases hn
    exact fun l hl => h l (List.mem_cons_of_mem _ hl)

theorem Starts.name? {name : String} {hlt : rest.length < ts.length} (h : Starts P ts)
    (hn : Parser.name? ts = some ⟨name, rest, hlt⟩) : Starts P rest := by
  unfold Parser.name? at hn
  split at hn <;> cases hn
  exact fun l hl => h l (List.mem_cons_of_mem _ hl)

end

namespace Parser

variable {P : Nat → Prop} {stop : Nat}

theorem points_segments {ts : List Lexeme} (afterDot : Option Nat) (hstop : P stop)
    (hts : Starts P ts) (hdot : ∀ p ∈ afterDot, P p) :
    Points P Prod.snd (segments stop afterDot ts) := by
  fun_induction segments stop afterDot ts with
  | case1 afterDot name _ _ dot _ ts ih =>
    obtain ⟨-, hdot, hts⟩ := by simpa [Starts] using hts
    exact (ih hts (by simpa using hdot)).map fun _ => rfl
  | case2 => exact fun l hl => hts l (List.mem_cons_of_mem _ hl)
  | case3 => exact hts _ (List.mem_cons_self ..)
  | case4 ts _ _ _ dot => exact hdot dot rfl
  | case5 ts _ _ _ => exact hts.offset hstop

mutual

/-- Errors of an expression are where its tokens start, or the body stops. -/
theorem points_expression {ts : List Lexeme} (hstop : P stop) (hts : Starts P ts) :
    Points P Shorter.rest (expression stop ts) := by
  have hcondition := points_pipeline hstop hts
  rw [expression]
  split
  · next e he => exact hcondition.error he
  · next c ts₁ h₁ hc =>
    have hts₁ : Starts P ts₁ := hcondition.starts hc
    split
    · exact hts₁
    · next ts₂ h₂ hquestion =>
      have htrue := points_source hstop (hts₁.next? hquestion)
      split
      · next e he => exact htrue.error he
      · next t ts₃ h₃ ht =>
        have hts₃ : Starts P ts₃ := htrue.starts ht
        split
        · exact hts₃.offset hstop
        · next ts₄ h₄ hcolon =>
          have hfalse := points_source hstop (hts₃.next? hcolon)
          split
          · next e he => exact hfalse.error he
          · next f ts₅ h₅ hf => exact hfalse.starts hf
termination_by 3 * ts.length + 2

theorem points_pipeline {ts : List Lexeme} (hstop : P stop) (hts : Starts P ts) :
    Points P Shorter.rest (pipeline stop ts) := by
  have hsource := points_source hstop hts
  rw [pipeline]
  split
  · next e he => exact hsource.error he
  · next node ts₁ h₁ hs =>
    have hts₁ : Starts P ts₁ := hsource.starts hs
    have hcalls := points_calls node hstop hts₁
    split
    · next e he => exact hcalls.error he
    · next piped ts₂ h₂ hc => exact hcalls.starts hc
termination_by 3 * ts.length + 1

theorem points_calls {ts : List Lexeme} (node : Expression) (hstop : P stop) (hts : Starts P ts) :
    Points P NoLonger.rest (calls stop node ts) := by
  rw [calls]
  split
  · exact hts
  · next ts₁ h₁ hpipe =>
    have hts₁ := hts.next? hpipe
    split
    · exact hts₁.offset hstop
    · next filter ts₂ h₂ hname =>
      have harguments := points_arguments hstop (hts₁.name? hname)
      split
      · next e he => exact harguments.error he
      · next args ts₃ h₃ ha =>
        have hts₃ : Starts P ts₃ := harguments.starts ha
        have hcalls := points_calls (.pipe node filter args) hstop hts₃
        split
        · next e he => exact hcalls.error he
        · next piped ts₄ h₄ hc => exact hcalls.starts hc
termination_by 3 * ts.length

theorem points_arguments {ts : List Lexeme} (hstop : P stop) (hts : Starts P ts) :
    Points P NoLonger.rest (arguments stop ts) := by
  rw [arguments]
  split
  · exact hts
  · next ts₁ h₁ hcolon =>
    have hsource := points_source hstop (hts.next? hcolon)
    split
    · next e he => exact hsource.error he
    · next arg ts₂ h₂ hs =>
      have hts₂ : Starts P ts₂ := hsource.starts hs
      have harguments := points_arguments hstop hts₂
      split
      · next e he => exact harguments.error he
      · next args ts₃ h₃ ha => exact harguments.starts ha
termination_by 3 * ts.length

theorem points_source {ts : List Lexeme} (hstop : P stop) (hts : Starts P ts) :
    Points P Shorter.rest (source stop ts) := by
  rw [source.eq_def]
  split
  · exact hstop
  · next l ts₁ =>
    obtain ⟨hl, hts₁⟩ := List.forall_mem_cons.1 hts
    split
    · split
      · exact hl
      · next root hr =>
        have hsegments := points_segments none hstop hts₁ (by simp)
        split
        · next e he => exact hsegments.error he
        · next names ts₂ hs => exact hsegments.starts hs
    · have hinner := points_expression hstop hts₁
      split
      · next e he => exact hinner.error he
      · next inner ts₂ h₂ hx =>
        have hts₂ : Starts P ts₂ := hinner.starts hx
        split
        · exact hts₂.offset hstop
        · next ts₃ h₃ hparen => exact hts₂.next? hparen
    · split
      · exact hts₁
      · exact hl
termination_by 3 * ts.length

end

theorem points_whole {ts : List Lexeme} (hstop : P stop) (hts : Starts P ts) :
    Points P (fun _ => []) (whole stop ts) := by
  have hexpression := points_expression hstop hts
  rw [whole]
  split
  · next e he => exact hexpression.error he
  · next e rest hlt he =>
    have hrest : Starts P rest := hexpression.starts he
    split
    · simp [Points, Starts]
    · exact hrest _ (List.mem_cons_self ..)

variable {t : String} {e : SyntaxError}

/-- An error in a body that stands in the template is where a character of the template opens. -/
theorem opens_of_body_error {cs : List Char} {c : Segment.Cut} {s : String} {start : Nat}
    (hfits : c.Fits cs) (hs : c.segment = .body s start) (he : body s start = .error e) :
    Opens cs e.position := by
  obtain ⟨before, after, rfl, rfl, -⟩ := hfits s start hs
  have hscan : Points (Opens (before ++ '{' :: (s.toList ++ '}' :: after))) id
      (Lexeme.scanAll (width before + 1) s.toList) :=
    Lexeme.points_scanAll (before ++ ['{']) ('}' :: after) (by simp) (by simp)
  have hstop : Opens (before ++ '{' :: (s.toList ++ '}' :: after))
      (width before + 1 + width s.toList) := by
    simpa [Nat.add_assoc] using opens_append (before ++ '{' :: s.toList) '}' after
  unfold body at he
  cases hls : Lexeme.scanAll (width before + 1) s.toList with
  | error e' =>
    rw [hls] at he
    cases he
    exact hscan.error hls
  | ok ls =>
    rw [hls] at he
    exact (points_whole hstop (hscan.starts hls)).error he

theorem body_of_part_error {s : String} {start : Nat} (h : part (.body s start) = .error e) :
    body s start = .error e := by
  rw [part] at h
  cases hb : body s start <;> rw [hb] at h <;> cases h
  rfl

theorem exists_of_mapM_error {gs : List Segment} (h : gs.mapM part = .error e) :
    ∃ g ∈ gs, part g = .error e := by
  induction gs with
  | nil => cases h
  | cons g gs ih =>
    rw [List.mapM_cons] at h
    cases hg : part g with
    | error e' =>
      rw [hg] at h
      cases h
      exact ⟨g, by simp, hg⟩
    | ok p =>
      rw [hg] at h
      cases hgs : gs.mapM part with
      | error e' =>
        rw [hgs] at h
        cases h
        obtain ⟨g', hm, hg'⟩ := ih hgs
        exact ⟨g', List.mem_cons_of_mem _ hm, hg'⟩
      | ok ps =>
        rw [hgs] at h
        cases h

/-- An error of a template is where a character of the template opens. -/
theorem opens_of_error (h : template t = .error e) : Opens t.toList e.position := by
  have hcut := Segment.cut_faithful t.toList
  unfold template at h
  generalize Segment.cut t.toList = r, hsplit : Segment.split t.toList = x at hcut
  cases hcut with
  | error hopens =>
    rw [hsplit] at h
    cases h
    exact hopens
  | @ok cuts hfits =>
    rw [hsplit] at h
    cases hparts : (cuts.map Segment.Cut.segment).mapM part with
    | ok ps => simp [hparts, bind, Except.bind, pure, Except.pure] at h
    | error e' =>
      obtain rfl : e' = e := by simpa [hparts, bind, Except.bind] using h
      obtain ⟨g, hg, he⟩ := exists_of_mapM_error hparts
      obtain ⟨c, hc, hs⟩ := List.mem_map.1 hg
      cases g with
      | text s => cases he
      | body s start => exact opens_of_body_error (hfits c hc) hs (body_of_part_error he)

end Parser

/-! ## Reports -/

theorem Text.utf8ByteSize_ofList (cs : List Char) : (String.ofList cs).utf8ByteSize = width cs := by
  induction cs with
  | nil => rfl
  | cons c cs ih =>
    rw [← List.singleton_append, String.ofList_append, String.utf8ByteSize_append, ih,
      ← String.singleton_eq_ofList, String.utf8ByteSize_singleton]
    rfl

theorem Diagnostic.column?_width (before : List Char) (c : Char) (after : List Char) :
    column? (width before) (before ++ c :: after) = some before.length := by
  induction before with
  | nil => simp [column?]
  | cons d before ih =>
    have := d.utf8Size_pos
    rw [List.cons_append, column?, if_neg (by simp; omega), if_neg (by simp), width_cons,
      Nat.add_sub_cancel_left, ih]
    rfl

/-- An error of a template points at a character of it: the offset is inside of the template and
    between characters, and the caret of a report stands under the character. On whatever text, all
    cuts of the splitter and of the scanner succeed. -/
theorem Parser.errors_point (t : String) :
    (∀ e, template t = .error e →
      e.position < t.utf8ByteSize ∧ String.Pos.Raw.IsValid t ⟨e.position⟩ ∧
        ∃ before c after, t.toList = before ++ c :: after ∧ e.position = width before ∧
          Diagnostic.column? e.position t.toList = some before.length) ∧
      (Segment.cut t.toList).map (Except.map (List.map Segment.Cut.segment)) =
        some (Segment.split t.toList) ∧
      ∀ base, Lexeme.scanAllIn base t.toList 0 = some (Lexeme.scanAll base t.toList) := by
  refine ⟨fun e he => ?_, ?_, fun base => ?_⟩
  · obtain ⟨before, c, after, ht, hpos⟩ := opens_of_error he
    have hs : t = String.ofList before ++ String.ofList (c :: after) := by
      rw [← String.ofList_append, ← ht, String.ofList_toList]
    refine ⟨?_, ?_, before, c, after, ht, hpos, ?_⟩
    · rw [hs, String.utf8ByteSize_append, utf8ByteSize_ofList, utf8ByteSize_ofList, hpos,
        width_cons]
      have := c.utf8Size_pos
      omega
    · refine String.Pos.Raw.isValid_iff_exists_append.2 ⟨_, _, hs, ?_⟩
      exact congrArg String.Pos.Raw.mk (hpos.trans (utf8ByteSize_ofList before).symm)
    · rw [ht, hpos, Diagnostic.column?_width]
  · exact (Segment.cut_faithful t.toList).erase
  · simpa using Lexeme.scanAllIn_eq base (from?_append [] t.toList)

/-- A template whose body ends where a name should stand, with characters of two bytes before. -/
def Parser.nameless : String := "é\x7b'ü' | \x7d"

theorem Parser.errors_point_nameless :
    template nameless = .error (.emptyFilterName 10) ∧ 10 < nameless.utf8ByteSize ∧
      String.Pos.Raw.IsValid nameless ⟨10⟩ ∧
      ∃ before c after, nameless.toList = before ++ c :: after ∧ 10 = width before ∧
        Diagnostic.column? 10 nameless.toList = some before.length := by
  have he : template nameless = .error (.emptyFilterName 10) := by decide +kernel
  exact ⟨he, (errors_point nameless).1 _ he⟩

end LiveForm
