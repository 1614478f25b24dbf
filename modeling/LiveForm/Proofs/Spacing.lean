/-
  Tokens and the blanks between them.

  A token takes as many characters as it can, and what it looks at behind them is little: whether
  one more character of its kind comes, and behind the digits of a numeral whether a point with a
  digit comes. Blanks are neither, and neither is the end. So a token is read off its own characters
  alone, and blanks can be put in wherever no token is cut.

  * `Token.Tamer`: behind a text no more can be taken than behind another;
  * `Token.IsReadOff`: a token is read off its characters before every text that is tamer than the
    one that it was found before;
  * `Lexeme.Tiles`: a text is made of the characters of tokens, at their offsets, and of blanks;
  * `Lexeme.scanAll_lossless`: the tokens lie in the text one behind the other, all else is blank,
    each of them is found in its characters alone, and blanks between them change nothing.
-/
import LiveForm.Proofs.Offsets
import LiveForm.Proofs.Writing

namespace LiveForm

open Text

/-! ## What may come behind a token -/

namespace Token

variable {c : Char} {cs r rest rest' : List Char} {pos : Nat} {t : Token}

theorem not_isContinue_of_isBlank (h : isBlank c) : Identifier.isContinue c = false :=
  CharSet.contains_eq_false h (by decide +kernel)

theorem not_isDigit_of_isBlank (h : isBlank c) : isDigit c = false := by
  by_contra hd
  rw [isBlank_of_isDigit (by simpa using hd)] at h
  cases h

/-- Whatever goes on in `rest'` goes on in `rest`: with its first character, if that is no blank, and
    with places. -/
structure Tamer (rest rest' : List Char) : Prop where
  head : ∀ c ∈ rest'.head?, c ∈ rest.head? ∨ isBlank c
  places : placesOf rest = [] → placesOf rest' = []

namespace Tamer

theorem refl (rest : List Char) : Tamer rest rest := ⟨fun _ hc => .inl hc, id⟩

theorem nil (rest : List Char) : Tamer rest [] := ⟨by simp, fun _ => rfl⟩

/-- Blanks that are put in make a text tamer. -/
theorem insert {a b ws : List Char} (hws : ∀ c ∈ ws, isBlank c) :
    Tamer (a ++ b) (a ++ (ws ++ b)) := by
  cases ws with
  | nil => exact refl _
  | cons w ws =>
    have hw : isBlank w := hws w (by simp)
    match a with
    | [] =>
      refine ⟨by simp [hw], fun _ => ?_⟩
      rw [placesOf]
      rintro d r hd
      obtain rfl : w = '.' := by simpa using (List.cons.inj hd).1
      exact absurd hw (by decide)
    | [c] =>
      refine ⟨by simp, fun _ => ?_⟩
      rw [placesOf_eq, if_neg]
      simp [hasPlaces, not_isDigit_of_isBlank hw]
    | c :: d :: a =>
      refine ⟨by simp, fun h => ?_⟩
      rw [placesOf_eq] at h ⊢
      simpa [hasPlaces] using h

/-- What no first character of a text has, none of a tamer one has, unless blanks have it. -/
theorem not_of_head {p : Char → Bool} (h : Tamer rest rest') (hp : ∀ c ∈ rest.head?, p c = false)
    (hblank : ∀ c, isBlank c → p c = false) : ∀ c ∈ rest'.head?, p c = false := by
  intro c hc
  rcases h.head c hc with hc | hc
  · exact hp c hc
  · exact hblank c hc

end Tamer

/-! ## Tokens and their characters -/

/-- Before every text that is tamer than `rest`, the token is read off the characters `taken`. -/
def IsReadOff (t : Token) (taken rest : List Char) : Prop :=
  ∀ rest', Tamer rest rest' → ∃ c r, taken ++ rest' = c :: r ∧ isBlank c = false ∧
    ∀ pos, scan c r pos = .ok ⟨t, taken, rest'⟩

theorem not_head_dropWhile {p : Char → Bool} (cs : List Char) :
    ∀ c ∈ (cs.dropWhile p).head?, p c = false := by
  intro c hc
  have hhead := List.head?_dropWhile_not p cs
  rw [hc] at hhead
  simpa using hhead

theorem hasPlaces_iff : hasPlaces cs ↔ ∃ d r, cs = '.' :: d :: r ∧ isDigit d := by
  constructor
  · intro h
    obtain ⟨hdot, hdigit⟩ := of_decide_eq_true h
    obtain ⟨cs, rfl⟩ := List.head?_eq_some_iff.1 hdot
    cases cs with
    | nil => cases hdigit
    | cons d r => exact ⟨d, r, rfl, by simpa using hdigit⟩
  · rintro ⟨d, r, rfl, hd⟩
    simpa [hasPlaces] using hd

/-- The places of a numeral are the same before a tamer text. -/
theorem placesOf_tamer (hcs : ∀ c ∈ cs.head?, isDigit c = false)
    (h : Tamer (cs.drop (placesOf cs).length) rest') :
    (∀ c ∈ (placesOf cs ++ rest').head?, isDigit c = false) ∧
      placesOf (placesOf cs ++ rest') = placesOf cs := by
  by_cases hp : hasPlaces cs
  · obtain ⟨d, r, rfl, hd⟩ := hasPlaces_iff.1 hp
    have hplaces : placesOf ('.' :: d :: r) = '.' :: d :: r.takeWhile isDigit := by
      simp [placesOf, hd]
    have hdrop : ('.' :: d :: r).drop (placesOf ('.' :: d :: r)).length = r.dropWhile isDigit := by
      have happ := placesOf_append_drop ('.' :: d :: r)
      rw [hplaces] at happ ⊢
      have hsplit : '.' :: d :: r.takeWhile isDigit ++ r.dropWhile isDigit = '.' :: d :: r := by
        simp
      exact List.append_cancel_left (happ.trans hsplit.symm)
    rw [hdrop] at h
    have htake : (r.takeWhile isDigit ++ rest').takeWhile isDigit = r.takeWhile isDigit :=
      (takeWhile_append (fun c hc => List.mem_takeWhile_imp hc)
        (h.not_of_head (not_head_dropWhile r) fun _ => not_isDigit_of_isBlank)).1
    rw [hplaces]
    refine ⟨by simp; decide, ?_⟩
    simp [placesOf, hd, htake]
  · have hplaces : placesOf cs = [] := by rw [placesOf_eq, if_neg hp]
    rw [hplaces] at h ⊢
    exact ⟨h.not_of_head hcs fun _ => not_isDigit_of_isBlank, h.places hplaces⟩

/-- What comes behind a string literal makes no difference to it. -/
theorem stringContent_before {quote : Char} {value taken : List Char}
    (h : stringContent quote cs = some (value, taken, rest)) (rest' : List Char) :
    stringContent quote (taken ++ rest') = some (value, taken, rest') := by
  fun_induction stringContent quote cs generalizing value taken rest with
  | case1 => cases h
  | case2 r =>
    cases h
    rw [List.singleton_append, stringContent.eq_def]
    exact if_pos rfl
  | case3 => cases h
  | case4 d r hq ih =>
    simp only [Option.map_eq_some_iff, Prod.mk.injEq, Prod.exists] at h
    obtain ⟨v, tk, rs, hx, rfl, rfl, rfl⟩ := h
    rw [List.cons_append, List.cons_append, stringContent, if_neg hq, if_pos rfl, ih hx]
    rfl
  | case5 c r hq hb ih =>
    simp only [Option.map_eq_some_iff, Prod.mk.injEq, Prod.exists] at h
    obtain ⟨v, tk, rs, hx, rfl, rfl, rfl⟩ := h
    rw [List.cons_append, stringContent.eq_def]
    simp only [if_neg hq, if_neg hb, ih hx]
    rfl

theorem isReadOff_scanNumeral {sign : List Char} {s : Scan} (hsign : sign = [] ∨ sign = ['-'])
    (hdigit : cs.head?.any isDigit) (h : scanNumeral sign cs pos = .ok s) :
    IsReadOff s.token s.taken s.rest := by
  unfold scanNumeral at h
  dsimp only at h
  split at h
  · next t ht =>
    cases h
    intro rest' htamer
    have hdrop : (cs.takeWhile isDigit ++ cs.dropWhile isDigit).drop
        (cs.takeWhile isDigit).length = cs.dropWhile isDigit := List.drop_left
    rw [List.takeWhile_append_dropWhile] at hdrop
    rw [← List.drop_drop, hdrop] at htamer
    obtain ⟨hr, hp⟩ := placesOf_tamer (not_head_dropWhile cs) htamer
    have hne : cs.takeWhile isDigit ≠ [] := by
      cases cs with
      | nil => cases hdigit
      | cons c cs => simp [show isDigit c by simpa using hdigit]
    rw [List.append_assoc]
    exact scan_numeral hsign hne (fun c hc => List.mem_takeWhile_imp hc) hr hp ht
  · cases h

theorem isReadOff_scan {s : Scan} (hc : isBlank c = false) (h : scan c r pos = .ok s) :
    IsReadOff s.token s.taken s.rest := by
  unfold scan at h
  split at h
  · next t hm =>
    cases h
    exact fun rest' _ => ⟨c, rest', rfl, hc, fun pos => by simp [scan, hm]⟩
  next hm =>
  split_ifs at h with hquote hdigit hminus hword hbrace
  · split at h
    · next value taken rest hs =>
      cases h
      refine fun rest' _ => ⟨c, taken ++ rest', rfl, hc, fun pos => ?_⟩
      simp [scan, hm, hquote, stringContent_before hs]
    · cases h
  · exact isReadOff_scanNumeral (.inl rfl) (by simpa using hdigit) h
  · obtain rfl : c = '-' := hminus.1
    exact isReadOff_scanNumeral (.inr rfl) hminus.2 h
  · cases h
    intro rest' htamer
    have hw : IsWord (c :: r.takeWhile Identifier.isContinue) :=
      ⟨⟨hc, hm, hquote, by simpa using hdigit, hword⟩, fun d hd => List.mem_takeWhile_imp hd⟩
    have hbreaks : Breaks rest' :=
      htamer.not_of_head (not_head_dropWhile r) fun _ => not_isContinue_of_isBlank
    exact ⟨c, _, rfl, hc, fun pos => scan_word hw hbreaks pos⟩

namespace IsReadOff

theorem reads {ts : List Token} (h : IsReadOff t taken rest) (ht : Tamer rest rest')
    (hr : Reads rest' ts) : Reads (taken ++ rest') (t :: ts) := by
  obtain ⟨c, r, hcs, hc, hs⟩ := h rest' ht
  rw [hcs]
  exact .token hc hs hr

theorem ne_nil (h : IsReadOff t taken rest) : taken ≠ [] := by
  rintro rfl
  obtain ⟨c, r, hcs, -⟩ := h [] (.nil rest)
  cases hcs

/-- The characters of a token are, by themselves, that token. -/
theorem alone (h : IsReadOff t taken rest) (pos : Nat) :
    Lexeme.scanAll pos taken = .ok [⟨t, pos, pos + width taken⟩] := by
  obtain ⟨c, r, hcs, hc, hs⟩ := h [] (.nil rest)
  rw [List.append_nil] at hcs
  subst hcs
  rw [Lexeme.scanAll_of_scan hc (hs pos), Lexeme.scanAll]
  rfl

end IsReadOff

end Token

/-! ## Tokens in their places -/

/-- Blanks in front of a text make no difference. -/
theorem Reads.after_blanks {cs ws : List Char} {ts : List Token} (h : Reads cs ts)
    (hws : ∀ c ∈ ws, isBlank c) : Reads (ws ++ cs) ts := by
  induction ws with
  | nil => exact h
  | cons w ws ih =>
    obtain ⟨hw, hws⟩ := List.forall_mem_cons.1 hws
    exact .blank hw (ih hws)

namespace Lexeme

/-- The text at an offset is made of the characters of these tokens, which stand at their offsets,
    and of blanks. -/
inductive Tiles : Nat → List Char → List Lexeme → Prop
  | nil {pos : Nat} : Tiles pos [] []
  | blank {pos : Nat} {c : Char} {cs : List Char} {ls : List Lexeme} (hc : isBlank c)
      (h : Tiles (pos + c.utf8Size) cs ls) : Tiles pos (c :: cs) ls
  | token {pos : Nat} {t : Token} {taken rest : List Char} {ls : List Lexeme}
      (ht : Token.IsReadOff t taken rest) (h : Tiles (pos + width taken) rest ls) :
      Tiles pos (taken ++ rest) (⟨t, pos, pos + width taken⟩ :: ls)

variable {base pos : Nat} {cs : List Char} {ls : List Lexeme} {l : Lexeme}

theorem tiles_of_scanAll (h : scanAll pos cs = .ok ls) : Tiles pos cs ls := by
  fun_induction scanAll pos cs generalizing ls with
  | case1 =>
    cases h
    exact .nil
  | case2 pos c r hc ih => exact .blank hc (ih h)
  | case3 => cases h
  | case4 pos c r hc s hs hlt ih =>
    obtain ⟨ls', hr, rfl⟩ := exists_of_map_ok h
    rw [← Token.scan_append hs]
    exact .token (Token.isReadOff_scan (by simpa using hc) hs) (ih hr)

/-- The token stands in the text, which has offset `base`, and no other characters are needed to
    read it. -/
def StandsIn (base : Nat) (cs : List Char) (l : Lexeme) : Prop :=
  ∃ before mid after, cs = before ++ (mid ++ after) ∧ l.start = base + width before ∧
    l.stop = l.start + width mid ∧ mid ≠ [] ∧
    ∀ pos, scanAll pos mid = .ok [⟨l.token, pos, pos + width mid⟩]

namespace StandsIn

theorem base_le (h : StandsIn base cs l) : base ≤ l.start := by
  obtain ⟨before, mid, after, -, hstart, -⟩ := h
  omega

theorem start_lt_stop (h : StandsIn base cs l) : l.start < l.stop := by
  obtain ⟨before, mid, after, -, -, hstop, hne, -⟩ := h
  obtain ⟨c, mid, rfl⟩ := List.exists_cons_of_ne_nil hne
  have := c.utf8Size_pos
  rw [width_cons] at hstop
  omega

theorem stop_le (h : StandsIn base cs l) : l.stop ≤ base + width cs := by
  obtain ⟨before, mid, after, rfl, hstart, hstop, -⟩ := h
  simp only [width_append]
  omega

theorem append (taken : List Char) (h : StandsIn (base + width taken) cs l) :
    StandsIn base (taken ++ cs) l := by
  obtain ⟨before, mid, after, rfl, hstart, hrest⟩ := h
  exact ⟨taken ++ before, mid, after, by simp, by simp [hstart, Nat.add_assoc], hrest⟩

end StandsIn

/-- The offset is inside of the token, neither at its start nor at its stop. -/
def Splits (offset : Nat) (l : Lexeme) : Prop := l.start < offset ∧ offset < l.stop

instance (offset : Nat) (l : Lexeme) : Decidable (Splits offset l) :=
  inferInstanceAs (Decidable (_ ∧ _))

namespace Tiles

theorem standsIn (h : Tiles pos cs ls) : ∀ l ∈ ls, StandsIn pos cs l := by
  induction h with
  | nil => simp
  | @blank pos c cs ls hc _ ih => exact fun l hl => (ih l hl).append [c]
  | @token pos t taken rest ls ht _ ih =>
    refine List.forall_mem_cons.2 ⟨?_, fun l hl => (ih l hl).append taken⟩
    exact ⟨[], taken, rest, rfl, rfl, rfl, ht.ne_nil, ht.alone⟩

theorem pairwise (h : Tiles pos cs ls) : ls.Pairwise fun l l' => l.stop ≤ l'.start := by
  induction h with
  | nil => exact .nil
  | blank _ _ ih => exact ih
  | token _ h ih =>
    refine List.pairwise_cons.2 ⟨fun l hl => ?_, ih⟩
    exact (h.standsIn l hl).base_le

/-- A character that belongs to no token is blank. -/
theorem isBlank (h : Tiles pos cs ls) (before : List Char) {c : Char} {after : List Char}
    (hcs : cs = before ++ c :: after)
    (hout : ∀ l ∈ ls, pos + width before < l.start ∨ l.stop ≤ pos + width before) :
    Text.isBlank c := by
  induction h generalizing before with
  | nil => simp at hcs
  | @blank pos d cs ls hd _ ih =>
    cases before with
    | nil =>
      cases hcs
      exact hd
    | cons d' before =>
      obtain ⟨rfl, rfl⟩ := List.cons.inj hcs
      exact ih before rfl (by simpa [Nat.add_assoc] using hout)
  | @token pos t taken rest ls ht _ ih =>
    obtain ⟨hthis, hout⟩ := List.forall_mem_cons.1 hout
    rcases List.append_eq_append_iff.1 hcs with ⟨a, rfl, ha⟩ | ⟨b, rfl, hb⟩
    · exact ih a ha (by simpa [Nat.add_assoc] using hout)
    · -- The character is the first of `b`, if `b` is not empty.
      cases b with
      | nil => exact ih [] (by simpa using hb.symm) (by simpa using hout)
      | cons d b =>
        have := d.utf8Size_pos
        simp at hthis
        omega

theorem reads (h : Tiles pos cs ls) : Reads cs (ls.map Lexeme.token) := by
  induction h with
  | nil => exact .nil
  | blank hc _ ih => exact .blank hc ih
  | token ht _ ih => exact ht.reads (.refl _) ih

/-- Blanks can be put in at every offset that splits no token. -/
theorem insert (h : Tiles pos cs ls) {a b ws : List Char} (hcs : cs = a ++ b)
    (hws : ∀ c ∈ ws, Text.isBlank c) (hsplit : ∀ l ∈ ls, ¬Splits (pos + width a) l) :
    Reads (a ++ (ws ++ b)) (ls.map Lexeme.token) := by
  induction h generalizing a with
  | nil =>
    obtain ⟨rfl, rfl⟩ := List.append_eq_nil_iff.1 hcs.symm
    exact Reads.nil.after_blanks hws
  | @blank pos d cs ls hd h ih =>
    cases a with
    | nil =>
      cases hcs
      exact (h.reads.blank hd).after_blanks hws
    | cons d' a =>
      obtain ⟨rfl, rfl⟩ := List.cons.inj hcs
      exact .blank hd (ih rfl (by simpa [Nat.add_assoc] using hsplit))
  | @token pos t taken rest ls ht h ih =>
    obtain ⟨hthis, hothers⟩ := List.forall_mem_cons.1 hsplit
    rcases List.append_eq_append_iff.1 hcs with ⟨a', rfl, rfl⟩ | ⟨mid, rfl, rfl⟩
    · rw [List.append_assoc]
      exact ht.reads (.insert hws) (ih rfl (by simpa [Nat.add_assoc] using hothers))
    -- The offset is in front of the token, behind it, or in between.
    · cases a with
      | nil => exact (ht.reads (.refl _) h.reads).after_blanks hws
      | cons c a =>
        cases mid with
        | nil =>
          rw [List.append_nil] at ht ih
          exact ht.reads (.insert (a := []) hws) (ih (a := []) rfl (by simpa using hothers))
        | cons d mid =>
          have hc := c.utf8Size_pos
          have hd := d.utf8Size_pos
          exact absurd ⟨by simp; omega, by simp; omega⟩ hthis

end Tiles

/-- Texts that are scanned as the same tokens are read as the same expressions. -/
theorem body_of_reads {a b : List Char} {ts : List Token} {e : Expression} {start : Nat}
    (ha : Reads a ts) (hb : Reads b ts) (h : Parser.body (String.ofList a) start = .ok e)
    (start' : Nat) : Parser.body (String.ofList b) start' = .ok e := by
  obtain ⟨d, ls, rfl, hl, hd⟩ := derivation_of_body h
  obtain ⟨ls', hl', rfl⟩ := ha start
  rw [String.toList_ofList] at hl
  cases hl.symm.trans hl'
  exact (hd ▸ hb).body start'

/-- Nothing is lost between a body and its tokens. Each token stands in the body, from one character
    boundary to another, and is read off its own characters alone; the tokens come one behind the
    other, and what belongs to none is blank. Blanks can be put in wherever no token is split: the
    tokens are the same, and so is the expression. -/
theorem scanAll_lossless (h : scanAll base cs = .ok ls) :
    (∀ l ∈ ls, base ≤ l.start ∧ l.start < l.stop ∧ l.stop ≤ base + width cs ∧
      StandsIn base cs l) ∧
    (ls.Pairwise fun l l' => l.stop ≤ l'.start) ∧
    (∀ before c after, cs = before ++ c :: after →
      (∀ l ∈ ls, base + width before < l.start ∨ l.stop ≤ base + width before) → isBlank c) ∧
    ∀ a b ws, cs = a ++ b → (∀ c ∈ ws, isBlank c) → (∀ l ∈ ls, ¬Splits (base + width a) l) →
      ∀ base', (∃ ls', scanAll base' (a ++ (ws ++ b)) = .ok ls' ∧ ls'.map token = ls.map token) ∧
        ∀ e, Parser.body (String.ofList cs) base = .ok e ↔
          Parser.body (String.ofList (a ++ (ws ++ b))) base' = .ok e := by
  have htiles := tiles_of_scanAll h
  refine ⟨fun l hl => ?_, htiles.pairwise, fun before c after => htiles.isBlank before,
    fun a b ws hcs hws hsplit base' => ?_⟩
  · exact ⟨(htiles.standsIn l hl).base_le, (htiles.standsIn l hl).start_lt_stop,
      (htiles.standsIn l hl).stop_le, htiles.standsIn l hl⟩
  · have hreads := htiles.insert hcs hws hsplit
    exact ⟨hreads base', fun e =>
      ⟨fun he => body_of_reads htiles.reads hreads he base',
        fun he => body_of_reads hreads htiles.reads he base⟩⟩

/-- A body with hardly a blank. -/
def tight : List Char := "Binding Größe|Add:-1.5:'ü\x7d'".toList

theorem scanAll_lossless_tight :
    ∃ ls, scanAll 1 tight = .ok ls ∧ ls.length = 8 ∧
      (∀ l ∈ ls, 1 ≤ l.start ∧ l.start < l.stop ∧ l.stop ≤ 1 + width tight ∧
        StandsIn 1 tight l) ∧
      (ls.Pairwise fun l l' => l.stop ≤ l'.start) ∧
      ∃ ls', scanAll 4 ("Binding Größe|Add:-1.5\n\t:'ü\x7d'").toList = .ok ls' ∧
        ls'.map token = ls.map token := by
  have h : scanAll 1 tight = .ok [⟨.identifier "Binding", 1, 8⟩, ⟨.identifier "Größe", 9, 16⟩,
      ⟨.pipe, 16, 17⟩, ⟨.identifier "Add", 17, 20⟩, ⟨.colon, 20, 21⟩,
      ⟨.decimal ⟨-15, 1, by decide, by decide⟩, 21, 25⟩, ⟨.colon, 25, 26⟩,
      ⟨.string "ü\x7d", 26, 31⟩] := by decide +kernel
  obtain ⟨hstand, hpairwise, -, hinsert⟩ := scanAll_lossless h
  refine ⟨_, h, rfl, hstand, hpairwise, ?_⟩
  have hblank : ∀ c ∈ ['\n', '\t'], isBlank c := List.all_eq_true.1 (by decide +kernel)
  exact (hinsert "Binding Größe|Add:-1.5".toList ":'ü\x7d'".toList ['\n', '\t'] rfl hblank
    (by decide) 4).1

end Lexeme

end LiveForm
