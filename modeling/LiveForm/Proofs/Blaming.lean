/-
  Where the errors of the parser point.

  The parser reads from left to right and looks no further than at the next token. So nothing that
  it makes of some tokens changes with the tokens after the next one: what it has read it reads
  again (`Retraces`), and where it has failed it fails again (`FailsAt`). And what it has read when
  it fails is the beginning of an expression, since each of its readers could still be satisfied.

  * `Along`: two lists of lexemes have the same tokens, up to given rests and at their heads;
  * `retraces_expression` and its neighbours: one lemma for each reader, over all that it looks at;
  * `fails_expression` and its neighbours: the tokens before an error can be completed to what the
    reader reads, with the next token they cannot, and the error has the offset of that token;
  * `Parser.blames_first_wrong`: so the error of a list of tokens is at the first token that no
    accepted list has there.
-/
import LiveForm.Proofs.Grammar
import Mathlib.Data.List.TakeWhile

namespace LiveForm

open Grammar

/-! ## Lists with the same beginning -/

/-- The lists have the same tokens up to the rests `us` and `us'`, and the same token next. -/
inductive Along (us us' : List Lexeme) : List Lexeme → List Lexeme → Prop
  | here (h : us'.head?.map Lexeme.token = us.head?.map Lexeme.token) : Along us us' us us'
  | step {l l' : Lexeme} {ts ts' : List Lexeme} (hl : l'.token = l.token)
      (h : Along us us' ts ts') : Along us us' (l :: ts) (l' :: ts')

namespace Along

variable {us us' ts ts' rest : List Lexeme} {l : Lexeme} {t : Token}

theorem head (h : Along us us' ts ts') :
    ts'.head?.map Lexeme.token = ts.head?.map Lexeme.token := by
  cases h with
  | here h => exact h
  | step hl => simp [hl]

/-- Before the rest there is a token on both sides. -/
theorem tail (h : Along us us' (l :: ts) ts') (hlen : us.length ≤ ts.length) :
    ∃ l' rest, ts' = l' :: rest ∧ l'.token = l.token ∧ Along us us' ts rest := by
  cases h with
  | here => exact absurd hlen (by simp)
  | step hl h => exact ⟨_, _, rfl, hl, h⟩

theorem of_append {before before' : List Lexeme}
    (h : before'.map Lexeme.token = before.map Lexeme.token)
    (hnext : us'.head?.map Lexeme.token = us.head?.map Lexeme.token) :
    Along us us' (before ++ us) (before' ++ us') := by
  induction before generalizing before' with
  | nil =>
    obtain rfl := List.map_eq_nil_iff.1 h
    exact .here hnext
  | cons l before ih =>
    obtain ⟨l', before', rfl, hl, h⟩ := List.map_eq_cons_iff.1 h
    exact .step hl (ih h)

end Along

/-! ## What is read is read again -/

/-- That tokens are read and others are left, in a body that stops at an offset. -/
abbrev Reading := Nat → List Lexeme → List Lexeme → Prop

/-- One reading after the other. -/
def Reading.followedBy (r r' : Reading) : Reading :=
  fun stop ts rest => ∃ mid, r stop ts mid ∧ r' stop mid rest

/-- Of `ts` the tokens up to `rest` have been read; and all tokens that go along with `ts` that far
    or further are read up to the place where `rest` begins. -/
structure Retraces (r : Reading) (ts rest : List Lexeme) : Prop where
  suffix : rest <:+ ts
  along : ∀ {us us' ts' : List Lexeme} (stop : Nat), Along us us' ts ts' →
    us.length ≤ rest.length → ∃ rest', r stop ts' rest' ∧ Along us us' rest rest'

namespace Retraces

variable {r r' : Reading} {ts mid rest : List Lexeme} {l : Lexeme} {vs : List Token}

theorem refl (h : ∀ {stop : Nat} {ts' : List Lexeme},
    ts'.head?.map Lexeme.token = ts.head?.map Lexeme.token → r stop ts' ts') :
    Retraces r ts ts where
  suffix := List.suffix_refl ts
  along _ halong _ := ⟨_, h halong.head, halong⟩

/-- The token that comes next has been read. -/
theorem cons (h : ∀ {stop : Nat} {l' : Lexeme} {rest' : List Lexeme}, l'.token = l.token →
    rest'.head?.map Lexeme.token = rest.head?.map Lexeme.token → r stop (l' :: rest') rest') :
    Retraces r (l :: rest) rest where
  suffix := List.suffix_cons l rest
  along stop halong hlen := by
    obtain ⟨l', rest', rfl, hl, halong⟩ := halong.tail hlen
    exact ⟨rest', h hl halong.head, halong⟩

theorem trans (h : Retraces r ts mid) (h' : Retraces r' mid rest) :
    Retraces (r.followedBy r') ts rest where
  suffix := h'.suffix.trans h.suffix
  along stop halong hlen := by
    obtain ⟨mid', hread, halong⟩ := h.along stop halong (Nat.le_trans hlen h'.suffix.length_le)
    obtain ⟨rest', hread', halong⟩ := h'.along stop halong hlen
    exact ⟨rest', ⟨mid', hread, hread'⟩, halong⟩

theorem imp (h : Retraces r ts rest) (himp : ∀ {stop : Nat} {ts' rest' : List Lexeme},
    rest'.head?.map Lexeme.token = rest.head?.map Lexeme.token → r stop ts' rest' →
      r' stop ts' rest') : Retraces r' ts rest where
  suffix := h.suffix
  along stop halong hlen := by
    obtain ⟨rest', hread, halong⟩ := h.along stop halong hlen
    exact ⟨rest', himp halong.head hread, halong⟩

/-- The tokens that have been read. -/
theorem exists_done (h : Retraces r ts rest)
    (ht : ts.map Lexeme.token = vs ++ rest.map Lexeme.token) :
    ∃ done, ts = done ++ rest ∧ done.map Lexeme.token = vs := by
  obtain ⟨done, rfl⟩ := h.suffix
  exact ⟨done, rfl, by simpa using ht⟩

end Retraces

namespace Parser

/-! ### The readings of the parser -/

def ReadsToken (t : Token) : Reading :=
  fun _ ts rest => ∃ l, ts = l :: rest ∧ l.token = t

def ReadsNext (t : Token) : Reading :=
  fun _ ts rest => ∃ h, next? t ts = some ⟨(), rest, h⟩

def ReadsName (name : String) : Reading :=
  fun _ ts rest => ∃ h, name? ts = some ⟨name, rest, h⟩

def ReadsSegments (names : List String) : Reading :=
  fun stop ts rest => ∀ afterDot, segments stop afterDot ts = .ok (names, rest)

def ReadsExpression (e : Expression) : Reading :=
  fun stop ts rest => ∃ h, expression stop ts = .ok ⟨e, rest, h⟩

def ReadsPipeline (e : Expression) : Reading :=
  fun stop ts rest => ∃ h, pipeline stop ts = .ok ⟨e, rest, h⟩

def ReadsCalls (node e : Expression) : Reading :=
  fun stop ts rest => ∃ h, calls stop node ts = .ok ⟨e, rest, h⟩

def ReadsArguments (es : List Expression) : Reading :=
  fun stop ts rest => ∃ h, arguments stop ts = .ok ⟨es, rest, h⟩

def ReadsSource (e : Expression) : Reading :=
  fun stop ts rest => ∃ h, source stop ts = .ok ⟨e, rest, h⟩

section

variable {stop : Nat} {ts rest : List Lexeme} {l : Lexeme}

/-! ### Tokens and names -/

theorem retraces_token (l : Lexeme) (rest : List Lexeme) :
    Retraces (ReadsToken l.token) (l :: rest) rest :=
  .cons fun hl _ => ⟨_, rfl, hl⟩

theorem next?_cons {t : Token} (hl : l.token = t) :
    next? t (l :: rest) = some ⟨(), rest, Nat.lt_succ_self _⟩ := by
  simp [next?, hl]

theorem exists_cons_of_head {ts' : List Lexeme}
    (h : ts'.head?.map Lexeme.token = (l :: ts).head?.map Lexeme.token) :
    ∃ l' rest, ts' = l' :: rest ∧ l'.token = l.token := by
  obtain ⟨l', hhead, hl⟩ := Option.map_eq_some_iff.1 h
  obtain ⟨rest, rfl⟩ := List.head?_eq_some_iff.1 hhead
  exact ⟨l', rest, rfl, hl⟩

theorem next?_eq_none_of_head {t : Token} {ts' : List Lexeme}
    (h : ts'.head?.map Lexeme.token = ts.head?.map Lexeme.token) (hn : next? t ts = none) :
    next? t ts' = none := by
  cases ts' with
  | nil => rfl
  | cons l' ts' =>
    obtain ⟨l, hhead, hl⟩ := Option.map_eq_some_iff.1 h.symm
    obtain ⟨ts, rfl⟩ := List.head?_eq_some_iff.1 hhead
    simp only [next?] at hn ⊢
    rw [← hl]
    split at hn
    · cases hn
    · next hne => exact if_neg hne

theorem retraces_next? {t : Token} {u : Unit} {hlt : rest.length < ts.length}
    (hn : next? t ts = some ⟨u, rest, hlt⟩) : Retraces (ReadsNext t) ts rest := by
  cases ts with
  | nil => cases hn
  | cons l ts =>
    simp only [next?] at hn
    split at hn
    · next ht =>
      cases hn
      exact .cons fun hl _ => ⟨_, next?_cons (hl.trans ht)⟩
    · cases hn

theorem retraces_name? {name : String} {hlt : rest.length < ts.length}
    (hn : name? ts = some ⟨name, rest, hlt⟩) : Retraces (ReadsName name) ts rest := by
  unfold name? at hn
  split at hn
  · cases hn
    refine .cons ?_
    rintro stop ⟨_, _, _⟩ rest' rfl -
    exact ⟨by simp, rfl⟩
  · cases hn

theorem name?_eq_none_of_head {ts' : List Lexeme}
    (h : ts'.head?.map Lexeme.token = ts.head?.map Lexeme.token) (hn : name? ts = none) :
    name? ts' = none := by
  unfold name?
  split
  · next name _ _ _ =>
    obtain ⟨⟨_, _, _⟩, hhead, rfl⟩ := Option.map_eq_some_iff.1 h.symm
    obtain ⟨ts, rfl⟩ := List.head?_eq_some_iff.1 hhead
    cases hn
  · rfl

theorem segments_of_dot {l d : Lexeme} {name : String} (hl : l.token = .identifier name)
    (hd : d.token = .dot) (afterDot : Option Nat) (ts : List Lexeme) :
    segments stop afterDot (l :: d :: ts) =
      (segments stop (some d.start) ts).map fun (names, rest) => (name :: names, rest) := by
  obtain ⟨_, _, _⟩ := l
  obtain ⟨_, _, _⟩ := d
  subst hl hd
  rw [segments]

theorem segments_of_name {l : Lexeme} {name : String} (hl : l.token = .identifier name)
    (hd : ts.head?.map Lexeme.token ≠ some .dot) (afterDot : Option Nat) :
    segments stop afterDot (l :: ts) = .ok ([name], ts) := by
  obtain ⟨_, _, _⟩ := l
  subst hl
  rw [segments]
  rintro at_ stop' ts' rfl
  exact hd rfl

theorem retraces_segments {afterDot : Option Nat} {names : List String}
    (h : segments stop afterDot ts = .ok (names, rest)) :
    Retraces (ReadsSegments names) ts rest := by
  fun_induction segments stop afterDot ts generalizing names rest with
  | case1 afterDot name _ _ dot _ ts ih =>
    obtain ⟨⟨names', rest'⟩, hs, hr⟩ := exists_of_map_ok h
    cases hr
    refine ((retraces_token _ _).trans ((retraces_token _ _).trans (ih hs))).imp ?_
    rintro stop' _ rest'' - ⟨_, ⟨l, rfl, hl⟩, mid, ⟨d, rfl, hd⟩, hread⟩ afterDot
    rw [segments_of_dot hl hd, hread]
    rfl
  | case2 afterDot name _ _ ts hdot =>
    cases h
    refine .cons fun hl hhead afterDot => segments_of_name hl ?_ afterDot
    rw [hhead]
    intro hd
    obtain ⟨⟨_, _, _⟩, hhead, rfl⟩ := Option.map_eq_some_iff.1 hd
    obtain ⟨ts, rfl⟩ := List.head?_eq_some_iff.1 hhead
    exact hdot _ _ _ rfl
  | case3 => cases h
  | case4 => cases h
  | case5 => cases h

theorem source_of_path {l : Lexeme} {word : String} {root : Root} {names : List String}
    (hl : l.token = .identifier word) (hr : Root.ofKeyword? word = some root)
    (hs : segments stop none ts = .ok (names, rest)) :
    ∃ hlt, source stop (l :: ts) = .ok ⟨.path ⟨root, names⟩, rest, hlt⟩ := by
  refine ⟨Nat.lt_succ_of_lt (segments_length hs), ?_⟩
  obtain ⟨_, _, _⟩ := l
  subst hl
  rw [source]
  simp only [hr]
  split
  · next e he => cases hs.symm.trans he
  · next names' rest' he =>
    cases hs.symm.trans he
    rfl

theorem source_of_parens {l : Lexeme} {inner : Expression} {ts' : List Lexeme}
    {hlt : ts'.length < ts.length} {hlt' : rest.length < ts'.length} (hl : l.token = .leftParen)
    (hx : expression stop ts = .ok ⟨inner, ts', hlt⟩)
    (hc : next? .rightParen ts' = some ⟨(), rest, hlt'⟩) :
    ∃ hlt, source stop (l :: ts) = .ok ⟨inner, rest, hlt⟩ := by
  refine ⟨by simp only [List.length_cons]; omega, ?_⟩
  obtain ⟨_, _, _⟩ := l
  subst hl
  rw [source]
  simp [hx, hc]

theorem source_of_literal {l : Lexeme} {literal : Literal} (hl : literal? l.token = some literal) :
    ∃ hlt, source stop (l :: ts) = .ok ⟨.literal literal, ts, hlt⟩ := by
  refine ⟨Nat.lt_succ_self _, ?_⟩
  obtain ⟨t, _, _⟩ := l
  obtain rfl : t = literalToken literal := token_of_literal? hl
  rw [source]
  cases literal <;> rfl

end

/-! ### Parts of expressions -/

mutual

/-- What is read as an expression is read again where the tokens are the same, up to the next one. -/
theorem retraces_expression {stop : Nat} {ts rest : List Lexeme} {e : Expression}
    {hlt : rest.length < ts.length} (he : expression stop ts = .ok ⟨e, rest, hlt⟩) :
    Retraces (ReadsExpression e) ts rest := by
  rw [expression] at he
  split at he
  · cases he
  · next c ts₁ h₁ hc =>
    have hcondition := retraces_pipeline hc
    split at he
    · next hq =>
      cases he
      refine hcondition.imp ?_
      rintro stop' ts' rest' hhead ⟨h₁', hc'⟩
      refine ⟨h₁', ?_⟩
      rw [expression, hc']
      simp [next?_eq_none_of_head hhead hq]
    · next ts₂ h₂ hq =>
      split at he
      · cases he
      · next t ts₃ h₃ ht =>
        have htrue := retraces_source ht
        split at he
        · cases he
        · next ts₄ h₄ hcolon =>
          split at he
          · cases he
          · next f ts₅ h₅ hf =>
            have hfalse := retraces_source hf
            cases he
            refine (hcondition.trans ((retraces_next? hq).trans (htrue.trans
              ((retraces_next? hcolon).trans hfalse)))).imp ?_
            rintro stop' ts' rest' - ⟨ts₁', ⟨h₁', hc'⟩, ts₂', ⟨h₂', hq'⟩, ts₃', ⟨h₃', ht'⟩, ts₄',
              ⟨h₄', hcolon'⟩, h₅', hf'⟩
            refine ⟨by omega, ?_⟩
            rw [expression, hc']
            simp [hq', ht', hcolon', hf']
termination_by 3 * ts.length + 2

theorem retraces_pipeline {stop : Nat} {ts rest : List Lexeme} {e : Expression}
    {hlt : rest.length < ts.length} (he : pipeline stop ts = .ok ⟨e, rest, hlt⟩) :
    Retraces (ReadsPipeline e) ts rest := by
  rw [pipeline] at he
  split at he
  · cases he
  · next node ts₁ h₁ hs =>
    have hsource := retraces_source hs
    split at he
    · cases he
    · next piped ts₂ h₂ hc =>
      have hcalls := retraces_calls hc
      cases he
      refine (hsource.trans hcalls).imp ?_
      rintro stop' ts' rest' - ⟨ts₁', ⟨h₁', hs'⟩, h₂', hc'⟩
      refine ⟨by omega, ?_⟩
      rw [pipeline, hs']
      simp [hc']
termination_by 3 * ts.length + 1

theorem retraces_calls {stop : Nat} {ts rest : List Lexeme} {node e : Expression}
    {hle : rest.length ≤ ts.length} (he : calls stop node ts = .ok ⟨e, rest, hle⟩) :
    Retraces (ReadsCalls node e) ts rest := by
  rw [calls] at he
  split at he
  · next hp =>
    cases he
    refine .refl fun {stop' ts'} hhead => ⟨Nat.le_refl _, ?_⟩
    rw [calls, next?_eq_none_of_head hhead hp]
  · next ts₁ h₁ hp =>
    split at he
    · cases he
    · next filter ts₂ h₂ hn =>
      split at he
      · cases he
      · next args ts₃ h₃ ha =>
        have hargs := retraces_arguments ha
        split at he
        · cases he
        · next piped ts₄ h₄ hc =>
          have hcalls := retraces_calls hc
          cases he
          refine ((retraces_next? hp).trans ((retraces_name? hn).trans
            (hargs.trans hcalls))).imp ?_
          rintro stop' ts' rest' - ⟨ts₁', ⟨h₁', hp'⟩, ts₂', ⟨h₂', hn'⟩, ts₃', ⟨h₃', ha'⟩, h₄', hc'⟩
          refine ⟨by omega, ?_⟩
          rw [calls, hp']
          simp [hn', ha', hc']
termination_by 3 * ts.length

theorem retraces_arguments {stop : Nat} {ts rest : List Lexeme} {es : List Expression}
    {hle : rest.length ≤ ts.length} (he : arguments stop ts = .ok ⟨es, rest, hle⟩) :
    Retraces (ReadsArguments es) ts rest := by
  rw [arguments] at he
  split at he
  · next hcolon =>
    cases he
    refine .refl fun {stop' ts'} hhead => ⟨Nat.le_refl _, ?_⟩
    rw [arguments, next?_eq_none_of_head hhead hcolon]
  · next ts₁ h₁ hcolon =>
    split at he
    · cases he
    · next arg ts₂ h₂ hs =>
      have hsource := retraces_source hs
      split at he
      · cases he
      · next args ts₃ h₃ ha =>
        have hargs := retraces_arguments ha
        cases he
        refine ((retraces_next? hcolon).trans (hsource.trans hargs)).imp ?_
        rintro stop' ts' rest' - ⟨ts₁', ⟨h₁', hcolon'⟩, ts₂', ⟨h₂', hs'⟩, h₃', ha'⟩
        refine ⟨by omega, ?_⟩
        rw [arguments, hcolon']
        simp [hs', ha']
termination_by 3 * ts.length

theorem retraces_source {stop : Nat} {ts rest : List Lexeme} {e : Expression}
    {hlt : rest.length < ts.length} (he : source stop ts = .ok ⟨e, rest, hlt⟩) :
    Retraces (ReadsSource e) ts rest := by
  rw [source.eq_def] at he
  split at he
  · cases he
  · next l ts₁ =>
    split at he
    · next word hw =>
      split at he
      · cases he
      · next root hr =>
        split at he
        · cases he
        · next names ts₂ hs =>
          cases he
          refine ((retraces_token l ts₁).trans (retraces_segments hs)).imp ?_
          rintro stop' _ rest' - ⟨_, ⟨l', rfl, hl⟩, hs'⟩
          exact source_of_path (hl.trans hw) hr (hs' none)
    · next hp =>
      split at he
      · cases he
      · next inner ts₂ h₂ hx =>
        have hinner := retraces_expression hx
        split at he
        · cases he
        · next ts₃ h₃ hc =>
          cases he
          refine ((retraces_token l ts₁).trans (hinner.trans (retraces_next? hc))).imp ?_
          rintro stop' _ rest' - ⟨_, ⟨l', rfl, hl⟩, ts₂', ⟨h₂', hx'⟩, h₃', hc'⟩
          exact source_of_parens (hl.trans hp) hx' hc'
    · split at he
      · next literal hl =>
        cases he
        exact .cons fun hl' _ => source_of_literal (by rw [hl', hl])
      · cases he
termination_by 3 * ts.length

end

end Parser

/-! ## Where reading fails -/

/-- The error says that a path ends with a point. -/
def SyntaxError.EndsPath : SyntaxError → Prop
  | .invalidPath reason _ => reason = "path cannot end with '.'"
  | _ => False

/-- The error has the offset of what is left. The one about the end of a path has that of the point,
    which is the last token before. -/
structure Blames (stop : Nat) (e : SyntaxError) (before after : List Lexeme) : Prop where
  next : ¬e.EndsPath → e.position = Parser.offset stop after
  dot : e.EndsPath → ∃ l, before.getLast? = some l ∧ l.token = .dot ∧ e.position = l.start

theorem Blames.append {stop : Nat} {e : SyntaxError} {before after : List Lexeme}
    (done : List Lexeme) (h : Blames stop e before after) : Blames stop e (done ++ before) after := by
  refine ⟨h.next, fun he => ?_⟩
  obtain ⟨l, hl, hdot⟩ := h.dot he
  exact ⟨l, by simp [List.getLast?_append, hl], hdot⟩

/-- Reading does not succeed. -/
def Fails {α : Type} (r : Except SyntaxError α) : Prop := ∃ e, r = .error e

/-- Reading `ts` fails after the tokens `before`: these can be completed to what should be read, and
    reading fails on all lists that have the same tokens up to the next one. -/
structure FailsAt (spells : List Token → Prop) (fails : Nat → List Lexeme → Prop)
    (blames : List Lexeme → List Lexeme → Prop) (ts before after : List Lexeme) : Prop where
  append : ts = before ++ after
  completes : ∃ more, spells (before.map Lexeme.token ++ more)
  refuted : ∀ {stop : Nat} {ts' after' : List Lexeme}, Along after after' ts ts' → fails stop ts'
  blames : blames before after

namespace FailsAt

variable {spells spells' : List Token → Prop} {fails fails' : Nat → List Lexeme → Prop}
  {blames blames' : List Lexeme → List Lexeme → Prop} {r : Reading}
  {ts rest before after : List Lexeme}

/-- A failure at the beginning of what should be read. -/
theorem first (h : FailsAt spells fails blames ts before after)
    (hc : ∀ us, spells us → ∃ more, spells' (us ++ more))
    (hf : ∀ {stop : Nat} {ts' : List Lexeme}, fails stop ts' → fails' stop ts') :
    FailsAt spells' fails' blames ts before after where
  append := h.append
  completes := by
    obtain ⟨more, hmore⟩ := h.completes
    obtain ⟨more', hmore'⟩ := hc _ hmore
    exact ⟨more ++ more', by simpa using hmore'⟩
  refuted halong := hf (h.refuted halong)
  blames := h.blames

/-- A failure after something has been read. -/
theorem later (h : FailsAt spells fails blames rest before after) (vs : List Token)
    (hr : Retraces r ts rest)
    (hd : ts.map Lexeme.token = vs ++ rest.map Lexeme.token)
    (hc : ∀ us, spells us → ∃ more, spells' (vs ++ (us ++ more)))
    (hf : ∀ {stop : Nat} {ts' rest' : List Lexeme}, r stop ts' rest' → fails stop rest' →
      fails' stop ts')
    (hb : ∀ done, ts = done ++ rest → blames before after → blames' (done ++ before) after) :
    ∃ before', FailsAt spells' fails' blames' ts before' after := by
  obtain ⟨done, hts, rfl⟩ := hr.exists_done hd
  refine ⟨done ++ before, by rw [hts, h.append, List.append_assoc], ?_, ?_, hb done hts h.blames⟩
  · obtain ⟨more, hmore⟩ := h.completes
    obtain ⟨more', hmore'⟩ := hc _ hmore
    exact ⟨more ++ more', by simpa using hmore'⟩
  · intro stop ts' after' halong
    obtain ⟨rest', hread, halong⟩ := hr.along stop halong (by rw [h.append]; simp)
    exact hf hread (h.refuted halong)

/-- A failure where something has been read and the next token is not the one that has to come. -/
theorem missing (vs : List Token) (hr : Retraces r ts rest)
    (hd : ts.map Lexeme.token = vs ++ rest.map Lexeme.token)
    (hc : ∃ more, spells (vs ++ more))
    (hf : ∀ {stop : Nat} {ts' rest' : List Lexeme},
      rest'.head?.map Lexeme.token = rest.head?.map Lexeme.token → r stop ts' rest' →
        fails stop ts')
    (hb : ∀ done, blames done rest) : ∃ before, FailsAt spells fails blames ts before rest := by
  obtain ⟨done, hts, rfl⟩ := hr.exists_done hd
  refine ⟨done, hts, hc, fun {stop ts' after'} halong => ?_, hb done⟩
  obtain ⟨rest', hread, halong⟩ := hr.along stop halong (Nat.le_refl _)
  exact hf halong.head hread

end FailsAt

namespace Parser

/-- Where a part of an expression cannot be read. -/
abbrev PartFailsAt {α : Type} {β : List Lexeme → Type} (tokens : α → List Token)
    (read : Nat → (ts : List Lexeme) → Except SyntaxError (β ts)) (stop : Nat) (e : SyntaxError) :
    List Lexeme → List Lexeme → List Lexeme → Prop :=
  FailsAt (fun vs => ∃ a, vs = tokens a) (fun stop ts => Fails (read stop ts)) (Blames stop e)

/-! ### Names -/

section

variable {stop : Nat} {ts done : List Lexeme} {e : SyntaxError}

theorem not_name_of
    (h : ∀ name start stop rest, ts = ⟨.identifier name, start, stop⟩ :: rest → False)
    (name : String) : ts.head?.map Lexeme.token ≠ some (.identifier name) := by
  intro hname
  obtain ⟨⟨_, _, _⟩, hhead, rfl⟩ := Option.map_eq_some_iff.1 hname
  obtain ⟨rest, rfl⟩ := List.head?_eq_some_iff.1 hhead
  exact h _ _ _ _ rfl

theorem segments_fails (h : ∀ name, ts.head?.map Lexeme.token ≠ some (.identifier name))
    (afterDot : Option Nat) : Fails (segments stop afterDot ts) := by
  fun_cases segments stop afterDot ts with
  | case1 => exact absurd rfl (h _)
  | case2 => exact absurd rfl (h _)
  | case3 => exact ⟨_, rfl⟩
  | case4 => exact ⟨_, rfl⟩
  | case5 => exact ⟨_, rfl⟩

/-- Where the names of a path cannot be read, after the tokens `done`. -/
abbrev SegmentsFailAt (stop : Nat) (done : List Lexeme) (e : SyntaxError) :
    List Lexeme → List Lexeme → List Lexeme → Prop :=
  FailsAt (fun vs => ∃ first others, vs = .identifier first :: nameTokens others)
    (fun stop ts => ∀ afterDot, Fails (segments stop afterDot ts))
    fun before after => Blames stop e (done ++ before) after

/-- Where no name comes next, that or a point before it is to blame. -/
theorem segmentsFailAt_here (h : ∀ name, ts.head?.map Lexeme.token ≠ some (.identifier name))
    (hb : Blames stop e done ts) : SegmentsFailAt stop done e ts [] ts where
  append := rfl
  completes := ⟨[.identifier "x"], "x", [], rfl⟩
  refuted halong := segments_fails (by rwa [halong.head])
  blames := by simpa using hb

theorem segmentsFailAt_after {before after : List Lexeme} {l d : Lexeme} {name : String}
    (hl : l.token = .identifier name) (hd : d.token = .dot)
    (h : SegmentsFailAt stop (done ++ [l, d]) e ts before after) :
    ∃ before', SegmentsFailAt stop done e (l :: d :: ts) before' after := by
  refine h.later [l.token, d.token] ((retraces_token l _).trans (retraces_token d ts)) rfl ?_ ?_ ?_
  · rintro _ ⟨first, others, rfl⟩
    exact ⟨[], name, first :: others, by simp [hl, hd, nameTokens]⟩
  · rintro stop' _ rest' ⟨_, ⟨l', rfl, hl'⟩, d', rfl, hd'⟩ hfails afterDot
    obtain ⟨e', he'⟩ := hfails (some d'.start)
    exact ⟨e', by rw [segments_of_dot (hl'.trans hl) (hd'.trans hd), he']; rfl⟩
  · intro taken htaken hb
    obtain rfl : [l, d] = taken := @List.append_cancel_right _ [l, d] ts taken htaken
    rwa [List.append_assoc] at hb

theorem fails_segments {afterDot : Option Nat} (done : List Lexeme)
    (hdot : ∀ p ∈ afterDot, ∃ l, done.getLast? = some l ∧ l.token = .dot ∧ p = l.start)
    (h : segments stop afterDot ts = .error e) :
    ∃ before after, SegmentsFailAt stop done e ts before after := by
  fun_induction segments stop afterDot ts generalizing done with
  | case1 afterDot name start stop₁ dot stop₂ ts ih =>
    have hs : segments stop (some dot) ts = .error e := by
      cases hs : segments stop (some dot) ts with
      | ok r => rw [hs] at h; cases h
      | error e' => rw [hs] at h; exact h
    obtain ⟨_, after, hnames⟩ := ih (done ++ [⟨.identifier name, start, stop₁⟩,
      ⟨.dot, dot, stop₂⟩]) (by simp) hs
    obtain ⟨before, hfails⟩ := segmentsFailAt_after rfl rfl hnames
    exact ⟨before, after, hfails⟩
  | case2 => cases h
  | case3 afterDot at_ _ ts =>
    cases h
    refine ⟨_, _, segmentsFailAt_here (by simp) ⟨fun _ => rfl, fun he => ?_⟩⟩
    simp only [SyntaxError.EndsPath] at he
    split at he <;> exact absurd he (by decide)
  | case4 ts h₁ h₂ h₃ dot =>
    cases h
    exact ⟨_, _, segmentsFailAt_here (not_name_of h₂) ⟨absurd rfl, fun _ => hdot dot rfl⟩⟩
  | case5 ts h₁ h₂ h₃ =>
    cases h
    exact ⟨_, _, segmentsFailAt_here (not_name_of h₂) ⟨fun _ => rfl, fun he => absurd he id⟩⟩

end

/-! ### Sources -/

section

variable {stop : Nat} {e : SyntaxError} {ts rest before after : List Lexeme} {l : Lexeme}
  {word : String}

theorem source_fails_of_word (hl : l.token = .identifier word) (hr : Root.ofKeyword? word = none) :
    Fails (source stop (l :: ts)) := by
  obtain ⟨_, _, _⟩ := l
  subst hl
  rw [source]
  simp [hr, Fails]

theorem source_fails_of_token (hword : ∀ word, l.token ≠ .identifier word)
    (hparen : l.token ≠ .leftParen) (hliteral : literal? l.token = none) :
    Fails (source stop (l :: ts)) := by
  obtain ⟨t, _, _⟩ := l
  rw [source]
  cases t with
  | identifier word => exact absurd rfl (hword word)
  | leftParen => exact absurd rfl hparen
  | string | integer | decimal | boolean | null => cases hliteral
  | pipe | colon | dot | question | rightParen => exact ⟨_, rfl⟩

theorem source_fails_of_path {root : Root} (hl : l.token = .identifier word)
    (hr : Root.ofKeyword? word = some root) (hs : Fails (segments stop none ts)) :
    Fails (source stop (l :: ts)) := by
  obtain ⟨e, he⟩ := hs
  refine ⟨e, ?_⟩
  obtain ⟨_, _, _⟩ := l
  subst hl
  rw [source]
  simp only [hr]
  split
  · next e' he' =>
    cases he.symm.trans he'
    rfl
  · next names rest he' => cases he.symm.trans he'

theorem source_fails_of_parens (hl : l.token = .leftParen) (hx : Fails (expression stop ts)) :
    Fails (source stop (l :: ts)) := by
  obtain ⟨e, he⟩ := hx
  refine ⟨e, ?_⟩
  obtain ⟨_, _, _⟩ := l
  subst hl
  rw [source]
  simp [he]

theorem source_fails_of_unclosed {inner : Expression} {hlt : rest.length < ts.length}
    (hl : l.token = .leftParen) (hx : expression stop ts = .ok ⟨inner, rest, hlt⟩)
    (hc : next? .rightParen rest = none) : Fails (source stop (l :: ts)) := by
  obtain ⟨_, _, _⟩ := l
  subst hl
  rw [source]
  simp [hx, hc, Fails]

/-- The next token opens no source; a literal could stand in its place. -/
theorem sourceFailsAt_here (hf : ∀ {stop : Nat} {ts' : List Lexeme},
      ts'.head?.map Lexeme.token = ts.head?.map Lexeme.token → Fails (source stop ts'))
    (he : e.position = offset stop ts) (hdot : ¬e.EndsPath) :
    PartFailsAt Source.tokens source stop e ts [] ts where
  append := rfl
  completes := ⟨_, .literal .null, rfl⟩
  refuted halong := hf halong.head
  blames := ⟨fun _ => he, fun h => absurd h hdot⟩

theorem sourceFailsAt_path {root : Root} (hl : l.token = .identifier word)
    (hr : Root.ofKeyword? word = some root) (h : SegmentsFailAt stop [] e ts before after) :
    ∃ before', PartFailsAt Source.tokens source stop e (l :: ts) before' after := by
  refine h.later [l.token] (retraces_token l ts) rfl ?_ ?_ fun done _ hb => hb.append done
  · rintro _ ⟨first, others, rfl⟩
    exact ⟨[], .path root first others,
      by simp [hl, Source.tokens, keyword_of_ofKeyword? hr]⟩
  · rintro stop' _ rest' ⟨l', rfl, hl'⟩ hfails
    exact source_fails_of_path (hl'.trans hl) hr (hfails none)

theorem sourceFailsAt_parens (hl : l.token = .leftParen)
    (h : PartFailsAt Derivation.tokens expression stop e ts before after) :
    ∃ before', PartFailsAt Source.tokens source stop e (l :: ts) before' after := by
  refine h.later [l.token] (retraces_token l ts) rfl ?_ ?_ fun done _ hb => hb.append done
  · rintro _ ⟨d, rfl⟩
    exact ⟨[.rightParen], .parens d, by simp [hl, Source.tokens]⟩
  · rintro stop' _ rest' ⟨l', rfl, hl'⟩ hfails
    exact source_fails_of_parens (hl'.trans hl) hfails

theorem sourceFailsAt_unclosed {inner : Expression} {hlt : rest.length < ts.length}
    (hl : l.token = .leftParen) (hx : expression stop ts = .ok ⟨inner, rest, hlt⟩)
    (hc : next? .rightParen rest = none) :
    ∃ before, PartFailsAt Source.tokens source stop (.expectedToken "')'" (offset stop rest))
      (l :: ts) before rest := by
  obtain ⟨d, -, hd⟩ := expression_sound hx
  refine FailsAt.missing (.leftParen :: d.tokens) ((retraces_token l ts).trans (retraces_expression hx))
    (by simp [hl, hd]) ⟨[.rightParen], .parens d, by simp [Source.tokens]⟩ ?_
    fun _ => ⟨fun _ => rfl, fun he => absurd he id⟩
  rintro stop' _ rest' hhead ⟨_, ⟨l', rfl, hl'⟩, hlt', hx'⟩
  exact source_fails_of_unclosed (hl'.trans hl) hx' (next?_eq_none_of_head hhead hc)

end

/-! ### Filters and their arguments -/

section

variable {stop : Nat} {e : SyntaxError} {ts ts₁ ts₂ ts₃ before after : List Lexeme}
  {node arg : Expression} {args : List Expression} {filter : String}
  {h₁ : ts₁.length < ts.length} {h₂ : ts₂.length < ts₁.length} {h₃ : ts₃.length ≤ ts₂.length}

theorem argumentsFailAt_argument (hcolon : next? .colon ts = some ⟨(), ts₁, h₁⟩)
    (h : PartFailsAt Source.tokens source stop e ts₁ before after) :
    ∃ before', PartFailsAt Arguments.tokens arguments stop e ts before' after := by
  refine h.later [.colon] (retraces_next? hcolon) (tokens_of_next? hcolon) ?_ ?_
    fun done _ hb => hb.append done
  · rintro _ ⟨s, rfl⟩
    exact ⟨[], .cons s .nil, by simp [Arguments.tokens]⟩
  · rintro stop' ts' rest' ⟨h₁', hcolon'⟩ ⟨e, he⟩
    exact ⟨e, by rw [arguments, hcolon']; simp [he]⟩

theorem argumentsFailAt_others (hcolon : next? .colon ts = some ⟨(), ts₁, h₁⟩)
    (hs : source stop ts₁ = .ok ⟨arg, ts₂, h₂⟩)
    (h : PartFailsAt Arguments.tokens arguments stop e ts₂ before after) :
    ∃ before', PartFailsAt Arguments.tokens arguments stop e ts before' after := by
  obtain ⟨s, -, hs₁⟩ := source_sound hs
  refine h.later (.colon :: s.tokens) ((retraces_next? hcolon).trans (retraces_source hs))
    (by rw [tokens_of_next? hcolon, hs₁]; rfl) ?_ ?_ fun done _ hb => hb.append done
  · rintro _ ⟨as, rfl⟩
    exact ⟨[], .cons s as, by simp [Arguments.tokens]⟩
  · rintro stop' ts' rest' ⟨ts₁', ⟨h₁', hcolon'⟩, h₂', hs'⟩ ⟨e, he⟩
    exact ⟨e, by rw [arguments, hcolon']; simp [hs', he]⟩

theorem callsFailAt_name (hp : next? .pipe ts = some ⟨(), ts₁, h₁⟩) (hn : name? ts₁ = none) :
    ∃ before, PartFailsAt Calls.tokens (calls · node) stop (.emptyFilterName (offset stop ts₁)) ts
      before ts₁ := by
  refine FailsAt.missing [.pipe] (retraces_next? hp) (tokens_of_next? hp)
    ⟨[.identifier "x"], .cons "x" .nil .nil, rfl⟩ ?_ fun _ => ⟨fun _ => rfl, fun he => absurd he id⟩
  rintro stop' ts' rest' hhead ⟨h₁', hp'⟩
  refine ⟨.emptyFilterName (offset stop' rest'), ?_⟩
  change calls stop' node ts' = _
  rw [calls, hp']
  simp [name?_eq_none_of_head hhead hn]

theorem callsFailAt_arguments (hp : next? .pipe ts = some ⟨(), ts₁, h₁⟩)
    (hn : name? ts₁ = some ⟨filter, ts₂, h₂⟩)
    (h : PartFailsAt Arguments.tokens arguments stop e ts₂ before after) :
    ∃ before', PartFailsAt Calls.tokens (calls · node) stop e ts before' after := by
  refine h.later [.pipe, .identifier filter] ((retraces_next? hp).trans (retraces_name? hn))
    (by rw [tokens_of_next? hp, tokens_of_name? hn]; rfl) ?_ ?_ fun done _ hb => hb.append done
  · rintro _ ⟨as, rfl⟩
    exact ⟨[], .cons filter as .nil, by simp [Calls.tokens]⟩
  · rintro stop' ts' rest' ⟨ts₁', ⟨h₁', hp'⟩, h₂', hn'⟩ ⟨e, he⟩
    refine ⟨e, ?_⟩
    change calls stop' node ts' = _
    rw [calls, hp']
    simp [hn', he]

theorem callsFailAt_others (hp : next? .pipe ts = some ⟨(), ts₁, h₁⟩)
    (hn : name? ts₁ = some ⟨filter, ts₂, h₂⟩) (ha : arguments stop ts₂ = .ok ⟨args, ts₃, h₃⟩)
    (h : PartFailsAt Calls.tokens (calls · (.pipe node filter args)) stop e ts₃ before after) :
    ∃ before', PartFailsAt Calls.tokens (calls · node) stop e ts before' after := by
  obtain ⟨as, -, hargs⟩ := arguments_sound ha
  refine h.later (.pipe :: .identifier filter :: as.tokens)
    ((retraces_next? hp).trans ((retraces_name? hn).trans (retraces_arguments ha)))
    (by rw [tokens_of_next? hp, tokens_of_name? hn, hargs]; rfl) ?_ ?_
    fun done _ hb => hb.append done
  · rintro _ ⟨cs, rfl⟩
    exact ⟨[], .cons filter as cs, by simp [Calls.tokens]⟩
  · rintro stop' ts' rest' ⟨ts₁', ⟨h₁', hp'⟩, ts₂', ⟨h₂', hn'⟩, h₃', ha'⟩ ⟨e, he⟩
    refine ⟨e, ?_⟩
    change calls stop' node ts' = _
    rw [calls, hp']
    simp [hn', ha', he]

end

/-! ### Pipelines and conditionals -/

section

variable {stop : Nat} {e : SyntaxError} {ts ts₁ ts₂ ts₃ ts₄ before after : List Lexeme}
  {c t : Expression} {h₁ : ts₁.length < ts.length} {h₂ : ts₂.length < ts₁.length}
  {h₃ : ts₃.length < ts₂.length} {h₄ : ts₄.length < ts₃.length}

theorem pipelineFailsAt_source (h : PartFailsAt Source.tokens source stop e ts before after) :
    PartFailsAt Pipeline.tokens pipeline stop e ts before after := by
  refine h.first ?_ ?_
  · rintro _ ⟨s, rfl⟩
    exact ⟨[], .mk s .nil, by simp [Pipeline.tokens, Calls.tokens]⟩
  · rintro stop' ts' ⟨e, he⟩
    exact ⟨e, by rw [pipeline, he]⟩

theorem pipelineFailsAt_calls (hs : source stop ts = .ok ⟨c, ts₁, h₁⟩)
    (h : PartFailsAt Calls.tokens (calls · c) stop e ts₁ before after) :
    ∃ before', PartFailsAt Pipeline.tokens pipeline stop e ts before' after := by
  obtain ⟨s, -, hs₁⟩ := source_sound hs
  refine h.later s.tokens (retraces_source hs) hs₁ ?_ ?_ fun done _ hb => hb.append done
  · rintro _ ⟨cs, rfl⟩
    exact ⟨[], .mk s cs, by simp [Pipeline.tokens]⟩
  · rintro stop' ts' rest' ⟨h₁', hs'⟩ ⟨e, he⟩
    exact ⟨e, by rw [pipeline, hs']; simp [he]⟩

theorem expressionFailsAt_condition
    (h : PartFailsAt Pipeline.tokens pipeline stop e ts before after) :
    PartFailsAt Derivation.tokens expression stop e ts before after := by
  refine h.first ?_ ?_
  · rintro _ ⟨p, rfl⟩
    exact ⟨[], .plain p, by simp [Derivation.tokens]⟩
  · rintro stop' ts' ⟨e, he⟩
    exact ⟨e, by rw [expression, he]⟩

theorem expressionFailsAt_whenTrue (hc : pipeline stop ts = .ok ⟨c, ts₁, h₁⟩)
    (hq : next? .question ts₁ = some ⟨(), ts₂, h₂⟩)
    (h : PartFailsAt Source.tokens source stop e ts₂ before after) :
    ∃ before', PartFailsAt Derivation.tokens expression stop e ts before' after := by
  obtain ⟨p, -, hp⟩ := pipeline_sound hc
  refine h.later (p.tokens ++ [.question]) ((retraces_pipeline hc).trans (retraces_next? hq))
    (by simp [hp, tokens_of_next? hq]) ?_ ?_ fun done _ hb => hb.append done
  · rintro _ ⟨t, rfl⟩
    exact ⟨[.colon, .null], .conditional p t (.literal .null),
      by simp [Derivation.tokens, Source.tokens, literalToken]⟩
  · rintro stop' ts' rest' ⟨ts₁', ⟨h₁', hc'⟩, h₂', hq'⟩ ⟨e, he⟩
    exact ⟨e, by rw [expression, hc']; simp [hq', he]⟩

theorem expressionFailsAt_colon (hc : pipeline stop ts = .ok ⟨c, ts₁, h₁⟩)
    (hq : next? .question ts₁ = some ⟨(), ts₂, h₂⟩) (ht : source stop ts₂ = .ok ⟨t, ts₃, h₃⟩)
    (hcolon : next? .colon ts₃ = none) :
    ∃ before, PartFailsAt Derivation.tokens expression stop
      (.expectedToken "':' between conditional branches" (offset stop ts₃)) ts before ts₃ := by
  obtain ⟨p, -, hp⟩ := pipeline_sound hc
  obtain ⟨s, -, hs⟩ := source_sound ht
  refine FailsAt.missing (p.tokens ++ .question :: s.tokens)
    ((retraces_pipeline hc).trans ((retraces_next? hq).trans (retraces_source ht)))
    (by simp [hp, tokens_of_next? hq, hs]) ?_ ?_ fun _ => ⟨fun _ => rfl, fun he => absurd he id⟩
  · exact ⟨[.colon, .null], .conditional p s (.literal .null),
      by simp [Derivation.tokens, Source.tokens, literalToken]⟩
  · rintro stop' ts' rest' hhead ⟨ts₁', ⟨h₁', hc'⟩, ts₂', ⟨h₂', hq'⟩, h₃', ht'⟩
    rw [expression, hc']
    simp [hq', ht', next?_eq_none_of_head hhead hcolon, Fails]

theorem expressionFailsAt_whenFalse (hc : pipeline stop ts = .ok ⟨c, ts₁, h₁⟩)
    (hq : next? .question ts₁ = some ⟨(), ts₂, h₂⟩) (ht : source stop ts₂ = .ok ⟨t, ts₃, h₃⟩)
    (hcolon : next? .colon ts₃ = some ⟨(), ts₄, h₄⟩)
    (h : PartFailsAt Source.tokens source stop e ts₄ before after) :
    ∃ before', PartFailsAt Derivation.tokens expression stop e ts before' after := by
  obtain ⟨p, -, hp⟩ := pipeline_sound hc
  obtain ⟨s, -, hs⟩ := source_sound ht
  refine h.later (p.tokens ++ .question :: (s.tokens ++ [.colon]))
    ((retraces_pipeline hc).trans ((retraces_next? hq).trans ((retraces_source ht).trans
      (retraces_next? hcolon)))) (by simp [hp, tokens_of_next? hq, hs, tokens_of_next? hcolon])
    ?_ ?_ fun done _ hb => hb.append done
  · rintro _ ⟨f, rfl⟩
    exact ⟨[], .conditional p s f, by simp [Derivation.tokens]⟩
  · rintro stop' ts' rest' ⟨ts₁', ⟨h₁', hc'⟩, ts₂', ⟨h₂', hq'⟩, ts₃', ⟨h₃', ht'⟩, h₄', hcolon'⟩
      ⟨e, he⟩
    exact ⟨e, by rw [expression, hc']; simp [hq', ht', hcolon', he]⟩

end

mutual

/-- Where an expression cannot be read, what was read is the beginning of one, and with the next
    token it is none. -/
theorem fails_expression {stop : Nat} {ts : List Lexeme} {e : SyntaxError}
    (he : expression stop ts = .error e) :
    ∃ before after, PartFailsAt Derivation.tokens expression stop e ts before after := by
  rw [expression] at he
  split at he
  · next e' hc =>
    cases he
    obtain ⟨before, after, h⟩ := fails_pipeline hc
    exact ⟨before, after, expressionFailsAt_condition h⟩
  · next c ts₁ h₁ hc =>
    split at he
    · cases he
    · next ts₂ h₂ hq =>
      split at he
      · next e' ht =>
        cases he
        obtain ⟨_, after, h⟩ := fails_source ht
        obtain ⟨before, h⟩ := expressionFailsAt_whenTrue hc hq h
        exact ⟨before, after, h⟩
      · next t ts₃ h₃ ht =>
        split at he
        · next hcolon =>
          cases he
          obtain ⟨before, h⟩ := expressionFailsAt_colon hc hq ht hcolon
          exact ⟨before, ts₃, h⟩
        · next ts₄ h₄ hcolon =>
          split at he
          · next e' hf =>
            cases he
            obtain ⟨_, after, h⟩ := fails_source hf
            obtain ⟨before, h⟩ := expressionFailsAt_whenFalse hc hq ht hcolon h
            exact ⟨before, after, h⟩
          · cases he
termination_by 3 * ts.length + 2

theorem fails_pipeline {stop : Nat} {ts : List Lexeme} {e : SyntaxError}
    (he : pipeline stop ts = .error e) :
    ∃ before after, PartFailsAt Pipeline.tokens pipeline stop e ts before after := by
  rw [pipeline] at he
  split at he
  · next e' hs =>
    cases he
    obtain ⟨before, after, h⟩ := fails_source hs
    exact ⟨before, after, pipelineFailsAt_source h⟩
  · next node ts₁ h₁ hs =>
    split at he
    · next e' hc =>
      cases he
      obtain ⟨_, after, h⟩ := fails_calls hc
      obtain ⟨before, h⟩ := pipelineFailsAt_calls hs h
      exact ⟨before, after, h⟩
    · cases he
termination_by 3 * ts.length + 1

theorem fails_calls {stop : Nat} {node : Expression} {ts : List Lexeme} {e : SyntaxError}
    (he : calls stop node ts = .error e) :
    ∃ before after, PartFailsAt Calls.tokens (calls · node) stop e ts before after := by
  rw [calls] at he
  split at he
  · cases he
  · next ts₁ h₁ hp =>
    split at he
    · next hn =>
      cases he
      obtain ⟨before, h⟩ := callsFailAt_name hp hn
      exact ⟨before, ts₁, h⟩
    · next filter ts₂ h₂ hn =>
      split at he
      · next e' ha =>
        cases he
        obtain ⟨_, after, h⟩ := fails_arguments ha
        obtain ⟨before, h⟩ := callsFailAt_arguments hp hn h
        exact ⟨before, after, h⟩
      · next args ts₃ h₃ ha =>
        split at he
        · next e' hc =>
          cases he
          obtain ⟨_, after, h⟩ := fails_calls hc
          obtain ⟨before, h⟩ := callsFailAt_others hp hn ha h
          exact ⟨before, after, h⟩
        · cases he
termination_by 3 * ts.length

theorem fails_arguments {stop : Nat} {ts : List Lexeme} {e : SyntaxError}
    (he : arguments stop ts = .error e) :
    ∃ before after, PartFailsAt Arguments.tokens arguments stop e ts before after := by
  rw [arguments] at he
  split at he
  · cases he
  · next ts₁ h₁ hcolon =>
    split at he
    · next e' hs =>
      cases he
      obtain ⟨_, after, h⟩ := fails_source hs
      obtain ⟨before, h⟩ := argumentsFailAt_argument hcolon h
      exact ⟨before, after, h⟩
    · next arg ts₂ h₂ hs =>
      split at he
      · next e' ha =>
        cases he
        obtain ⟨_, after, h⟩ := fails_arguments ha
        obtain ⟨before, h⟩ := argumentsFailAt_others hcolon hs h
        exact ⟨before, after, h⟩
      · cases he
termination_by 3 * ts.length

theorem fails_source {stop : Nat} {ts : List Lexeme} {e : SyntaxError}
    (he : source stop ts = .error e) :
    ∃ before after, PartFailsAt Source.tokens source stop e ts before after := by
  rw [source.eq_def] at he
  split at he
  · cases he
    refine ⟨[], [], sourceFailsAt_here (fun {stop' ts'} hhead => ?_) rfl id⟩
    obtain rfl : ts' = [] := by simpa using hhead
    exact ⟨.unexpectedEnd stop', by rw [source]⟩
  · next l ts₁ =>
    split at he
    · next word hw =>
      split at he
      · next hr =>
        cases he
        refine ⟨[], l :: ts₁, sourceFailsAt_here (fun {stop' ts'} hhead => ?_) rfl id⟩
        obtain ⟨l', ts', rfl, hl⟩ := exists_cons_of_head hhead
        exact source_fails_of_word (hl.trans hw) hr
      · next root hr =>
        split at he
        · next e' hs =>
          cases he
          obtain ⟨_, after, h⟩ := fails_segments [] (by simp) hs
          obtain ⟨before, h⟩ := sourceFailsAt_path hw hr h
          exact ⟨before, after, h⟩
        · cases he
    · next hp =>
      split at he
      · next e' hx =>
        cases he
        obtain ⟨_, after, h⟩ := fails_expression hx
        obtain ⟨before, h⟩ := sourceFailsAt_parens hp h
        exact ⟨before, after, h⟩
      · next inner ts₂ h₂ hx =>
        split at he
        · next hc =>
          cases he
          obtain ⟨before, h⟩ := sourceFailsAt_unclosed hp hx hc
          exact ⟨before, ts₂, h⟩
        · cases he
    · next hword hparen =>
      split at he
      · cases he
      · next hliteral =>
        cases he
        refine ⟨[], l :: ts₁, sourceFailsAt_here (fun {stop' ts'} hhead => ?_) rfl id⟩
        obtain ⟨l', ts', rfl, hl⟩ := exists_cons_of_head hhead
        rw [← hl] at hword hparen hliteral
        exact source_fails_of_token hword hparen hliteral
termination_by 3 * ts.length

end

/-! ## Whole bodies -/

/-- The tokens are those of an expression, for the parser. -/
def Accepts (vs : List Token) : Prop :=
  ∃ stop ts x, ts.map Lexeme.token = vs ∧ whole stop ts = .ok x

theorem accepts_tokens (d : Derivation) : Accepts d.tokens := by
  have htokens : (d.tokens.map fun t => (⟨t, 0, 0⟩ : Lexeme)).map Lexeme.token = d.tokens := by
    simp [Function.comp_def]
  exact ⟨0, _, _, htokens, whole_of_tokens htokens⟩

theorem fails_whole {stop : Nat} {ts : List Lexeme} {e : SyntaxError}
    (h : whole stop ts = .error e) :
    ∃ before after, FailsAt Accepts (fun stop ts => Fails (whole stop ts)) (Blames stop e) ts before
      after := by
  unfold whole at h
  split at h
  · next e' hx =>
    cases h
    obtain ⟨before, after, hfails⟩ := fails_expression hx
    refine ⟨before, after, hfails.first ?_ ?_⟩
    · rintro _ ⟨d, rfl⟩
      exact ⟨[], by simpa using accepts_tokens d⟩
    · rintro stop' ts' ⟨e, he⟩
      exact ⟨e, by rw [whole, he]⟩
  · next x rest hlt hx =>
    obtain ⟨d, -, hd⟩ := expression_sound hx
    split at h
    · cases h
    · next _ l rest hlt =>
      cases h
      have hmore : ∃ more, Accepts (d.tokens ++ more) := ⟨[], by simpa using accepts_tokens d⟩
      obtain ⟨before, hfails⟩ : ∃ before, FailsAt Accepts (fun stop ts => Fails (whole stop ts))
          (Blames stop (.unexpectedToken l.token.text l.start)) ts before (l :: rest) := by
        refine FailsAt.missing d.tokens (retraces_expression hx) hd hmore ?_
          fun _ => ⟨fun _ => rfl, fun he => absurd he id⟩
        rintro stop' ts' rest' hhead ⟨hlt', hx'⟩
        obtain ⟨l', rest', rfl, -⟩ := exists_cons_of_head hhead
        exact ⟨.unexpectedToken l'.token.text l'.start, by rw [whole, hx']⟩
      exact ⟨before, _, hfails⟩

/-- A list of tokens that is not accepted has a first wrong token: the tokens before it begin an
    accepted list, and with it they begin none. There, or at the end if there is no such token, is
    the error; only the one about a path that ends with a point is at that point, just before. -/
theorem blames_first_wrong {stop : Nat} {ts : List Lexeme} {e : SyntaxError}
    (h : whole stop ts = .error e) :
    ∃ k ≤ ts.length, (∃ more, Accepts ((ts.take k).map Lexeme.token ++ more)) ∧
      (k < ts.length → ∀ more, ¬Accepts ((ts.take (k + 1)).map Lexeme.token ++ more)) ∧
      Blames stop e (ts.take k) (ts.drop k) := by
  obtain ⟨before, after, rfl, hmore, hrefuted, hblames⟩ := fails_whole h
  refine ⟨before.length, by simp, by simpa using hmore, ?_, by simpa using hblames⟩
  rintro hlt more ⟨stop', ts', x, ht, hx⟩
  obtain ⟨l, after, rfl⟩ := List.exists_cons_of_length_pos (by simpa using hlt)
  -- An accepted list with these tokens would go along with the one that fails.
  have ht : ts'.map Lexeme.token = before.map Lexeme.token ++ l.token :: more := by
    rw [List.take_length_add_append] at ht
    simpa using ht
  obtain ⟨before', rest', rfl, hbefore, hrest⟩ := List.map_eq_append_iff.1 ht
  obtain ⟨l', after', rfl, hl, -⟩ := List.map_eq_cons_iff.1 hrest
  have halong : Along (l :: after) (l' :: after') (before ++ l :: after) (before' ++ l' :: after') :=
    .of_append hbefore (by simp [hl])
  obtain ⟨e', he'⟩ : Fails (whole stop' (before' ++ l' :: after')) := hrefuted halong
  cases hx.symm.trans he'

/-- A path in parentheses that ends with a point before a question mark. -/
def danglingPoint : List Lexeme :=
  [⟨.leftParen, 1, 2⟩, ⟨.identifier "Binding", 2, 9⟩, ⟨.identifier "A", 10, 11⟩, ⟨.dot, 11, 12⟩,
    ⟨.question, 13, 14⟩]

theorem blames_first_wrong_danglingPoint :
    whole 14 danglingPoint = .error (.invalidPath "path cannot end with '.'" 11) ∧
      ∃ k ≤ danglingPoint.length,
        (∃ more, Accepts ((danglingPoint.take k).map Lexeme.token ++ more)) ∧
        (k < danglingPoint.length →
          ∀ more, ¬Accepts ((danglingPoint.take (k + 1)).map Lexeme.token ++ more)) ∧
        Blames 14 (.invalidPath "path cannot end with '.'" 11) (danglingPoint.take k)
          (danglingPoint.drop k) := by
  have hmap : (whole 14 danglingPoint).map (fun _ => ()) =
      .error (.invalidPath "path cannot end with '.'" 11) := by decide +kernel
  have h : whole 14 danglingPoint = .error (.invalidPath "path cannot end with '.'" 11) := by
    cases hw : whole 14 danglingPoint <;> rw [hw] at hmap <;> cases hmap
    rfl
  exact ⟨h, blames_first_wrong h⟩

end Parser

end LiveForm
