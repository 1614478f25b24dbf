/-
  The grammar of expressions.

    expression := pipeline ('?' source ':' source)?
    pipeline   := source ('|' name (':' source)*)*
    source     := literal | root path | '(' expression ')'
    path       := name ('.' name)*

  A derivation in this grammar is a tree with one constructor for each form. It spells a list of
  tokens and stands for an expression, in which the filters of a pipeline are applied from left to
  right and their arguments keep their order.

  * `Derivation.tokens` and `Derivation.expression` are the two readings of a derivation;
  * `unique`: a list of tokens has at most one derivation, since the marks after a part decide where
    it ends;
  * `expression_sound` and `expression_complete`: the reader finds the derivation of the longest
    part that it can read, and finds none only where there is none.
-/
import LiveForm.Template.Parser

namespace LiveForm

/-- What comes of a mapped result came of the result. -/
theorem exists_of_map_ok {ε α β : Type} {f : α → β} {x : Except ε α} {b : β}
    (h : x.map f = .ok b) : ∃ a, x = .ok a ∧ f a = b := by
  cases x with
  | error e => cases h
  | ok a => exact ⟨a, rfl, Except.ok.inj h⟩

namespace Grammar

/-! ## Derivations -/

mutual

inductive Derivation where
  | plain (p : Pipeline)
  | conditional (p : Pipeline) (whenTrue whenFalse : Source)

inductive Pipeline where
  | mk (s : Source) (cs : Calls)

/-- Any number of filters with their arguments. -/
inductive Calls where
  | nil
  | cons (filter : String) (args : Arguments) (rest : Calls)

/-- Any number of arguments. -/
inductive Arguments where
  | nil
  | cons (s : Source) (rest : Arguments)

inductive Source where
  | literal (l : Literal)
  /-- A path by its first name and the names after it. -/
  | path (root : Root) (first : String) (others : List String)
  | parens (d : Derivation)

end

/-- The token of a literal. -/
def literalToken : Literal → Token
  | .null => .null
  | .boolean b => .boolean b
  | .integer n => .integer n
  | .decimal d => .decimal d
  | .string s => .string s

/-- The tokens of the names of a path after the first one. -/
def nameTokens : List String → List Token
  | [] => []
  | name :: names => .dot :: .identifier name :: nameTokens names

mutual

/-- The tokens that a derivation spells. -/
def Derivation.tokens : Derivation → List Token
  | .plain p => p.tokens
  | .conditional p t f => p.tokens ++ .question :: (t.tokens ++ .colon :: f.tokens)

def Pipeline.tokens : Pipeline → List Token
  | .mk s cs => s.tokens ++ cs.tokens

def Calls.tokens : Calls → List Token
  | .nil => []
  | .cons filter args rest => .pipe :: .identifier filter :: (args.tokens ++ rest.tokens)

def Arguments.tokens : Arguments → List Token
  | .nil => []
  | .cons s rest => .colon :: (s.tokens ++ rest.tokens)

def Source.tokens : Source → List Token
  | .literal l => [literalToken l]
  | .path root first others => .identifier root.keyword :: .identifier first :: nameTokens others
  | .parens d => .leftParen :: (d.tokens ++ [.rightParen])

end

mutual

/-- The expression that a derivation stands for. -/
def Derivation.expression : Derivation → Expression
  | .plain p => p.expression
  | .conditional p t f => .conditional p.expression t.expression f.expression

def Pipeline.expression : Pipeline → Expression
  | .mk s cs => cs.applyTo s.expression

/-- The filters applied to an expression, the first one innermost. -/
def Calls.applyTo (e : Expression) : Calls → Expression
  | .nil => e
  | .cons filter args rest => rest.applyTo (.pipe e filter args.expressions)

def Arguments.expressions : Arguments → List Expression
  | .nil => []
  | .cons s rest => s.expression :: rest.expressions

def Source.expression : Source → Expression
  | .literal l => .literal l
  | .path root first others => .path ⟨root, first :: others⟩
  | .parens d => d.expression

end

/-! ## Where a part ends -/

/-- Tokens that do not begin with one of some marks. -/
def Without (marks : List Token) (us : List Token) : Prop := ∀ t ∈ us.head?, t ∉ marks

/-- The marks with which a source, the arguments of a filter, a pipeline or an expression could go
    on. -/
def afterSource : List Token := [.dot]

def afterArguments : List Token := .colon :: afterSource

def afterPipeline : List Token := .pipe :: afterArguments

def afterExpression : List Token := .question :: afterPipeline

theorem Without.mono {marks marks' us : List Token} (h : Without marks us) (hs : marks' ⊆ marks) :
    Without marks' us := fun t ht hm => h t ht (hs hm)

theorem without_nil (marks : List Token) : Without marks [] := by simp [Without]

@[simp] theorem without_cons {marks us : List Token} {t : Token} :
    Without marks (t :: us) ↔ t ∉ marks := by simp [Without]

theorem Calls.without (cs : Calls) {us : List Token} (h : Without afterPipeline us) :
    Without afterArguments (cs.tokens ++ us) := by
  cases cs with
  | nil => exact h.mono (by simp [afterPipeline])
  | cons => simp [Calls.tokens, afterArguments, afterSource]

theorem Arguments.without (as : Arguments) {us : List Token} (h : Without afterArguments us) :
    Without afterSource (as.tokens ++ us) := by
  cases as with
  | nil => exact h.mono (by simp [afterArguments])
  | cons => simp [Arguments.tokens, afterSource]

/-! ## Derivations are unique -/

theorem literalToken_injective : Function.Injective literalToken := by
  intro l l' h
  cases l <;> cases l' <;> simp_all [literalToken]

theorem Root.keyword_injective : Function.Injective Root.keyword := by
  intro r r' h
  cases r <;> cases r' <;> simp_all [Root.keyword]

theorem nameTokens_unique {ns ns' : List String} {us us' : List Token}
    (hu : Without afterSource us) (hu' : Without afterSource us')
    (h : nameTokens ns ++ us = nameTokens ns' ++ us') : ns = ns' ∧ us = us' := by
  induction ns generalizing ns' with
  | nil =>
    cases ns' with
    | nil => exact ⟨rfl, h⟩
    | cons n' ns' =>
      simp only [nameTokens, List.nil_append, List.cons_append] at h
      simp [h, afterSource] at hu
  | cons n ns ih =>
    cases ns' with
    | nil =>
      simp only [nameTokens, List.nil_append, List.cons_append] at h
      simp [← h, afterSource] at hu'
    | cons n' ns' =>
      simp only [nameTokens, List.cons_append, List.cons.injEq, Token.identifier.injEq,
        true_and] at h
      obtain ⟨rfl, h⟩ := h
      obtain ⟨rfl, hus⟩ := ih h
      exact ⟨rfl, hus⟩

mutual

/-- Two derivations that spell beginnings of the same tokens are the same if neither could go on
    with the token after it. -/
theorem Derivation.unique {d d' : Derivation} {us us' : List Token}
    (hu : Without afterExpression us) (hu' : Without afterExpression us')
    (h : d.tokens ++ us = d'.tokens ++ us') : d = d' ∧ us = us' := by
  have hp : Without afterPipeline us := hu.mono (by simp [afterExpression])
  have hp' : Without afterPipeline us' := hu'.mono (by simp [afterExpression])
  have hs : Without afterSource us := hp.mono (by simp [afterPipeline, afterArguments])
  have hs' : Without afterSource us' := hp'.mono (by simp [afterPipeline, afterArguments])
  have mark : ∀ vs, Without afterPipeline (.question :: vs) := by
    simp [afterPipeline, afterArguments, afterSource]
  have colon : ∀ vs, Without afterSource (.colon :: vs) := by simp [afterSource]
  match d, d' with
  | .plain p, .plain p' =>
    obtain ⟨rfl, hus⟩ := Pipeline.unique hp hp' h
    exact ⟨rfl, hus⟩
  | .plain p, .conditional p' t' f' =>
    simp only [Derivation.tokens, List.append_assoc, List.cons_append] at h
    obtain ⟨-, rfl⟩ := Pipeline.unique hp (mark _) h
    simp [afterExpression] at hu
  | .conditional p t f, .plain p' =>
    simp only [Derivation.tokens, List.append_assoc, List.cons_append] at h
    obtain ⟨-, rfl⟩ := Pipeline.unique (mark _) hp' h
    simp [afterExpression] at hu'
  | .conditional p t f, .conditional p' t' f' =>
    simp only [Derivation.tokens, List.append_assoc, List.cons_append] at h
    obtain ⟨rfl, h₁⟩ := Pipeline.unique (mark _) (mark _) h
    obtain ⟨rfl, h₂⟩ := Source.unique (colon _) (colon _) (List.cons.inj h₁).2
    obtain ⟨rfl, hus⟩ := Source.unique hs hs' (List.cons.inj h₂).2
    exact ⟨rfl, hus⟩

theorem Pipeline.unique {p p' : Pipeline} {us us' : List Token}
    (hu : Without afterPipeline us) (hu' : Without afterPipeline us')
    (h : p.tokens ++ us = p'.tokens ++ us') : p = p' ∧ us = us' := by
  match p, p' with
  | .mk s cs, .mk s' cs' =>
    simp only [Pipeline.tokens, List.append_assoc] at h
    have hc := (cs.without hu).mono (List.subset_cons_self _ _)
    have hc' := (cs'.without hu').mono (List.subset_cons_self _ _)
    obtain ⟨rfl, h₁⟩ := Source.unique hc hc' h
    obtain ⟨rfl, hus⟩ := Calls.unique hu hu' h₁
    exact ⟨rfl, hus⟩

theorem Calls.unique {cs cs' : Calls} {us us' : List Token}
    (hu : Without afterPipeline us) (hu' : Without afterPipeline us')
    (h : cs.tokens ++ us = cs'.tokens ++ us') : cs = cs' ∧ us = us' := by
  match cs, cs' with
  | .nil, .nil => exact ⟨rfl, h⟩
  | .nil, .cons .. =>
    simp only [Calls.tokens, List.nil_append, List.cons_append] at h
    simp [h, afterPipeline] at hu
  | .cons .., .nil =>
    simp only [Calls.tokens, List.nil_append, List.cons_append] at h
    simp [← h, afterPipeline] at hu'
  | .cons f as rest, .cons f' as' rest' =>
    simp only [Calls.tokens, List.cons_append, List.append_assoc, List.cons.injEq,
      Token.identifier.injEq, true_and] at h
    obtain ⟨rfl, h₁⟩ := h
    obtain ⟨rfl, h₂⟩ := Arguments.unique (rest.without hu) (rest'.without hu') h₁
    obtain ⟨rfl, hus⟩ := Calls.unique hu hu' h₂
    exact ⟨rfl, hus⟩

theorem Arguments.unique {as as' : Arguments} {us us' : List Token}
    (hu : Without afterArguments us) (hu' : Without afterArguments us')
    (h : as.tokens ++ us = as'.tokens ++ us') : as = as' ∧ us = us' := by
  match as, as' with
  | .nil, .nil => exact ⟨rfl, h⟩
  | .nil, .cons .. =>
    simp only [Arguments.tokens, List.nil_append, List.cons_append] at h
    simp [h, afterArguments] at hu
  | .cons .., .nil =>
    simp only [Arguments.tokens, List.nil_append, List.cons_append] at h
    simp [← h, afterArguments] at hu'
  | .cons s rest, .cons s' rest' =>
    simp only [Arguments.tokens, List.cons_append, List.append_assoc, List.cons.injEq,
      true_and] at h
    obtain ⟨rfl, h₁⟩ := Source.unique (rest.without hu) (rest'.without hu') h
    obtain ⟨rfl, hus⟩ := Arguments.unique hu hu' h₁
    exact ⟨rfl, hus⟩

theorem Source.unique {s s' : Source} {us us' : List Token}
    (hu : Without afterSource us) (hu' : Without afterSource us')
    (h : s.tokens ++ us = s'.tokens ++ us') : s = s' ∧ us = us' := by
  match s, s' with
  | .literal l, .literal l' =>
    simp only [Source.tokens, List.cons_append, List.nil_append, List.cons.injEq] at h
    exact ⟨congrArg _ (literalToken_injective h.1), h.2⟩
  | .path root first others, .path root' first' others' =>
    simp only [Source.tokens, List.cons_append, List.cons.injEq, Token.identifier.injEq] at h
    obtain ⟨hroot, rfl, h⟩ := h
    obtain ⟨rfl, hus⟩ := nameTokens_unique hu hu' h
    exact ⟨by rw [Root.keyword_injective hroot], hus⟩
  | .parens d, .parens d' =>
    simp only [Source.tokens, List.cons_append, List.append_assoc, List.nil_append,
      List.cons.injEq, true_and] at h
    have close : ∀ vs, Without afterExpression (.rightParen :: vs) := by
      simp [afterExpression, afterPipeline, afterArguments, afterSource]
    obtain ⟨rfl, h₁⟩ := Derivation.unique (close _) (close _) h
    exact ⟨rfl, (List.cons.inj h₁).2⟩
  | .literal l, .path .. | .literal l, .parens _ | .path .., .literal l | .parens _, .literal l =>
    cases l <;> simp [Source.tokens, literalToken] at h
  | .path .., .parens _ | .parens _, .path .. => simp [Source.tokens] at h

end

/-! ## What is read has a derivation -/

theorem tokens_of_next? {t : Token} {ts rest : List Lexeme} {u : Unit}
    {h : rest.length < ts.length} (hn : Parser.next? t ts = some ⟨u, rest, h⟩) :
    ts.map Lexeme.token = t :: rest.map Lexeme.token := by
  cases ts with
  | nil => simp [Parser.next?] at hn
  | cons l ts =>
    simp only [Parser.next?] at hn
    split at hn
    · next ht => cases hn; simp [ht]
    · cases hn

theorem tokens_of_name? {ts rest : List Lexeme} {name : String}
    {h : rest.length < ts.length} (hn : Parser.name? ts = some ⟨name, rest, h⟩) :
    ts.map Lexeme.token = .identifier name :: rest.map Lexeme.token := by
  unfold Parser.name? at hn
  split at hn
  · cases hn; rfl
  · cases hn

theorem keyword_of_ofKeyword? {word : String} {root : Root}
    (h : Root.ofKeyword? word = some root) : word = root.keyword := by
  unfold Root.ofKeyword? at h
  split at h
  · next hw => cases h; exact hw
  · split at h
    · next hw => cases h; exact hw
    · cases h

theorem token_of_literal? {t : Token} {l : Literal} (h : Parser.literal? t = some l) :
    t = literalToken l := by
  cases t <;> cases h <;> rfl

theorem segments_sound {stop : Nat} {afterDot : Option Nat} {ts rest : List Lexeme}
    {names : List String} (h : Parser.segments stop afterDot ts = .ok (names, rest)) :
    ∃ first others, names = first :: others ∧
      ts.map Lexeme.token = .identifier first :: (nameTokens others ++ rest.map Lexeme.token) := by
  fun_induction Parser.segments stop afterDot ts generalizing names rest with
  | case1 afterDot name _ _ dot _ ts ih =>
    obtain ⟨⟨ns, r⟩, hs, hr⟩ := exists_of_map_ok h
    cases hr
    obtain ⟨first, others, rfl, ht⟩ := ih hs
    exact ⟨name, first :: others, rfl, by simp [nameTokens, ht]⟩
  | case2 afterDot name _ _ ts =>
    simp only [Except.ok.injEq, Prod.mk.injEq] at h
    obtain ⟨rfl, rfl⟩ := h
    exact ⟨name, [], rfl, by simp [nameTokens]⟩
  | case3 => cases h
  | case4 => cases h
  | case5 => cases h

mutual

/-- What is read as an expression has a derivation, which spells the tokens up to the rest. -/
theorem expression_sound {stop : Nat} {ts rest : List Lexeme} {e : Expression}
    {h : rest.length < ts.length} (he : Parser.expression stop ts = .ok ⟨e, rest, h⟩) :
    ∃ d : Derivation, d.expression = e ∧
      ts.map Lexeme.token = d.tokens ++ rest.map Lexeme.token := by
  rw [Parser.expression] at he
  split at he
  · cases he
  · next c ts₁ h₁ hp =>
    obtain ⟨p, rfl, ht⟩ := pipeline_sound hp
    split at he
    · cases he
      exact ⟨.plain p, rfl, ht⟩
    · next ts₂ h₂ hq =>
      split at he
      · cases he
      · next t ts₃ h₃ hs =>
        obtain ⟨t, rfl, ht₂⟩ := source_sound hs
        split at he
        · cases he
        · next ts₄ h₄ hc =>
          split at he
          · cases he
          · next f ts₅ h₅ hf =>
            obtain ⟨f, rfl, ht₄⟩ := source_sound hf
            cases he
            refine ⟨.conditional p t f, rfl, ?_⟩
            rw [ht, tokens_of_next? hq, ht₂, tokens_of_next? hc, ht₄]
            simp [Derivation.tokens]
termination_by 3 * ts.length + 2

theorem pipeline_sound {stop : Nat} {ts rest : List Lexeme} {e : Expression}
    {h : rest.length < ts.length} (he : Parser.pipeline stop ts = .ok ⟨e, rest, h⟩) :
    ∃ p : Pipeline, p.expression = e ∧
      ts.map Lexeme.token = p.tokens ++ rest.map Lexeme.token := by
  rw [Parser.pipeline] at he
  split at he
  · cases he
  · next node ts₁ h₁ hs =>
    obtain ⟨s, rfl, ht⟩ := source_sound hs
    split at he
    · cases he
    · next piped ts₂ h₂ hc =>
      obtain ⟨cs, rfl, ht₁⟩ := calls_sound hc
      cases he
      exact ⟨.mk s cs, rfl, by rw [ht, ht₁]; simp [Pipeline.tokens]⟩
termination_by 3 * ts.length + 1

theorem calls_sound {stop : Nat} {ts rest : List Lexeme} {node e : Expression}
    {h : rest.length ≤ ts.length} (he : Parser.calls stop node ts = .ok ⟨e, rest, h⟩) :
    ∃ cs : Calls, cs.applyTo node = e ∧
      ts.map Lexeme.token = cs.tokens ++ rest.map Lexeme.token := by
  rw [Parser.calls] at he
  split at he
  · cases he
    exact ⟨.nil, rfl, rfl⟩
  · next ts₁ h₁ hp =>
    split at he
    · cases he
    · next filter ts₂ h₂ hn =>
      split at he
      · cases he
      · next args ts₃ h₃ ha =>
        obtain ⟨as, rfl, ht₂⟩ := arguments_sound ha
        split at he
        · cases he
        · next piped ts₄ h₄ hc =>
          obtain ⟨cs, hcs, ht₃⟩ := calls_sound hc
          cases he
          refine ⟨.cons filter as cs, hcs, ?_⟩
          rw [tokens_of_next? hp, tokens_of_name? hn, ht₂, ht₃]
          simp [Calls.tokens]
termination_by 3 * ts.length

theorem arguments_sound {stop : Nat} {ts rest : List Lexeme} {es : List Expression}
    {h : rest.length ≤ ts.length} (he : Parser.arguments stop ts = .ok ⟨es, rest, h⟩) :
    ∃ as : Arguments, as.expressions = es ∧
      ts.map Lexeme.token = as.tokens ++ rest.map Lexeme.token := by
  rw [Parser.arguments] at he
  split at he
  · cases he
    exact ⟨.nil, rfl, rfl⟩
  · next ts₁ h₁ hc =>
    split at he
    · cases he
    · next arg ts₂ h₂ hs =>
      obtain ⟨s, rfl, ht₁⟩ := source_sound hs
      split at he
      · cases he
      · next args ts₃ h₃ ha =>
        obtain ⟨as, rfl, ht₂⟩ := arguments_sound ha
        cases he
        refine ⟨.cons s as, rfl, ?_⟩
        rw [tokens_of_next? hc, ht₁, ht₂]
        simp [Arguments.tokens]
termination_by 3 * ts.length

theorem source_sound {stop : Nat} {ts rest : List Lexeme} {e : Expression}
    {h : rest.length < ts.length} (he : Parser.source stop ts = .ok ⟨e, rest, h⟩) :
    ∃ s : Source, s.expression = e ∧
      ts.map Lexeme.token = s.tokens ++ rest.map Lexeme.token := by
  rw [Parser.source.eq_def] at he
  split at he
  · cases he
  · next l ts₁ =>
    split at he
    · next word hw =>
      split at he
      · cases he
      · next root hr =>
        split at he
        · cases he
        · next names ts₂ hs =>
          obtain ⟨first, others, rfl, ht⟩ := segments_sound hs
          cases he
          refine ⟨.path root first others, rfl, ?_⟩
          simp [Source.tokens, hw, keyword_of_ofKeyword? hr, ht]
    · next hp =>
      split at he
      · cases he
      · next inner ts₂ h₂ hx =>
        obtain ⟨d, rfl, ht⟩ := expression_sound hx
        split at he
        · cases he
        · next ts₃ h₃ hc =>
          cases he
          refine ⟨.parens d, rfl, ?_⟩
          rw [List.map_cons, hp, ht, tokens_of_next? hc]
          simp [Source.tokens]
    · split at he
      · next literal hl =>
        cases he
        refine ⟨.literal literal, rfl, ?_⟩
        rw [List.map_cons, token_of_literal? hl]
        rfl
      · cases he
termination_by 3 * ts.length

end

/-! ## What has a derivation is read -/

theorem next?_eq_some {t : Token} {ts : List Lexeme} {vs : List Token}
    (ht : ts.map Lexeme.token = t :: vs) :
    ∃ rest h, Parser.next? t ts = some ⟨(), rest, h⟩ ∧ rest.map Lexeme.token = vs := by
  obtain ⟨l, rest, rfl, hl, hr⟩ := List.map_eq_cons_iff.1 ht
  exact ⟨rest, by simp, by simp [Parser.next?, hl], hr⟩

theorem next?_eq_none {t : Token} {ts : List Lexeme} {marks vs : List Token}
    (ht : ts.map Lexeme.token = vs) (hv : Without marks vs) (hm : t ∈ marks) :
    Parser.next? t ts = none := by
  cases ts with
  | nil => rfl
  | cons l ts =>
    subst ht
    rw [List.map_cons, without_cons] at hv
    have hl : l.token ≠ t := fun h => hv (h ▸ hm)
    simp [Parser.next?, hl]

theorem name?_eq_some {ts : List Lexeme} {name : String} {vs : List Token}
    (ht : ts.map Lexeme.token = .identifier name :: vs) :
    ∃ rest h, Parser.name? ts = some ⟨name, rest, h⟩ ∧ rest.map Lexeme.token = vs := by
  obtain ⟨⟨t, start, stop⟩, rest, rfl, rfl, hr⟩ := List.map_eq_cons_iff.1 ht
  exact ⟨rest, by simp, rfl, hr⟩

theorem ofKeyword?_keyword (root : Root) : Root.ofKeyword? root.keyword = some root := by
  cases root <;> decide

theorem segments_complete (stop : Nat) (afterDot : Option Nat) {first : String}
    {others : List String} {ts : List Lexeme} {us : List Token}
    (ht : ts.map Lexeme.token = .identifier first :: (nameTokens others ++ us))
    (hu : Without afterSource us) :
    ∃ rest, Parser.segments stop afterDot ts = .ok (first :: others, rest) ∧
      rest.map Lexeme.token = us := by
  induction others generalizing first ts afterDot with
  | nil =>
    obtain ⟨⟨t, start, stop'⟩, rest, rfl, rfl, hr⟩ := List.map_eq_cons_iff.1 ht
    refine ⟨rest, ?_, hr⟩
    rw [Parser.segments]
    intro _ _ _ hd
    subst hd
    rw [nameTokens, List.nil_append] at hr
    simp [← hr, afterSource] at hu
  | cons other others ih =>
    obtain ⟨⟨t, start, stop'⟩, ts₁, rfl, rfl, h₁⟩ := List.map_eq_cons_iff.1 ht
    obtain ⟨⟨t, at_, stop''⟩, ts₂, rfl, rfl, h₂⟩ := List.map_eq_cons_iff.1 h₁
    obtain ⟨rest, hs, hr⟩ := ih (some at_) h₂
    exact ⟨rest, by simp [Parser.segments, hs, Except.map], hr⟩

mutual

/-- The tokens of a derivation are read as its expression, up to a token that it could not go on
    with. -/
theorem expression_complete (stop : Nat) {d : Derivation} {ts : List Lexeme} {us : List Token}
    (ht : ts.map Lexeme.token = d.tokens ++ us) (hu : Without afterExpression us) :
    ∃ rest h, Parser.expression stop ts = .ok ⟨d.expression, rest, h⟩ ∧
      rest.map Lexeme.token = us := by
  have hp : Without afterPipeline us := hu.mono (by simp [afterExpression])
  have hs : Without afterSource us := hp.mono (by simp [afterPipeline, afterArguments])
  match d with
  | .plain p =>
    obtain ⟨rest, h, he, hr⟩ := pipeline_complete stop ht hp
    refine ⟨rest, h, ?_, hr⟩
    rw [Parser.expression, he]
    simp [next?_eq_none (t := .question) hr hu (by simp [afterExpression]), Derivation.expression]
  | .conditional p t f =>
    simp only [Derivation.tokens, List.append_assoc, List.cons_append] at ht
    obtain ⟨ts₁, h₁, hp₁, ht₁⟩ := pipeline_complete stop ht
      (by simp [afterPipeline, afterArguments, afterSource])
    obtain ⟨ts₂, h₂, hq, ht₂⟩ := next?_eq_some ht₁
    obtain ⟨ts₃, h₃, hw, ht₃⟩ := source_complete stop ht₂ (by simp [afterSource])
    obtain ⟨ts₄, h₄, hc, ht₄⟩ := next?_eq_some ht₃
    obtain ⟨ts₅, h₅, hf, ht₅⟩ := source_complete stop ht₄ hs
    refine ⟨ts₅, by omega, ?_, ht₅⟩
    rw [Parser.expression, hp₁]
    simp [hq, hw, hc, hf, Derivation.expression]

theorem pipeline_complete (stop : Nat) {p : Pipeline} {ts : List Lexeme} {us : List Token}
    (ht : ts.map Lexeme.token = p.tokens ++ us) (hu : Without afterPipeline us) :
    ∃ rest h, Parser.pipeline stop ts = .ok ⟨p.expression, rest, h⟩ ∧
      rest.map Lexeme.token = us := by
  match p with
  | .mk s cs =>
    simp only [Pipeline.tokens, List.append_assoc] at ht
    have hs := (cs.without hu).mono (List.subset_cons_self _ _)
    obtain ⟨ts₁, h₁, hs₁, ht₁⟩ := source_complete stop ht hs
    obtain ⟨ts₂, h₂, hc, ht₂⟩ := calls_complete stop s.expression ht₁ hu
    refine ⟨ts₂, by omega, ?_, ht₂⟩
    rw [Parser.pipeline, hs₁]
    simp [hc, Pipeline.expression]

theorem calls_complete (stop : Nat) (node : Expression) {cs : Calls} {ts : List Lexeme}
    {us : List Token} (ht : ts.map Lexeme.token = cs.tokens ++ us)
    (hu : Without afterPipeline us) :
    ∃ rest h, Parser.calls stop node ts = .ok ⟨cs.applyTo node, rest, h⟩ ∧
      rest.map Lexeme.token = us := by
  match cs with
  | .nil =>
    refine ⟨ts, Nat.le_refl _, ?_, ht⟩
    rw [Parser.calls, next?_eq_none ht hu (by simp [afterPipeline])]
    rfl
  | .cons filter as rest =>
    simp only [Calls.tokens, List.cons_append, List.append_assoc] at ht
    obtain ⟨ts₁, h₁, hp, ht₁⟩ := next?_eq_some ht
    obtain ⟨ts₂, h₂, hn, ht₂⟩ := name?_eq_some ht₁
    obtain ⟨ts₃, h₃, ha, ht₃⟩ := arguments_complete stop ht₂ (rest.without hu)
    obtain ⟨ts₄, h₄, hc, ht₄⟩ := calls_complete stop
      (.pipe node filter as.expressions) ht₃ hu
    refine ⟨ts₄, by omega, ?_, ht₄⟩
    rw [Parser.calls, hp]
    simp [hn, ha, hc, Calls.applyTo]

theorem arguments_complete (stop : Nat) {as : Arguments} {ts : List Lexeme} {us : List Token}
    (ht : ts.map Lexeme.token = as.tokens ++ us) (hu : Without afterArguments us) :
    ∃ rest h, Parser.arguments stop ts = .ok ⟨as.expressions, rest, h⟩ ∧
      rest.map Lexeme.token = us := by
  match as with
  | .nil =>
    refine ⟨ts, Nat.le_refl _, ?_, ht⟩
    rw [Parser.arguments, next?_eq_none ht hu (by simp [afterArguments])]
    rfl
  | .cons s rest =>
    simp only [Arguments.tokens, List.cons_append, List.append_assoc] at ht
    obtain ⟨ts₁, h₁, hc, ht₁⟩ := next?_eq_some ht
    obtain ⟨ts₂, h₂, hs, ht₂⟩ := source_complete stop ht₁ (rest.without hu)
    obtain ⟨ts₃, h₃, ha, ht₃⟩ := arguments_complete stop ht₂ hu
    refine ⟨ts₃, by omega, ?_, ht₃⟩
    rw [Parser.arguments, hc]
    simp [hs, ha, Arguments.expressions]

theorem source_complete (stop : Nat) {s : Source} {ts : List Lexeme} {us : List Token}
    (ht : ts.map Lexeme.token = s.tokens ++ us) (hu : Without afterSource us) :
    ∃ rest h, Parser.source stop ts = .ok ⟨s.expression, rest, h⟩ ∧
      rest.map Lexeme.token = us := by
  match s with
  | .literal l =>
    obtain ⟨⟨t, start, stop'⟩, rest, rfl, rfl, hr⟩ := List.map_eq_cons_iff.1 ht
    refine ⟨rest, by simp, ?_, hr⟩
    rw [Parser.source]
    cases l <;> rfl
  | .path root first others =>
    simp only [Source.tokens, List.cons_append] at ht
    obtain ⟨⟨t, start, stop'⟩, ts₁, rfl, rfl, h₁⟩ := List.map_eq_cons_iff.1 ht
    obtain ⟨rest, hs, hr⟩ := segments_complete stop none h₁ hu
    refine ⟨rest, Nat.lt_succ_of_lt (Parser.segments_length hs), ?_, hr⟩
    rw [Parser.source]
    simp only [ofKeyword?_keyword]
    split
    · next e he => cases hs.symm.trans he
    · next names ts₂ he =>
      cases hs.symm.trans he
      rfl
  | .parens d =>
    simp only [Source.tokens, List.cons_append, List.append_assoc, List.nil_append] at ht
    obtain ⟨⟨t, start, stop'⟩, ts₁, rfl, rfl, h₁⟩ := List.map_eq_cons_iff.1 ht
    obtain ⟨ts₂, h₂, he, ht₂⟩ := expression_complete stop h₁
      (by simp [afterExpression, afterPipeline, afterArguments, afterSource])
    obtain ⟨ts₃, h₃, hc, ht₃⟩ := next?_eq_some ht₂
    refine ⟨ts₃, by simp only [List.length_cons]; omega, ?_, ht₃⟩
    rw [Parser.source]
    simp [he, hc, Source.expression]

end

/-! ## Whole bodies -/

/-- The tokens of a derivation are read as its expression, wherever they stand. -/
theorem whole_of_tokens {stop : Nat} {ts : List Lexeme} {d : Derivation}
    (hd : ts.map Lexeme.token = d.tokens) : Parser.whole stop ts = .ok d.expression := by
  obtain ⟨rest, h, he, hr⟩ := expression_complete stop
    (by rw [hd, List.append_nil]) (without_nil afterExpression)
  obtain rfl := List.map_eq_nil_iff.1 hr
  simp [Parser.whole, he]

/-- What is read has a derivation that stands for it. -/
theorem derivation_of_whole {stop : Nat} {ts : List Lexeme} {e : Expression}
    (h : Parser.whole stop ts = .ok e) :
    ∃ d : Derivation, d.expression = e ∧ ts.map Lexeme.token = d.tokens := by
  unfold Parser.whole at h
  split at h
  · cases h
  · next e' rest hlt he =>
    obtain ⟨d, rfl, ht⟩ := expression_sound he
    split at h
    · cases h
      exact ⟨d, rfl, by simpa using ht⟩
    · cases h

/-- The reader takes a list of tokens as one expression exactly if it has a derivation. It then has
    no other one, and the expression read is the one that the derivation stands for. -/
theorem whole_reads_derivation (stop : Nat) (ts : List Lexeme) :
    ((∃ e, Parser.whole stop ts = .ok e) ↔ ∃ d : Derivation, d.tokens = ts.map Lexeme.token) ∧
      ∀ d : Derivation, d.tokens = ts.map Lexeme.token →
        Parser.whole stop ts = .ok d.expression ∧
          ∀ d' : Derivation, d'.tokens = ts.map Lexeme.token → d' = d := by
  have complete : ∀ d : Derivation, d.tokens = ts.map Lexeme.token →
      Parser.whole stop ts = .ok d.expression := fun _ hd => whole_of_tokens hd.symm
  refine ⟨⟨?_, fun ⟨d, hd⟩ => ⟨_, complete d hd⟩⟩, fun d hd => ⟨complete d hd, ?_⟩⟩
  · rintro ⟨e, he⟩
    obtain ⟨d, -, ht⟩ := derivation_of_whole he
    exact ⟨d, ht.symm⟩
  · intro d' hd'
    have h : d'.tokens ++ [] = d.tokens ++ [] := by rw [hd, hd']
    exact (Derivation.unique (without_nil _) (without_nil _) h).1

end Grammar

end LiveForm
