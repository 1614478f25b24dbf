/-
  Equal data gives equal values, up to the wording.

  Values that are equal may have different texts, as the integer 1 and the decimal 1.0 have. So an
  expression has equal values in two scopes that hold equal data, unless the evaluation makes use of
  the text of a value that it reads and the texts differ.

  * `Expression.written`: the paths whose texts an evaluation uses;
  * `Culture.Alike`: two values are equal and, where it matters, have the same text;
  * `Filter.Respects`: alike operands give alike results; `respects_of_mem_standard`, by cases over
    the ways to make a filter;
  * `Scope.Equal`: two scopes hold equal data; `evaluate_of_equal`: the result, and
    `not_same_of_equal`: the texts matter.
-/
import LiveForm.Proofs.Likeness

namespace LiveForm

/-! ## Equal values -/

namespace Value

variable {v v' w w' : Value}

theorem isNull_of_same (h : v.same w) : v.isNull = w.isNull := by
  cases v <;> cases w <;> first | rfl | cases h

theorem isEmpty_of_same (h : v.same w) : v.isEmpty = w.isEmpty := by
  cases v with
  | string a => cases w with
    | string b => rw [beq_iff_eq.1 h]
    | _ => cases h
  | collection as => cases w with
    | collection bs => exact isEmpty_of_sameItems h
    | _ => cases h
  | _ => cases w <;> first | rfl | cases h

/-- Whether two values are equal does not change when both are replaced by equal ones. -/
theorem same_congr_both (h : v.same v') (h' : w.same w') : v.same w = v'.same w' := by
  rw [same_congr h', same_comm v, same_comm v', same_congr h]

/-- Equal values have the same places in the order. -/
theorem order?_of_same_both (h : v.same v') (h' : w.same w') : v.order? w = v'.order? w' := by
  rw [order?_of_same h', order?_swap w' v, order?_swap w' v', order?_of_same h]

theorem length_of_sameItems {vs ws : List Value} (h : sameItems vs ws) : vs.length = ws.length := by
  match vs, ws with
  | [], [] => rfl
  | v :: vs, w :: ws =>
    exact congrArg (· + 1) (length_of_sameItems (Bool.and_eq_true_iff.1 h).2)

end Value

/-! ## Texts of equal values -/

namespace Culture

variable {c : Culture} {b : Bool} {v w : Value}

/-- What stands between the separators when a value is joined: the texts of the items of a
    collection, and the one text of any other value. -/
def texts (c : Culture) : Value → List String
  | .collection items => items.map c.format
  | v => [c.format v]

/-- Two values are equal; if their texts are `used`, these are the same, too. -/
structure Alike (c : Culture) (used : Bool) (v w : Value) : Prop where
  same : v.same w
  texts : used → c.texts v = c.texts w

theorem Alike.refl (c : Culture) (b : Bool) (v : Value) : c.Alike b v v :=
  ⟨v.same_refl, fun _ => rfl⟩

theorem Alike.of_eq (h : v = w) : c.Alike b v w := h ▸ .refl c b v

theorem formatItems_congr {vs ws : List Value} (h : vs.map c.format = ws.map c.format) :
    c.formatItems vs = c.formatItems ws := by
  match vs, ws with
  | [], [] => rfl
  | [v], [w] => exact List.head_eq_of_cons_eq h
  | [_], _ :: _ :: _ | _ :: _ :: _, [_] => exact absurd (congrArg List.length h) (by simp)
  | v :: v' :: vs, w :: w' :: ws =>
    obtain ⟨hv, h⟩ := List.cons_eq_cons.1 h
    have rest : c.formatItems (v' :: vs) = c.formatItems (w' :: ws) := formatItems_congr h
    rw [formatItems, formatItems, hv, rest]

/-- Where the texts matter, the values have the same text. -/
theorem Alike.format (h : c.Alike true v w) : c.format v = c.format w := by
  have ht := h.texts rfl
  have hs := h.same
  cases v with
  | collection vs => cases w with
    | collection ws => exact formatItems_congr ht
    | _ => cases hs
  | _ => cases w with
    | collection ws => cases hs
    | _ => exact List.head_eq_of_cons_eq ht

end Culture

/-! ## Filters -/

/-- Two evaluations agree: both give a value, and the values are related, or both fail. -/
inductive Agree {α β ε ε' : Type} (R : α → β → Prop) : Except ε α → Except ε' β → Prop
  | ok {a b} : R a b → Agree R (.ok a) (.ok b)
  | error {e e'} : Agree R (.error e) (.error e')

theorem Agree.bind {α α' β β' ε ε' : Type} {R : α → α' → Prop} {S : β → β' → Prop}
    {x : Except ε α} {x' : Except ε' α'} {f : α → Except ε β} {f' : α' → Except ε' β'}
    (h : Agree R x x') (hf : ∀ a a', x = .ok a → R a a' → Agree S (f a) (f' a')) :
    Agree S (x >>= f) (x' >>= f') := by
  cases h with
  | ok h => exact hf _ _ rfl h
  | error => exact .error

namespace Filter

/-- The filters that give a text made of the text of the piped value, or judge that text. -/
def textual : List String := ["ToUpper", "ToLower", "Trim", "ToString", "Matches", "Join"]

/-- Whether a standard filter uses the text of the value that is piped into it, if the text of its
    result is `used`. -/
def usesPiped (name : String) (v : Value) (used : Bool) : Bool :=
  textual.contains name || (name == "Default" && used && !v.isEmpty)

/-- Whether a standard filter uses the texts of its arguments, if the text of its result is `used`. -/
def usesArguments (name : String) (v : Value) (used : Bool) : Bool :=
  name == "Join" || (name == "Contains" && v.string?.isSome) ||
    (name == "Default" && used && v.isEmpty)

/-- Alike operands give alike results. -/
def Respects (c : Culture) (f : Filter) : Prop :=
  ∀ b v v' args args', c.Alike (usesPiped f.name v b) v v' →
    List.Forall₂ (c.Alike (usesArguments f.name v b)) args args' →
    Agree (c.Alike b) (f.apply c v args) (f.apply c v' args')

variable {c : Culture} {name doc : String}

theorem usesPiped_of_textual (h : name ∈ textual) (v : Value) (b : Bool) :
    usesPiped name v b = true := by
  rw [usesPiped, List.contains_iff_mem.2 h, Bool.true_or]

theorem respects_ofPredicate {p : Value → Bool} (h : ∀ {v w}, v.same w → p v = p w) :
    (ofPredicate name doc p).Respects c := by
  intro b v v' args args' hv _
  exact .ok (.of_eq (congrArg Value.boolean (h hv.same)))

theorem headD_alike {b : Bool} {args args' : List Value} (h : List.Forall₂ (c.Alike b) args args') :
    c.Alike b (args.headD .null) (args'.headD .null) := by
  cases h with
  | nil => exact .refl c b .null
  | cons h _ => exact h

/-- A test with the same outcome for alike operands. -/
theorem respects_ofTest {f : Culture → Value → Value → Except FilterError Bool}
    (h : ∀ b v v' w w', c.Alike (usesPiped name v b) v v' →
      c.Alike (usesArguments name v b) w w' → Agree Eq (f c v w) (f c v' w')) :
    (ofTest name doc f).Respects c := by
  intro b v v' args args' hv hargs
  have hf := h b v v' _ _ hv (headD_alike hargs)
  show Agree _ ((f c v (args.headD .null)).map Value.boolean)
    ((f c v' (args'.headD .null)).map Value.boolean)
  generalize f c v (args.headD .null) = x, f c v' (args'.headD .null) = y at hf
  cases hf with
  | ok h => exact .ok (.of_eq (congrArg Value.boolean h))
  | error => exact .error

theorem respects_ofOrder (accept : Ordering → Bool) : (ofOrder name accept).Respects c := by
  refine respects_ofTest fun b v v' w w' hv hw => ?_
  rw [Value.isNull_of_same hv.same, Value.isNull_of_same hw.same]
  split
  · exact .ok rfl
  · rw [Value.order?_of_same_both hv.same hw.same]
    cases v'.order? w' with
    | some o => exact .ok rfl
    | none => exact .error

theorem respects_ofText (h : name ∈ textual) (f : List Char → List Char) :
    (ofText name f).Respects c := by
  intro b v v' args args' hv _
  rw [show (ofText name f).name = name from rfl, usesPiped_of_textual h] at hv
  refine .ok ?_
  dsimp only
  rw [← Value.isNull_of_same hv.same, ← hv.format]
  split
  · exact ⟨hv.same, fun _ => hv.texts rfl⟩
  · exact .refl c b _

theorem respects_toString {h} :
    (ofValue "ToString" doc (fun c v => .string (c.format v)) h).Respects c := by
  intro b v v' args args' hv _
  exact .ok (.of_eq (congrArg Value.string hv.format))

theorem respects_matchesPattern : matchesPattern.Respects c := by
  refine respects_ofTest fun b v v' w w' hv hw => ?_
  have hs := hw.same
  cases w with
  | string pattern => cases w' with
    | string pattern' =>
      obtain rfl : pattern = pattern' := beq_iff_eq.1 hs
      rw [usesPiped_of_textual (by decide)] at hv
      dsimp only
      rw [Value.isNull_of_same hv.same, hv.format]
      split
      · exact .ok rfl
      · cases Pattern.read? pattern with
        | some p => exact .ok rfl
        | none => exact .error
    | _ => cases hs
  | _ => cases w' with
    | string => cases hs
    | _ => exact .error

theorem respects_length : length.Respects c := by
  intro b v v' args args' hv _
  have hs := hv.same
  cases v with
  | string s => cases v' with
    | string s' =>
      obtain rfl : s = s' := beq_iff_eq.1 hs
      exact .ok (.refl c b _)
    | _ => cases hs
  | collection vs => cases v' with
    | collection vs' =>
      refine .ok (.of_eq ?_)
      rw [Value.length_of_sameItems hs]
    | _ => cases hs
  | noValue | null => cases v' <;> first | exact .ok (.refl c b _) | cases hs
  | _ => cases v' <;> first | exact .error | cases hs

theorem apply_join (c : Culture) (v : Value) (args : List Value) : join.apply c v args =
    .ok (.string (Text.join (args.head?.elim c.listSeparator c.format) (c.texts v))) := by
  cases v <;> cases args <;> rfl

theorem respects_join : join.Respects c := by
  intro b v v' args args' hv hargs
  rw [apply_join, apply_join, hv.texts rfl]
  cases hargs with
  | nil => exact .ok (.refl c b _)
  | cons h _ => exact .ok (.of_eq (by simp only [List.head?_cons, Option.elim, h.format]))

theorem respects_contains : contains.Respects c := by
  refine respects_ofTest fun b v v' w w' hv hw => ?_
  have hs := hv.same
  cases v with
  | collection vs => cases v' with
    | collection vs' =>
      refine .ok ?_
      rw [Value.holds_of_same hs, Value.holds, Value.holds]
      exact congrArg vs'.any (funext fun u => Value.same_congr hw.same)
    | _ => cases hs
  | string s => cases v' with
    | string s' =>
      obtain rfl : s = s' := beq_iff_eq.1 hs
      have hf : c.format w = c.format w' := hw.format
      refine .ok ?_
      rw [hf]
    | _ => cases hs
  | _ => cases v' <;> first | exact .ok rfl | cases hs

theorem usesPiped_default (v : Value) (b : Bool) :
    usesPiped "Default" v b = (b && !v.isEmpty) := by
  simp [usesPiped, textual]

theorem usesArguments_default (v : Value) (b : Bool) :
    usesArguments "Default" v b = (b && v.isEmpty) := by
  simp [usesArguments]

/-- The argument stands in for an empty value, and whichever is given keeps its text. -/
theorem respects_default {h} : (ofPair "Default" doc (fun _ v arg => .ok (if v.isEmpty then arg else v))
    h).Respects c := by
  intro b v v' args args' hv hargs
  have hw := headD_alike hargs
  rw [show (ofPair "Default" doc _ h).name = "Default" from rfl] at hv hw
  rw [usesPiped_default] at hv
  rw [usesArguments_default] at hw
  refine .ok ?_
  rw [← Value.isEmpty_of_same hv.same]
  split
  · next he => exact ⟨hw.same, fun hb => hw.texts (by rw [hb, he]; rfl)⟩
  · next he => exact ⟨hv.same, fun hb => hv.texts (by rw [hb, Bool.eq_false_iff.2 he]; rfl)⟩

/-- All standard filters give alike results for alike operands. -/
theorem respects_of_mem_standard {f : Filter} (h : f ∈ standard) : f.Respects c := by
  have not_congr {p : Value → Bool} (hp : ∀ {v w : Value}, v.same w → p v = p w) {v w : Value}
      (h : v.same w) : (!p v) = !p w := by rw [hp h]
  simp only [standard, List.mem_cons, List.not_mem_nil, or_false] at h
  rcases h with rfl | rfl | rfl | rfl | rfl | rfl | rfl | rfl | rfl | rfl | rfl | rfl | rfl | rfl |
    rfl | rfl | rfl | rfl | rfl | rfl | rfl
  · exact respects_ofPredicate Value.isNull_of_same
  · exact respects_ofPredicate (not_congr Value.isNull_of_same)
  · exact respects_ofPredicate Value.isEmpty_of_same
  · exact respects_ofPredicate (not_congr Value.isEmpty_of_same)
  · exact respects_ofPredicate (not_congr Value.isTruthy_of_same)
  · exact respects_ofPredicate Value.isTruthy_of_same
  · exact respects_ofTest fun _ _ _ _ _ hv hw => .ok (Value.same_congr_both hv.same hw.same)
  · exact respects_ofTest fun _ _ _ _ _ hv hw =>
      .ok (congrArg (!·) (Value.same_congr_both hv.same hw.same))
  · exact respects_ofOrder _
  · exact respects_ofOrder _
  · exact respects_ofOrder _
  · exact respects_ofOrder _
  · exact respects_ofText (by decide) _
  · exact respects_ofText (by decide) _
  · exact respects_ofText (by decide) _
  · exact respects_toString
  · exact respects_matchesPattern
  · exact respects_length
  · exact respects_join
  · exact respects_contains
  · exact respects_default

end Filter

/-- A filter of the standard registry gives alike results for alike operands, or fails for both. -/
theorem Registry.apply_alike {c : Culture} {b : Bool} {name : String} {v v' : Value}
    {args args' : List Value} (hv : c.Alike (Filter.usesPiped name v b) v v')
    (hargs : List.Forall₂ (c.Alike (Filter.usesArguments name v b)) args args') :
    Agree (c.Alike b) (standard.apply c name v args) (standard.apply c name v' args') := by
  rw [apply, apply]
  cases hf : standard.resolve name with
  | none => exact .error
  | some f =>
    obtain rfl : f.name = name := by simpa using List.find?_some hf
    dsimp only
    rw [hargs.length_eq]
    split
    · exact Filter.respects_of_mem_standard (List.mem_of_find?_eq_some hf) b v v' args args' hv hargs
    · exact .error

/-! ## Expressions -/

namespace Expression

variable (ev : Evaluator) (sc : Scope)

mutual

/-- The paths whose texts an evaluation uses, if the text of its result is `used`: those of the
    operands that filters make texts of, and of all that is put into an interpolation. Of a
    conditional only the branch that is taken counts. -/
def writtenIf (used : Bool) : Expression → List Path
  | .literal _ => []
  | .path p => if used then [p] else []
  | .pipe source filter args =>
    let v := ev.valueOf sc source
    writtenIf (Filter.usesPiped filter v used) source ++
      writtenIfAll (Filter.usesArguments filter v used) args
  | .conditional condition whenTrue whenFalse =>
    writtenIf false condition ++
      if (ev.valueOf sc condition).isTruthy then writtenIf used whenTrue
      else writtenIf used whenFalse
  | .interpolation parts => writtenOfParts parts

def writtenIfAll (used : Bool) : List Expression → List Path
  | [] => []
  | e :: es => writtenIf used e ++ writtenIfAll used es

def writtenOfParts : List Part → List Path
  | [] => []
  | p :: ps => writtenOfPart p ++ writtenOfParts ps

def writtenOfPart : Part → List Path
  | .text _ => []
  | .expression e => writtenIf true e

end

/-- The paths whose texts an evaluation uses. -/
def written (e : Expression) : List Path := writtenIf ev sc false e

end Expression

namespace Evaluator

variable {c : Culture} {sc sc' : Scope}

/-- The evaluator of the standard filters. -/
def ofCulture (c : Culture) : Evaluator := ⟨.standard, c⟩

theorem valueOf_of_ok {ev : Evaluator} {e : Expression} {v : Value} (h : ev.evaluate sc e = .ok v) :
    ev.valueOf sc e = v := by
  rw [valueOf, h]

mutual

/-- Scopes whose paths have equal values give an expression equal values, and values of the same text
    where the texts that are used are the same. -/
theorem evaluate_alike (hs : ∀ p, (sc.read p).same (sc'.read p)) (b : Bool) (e : Expression)
    (h : ∀ p ∈ e.writtenIf (ofCulture c) sc b, c.texts (sc.read p) = c.texts (sc'.read p)) :
    Agree (c.Alike b) ((ofCulture c).evaluate sc e) ((ofCulture c).evaluate sc' e) := by
  match e with
  | .literal l => exact .ok (.refl c b _)
  | .path p =>
    refine .ok ⟨hs p, fun hb => h p ?_⟩
    rw [Expression.writtenIf, if_pos hb]
    exact List.mem_singleton_self p
  | .pipe source filter args =>
    simp only [Expression.writtenIf, List.mem_append] at h
    rw [evaluate, evaluate]
    refine (evaluate_alike hs _ source fun p hp => h p (Or.inl hp)).bind fun v v' hv hvv => ?_
    rw [valueOf_of_ok hv] at h hvv
    refine (evaluateAll_alike hs _ args fun p hp => h p (Or.inr hp)).bind fun vs vs' _ hvs => ?_
    exact Registry.apply_alike hvv hvs
  | .conditional condition whenTrue whenFalse =>
    simp only [Expression.writtenIf, List.mem_append] at h
    rw [evaluate, evaluate]
    refine (evaluate_alike hs false condition fun p hp => h p (Or.inl hp)).bind
      fun v v' hv hvv => ?_
    rw [valueOf_of_ok hv] at h
    rw [← Value.isTruthy_of_same hvv.same]
    split
    · next ht => exact evaluate_alike hs b whenTrue fun p hp => h p (Or.inr (by rwa [if_pos ht]))
    · next ht => exact evaluate_alike hs b whenFalse fun p hp => h p (Or.inr (by rwa [if_neg ht]))
  | .interpolation parts =>
    rw [evaluate, evaluate]
    refine (evaluateParts_alike hs parts h).bind fun s s' _ hss => ?_
    exact .ok (.of_eq (congrArg Value.string hss))

theorem evaluateAll_alike (hs : ∀ p, (sc.read p).same (sc'.read p)) (b : Bool)
    (es : List Expression)
    (h : ∀ p ∈ Expression.writtenIfAll (ofCulture c) sc b es,
      c.texts (sc.read p) = c.texts (sc'.read p)) :
    Agree (List.Forall₂ (c.Alike b)) ((ofCulture c).evaluateAll sc es)
      ((ofCulture c).evaluateAll sc' es) := by
  match es with
  | [] => exact .ok .nil
  | e :: es =>
    simp only [Expression.writtenIfAll, List.mem_append] at h
    rw [evaluateAll, evaluateAll]
    refine (evaluate_alike hs b e fun p hp => h p (Or.inl hp)).bind fun v v' _ hv => ?_
    refine (evaluateAll_alike hs b es fun p hp => h p (Or.inr hp)).bind fun vs vs' _ hvs => ?_
    exact .ok (.cons hv hvs)

theorem evaluateParts_alike (hs : ∀ p, (sc.read p).same (sc'.read p)) (ps : List Part)
    (h : ∀ p ∈ Expression.writtenOfParts (ofCulture c) sc ps,
      c.texts (sc.read p) = c.texts (sc'.read p)) :
    Agree Eq ((ofCulture c).evaluateParts sc ps) ((ofCulture c).evaluateParts sc' ps) := by
  match ps with
  | [] => exact .ok rfl
  | q :: ps =>
    simp only [Expression.writtenOfParts, List.mem_append] at h
    rw [evaluateParts, evaluateParts]
    refine (evaluatePart_alike hs q fun p hp => h p (Or.inl hp)).bind fun s s' _ hs' => ?_
    refine (evaluateParts_alike hs ps fun p hp => h p (Or.inr hp)).bind fun r r' _ hr => ?_
    exact .ok (by rw [hs', hr])

theorem evaluatePart_alike (hs : ∀ p, (sc.read p).same (sc'.read p)) (q : Part)
    (h : ∀ p ∈ Expression.writtenOfPart (ofCulture c) sc q,
      c.texts (sc.read p) = c.texts (sc'.read p)) :
    Agree Eq ((ofCulture c).evaluatePart sc q) ((ofCulture c).evaluatePart sc' q) := by
  match q with
  | .text s => exact .ok rfl
  | .expression e =>
    rw [evaluatePart, evaluatePart]
    refine (evaluate_alike hs true e h).bind fun v v' _ hv => ?_
    exact .ok hv.format

end

end Evaluator

/-! ## Scopes -/

namespace Scope

variable {sc sc' : Scope}

/-- Two objects have properties of the same names, with equal values. -/
def EqualAt (sc sc' : Scope) (o o' : ObjectId) : Prop :=
  ∀ name, Option.Rel (fun v w => v.same w) (sc.property o name) (sc'.property o' name)

/-- Two scopes hold equal data: their roots have properties of the same names, with equal values, and
    the objects that these lead to, which are the same, have so, too. -/
structure Equal (sc sc' : Scope) : Prop where
  roots : ∀ r, Option.Rel (sc.EqualAt sc') (sc.root r) (sc'.root r)
  nested : ∀ o, sc.EqualAt sc' o o

theorem follow_of_equal (h : ∀ o, sc.EqualAt sc' o o) {o o' : ObjectId} (ho : sc.EqualAt sc' o o')
    (ss : List String) : (sc.follow o ss).same (sc'.follow o' ss) := by
  match ss with
  | [] => rfl
  | [s] =>
    have hs := ho s
    rw [follow, follow]
    generalize sc.property o s = x, sc'.property o' s = y at hs
    cases hs with
    | some hv => exact hv
    | none => rfl
  | s :: t :: ss =>
    have hs := ho s
    rw [follow, follow]
    generalize sc.property o s = x, sc'.property o' s = y at hs
    cases hs with
    | none => rfl
    | @some v w hv => cases v with
      | object r => cases w with
        | object r' =>
          obtain rfl : r = r' := beq_iff_eq.1 hv
          exact follow_of_equal h (h r.id) (t :: ss)
        | _ => cases hv
      | _ => cases w with
        | object => cases hv
        | _ => rfl

/-- In scopes of equal data each path has equal values. -/
theorem Equal.read (h : sc.Equal sc') (p : Path) : (sc.read p).same (sc'.read p) := by
  have hr := h.roots p.root
  rw [Scope.read, Scope.read]
  generalize sc.root p.root = x, sc'.root p.root = y at hr
  cases hr with
  | none => rfl
  | some ho => exact follow_of_equal h.nested ho p.segments

end Scope

namespace Scope

/-- What can be read of objects that are given by their properties, one of them being the model. -/
def ofProperties (objects : List (List (String × Value))) (model : ObjectId) : Scope where
  property o name := do (← objects[o.index]?).lookup name
  root
    | .model => some model
    | .context => none

theorem lookup_of_forall₂ {ps qs : List (String × Value)}
    (h : List.Forall₂ (fun a b => a.1 = b.1 ∧ a.2.same b.2) ps qs) (name : String) :
    Option.Rel (fun v w => v.same w) (ps.lookup name) (qs.lookup name) := by
  induction h with
  | nil => exact .none
  | @cons a b ps qs h _ ih =>
    rw [List.lookup_cons, List.lookup_cons, ← h.1]
    split
    · exact .some h.2
    · exact ih

/-- Of the same objects, any two whose properties are equal one by one give equal data as models. -/
theorem equal_ofProperties {objects : List (List (String × Value))} {o o' : ObjectId}
    {ps qs : List (String × Value)} (ho : objects[o.index]? = some ps)
    (ho' : objects[o'.index]? = some qs)
    (h : List.Forall₂ (fun a b => a.1 = b.1 ∧ a.2.same b.2) ps qs) :
    (ofProperties objects o).Equal (ofProperties objects o') where
  roots
    | .model => .some fun name => by
      simp only [ofProperties, ho, ho']
      exact lookup_of_forall₂ h name
    | .context => .none
  nested i name := by
    show Option.Rel _ ((ofProperties objects o).property i name)
      ((ofProperties objects o).property i name)
    generalize (ofProperties objects o).property i name = v
    cases v with
    | none => exact .none
    | some v => exact .some v.same_refl

end Scope

namespace Evaluator

/-- In two scopes that hold equal data an expression has equal values, and fails in both or in none,
    if the paths whose texts its evaluation uses have the same texts. -/
theorem evaluate_of_equal (c : Culture) (e : Expression) {sc sc' : Scope} (data : sc.Equal sc')
    (texts : ∀ p ∈ e.written (ofCulture c) sc, c.texts (sc.read p) = c.texts (sc'.read p)) :
    (ofCulture c).valueOf sc e == (ofCulture c).valueOf sc' e ∧
      ((ofCulture c).evaluate sc e).isOk = ((ofCulture c).evaluate sc' e).isOk := by
  have h := evaluate_alike data.read false e texts
  rw [valueOf, valueOf]
  generalize (ofCulture c).evaluate sc e = x, (ofCulture c).evaluate sc' e = y at h
  cases h with
  | ok h => exact ⟨h.same, rfl⟩
  | error => exact ⟨rfl, rfl⟩

/-- Numbers of other texts change neither what is found among the items nor how it compares, and the
    name, which is put into the label, has the same text. -/
theorem evaluate_of_equal_label : ∃ (e : Expression) (sc sc' : Scope) (p : Path),
    sc.Equal sc' ∧ p ∈ e.paths ∧
    Culture.invariant.texts (sc.read p) ≠ Culture.invariant.texts (sc'.read p) ∧
    (∀ p ∈ e.written (ofCulture .invariant) sc,
      Culture.invariant.texts (sc.read p) = Culture.invariant.texts (sc'.read p)) ∧
    (ofCulture .invariant).valueOf sc e == (ofCulture .invariant).valueOf sc' e := by
  let one : Decimal := ⟨10, 1, by decide, by decide⟩
  let short : Decimal := ⟨25, 1, by decide, by decide⟩
  let long : Decimal := ⟨250, 2, by decide, by decide⟩
  let objects : List (List (String × Value)) := [
    [("name", .string "Ann"), ("n", .decimal short),
      ("items", .collection [.integer 1, .decimal long])],
    [("name", .string "Ann"), ("n", .decimal long),
      ("items", .collection [.decimal one, .decimal short])]]
  let n : Path := ⟨.model, ["n"]⟩
  let e : Expression := .interpolation [.expression (.path ⟨.model, ["name"]⟩), .text ": ",
    .expression (.conditional (.pipe (.path ⟨.model, ["items"]⟩) "Contains" [.path n])
      (.pipe (.pipe (.path n) "Default" [.literal (.integer 0)]) "GreaterThan"
        [.literal (.integer 2)])
      (.path n))]
  have data : (Scope.ofProperties objects ⟨0⟩).Equal (Scope.ofProperties objects ⟨1⟩) :=
    Scope.equal_ofProperties rfl rfl
      (.cons ⟨rfl, rfl⟩ (.cons ⟨rfl, by decide +kernel⟩ (.cons ⟨rfl, by decide +kernel⟩ .nil)))
  have texts : ∀ p ∈ e.written (ofCulture .invariant) (Scope.ofProperties objects ⟨0⟩),
      Culture.invariant.texts ((Scope.ofProperties objects ⟨0⟩).read p) =
        Culture.invariant.texts ((Scope.ofProperties objects ⟨1⟩).read p) := by
    decide +kernel
  exact ⟨e, _, _, n, data, by decide, by decide +kernel, texts,
    (evaluate_of_equal .invariant e data texts).1⟩

/-- Equal data may have other texts. The integer 1 and the decimal 1.0, as the only properties of two
    models, are equal, and a label that shows them is not. -/
theorem not_same_of_equal : ∃ (e : Expression) (sc sc' : Scope),
    sc.Equal sc' ∧ sc'.property = sc.property ∧
    (ofCulture .invariant).valueOf sc e = .string "n 1" ∧
    (ofCulture .invariant).valueOf sc' e = .string "n 1.0" ∧
    ((ofCulture .invariant).valueOf sc e == (ofCulture .invariant).valueOf sc' e) = false := by
  let e : Expression := .interpolation [.text "n ", .expression (.path ⟨.model, ["X"]⟩)]
  let objects : List (List (String × Value)) :=
    [[("X", .integer 1)], [("X", .decimal ⟨10, 1, by decide, by decide⟩)]]
  have data : (Scope.ofProperties objects ⟨0⟩).Equal (Scope.ofProperties objects ⟨1⟩) :=
    Scope.equal_ofProperties rfl rfl (.cons ⟨rfl, rfl⟩ .nil)
  exact ⟨e, _, _, data, rfl, by rfl, by rfl, by rfl⟩

end Evaluator

end LiveForm
