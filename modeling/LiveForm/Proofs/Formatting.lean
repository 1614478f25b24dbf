/-
  All ways to make a text of a value give the same text.

  A value becomes a text where it is put into an interpolation, where a filter asks for its text, and
  where the items of a collection are joined. Joining goes through the items of the outermost
  collection only, so a separator of its own replaces the one of the culture there and nowhere else.

  * `Culture.formatBy`: the text of a value with a separator for each depth of nesting; `formatBy_const`
    and `join_eq_formatBy` say that the text in a culture and the joined text are such texts;
  * `Part.Give`: what the parts of an interpolation give is all that they show, or the error of the
    first one that fails;
  * `Evaluator.texts_agree`: the result.
-/
import LiveForm.Filter.Custom
import LiveForm.Proofs.Wording
import Mathlib.Logic.Function.Basic

namespace LiveForm

/-! ## Separators by depth -/

namespace Culture

variable (c : Culture)

mutual

/-- The text of a value whose collections have separators of their own: the first one in the outermost
    collection, the second one in the collections among its items, and so on. -/
def formatBy (separators : Nat → String) : Value → String
  | .collection items => formatItemsBy separators items
  | v => c.format v

def formatItemsBy (separators : Nat → String) : List Value → String
  | [] => ""
  | [v] => formatBy (fun depth => separators (depth + 1)) v
  | v :: w :: vs => formatBy (fun depth => separators (depth + 1)) v ++ separators 0 ++
    formatItemsBy separators (w :: vs)

end

mutual

/-- A culture has one separator for all depths. -/
theorem formatBy_const (v : Value) : c.formatBy (fun _ => c.listSeparator) v = c.format v := by
  match v with
  | .collection items => exact formatItemsBy_const items
  | .noValue | .null | .boolean _ | .integer _ | .decimal _ | .string _ | .object _ => rfl

theorem formatItemsBy_const (vs : List Value) :
    c.formatItemsBy (fun _ => c.listSeparator) vs = c.formatItems vs := by
  match vs with
  | [] => rfl
  | [v] => exact formatBy_const v
  | v :: w :: vs =>
    rw [formatItemsBy, formatItems, formatBy_const v, formatItemsBy_const (w :: vs)]

end

/-- Items are joined by the separator of the outermost collection; in each of them the culture has its
    own. -/
theorem join_map_format (separator : String) (vs : List Value) :
    Text.join separator (vs.map c.format) =
      c.formatItemsBy (Function.update (fun _ => c.listSeparator) 0 separator) vs := by
  -- inside of an item the separator that was put in is out of reach
  have inner : (fun depth => Function.update (fun _ => c.listSeparator) 0 separator (depth + 1)) =
      fun _ => c.listSeparator := rfl
  induction vs with
  | nil => rfl
  | cons v vs ih =>
    cases vs with
    | nil => rw [formatItemsBy, inner, formatBy_const, Text.join, List.map_singleton,
        String.intercalate_singleton]
    | cons w vs =>
      rw [formatItemsBy, inner, formatBy_const, Function.update_self, ← ih, Text.join, Text.join,
        List.map_cons, List.map_cons, String.intercalate_cons_cons]

/-- A joined value has the separator in its outermost collection. -/
theorem join_eq_formatBy (separator : String) (v : Value) :
    Text.join separator (c.texts v) =
      c.formatBy (Function.update (fun _ => c.listSeparator) 0 separator) v := by
  cases v with
  | collection items => exact c.join_map_format separator items
  | _ => exact String.intercalate_singleton

end Culture

/-! ## Filters -/

/-- A name stands for the filter that it stands for in the standard registry. -/
def Registry.IsStandard (r : Registry) (name : String) : Prop :=
  r.resolve name = standard.resolve name

namespace Evaluator

variable {ev : Evaluator} {sc : Scope}

theorem applyFilter_of_isStandard {name : String} (h : ev.registry.IsStandard name) (v : Value)
    (args : List Value) :
    ev.applyFilter name v args = Registry.standard.apply ev.culture name v args := by
  rw [applyFilter, Registry.apply, Registry.apply, h]

theorem applyFilter_toString (h : ev.registry.IsStandard "ToString") (v : Value) :
    ev.applyFilter "ToString" v [] = .ok (.string (ev.culture.format v)) :=
  applyFilter_of_isStandard h v []

/-- Items are joined with the text of the argument or else with the separator of the culture. -/
theorem applyFilter_join (h : ev.registry.IsStandard "Join") (v : Value) (arg : Option Value) :
    ev.applyFilter "Join" v arg.toList = .ok (.string (ev.culture.formatBy
      (Function.update (fun _ => ev.culture.listSeparator) 0
        (arg.elim ev.culture.listSeparator ev.culture.format)) v)) := by
  have standard : Registry.standard.apply ev.culture "Join" v arg.toList =
      Filter.join.apply ev.culture v arg.toList := by cases arg <;> rfl
  rw [applyFilter_of_isStandard h, standard, Filter.apply_join, Culture.join_eq_formatBy]
  cases arg <;> rfl

theorem applyFilter_join_plain (h : ev.registry.IsStandard "Join") (v : Value) :
    ev.applyFilter "Join" v [] = .ok (.string (ev.culture.format v)) := by
  have constant : Function.update (fun _ : Nat => ev.culture.listSeparator) 0
      ev.culture.listSeparator = fun _ => ev.culture.listSeparator := Function.update_eq_self ..
  have joined := applyFilter_join h v none
  rw [Option.elim_none, constant, Culture.formatBy_const] at joined
  exact joined

end Evaluator

/-! ## Interpolations -/

/-- What a part of an interpolation shows: itself if it is a text, the text of its value if it is an
    expression. -/
inductive Part.Shows (ev : Evaluator) (sc : Scope) : Part → String → Prop
  | text (s : String) : Shows ev sc (.text s) s
  | expression {e : Expression} {v : Value} : ev.evaluate sc e = .ok v →
      Shows ev sc (.expression e) (ev.culture.format v)

/-- What the parts of an interpolation give: all that they show, put together in order, or the error of
    the first one that fails. -/
inductive Part.Give (ev : Evaluator) (sc : Scope) : List Part → Except FilterError String → Prop
  | all {ps : List Part} {texts : List String} : List.Forall₂ (Part.Shows ev sc) ps texts →
      Give ev sc ps (.ok (String.join texts))
  | first {before after : List Part} {texts : List String} {e : Expression} {x : FilterError} :
      List.Forall₂ (Part.Shows ev sc) before texts → ev.evaluate sc e = .error x →
      Give ev sc (before ++ .expression e :: after) (.error x)

/-- A part that shows something comes before all that the others give. -/
theorem Part.Give.cons {ev : Evaluator} {sc : Scope} {p : Part} {ps : List Part} {s : String}
    {r : Except FilterError String} (h : Give ev sc ps r) (hp : p.Shows ev sc s) :
    Give ev sc (p :: ps) (r.map (s ++ ·)) := by
  cases h with
  | @all _ texts hps =>
    have joined : s ++ String.join texts = String.join (s :: texts) := String.join_cons.symm
    rw [Except.map, joined]
    exact .all (.cons hp hps)
  | first hbefore he => exact .first (.cons hp hbefore) he

namespace Evaluator

variable (ev : Evaluator) (sc : Scope)

theorem give_evaluateParts (ps : List Part) : Part.Give ev sc ps (ev.evaluateParts sc ps) := by
  induction ps with
  | nil => exact .all .nil
  | cons p ps ih =>
    have rest : ∀ s, p.Shows ev sc s → ev.evaluatePart sc p = .ok s →
        Part.Give ev sc (p :: ps) (ev.evaluateParts sc (p :: ps)) := by
      intro s hp h
      have first : ev.evaluateParts sc (p :: ps) = (ev.evaluateParts sc ps).map (s ++ ·) := by
        rw [evaluateParts, h]
        rfl
      exact first ▸ ih.cons hp
    cases p with
    | text s => exact rest s (.text s) rfl
    | expression e =>
      cases h : ev.evaluate sc e with
      | ok v => exact rest _ (.expression h) (by rw [evaluatePart, h]; rfl)
      | error x =>
        have failed : ev.evaluateParts sc (.expression e :: ps) = .error x := by
          rw [evaluateParts, evaluatePart, h]
          rfl
        have cut : Part.expression e :: ps = [] ++ .expression e :: ps := rfl
        rw [failed, cut]
        exact .first .nil h

theorem evaluate_interpolation (ps : List Part) :
    ev.evaluate sc (.interpolation ps) = (ev.evaluateParts sc ps).map .string := by
  rw [evaluate]
  rfl

/-- An expression put into an interpolation by itself. -/
theorem evaluate_interpolation_single (e : Expression) :
    ev.evaluate sc (.interpolation [.expression e]) =
      (ev.evaluate sc e).map fun v => .string (ev.culture.format v) := by
  rw [evaluate_interpolation, evaluateParts, evaluatePart, evaluateParts]
  cases ev.evaluate sc e with
  | ok v => exact congrArg (fun s => Except.ok (Value.string s)) String.append_empty
  | error x => rfl

/-- An expression piped into a filter without arguments. -/
theorem evaluate_pipe_single (e : Expression) (name : String) :
    ev.evaluate sc (.pipe e name []) =
      (ev.evaluate sc e).bind fun v => ev.applyFilter name v [] := by
  rw [evaluate, evaluateAll]
  rfl

/-- All ways to make a text of a value agree, however deep its collections are nested.

    * The filters `ToString` and `Join` give the text of the culture, which has one separator for all
      depths; a separator that is given to `Join` stands for that of the outermost collection alone.
    * To pipe an expression into one of the two filters is to put it into an interpolation by itself.
    * An interpolation is made of its texts and of the texts of the values of its expressions, in
      order, or has the error of the first expression that fails. -/
theorem texts_agree (ht : ev.registry.IsStandard "ToString") (hj : ev.registry.IsStandard "Join") :
    (∀ v, ev.applyFilter "ToString" v [] = .ok (.string (ev.culture.format v)) ∧
      ev.applyFilter "Join" v [] = .ok (.string (ev.culture.format v)) ∧
      ev.culture.format v = ev.culture.formatBy (fun _ => ev.culture.listSeparator) v ∧
      ∀ s, ev.applyFilter "Join" v [.string s] = .ok (.string (ev.culture.formatBy
        (Function.update (fun _ => ev.culture.listSeparator) 0 s) v))) ∧
    (∀ sc e, ∀ name ∈ ["ToString", "Join"],
      ev.evaluate sc (.pipe e name []) = ev.evaluate sc (.interpolation [.expression e])) ∧
    ∀ sc parts, ∃ r, Part.Give ev sc parts r ∧
      ev.evaluate sc (.interpolation parts) = r.map .string := by
  refine ⟨fun v => ⟨applyFilter_toString ht v, applyFilter_join_plain hj v,
    (ev.culture.formatBy_const v).symm, fun s => applyFilter_join hj v (some (.string s))⟩, ?_,
    fun sc parts => ⟨_, ev.give_evaluateParts sc parts, ev.evaluate_interpolation sc parts⟩⟩
  intro sc e name hname
  have text : ∀ v, ev.applyFilter name v [] = .ok (.string (ev.culture.format v)) := by
    rcases List.mem_pair.1 hname with rfl | rfl
    · exact applyFilter_toString ht
    · exact applyFilter_join_plain hj
  rw [evaluate_pipe_single, evaluate_interpolation_single]
  simp only [text]
  cases ev.evaluate sc e <;> rfl

/-- An evaluator with a filter more than the standard ones, and words and separators of its own. -/
def verbose : Evaluator :=
  ⟨⟨Filter.standard ++ [.echo "Echo" (.exactly 0) ""]⟩, ⟨"", ',', "yes", "no", "; "⟩⟩

/-- Items that are empty, null, or have items of their own. -/
def nested : Value :=
  .collection [.integer 1, .collection [], .null, .collection [.string "a", .boolean true]]

theorem texts_agree_nested :
    verbose.registry.IsStandard "ToString" ∧ verbose.registry.IsStandard "Join" ∧
      verbose.applyFilter "Join" nested [] = .ok (.string "1; ; ; a; yes") ∧
      verbose.applyFilter "Join" nested [.string "-"] = .ok (.string "1---a; yes") := by
  have ht : verbose.registry.IsStandard "ToString" := rfl
  have hj : verbose.registry.IsStandard "Join" := rfl
  obtain ⟨-, plain, -, separated⟩ := (texts_agree verbose ht hj).1 nested
  have whole : verbose.culture.format nested = "1; ; ; a; yes" := by decide
  have dashed : verbose.culture.formatBy
      (Function.update (fun _ => verbose.culture.listSeparator) 0 "-") nested = "1---a; yes" := by
    decide
  exact ⟨ht, hj, whole ▸ plain, dashed ▸ separated "-"⟩

end Evaluator

end LiveForm
