/-
  The carets of reports.

  A report shows the template behind its message, and then a line with a caret that stands as many
  characters in as the offset is in the template. In a template of one line this is under the
  character that the error is about, whatever widths the characters have. A template of more lines
  is shown with all of them above the caret, and those before the offset push the caret to the right:
  the caret line belongs under another line, or further to the left.

  * `Text.lines` are the lines of a text, `SyntaxError.shown` those of a report behind its heading;
  * `SyntaxError.CaretUnder`: the caret stands directly under the line with the offset, and under the
    character there;
  * `SyntaxError.report_caret`: what every report of a rejected template shows. Its caret is right
    exactly if the template has no line break, or has itself a line with a caret there.
-/
import LiveForm.Proofs.Pointing

namespace LiveForm

namespace Text

variable {a b cs : List Char}

/-! ## Lines -/

/-- The lines of a text, without the breaks between them. -/
def lines (cs : List Char) : List (List Char) := cs.splitOn '\n'

/-- The number of the line that goes on behind a text, from zero. -/
def lineAfter (before : List Char) : Nat := before.count '\n'

/-- How many characters of that line the text has. -/
def columnAfter (before : List Char) : Nat := (before.reverse.takeWhile (· ≠ '\n')).length

theorem lines_append (a b : List Char) : lines (a ++ '\n' :: b) = lines a ++ lines b :=
  List.splitOnP_append_cons a b (by decide)

theorem lines_of_not_mem (h : '\n' ∉ cs) : lines cs = [cs] :=
  List.splitOnP_eq_singleton fun c hc => by simpa using ne_of_mem_of_not_mem hc h

theorem length_lines (cs : List Char) : (lines cs).length = cs.count '\n' + 1 := by
  induction cs with
  | nil => rfl
  | cons c cs ih =>
    rw [lines, List.splitOn, List.splitOnP_cons_eq_if_modifyHead, List.count_cons]
    rw [lines, List.splitOn] at ih
    split_ifs <;> simp [ih]

/-- A text without breaks in front of another one is in front of its first line. -/
theorem lines_append_of_not_mem (h : '\n' ∉ a) : lines (a ++ b) = (lines b).modifyHead (a ++ ·) := by
  induction a with
  | nil => cases hb : lines b <;> simp [hb]
  | cons c a ih =>
    obtain ⟨hc, ha⟩ := not_or.1 (List.mem_cons.not.1 h)
    have ih := ih ha
    rw [lines, List.splitOn] at ih ⊢
    rw [List.cons_append, List.splitOnP_cons_eq_if_modifyHead, if_neg (by simpa using Ne.symm hc), ih,
      List.modifyHead_modifyHead]
    rfl

/-- A text has as many characters on its last line as it has at all if that line is its only one. -/
theorem columnAfter_eq_length_iff : columnAfter cs = cs.length ↔ '\n' ∉ cs := by
  have hlength : cs.reverse.length = cs.length := List.length_reverse
  rw [columnAfter, ← hlength, ← List.mem_reverse]
  constructor
  · intro h hmem
    rw [← (List.takeWhile_prefix _).eq_of_length h] at hmem
    simpa using List.mem_takeWhile_imp hmem
  · intro h
    rw [List.takeWhile_eq_self_iff.2]
    exact fun c hc => by simpa using ne_of_mem_of_not_mem hc h

end Text

open Text

/-! ## Reports -/

/-- What stands to the left of the template and of the caret. -/
def gutter : List Char := "  | ".toList

/-- The line with a caret under the character that has as many characters in front of it. -/
def caretAt (indent : Nat) : List Char := gutter ++ (List.replicate indent ' ' ++ ['^'])

namespace SyntaxError

variable {e : SyntaxError} {t : String} {before after : List Char} {c : Char}

/-- What the error is, as the report says it before it shows the template. -/
def heading (e : SyntaxError) : String :=
  Severity.error.text ++ ": " ++ e.message ++ " [" ++ e.code.text ++ "]"

/-- The advice behind the caret as lines, if there is some. -/
def advice (e : SyntaxError) : List (List Char) :=
  (e.code.help.map fun h => ("  = help: " ++ h).toList).toList

/-- The lines of a report behind its heading. -/
def shown (e : SyntaxError) (t : String) : List (List Char) :=
  lines ((e.report t).toList.drop (e.heading ++ "\n").toList.length)

/-- The line of the template that goes on behind `before` is shown, with or without the gutter, and
    directly under it stands the caret, which has as many characters in front of it as that line has
    in `before`. -/
def CaretUnder (e : SyntaxError) (t : String) (before : List Char) : Prop :=
  ∃ line, (lines t.toList)[lineAfter before]? = some line ∧
    ((e.shown t)[lineAfter before]? = some line ∨
      (e.shown t)[lineAfter before]? = some (gutter ++ line)) ∧
    (e.shown t)[lineAfter before + 1]? = some (caretAt (columnAfter before))

theorem report_eq (ht : t.toList = before ++ c :: after) (hpos : e.position = width before) :
    (e.report t).toList = (e.heading ++ "\n").toList ++
      (gutter ++ t.toList ++ '\n' :: (caretAt before.length ++
        e.advice.flatMap ('\n' :: ·))) := by
  have hcolumn : Diagnostic.column? e.position t.toList = some before.length := by
    rw [ht, hpos, Diagnostic.column?_width]
  have hcaret : (Diagnostic.caretLine t ⟨e.position, 1⟩).toList =
      List.replicate before.length ' ' ++ ['^'] := by
    rw [Diagnostic.caretLine, hcolumn, String.toList_ofList]
    rfl
  cases hhelp : e.code.help <;>
    simp [report, diagnostic, Diagnostic.report, Diagnostic.ofMessage, heading, gutter, caretAt,
      advice, hcaret, hhelp]

theorem not_mem_gutter : '\n' ∉ gutter := by decide

theorem not_mem_caretAt (indent : Nat) : '\n' ∉ caretAt indent := by
  simp [caretAt, not_mem_gutter]

theorem not_mem_help {code : DiagnosticCode} {h : String} (hh : code.help = some h) :
    '\n' ∉ h.toList := by
  unfold DiagnosticCode.help at hh
  split at hh <;> cases hh <;> decide

/-- The advice is one line, if there is some. -/
theorem lines_append_advice (e : SyntaxError) {cs : List Char} (h : '\n' ∉ cs) :
    lines (cs ++ e.advice.flatMap ('\n' :: ·)) = cs :: e.advice := by
  cases hhelp : e.code.help with
  | none => simp [advice, hhelp, lines_of_not_mem h]
  | some text =>
    have hline : '\n' ∉ ("  = help: " ++ text).toList := by
      simpa using not_mem_help hhelp
    have hadvice : e.advice = [("  = help: " ++ text).toList] := by simp [advice, hhelp]
    rw [hadvice, List.flatMap_singleton, lines_append, lines_of_not_mem h, lines_of_not_mem hline]
    rfl

theorem shown_eq (ht : t.toList = before ++ c :: after) (hpos : e.position = width before) :
    e.shown t = lines (gutter ++ t.toList) ++ caretAt before.length :: e.advice := by
  rw [shown, report_eq ht hpos, List.drop_left, lines_append,
    lines_append_advice e (not_mem_caretAt before.length)]

/-- The lines of the template are shown in their places, the first one behind the gutter. -/
theorem getElem?_shown (ht : t.toList = before ++ c :: after) (hpos : e.position = width before)
    {i : Nat} (hi : i < (lines t.toList).length) :
    (e.shown t)[i]? =
      if i = 0 then (lines t.toList)[i]?.map (gutter ++ ·) else (lines t.toList)[i]? := by
  have hi' : i < (lines (gutter ++ t.toList)).length := by
    rw [lines_append_of_not_mem not_mem_gutter, List.length_modifyHead]
    exact hi
  rw [shown_eq ht hpos, List.getElem?_append_left hi', lines_append_of_not_mem not_mem_gutter,
    List.getElem?_modifyHead]

/-- Behind them is the caret. -/
theorem getElem?_shown_length (ht : t.toList = before ++ c :: after)
    (hpos : e.position = width before) :
    (e.shown t)[(lines t.toList).length]? = some (caretAt before.length) := by
  have hlength : (lines t.toList).length = (lines (gutter ++ t.toList)).length := by
    rw [lines_append_of_not_mem not_mem_gutter, List.length_modifyHead]
  rw [shown_eq ht hpos, hlength, List.getElem?_append_right (Nat.le_refl _), Nat.sub_self]
  rfl

theorem caretAt_inj {m n : Nat} : caretAt m = caretAt n ↔ m = n := by
  constructor
  · intro h
    simpa [caretAt] using congrArg List.length h
  · rintro rfl
    rfl

theorem caretUnder_iff (ht : t.toList = before ++ c :: after) (hpos : e.position = width before) :
    e.CaretUnder t before ↔ '\n' ∉ t.toList ∨
      (lines t.toList)[lineAfter before + 1]? = some (caretAt (columnAfter before)) := by
  have hcount : (lines t.toList).length = lineAfter before + (c :: after).count '\n' + 1 := by
    rw [length_lines, ht, List.count_append, lineAfter]
  have hline : lineAfter before < (lines t.toList).length := by omega
  have hshown := getElem?_shown ht hpos hline
  -- The line is shown in any case.
  have hcaret : e.CaretUnder t before ↔
      (e.shown t)[lineAfter before + 1]? = some (caretAt (columnAfter before)) := by
    refine ⟨fun ⟨_, _, _, h⟩ => h, fun h => ⟨_, List.getElem?_eq_getElem hline, ?_, h⟩⟩
    rw [hshown, List.getElem?_eq_getElem hline]
    split_ifs <;> simp
  rw [hcaret]
  by_cases hlast : '\n' ∈ c :: after
  · -- Another line of the template comes next.
    have hnext : lineAfter before + 1 < (lines t.toList).length := by
      have := List.count_pos_iff.2 hlast
      omega
    have hmem : '\n' ∈ t.toList := by simp [ht, hlast]
    rw [getElem?_shown ht hpos hnext, if_neg (Nat.succ_ne_zero _)]
    simp [hmem]
  · -- The caret comes next.
    have hnext : lineAfter before + 1 = (lines t.toList).length := by
      have := List.count_eq_zero.2 hlast
      omega
    have hmem : '\n' ∈ t.toList ↔ '\n' ∈ before := by simp [ht, hlast]
    rw [hnext, getElem?_shown_length ht hpos, Option.some.injEq, caretAt_inj, eq_comm,
      columnAfter_eq_length_iff, hmem, List.getElem?_eq_none (Nat.le_refl _)]
    simp

/-- What the report of a rejected template shows: behind its heading all lines of the template, then
    the caret, as far to the right as the offset is in the template, then the advice. The caret is
    under the character that the error is about if the template is one line; and else only if the
    template goes on, on the next line, with such a caret of its own. -/
theorem report_caret (h : Parser.template t = .error e) :
    ∃ before c after, t.toList = before ++ c :: after ∧ e.position = width before ∧
      (e.heading ++ "\n").toList <+: (e.report t).toList ∧
      e.shown t = lines (gutter ++ t.toList) ++ caretAt before.length :: e.advice ∧
      (e.CaretUnder t before ↔ '\n' ∉ t.toList ∨
        (lines t.toList)[lineAfter before + 1]? = some (caretAt (columnAfter before))) := by
  obtain ⟨before, c, after, ht, hpos⟩ := Parser.opens_of_error h
  exact ⟨before, c, after, ht, hpos, ⟨_, (report_eq ht hpos).symm⟩, shown_eq ht hpos,
    caretUnder_iff ht hpos⟩

theorem report_caret_nameless :
    Parser.template Parser.nameless = .error (.emptyFilterName 10) ∧
      ∃ before c after, Parser.nameless.toList = before ++ c :: after ∧ 10 = width before ∧
        (emptyFilterName 10).CaretUnder Parser.nameless before := by
  have h : Parser.template Parser.nameless = .error (.emptyFilterName 10) := by decide +kernel
  obtain ⟨before, c, after, ht, hpos, -, -, hcaret⟩ := report_caret h
  exact ⟨h, before, c, after, ht, hpos, hcaret.2 (.inl (by decide))⟩

/-- Two templates of two lines. In one the error is in the second line, in the other in the first. -/
def below : String := "a\n\x7bBinding X|\x7d"

def above : String := "\x7bBinding X|\x7d\nb"

/-- The caret misses both: it is too far to the right under the second line, and not under the first
    line at all. -/
theorem not_caretUnder_of_lines :
    (Parser.template below = .error (.emptyFilterName 13) ∧
      ∃ before after, below.toList = before ++ '}' :: after ∧ 13 = width before ∧
        columnAfter before = 11 ∧
        (emptyFilterName 13).shown below = ["  | a".toList, "\x7bBinding X|\x7d".toList, caretAt 13,
          "  = help: Write a filter name after '|'".toList] ∧
        ¬(emptyFilterName 13).CaretUnder below before) ∧
    Parser.template above = .error (.emptyFilterName 11) ∧
      ∃ before after, above.toList = before ++ '}' :: after ∧ 11 = width before ∧
        columnAfter before = 11 ∧
        (emptyFilterName 11).shown above = ["  | \x7bBinding X|\x7d".toList, "b".toList, caretAt 11,
          "  = help: Write a filter name after '|'".toList] ∧
        ¬(emptyFilterName 11).CaretUnder above before := by
  have hbelow : below.toList = "a\n\x7bBinding X|".toList ++ '}' :: [] := rfl
  have habove : above.toList = "\x7bBinding X|".toList ++ '}' :: ['\n', 'b'] := rfl
  refine ⟨⟨by decide +kernel, _, _, hbelow, rfl, by decide, ?_, ?_⟩,
    by decide +kernel, _, _, habove, rfl, by decide, ?_, ?_⟩
  · rw [shown_eq hbelow rfl]
    rfl
  · rw [caretUnder_iff hbelow rfl]
    decide
  · rw [shown_eq habove rfl]
    rfl
  · rw [caretUnder_iff habove rfl]
    decide

end SyntaxError

end LiveForm
