/-
  Definitions from their text: which come back as they were written.

  A string in place of an argument is always read as a template, and `null` as no argument, so a
  fixed argument of these kinds comes back as another (`ArgumentDefinition.restored?`). All other
  arguments come back, as far as there is room for their nesting (`ArgumentDefinition.Fits`); one
  that nests deeper makes the whole text unreadable.

  * `FieldDefinition.readAll?_writeAll`: what a written list of fields is read as;
  * `FieldDefinition.readAll?_writeAll_eq_some_iff`: the lists that come back as they were.
-/
import LiveForm.Form.Definition
import LiveForm.Proofs.Transcribing
import Mathlib.Data.List.Nodup

namespace LiveForm

open Json Json.Syntax

theorem map_eq_self_iff {α : Type} {f : α → α} {as : List α} :
    as.map f = as ↔ ∀ a ∈ as, f a = a := by
  simpa using List.map_inj_left (f := f) (g := id) (l := as)

/-! ## Members -/

namespace Json.IsWhole

theorem object_zip {names : List String} {values : List Json} (h : ∀ j ∈ values, j.IsWhole) :
    (Json.object (names.zip values)).IsWhole :=
  .object fun _ hm => h _ (List.of_mem_zip hm).2

theorem ofOption {α : Type} {write : α → Json} {o : Option α} (h : ∀ a ∈ o, (write a).IsWhole) :
    (Json.ofOption write o).IsWhole := by
  cases o with
  | none => exact .null
  | some a => exact h a rfl

end Json.IsWhole

namespace Json.Syntax

variable {names : List String} {values : List Json}

theorem map_lookup_zip (hn : names.Nodup) (hl : names.length = values.length) :
    (names.map fun n =>
        List.lookup (some n) ((names.zip values).map fun m => (some m.1, m.2.toSyntax))) =
      values.map fun j => some j.toSyntax := by
  induction names generalizing values with
  | nil =>
    cases values with
    | nil => rfl
    | cons => cases hl
  | cons name names ih =>
    cases values with
    | nil => cases hl
    | cons j values =>
      obtain ⟨hname, hnames⟩ := List.nodup_cons.1 hn
      have hlater : ∀ n ∈ names, List.lookup (some n)
          (((name :: names).zip (j :: values)).map fun m => (some m.1, m.2.toSyntax)) =
            List.lookup (some n) ((names.zip values).map fun m => (some m.1, m.2.toSyntax)) := by
        intro n hmem
        have hne : (some n == some name) = false := by
          rw [beq_eq_false_iff_ne]
          rintro ⟨⟩
          exact hname hmem
        rw [List.zip_cons_cons, List.map_cons, List.lookup_cons, hne]
      rw [List.map_cons, List.map_congr_left hlater, ih hnames (by simpa using hl), List.map_cons]
      simp

/-- The members that are written under names are found under these names. -/
theorem membersOf?_zip (hn : names.Nodup) (hl : names.length = values.length) :
    membersOf? names (toSyntax (.object (names.zip values))) =
      some (values.map fun j => some j.toSyntax) := by
  rw [toSyntax, memberSyntax_eq, membersOf?, if_pos, map_lookup_zip hn hl]
  refine ⟨by simp, List.all_eq_true.2 fun n _ => ?_⟩
  have hcount := List.nodup_iff_count_le_one.1 hn n
  have hfst : (names.zip values).map Prod.fst = names := List.map_fst_zip (Nat.le_of_eq hl)
  rw [← hfst, List.count_eq_countP, List.countP_map] at hcount
  rw [List.countP_map]
  exact decide_eq_true (by simpa [Function.comp_def] using hcount)

theorem optionalText?_ofOption (o : Option String) :
    optionalText? (some (ofOption .string o).toSyntax) = some o := by
  cases o <;> rfl

theorem optionalBoolean?_ofOption (o : Option Bool) :
    optionalBoolean? (some (ofOption .boolean o).toSyntax) = some o := by
  cases o <;> rfl

end Json.Syntax

theorem NullPolicy.read?_name (p : NullPolicy) :
    NullPolicy.read? (.string (some p.name)) = some p := by
  cases p <;> rfl

/-! ## Arguments -/

namespace ArgumentDefinition

/-- What a written argument is read as: a fixed string as a template, a fixed `null` as no
    argument. -/
def restored? : ArgumentDefinition → Option ArgumentDefinition
  | .value .null => none
  | .value (.string s) => some (.template s)
  | a => some a

/-- There is room for the nesting of an argument. -/
def Fits (a : ArgumentDefinition) : Prop := a.json.nesting < maxNesting - depth

instance (a : ArgumentDefinition) : Decidable a.Fits := inferInstanceAs (Decidable (_ < _))

/-- Integers of a fixed argument fit 64 bits, its members are in order, and it has no floating-point
    numbers. -/
def IsExact (a : ArgumentDefinition) : Prop := a.json.IsExact

theorem read?_json {a : ArgumentDefinition} (h : a.IsExact) :
    optional? read? a.json.toSyntax = if a.Fits then some a.restored? else none := by
  have hjson :
      a.json.toSyntax.json? (maxNesting - depth) = if a.Fits then some a.json else none :=
    (h.json?_toSyntax 123).trans (by simp only [Fits, maxNesting, depth, Nat.lt_succ_iff])
  cases a with
  | template s => rfl
  | value j =>
    cases h with
    | null | boolean | string => rfl
    | integer | array | object =>
      change (read? (ArgumentDefinition.value _).json.toSyntax).map some = _
      rw [read?, hjson]
      split <;> rfl

/-- A fixed argument comes back unless it is a string or `null`, or nests too deep. -/
theorem fits_and_restored?_iff {a : ArgumentDefinition} :
    (a.Fits ∧ a.restored? = some a) ↔ ∀ j, a = .value j →
      (∀ s, j ≠ .string s) ∧ j ≠ .null ∧ j.nesting ≤ 123 := by
  cases a with
  | template s => simp [Fits, restored?, json, nesting, maxNesting, depth]
  | value j =>
    have hroom : (value j).Fits ↔ j.nesting ≤ 123 := Nat.lt_succ_iff
    rw [hroom]
    cases j <;> simp [restored?]

/-- A written argument is read as what it comes back as, and so is a missing one. -/
theorem optional?_ofOption {o : Option ArgumentDefinition} (h : ∀ a ∈ o, a.IsExact) :
    optional? read? (ofOption json o).toSyntax =
      if ∀ a ∈ o, a.Fits then some (o.bind restored?) else none := by
  cases o with
  | none => rfl
  | some a => simpa [ofOption] using read?_json (h a rfl)

end ArgumentDefinition

/-! ## Validators -/

namespace ValidatorDefinition

/-- What a written validator is read as. -/
def restored (d : ValidatorDefinition) : ValidatorDefinition :=
  { d with argument := d.argument.bind ArgumentDefinition.restored? }

def Fits (d : ValidatorDefinition) : Prop := ∀ a ∈ d.argument, a.Fits

instance (d : ValidatorDefinition) : Decidable d.Fits :=
  inferInstanceAs (Decidable (∀ a ∈ d.argument, a.Fits))

def IsExact (d : ValidatorDefinition) : Prop := ∀ a ∈ d.argument, a.IsExact

theorem read?_json {d : ValidatorDefinition} (h : d.IsExact) :
    read? d.json.toSyntax = if d.Fits then some d.restored else none := by
  have hargument : optional? ArgumentDefinition.read?
      (ofOption ArgumentDefinition.json d.argument).toSyntax =
        if d.Fits then some (d.argument.bind ArgumentDefinition.restored?) else none :=
    ArgumentDefinition.optional?_ofOption h
  rw [read?, json, membersOf?_zip (by decide) rfl]
  simp only [List.map_cons, List.map_nil, Option.bind_eq_bind, Option.bind_some, toSyntax, text?,
    orDefault?, optionalText?_ofOption, optionalBoolean?_ofOption, NullPolicy.read?_name, hargument]
  split <;> rfl

theorem isWhole_json {d : ValidatorDefinition} (h : d.IsExact) : d.json.IsWhole := by
  refine .object_zip ?_
  simp only [List.forall_mem_cons, List.not_mem_nil, false_imp_iff, implies_true]
  exact ⟨.string _, .ofOption fun a ha => (h a ha).isWhole, .ofOption fun _ _ => .string _,
    .ofOption fun _ _ => .string _, .string _, .ofOption fun _ _ => .boolean _,
    .ofOption fun _ _ => .string _, .ofOption fun _ _ => .boolean _, trivial⟩

/-- A validator comes back if its argument does. -/
theorem fits_and_restored_iff {d : ValidatorDefinition} :
    (d.Fits ∧ d.restored = d) ↔ ∀ j, d.argument = some (.value j) →
      (∀ s, j ≠ .string s) ∧ j ≠ .null ∧ j.nesting ≤ 123 := by
  obtain ⟨comparator, argument, isEnforced, message, nullPolicy, strict, converter, onTarget⟩ := d
  cases argument with
  | none => simp [Fits, restored]
  | some a => simpa [Fits, restored] using ArgumentDefinition.fits_and_restored?_iff

end ValidatorDefinition

/-! ## Fields -/

namespace FieldDefinition

/-- What a written field is read as. -/
def restored (d : FieldDefinition) : FieldDefinition :=
  { d with validators := d.validators.map ValidatorDefinition.restored }

def Fits (d : FieldDefinition) : Prop := ∀ v ∈ d.validators, v.Fits

instance (d : FieldDefinition) : Decidable d.Fits :=
  inferInstanceAs (Decidable (∀ v ∈ d.validators, v.Fits))

def IsExact (d : FieldDefinition) : Prop := ∀ v ∈ d.validators, v.IsExact

theorem read?_json {d : FieldDefinition} (h : d.IsExact) :
    read? d.json.toSyntax = if d.Fits then some d.restored else none := by
  have hvalidators : array? ValidatorDefinition.read?
      (.array (itemSyntax (d.validators.map ValidatorDefinition.json))) =
        if d.Fits then some (d.validators.map ValidatorDefinition.restored) else none := by
    rw [array?, itemSyntax_eq, List.map_map]
    exact mapM_map_eq_ite fun v hv => ValidatorDefinition.read?_json (h v hv)
  rw [read?, json, membersOf?_zip (by decide) rfl]
  simp only [List.map_cons, List.map_nil, Option.bind_eq_bind, Option.bind_some, toSyntax, text?,
    boolean?, orDefault?, optionalText?_ofOption, hvalidators]
  split <;> rfl

theorem isWhole_json {d : FieldDefinition} (h : d.IsExact) : d.json.IsWhole := by
  refine .object_zip ?_
  simp only [List.forall_mem_cons, List.not_mem_nil, false_imp_iff, implies_true]
  exact ⟨.string _, .ofOption fun _ _ => .string _, .ofOption fun _ _ => .string _,
    .ofOption fun _ _ => .string _, .ofOption fun _ _ => .string _, .boolean _,
    .array (by simpa using fun v hv => ValidatorDefinition.isWhole_json (h v hv)), trivial⟩

/-- A field comes back if its validators do. -/
theorem fits_and_restored_iff {d : FieldDefinition} :
    (d.Fits ∧ d.restored = d) ↔ ∀ v ∈ d.validators, v.Fits ∧ v.restored = v := by
  cases d
  simp [Fits, restored, map_eq_self_iff, forall_and]

/-- What a written list of fields is read as. -/
theorem readAll?_writeAll {ds : List FieldDefinition} (h : ∀ d ∈ ds, d.IsExact) :
    readAll? (writeAll ds) = if ∀ d ∈ ds, d.Fits then some (ds.map restored) else none := by
  have hwhole : (Json.array (ds.map json)).IsWhole :=
    .array (by simpa using fun d hd => isWhole_json (h d hd))
  rw [readAll?, writeAll, hwhole.read?_render, toSyntax, itemSyntax_eq, List.map_map]
  exact mapM_map_eq_ite fun d hd => read?_json (h d hd)

theorem comes_back_iff {ds : List FieldDefinition} (h : ∀ d ∈ ds, d.IsExact) :
    readAll? (writeAll ds) = some ds ↔ ∀ d ∈ ds, d.Fits ∧ d.restored = d := by
  rw [readAll?_writeAll h, Option.ite_none_right_eq_some, Option.some.injEq, map_eq_self_iff]
  exact forall₂_and.symm

/-- A list of fields comes back from its text if and only if no fixed argument is a string, is
    `null` or nests deeper than 123 levels. -/
theorem readAll?_writeAll_eq_some_iff {ds : List FieldDefinition} (h : ∀ d ∈ ds, d.IsExact) :
    readAll? (writeAll ds) = some ds ↔
      ∀ d ∈ ds, ∀ v ∈ d.validators, ∀ j, v.argument = some (.value j) →
        (∀ s, j ≠ .string s) ∧ j ≠ .null ∧ j.nesting ≤ 123 := by
  rw [comes_back_iff h]
  simp only [fits_and_restored_iff, ValidatorDefinition.fits_and_restored_iff]

/-- A field whose one validator compares with this argument. -/
def comparing (a : ArgumentDefinition) : FieldDefinition where
  key := "Name"
  name := none
  tooltip := none
  isVisible := none
  isEnabled := none
  hiddenOnFalse := false
  validators := [{
    comparator := "NotEqual"
    argument := some a
    isEnforced := none
    message := some "{Binding Name} is taken"
    nullPolicy := .treatAsValid
    strict := some true
    converter := none
    onTargetUpdated := none }]

theorem isExact_comparing {a : ArgumentDefinition} (h : a.IsExact) : (comparing a).IsExact := by
  simpa [IsExact, comparing, ValidatorDefinition.IsExact] using h

theorem comparing_comes_back_iff {a : ArgumentDefinition} (h : a.IsExact) :
    readAll? (writeAll [comparing a]) = some [comparing a] ↔ a.Fits ∧ a.restored? = some a := by
  rw [comes_back_iff (by simpa using isExact_comparing h)]
  simp [fits_and_restored_iff, ValidatorDefinition.fits_and_restored_iff,
    ArgumentDefinition.fits_and_restored?_iff, comparing]

/-- Lists, objects and templates come back. -/
theorem comparing_restored :
    readAll? (writeAll [
        comparing (.value (.array [.string "root", .object [("id", .integer 7), ("to", .null)]])),
        comparing (.template "{Binding Owner}")]) =
      some [
        comparing (.value (.array [.string "root", .object [("id", .integer 7), ("to", .null)]])),
        comparing (.template "{Binding Owner}")] := by
  have hobject : (Json.object [("id", .integer 7), ("to", .null)]).IsExact :=
    .object (List.pairwise_pair.2 (by decide)) (by simpa using ⟨.integer (by decide) (by decide), .null⟩)
  have hlist : (ArgumentDefinition.value
      (.array [.string "root", .object [("id", .integer 7), ("to", .null)]])).IsExact :=
    .array (by simpa using ⟨.string _, hobject⟩)
  have htemplate : (ArgumentDefinition.template "{Binding Owner}").IsExact := .string _
  refine (readAll?_writeAll_eq_some_iff ?_).2 ?_
  · simpa using ⟨isExact_comparing hlist, isExact_comparing htemplate⟩
  · simp [comparing, nesting, itemNesting, memberNesting]

/-- `null` inside of `n` arrays. -/
def nested : Nat → Json
  | 0 => .null
  | n + 1 => .array [nested n]

theorem isExact_nested (n : Nat) : (nested n).IsExact := by
  induction n with
  | zero => exact .null
  | succ n ih => exact .array (by simpa using ih)

theorem nesting_nested (n : Nat) : (nested n).nesting = n := by
  induction n with
  | zero => rfl
  | succ n ih => simp [nested, nesting, itemNesting, ih]

/-- A fixed string, a fixed `null` and an argument of 124 levels do not come back. -/
theorem comparing_altered :
    ((comparing (.value (.string "{Binding Owner}"))).IsExact ∧
      readAll? (writeAll [comparing (.value (.string "{Binding Owner}"))]) ≠
        some [comparing (.value (.string "{Binding Owner}"))]) ∧
    ((comparing (.value .null)).IsExact ∧
      readAll? (writeAll [comparing (.value .null)]) ≠ some [comparing (.value .null)]) ∧
    ((comparing (.value (nested 124))).IsExact ∧
      readAll? (writeAll [comparing (.value (nested 124))]) ≠
        some [comparing (.value (nested 124))]) := by
  have hstring : (ArgumentDefinition.value (.string "{Binding Owner}")).IsExact := .string _
  have hnull : (ArgumentDefinition.value .null).IsExact := .null
  have hdeep : (ArgumentDefinition.value (nested 124)).IsExact := isExact_nested 124
  refine ⟨⟨isExact_comparing hstring, ?_⟩, ⟨isExact_comparing hnull, ?_⟩,
    ⟨isExact_comparing hdeep, ?_⟩⟩
  · rw [ne_eq, comparing_comes_back_iff hstring]
    simp [ArgumentDefinition.restored?]
  · rw [ne_eq, comparing_comes_back_iff hnull]
    simp [ArgumentDefinition.restored?]
  · rw [ne_eq, comparing_comes_back_iff hdeep, ArgumentDefinition.Fits, ArgumentDefinition.json,
      nesting_nested]
    exact fun h => absurd h.1 (by decide)

end FieldDefinition

end LiveForm
