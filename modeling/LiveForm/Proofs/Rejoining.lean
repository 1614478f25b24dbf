/-
  Templates from their segments.

  The splitter loses nothing: with the braces of texts escaped and the bodies in braces, its segments
  make up the template again. So they are split off from it again, and they are in a normal form:
  texts have characters and stand apart, bodies have more than blanks and stand in the template behind
  their opening braces, one behind the other.

  * `Segment.join` writes segments, `Segment.Follows` says what may stand behind what;
  * `Segment.Tiles`: segments stand in a text one behind the other, with nothing in between;
  * `Segment.tiles_of_splitText`: so do those that the splitter gives;
  * `Segment.split_canonical`: what this says of every template that the splitter takes.
-/
import LiveForm.Proofs.Offsets
import LiveForm.Proofs.RoundTrip

namespace LiveForm

open Text

namespace Segment

/-! ## Writing segments -/

/-- The text of a segment in a template: braces of texts get a backslash, bodies stand in braces. -/
def write : Segment → List Char
  | .text s => s.toList.flatMap Part.escapeBrace
  | .body b _ => '{' :: (b.toList ++ ['}'])

/-- The template that segments make up. -/
def join (segments : List Segment) : List Char := segments.flatMap write

/-- The offset of a body. -/
def start? : Segment → Option Nat
  | .text _ => none
  | .body _ start => some start

/-- What may stand directly behind a segment: no text behind a text, and no body behind one that ends
    in a backslash. -/
def Follows : Segment → Segment → Prop
  | .text _, .text _ => False
  | .text s, .body _ _ => s.toList.getLast? ≠ some '\\'
  | .body _ _, _ => True

/-! ## Segments in their places -/

/-- The text at an offset is made of these segments; bodies have more than blanks and are at their
    offsets. -/
inductive Tiles : Nat → List Char → List Segment → Prop
  | nil {pos : Nat} : Tiles pos [] []
  | text {pos : Nat} {s : String} {cs : List Char} {segments : List Segment}
      (h : Tiles (pos + width (write (.text s))) cs segments) :
      Tiles pos (write (.text s) ++ cs) (.text s :: segments)
  | body {pos : Nat} {b : String} {cs : List Char} {segments : List Segment}
      (hb : ∃ c ∈ b.toList, isBlank c = false)
      (h : Tiles (pos + width (write (.body b (pos + 1)))) cs segments) :
      Tiles pos (write (.body b (pos + 1)) ++ cs) (.body b (pos + 1) :: segments)

namespace Tiles

variable {pos : Nat} {cs gathered : List Char} {segments : List Segment}

theorem join_eq (h : Tiles pos cs segments) : join segments = cs := by
  induction h with
  | nil => rfl
  | text _ ih => rw [join, List.flatMap_cons, ← join, ih]
  | body _ _ ih => rw [join, List.flatMap_cons, ← join, ih]

/-- The bodies come one behind the other. -/
theorem increasing (h : Tiles pos cs segments) :
    (segments.filterMap start?).Pairwise (· < ·) ∧ ∀ p ∈ segments.filterMap start?, pos < p := by
  induction h with
  | nil => simp
  | text _ ih => exact ⟨ih.1, fun p hp => by have := ih.2 p hp; omega⟩
  | @body pos b cs segments _ _ ih =>
    have hbehind : ∀ p ∈ segments.filterMap start?, pos + 1 < p := by
      intro p hp
      have := ih.2 p hp
      simp [write] at this
      omega
    refine ⟨List.pairwise_cons.2 ⟨hbehind, ih.1⟩, List.forall_mem_cons.2 ⟨Nat.lt_succ_self _, ?_⟩⟩
    exact fun p hp => Nat.lt_of_succ_lt (hbehind p hp)

/-- A body stands between its braces. -/
theorem body_located (h : Tiles pos cs segments) {b : String} {start : Nat}
    (hm : .body b start ∈ segments) :
    (∃ c ∈ b.toList, isBlank c = false) ∧
      ∃ before after, cs = before ++ '{' :: (b.toList ++ '}' :: after) ∧
        start = pos + width before + 1 := by
  induction h with
  | nil => cases hm
  | @text pos s cs segments _ ih =>
    obtain ⟨hb, before, after, rfl, rfl⟩ := ih (by simpa using hm)
    exact ⟨hb, write (.text s) ++ before, after, by simp, by simp [Nat.add_assoc]⟩
  | @body pos b' cs segments hb' _ ih =>
    rcases List.mem_cons.1 hm with hm | hm
    · cases hm
      exact ⟨hb', [], cs, by simp [write], rfl⟩
    · obtain ⟨hb, before, after, rfl, rfl⟩ := ih hm
      exact ⟨hb, write (.body b' (pos + 1)) ++ before, after, by simp, by simp [Nat.add_assoc]⟩

theorem of_flush (h : Tiles (pos + width (gathered.reverse.flatMap Part.escapeBrace)) cs segments) :
    Tiles pos (gathered.reverse.flatMap Part.escapeBrace ++ cs) (flush gathered ++ segments) := by
  unfold flush
  split
  · next hempty =>
    obtain rfl : gathered = [] := by simpa using hempty
    exact h
  · have hwrite : write (.text (String.ofList gathered.reverse)) =
        gathered.reverse.flatMap Part.escapeBrace := by simp [write]
    rw [← hwrite] at h ⊢
    exact .text h

end Tiles

mutual

/-- What the splitter has gathered and what is left are made of the segments that it gives. -/
theorem tiles_of_splitText (start : Nat) (gathered : List Char) {cs : List Char} {pos : Nat}
    {segments : List Segment} (hpos : pos = start + width (gathered.reverse.flatMap Part.escapeBrace))
    (h : splitText gathered pos cs = .ok segments) :
    Tiles start (gathered.reverse.flatMap Part.escapeBrace ++ cs) segments := by
  have hwidth : '\\'.utf8Size = 1 := rfl
  rw [splitText.eq_def] at h
  split at h
  · cases h
    simpa using Tiles.nil.of_flush
  · have htiles := tiles_of_splitText start _ (by simp [Part.escapeBrace]; omega) h
    simpa [Part.escapeBrace] using htiles
  · have htiles := tiles_of_splitText start _ (by simp [Part.escapeBrace]; omega) h
    simpa [Part.escapeBrace] using htiles
  · next c r hopen hclose =>
    split_ifs at h with hc hc'
    · subst hc hpos
      obtain ⟨segments', hb, rfl⟩ := exists_of_map_ok h
      exact (tiles_of_splitBody (by simp) hb).of_flush
    · have hescape : Part.escapeBrace c = [c] := by simp [Part.escapeBrace, hc, hc']
      have htiles := tiles_of_splitText start _ (by simp [hescape]; omega) h
      simpa [hescape] using htiles
termination_by cs.length

/-- So are those that it finds from inside of a body on. -/
theorem tiles_of_splitBody {gathered cs : List Char} {start pos : Nat} {quote : Option Quote}
    {segments : List Segment} (hpos : pos = start + 1 + width gathered.reverse)
    (h : splitBody start gathered quote pos cs = .ok segments) :
    Tiles start ('{' :: (gathered.reverse ++ cs)) segments := by
  have hwidth : '\\'.utf8Size = 1 := rfl
  rw [splitBody.eq_def] at h
  split at h
  · split at h <;> cases h
  · next c r =>
    split at h
    · split_ifs at h with hc
      · subst hc
        split at h
        · cases h
        · simpa using tiles_of_splitBody (by simp; omega) h
      all_goals simpa using tiles_of_splitBody (by simp; omega) h
    · split_ifs at h with hopen hclose hblank
      · subst hclose
        obtain ⟨rest, hr, rfl⟩ := exists_of_map_ok h
        have hb : ∃ c ∈ (String.ofList gathered.reverse).toList, isBlank c = false := by
          simpa using hblank
        have hnext : pos + 1 =
            start + width (write (.body (String.ofList gathered.reverse) (start + 1))) := by
          simp [write, hpos]
          omega
        have hrest : Tiles (pos + 1) r rest := tiles_of_splitText (pos + 1) [] rfl hr
        simpa [write] using Tiles.body hb (hnext ▸ hrest)
      all_goals simpa using tiles_of_splitBody (by simp; omega) h
termination_by cs.length

end

/-! ## The shape of segments -/

theorem Proper.ne_empty {segments : List Segment} (h : Proper segments) :
    ∀ s, .text s ∈ segments → s ≠ "" := by
  fun_induction Proper segments with
  | case1 => simp
  | case2 s => simpa using h
  | case3 s b start rest ih => simpa [h.1] using ih h.2.2
  | case4 => exact h.elim
  | case5 b start rest ih => simpa using ih h

theorem Proper.follows {segments : List Segment} (h : Proper segments) :
    segments.IsChain Follows := by
  fun_induction Proper segments with
  | case1 => exact .nil
  | case2 s => exact .singleton _
  | case3 s b start rest ih => exact .cons_cons h.2.1 (ih h.2.2)
  | case4 => exact h.elim
  | case5 b start rest ih =>
    cases rest with
    | nil => exact .singleton _
    | cons g rest => exact .cons_cons trivial (ih h)

/-- What the splitter gives is in a normal form. No text is empty, none stands behind another, and
    none in front of a body ends in a backslash; a body has more than blanks, and it is what stands
    in the template at its offset, between an opening and a closing brace; offsets increase. The
    segments make up the template, so they are split off from what they make up. -/
theorem split_canonical {template : String} {segments : List Segment}
    (h : split template.toList = .ok segments) :
    (∀ s, .text s ∈ segments → s ≠ "") ∧ segments.IsChain Follows ∧
      (∀ b start, .body b start ∈ segments → (∃ c ∈ b.toList, isBlank c = false) ∧
        slice? start (start + width b.toList) template.toList = some b.toList ∧
        ∃ before after, template.toList = before ++ '{' :: (b.toList ++ '}' :: after) ∧
          start = width before + 1) ∧
      (segments.filterMap start?).Pairwise (· < ·) ∧
      join segments = template.toList ∧ split (join segments) = .ok segments := by
  have hproper : Proper segments := splitText_proper (fun hl => by cases hl) h
  have htiles : Tiles 0 template.toList segments := tiles_of_splitText 0 [] rfl h
  refine ⟨hproper.ne_empty, hproper.follows, fun b start hb => ?_, htiles.increasing.1,
    htiles.join_eq, htiles.join_eq ▸ h⟩
  obtain ⟨hholds, before, after, ht, hstart⟩ := htiles.body_located hb
  rw [Nat.zero_add] at hstart
  refine ⟨hholds, ?_, before, after, ht, hstart⟩
  rw [ht, hstart]
  simpa using slice?_append (before ++ ['{']) b.toList ('}' :: after)

/-- A template with escaped braces, backslashes that escape nothing, a closing brace in a literal,
    and a text that starts anew behind a body. -/
def escaping : String := "é\\\\\x7b\\x \x7b'\x7d' | F\x7d\\\x7d\x7b Binding b\x7d\\"

theorem split_canonical_escaping :
    ∃ segments, split escaping.toList = .ok segments ∧
      segments = [.text "é\\\x7b\\x ", .body "'\x7d' | F" 9, .text "\x7d", .body " Binding b" 20,
        .text "\\"] ∧
      (∀ b start, .body b start ∈ segments → (∃ c ∈ b.toList, isBlank c = false) ∧
        slice? start (start + width b.toList) escaping.toList = some b.toList) ∧
      segments.IsChain Follows ∧ (segments.filterMap start?).Pairwise (· < ·) ∧
      join segments = escaping.toList ∧ split (join segments) = .ok segments := by
  have h : split escaping.toList = .ok [.text "é\\\x7b\\x ", .body "'\x7d' | F" 9, .text "\x7d",
      .body " Binding b" 20, .text "\\"] := by decide +kernel
  obtain ⟨-, hfollows, hbodies, hincreasing, hjoin⟩ := split_canonical h
  exact ⟨_, h, rfl, fun b start hb => ⟨(hbodies b start hb).1, (hbodies b start hb).2.1⟩, hfollows,
    hincreasing, hjoin⟩

end Segment

end LiveForm
