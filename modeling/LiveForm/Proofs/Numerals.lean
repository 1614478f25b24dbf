/-
  Numerals: the digits that a number is written with are read as that number.

  Written numbers are read back in two places, as the tokens of integers and as decimals. Both read
  digit by digit, so both come down to the value of a run of digits (`Nat.ofDigitChars`). A decimal
  is read with a bound on its coefficient after every digit; no beginning of the written coefficient
  is larger than the whole of it, so the bound never bites.
-/
import LiveForm.Template.Token
import Mathlib.Data.List.Basic

namespace LiveForm

/-! ## Digits -/

theorem Token.isDigit_eq (c : Char) : Token.isDigit c = c.isDigit := by
  simp [Token.isDigit, Char.isDigit, Char.le_def]

namespace Text

theorem digit?_of_isDigit {c : Char} (h : Token.isDigit c) :
    digit? c = some (c.toNat - '0'.toNat) := if_pos (by simpa [Token.isDigit] using h)

theorem digits_ne_nil (n : Nat) : digits n ≠ [] := Nat.toDigits_ne_nil

theorem isDigit_of_mem_digits {n : Nat} {c : Char} (h : c ∈ digits n) : Token.isDigit c := by
  rw [Token.isDigit_eq]
  exact Nat.isDigit_of_mem_toDigits (by decide) (by decide) h

theorem numeral_eq {cs : List Char} (h : ∀ c ∈ cs, Token.isDigit c) :
    numeral cs = Nat.ofDigitChars 10 cs 0 := by
  rw [numeral, Nat.ofDigitChars_eq_foldl]
  refine List.foldl_ext _ _ 0 fun n c hc => ?_
  rw [digit?_of_isDigit (h c hc)]

theorem numeral_digits (n : Nat) : numeral (digits n) = n := by
  rw [numeral_eq fun _ => isDigit_of_mem_digits, digits, Nat.ofDigitChars_ten_toDigits]

end Text

/-- A run of digits after a number denotes a number that is at least as large. -/
theorem le_ofDigitChars (cs : List Char) (n : Nat) : n ≤ Nat.ofDigitChars 10 cs n := by
  rw [Nat.ofDigitChars_eq_ofDigitChars_zero]
  have := Nat.le_mul_of_pos_left n (Nat.pow_pos (n := cs.length) (by decide : 0 < 10))
  omega

/-! ## Integers -/

theorem Token.int64?_digits (n : Int64) :
    Token.int64? (n.toInt < 0) (Text.digits n.toInt.natAbs) = some n := by
  have hlt := n.toInt_lt
  have hle := n.le_toInt
  unfold Token.int64?
  rw [Text.numeral_digits]
  by_cases hn : n.toInt < 0
  · rw [if_pos (by simpa using hn), if_pos (by omega), show -(n.toInt.natAbs : Int) = n.toInt by omega,
      Int64.ofInt_toInt]
  · rw [if_neg (by simpa using hn), if_pos (by omega), show (n.toInt.natAbs : Int) = n.toInt by omega,
      Int64.ofInt_toInt]

/-! ## Decimals -/

namespace Decimal

theorem readPlaces_digits {cs : List Char} (hc : ∀ c ∈ cs, Token.isDigit c) {n scale : Nat}
    (hn : Nat.ofDigitChars 10 cs n < bound) (hs : scale + cs.length ≤ maxScale) :
    readPlaces n scale cs = some (Nat.ofDigitChars 10 cs n, scale + cs.length) := by
  induction cs generalizing n scale with
  | nil => rfl
  | cons c cs ih =>
    obtain ⟨hd, hds⟩ := List.forall_mem_cons.1 hc
    rw [Nat.ofDigitChars_cons] at hn ⊢
    rw [List.length_cons] at hs ⊢
    have hroom := Nat.lt_of_le_of_lt (le_ofDigitChars cs _) hn
    rw [readPlaces, Text.digit?_of_isDigit hd]
    simp only
    rw [if_pos ⟨by omega, hroom⟩, ih hds hn (by omega)]
    simp [Nat.add_comm, Nat.add_left_comm]

theorem readWhole_digits {cs ps : List Char} (hc : ∀ c ∈ cs, Token.isDigit c) {n : Nat}
    (hn : Nat.ofDigitChars 10 cs n < bound) :
    readWhole n (cs ++ '.' :: ps) = readPlaces (Nat.ofDigitChars 10 cs n) 0 ps := by
  induction cs generalizing n with
  | nil => rfl
  | cons c cs ih =>
    obtain ⟨hd, hds⟩ := List.forall_mem_cons.1 hc
    rw [Nat.ofDigitChars_cons] at hn ⊢
    have hroom := Nat.lt_of_le_of_lt (le_ofDigitChars cs _) hn
    have hdot : c ≠ '.' := by rintro rfl; exact absurd hd (by decide)
    have hline : c ≠ '_' := by rintro rfl; exact absurd hd (by decide)
    have hstep : readWhole n (c :: (cs ++ '.' :: ps)) =
        readWhole (10 * n + (c.toNat - '0'.toNat)) (cs ++ '.' :: ps) := by
      rw [readWhole.eq_def]
      split <;> simp_all [Text.digit?_of_isDigit]
    rw [List.cons_append, hstep, ih hds hn]

/-- The digits of a coefficient, with a zero before the point if there is no other digit. -/
def padded (n scale : Nat) : List Char :=
  List.replicate (scale + 1 - (Text.digits n).length) '0' ++ Text.digits n

theorem isDigit_of_mem_padded {n scale : Nat} {c : Char} (h : c ∈ padded n scale) :
    Token.isDigit c := by
  rcases List.mem_append.1 h with h | h
  · rw [List.eq_of_mem_replicate h]
    decide
  · exact Text.isDigit_of_mem_digits h

theorem ofDigitChars_padded (n scale : Nat) : Nat.ofDigitChars 10 (padded n scale) 0 = n := by
  rw [padded, Nat.ofDigitChars_append, Nat.ofDigitChars_replicate_zero, Nat.mul_zero, Text.digits,
    Nat.ofDigitChars_ten_toDigits]

theorem lt_length_padded (n scale : Nat) : scale < (padded n scale).length := by
  simp only [padded, List.length_append, List.length_replicate]
  omega

/-- A written coefficient is digits, a point, and as many digits as there are places. -/
theorem pointed_eq (n : Nat) {scale : Nat} (hs : scale ≠ 0) :
    ∃ whole places, whole ≠ [] ∧ places.length = scale ∧ whole ++ places = padded n scale ∧
      pointed n scale = whole ++ '.' :: places := by
  have hlen := lt_length_padded n scale
  refine ⟨(padded n scale).take ((padded n scale).length - scale),
    (padded n scale).drop ((padded n scale).length - scale), ?_, ?_, List.take_append_drop .., ?_⟩
  · rw [← List.length_pos_iff, List.length_take]
    omega
  · rw [List.length_drop]
    omega
  · rw [pointed, if_neg hs]
    rfl

/-- A sign before digits and a point is read as the sign of the coefficient. -/
theorem read?_signed {c : Char} (hc : Token.isDigit c) {body : List Char} {n scale : Nat}
    (h : readWhole 0 (c :: body) = some (n, scale)) (negative : Bool) :
    read? ((if negative then ['-'] else []) ++ c :: body) = ofParts? (signed negative n) scale := by
  have hbegins : beginsWithDigit (c :: body) := by
    have hdot : c ≠ '.' := by rintro rfl; exact absurd hc (by decide)
    simp [beginsWithDigit, hdot, Text.digit?_of_isDigit hc]
  have hminus : c ≠ '-' := by rintro rfl; exact absurd hc (by decide)
  have hplus : c ≠ '+' := by rintro rfl; exact absurd hc (by decide)
  cases negative with
  | true => simp [read?, hbegins, h]
  | false => simp [read?, hbegins, h, hminus, hplus]

/-- A decimal that is written with a point is read as itself. -/
theorem read?_render (d : Decimal) (hs : d.scale ≠ 0) : read? d.render = some d := by
  obtain ⟨whole, places, hne, hlen, hds, hp⟩ := pointed_eq d.coefficient.natAbs hs
  have hdigit : ∀ c ∈ whole ++ places, Token.isDigit c := by
    rw [hds]
    exact fun _ => isDigit_of_mem_padded
  obtain ⟨hw, hps⟩ := List.forall_mem_append.1 hdigit
  have hvalue : Nat.ofDigitChars 10 places (Nat.ofDigitChars 10 whole 0) = d.coefficient.natAbs := by
    rw [← Nat.ofDigitChars_append, hds, ofDigitChars_padded]
  have hroom : Nat.ofDigitChars 10 places (Nat.ofDigitChars 10 whole 0) < bound := by
    rw [hvalue]
    exact d.coefficient_lt
  have hread : readWhole 0 (whole ++ '.' :: places) = some (d.coefficient.natAbs, d.scale) := by
    rw [readWhole_digits hw (Nat.lt_of_le_of_lt (le_ofDigitChars places _) hroom),
      readPlaces_digits hps hroom (by rw [hlen, Nat.zero_add]; exact d.scale_le), hvalue, hlen,
      Nat.zero_add]
  have hsigned : signed (d.coefficient < 0) d.coefficient.natAbs = d.coefficient := by
    by_cases h : d.coefficient < 0
    · rw [signed, if_pos (by simpa using h)]
      omega
    · rw [signed, if_neg (by simpa using h)]
      omega
  obtain ⟨c, whole, rfl⟩ := List.exists_cons_of_ne_nil hne
  have h := read?_signed (hw c (by simp)) hread (d.coefficient < 0)
  rw [hsigned, ofParts?, dif_pos ⟨d.coefficient_lt, d.scale_le⟩] at h
  rw [render, hp]
  simpa using h

end Decimal

end LiveForm
