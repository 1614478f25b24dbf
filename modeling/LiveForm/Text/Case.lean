/-
  Upper and lower case of a text by the full Unicode mappings. A capital sigma at the end of a word
  becomes the final small sigma; everything else is mapped character by character.
-/
import LiveForm.Text.Case.Table

namespace LiveForm

namespace Text

/-- The one-to-one image of a character, itself if it has none. -/
def mapped (runs : List CaseRun) (c : Char) : Char :=
  match runs.findSome? (·.image? c.toNat) with
  | some n => Char.ofNat n
  | none => c

/-- The full image of a character. -/
def expanded (expansions : List (Nat × List Nat)) (runs : List CaseRun) (c : Char) : List Char :=
  match expansions.lookup c.toNat with
  | some ns => ns.map Char.ofNat
  | none => [mapped runs c]

/-- Whether the first character that case does not pass over has a case. -/
def meetsCased (cs : List Char) : Bool :=
  match cs.dropWhile CharSet.caseIgnorable.contains with
  | [] => false
  | c :: _ => CharSet.cased.contains c

/-- The small form of a capital sigma between the text before it, nearest character first, and the
    text after it. -/
def smallSigma (before after : List Char) : Char :=
  if meetsCased before && !meetsCased after then 'ς' else 'σ'

def toUpper (cs : List Char) : List Char :=
  cs.flatMap (expanded upperExpansions upperRuns)

/-- Lower case of what follows the characters of `before`, which are given nearest first. -/
def toLowerAfter (before : List Char) : List Char → List Char
  | [] => []
  | c :: cs =>
    (if c = 'Σ' then [smallSigma before cs] else expanded lowerExpansions lowerRuns c)
      ++ toLowerAfter (c :: before) cs

def toLower (cs : List Char) : List Char := toLowerAfter [] cs

end Text

end LiveForm
