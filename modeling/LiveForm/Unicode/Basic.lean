/-
  Sets of characters as the tables of Unicode give them: as text, and by name.

  The tables are those of version 16.
-/
import LiveForm.Text.Basic

namespace LiveForm

namespace CharSet

/-- A point of a table, in base sixteen. -/
def pointOfWord (word : List Char) : Nat := (Text.hexNumeral? word).getD 0

/-- The ranges that a word of a table stands for: a point, a range with a hyphen between its ends,
    or every second point of such a range where `/2` follows it. -/
def rangesOfWord (word : List Char) : List (Nat × Nat) :=
  match Text.splitAt '-' word with
  | [a] => [(pointOfWord a, pointOfWord a)]
  | [a, b] =>
    let lo := pointOfWord a
    match Text.splitAt '/' b with
    | [b] => [(lo, pointOfWord b)]
    | b :: _ =>
      (List.range ((pointOfWord b - lo) / 2 + 1)).map fun k => (lo + 2 * k, lo + 2 * k)
    | [] => []
  | _ => []

/-- The words of a table, which blanks and ends of lines part. -/
def wordsOf (table : List Char) : List (List Char) :=
  ((Text.splitAt '\n' table).flatMap (Text.splitAt ' ')).filter (!·.isEmpty)

/-- The set of ascending ranges that the words of a table stand for. -/
def ofTable (table : String) : CharSet := ofRanges ((wordsOf table.toList).flatMap rangesOfWord)

end CharSet

/-- A set of characters and the names that it goes by, in small letters and without separators. -/
structure NamedSet where
  names : List String
  set : CharSet

namespace NamedSet

/-- The set of a name. -/
def find? (sets : List NamedSet) (name : String) : Option CharSet :=
  (sets.find? (·.names.contains name)).map (·.set)

end NamedSet

end LiveForm
