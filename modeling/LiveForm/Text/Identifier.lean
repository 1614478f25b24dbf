/-
  Identifiers: an opening character or an underscore, then any number of continuing characters.
-/
import LiveForm.Text.Identifier.Table

namespace LiveForm.Identifier

/-- Whether an identifier may open with this character. -/
def isStart (c : Char) : Bool := c == '_' || CharSet.identifierStart.contains c

/-- Whether an identifier may go on with this character. -/
def isContinue (c : Char) : Bool := CharSet.identifierContinue.contains c

/-- Whether the text is one identifier. -/
def isValid : List Char → Bool
  | [] => false
  | c :: cs => isStart c && cs.all isContinue

end LiveForm.Identifier
