/-
  The ways in which a template can be malformed. Positions are byte offsets into the template.
-/
import LiveForm.Diagnostic

namespace LiveForm

inductive SyntaxError where
  /-- A brace that is never closed. -/
  | unclosedBrace (position : Nat)
  /-- A closing brace outside of any expression. -/
  | unexpectedCloseBrace (position : Nat)
  /-- An opening brace inside an expression. -/
  | nestedBrace (position : Nat)
  /-- An expression of blanks. -/
  | emptyExpression (position : Nat)
  | unexpectedToken (token : String) (position : Nat)
  | expectedToken (expected : String) (position : Nat)
  | unexpectedEnd (position : Nat)
  | unclosedString (position : Nat)
  | invalidNumber (literal : String) (position : Nat)
  | invalidPath (reason : String) (position : Nat)
  /-- No name after a filter bar. -/
  | emptyFilterName (position : Nat)
  /-- A word that opens neither a path nor a literal. -/
  | unknownSource (word : String) (position : Nat)
  | invalidCharacter (c : Char) (position : Nat)
deriving DecidableEq, Inhabited

namespace SyntaxError

def position : SyntaxError → Nat
  | .unclosedBrace p | .unexpectedCloseBrace p | .nestedBrace p | .emptyExpression p
  | .unexpectedToken _ p | .expectedToken _ p | .unexpectedEnd p | .unclosedString p
  | .invalidNumber _ p | .invalidPath _ p | .emptyFilterName p | .unknownSource _ p
  | .invalidCharacter _ p => p

def message : SyntaxError → String
  | .unclosedBrace p => "Unclosed '\x7b' opened at position " ++ Text.ofNat p
  | .unexpectedCloseBrace p => "Unexpected '\x7d' at position " ++ Text.ofNat p
  | .nestedBrace p =>
    "Nested '\x7b' at position " ++ Text.ofNat p ++ "; use parentheses to group expressions"
  | .emptyExpression p => "Empty expression at position " ++ Text.ofNat p
  | .unexpectedToken t p => "Unexpected token '" ++ t ++ "' at position " ++ Text.ofNat p
  | .expectedToken e p => "Expected " ++ e ++ " at position " ++ Text.ofNat p
  | .unexpectedEnd p => "Unexpected end of expression at position " ++ Text.ofNat p
  | .unclosedString p => "Unclosed string literal starting at position " ++ Text.ofNat p
  | .invalidNumber l p =>
    "Invalid number literal '" ++ l ++ "' at position " ++ Text.ofNat p
  | .invalidPath r p => "Invalid property path at position " ++ Text.ofNat p ++ ": " ++ r
  | .emptyFilterName p => "Missing filter name after '|' at position " ++ Text.ofNat p
  | .unknownSource w p => "Unknown source '" ++ w ++ "' at position " ++ Text.ofNat p ++
    "; expected 'Binding', 'ContextBinding' or a literal"
  | .invalidCharacter c p =>
    "Invalid character '" ++ String.singleton c ++ "' at position " ++ Text.ofNat p

def code : SyntaxError → DiagnosticCode
  | .unclosedBrace _ | .unexpectedCloseBrace _ | .nestedBrace _ => .unbalancedBrace
  | .expectedToken _ _ => .expectedToken
  | .unclosedString _ => .unclosedString
  | .invalidNumber _ _ => .invalidNumber
  | .invalidPath _ _ => .invalidPath
  | .emptyFilterName _ => .emptyFilterName
  | .emptyExpression _ | .unexpectedToken _ _ | .unexpectedEnd _ | .unknownSource _ _
  | .invalidCharacter _ _ => .unexpectedToken

/-- The error as a diagnostic that points into the template. -/
def diagnostic (e : SyntaxError) (template : String) : Diagnostic :=
  { Diagnostic.ofMessage .error e.code e.message with
    location := some ⟨e.position, 1⟩
    source := some template }

/-- The report of the error with a caret under its position. -/
def report (e : SyntaxError) (template : String) : String := (e.diagnostic template).report true

end SyntaxError

end LiveForm
