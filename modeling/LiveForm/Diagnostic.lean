/-
  Diagnostics: what is wrong with a template or a form, where, and how it is shown.
-/
import LiveForm.Text.Basic

namespace LiveForm

inductive Severity where
  | warning
  | error
deriving DecidableEq, Inhabited

/-- What a diagnostic is about. -/
inductive DiagnosticCode where
  | unexpectedToken
  | expectedToken
  | unclosedString
  | invalidNumber
  | unbalancedBrace
  | invalidPath
  | emptyFilterName
  | unknownFilter
  | invalidArity
  | filterFailed
  | dependencyCycle
  | invalidDefinition
deriving DecidableEq, Inhabited

/-- A range of bytes in a source text. -/
structure Location where
  offset : Nat
  length : Nat
deriving DecidableEq, Inhabited

structure Diagnostic where
  severity : Severity
  code : DiagnosticCode
  message : String
  location : Option Location
  source : Option String
  help : Option String
deriving DecidableEq, Inhabited

def Severity.text : Severity → String
  | .warning => "warning"
  | .error => "error"

namespace DiagnosticCode

/-- The short name of the code: a letter for its usual severity and a number. -/
def text : DiagnosticCode → String
  | .unexpectedToken => "E001"
  | .expectedToken => "E002"
  | .unclosedString => "E003"
  | .invalidNumber => "E004"
  | .unbalancedBrace => "E005"
  | .invalidPath => "E006"
  | .emptyFilterName => "E007"
  | .unknownFilter => "E100"
  | .invalidArity => "E101"
  | .filterFailed => "E102"
  | .dependencyCycle => "W200"
  | .invalidDefinition => "E300"

/-- The advice that goes with the code. -/
def help : DiagnosticCode → Option String
  | .unknownFilter => some "Check the filter name spelling; filter names are case-sensitive"
  | .unbalancedBrace => some "Escape literal braces as \\\x7b and \\\x7d"
  | .invalidPath => some "Property paths are identifiers separated by single dots"
  | .emptyFilterName => some "Write a filter name after '|'"
  | .dependencyCycle => some "An expression feeds back into its own dependencies; break the loop"
  | _ => none

end DiagnosticCode

namespace Diagnostic

/-- A diagnostic with the advice of its code and without a place. -/
def ofMessage (severity : Severity) (code : DiagnosticCode) (message : String) : Diagnostic :=
  ⟨severity, code, message, none, none, code.help⟩

/-- The one-line form. -/
def summary (d : Diagnostic) : String :=
  d.severity.text ++ "[" ++ d.code.text ++ "]: " ++ d.message

/-- How many characters stand before a byte offset; nothing inside a character. An offset behind the
    end counts as the end. -/
def column? (offset : Nat) : List Char → Option Nat
  | [] => some 0
  | c :: cs =>
    if offset = 0 then some 0
    else if offset < c.utf8Size then none
    else (column? (offset - c.utf8Size) cs).map (· + 1)

/-- The line under a source text: carets under the located bytes, at least one. Without a column
    they stand at the left. -/
def caretLine (source : String) (l : Location) : String :=
  String.ofList (List.replicate ((column? l.offset source.toList).getD 0) ' ' ++
    List.replicate (max l.length 1) '^')

/-- The full report: the message, the source text with carets, and the advice if it is wanted. -/
def report (d : Diagnostic) (showHelp : Bool) : String :=
  let source := match d.source with
    | none => ""
    | some s => "\n  | " ++ s ++ match d.location with
      | none => ""
      | some l => "\n  | " ++ caretLine s l
  let help := match d.help with
    | some h => if showHelp then "\n  = help: " ++ h else ""
    | none => ""
  d.severity.text ++ ": " ++ d.message ++ " [" ++ d.code.text ++ "]" ++ source ++ help

end Diagnostic

end LiveForm
