/-
  Quoted text, as diagnostics and debug views show strings: between double quotes, with escapes for
  quotes, backslashes and line characters, and the code point of whatever has no shape of its own.
-/
import LiveForm.Text.Quoted.Table

namespace LiveForm.Text

/-- The digits of a code point in base sixteen between braces. -/
def codePoint (c : Char) : List Char :=
  '\\' :: 'u' :: '\x7b' :: (Nat.toDigits 16 c.toNat ++ ['\x7d'])

/-- The quoted form of one character. -/
def escaped (c : Char) : List Char :=
  if c = '\x00' then ['\\', '0']
  else if c = '\t' then ['\\', 't']
  else if c = '\r' then ['\\', 'r']
  else if c = '\n' then ['\\', 'n']
  else if c = '\\' then ['\\', '\\']
  else if c = '"' then ['\\', '"']
  else if !CharSet.shown.contains c then codePoint c
  else [c]

/-- The text between double quotes, escaped where needed. -/
def quoted (s : String) : String :=
  String.ofList ('"' :: (s.toList.flatMap escaped ++ ['"']))

end LiveForm.Text
