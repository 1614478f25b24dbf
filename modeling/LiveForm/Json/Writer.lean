/-
  Writing JSON documents, without blanks.
-/
import LiveForm.Json.Basic

namespace LiveForm.Json

/-- A digit in base sixteen. -/
def hexDigit (n : Nat) : Char := Nat.digitChar n

/-- The letter that stands for a character after a backslash, where there is one. -/
def escapeLetter? : Char → Option Char
  | '"' => some '"'
  | '\\' => some '\\'
  | '\x08' => some 'b'
  | '\x0c' => some 'f'
  | '\n' => some 'n'
  | '\r' => some 'r'
  | '\t' => some 't'
  | _ => none

/-- One character inside a string. -/
def escape (c : Char) : List Char :=
  match escapeLetter? c with
  | some e => ['\\', e]
  | none =>
    if c.toNat < 0x20 then
      ['\\', 'u', '0', '0', hexDigit (c.toNat / 16), hexDigit (c.toNat % 16)]
    else [c]

def renderString (s : String) : List Char :=
  '"' :: (s.toList.flatMap escape ++ ['"'])

/-- Separates the parts by commas. -/
def commaSeparated : List (List Char) → List Char
  | [] => []
  | [x] => x
  | x :: xs => x ++ ',' :: commaSeparated xs

mutual

def renderChars : Json → List Char
  | .null => ['n', 'u', 'l', 'l']
  | .boolean true => ['t', 'r', 'u', 'e']
  | .boolean false => ['f', 'a', 'l', 's', 'e']
  | .integer n => (if n < 0 then ['-'] else []) ++ Text.digits n.natAbs
  | .float x => x.render
  | .string s => renderString s
  | .array items => '[' :: (commaSeparated (renderItems items) ++ [']'])
  | .object members => '{' :: (commaSeparated (renderMembers members) ++ ['}'])

def renderItems : List Json → List (List Char)
  | [] => []
  | j :: js => renderChars j :: renderItems js

def renderMembers : List (String × Json) → List (List Char)
  | [] => []
  | (n, j) :: js => (renderString n ++ ':' :: renderChars j) :: renderMembers js

end

def render (j : Json) : String := String.ofList (renderChars j)

end LiveForm.Json
