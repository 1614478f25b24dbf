/-
  What stands at the beginning of a group: a name, flags, or neither.
-/
import LiveForm.Pattern.Flags

namespace LiveForm.Pattern

/-! ## Flags -/

/-- Reads flags up to the sign that ends them: the flags, whether there were any, that sign, and
    the text after it. `given` are the letters so far and `off` says that a hyphen has been read;
    `afterHyphen` says that it was the last character. -/
def readFlags (f : Flags) (given : List Char) (off afterHyphen : Bool) :
    List Char → Option (Flags × Bool × Char × List Char)
  | [] => none
  | c :: r =>
    if c = ':' ∨ c = ')' then
      if afterHyphen then none else some (f, !given.isEmpty, c, r)
    else if c = '-' then
      if off then none else readFlags f given true true r
    else if given.contains c then none
    else
      match f.put? c (!off) with
      | some f' => readFlags f' (c :: given) off false r
      | none => none

/-! ## Names -/

/-- Letters that are younger than the tables of properties. -/
def newLetters : CharSet :=
  .ofTable "88F C5C CDC A7CE-A7CF A7D2 A7D4 A7F1 10940-10959 10EC5-10EC7 10EFA-10EFB 11B60-11B67
    11DB0-11DDB 16EA0-16EB8 16EBB-16ED3 16FF2-16FF6 187F8-187FF 18D09-18D1E 18D80-18DF2
    1E6C0-1E6DE 1E6E0-1E6F5 1E6FE-1E6FF 2B73A-2B73F 2CEA2-2CEAD 323B0-33479"

/-- The characters that a name may begin with. -/
def nameStart : CharSet := .unions [.alphabetic, newLetters, .single '_']

/-- The other characters of names: numbers and a few signs as well. -/
def nameContinue : CharSet :=
  .unions [nameStart, .decimalNumber, .letterNumber, .otherNumber,
    .ofTable "2E 5B 5D 11DE0-11DE9 16FF4-16FF6"]

/-- The name of a group up to its closing sign. -/
def readGroupName (cs : List Char) : Option (List Char × List Char) :=
  let name := cs.takeWhile (· != '>')
  match name, cs.drop name.length with
  | c :: cs, '>' :: rest =>
    if nameStart.contains c && cs.all nameContinue.contains then some (name, rest) else none
  | _, _ => none

/-! ## Openings -/

/-- What a parenthesis begins: a group with the flags that hold in it, which may have a name and may
    be asked for what it matched; or flags for what follows. -/
inductive Opening where
  | group (captures : Bool) (name : Option (List Char)) (flags : Flags)
  | flags (flags : Flags)

/-- Reads the beginning of a group after its parenthesis. Nothing looks around a place. -/
def readOpening (f : Flags) (cs : List Char) : Option (Opening × List Char) :=
  match f.skip cs with
  | '?' :: '=' :: _ => none
  | '?' :: '!' :: _ => none
  | '?' :: '<' :: '=' :: _ => none
  | '?' :: '<' :: '!' :: _ => none
  | '?' :: 'P' :: '<' :: r => (readGroupName r).map fun (n, rest) => (.group true (some n) f, rest)
  | '?' :: '<' :: r => (readGroupName r).map fun (n, rest) => (.group true (some n) f, rest)
  | '?' :: r => do
    let (f', any, sign, rest) ← readFlags f [] false false r
    if sign = ':' then some (.group false none f', rest)
    else if any then some (.flags f', rest)
    else none
  | r => some (.group true none f, r)

end LiveForm.Pattern
