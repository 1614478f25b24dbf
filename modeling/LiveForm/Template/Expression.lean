/-
  Expressions: what a template computes from the model and from the ambient context.
-/
import LiveForm.Value.Basic

namespace LiveForm

/-- The object a path starts from: the model of the form, or its ambient context. -/
inductive Root where
  | model
  | context
deriving DecidableEq, Inhabited

inductive Literal where
  | null
  | boolean (b : Bool)
  | integer (n : Int64)
  | decimal (d : Decimal)
  | string (s : String)
deriving DecidableEq, Inhabited

/-- Properties that are read one from the other, starting at a root. -/
structure Path where
  root : Root
  segments : List String
deriving DecidableEq, Inhabited

mutual

inductive Expression where
  | literal (l : Literal)
  | path (p : Path)
  /-- A filter applied to a source, with arguments. -/
  | pipe (source : Expression) (filter : String) (args : List Expression)
  | conditional (condition whenTrue whenFalse : Expression)
  /-- Texts and expressions whose texts are put together. -/
  | interpolation (parts : List Part)

inductive Part where
  | text (s : String)
  | expression (e : Expression)

end

instance : Inhabited Expression := ⟨.literal .null⟩

instance : Inhabited Part := ⟨.text ""⟩

/-- The word that a path of this root opens with. -/
def Root.keyword : Root → String
  | .model => "Binding"
  | .context => "ContextBinding"

/-- The root that a word names. -/
def Root.ofKeyword? (s : String) : Option Root :=
  if s = Root.model.keyword then some .model
  else if s = Root.context.keyword then some .context
  else none

namespace Literal

/-- Equality of literals; decimals are compared as numbers. -/
def same : Literal → Literal → Bool
  | .decimal a, .decimal b => a.compare b == .eq
  | a, b => a == b

def value : Literal → Value
  | .null => .null
  | .boolean b => .boolean b
  | .integer n => .integer n
  | .decimal d => .decimal d
  | .string s => .string s

/-- The characters of a string literal; its quote gets a backslash. -/
def escapeQuote (c : Char) : List Char := if c = '\'' then ['\\', '\''] else [c]

def render : Literal → List Char
  | .null => ['n', 'u', 'l', 'l']
  | .boolean true => ['t', 'r', 'u', 'e']
  | .boolean false => ['f', 'a', 'l', 's', 'e']
  | .integer n => (Text.ofInt n.toInt).toList
  | .decimal d => d.render
  | .string s => '\'' :: (s.toList.flatMap escapeQuote ++ ['\''])

end Literal

namespace Path

/-- The names with points between them. -/
def renderSegments : List String → List Char
  | [] => []
  | [s] => s.toList
  | s :: t :: ss => s.toList ++ '.' :: renderSegments (t :: ss)

def render (p : Path) : List Char := p.root.keyword.toList ++ ' ' :: renderSegments p.segments

end Path

/-- The characters of text outside of braces: braces get a backslash. -/
def Part.escapeBrace (c : Char) : List Char :=
  if c = '{' then ['\\', '{'] else if c = '}' then ['\\', '}'] else [c]

namespace Expression

/-- Whether the expression is put in parentheses where a single source is due. -/
def isCompound : Expression → Bool
  | .pipe .. | .conditional .. => true
  | _ => false

/-- The text of an operand, in parentheses if its expression is compound. -/
def inParens (e : Expression) (text : List Char) : List Char :=
  if e.isCompound then '(' :: (text ++ [')']) else text

mutual

/-- The text of an expression. -/
def render : Expression → List Char
  | .literal l => l.render
  | .path p => p.render
  | .pipe source filter args => render source ++ '|' :: (filter.toList ++ renderArgs args)
  | .conditional c t f =>
    inParens c (render c) ++ ' ' :: '?' :: ' ' :: (inParens t (render t) ++
      ' ' :: ':' :: ' ' :: inParens f (render f))
  | .interpolation parts => renderParts parts

def renderArgs : List Expression → List Char
  | [] => []
  | e :: es => ':' :: (inParens e (render e) ++ renderArgs es)

def renderParts : List Part → List Char
  | [] => []
  | p :: ps => renderPart p ++ renderParts ps

def renderPart : Part → List Char
  | .text s => s.toList.flatMap Part.escapeBrace
  | .expression e => '{' :: (render e ++ ['}'])

end

mutual

/-- Equality of expressions; decimals are compared as numbers. -/
def same : Expression → Expression → Bool
  | .literal a, .literal b => a.same b
  | .path p, .path q => p == q
  | .pipe s f as, .pipe t g bs => same s t && f == g && sameAll as bs
  | .conditional c t f, .conditional c' t' f' => same c c' && same t t' && same f f'
  | .interpolation ps, .interpolation qs => sameParts ps qs
  | _, _ => false

def sameAll : List Expression → List Expression → Bool
  | [], [] => true
  | a :: as, b :: bs => same a b && sameAll as bs
  | _, _ => false

def sameParts : List Part → List Part → Bool
  | [], [] => true
  | p :: ps, q :: qs => samePart p q && sameParts ps qs
  | _, _ => false

def samePart : Part → Part → Bool
  | .text s, .text t => s == t
  | .expression a, .expression b => same a b
  | _, _ => false

end

mutual

/-- The paths that an expression reads, in the order of its text. -/
def paths : Expression → List Path
  | .literal _ => []
  | .path p => [p]
  | .pipe source _ args => paths source ++ pathsOfAll args
  | .conditional c t f => paths c ++ paths t ++ paths f
  | .interpolation parts => pathsOfParts parts

def pathsOfAll : List Expression → List Path
  | [] => []
  | e :: es => paths e ++ pathsOfAll es

def pathsOfParts : List Part → List Path
  | [] => []
  | p :: ps => pathsOfPart p ++ pathsOfParts ps

def pathsOfPart : Part → List Path
  | .text _ => []
  | .expression e => paths e

end

mutual

/-- The filters that an expression applies, an outer one before those of its source. -/
def filters : Expression → List String
  | .literal _ => []
  | .path _ => []
  | .pipe source filter args => filter :: (filters source ++ filtersOfAll args)
  | .conditional c t f => filters c ++ filters t ++ filters f
  | .interpolation parts => filtersOfParts parts

def filtersOfAll : List Expression → List String
  | [] => []
  | e :: es => filters e ++ filtersOfAll es

def filtersOfParts : List Part → List String
  | [] => []
  | p :: ps => filtersOfPart p ++ filtersOfParts ps

def filtersOfPart : Part → List String
  | .text _ => []
  | .expression e => filters e

end

mutual

/-- The number of literals in an expression. -/
def literalCount : Expression → Nat
  | .literal _ => 1
  | .path _ => 0
  | .pipe source _ args => literalCount source + literalCountOfAll args
  | .conditional c t f => literalCount c + literalCount t + literalCount f
  | .interpolation parts => literalCountOfParts parts

def literalCountOfAll : List Expression → Nat
  | [] => 0
  | e :: es => literalCount e + literalCountOfAll es

def literalCountOfParts : List Part → Nat
  | [] => 0
  | p :: ps => literalCountOfPart p + literalCountOfParts ps

def literalCountOfPart : Part → Nat
  | .text _ => 0
  | .expression e => literalCount e

end

end Expression

end LiveForm
