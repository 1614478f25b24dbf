/-
  Templates: a text with the expression that it stands for.

  The dependencies of a template are the paths that its expression can read, whichever branch of a
  conditional is taken. They decide what is watched, and a template without any is constant.
-/
import LiveForm.Template.Parser

namespace LiveForm

structure Template where
  source : String
  root : Expression
deriving Inhabited

namespace Template

/-- Reads the text of a template. -/
def parse (source : String) : Except SyntaxError Template :=
  (Parser.template source).map fun root => ⟨source, root⟩

/-- The paths that the template can read, each once, in the order of its text. -/
def dependencies (t : Template) : List Path := t.root.paths.eraseDups

/-- The segments of the paths that start at a root. -/
def pathsFrom (t : Template) (root : Root) : List (List String) :=
  (t.dependencies.filter fun p => p.root = root).map Path.segments

/-- The properties of a root object that the template reads. -/
def watched (t : Template) (root : Root) : List String :=
  ((t.pathsFrom root).filterMap List.head?).eraseDups

/-- Whether a path goes on from the property of a root object. -/
def hasNestedPaths (t : Template) : Bool :=
  t.dependencies.any fun p => decide (1 < p.segments.length)

/-- Whether the template reads no property at all. -/
def isConstant (t : Template) : Bool := t.dependencies.isEmpty

/-- The filters that the template applies, each once. -/
def filters (t : Template) : List String := t.root.filters.eraseDups

end Template

end LiveForm
