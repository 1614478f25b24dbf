/-
  Engines: what templates are read and evaluated with, and the making of proxies from templates.
-/
import LiveForm.Configuration
import LiveForm.Store.Document
import LiveForm.Template.Cache

namespace LiveForm

structure Engine where
  configuration : Configuration
  registry : Registry
  cache : Template.Cache
deriving Inhabited

namespace Engine

/-- An engine that has not read any template. -/
def ofConfiguration (c : Configuration) (r : Registry) : Engine := ⟨c, r, .empty c.cacheCapacity⟩

def culture (g : Engine) : Culture := g.configuration.culture

def evaluator (g : Engine) : Evaluator := ⟨g.registry, g.culture⟩

/-- The template of a text. -/
def template (g : Engine) (source : String) : Except SyntaxError Template × Engine :=
  let (t, cache) := g.cache.get source
  (t, { g with cache := cache })

end Engine

/-- An engine, and the store that it works on. -/
structure Workspace (H : Type) where
  engine : Engine
  store : Store H

namespace Workspace

variable {H : Type}

/-- Makes a proxy of the text of a template, unless it is malformed. -/
def bind (w : Workspace H) (source : String) (b : Binding) (limit : Nat) :
    Except SyntaxError ProxyId × Workspace H :=
  match w.engine.template source with
  | (.error e, g) => (.error e, { w with engine := g })
  | (.ok t, g) =>
    let (s, p) := w.store.newProxy (.template g.evaluator t) b limit
    (.ok p, ⟨g, s⟩)

/-- Makes a proxy with a fixed value. -/
def constant (w : Workspace H) (v : Value) : ProxyId × Workspace H :=
  let (s, p) := w.store.newConstant v
  (p, { w with store := s })

end Workspace

end LiveForm
