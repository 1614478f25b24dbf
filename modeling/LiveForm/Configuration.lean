/-
  The configuration of an engine.
-/
import LiveForm.Value.Culture

namespace LiveForm

structure Configuration where
  /-- How many passes a run may have. -/
  maxPasses : Nat
  culture : Culture
  /-- The room for templates. -/
  cacheCapacity : Nat
  /-- Whether rules are strict unless they say otherwise. -/
  strict : Bool
  /-- Whether rules ask for validation after an edit unless they say otherwise. -/
  onTargetUpdated : Bool
deriving DecidableEq, Inhabited

namespace Configuration

def standard : Configuration := ⟨16, .invariant, 256, false, false⟩

/-- The standard configuration with other limits. -/
def ofLimits (maxPasses cacheCapacity : Nat) : Configuration :=
  { standard with maxPasses := maxPasses, cacheCapacity := cacheCapacity }

/-- The standard configuration with strict rules. -/
def strictRules : Configuration := { standard with strict := true }

/-- Tight limits, for tests. -/
def testing : Configuration := ⟨4, .invariant, 8, false, true⟩

end Configuration

end LiveForm
