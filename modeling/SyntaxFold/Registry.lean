import SyntaxFold.Function.Call

/-!
# Registries

A call whose callee is a bare name calls the function of that name in a registry. The prelude holds
the functions that every program may use; a caller can add its own, each under its own name.
-/

namespace SyntaxFold

/-- The functions that can be called by name, each name once. -/
structure Registry where
  functions : List (String × Callable)

namespace Registry

/-- The registry without functions. -/
def empty : Registry := ⟨[]⟩

/-- Adds a function under its own name, in place of the one that may be there. -/
def register (registry : Registry) (function : Callable) : Registry :=
  ⟨Entries.insert function.name function registry.functions⟩

/-- The functions that every program may use. Wave tables are processed after the reduction, so the
three wave functions only stand in for what is applied then. -/
def preludeFunctions : List Callable :=
  [.nameMap, .standIn "centerWave", .standIn "centerAndNormalizeWave",
    .standIn "rawChipToIntegrated"]

/-- Adds the prelude. -/
def loadPrelude (registry : Registry) : Registry :=
  preludeFunctions.foldl register registry

/-- The registry that holds just the prelude. -/
def prelude : Registry := empty.loadPrelude

/-- The function of a name. -/
def get? (registry : Registry) (name : String) : Option Callable :=
  Entries.get? name registry.functions

/-- Whether there is a function of a name. -/
def contains (registry : Registry) (name : String) : Bool :=
  Entries.contains name registry.functions

end Registry

end SyntaxFold
