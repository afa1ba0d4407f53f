import SyntaxFold.Declaration
import SyntaxFold.Node.Wrapper
import SyntaxFold.Reduction.Reducer

/-!
# Configuration classes

A synthesizer is configured by a class whose properties refer to each other, to enumerations and to
`Math`. This module makes the symbol table for such a class and reduces single properties over it.
Several properties hold tables, written as a call on an array; `nameMapArgument` finds that array.
-/

namespace SyntaxFold.Synth

variable [Host]

/-- The enumerations that the configuration class refers to. -/
def configEnums : List String :=
  ["EffectType", "GranularEnvelopeType", "EnvelopeComputeIndex", "InstrumentType"]

/-- Adds the groups of enumerations to a symbol table. -/
def addEnums (sourceFile : Json) : List String → SymbolTable → Except FoldError SymbolTable
  | [], scopes => .ok scopes
  | name :: rest, scopes => do
    let enumNode ← Declaration.findEnum name sourceFile
    let group ← Group.ofEnum enumNode
    addEnums sourceFile rest (scopes.insert group)

/-- The symbol table for the properties of a class: the class as the enclosing scope and under its
own name, the given enumerations, and `Math`. -/
def configScope (sourceFile : Json) (className : String) (enums : List String) :
    Except FoldError SymbolTable := do
  let classNode ← Declaration.findClass className sourceFile
  let group ← Group.ofClass classNode
  let scopes := (SymbolTable.empty.insertAs selfScope group).insert group
  let scopes ← addEnums sourceFile enums scopes
  return scopes.insert Group.math

/-- The value of a property of a class, with names resolved in the given scopes. -/
def property (reducer : Reducer) (scopes : SymbolTable) (classNode : Json) (name : String) :
    Except FoldError Value := do
  let node ← Declaration.propertyOfClass name classNode
  reducer.resolve scopes node

/-- The first argument of the call that a node is, inside any number of wrappers. -/
def firstArgument? (node : Json) : Option Json :=
  match Node.ofJson (unwrap node) with
  | .ok (.call _ (first :: _)) => some first
  | _ => none

/-- The argument of the call that a table property of a class is initialized with. -/
def nameMapArgument (property : String) (classNode : Json) : Except FoldError Json := do
  let node ← Declaration.propertyOfClass property classNode
  require property "arguments" (firstArgument? node)

end SyntaxFold.Synth
