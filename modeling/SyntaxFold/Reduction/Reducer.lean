import SyntaxFold.Normalize
import SyntaxFold.Reduction.Basic

/-!
# Reducers

A reducer holds what stays the same from one reduction to the next, the kind table, the registry
and the limit, and starts reductions in the modes that callers need.
-/

namespace SyntaxFold

variable [Host]

/-- What every reduction of a caller has in common. -/
structure Reducer where
  kinds : KindTable
  registry : Registry
  maxDepth : Nat

namespace Reducer

/-- The reducer with the prelude and the default limit. -/
def ofKinds (kinds : KindTable) : Reducer := ⟨kinds, .prelude, defaultMaxDepth⟩

/-- Normalizes a raw tree. -/
def normalize (reducer : Reducer) (tree : Json) : Except FoldError Json :=
  tree.normalize reducer.kinds

/-- The context in which a reduction over the given scopes begins. -/
def context (reducer : Reducer) (scopes : SymbolTable) (mode : Mode) : Context where
  environment := ⟨reducer.kinds, reducer.registry, scopes⟩
  mode := mode
  maxDepth := reducer.maxDepth
  depth := 0

/-- Reduces a node in a given mode. -/
def reduce (reducer : Reducer) (scopes : SymbolTable) (mode : Mode) (node : Json) :
    Except FoldError Value :=
  (reducer.context scopes mode).reduce node

/-- Reduces a node; calls and accesses are let through. -/
def literal (reducer : Reducer) (node : Json) : Except FoldError Value :=
  reducer.reduce .empty .literal node

/-- Reduces only the outermost level of a node. -/
def shallow (reducer : Reducer) (node : Json) : Except FoldError Value :=
  reducer.reduce .empty ⟨false, true⟩ node

/-- Reduces a node and resolves names in the given scopes. -/
def resolve (reducer : Reducer) (scopes : SymbolTable) (node : Json) : Except FoldError Value :=
  reducer.reduce scopes .resolve node

end Reducer

end SyntaxFold
