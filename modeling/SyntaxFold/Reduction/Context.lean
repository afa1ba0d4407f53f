import SyntaxFold.KindTable
import SyntaxFold.Registry
import SyntaxFold.Scope

/-!
# Contexts

A reduction depends on three tables and on how it is carried out: whether names are resolved,
whether the children of the outermost collection are left alone, and how many lookups and calls may
be in progress at once. Only lookups and calls can lead a reduction back to where it was, so only
they count against that limit; nesting of syntax does not.
-/

namespace SyntaxFold

/-- How many lookups and calls may be in progress at once unless another limit is set. -/
def defaultMaxDepth : Nat := 256

/-- The tables that names are resolved against. -/
structure Environment where
  kinds : KindTable
  registry : Registry
  scopes : SymbolTable

/-- The two switches of a reduction. -/
structure Mode where
  /-- Resolve calls, accesses and `this` instead of letting them through. -/
  resolving : Bool
  /-- Leave the children of the outermost collection as they are. -/
  shallow : Bool
  deriving DecidableEq, Repr

namespace Mode

/-- Neither switch is on: calls and accesses are let through. -/
def literal : Mode := ⟨false, false⟩

/-- Everything is resolved. -/
def resolve : Mode := ⟨true, false⟩

/-- The mode of a child: children are never left as they are. -/
def nested (mode : Mode) : Mode := { mode with shallow := false }

@[simp] theorem nested_nested (mode : Mode) : mode.nested.nested = mode.nested := rfl

@[simp] theorem resolving_nested (mode : Mode) : mode.nested.resolving = mode.resolving := rfl

@[simp] theorem shallow_nested (mode : Mode) : mode.nested.shallow = false := rfl

theorem nested_eq_self {mode : Mode} (deep : mode.shallow = false) : mode.nested = mode := by
  cases mode
  cases deep
  rfl

end Mode

/-- A reduction under way: what it depends on, and how many lookups and calls are in progress. -/
structure Context where
  environment : Environment
  mode : Mode
  maxDepth : Nat
  depth : Nat

namespace Context

/-- The context of a reduction in literal mode, with the default limit. -/
def initial (environment : Environment) : Context where
  environment := environment
  mode := .literal
  maxDepth := defaultMaxDepth
  depth := 0

/-- The context of a child. -/
def nested (context : Context) : Context := { context with mode := context.mode.nested }

/-- The context inside a lookup or a call, if the limit allows one more. -/
def enter (context : Context) : Except FoldError Context :=
  if context.depth < context.maxDepth then
    .ok { context.nested with depth := context.depth + 1 }
  else
    .error (.depthExceeded context.maxDepth)

/-- How many more lookups and calls can be nested. -/
def remaining (context : Context) : Nat := context.maxDepth - context.depth

@[simp] theorem remaining_nested (context : Context) :
    context.nested.remaining = context.remaining := rfl

/-- There is room for one more lookup or call exactly when some depth remains, and then one less
remains inside it. -/
theorem enter_eq_ok_iff {context inside : Context} :
    context.enter = .ok inside ↔
      context.remaining = inside.remaining + 1 ∧
        inside = { context.nested with depth := context.depth + 1 } := by
  unfold enter
  split
  · constructor
    · intro entered
      cases entered
      refine ⟨?_, rfl⟩
      simp only [remaining, nested]
      omega
    · rintro ⟨-, rfl⟩
      rfl
  · constructor
    · intro entered
      cases entered
    · rintro ⟨room, rfl⟩
      simp only [remaining, nested] at room
      omega

end Context

end SyntaxFold
