import SyntaxFold.Proofs.Node.Builder
import SyntaxFold.Proofs.Reduction.Refinement
import SyntaxFold.Proofs.Reduction.Unrolling

/-!
# Adding to the tables

A reduction only ever uses what its tables contain. So an environment whose tables keep all that
another one's answer, whatever else they contain and in whatever order, gives the same value or the
same error, unless the error was that something is missing.
-/

namespace SyntaxFold

open Outcome

/-- The error reports that something is missing which more tables or a higher limit may provide: a
scope, a property, a function, the name of a code, or room for another lookup or call. -/
def FoldError.IsMissing : FoldError → Prop
  | .scopeNotFound _ | .propertyNotFound _ _ | .notCallable _ | .unknownKindCode _
  | .depthExceeded _ => True
  | _ => False

namespace Environment

/-- The larger environment keeps every name of a code, every registered function and every
successful lookup of the smaller one. -/
structure Extends (larger smaller : Environment) : Prop where
  kinds : ∀ code name, smaller.kinds.name? code = some name → larger.kinds.name? code = some name
  registry : ∀ name function, smaller.registry.get? name = some function →
    larger.registry.get? name = some function
  scopes : ∀ scope property initializer,
    smaller.scopes.lookup scope property = .ok initializer →
      larger.scopes.lookup scope property = .ok initializer

variable {larger smaller : Environment}

/-- An operator that a kind table knows, or that needs no table, is the same in a larger table. -/
theorem prefixOperator_refines (extended : Extends larger smaller) (operator : Json) :
    Refines FoldError.IsMissing (prefixOperator smaller.kinds operator)
      (prefixOperator larger.kinds operator) := by
  unfold prefixOperator
  split
  · exact refines_refl _
  · split
    · next code _ =>
        unfold KindTable.name
        cases known : smaller.kinds.name? code with
        | none => exact refines_of_provisional trivial _
        | some name =>
            rw [extended.kinds code name known]
            exact refines_refl _
    · exact refines_refl _

theorem requireMinus_refines (extended : Extends larger smaller) (operator : Json) :
    Refines FoldError.IsMissing (requireMinus smaller.kinds operator)
      (requireMinus larger.kinds operator) := by
  intro settled
  have same := prefixOperator_refines extended operator
  unfold requireMinus at settled ⊢
  cases outcome : prefixOperator smaller.kinds operator with
  | ok name => rw [same (by rw [outcome]; trivial), outcome]
  | error error =>
      rw [outcome] at settled
      rw [same (by rw [outcome]; exact settled), outcome]

theorem functionOf_refines (extended : Extends larger smaller) (target : Value) :
    Refines FoldError.IsMissing (functionOf smaller.registry target)
      (functionOf larger.registry target) := by
  cases target with
  | string name =>
      simp only [functionOf]
      cases registered : smaller.registry.get? name with
      | none => exact refines_of_provisional trivial _
      | some function =>
          rw [extended.registry name function registered]
          exact refines_refl _
  | _ => exact refines_refl _

/-- A lookup fails only because something is missing. -/
theorem isMissing_of_lookup_eq_error {scopes : SymbolTable} {scope property : String}
    {error : FoldError} (failed : scopes.lookup scope property = .error error) :
    error.IsMissing := by
  unfold SymbolTable.lookup SymbolTable.get Group.lookup at failed
  split at failed
  · split at failed
    · cases failed
    · cases failed
      trivial
  · next unknown =>
      split at unknown
      · cases unknown
      · cases unknown
        cases failed
        trivial

theorem lookup_refines (extended : Extends larger smaller) (scope property : String) :
    Refines FoldError.IsMissing (smaller.scopes.lookup scope property)
      (larger.scopes.lookup scope property) := by
  cases found : smaller.scopes.lookup scope property with
  | ok initializer =>
      rw [extended.scopes scope property initializer found]
      exact refines_refl _
  | error error => exact refines_of_provisional (isMissing_of_lookup_eq_error found) _

theorem Extends.refinedBy (extended : Extends larger smaller) :
    RefinedBy FoldError.IsMissing smaller larger where
  operator := requireMinus_refines extended
  callee := functionOf_refines extended
  member := lookup_refines extended

end Environment

/-- A reduction that ends in a value, or in an error that does not report something missing, ends in
the same way in every larger environment. -/
theorem Context.reduce_eq_of_extends [Host] (context : Context) {larger : Environment}
    (extended : larger.Extends context.environment) (data : Json)
    (settled : Outcome.Settled FoldError.IsMissing (context.reduce data)) :
    ({ context with environment := larger } : Context).reduce data = context.reduce data :=
  Context.reduce_refines context { context with environment := larger } extended.refinedBy
    (fun _ => trivial) rfl (Nat.le_refl _) data settled

section Growing

attribute [local instance] Host.closed

/-- Tables for a class with one property, which needs the name of the minus. -/
def smallTables : Environment where
  kinds := ⟨[(41, "MinusToken")]⟩
  registry := .empty
  scopes := ⟨[(selfScope, ⟨"Config",
    [("speed", .node (Tree.unary (.integer 41) (Tree.numeral "3")))]⟩)]⟩

/-- Tables with more codes, functions, scopes and members, in another order. -/
def largeTables : Environment where
  kinds := ⟨[(40, "PlusToken"), (41, "MinusToken")]⟩
  registry := .prelude
  scopes := ⟨[("Math", .math), (selfScope, ⟨"Config",
    [("pitch", .node (Tree.access Tree.this "speed")),
      ("speed", .node (Tree.unary (.integer 41) (Tree.numeral "3")))]⟩)]⟩

theorem largeTables_extends : largeTables.Extends smallTables where
  kinds code name found := by
    simp only [smallTables, KindTable.name?, Entries.get?] at found
    split at found
    · next known =>
        cases found
        rw [← known]
        rfl
    · cases found
  registry name function found := by cases found
  scopes scope property initializer found := by
    unfold SymbolTable.lookup SymbolTable.get Group.lookup at found
    simp only [smallTables, Entries.get?] at found
    by_cases self : selfScope = scope
    · subst self
      by_cases speed : "speed" = property
      · subst speed
        simp only [↓reduceIte] at found
        cases found
        rfl
      · simp [Entries.get?, speed] at found
    · simp [self] at found

theorem Context.reduce_eq_of_extends_growing :
    let context : Context := ⟨smallTables, .resolve, 1, 0⟩
    let tree := Tree.access Tree.this "speed"
    (largeTables.Extends smallTables ∧ context.reduce tree = .ok (.integer (-3))) ∧
      ({ context with environment := largeTables } : Context).reduce tree =
        context.reduce tree := by
  intro context tree
  have value : context.reduce tree = .ok (.integer (-3)) := by
    rw [Context.reduce_eq_unrolled 3]
    rfl
  refine ⟨⟨largeTables_extends, value⟩,
    Context.reduce_eq_of_extends context largeTables_extends tree ?_⟩
  rw [value]
  trivial

end Growing

end SyntaxFold
