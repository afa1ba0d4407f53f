import SyntaxFold.Proofs.Reduction.DepthLimit
import SyntaxFold.Proofs.Reduction.Likeness

/-!
# What literal mode depends on

Without resolving, a reduction consults the kind table only. So two reductions of one node end in
the same way if they share this table and the mode, whatever their scopes, the functions to call by
name, the limit and the number of lookups and calls in progress are. No error of such a reduction
speaks of any of these.
-/

namespace SyntaxFold

open Outcome Value

/-- An error on both sides that needs no table. -/
def FoldError.SameLiteral (error error' : FoldError) : Prop := error = error' ∧ error.IsLiteral

theorem eq_and_isLiteral {left right : Except FoldError Value}
    (agrees : Agrees (· = ·) FoldError.SameLiteral left right) :
    right = left ∧ ∀ error, left = .error error → error.IsLiteral := by
  cases agrees with
  | ok same =>
      refine ⟨congrArg Except.ok same.symm, ?_⟩
      intro error impossible
      cases impossible
  | error same =>
      obtain ⟨rfl, isLiteral⟩ := same
      refine ⟨rfl, ?_⟩
      intro error failed
      cases failed
      exact isLiteral

/-- A variation in parts only is not noticed. -/
theorem Variation.lawful_ofParts (part : Json → Json → Prop) (kinds : KindTable)
    {errors : FoldError → FoldError → Prop}
    (literal : ∀ error : FoldError, error.IsLiteral → errors error error) :
    (ofParts part).Lawful kinds errors where
  kind_self _ := rfl
  operator _ _ same := congrArg (prefixOperator kinds) same
  token _ _ same := congrArg BinaryOperator.ofToken? same
  formula parameters parameters' body body' eachParameter bodies := by
    obtain rfl : parameters = parameters' := List.forall₂_eq_eq_eq ▸ eachParameter
    obtain rfl : body = body' := bodies
    exact agrees_self (fun _ _ => ⟨rfl, rfl⟩) fun _ _ => rfl
  literal := literal
  malformed kind kind' field same := by
    obtain rfl : kind = kind' := same
    exact literal _ trivial
  unimplemented token token' same := by
    obtain rfl : token = token' := same
    exact literal _ trivial

section Reductions

variable [Host] {environment environment' : Environment}
variable {inside inside' : Json → Except FoldError Value} {mode : Mode}

/-- Reductions of one tree without resolving agree, and their errors need no table. -/
theorem Environment.reduceWith_literal (sameKinds : environment'.kinds = environment.kinds)
    (literal : mode.resolving = false) (data : Json) :
    Agrees (· = ·) FoldError.SameLiteral (environment.reduceWith inside mode data)
      (environment'.reduceWith inside' mode data) := by
  have self : ∀ error : FoldError, error.IsLiteral → error.SameLiteral error :=
    fun _ isLiteral => ⟨rfl, isLiteral⟩
  have lawful := Variation.lawful_ofParts (· = ·) environment.kinds self
  refine reduceWith_literal_alike lawful sameKinds congruent_eq ?_ ?_ ?_ data data mode rfl literal
  · intro tree tree' same
    obtain rfl : tree = tree' := same
    exact Json.alike_self (Variation.reflexive_ofParts fun _ => rfl) self tree
  · exact fun _ _ same => same
  · exact fun _ _ same => congrArg Value.node same

/-- The factor of a formula, which is reduced without resolving, is the same number. -/
theorem Environment.agrees_factor (sameKinds : environment'.kinds = environment.kinds)
    {errors : FoldError → FoldError → Prop} (error_self : ∀ error, errors error error)
    (factor : Json) :
    Agrees (fun scale scale' => scale.float? = scale'.float?) errors
      (environment.reduceWith inside .literal factor)
      (environment'.reduceWith inside' .literal factor) := by
  have agrees : Agrees (· = ·) FoldError.SameLiteral
      (environment.reduceWith inside .literal factor)
      (environment'.reduceWith inside' .literal factor) :=
    reduceWith_literal sameKinds rfl factor
  rw [(eq_and_isLiteral agrees).1]
  apply agrees_self
  · exact fun _ _ => rfl
  · exact fun error _ => error_self error

/-- Without resolving, the outcome of a reduction depends on the node, the kind table and the mode
only, and an error never speaks of a lookup, a call, an element, a declaration or the limit. -/
theorem Context.reduce_of_literal (context other : Context)
    (literal : context.mode.resolving = false) (sameMode : other.mode = context.mode)
    (sameKinds : other.environment.kinds = context.environment.kinds) (data : Json) :
    other.reduce data = context.reduce data ∧
      ∀ error, context.reduce data = .error error → error.IsLiteral := by
  apply eq_and_isLiteral
  unfold Context.reduce
  rw [sameMode]
  exact Environment.reduceWith_literal sameKinds literal data

end Reductions

section Unresolved

attribute [local instance] Host.closed

/-- The negative of a member of the enclosing scope. -/
def negatedMember : Json :=
  Tree.unary (.string "MinusToken") (Tree.access Tree.this "loop")

theorem Context.reduce_of_literal_negated :
    let context : Context := { loopingContext with mode := .literal }
    let other : Context := ⟨⟨.empty, .empty, .empty⟩, .literal, 0, 3⟩
    let error : FoldError := .invalidOperand "MinusToken" .node
    (context.mode.resolving = false ∧ other.mode = context.mode ∧
      other.environment.kinds = context.environment.kinds ∧
        context.reduce negatedMember = .error error) ∧
          other.reduce negatedMember = .error error ∧ error.IsLiteral := by
  intro context other error
  have failed : context.reduce negatedMember = .error error := by
    rw [Context.reduce_eq_unrolled 3]
    rfl
  obtain ⟨same, isLiteral⟩ := Context.reduce_of_literal context other rfl rfl rfl negatedMember
  exact ⟨⟨rfl, rfl, rfl, failed⟩, same.trans failed, isLiteral error failed⟩

end Unresolved

end SyntaxFold
