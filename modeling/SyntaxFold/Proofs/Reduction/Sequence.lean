import SyntaxFold.Proofs.Node.Wrapper
import SyntaxFold.Proofs.Operator
import SyntaxFold.Proofs.Reduction.NamedCall

/-!
# What reduces to a sequence

Without resolving, nothing reduces to a sequence but an array: an array literal or bare data, inside
any number of wrappers. Its items are what the elements reduce to, in order.
-/

namespace SyntaxFold

open Outcome Value

/-- Inside any number of wrappers, the tree is an array of the elements: an array literal or bare
data. -/
inductive Json.Lists (elements : List Json) : Json → Prop
  | literal {tree : Json} :
      Node.ofJson tree = .ok (.arrayLiteral elements) → Lists elements tree
  | bare : Lists elements (.array elements)
  | wrapper {tree expression : Json} :
      Node.ofJson tree = .ok (.wrapper expression) → Lists elements expression →
        Lists elements tree

theorem ofJson_unwrap_ne_wrapper (tree expression : Json) :
    Node.ofJson (unwrap tree) ≠ .ok (.wrapper expression) := by
  fun_induction unwrap tree with
  | case1 _ _ _ _ ih => exact ih
  | case2 tree single => exact single expression

theorem Json.lists_iff {elements : List Json} {tree : Json} :
    Lists elements tree ↔
      Node.ofJson (unwrap tree) = .ok (.arrayLiteral elements) ∨
        unwrap tree = .array elements := by
  constructor
  · intro lists
    induction lists with
    | literal shape =>
        rw [unwrap_of_no_wrapper]
        · exact .inl shape
        · intro expression isWrapper
          cases shape.symm.trans isWrapper
    | bare =>
        rw [unwrap_of_no_wrapper]
        · exact .inr rfl
        · intro expression isWrapper
          cases isWrapper
    | wrapper shape _ ih =>
        rw [unwrap_of_wrapper shape]
        exact ih
  · intro isArray
    fun_induction unwrap tree with
    | case1 tree expression shape _ ih => exact .wrapper shape (ih isArray)
    | case2 tree _ =>
        rcases isArray with shape | rfl
        · exact .literal shape
        · exact .bare

/-- The elements of an array are determined by the tree. -/
theorem Json.Lists.unique {elements others : List Json} {tree : Json}
    (lists : Lists elements tree) (lists' : Lists others tree) : elements = others := by
  rw [lists_iff] at lists lists'
  rcases lists with shape | bare
  · rcases lists' with shape' | bare'
    · cases shape.symm.trans shape'
      rfl
    · rw [bare'] at shape
      cases shape
  · rcases lists' with shape' | bare'
    · rw [bare] at shape'
      cases shape'
    · exact Json.array.inj (bare.symm.trans bare')

theorem Value.type_ne_of_isScalar {value : Value} (scalar : value.isScalar = true) :
    value.type ≠ .sequence := by
  intro isSequence
  cases value with
  | sequence _ => cases scalar
  | _ => cases isSequence

namespace Environment

variable [Host] {environment : Environment} {inside : Json → Except FoldError Value}
variable {mode : Mode} (literal : mode.resolving = false)
include literal

/-- Apart from wrappers and array literals, no node is reduced to a sequence. -/
theorem nodeRule_type_ne {reduce : Mode → Json → Except FoldError Value} {whole : Json}
    {node : Node} (notWrapper : ∀ expression, node ≠ .wrapper expression)
    (notArray : ∀ elements, node ≠ .arrayLiteral elements) :
    Ensures (fun value => value.type ≠ .sequence)
      (environment.nodeRule inside reduce mode whole node) := by
  cases node with
  | arrayLiteral elements => exact absurd rfl (notArray elements)
  | wrapper expression => exact absurd rfl (notWrapper expression)
  | objectLiteral _ | classDeclaration _ =>
      refine ensures_bind fun pairs _ => ensures_ok ?_
      simp [Value.type]
  | identifier _ | stringLiteral _ | boolean _ | null =>
      apply ensures_ok
      simp [Value.type]
  | numericLiteral text =>
      intro value read
      exact type_ne_of_isScalar (computed_of_ofNumeral read).isScalar
  | prefixUnary operator operand =>
      refine ensures_bind fun _ _ => ensures_bind fun negated _ => ?_
      intro value read
      exact type_ne_of_isScalar (computed_of_negate read).2.isScalar
  | binary left token right =>
      simp only [nodeRule]
      split
      · exact ensures_error _
      · refine ensures_bind fun _ _ => ensures_bind fun _ _ => ?_
        intro value applied
        exact type_ne_of_isScalar (BinaryOperator.computed_of_apply applied).2.2.isScalar
  | arrowFunction parameters body =>
      simp only [nodeRule]
      split
      · exact ensures_error _
      · refine ensures_bind fun scale _ => ?_
        split
        · apply ensures_ok
          simp [Value.type]
        · exact ensures_error _
  | this =>
      simp only [nodeRule, literal]
      exact ensures_error _
  | template | call _ _ | propertyAccess _ _ | elementAccess _ _ =>
      simp only [nodeRule, literal]
      apply ensures_ok
      simp [Value.type]

/-- A tree that is no array, whatever wrappers it is in, is not reduced to a sequence. -/
theorem reduceWith_type_ne (full : mode.shallow = false) {tree : Json}
    (notArray : ∀ elements, ¬ Json.Lists elements tree) :
    Ensures (fun value => value.type ≠ .sequence) (environment.reduceWith inside mode tree) := by
  -- In full, wrappers make no difference, and what is inside them is no wrapper.
  have notWrapper := ofJson_unwrap_ne_wrapper tree
  simp only [Json.lists_iff, not_or] at notArray
  rw [reduceWith_unwrap_of_full full, reduceWith_eq_rule]
  generalize unwrap tree = inner at notWrapper notArray
  cases inner with
  | null | bool _ | string _ =>
      apply ensures_ok
      simp [Value.type]
  | integer number =>
      exact ensures_ok (type_ne_of_isScalar (computed_ofInteger number).isScalar)
  | float number => exact ensures_ok (type_ne_of_isScalar (isScalar_number number))
  | array elements => exact absurd rfl (notArray elements).2
  | object entries =>
      refine ensures_bind fun node shape => ?_
      apply nodeRule_type_ne literal
      · rintro expression rfl
        exact notWrapper expression shape
      · rintro elements rfl
        exact (notArray elements).1 shape

omit literal in
/-- An array is reduced element by element. -/
theorem reduceWith_of_lists (full : mode.shallow = false) {tree : Json} {elements : List Json}
    (lists : Json.Lists elements tree) :
    environment.reduceWith inside mode tree =
      (do return .sequence (← elements.mapM (environment.reduceWith inside mode))) := by
  induction lists with
  | literal shape =>
      rw [reduceWith_eq_nodeRule shape, nodeRule, full, Mode.nested_eq_self full]
      rfl
  | bare => rw [reduceWith_eq_rule, rule, Mode.nested_eq_self full]
  | wrapper shape _ ih =>
      rw [reduceWith_eq_nodeRule shape, nodeRule, Mode.nested_eq_self full, ih]

/-- What is reduced to a sequence is an array, whose elements are reduced to the items, in order. -/
theorem reduceWith_eq_sequence_iff (full : mode.shallow = false) {tree : Json}
    {items : List Value} :
    environment.reduceWith inside mode tree = .ok (.sequence items) ↔
      ∃ elements, Json.Lists elements tree ∧
        List.Forall₂ (fun element item => environment.reduceWith inside mode element = .ok item)
          elements items := by
  constructor
  · intro reduced
    obtain ⟨elements, lists⟩ : ∃ elements, Json.Lists elements tree := by
      by_contra notArray
      rw [not_exists] at notArray
      exact reduceWith_type_ne literal full notArray _ reduced rfl
    rw [reduceWith_of_lists full lists] at reduced
    obtain ⟨values, each, same⟩ := bind_eq_ok_iff.1 reduced
    cases same
    exact ⟨elements, lists, mapM_eq_ok_iff.1 each⟩
  · rintro ⟨elements, lists, each⟩
    rw [reduceWith_of_lists full lists, mapM_eq_ok_iff.2 each]
    rfl

end Environment

end SyntaxFold
