import SyntaxFold.Proofs.Node.Builder
import SyntaxFold.Proofs.Reduction.Shallow

/-!
# Reduction is strict

The rule of a node is a fixed sequence of steps, in order of the source: checks of the node itself,
and reductions of its parts, each in a context that the rule gives it. `Context.steps` lists them.
The outcome of a node is the error of the first step that fails, whatever the other steps give: no
step is skipped, not even one whose value would be overwritten, and no error is replaced. So a node
that cannot be reduced makes every reduction fail that leads to it.
-/

namespace SyntaxFold

open Outcome

/-- One step of the rule of a node. -/
inductive Step where
  /-- A check, with the error that it ends in, if it fails. -/
  | check (failure? : Option FoldError)
  /-- The reduction of a part in a context. -/
  | reduction (context : Context) (part : Json)

namespace Step

/-- If the step reduces a part, it does so in full. -/
def IsDeep : Step → Prop
  | check _ => True
  | reduction context _ => context.mode.shallow = false

@[simp] theorem isDeep_check (failure? : Option FoldError) : (check failure?).IsDeep := trivial

@[simp] theorem isDeep_nested (context : Context) (part : Json) :
    (reduction context.nested part).IsDeep := rfl

@[simp] theorem isDeep_entered (context : Context) (part : Json) :
    (reduction context.entered part).IsDeep := rfl

@[simp] theorem isDeep_literal (context : Context) (part : Json) :
    (reduction { context with mode := .literal } part).IsDeep := rfl

end Step

/-- The check of an operator between operands. -/
def operatorFailure? (token : String) : Option FoldError :=
  match BinaryOperator.ofToken? token with
  | some _ => none
  | none => some (.unimplementedOperator token .binary)

section Reductions

variable [Host]

/-- The error that a step ends in, if it fails. -/
def Step.failure? : Step → Option FoldError
  | check failure? => failure?
  | reduction context part => error? (context.reduce part)

namespace Context

/-! ## Steps in order of the source -/

/-- The steps for the key of a property: its name must be there, reduce and give a key. -/
def keySteps (context : Context) (kind : String) (property : Json) : List Step :=
  .check (error? (requireField ((kindOf property).getD kind) "name" property)) ::
    ((property.get? "name").toList.map (.reduction context.nested) ++
      [.check (error? (propertyKey context.nested.reduce kind property))])

/-- The steps for a property: after those for its key, its initializer must be there and reduce. -/
def propertySteps (context : Context) (kind : String) (property : Json) : List Step :=
  context.keySteps kind property ++
    .check (error? (requireField ((kindOf property).getD kind) "initializer" property)) ::
      (property.get? "initializer").toList.map (.reduction context.nested)

/-- The steps for a node of known shape. Calls and accesses have none unless they are resolved. -/
def nodeSteps (context : Context) : Node → List Step
  | .arrayLiteral elements => elements.map (.reduction context.nested)
  | .objectLiteral properties =>
      properties.flatMap (context.propertySteps "ObjectLiteralExpression")
  | .classDeclaration members => members.flatMap (context.propertySteps "ClassDeclaration")
  | .prefixUnary operator operand =>
      [.check (error? (requireMinus context.environment.kinds operator)),
        .reduction context.nested operand]
  | .binary left token right =>
      [.check (operatorFailure? token), .reduction context.nested left,
        .reduction context.nested right]
  | .wrapper expression => [.reduction context.nested expression]
  | .arrowFunction parameters body =>
      match Formula.recognize parameters body with
      | .ok (_, factor) => [.reduction { context with mode := .literal } factor]
      | .error fault => [.check (some (.unsupportedFunction fault))]
  | .call callee arguments =>
      if context.mode.resolving then
        [.check (error? context.enter), .reduction context.entered callee] ++
          arguments.map (.reduction context.entered)
      else []
  | .propertyAccess expression _ =>
      if context.mode.resolving then [.reduction context.nested expression] else []
  | .elementAccess expression argument =>
      if context.mode.resolving then
        [.reduction context.nested expression, .reduction context.nested argument]
      else []
  | _ => []

/-- The checks and reductions that make up the reduction of a tree, in order of the source. -/
def steps (context : Context) : Json → List Step
  | .array items => items.map (.reduction context.nested)
  | .object entries =>
      match Node.ofJson (.object entries) with
      | .ok node => context.nodeSteps node
      | .error error => [.check (some error)]
  | _ => []

/-- A reduction of a tree leads to the reduction of another one, through the steps of any number of
nodes. -/
inductive Reaches : Context → Json → Context → Json → Prop
  | here (context : Context) (data : Json) : Reaches context data context data
  | step {context inner last : Context} {data part target : Json} :
      .reduction inner part ∈ context.steps data → Reaches inner part last target →
        Reaches context data last target

variable {context : Context}

/-! ## Failures of lists -/

theorem findSome?_reductions (context : Context) (parts : List Json) :
    (parts.map (.reduction context)).findSome? Step.failure? =
      error? (parts.mapM context.reduce) := by
  rw [error?_mapM, List.findSome?_map]
  rfl

theorem findSome?_keySteps (kind : String) (property : Json) :
    (context.keySteps kind property).findSome? Step.failure? =
      error? (propertyKey context.nested.reduce kind property) := by
  simp only [keySteps, propertyKey, requireField]
  cases property.get? "name" with
  | none => rfl
  | some name =>
      simp only [Option.toList_some, List.map_cons, List.map_nil, List.cons_append,
        List.nil_append, List.findSome?_cons, List.findSome?_nil, require, ok_bind]
      simp only [Step.failure?, error?_ok]
      cases context.nested.reduce name with
      | ok value =>
          rw [ok_bind]
          cases keyOf ((kindOf property).getD kind) value <;> rfl
      | error error => rfl

/-- A property fails in its steps only. -/
theorem findSome?_propertySteps (deep : context.mode.shallow = false) (kind : String)
    (property : Json) :
    (context.propertySteps kind property).findSome? Step.failure? =
      error? (propertyRule (fun mode => ({ context with mode := mode } : Context).reduce)
        context.mode kind property) := by
  rw [propertyRule_eq_bind, propertySteps, List.findSome?_append, findSome?_keySteps]
  symm
  apply error?_bind
  intro key keyed
  simp only [requireField, deep, Bool.false_eq_true, if_false]
  cases property.get? "initializer" with
  | none => rfl
  | some initializer =>
      simp only [require, ok_bind, Option.toList_some, List.map_cons, List.map_nil,
        List.findSome?_cons, List.findSome?_nil, Step.failure?, error?_ok]
      change error? (context.nested.reduce initializer >>= fun value => .ok (key, value)) = _
      cases context.nested.reduce initializer <;> rfl

theorem findSome?_properties (deep : context.mode.shallow = false) (kind : String)
    (properties : List Json) :
    (properties.flatMap (context.propertySteps kind)).findSome? Step.failure? =
      error? (properties.mapM (propertyRule
        (fun mode => ({ context with mode := mode } : Context).reduce) context.mode kind)) := by
  rw [error?_mapM]
  induction properties with
  | nil => rfl
  | cons property rest ih =>
      rw [List.flatMap_cons, List.findSome?_append, findSome?_propertySteps deep, ih,
        List.findSome?_cons]
      cases error? (propertyRule _ context.mode kind property) <;> rfl

/-! ## The first failure -/

theorem failsFirst_reduction {α : Type} {inner : Context} {part : Json} {rest : List Step}
    {next : Value → Except FoldError α}
    (onward : ∀ value, FailsFirst Step.failure? rest (next value)) :
    FailsFirst Step.failure? (.reduction inner part :: rest) (inner.reduce part >>= next) := by
  apply failsFirst_cons
  · rfl
  · intro value _
    exact onward value

theorem failsFirst_check {α β : Type} {first : Except FoldError β} {rest : List Step}
    {next : β → Except FoldError α}
    (onward : ∀ value, FailsFirst Step.failure? rest (next value)) :
    FailsFirst Step.failure? (.check (error? first) :: rest) (first >>= next) := by
  apply failsFirst_cons
  · rfl
  · intro value _
    exact onward value

/-- A call fails first where the limit, its callee or one of its arguments does. -/
theorem callWith_failsFirst (resolving : context.mode.resolving = true) (callee : Json)
    (arguments : List Json) :
    FailsFirst Step.failure?
      (.check (error? context.enter) :: .reduction context.entered callee ::
        arguments.map (.reduction context.entered))
      (context.environment.callWith context.inside callee arguments) := by
  cases room : context.enter with
  | error full =>
      have calleeFails : context.inside callee = .error full := inside_of_enter_eq_error room callee
      rw [Environment.callWith, calleeFails, error_bind]
      apply failsFirst_failed
      rfl
  | ok inner =>
      have same (tree : Json) : context.inside tree = context.entered.reduce tree := by
        obtain ⟨rfl, reduced⟩ := inside_of_enter_eq_ok resolving room tree
        exact reduced
      rw [Environment.callWith, funext same]
      apply failsFirst_passed
      · rfl
      · apply failsFirst_reduction
        intro target
        apply failsFirst_bind
        exact findSome?_reductions context.entered arguments

/-- A node of known shape fails first in its steps. -/
theorem nodeRule_failsFirst (deep : context.mode.shallow = false) (whole : Json) (node : Node) :
    FailsFirst Step.failure? (context.nodeSteps node)
      (context.environment.nodeRule context.inside
        (fun mode => ({ context with mode := mode } : Context).reduce) context.mode whole
          node) := by
  cases node with
  | arrayLiteral elements =>
      simp only [nodeSteps, Environment.nodeRule, deep, Bool.false_eq_true, if_false]
      apply failsFirst_bind
      exact findSome?_reductions context.nested elements
  | objectLiteral properties | classDeclaration properties =>
      apply failsFirst_bind
      exact findSome?_properties deep _ properties
  | prefixUnary operator operand =>
      apply failsFirst_check
      intro _
      apply failsFirst_reduction
      intro value
      exact failsFirst_nil _
  | binary left token right =>
      simp only [nodeSteps, operatorFailure?, Environment.nodeRule]
      cases BinaryOperator.ofToken? token with
      | none =>
          apply failsFirst_failed
          rfl
      | some operator =>
          apply failsFirst_passed
          · rfl
          · apply failsFirst_reduction
            intro leftValue
            apply failsFirst_reduction
            intro rightValue
            exact failsFirst_nil _
  | wrapper expression =>
      apply failsFirst_of_eq
      exact List.findSome?_singleton
  | arrowFunction parameters body =>
      simp only [nodeSteps, Environment.nodeRule]
      cases Formula.recognize parameters body with
      | error fault =>
          apply failsFirst_failed
          rfl
      | ok formula =>
          apply failsFirst_reduction
          intro scale
          exact failsFirst_nil _
  | call callee arguments =>
      simp only [nodeSteps, Environment.nodeRule]
      split
      · next resolving => exact callWith_failsFirst resolving callee arguments
      · exact failsFirst_nil _
  | propertyAccess expression name =>
      simp only [nodeSteps, Environment.nodeRule]
      split
      · apply failsFirst_reduction
        intro base
        exact failsFirst_nil _
      · exact failsFirst_nil _
  | elementAccess expression argument =>
      simp only [nodeSteps, Environment.nodeRule]
      split
      · apply failsFirst_reduction
        intro base
        apply failsFirst_reduction
        intro index
        exact failsFirst_nil _
      · exact failsFirst_nil _
  | _ => exact failsFirst_nil _

/-- A tree fails first in its steps. -/
theorem reduce_failsFirst (deep : context.mode.shallow = false) (data : Json) :
    FailsFirst Step.failure? (context.steps data) (context.reduce data) := by
  rw [reduce_eq_rule]
  cases data with
  | array items =>
      apply failsFirst_bind
      exact findSome?_reductions context.nested items
  | object entries =>
      simp only [steps, Environment.rule]
      cases Node.ofJson (.object entries) with
      | ok node => exact nodeRule_failsFirst deep _ node
      | error error =>
          apply failsFirst_failed
          rfl
  | _ => exact failsFirst_nil _

/-! ## Errors are never swallowed -/

theorem isDeep_propertySteps (context : Context) (kind : String) (property : Json) :
    ∀ step ∈ context.propertySteps kind property, step.IsDeep := by
  simp [propertySteps, keySteps, or_imp, forall_and]

theorem isDeep_nodeSteps (context : Context) (node : Node) :
    ∀ step ∈ context.nodeSteps node, step.IsDeep := by
  cases node with
  | objectLiteral properties | classDeclaration properties =>
      intro step member
      rw [nodeSteps, List.mem_flatMap] at member
      rcases member with ⟨property, -, here⟩
      exact isDeep_propertySteps context _ property step here
  | arrowFunction parameters body =>
      simp only [nodeSteps]
      split <;> simp
  | call callee arguments | propertyAccess expression name | elementAccess expression argument =>
      simp only [nodeSteps]
      split <;> simp
  | _ => simp [nodeSteps]

/-- However a tree is reduced, the rule reduces its parts in full. -/
theorem isDeep_steps (context : Context) (data : Json) :
    ∀ step ∈ context.steps data, step.IsDeep := by
  cases data with
  | object entries =>
      simp only [steps]
      split
      · exact isDeep_nodeSteps context _
      · simp
  | _ => simp [steps]

/-- A tree fails if any of its steps does. -/
theorem reduce_fails_of_mem_steps (deep : context.mode.shallow = false) {data : Json} {step : Step}
    {error : FoldError} (member : step ∈ context.steps data)
    (failed : step.failure? = some error) : ∃ found, context.reduce data = .error found := by
  have some : ((context.steps data).findSome? Step.failure?).isSome := by
    rw [List.findSome?_isSome_iff]
    exact ⟨step, member, by simp [failed]⟩
  rcases Option.isSome_iff_exists.1 some with ⟨found, first⟩
  exact ⟨found, reduce_failsFirst deep data found first⟩

/-- An error that a reduction leads to makes it fail. -/
theorem reduce_fails_of_reaches {last : Context} {data target : Json}
    (reaches : context.Reaches data last target) (deep : context.mode.shallow = false)
    (failed : ∃ error, last.reduce target = .error error) :
    ∃ error, context.reduce data = .error error := by
  induction reaches with
  | here context data => exact failed
  | step member _ ih =>
      have inside := ih (isDeep_steps _ _ _ member) failed
      rcases inside with ⟨error, failedInside⟩
      apply reduce_fails_of_mem_steps deep member
      exact error?_eq_some_iff.2 failedInside

/-- A node of a kind that stands for no form cannot be reduced. -/
theorem reduce_of_unsupported (context : Context) {entries : List (String × Json)}
    (unsupported : ∀ form, ¬ (Json.object entries).HasForm form) :
    ∃ error, context.reduce (.object entries) = .error error := by
  rw [reduce_eq_rule, Environment.rule]
  cases shape : Node.ofJson (.object entries) with
  | error error => exact ⟨error, rfl⟩
  | ok node =>
      rcases Node.hasForm_of_ofJson shape with ⟨form, known⟩
      exact absurd known (unsupported form)

/-- An error at any position that the rule of a node reduces makes the node fail, and with this very
error if all that comes before it succeeds. So a reduction fails if it leads, along such positions,
to a node whose kind is not supported. -/
theorem reduce_eq_error_of_step (context : Context) (deep : context.mode.shallow = false)
    (data : Json) :
    (∀ before inner part after error,
      context.steps data = before ++ .reduction inner part :: after →
        inner.reduce part = .error error →
          (∃ found, context.reduce data = .error found) ∧
            ((∀ step ∈ before, step.failure? = none) → context.reduce data = .error error)) ∧
    (∀ last entries, context.Reaches data last (.object entries) →
      (∀ form, ¬ (Json.object entries).HasForm form) →
        ∃ error, context.reduce data = .error error) := by
  constructor
  · intro before inner part after error split failed
    have here : (Step.reduction inner part).failure? = some error := error?_eq_some_iff.2 failed
    constructor
    · apply reduce_fails_of_mem_steps deep _ here
      rw [split]
      exact List.mem_append_right before List.mem_cons_self
    · intro passed
      apply reduce_failsFirst deep
      have none : before.findSome? Step.failure? = none := List.findSome?_eq_none_iff.2 passed
      rw [split, List.findSome?_append, none, List.findSome?_cons, here]
      rfl
  · intro last entries reaches unsupported
    exact reduce_fails_of_reaches reaches deep (reduce_of_unsupported last unsupported)

end Context

end Reductions

section Overwritten

attribute [local instance] Host.closed

/-- A property that cannot be reduced, although a later one has the same key. -/
theorem Context.reduce_eq_error_of_step_overwritten :
    let context : Context := ⟨⟨.empty, .prelude, .empty⟩, .resolve, 1, 0⟩
    let pattern := Tree.node "RegularExpressionLiteral" []
    let wrapped := Tree.parenthesized pattern
    let tree := Tree.object [("first", wrapped), ("first", Tree.numeral "1")]
    let error : FoldError := .unrecognizedKind "RegularExpressionLiteral"
    (context.mode.shallow = false ∧ context.nested.reduce wrapped = .error error ∧
      context.Reaches tree context.nested pattern ∧ ∀ form, ¬ pattern.HasForm form) ∧
        context.reduce tree = .error error ∧ ∃ found, context.reduce tree = .error found := by
  intro context pattern wrapped tree error
  have failed : context.nested.reduce wrapped = .error error := by
    rw [Context.reduce_eq_unrolled 2]
    rfl
  have name : context.nested.reduce (Tree.identifier "first") = .ok (.string "first") := by
    rw [Context.reduce_eq_unrolled 1]
    rfl
  have key : propertyKey context.nested.reduce "ObjectLiteralExpression"
      (Tree.assignment (Tree.identifier "first") wrapped) = .ok "first" := by
    change (context.nested.reduce (Tree.identifier "first") >>= fun value => keyOf _ value) = _
    rw [name]
    rfl
  have split : ∃ before after,
      context.steps tree = before ++ .reduction context.nested wrapped :: after ∧
        ∀ step ∈ before, step.failure? = none := by
    refine ⟨[_, _, _, _], _, rfl, ?_⟩
    simp only [List.forall_mem_cons, List.not_mem_nil, false_imp_iff, implies_true, and_true]
    exact ⟨rfl, congrArg error? name, congrArg error? key, rfl⟩
  obtain ⟨before, after, split, passed⟩ := split
  have outer : .reduction context.nested wrapped ∈ context.steps tree := by
    rw [split]
    exact List.mem_append_right before List.mem_cons_self
  have inner : .reduction context.nested pattern ∈ context.nested.steps wrapped :=
    List.mem_cons_self
  have reaches : context.Reaches tree context.nested pattern :=
    .step outer (.step inner (.here _ _))
  have unsupported : ∀ form, ¬ pattern.HasForm form := by
    rintro form ⟨kind, isKind, known⟩
    cases isKind
    cases known
  obtain ⟨positions, nodes⟩ := Context.reduce_eq_error_of_step context rfl tree
  constructor
  · exact ⟨rfl, failed, reaches, unsupported⟩
  · constructor
    · exact (positions before _ _ after _ split failed).2 passed
    · exact nodes _ _ reaches unsupported

end Overwritten

end SyntaxFold
