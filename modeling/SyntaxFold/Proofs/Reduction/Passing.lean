import SyntaxFold.Proofs.Json.Subtrees
import SyntaxFold.Proofs.Node.Builder
import SyntaxFold.Proofs.Reduction.Everywhere
import SyntaxFold.Proofs.Reduction.Unrolling
import SyntaxFold.Proofs.Value.Data

/-!
# What literal mode lets through

In literal mode, calls, accesses and templates stay as they are. They may end up anywhere in the
value of a reduction, but never changed: each node in the value is a subtree of the tree that was
reduced, and reducing it again gives it back. Functions come from function literals in the tree, so
the value of a tree without any is data.
-/

namespace SyntaxFold

open Outcome Value

/-! ## Nodes that are let through -/

/-- A call, an access or a template with substitutions. -/
def Node.IsOpen : Node → Prop
  | call _ _ | propertyAccess _ _ | elementAccess _ _ | template => True
  | _ => False

namespace Json

/-- A node that is let through unless it is resolved. -/
def IsOpen (tree : Json) : Prop := ∃ node, Node.ofJson tree = .ok node ∧ node.IsOpen

/-- A function literal. -/
def IsArrow (tree : Json) : Prop :=
  ∃ parameters body, Node.ofJson tree = .ok (.arrowFunction parameters body)

/-- A function literal is of the kind that has its name. -/
theorem IsArrow.kindOf_eq {tree : Json} (isArrow : tree.IsArrow) :
    kindOf tree = some "ArrowFunction" := by
  rcases isArrow with ⟨parameters, body, shape⟩
  obtain ⟨kind, form, isKind, known, read⟩ := Node.exists_read_of_ofJson shape
  have isForm : form = .arrowFunction := by
    cases form <;> first | rfl | simp [Node.read, bind_eq_ok_iff, map_eq_ok_iff] at read
  have named : kind = "ArrowFunction" := by
    rw [isForm] at known
    unfold Form.ofKind? at known
    split at known <;> first | rfl | cases known
  simp [kindOf, getString?, isKind, named, string?]

/-- Where no subtree is of that kind, there is no function literal. -/
theorem not_isArrow_of_subtrees {tree : Json}
    (none : (tree.subtrees.all fun inner => kindOf inner != some "ArrowFunction") = true) :
    ∀ inner : Json, inner.Within tree → ¬ inner.IsArrow := by
  intro inner within isArrow
  have other := List.all_eq_true.1 none inner within.mem_subtrees
  rw [isArrow.kindOf_eq] at other
  simp at other

end Json

/-! ## Where values come from -/

/-- A node is an open subtree of the tree, and a function is what `reduce` makes of a function
literal in the tree. -/
def Value.ComesFrom (reduce : Json → Except FoldError Value) (tree : Json) : Value → Prop
  | .node passed => passed.Within tree ∧ passed.IsOpen
  | .function stamp body =>
      ∃ literal : Json, literal.Within tree ∧ literal.IsArrow ∧
        reduce literal = .ok (.function stamp body)
  | _ => True

theorem Value.ComesFrom.trans {reduce : Json → Except FoldError Value} {inner tree : Json}
    (within : inner.Within tree) {value : Value} (from' : value.ComesFrom reduce inner) :
    value.ComesFrom reduce tree := by
  cases value with
  | node passed =>
      rcases from' with ⟨passedWithin, isOpen⟩
      exact ⟨passedWithin.trans within, isOpen⟩
  | function stamp body =>
      rcases from' with ⟨literal, literalWithin, isArrow, reduced⟩
      exact ⟨literal, literalWithin.trans within, isArrow, reduced⟩
  | _ => trivial

/-- A value that is neither a node nor a function. -/
def Value.IsPlain : Value → Prop
  | .node _ | .function _ _ => False
  | _ => True

theorem Value.everywhere_of_isScalar {holds : Value → Prop}
    (plain : ∀ value : Value, value.IsPlain → holds value) {value : Value}
    (scalar : value.isScalar = true) : Everywhere holds value := by
  cases value with
  | null | bool _ | integer _ | float _ | string _ =>
      apply Everywhere.intro
      · exact plain _ trivial
      · intro part member
        cases member
  | sequence _ | mapping _ | function _ _ | node _ => cases scalar

section Rule

variable {holds : Value → Prop} {reduce : Mode → Json → Except FoldError Value}

variable [Host] {environment : Environment} {inside : Json → Except FoldError Value}

/-- In literal mode the rule of a node keeps what holds everywhere in the values of its parts, of
the node itself where that is let through, and of the function that it may be a literal of. -/
theorem Environment.nodeRule_everywhere_of_literal {node : Node} {whole : Json}
    (plain : ∀ value : Value, value.IsPlain → holds value)
    (passed : node.IsOpen → holds (.node whole))
    (literal : ∀ parameters body function, node = .arrowFunction parameters body →
      environment.nodeRule inside reduce .literal whole node = .ok (.function 0 function) →
        holds (.function 0 function))
    (parts : ∀ part ∈ node.parts, Ensures (Everywhere holds) (reduce .literal part)) :
    Ensures (Everywhere holds) (environment.nodeRule inside reduce .literal whole node) := by
  have scalar {value : Value} (isScalar : value.isScalar = true) : Everywhere holds value :=
    everywhere_of_isScalar plain isScalar
  have mapping (entries : List (String × Value)) : holds (.mapping entries) := plain _ trivial
  have kept (shallow : Mode.literal.shallow = true) (tree : Json) :
      Everywhere holds (.node tree) := by cases shallow
  cases node with
  | arrayLiteral elements =>
      apply ensures_bind
      intro values valuesOk
      apply ensures_ok
      apply Everywhere.intro
      · exact plain _ trivial
      · exact ensures_mapM parts values valuesOk
  | objectLiteral properties => exact mappingRule_everywhere mapping kept parts _
  | classDeclaration members => exact mappingRule_everywhere mapping kept parts _
  | identifier _ | stringLiteral _ => exact ensures_ok (scalar rfl)
  | boolean _ => exact ensures_ok (scalar rfl)
  | null => exact ensures_ok (scalar rfl)
  | numericLiteral text =>
      intro value numeral
      exact scalar (computed_of_ofNumeral numeral).isScalar
  | prefixUnary operator operand =>
      refine ensures_bind fun _ _ => ensures_bind fun value _ => ?_
      intro result negated
      exact scalar (computed_of_negate negated).2.isScalar
  | binary left token right =>
      simp only [nodeRule]
      split
      · exact ensures_error _
      · refine ensures_bind fun leftValue _ => ensures_bind fun rightValue _ => ?_
        intro result applied
        exact scalar (BinaryOperator.computed_of_apply applied).2.2.isScalar
  | wrapper expression => exact parts expression (by simp [Node.parts])
  | arrowFunction parameters body =>
      intro value reduced
      have isFunction : ∃ base number, value = .function 0 (.logarithm base number) := by
        simp only [nodeRule] at reduced
        split at reduced
        · cases reduced
        · rcases bind_eq_ok_iff.1 reduced with ⟨scale, -, made⟩
          split at made
          · cases made
            exact ⟨_, _, rfl⟩
          · cases made
      rcases isFunction with ⟨base, number, rfl⟩
      apply Everywhere.intro
      · exact literal parameters body _ rfl reduced
      · intro part member
        cases member
  | this => exact ensures_error _
  | template | call _ _ | propertyAccess _ _ | elementAccess _ _ =>
      apply ensures_ok
      apply Everywhere.intro
      · exact passed trivial
      · intro part member
        cases member

end Rule

section Reductions

variable [Host]

namespace Environment

variable {environment : Environment} {inside : Json → Except FoldError Value}

/-- Unless it is resolved, an open node is let through as it is. -/
theorem reduceWith_of_isOpen {tree : Json} (isOpen : tree.IsOpen) {mode : Mode}
    (literal : mode.resolving = false) :
    environment.reduceWith inside mode tree = .ok (.node tree) := by
  rcases isOpen with ⟨node, shape, isOpen⟩
  rw [reduceWith_eq_nodeRule shape]
  cases node with
  | template | call _ _ | propertyAccess _ _ | elementAccess _ _ => simp [nodeRule, literal]
  | _ => cases isOpen

/-- In literal mode every node and every function in the value of a tree comes from the tree. -/
theorem reduceWith_comesFrom (data : Json) :
    Ensures (Everywhere (ComesFrom (environment.reduceWith inside .literal) data))
      (environment.reduceWith inside .literal data) := by
  induction data using Json.parts_induction with
  | step data ih =>
      have plain (value : Value) (isPlain : value.IsPlain) :
          value.ComesFrom (environment.reduceWith inside .literal) data := by
        cases value <;> trivial
      have parts : ∀ part ∈ data.parts,
          Ensures (Everywhere (ComesFrom (environment.reduceWith inside .literal) data))
            (environment.reduceWith inside .literal part) := by
        intro part member value reduced
        have within : part.Within data := (Json.below_of_mem_parts member).to_reflTransGen
        apply (ih part member value reduced).imp
        intro inner comesFrom
        exact comesFrom.trans within
      cases data with
      | object entries =>
          cases shape : Node.ofJson (.object entries) with
          | error error =>
              rw [reduceWith_eq_rule, rule, shape]
              exact ensures_error error
          | ok node =>
              rw [Json.parts_of_ofJson shape] at parts
              rw [reduceWith_eq_nodeRule shape]
              apply nodeRule_everywhere_of_literal plain
              · intro isOpen
                exact ⟨.refl, node, shape, isOpen⟩
              · rintro parameters body function rfl reduced
                rw [← reduceWith_eq_nodeRule shape] at reduced
                exact ⟨_, .refl, ⟨parameters, body, shape⟩, reduced⟩
              · exact parts
      | array items =>
          rw [reduceWith_eq_rule]
          apply ensures_bind
          intro values valuesOk
          apply ensures_ok
          apply Everywhere.intro
          · exact plain _ trivial
          · exact ensures_mapM parts values valuesOk
      | integer number =>
          rw [reduceWith_eq_rule]
          exact ensures_ok (everywhere_of_isScalar plain (computed_ofInteger number).isScalar)
      | float number =>
          rw [reduceWith_eq_rule]
          exact ensures_ok (everywhere_of_isScalar plain (isScalar_number number))
      | null | bool _ | string _ =>
          rw [reduceWith_eq_rule]
          exact ensures_ok (everywhere_of_isScalar plain rfl)

end Environment

/-- What literal mode lets through is verbatim and stays so: every node in the value of a tree is a
subtree of it that is a call, an access or a template, and reduces to itself again. Every function
in the value is what a function literal in the tree reduces to. So if there is no function literal
in the tree, the value is data. -/
theorem Context.comesFrom_of_reduce (context : Context) (literal : context.mode = .literal)
    (tree : Json) {value : Value} (reduced : context.reduce tree = .ok value) :
    (∀ passed, value.Contains (.node passed) →
      passed.Within tree ∧ passed.IsOpen ∧ context.reduce passed = .ok (.node passed)) ∧
    (∀ stamp body, value.Contains (.function stamp body) →
      ∃ function : Json, function.Within tree ∧ function.IsArrow ∧
        context.reduce function = .ok (.function stamp body)) ∧
    ((∀ function : Json, function.Within tree → ¬ function.IsArrow) →
      ∃ data, value.toJson = .ok data) := by
  have comesFrom : Everywhere (ComesFrom context.reduce tree) value := by
    unfold Context.reduce at reduced ⊢
    rw [literal] at reduced ⊢
    exact Environment.reduceWith_comesFrom tree value reduced
  have functions (stamp : Nat) (body : Callable)
      (contains : value.Contains (.function stamp body)) :
      ∃ function : Json, function.Within tree ∧ function.IsArrow ∧
        context.reduce function = .ok (.function stamp body) :=
    (comesFrom.of_contains contains).here
  refine ⟨?_, functions, ?_⟩
  · intro passed contains
    rcases (comesFrom.of_contains contains).here with ⟨within, isOpen⟩
    refine ⟨within, isOpen, ?_⟩
    apply Environment.reduceWith_of_isOpen isOpen
    rw [literal]
    rfl
  · intro none
    apply exists_toJson
    apply List.eq_nil_iff_forall_not_mem.2
    intro body member
    rcases contains_of_mem_functions member with ⟨stamp, contains⟩
    rcases functions stamp body contains with ⟨function, within, isArrow, -⟩
    exact none function within isArrow

end Reductions

section LetThrough

attribute [local instance] Host.closed

/-- A list of a call in parentheses, which is written out twice under one key. -/
def passingTree : Json :=
  let call := Tree.parenthesized (Tree.call (Tree.identifier "load") [Tree.this])
  Tree.object [("name", Tree.quoted "a"), ("data", call), ("data", Tree.array [call])]

theorem Context.comesFrom_of_reduce_passing :
    let context : Context := ⟨⟨.empty, .empty, .empty⟩, .literal, 0, 0⟩
    let call := Tree.call (Tree.identifier "load") [Tree.this]
    let value : Value := .mapping [("name", .string "a"), ("data", .sequence [.node call])]
    (context.mode = .literal ∧ context.reduce passingTree = .ok value ∧
      value.Contains (.node call) ∧
        ∀ inner : Json, inner.Within passingTree → ¬ inner.IsArrow) ∧
      (call.Within passingTree ∧ call.IsOpen ∧ context.reduce call = .ok (.node call)) ∧
        ∃ data, value.toJson = .ok data := by
  intro context call value
  have reduced : context.reduce passingTree = .ok value := by
    rw [Context.reduce_eq_unrolled 5]
    rfl
  have contains : value.Contains (.node call) := by
    have inList : Contains (.sequence [.node call]) (.node call) :=
      .inside List.mem_cons_self (.self _)
    exact .inside (List.mem_cons_of_mem _ List.mem_cons_self) inList
  have none : ∀ inner : Json, inner.Within passingTree → ¬ inner.IsArrow :=
    Json.not_isArrow_of_subtrees rfl
  rcases Context.comesFrom_of_reduce context rfl passingTree reduced with ⟨nodes, -, data⟩
  exact ⟨⟨rfl, reduced, contains, none⟩, nodes call contains, data none⟩

end LetThrough

end SyntaxFold
