import SyntaxFold.Proofs.Node.Builder
import SyntaxFold.Proofs.Operator
import SyntaxFold.Proofs.Reduction.Unrolling
import SyntaxFold.Proofs.Value.Filling

/-!
# Reduction in two stages

A node can be reduced in literal mode first, which lets calls and accesses through, and each of
these be resolved on its own afterwards. If resolving the whole node succeeds at all, this gives the
same value: what literal mode does with a node does not depend on what its calls and accesses turn
out to be.
-/

namespace SyntaxFold

open Outcome Value

section Rule

variable {reduce : Mode → Json → Except FoldError Value} {fill : Json → Except FoldError Value}

theorem propertyRule_fills {property : Json}
    (parts : ∀ part ∈ propertyParts property,
      Related (Fills fill) (reduce .literal part) (reduce .resolve part))
    (kind : String) :
    Related (fun pair filled => pair.1 = filled.1 ∧ Fills fill pair.2 filled.2)
      (propertyRule reduce .literal kind property)
      (propertyRule reduce .resolve kind property) := by
  refine related_bind_self fun name named => ?_
  refine related_bind fun nameValue nameValue' nameOk nameOk' => ?_
  have nameFills : Fills fill nameValue nameValue' :=
    parts name (mem_propertyParts_of_name named) nameValue nameValue' nameOk nameOk'
  refine related_bind fun key key' keyed keyed' => ?_
  -- A key is made from a scalar, and a scalar contains no node.
  obtain rfl := nameFills.eq_of_isScalar (isScalar_of_keyOf keyed)
  obtain rfl : key = key' := Except.ok.inj (keyed.symm.trans keyed')
  refine related_bind_self fun initializer initialized => ?_
  refine related_bind fun value value' valueOk valueOk' => ?_
  refine related_ok ⟨rfl, ?_⟩
  exact parts initializer (mem_propertyParts_of_initializer initialized) value value' valueOk
    valueOk'

theorem mappingRule_fills {properties : List Json}
    (parts : ∀ part ∈ properties.flatMap propertyParts,
      Related (Fills fill) (reduce .literal part) (reduce .resolve part))
    (kind : String) :
    Related (Fills fill) (mappingRule reduce .literal kind properties)
      (mappingRule reduce .resolve kind properties) := by
  refine related_bind fun pairs pairs' pairsOk pairsOk' => related_ok (fills_mapping ?_)
  refine Entries.Matching.ofPairs (related_mapM ?_ pairs pairs' pairsOk pairsOk')
  intro property member
  refine propertyRule_fills ?_ kind
  intro part partMember
  exact parts part (List.mem_flatMap.2 ⟨property, member, partMember⟩)

variable [Host] {environment : Environment} {inside : Json → Except FoldError Value}

/-- The rule of a node gives values that are filled in, if the reduction of its parts does. A node
that is let through is filled in with its own value. -/
theorem Environment.nodeRule_fills {node : Node} {whole : Json}
    (parts : ∀ part ∈ node.parts,
      Related (Fills fill) (reduce .literal part) (reduce .resolve part))
    (self : fill whole = environment.nodeRule inside reduce .resolve whole node) :
    Related (Fills fill) (environment.nodeRule inside reduce .literal whole node)
      (environment.nodeRule inside reduce .resolve whole node) := by
  have passed (through : environment.nodeRule inside reduce .literal whole node =
      .ok (.node whole)) : Related (Fills fill)
        (environment.nodeRule inside reduce .literal whole node)
        (environment.nodeRule inside reduce .resolve whole node) := by
    intro value value' valueOk valueOk'
    cases through.symm.trans valueOk
    exact self.trans valueOk'
  cases node with
  | arrayLiteral elements =>
      refine related_bind fun values values' valuesOk valuesOk' => related_ok (fills_sequence ?_)
      exact related_mapM parts values values' valuesOk valuesOk'
  | objectLiteral properties => exact mappingRule_fills parts _
  | classDeclaration members => exact mappingRule_fills parts _
  | identifier text | stringLiteral text => exact related_ok rfl
  | boolean value => exact related_ok rfl
  | null => exact related_ok rfl
  | numericLiteral text =>
      refine related_self fun value numeral => ?_
      exact fills_self (computed_of_ofNumeral numeral).isScalar
  | prefixUnary operator operand =>
      refine related_bind_self fun _ _ => ?_
      refine related_bind fun value value' valueOk valueOk' => ?_
      have fills := parts operand (by simp [Node.parts]) value value' valueOk valueOk'
      intro result result' negated negated'
      obtain ⟨scalar, computed⟩ := computed_of_negate negated
      obtain rfl := fills.eq_of_isScalar scalar
      obtain rfl : result = result' := Except.ok.inj (negated.symm.trans negated')
      exact fills_self computed.isScalar
  | binary left token right =>
      simp only [nodeRule]
      split
      · exact related_error_left _ _
      · refine related_bind fun leftValue leftValue' leftOk leftOk' => ?_
        refine related_bind fun rightValue rightValue' rightOk rightOk' => ?_
        have leftFills := parts left (by simp [Node.parts]) _ _ leftOk leftOk'
        have rightFills := parts right (by simp [Node.parts]) _ _ rightOk rightOk'
        intro result result' applied applied'
        obtain ⟨leftScalar, rightScalar, computed⟩ := BinaryOperator.computed_of_apply applied
        obtain rfl := leftFills.eq_of_isScalar leftScalar
        obtain rfl := rightFills.eq_of_isScalar rightScalar
        obtain rfl : result = result' := Except.ok.inj (applied.symm.trans applied')
        exact fills_self computed.isScalar
  | wrapper expression => exact parts expression (by simp [Node.parts])
  | arrowFunction parameters body =>
      simp only [nodeRule]
      split
      · exact related_error_left _ _
      · refine related_bind_self fun scale _ => ?_
        split
        · exact related_ok rfl
        · exact related_error_left _ _
  | this => exact related_error_left _ _
  | template => exact passed rfl
  | call callee arguments => exact passed rfl
  | propertyAccess expression name => exact passed rfl
  | elementAccess expression argument => exact passed rfl

/-- The rule of a tree gives values that are filled in, if the reduction of its parts does. -/
theorem Environment.rule_fills {data : Json}
    (parts : ∀ part ∈ data.parts,
      Related (Fills fill) (reduce .literal part) (reduce .resolve part))
    (self : fill data = environment.rule inside reduce .resolve data) :
    Related (Fills fill) (environment.rule inside reduce .literal data)
      (environment.rule inside reduce .resolve data) := by
  cases data with
  | array items =>
      refine related_bind fun values values' valuesOk valuesOk' => related_ok (fills_sequence ?_)
      exact related_mapM parts values values' valuesOk valuesOk'
  | object entries =>
      refine related_bind_self fun node shape => ?_
      rw [Json.parts_of_ofJson shape] at parts
      refine nodeRule_fills parts ?_
      rw [self, rule, shape, ok_bind]
  | integer number => exact related_ok (fills_self (computed_ofInteger number).isScalar)
  | float number => exact related_ok (fills_self (isScalar_number number))
  | null | bool value | string text => exact related_ok rfl

end Rule

theorem Environment.reduceWith_fills [Host] (environment : Environment)
    (inside : Json → Except FoldError Value) (data : Json) :
    Related (Fills (environment.reduceWith inside .resolve))
      (environment.reduceWith inside .literal data)
      (environment.reduceWith inside .resolve data) := by
  induction data using Json.parts_induction with
  | step data ih =>
      have self : environment.reduceWith inside .resolve data =
          environment.rule inside (environment.reduceWith inside) .resolve data :=
        reduceWith_eq_rule .resolve data
      rw [reduceWith_eq_rule, reduceWith_eq_rule]
      exact rule_fills ih self

/-- If a tree reduces in literal mode and can be resolved, then resolving every node that literal
mode has let through, each on its own, succeeds and turns the first value into the second. -/
theorem Context.fill_of_literal [Host] (context : Context) (tree : Json)
    {first final : Value}
    (literal : ({ context with mode := .literal } : Context).reduce tree = .ok first)
    (resolved : ({ context with mode := .resolve } : Context).reduce tree = .ok final) :
    first.fill ({ context with mode := .resolve } : Context).reduce = .ok final :=
  Environment.reduceWith_fills context.environment context.inside tree first final literal resolved

section Stages

attribute [local instance] Host.closed

/-- A context in whose scope a class has one property. -/
def speedContext : Context :=
  ⟨⟨.empty, .prelude, ⟨[(selfScope, ⟨"Config", [("speed", .node (Tree.numeral "3"))]⟩)]⟩⟩,
    .literal, 256, 0⟩

/-- An object literal with accesses, of which one is under a key that is written twice. -/
def speedTree : Json :=
  Tree.object [("first", Tree.access Tree.this "speed"),
    ("all", Tree.array [Tree.numeral "1", Tree.access Tree.this "speed"]),
    ("first", Tree.identifier "a")]

/-- What becomes of `speedTree` if the member of the list becomes the given value. -/
def speedValue (member : Value) : Value :=
  .mapping [("first", .string "a"), ("all", .sequence [.integer 1, member])]

theorem Context.fill_of_literal_speed :
    (speedContext.reduce speedTree = .ok (speedValue (.node (Tree.access Tree.this "speed"))) ∧
      ({ speedContext with mode := .resolve } : Context).reduce speedTree =
        .ok (speedValue (.integer 3))) ∧
          (speedValue (.node (Tree.access Tree.this "speed"))).fill
            ({ speedContext with mode := .resolve } : Context).reduce =
              .ok (speedValue (.integer 3)) := by
  have literal : speedContext.reduce speedTree =
      .ok (speedValue (.node (Tree.access Tree.this "speed"))) := by
    rw [Context.reduce_eq_unrolled 4]
    rfl
  have resolved : ({ speedContext with mode := .resolve } : Context).reduce speedTree =
      .ok (speedValue (.integer 3)) := by
    rw [Context.reduce_eq_unrolled 4]
    rfl
  exact ⟨⟨literal, resolved⟩, Context.fill_of_literal speedContext speedTree literal resolved⟩

end Stages

end SyntaxFold
