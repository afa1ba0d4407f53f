import SyntaxFold.Proofs.Outcome
import SyntaxFold.Proofs.Reduction.Parts
import SyntaxFold.Reduction.Reducer

/-!
# The rule of one node

Reduction is defined by recursion over a tree. This module separates what happens at one node from
the recursion: `Environment.rule` says how a node is reduced once a function is given that reduces
its parts, and `Environment.reduceWith_eq_rule` says that reduction is the solution of this
equation.
-/

namespace SyntaxFold

/-! ## Collections -/

/-- A node whose children a shallow reduction leaves as they are. -/
def Node.IsCollection : Node → Prop
  | arrayLiteral _ | objectLiteral _ | classDeclaration _ => True
  | _ => False

/-! ## Rules -/

/-- The key and value that a property gives when `reduce` reduces its parts. -/
def propertyRule (reduce : Mode → Json → Except FoldError Value) (mode : Mode) (kind : String)
    (property : Json) : Except FoldError (String × Value) := do
  let kindHere := (kindOf property).getD kind
  let name ← requireField kindHere "name" property
  let nameValue ← reduce mode.nested name
  let key ← keyOf kindHere nameValue
  let initializer ← requireField kindHere "initializer" property
  let value ←
    (if mode.shallow then .ok (.node initializer) else reduce mode.nested initializer)
  return (key, value)

/-- The mapping that properties give when `reduce` reduces their parts. -/
def mappingRule (reduce : Mode → Json → Except FoldError Value) (mode : Mode) (kind : String)
    (properties : List Json) : Except FoldError Value := do
  let pairs ← properties.mapM (propertyRule reduce mode kind)
  return .mapping (Entries.ofPairs pairs)

variable [Host]

namespace Environment

/-- The value of a node whose shape is known, when `reduce` reduces its parts and `inside` what
lies inside calls and lookups. -/
def nodeRule (environment : Environment) (inside : Json → Except FoldError Value)
    (reduce : Mode → Json → Except FoldError Value) (mode : Mode) (whole : Json) :
    Node → Except FoldError Value
  | .arrayLiteral elements =>
      if mode.shallow then .ok (.sequence (elements.map .node))
      else do
        let values ← elements.mapM (reduce mode.nested)
        return .sequence values
  | .objectLiteral properties => mappingRule reduce mode "ObjectLiteralExpression" properties
  | .classDeclaration members => mappingRule reduce mode "ClassDeclaration" members
  | .identifier name => .ok (.string name)
  | .stringLiteral text => .ok (.string text)
  | .numericLiteral text => Value.ofNumeral text
  | .boolean value => .ok (.bool value)
  | .null => .ok .null
  | .prefixUnary operator operand => do
      requireMinus environment.kinds operator
      let value ← reduce mode.nested operand
      value.negate
  | .binary left token right =>
      match BinaryOperator.ofToken? token with
      | none => .error (.unimplementedOperator token .binary)
      | some operator => do
          let left ← reduce mode.nested left
          let right ← reduce mode.nested right
          operator.apply left right
  | .wrapper expression => reduce mode.nested expression
  | .arrowFunction parameters body =>
      match Formula.recognize parameters body with
      | .error fault => .error (.unsupportedFunction fault)
      | .ok (base, factor) => do
          let scale ← reduce .literal factor
          match scale.float? with
          | some number => .ok (.function 0 (.logarithm base number))
          | none => .error (.unsupportedFunction .scaleNotNumber)
  | .this =>
      if mode.resolving then .ok (.string selfScope)
      else .error (.unrecognizedKind "ThisKeyword")
  | .template =>
      if mode.resolving then .error (.unreducible "TemplateExpression")
      else .ok (.node whole)
  | .call callee arguments =>
      if mode.resolving then environment.callWith inside callee arguments
      else .ok (.node whole)
  | .propertyAccess expression name =>
      if mode.resolving then do
        let base ← reduce mode.nested expression
        environment.accessWith inside base name
      else .ok (.node whole)
  | .elementAccess expression argument =>
      if mode.resolving then do
        let base ← reduce mode.nested expression
        let index ← reduce mode.nested argument
        elementOf base index
      else .ok (.node whole)

/-- The value of a node or of bare data, when `reduce` reduces its parts and `inside` what lies
inside calls and lookups. -/
def rule (environment : Environment) (inside : Json → Except FoldError Value)
    (reduce : Mode → Json → Except FoldError Value) (mode : Mode) :
    Json → Except FoldError Value
  | .null => .ok .null
  | .bool value => .ok (.bool value)
  | .integer value => .ok (.ofInteger value)
  | .float value => .ok (.number value)
  | .string text => .ok (.string text)
  | .array items => do
      let values ← items.mapM (reduce mode.nested)
      return .sequence values
  | .object entries => do
      let node ← Node.ofJson (.object entries)
      environment.nodeRule inside reduce mode (.object entries) node

variable {environment : Environment} {inside : Json → Except FoldError Value}

theorem reduceAllWith_eq_mapM (mode : Mode) (nodes : List Json) :
    environment.reduceAllWith inside mode nodes =
      nodes.mapM (environment.reduceWith inside mode) := by
  induction nodes with
  | nil =>
      rw [reduceAllWith]
      rfl
  | cons node rest ih => rw [reduceAllWith, ih, List.mapM_cons]

theorem reducePropertiesWith_eq_mapM (mode : Mode) (kind : String) (properties : List Json) :
    environment.reducePropertiesWith inside mode kind properties =
      properties.mapM (propertyRule (environment.reduceWith inside) mode kind) := by
  induction properties with
  | nil =>
      rw [reducePropertiesWith]
      rfl
  | cons property rest ih =>
      rw [reducePropertiesWith, ih, List.mapM_cons, propertyRule]
      split
      · next error unnamed => simp only [unnamed, error_bind]
      · next name named =>
          simp only [named, ok_bind, bind_assoc]
          congr 1
          funext nameValue
          congr 1
          funext key
          split
          · next error uninitialized => simp only [uninitialized, error_bind]
          · next initializer initialized => simp only [initialized, ok_bind, pure_bind]

/-- Reduction of a tree is the rule of the tree, with its parts reduced in the same way. -/
theorem reduceWith_eq_rule (mode : Mode) (data : Json) :
    environment.reduceWith inside mode data =
      environment.rule inside (environment.reduceWith inside) mode data := by
  cases data with
  | array items =>
      rw [reduceWith, reduceAllWith_eq_mapM]
      rfl
  | object entries =>
      rw [reduceWith, rule]
      split
      -- The recognition of a formula is matched on together with its equation.
      case h_13 parameters body shape =>
        simp only [shape, ok_bind, nodeRule]
        split
        · next recognized => rw [recognized]
        · next recognized =>
            rewrite [recognized]
            rfl
      all_goals
        next shape =>
          simp only [shape, ok_bind, error_bind, nodeRule, mappingRule, reduceAllWith_eq_mapM,
            reducePropertiesWith_eq_mapM] <;> rfl
  | _ =>
      rw [reduceWith]
      rfl

theorem reduceWith_eq_nodeRule {data : Json} {node : Node} (shape : Node.ofJson data = .ok node)
    (mode : Mode) :
    environment.reduceWith inside mode data =
      environment.nodeRule inside (environment.reduceWith inside) mode data node := by
  rw [reduceWith_eq_rule]
  cases data with
  | object entries => simp only [rule, shape, ok_bind]
  | _ => cases shape

/-- Only the rules of collections tell a shallow reduction from a full one. -/
theorem nodeRule_nested {node : Node} (single : ¬ node.IsCollection)
    (reduce : Mode → Json → Except FoldError Value) (mode : Mode) (whole : Json) :
    environment.nodeRule inside reduce mode whole node =
      environment.nodeRule inside reduce mode.nested whole node := by
  cases node with
  | arrayLiteral _ | objectLiteral _ | classDeclaration _ => exact absurd trivial single
  | _ => rfl

theorem reduceWith_nested {data : Json}
    (single : ∀ node, Node.ofJson data = .ok node → ¬ node.IsCollection) (mode : Mode) :
    environment.reduceWith inside mode data = environment.reduceWith inside mode.nested data := by
  rw [reduceWith_eq_rule, reduceWith_eq_rule]
  cases data with
  | object entries =>
      simp only [rule]
      cases shape : Node.ofJson (.object entries) with
      | error error => rfl
      | ok node => exact nodeRule_nested (single node shape) _ mode _
  | _ => rfl

end Environment

/-! ## Contexts -/

namespace Context

/-- A reduction in a context is the rule of the tree, with its parts reduced in the same context but
for the mode. -/
theorem reduce_eq_rule (context : Context) (data : Json) :
    context.reduce data = context.environment.rule context.inside
      (fun mode => ({ context with mode := mode } : Context).reduce) context.mode data :=
  Environment.reduceWith_eq_rule context.mode data

/-- The context inside a lookup or a call, whether or not the limit allows one more. -/
def entered (context : Context) : Context := { context.nested with depth := context.depth + 1 }

/-- Where the limit allows no more, whatever lies inside a lookup or a call fails. -/
theorem inside_of_enter_eq_error {context : Context} {error : FoldError}
    (full : context.enter = .error error) (tree : Json) : context.inside tree = .error error := by
  unfold enter at full
  split at full
  · cases full
  · next noRoom =>
      cases full
      have none : context.remaining = 0 := Nat.sub_eq_zero_of_le (Nat.le_of_not_lt noRoom)
      rw [inside, none]
      rfl

/-- Inside a lookup or a call, a node is reduced in the context that is entered. -/
theorem inside_of_enter_eq_ok {context inner : Context} (resolving : context.mode.resolving = true)
    (room : context.enter = .ok inner) (tree : Json) :
    inner = context.entered ∧ context.inside tree = inner.reduce tree := by
  obtain ⟨remaining, rfl⟩ := enter_eq_ok_iff.1 room
  have resolve : context.nested.mode = .resolve := by
    simp only [nested, Mode.nested, resolving]
    rfl
  constructor
  · rfl
  · rw [inside, remaining, reduce, inside, resolve]
    rfl

end Context

end SyntaxFold
