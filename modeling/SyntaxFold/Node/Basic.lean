import SyntaxFold.Json.Printer
import SyntaxFold.Node.Text
import SyntaxFold.Outcome

/-!
# Syntax nodes

A node of a normalized tree is a JSON object with a `kind`. `Node.ofJson` sorts it into one of the
shapes that can be reduced and takes out the fields that the shape has; only the node itself is
looked at, not its children. Kinds that differ between parser versions share a form, so nothing
behind `Form.ofKind?` tells them apart. The children of a node are smaller than the node, which is
why reduction ends.
-/

namespace SyntaxFold

/-- The forms of syntax that can be reduced. -/
inductive Form where
  | arrayLiteral
  | objectLiteral
  | classDeclaration
  | identifier
  | stringLiteral
  | numericLiteral
  | trueKeyword
  | falseKeyword
  | nullKeyword
  | thisKeyword
  | prefixUnary
  | binary
  | wrapper
  | call
  | propertyAccess
  | elementAccess
  | template
  | arrowFunction
  deriving DecidableEq, Repr

/-- The form that a kind stands for. -/
def Form.ofKind? (kind : String) : Option Form :=
  match kind with
  | "ArrayLiteralExpression" => some arrayLiteral
  | "ObjectLiteralExpression" => some objectLiteral
  | "ClassDeclaration" => some classDeclaration
  | "Identifier" => some identifier
  | "StringLiteral" | "FirstTemplateToken" | "NoSubstitutionTemplateLiteral" =>
    some stringLiteral
  | "FirstLiteralToken" | "NumericLiteral" => some numericLiteral
  | "TrueKeyword" => some trueKeyword
  | "FalseKeyword" => some falseKeyword
  | "NullKeyword" => some nullKeyword
  | "ThisKeyword" => some thisKeyword
  | "PrefixUnaryExpression" => some prefixUnary
  | "BinaryExpression" => some binary
  | "TypeAssertionExpression" | "ParenthesizedExpression" => some wrapper
  | "CallExpression" => some call
  | "PropertyAccessExpression" => some propertyAccess
  | "ElementAccessExpression" => some elementAccess
  | "TemplateExpression" => some template
  | "ArrowFunction" => some arrowFunction
  | _ => none

/-- A node with the fields of its shape. -/
inductive Node where
  | arrayLiteral (elements : List Json)
  | objectLiteral (properties : List Json)
  /-- A class, which is reduced like an object literal over its members. -/
  | classDeclaration (members : List Json)
  | identifier (name : String)
  /-- A quoted text, or a template without substitutions. -/
  | stringLiteral (text : String)
  | numericLiteral (text : String)
  | boolean (value : Bool)
  | null
  | this
  /-- A prefix operator, given by its code or by the name of its token. -/
  | prefixUnary (operator operand : Json)
  | binary (left : Json) (operator : String) (right : Json)
  /-- Parentheses or a type assertion. -/
  | wrapper (expression : Json)
  | call (callee : Json) (arguments : List Json)
  | propertyAccess (expression : Json) (name : String)
  | elementAccess (expression argument : Json)
  /-- A template with substitutions. -/
  | template
  | arrowFunction (parameters : List Json) (body : Json)

namespace Node

/-- The name of a shape; shapes that stand for several kinds have one name for all of them. -/
def shapeName : Node → String
  | arrayLiteral _ => "ArrayLiteralExpression"
  | objectLiteral _ => "ObjectLiteralExpression"
  | classDeclaration _ => "ClassDeclaration"
  | identifier _ => "Identifier"
  | stringLiteral _ => "StringLiteral"
  | numericLiteral _ => "NumericLiteral"
  | boolean _ => "BooleanKeyword"
  | null => "NullKeyword"
  | this => "ThisKeyword"
  | prefixUnary _ _ => "PrefixUnaryExpression"
  | binary _ _ _ => "BinaryExpression"
  | wrapper _ => "ParenthesizedExpression"
  | call _ _ => "CallExpression"
  | propertyAccess _ _ => "PropertyAccessExpression"
  | elementAccess _ _ => "ElementAccessExpression"
  | template => "TemplateExpression"
  | arrowFunction _ _ => "ArrowFunction"

/-- Takes the fields of a form out of a node, in a fixed order. -/
def read (kind : String) (node : Json) : Form → Except FoldError Node
  | .arrayLiteral => arrayLiteral <$> requireArray kind "elements" node
  | .objectLiteral => objectLiteral <$> requireArray kind "properties" node
  | .classDeclaration => classDeclaration <$> requireArray kind "members" node
  | .identifier => identifier <$> require kind "escapedText" (identifierText node)
  | .stringLiteral => stringLiteral <$> requireText kind "text" node
  | .numericLiteral => numericLiteral <$> requireText kind "text" node
  | .trueKeyword => .ok (boolean true)
  | .falseKeyword => .ok (boolean false)
  | .nullKeyword => .ok null
  | .thisKeyword => .ok this
  | .prefixUnary => do
    let operator ← requireField kind "operator" node
    let operand ← requireField kind "operand" node
    return prefixUnary operator operand
  | .binary => do
    let left ← requireField kind "left" node
    let operator ← require kind "operatorToken" ((node.get? "operatorToken").bind kindOf)
    let right ← requireField kind "right" node
    return binary left operator right
  | .wrapper => wrapper <$> requireField kind "expression" node
  | .call => do
    let callee ← requireField kind "expression" node
    let arguments ← requireArray kind "arguments" node
    return call callee arguments
  | .propertyAccess => do
    let expression ← requireField kind "expression" node
    let name ← require kind "name" (declarationName node)
    return propertyAccess expression name
  | .elementAccess => do
    let expression ← requireField kind "expression" node
    let argument ← requireField kind "argumentExpression" node
    return elementAccess expression argument
  | .template => .ok template
  | .arrowFunction => do
    let parameters ← requireArray kind "parameters" node
    let body ← requireField kind "body" node
    return arrowFunction parameters body

/-- The shape of a node. The kind must be a name that stands for a form, and the node must have
the fields of that form. -/
def ofJson (node : Json) : Except FoldError Node :=
  match node.get? "kind" with
  | some (.string kind) =>
    match Form.ofKind? kind with
    | some form => read kind node form
    | none => .error (.unrecognizedKind kind)
  | some (.integer code) =>
    .error (.unrecognizedKind ("code " ++ code.repr ++ " (tree not normalized)"))
  | some (.float code) =>
    .error (.unrecognizedKind
      ("code " ++ Json.floatLayout.write code ++ " (tree not normalized)"))
  | _ => .error (.unrecognizedKind "<missing>")

/-- What is not larger than the parts of a node that can be reduced in their turn. -/
def Fits (bound : Nat) : Node → Prop
  | arrayLiteral items | objectLiteral items | classDeclaration items => sizeOf items < bound
  | prefixUnary _ operand => sizeOf operand < bound
  | binary left _ right => sizeOf left < bound ∧ sizeOf right < bound
  | wrapper expression => sizeOf expression < bound
  | call callee arguments => sizeOf callee < bound ∧ sizeOf arguments < bound
  | propertyAccess expression _ => sizeOf expression < bound
  | elementAccess expression argument => sizeOf expression < bound ∧ sizeOf argument < bound
  | arrowFunction _ body => sizeOf body < bound
  | _ => True

end Node

/-- The parts that are read out of a node are smaller than the node. -/
theorem Node.fits_of_read {kind : String} {json : Json} {form : Form} {node : Node}
    (shape : Node.read kind json form = .ok node) : node.Fits (sizeOf json) := by
  cases form with
  | arrayLiteral | objectLiteral | classDeclaration =>
    obtain ⟨items, found, rfl⟩ := map_eq_ok_iff.1 shape
    exact sizeOf_lt_of_requireArray found
  | identifier | stringLiteral | numericLiteral =>
    obtain ⟨text, -, rfl⟩ := map_eq_ok_iff.1 shape
    trivial
  | trueKeyword | falseKeyword | nullKeyword | thisKeyword | template =>
    cases shape
    trivial
  | prefixUnary =>
    obtain ⟨operator, -, rest⟩ := bind_eq_ok_iff.1 shape
    obtain ⟨operand, found, same⟩ := bind_eq_ok_iff.1 rest
    cases same
    exact sizeOf_lt_of_requireField found
  | binary =>
    obtain ⟨left, leftFound, rest⟩ := bind_eq_ok_iff.1 shape
    obtain ⟨operator, -, rest⟩ := bind_eq_ok_iff.1 rest
    obtain ⟨right, rightFound, same⟩ := bind_eq_ok_iff.1 rest
    cases same
    exact ⟨sizeOf_lt_of_requireField leftFound, sizeOf_lt_of_requireField rightFound⟩
  | wrapper =>
    obtain ⟨expression, found, rfl⟩ := map_eq_ok_iff.1 shape
    exact sizeOf_lt_of_requireField found
  | call =>
    obtain ⟨callee, calleeFound, rest⟩ := bind_eq_ok_iff.1 shape
    obtain ⟨arguments, argumentsFound, same⟩ := bind_eq_ok_iff.1 rest
    cases same
    exact ⟨sizeOf_lt_of_requireField calleeFound, sizeOf_lt_of_requireArray argumentsFound⟩
  | propertyAccess =>
    obtain ⟨expression, found, rest⟩ := bind_eq_ok_iff.1 shape
    obtain ⟨name, -, same⟩ := bind_eq_ok_iff.1 rest
    cases same
    exact sizeOf_lt_of_requireField found
  | elementAccess =>
    obtain ⟨expression, expressionFound, rest⟩ := bind_eq_ok_iff.1 shape
    obtain ⟨argument, argumentFound, same⟩ := bind_eq_ok_iff.1 rest
    cases same
    exact ⟨sizeOf_lt_of_requireField expressionFound, sizeOf_lt_of_requireField argumentFound⟩
  | arrowFunction =>
    obtain ⟨parameters, -, rest⟩ := bind_eq_ok_iff.1 shape
    obtain ⟨body, found, same⟩ := bind_eq_ok_iff.1 rest
    cases same
    exact sizeOf_lt_of_requireField found

/-- A shape is what is read from the fields of a node by its form. -/
theorem Node.exists_read_of_ofJson {json : Json} {node : Node}
    (shape : Node.ofJson json = .ok node) :
    ∃ kind form, json.get? "kind" = some (.string kind) ∧ Form.ofKind? kind = some form ∧
      Node.read kind json form = .ok node := by
  unfold Node.ofJson at shape
  split at shape
  · next kind isKind =>
    split at shape
    · next form known => exact ⟨kind, form, isKind, known, shape⟩
    · cases shape
  all_goals cases shape

/-- The parts of a node are smaller than the node. -/
theorem Node.fits_of_ofJson {json : Json} {node : Node} (shape : Node.ofJson json = .ok node) :
    node.Fits (sizeOf json) := by
  obtain ⟨kind, form, -, -, read⟩ := Node.exists_read_of_ofJson shape
  exact Node.fits_of_read read

end SyntaxFold
