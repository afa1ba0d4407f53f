import SyntaxFold.Node.Basic

/-!
# Building nodes

Nodes of the shapes that the statements about reduction speak of, put together from their parts, what
the shape of a node of a known form is, and what the fields of a node of a known shape hold.
-/

namespace SyntaxFold

namespace Tree

/-- A node of a kind. -/
def node (kind : String) (fields : List (String × Json)) : Json :=
  .object (("kind", .string kind) :: fields)

/-- An identifier, with its text as trees escape it. -/
def identifier (text : String) : Json := node "Identifier" [("escapedText", .string text)]

/-- A numeric literal. -/
def numeral (text : String) : Json := node "NumericLiteral" [("text", .string text)]

/-- A string literal. -/
def quoted (text : String) : Json := node "StringLiteral" [("text", .string text)]

/-- The keyword for the enclosing scope. -/
def this : Json := node "ThisKeyword" []

/-- An array literal. -/
def array (elements : List Json) : Json :=
  node "ArrayLiteralExpression" [("elements", .array elements)]

/-- An object literal with identifiers as keys. -/
def object (properties : List (String × Json)) : Json :=
  node "ObjectLiteralExpression" [("properties", .array (properties.map fun (key, value) =>
    node "PropertyAssignment" [("name", identifier key), ("initializer", value)]))]

/-- A property of an object literal, with any name. -/
def assignment (name initializer : Json) : Json :=
  node "PropertyAssignment" [("name", name), ("initializer", initializer)]

/-- An access to a member. -/
def access (expression : Json) (name : String) : Json :=
  node "PropertyAccessExpression" [("expression", expression), ("name", identifier name)]

/-- An access to an element. -/
def element (expression argument : Json) : Json :=
  node "ElementAccessExpression" [("expression", expression), ("argumentExpression", argument)]

/-- A call. -/
def call (callee : Json) (arguments : List Json) : Json :=
  node "CallExpression" [("expression", callee), ("arguments", .array arguments)]

/-- An expression in parentheses. -/
def parenthesized (expression : Json) : Json :=
  node "ParenthesizedExpression" [("expression", expression)]

/-- A prefix operator, given by a code or by the name of its token. -/
def unary (operator operand : Json) : Json :=
  node "PrefixUnaryExpression" [("operator", operator), ("operand", operand)]

/-- A binary operator, given by the name of its token. -/
def binary (left : Json) (token : String) (right : Json) : Json :=
  node "BinaryExpression"
    [("left", left), ("operatorToken", node token []), ("right", right)]

/-- A property of a class, with an initializer. -/
def property (name : String) (initializer : Json) : Json :=
  node "PropertyDeclaration" [("name", identifier name), ("initializer", initializer)]

/-- A class. -/
def classDeclaration (name : String) (members : List Json) : Json :=
  node "ClassDeclaration" [("name", identifier name), ("members", .array members)]

/-- An enumeration. -/
def enumeration (name : String) (members : List String) : Json :=
  node "EnumDeclaration" [("name", identifier name), ("members", .array (members.map fun member =>
    node "EnumMember" [("name", identifier member)]))]

/-- A source file. -/
def sourceFile (statements : List Json) : Json :=
  node "SourceFile" [("statements", .array statements)]

end Tree

/-! ## Nodes of a form -/

/-- A node whose kind stands for a form. -/
def Json.HasForm (tree : Json) (form : Form) : Prop :=
  ∃ kind, tree.get? "kind" = some (.string kind) ∧ Form.ofKind? kind = some form

theorem Tree.hasForm_node {kind : String} {form : Form} (known : Form.ofKind? kind = some form)
    (fields : List (String × Json)) : (Tree.node kind fields).HasForm form :=
  ⟨kind, rfl, known⟩

/-- A tree that has a shape is a node of some form. -/
theorem Node.hasForm_of_ofJson {tree : Json} {node : Node} (shape : Node.ofJson tree = .ok node) :
    ∃ form, tree.HasForm form := by
  obtain ⟨kind, form, isKind, known, -⟩ := Node.exists_read_of_ofJson shape
  exact ⟨form, kind, isKind, known⟩

/-- The shape of a node of a known form is what is read from its fields. -/
theorem Node.ofJson_of_hasForm {tree : Json} {form : Form} {node : Node}
    (hasForm : tree.HasForm form) (read : ∀ kind, Node.read kind tree form = .ok node) :
    Node.ofJson tree = .ok node := by
  obtain ⟨kind, isKind, isForm⟩ := hasForm
  simp only [Node.ofJson, isKind, isForm, read kind]

/-! ## Fields that shapes are read from -/

theorem identifierText_of_identifier {tree : Json} {name : String}
    (shape : Node.ofJson tree = .ok (.identifier name)) : identifierText tree = some name := by
  obtain ⟨kind, form, -, -, read⟩ := Node.exists_read_of_ofJson shape
  cases form with
  | identifier => simpa [Node.read, map_eq_ok_iff] using read
  | _ => simp [Node.read, map_eq_ok_iff, bind_eq_ok_iff] at read

theorem members_of_classDeclaration {tree : Json} {members : List Json}
    (shape : Node.ofJson tree = .ok (.classDeclaration members)) :
    tree.get? "members" = some (.array members) := by
  obtain ⟨kind, form, -, -, read⟩ := Node.exists_read_of_ofJson shape
  cases form with
  | classDeclaration =>
      obtain ⟨_, listed, ⟨⟩⟩ := map_eq_ok_iff.1 read
      exact requireArray_eq_ok_iff.1 listed
  | _ => simp [Node.read, map_eq_ok_iff, bind_eq_ok_iff] at read

end SyntaxFold
