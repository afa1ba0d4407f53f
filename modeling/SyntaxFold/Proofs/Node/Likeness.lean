import SyntaxFold.Node.Basic
import SyntaxFold.Proofs.Normalize

/-!
# Nodes that are alike

Two trees that differ only in places a reduction does not look at have nodes of the same shapes.
What a field is read for is its role: a field that holds an expression is reduced, of an operator
token only the kind counts, and of most fields nothing. A `Variation` says which differences there
may be in each role, and `Node.read_alike` carries them from the fields of two trees to the shapes
that are read from these. Reduction is studied on alike nodes, whatever the variation is.
-/

namespace SyntaxFold

open Outcome

/-! ## Errors without tables -/

/-- An error that does not speak of a lookup, a call, an element, a declaration or a node that must
be resolved. Without resolving there are no others. -/
def FoldError.IsLiteral : FoldError → Prop
  | .scopeNotFound _ | .propertyNotFound _ _ | .declarationNotFound _ _ | .notCallable _
  | .unsupportedMember _ _ | .unreducible _ | .indexOutOfBounds _ _ | .arityMismatch _ _ _
  | .callFailed _ _ | .depthExceeded _ => False
  | _ => True

/-! ## Roles of fields -/

/-- What a field of a node is read for. -/
inductive Role where
  /-- An expression, which is reduced. -/
  | expression
  /-- A list of expressions. -/
  | expressions
  /-- A list of properties, whose names and initializers are expressions. -/
  | properties
  /-- A prefix operator. -/
  | operator
  /-- An operator between operands, given by the kind of a token. -/
  | token
  /-- An identifier. -/
  | name
  /-- A text. -/
  | text
  /-- The parameters of a function literal. -/
  | parameters
  /-- The body of a function literal. -/
  | body
  /-- Nothing: the field is not looked at. -/
  | unread
  deriving DecidableEq, Repr

/-- The role of a field in nodes of a form. -/
def Form.role : Form → String → Role
  | .arrayLiteral, "elements" => .expressions
  | .objectLiteral, "properties" => .properties
  | .classDeclaration, "members" => .properties
  | .identifier, "escapedText" => .text
  | .stringLiteral, "text" => .text
  | .numericLiteral, "text" => .text
  | .prefixUnary, "operator" => .operator
  | .prefixUnary, "operand" => .expression
  | .binary, "left" => .expression
  | .binary, "operatorToken" => .token
  | .binary, "right" => .expression
  | .wrapper, "expression" => .expression
  | .call, "expression" => .expression
  | .call, "arguments" => .expressions
  | .propertyAccess, "expression" => .expression
  | .propertyAccess, "name" => .name
  | .elementAccess, "expression" => .expression
  | .elementAccess, "argumentExpression" => .expression
  | .arrowFunction, "parameters" => .parameters
  | .arrowFunction, "body" => .body
  | _, _ => .unread

theorem Form.role_kind (form : Form) : form.role "kind" = .unread := by
  cases form <;> rfl

theorem Form.role_operator (form : Form) :
    form.role "operator" = .operator ∨ form.role "operator" = .unread := by
  cases form <;> first | exact Or.inl rfl | exact Or.inr rfl

theorem Form.eq_operator_of_role {form : Form} {key : String}
    (isOperator : form.role key = .operator) : key = "operator" := by
  unfold Form.role at isOperator
  split at isOperator <;> first | rfl | cases isOperator

/-! ## Variations -/

/-- How two trees may differ: in the names of kinds, in prefix operators, in expressions that are
reduced, and in what a function literal consists of. -/
structure Variation where
  kind : String → String → Prop
  operator : Json → Json → Prop
  part : Json → Json → Prop
  formula : Json → Json → Prop

namespace Variation

/-- The variation that admits no difference but in the expressions that are reduced. -/
def ofParts (part : Json → Json → Prop) : Variation := ⟨(· = ·), (· = ·), part, (· = ·)⟩

/-- Whatever is the same on both sides is admitted. -/
structure Reflexive (variation : Variation) : Prop where
  kind : ∀ kind, variation.kind kind kind
  operator : ∀ operator, variation.operator operator operator
  part : ∀ part, variation.part part part
  formula : ∀ tree, variation.formula tree tree

theorem reflexive_ofParts {part : Json → Json → Prop} (self : ∀ tree, part tree tree) :
    (ofParts part).Reflexive where
  kind _ := rfl
  operator _ := rfl
  part := self
  formula _ := rfl

end Variation

variable {variation : Variation}

/-- Two properties whose names and initializers correspond. -/
structure PropertyAlike (variation : Variation) (property property' : Json) : Prop where
  kind : Option.Rel variation.kind (kindOf property) (kindOf property')
  name : Option.Rel variation.part (property.get? "name") (property'.get? "name")
  initializer : Option.Rel variation.part (property.get? "initializer")
    (property'.get? "initializer")

/-- The same field of two nodes, each of which may lack it, differs only as its role allows. -/
def Role.Alike (variation : Variation) : Role → Option Json → Option Json → Prop
  | expression, found, found' => Option.Rel variation.part found found'
  | expressions, found, found' =>
      Option.Rel (List.Forall₂ variation.part) (found.bind Json.array?) (found'.bind Json.array?)
  | properties, found, found' =>
      Option.Rel (List.Forall₂ (PropertyAlike variation)) (found.bind Json.array?)
        (found'.bind Json.array?)
  | operator, found, found' => Option.Rel variation.operator found found'
  | token, found, found' => Option.Rel variation.kind (found.bind kindOf) (found'.bind kindOf)
  | name, found, found' => found.bind identifierText = found'.bind identifierText
  | text, found, found' => found.bind Json.string? = found'.bind Json.string?
  | parameters, found, found' =>
      Option.Rel (List.Forall₂ variation.formula) (found.bind Json.array?)
        (found'.bind Json.array?)
  | body, found, found' => Option.Rel variation.formula found found'
  | unread, _, _ => True

theorem option_rel_self {α : Type} {relation : α → α → Prop} (self : ∀ value, relation value value)
    (found : Option α) : Option.Rel relation found found := by
  cases found with
  | none => exact .none
  | some value => exact .some (self value)

theorem option_rel_getD {α : Type} {relation : α → α → Prop} {found found' : Option α}
    (related : Option.Rel relation found found') {value : α} (self : relation value value) :
    relation (found.getD value) (found'.getD value) := by
  cases related with
  | none => exact self
  | some related => exact related

theorem option_rel_imp {α β : Type} {relation weaker : α → β → Prop} {found : Option α}
    {found' : Option β} (related : Option.Rel relation found found')
    (imp : ∀ value other, relation value other → weaker value other) :
    Option.Rel weaker found found' := by
  cases related with
  | none => exact .none
  | some related => exact .some (imp _ _ related)

theorem option_rel_bind {α β γ δ : Type} {relation : α → β → Prop} {images : γ → δ → Prop}
    {found : Option α} {found' : Option β} {next : α → Option γ} {next' : β → Option δ}
    (related : Option.Rel relation found found')
    (onward : ∀ value other, relation value other → Option.Rel images (next value) (next' other)) :
    Option.Rel images (found.bind next) (found'.bind next') := by
  cases related with
  | none => exact .none
  | some related => exact onward _ _ related

theorem option_bind_eq {α γ : Type} {relation : α → α → Prop} {found found' : Option α}
    {next : α → Option γ} (related : Option.Rel relation found found')
    (same : ∀ value other, relation value other → next value = next other) :
    found.bind next = found'.bind next := by
  cases related with
  | none => rfl
  | some related => exact same _ _ related

theorem propertyAlike_self (reflexive : variation.Reflexive) (property : Json) :
    PropertyAlike variation property property where
  kind := option_rel_self reflexive.kind _
  name := option_rel_self reflexive.part _
  initializer := option_rel_self reflexive.part _

theorem Role.alike_self (reflexive : variation.Reflexive) (role : Role) (found : Option Json) :
    role.Alike variation found found := by
  cases role with
  | expression => exact option_rel_self reflexive.part found
  | expressions =>
      refine option_rel_self (fun _ => List.forall₂_same.2 ?_) _
      exact fun element _ => reflexive.part element
  | properties =>
      refine option_rel_self (fun _ => List.forall₂_same.2 ?_) _
      exact fun property _ => propertyAlike_self reflexive property
  | operator => exact option_rel_self reflexive.operator found
  | token => exact option_rel_self reflexive.kind _
  | name | text => rfl
  | parameters =>
      refine option_rel_self (fun _ => List.forall₂_same.2 ?_) _
      exact fun parameter _ => reflexive.formula parameter
  | body => exact option_rel_self reflexive.formula found
  | unread => trivial

/-! ## Alike nodes -/

/-- Two nodes of one shape that differ only as a variation allows. -/
inductive Node.Alike (variation : Variation) : Node → Node → Prop
  | arrayLiteral {elements elements' : List Json} :
      List.Forall₂ variation.part elements elements' →
        Alike variation (arrayLiteral elements) (arrayLiteral elements')
  | objectLiteral {properties properties' : List Json} :
      List.Forall₂ (PropertyAlike variation) properties properties' →
        Alike variation (objectLiteral properties) (objectLiteral properties')
  | classDeclaration {members members' : List Json} :
      List.Forall₂ (PropertyAlike variation) members members' →
        Alike variation (classDeclaration members) (classDeclaration members')
  | identifier (name : String) : Alike variation (identifier name) (identifier name)
  | stringLiteral (text : String) : Alike variation (stringLiteral text) (stringLiteral text)
  | numericLiteral (text : String) : Alike variation (numericLiteral text) (numericLiteral text)
  | boolean (value : Bool) : Alike variation (boolean value) (boolean value)
  | null : Alike variation null null
  | this : Alike variation this this
  | prefixUnary {operator operator' operand operand' : Json} :
      variation.operator operator operator' → variation.part operand operand' →
        Alike variation (prefixUnary operator operand) (prefixUnary operator' operand')
  | binary {left left' right right' : Json} {token token' : String} :
      variation.part left left' → variation.kind token token' → variation.part right right' →
        Alike variation (binary left token right) (binary left' token' right')
  | wrapper {expression expression' : Json} :
      variation.part expression expression' →
        Alike variation (wrapper expression) (wrapper expression')
  | call {callee callee' : Json} {arguments arguments' : List Json} :
      variation.part callee callee' → List.Forall₂ variation.part arguments arguments' →
        Alike variation (call callee arguments) (call callee' arguments')
  | propertyAccess {expression expression' : Json} (name : String) :
      variation.part expression expression' →
        Alike variation (propertyAccess expression name) (propertyAccess expression' name)
  | elementAccess {expression expression' argument argument' : Json} :
      variation.part expression expression' → variation.part argument argument' →
        Alike variation (elementAccess expression argument) (elementAccess expression' argument')
  | template : Alike variation template template
  | arrowFunction {parameters parameters' : List Json} {body body' : Json} :
      List.Forall₂ variation.formula parameters parameters' → variation.formula body body' →
        Alike variation (arrowFunction parameters body) (arrowFunction parameters' body')

variable {errors : FoldError → FoldError → Prop}

theorem agrees_require {α β : Type} {relation : α → β → Prop} {kind kind' field : String}
    {found : Option α} {found' : Option β} (related : Option.Rel relation found found')
    (malformed : errors (.malformedNode kind field) (.malformedNode kind' field)) :
    Agrees relation errors (require kind field found) (require kind' field found') := by
  cases related with
  | none => exact .error malformed
  | some related => exact .ok related

theorem agrees_require_of_eq {α : Type} {kind kind' field : String} {found found' : Option α}
    (same : found = found')
    (malformed : errors (.malformedNode kind field) (.malformedNode kind' field)) :
    Agrees (· = ·) errors (require kind field found) (require kind' field found') :=
  agrees_require (same ▸ option_rel_self (fun _ => rfl) found) malformed

section Read

variable {tree tree' : Json} {kind kind' : String}

/-- Nodes whose fields differ only as their roles allow are alike. -/
theorem Node.read_alike {form : Form}
    (malformed : ∀ field, errors (.malformedNode kind field) (.malformedNode kind' field))
    (fields : ∀ key, (form.role key).Alike variation (tree.get? key) (tree'.get? key)) :
    Agrees (Node.Alike variation) errors (Node.read kind tree form)
      (Node.read kind' tree' form) := by
  have expression {key : String} (role : form.role key = .expression) :
      Agrees variation.part errors (requireField kind key tree) (requireField kind' key tree') := by
    have field := fields key
    rw [role] at field
    exact agrees_require field (malformed key)
  have text {key : String} (role : form.role key = .text) :
      Agrees (· = ·) errors (requireText kind key tree) (requireText kind' key tree') := by
    have field := fields key
    rw [role] at field
    exact agrees_require_of_eq field (malformed key)
  cases form with
  | arrayLiteral =>
      have elements := agrees_require (fields "elements") (malformed "elements")
      exact agrees_map elements fun _ _ => .arrayLiteral
  | objectLiteral =>
      have properties := agrees_require (fields "properties") (malformed "properties")
      exact agrees_map properties fun _ _ => .objectLiteral
  | classDeclaration =>
      have members := agrees_require (fields "members") (malformed "members")
      exact agrees_map members fun _ _ => .classDeclaration
  | identifier =>
      have same : identifierText tree = identifierText tree' :=
        congrArg (Option.map unescape) (fields "escapedText")
      refine agrees_map (agrees_require_of_eq same (malformed _)) ?_
      rintro name _ rfl
      exact .identifier name
  | stringLiteral =>
      refine agrees_map (text rfl) ?_
      rintro content _ rfl
      exact .stringLiteral content
  | numericLiteral =>
      refine agrees_map (text rfl) ?_
      rintro content _ rfl
      exact .numericLiteral content
  | trueKeyword | falseKeyword => exact .ok (.boolean _)
  | nullKeyword => exact .ok .null
  | thisKeyword => exact .ok .this
  | prefixUnary =>
      have operator := agrees_require (fields "operator") (malformed "operator")
      refine agrees_bind operator fun _ _ operators => ?_
      refine agrees_bind (expression rfl) fun _ _ operands => ?_
      exact .ok (.prefixUnary operators operands)
  | binary =>
      have token := agrees_require (fields "operatorToken") (malformed "operatorToken")
      refine agrees_bind (expression rfl) fun _ _ lefts => ?_
      refine agrees_bind token fun _ _ tokens => ?_
      refine agrees_bind (expression rfl) fun _ _ rights => ?_
      exact .ok (.binary lefts tokens rights)
  | wrapper => exact agrees_map (expression rfl) fun _ _ => .wrapper
  | call =>
      have arguments := agrees_require (fields "arguments") (malformed "arguments")
      refine agrees_bind (expression rfl) fun _ _ callees => ?_
      refine agrees_bind arguments fun _ _ arguments => ?_
      exact .ok (.call callees arguments)
  | propertyAccess =>
      refine agrees_bind (expression rfl) fun _ _ bases => ?_
      refine agrees_bind (agrees_require_of_eq (fields "name") (malformed "name")) ?_
      rintro name _ rfl
      exact .ok (.propertyAccess name bases)
  | elementAccess =>
      refine agrees_bind (expression rfl) fun _ _ bases => ?_
      refine agrees_bind (expression rfl) fun _ _ arguments => ?_
      exact .ok (.elementAccess bases arguments)
  | template => exact .ok .template
  | arrowFunction =>
      have parameters := agrees_require (fields "parameters") (malformed "parameters")
      have body := agrees_require (fields "body") (malformed "body")
      refine agrees_bind parameters fun _ _ parameters => ?_
      refine agrees_bind body fun _ _ bodies => ?_
      exact .ok (.arrowFunction parameters bodies)

/-- Nodes of one form whose fields differ only as their roles allow are alike. -/
theorem Node.ofJson_alike {form : Form} (isKind : tree.get? "kind" = some (.string kind))
    (isKind' : tree'.get? "kind" = some (.string kind')) (known : Form.ofKind? kind = some form)
    (known' : Form.ofKind? kind' = some form)
    (malformed : ∀ field, errors (.malformedNode kind field) (.malformedNode kind' field))
    (fields : ∀ key, (form.role key).Alike variation (tree.get? key) (tree'.get? key)) :
    Agrees (Node.Alike variation) errors (Node.ofJson tree) (Node.ofJson tree') := by
  simp only [Node.ofJson, isKind, isKind', known, known']
  exact read_alike malformed fields

/-- A tree has the shape of a node, or fails in a way that needs no table. -/
theorem Node.ofJson_alike_self (reflexive : variation.Reflexive)
    (literal : ∀ error : FoldError, error.IsLiteral → errors error error) (tree : Json) :
    Agrees (Node.Alike variation) errors (Node.ofJson tree) (Node.ofJson tree) := by
  unfold Node.ofJson
  split
  · split
    · refine read_alike (fun _ => literal _ trivial) ?_
      exact fun _ => Role.alike_self reflexive _ _
    · exact .error (literal _ trivial)
  all_goals exact .error (literal _ trivial)

end Read

/-! ## Alike trees -/

/-- Two trees that differ at their roots only as a variation allows. -/
inductive Json.Alike (variation : Variation) (errors : FoldError → FoldError → Prop) :
    Json → Json → Prop
  | leaf {data : Json} : data.IsLeaf → Alike variation errors data data
  | array {items items' : List Json} :
      List.Forall₂ variation.part items items' →
        Alike variation errors (.array items) (.array items')
  | node {entries entries' : List (String × Json)} :
      Agrees (Node.Alike variation) errors (Node.ofJson (.object entries))
        (Node.ofJson (.object entries')) →
          Alike variation errors (.object entries) (.object entries')

theorem Json.alike_self (reflexive : variation.Reflexive)
    (literal : ∀ error : FoldError, error.IsLiteral → errors error error) (tree : Json) :
    Json.Alike variation errors tree tree := by
  cases tree with
  | array items => exact .array (List.forall₂_same.2 fun item _ => reflexive.part item)
  | object entries => exact .node (Node.ofJson_alike_self reflexive literal _)
  | _ => exact .leaf trivial

end SyntaxFold
