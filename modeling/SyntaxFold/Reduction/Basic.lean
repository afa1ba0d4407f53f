import SyntaxFold.Formula
import SyntaxFold.Operator
import SyntaxFold.Reduction.Member
import SyntaxFold.Value.Data

/-!
# Reduction

A reduction turns a node into a value, lets it through, or fails. Without resolving, calls,
accesses and templates are let through as they are, and nothing but the kind table is consulted.
With resolving, `this` and plain names are scope names, a member access on a name is a lookup, and
calls are carried out. Bare data, as opposed to nodes, is its own value.

`Environment.reduceWith` holds the rules. Each rule reduces smaller parts of its node in order and
stops at the first failure. What lies inside a call, or behind a lookup, is reduced by the function
`inside` that the rules are given; `Environment.reduceWithin` ties the knot by applying the rules
to themselves as often as the limit on lookups and calls allows. So reduction ends on cyclic
scopes, too.
-/

-- Equations that are named in a `match` are used only by the proofs of termination.
set_option linter.unusedVariables false

namespace SyntaxFold

variable [Host]

namespace Environment

/-- The value of a property of a scope. A node that the property is bound to is reduced inside the
lookup. -/
def memberWith (environment : Environment) (inside : Json → Except FoldError Value)
    (scope property : String) : Except FoldError Value :=
  match environment.scopes.lookup scope property with
  | .error error => .error error
  | .ok (.native value) => .ok value
  | .ok (.node tree) => inside tree

/-- The value of a call, whose parts are reduced inside of it: first the callee, then the
arguments in order. -/
def callWith (environment : Environment) (inside : Json → Except FoldError Value)
    (callee : Json) (arguments : List Json) : Except FoldError Value := do
  let target ← inside callee
  let arguments ← arguments.mapM inside
  let function ← functionOf environment.registry target
  function.call arguments

/-- The value of a member access on a value. A text is a scope name. -/
def accessWith (environment : Environment) (inside : Json → Except FoldError Value)
    (base : Value) (name : String) : Except FoldError Value :=
  match base with
  | .string scope => environment.memberWith inside scope name
  | .sequence items => sequenceMember items name
  | .mapping entries => mappingMember entries name
  | other => .error (.unsupportedMember name other.type)

mutual

/-- The value of a node or of bare data. -/
def reduceWith (environment : Environment) (inside : Json → Except FoldError Value)
    (mode : Mode) (data : Json) : Except FoldError Value :=
  match data with
  | .null => .ok .null
  | .bool value => .ok (.bool value)
  | .integer value => .ok (.ofInteger value)
  | .float value => .ok (.number value)
  | .string text => .ok (.string text)
  | .array items => (reduceAllWith environment inside mode.nested items).map .sequence
  | .object entries =>
    match shape : Node.ofJson (.object entries) with
    | .error error => .error error
    | .ok (.arrayLiteral elements) =>
      if mode.shallow then .ok (.sequence (elements.map .node))
      else (reduceAllWith environment inside mode.nested elements).map .sequence
    | .ok (.objectLiteral properties) =>
      (reducePropertiesWith environment inside mode "ObjectLiteralExpression" properties).map
        fun pairs => .mapping (Entries.ofPairs pairs)
    | .ok (.classDeclaration members) =>
      (reducePropertiesWith environment inside mode "ClassDeclaration" members).map
        fun pairs => .mapping (Entries.ofPairs pairs)
    | .ok (.identifier name) => .ok (.string name)
    | .ok (.stringLiteral text) => .ok (.string text)
    | .ok (.numericLiteral text) => Value.ofNumeral text
    | .ok (.boolean value) => .ok (.bool value)
    | .ok .null => .ok .null
    | .ok (.prefixUnary operator operand) => do
      requireMinus environment.kinds operator
      let value ← reduceWith environment inside mode.nested operand
      value.negate
    | .ok (.binary left token right) =>
      match BinaryOperator.ofToken? token with
      | none => .error (.unimplementedOperator token .binary)
      | some operator => do
        let left ← reduceWith environment inside mode.nested left
        let right ← reduceWith environment inside mode.nested right
        operator.apply left right
    | .ok (.wrapper expression) => reduceWith environment inside mode.nested expression
    | .ok (.arrowFunction parameters body) =>
      match recognized : Formula.recognize parameters body with
      | .error fault => .error (.unsupportedFunction fault)
      | .ok (base, factor) => do
        let scale ← reduceWith environment inside .literal factor
        match scale.float? with
        | some number => .ok (.function 0 (.logarithm base number))
        | none => .error (.unsupportedFunction .scaleNotNumber)
    | .ok .this =>
      if mode.resolving then .ok (.string selfScope)
      else .error (.unrecognizedKind "ThisKeyword")
    | .ok .template =>
      if mode.resolving then .error (.unreducible "TemplateExpression")
      else .ok (.node (.object entries))
    | .ok (.call callee arguments) =>
      if mode.resolving then environment.callWith inside callee arguments
      else .ok (.node (.object entries))
    | .ok (.propertyAccess expression name) =>
      if mode.resolving then do
        let base ← reduceWith environment inside mode.nested expression
        environment.accessWith inside base name
      else .ok (.node (.object entries))
    | .ok (.elementAccess expression argument) =>
      if mode.resolving then do
        let base ← reduceWith environment inside mode.nested expression
        let index ← reduceWith environment inside mode.nested argument
        elementOf base index
      else .ok (.node (.object entries))
termination_by sizeOf data
decreasing_by
  · simp only [Json.array.sizeOf_spec]; omega
  · exact Node.fits_of_ofJson shape
  · exact Node.fits_of_ofJson shape
  · exact Node.fits_of_ofJson shape
  · exact Node.fits_of_ofJson shape
  · exact (Node.fits_of_ofJson shape).1
  · exact (Node.fits_of_ofJson shape).2
  · exact Node.fits_of_ofJson shape
  · exact Nat.lt_trans (Formula.sizeOf_lt_of_recognize recognized) (Node.fits_of_ofJson shape)
  · exact Node.fits_of_ofJson shape
  · exact (Node.fits_of_ofJson shape).1
  · exact (Node.fits_of_ofJson shape).2

/-- The values of nodes, in order. -/
def reduceAllWith (environment : Environment) (inside : Json → Except FoldError Value)
    (mode : Mode) (nodes : List Json) : Except FoldError (List Value) :=
  match nodes with
  | [] => .ok []
  | node :: rest => do
    let value ← reduceWith environment inside mode node
    let values ← reduceAllWith environment inside mode rest
    return value :: values
termination_by sizeOf nodes

/-- The keys and values of properties, in order. A shallow reduction leaves the values as they
are. -/
def reducePropertiesWith (environment : Environment) (inside : Json → Except FoldError Value)
    (mode : Mode) (kind : String) (properties : List Json) :
    Except FoldError (List (String × Value)) :=
  match properties with
  | [] => .ok []
  | property :: rest =>
    let kindHere := (kindOf property).getD kind
    match named : requireField kindHere "name" property with
    | .error error => .error error
    | .ok name => do
      let nameValue ← reduceWith environment inside mode.nested name
      let key ← keyOf kindHere nameValue
      match initialized : requireField kindHere "initializer" property with
      | .error error => .error error
      | .ok initializer => do
        let value ←
          (if mode.shallow then .ok (.node initializer)
            else reduceWith environment inside mode.nested initializer)
        let pairs ← reducePropertiesWith environment inside mode kind rest
        return (key, value) :: pairs
termination_by sizeOf properties
decreasing_by
  · have := sizeOf_lt_of_requireField named
    simp only [List.cons.sizeOf_spec]; omega
  · have := sizeOf_lt_of_requireField initialized
    simp only [List.cons.sizeOf_spec]; omega
  · simp only [List.cons.sizeOf_spec]; omega

end

/-- Reduction inside a lookup or call when the given number of further ones, this one included, may
be in progress. There everything is resolved. -/
def reduceWithin (environment : Environment) (limit : Nat) :
    (remaining : Nat) → Json → Except FoldError Value
  | 0, _ => .error (.depthExceeded limit)
  | remaining + 1, data =>
    environment.reduceWith (environment.reduceWithin limit remaining) .resolve data

end Environment

namespace Context

/-- The reduction of what lies inside the lookups and calls of a context. -/
def inside (context : Context) : Json → Except FoldError Value :=
  context.environment.reduceWithin context.maxDepth context.remaining

/-- The value of a node or of bare data. -/
def reduce (context : Context) (data : Json) : Except FoldError Value :=
  context.environment.reduceWith context.inside context.mode data

/-- The value of a property of a scope. -/
def member (context : Context) (scope property : String) : Except FoldError Value :=
  context.environment.memberWith context.inside scope property

/-- The value of a prefix operator on a node. -/
def reducePrefix (context : Context) (operator operand : Json) : Except FoldError Value := do
  requireMinus context.environment.kinds operator
  let value ← context.nested.reduce operand
  value.negate

end Context

end SyntaxFold
