/-!
# What can go wrong in a reduction

Every failure is a cause: a constructor of `FoldError` that holds what a reader of the message needs
to find the place. `FoldError.message` gives the wording. All failures are final; nothing is ever
put in the place of a node that cannot be reduced.
-/

namespace SyntaxFold

/-- The type of a value, as messages name it. -/
inductive ValueType where
  | null
  | boolean
  | integer
  | float
  | string
  | sequence
  | mapping
  | function
  | node
  deriving DecidableEq, Repr

/-- The name of a type. -/
def ValueType.name : ValueType → String
  | null => "null"
  | boolean => "boolean"
  | integer => "integer"
  | float => "float"
  | string => "string"
  | sequence => "sequence"
  | mapping => "mapping"
  | function => "function"
  | node => "unresolved node"

/-- Whether an operator stands before its operand or between two. -/
inductive OperatorForm where
  | unary
  | binary
  deriving DecidableEq, Repr

/-- The name of a form. -/
def OperatorForm.name : OperatorForm → String
  | unary => "unary"
  | binary => "binary"

/-- What a callee turned out to be instead of a function. -/
inductive CalleeFault where
  | ofType (type : ValueType)
  | unresolvedName (name : String)
  deriving DecidableEq, Repr

/-- The description of a callee that is not a function. -/
def CalleeFault.description : CalleeFault → String
  | ofType type => type.name
  | unresolvedName name => "unresolved name `" ++ name ++ "`"

/-- Why a function literal is not a known formula. -/
inductive FormulaFault where
  | parameterCount (count : Nat)
  | unnamedParameter
  | notProduct
  | noLogarithm (parameter : String)
  | scaleNotNumber
  deriving DecidableEq, Repr

/-- The description of an unknown formula. -/
def FormulaFault.description : FormulaFault → String
  | parameterCount count => "expected exactly one parameter, found " ++ count.repr
  | unnamedParameter => "parameter is not a plain identifier"
  | notProduct => "body is not a product"
  | noLogarithm parameter => "body is not `k * Math.log(" ++ parameter ++ ")`"
  | scaleNotNumber => "scale factor is not a number"

/-- Why a function that was called gave no value. -/
inductive CallFault where
  | expectedNumber (got : ValueType)
  | expectedSequence (got : ValueType)
  | elementNotMapping (index : Nat)
  | elementNameOfType (index : Nat) (type : ValueType)
  | elementNameless (index : Nat)
  | silentWave (wave : String)
  | refused (arguments : Nat)
  deriving DecidableEq, Repr

/-- The description of a failed call. -/
def CallFault.description : CallFault → String
  | expectedNumber got => "expected a number, got " ++ got.name
  | expectedSequence got => "expected a sequence, got " ++ got.name
  | elementNotMapping index => "element " ++ index.repr ++ " is not a mapping"
  | elementNameOfType index type =>
    "element " ++ index.repr ++ " has a " ++ type.name ++ " `name`"
  | elementNameless index => "element " ++ index.repr ++ " has no `name` field"
  | silentWave wave => "wave `" ++ wave ++ "` has no nonzero samples to normalize"
  | refused arguments => "called with " ++ arguments.repr

/-- Why a tree was not normalized, a node not reduced, or a declaration not found. -/
inductive FoldError where
  /-- The node is of a kind that is never reduced. -/
  | unrecognizedKind (kind : String)
  | unimplementedOperator (token : String) (form : OperatorForm)
  | notCallable (found : CalleeFault)
  | propertyNotFound (property scope : String)
  | scopeNotFound (scope : String)
  | declarationNotFound (kind name : String)
  | unsupportedMember (member : String) (type : ValueType)
  | unknownKindCode (code : Int64)
  /-- The node lacks a field that its kind requires. -/
  | malformedNode (kind field : String)
  | invalidOperands (symbol : String) (left right : ValueType)
  | invalidOperand (token : String) (operand : ValueType)
  | invalidNumber (text : String)
  /-- The node never has a value, although its kind is known. -/
  | unreducible (kind : String)
  | unsupportedFunction (reason : FormulaFault)
  | indexOutOfBounds (index : Int64) (length : Nat)
  | arityMismatch (name : String) (expected got : Nat)
  | callFailed (name : String) (reason : CallFault)
  /-- More lookups and calls were in progress at once than the limit allows. -/
  | depthExceeded (limit : Nat)
  deriving DecidableEq

/-- The text of an error. -/
def FoldError.message : FoldError → String
  | unrecognizedKind kind => "unrecognized node kind `" ++ kind ++ "`"
  | unimplementedOperator token form =>
    "unimplemented " ++ form.name ++ " operator `" ++ token ++ "`"
  | notCallable found =>
    "call target is not callable: expected a function, found " ++ found.description
  | propertyNotFound property scope =>
    "property `" ++ property ++ "` not found in `" ++ scope ++ "`"
  | scopeNotFound scope => "scope `" ++ scope ++ "` is not in the symbol table"
  | declarationNotFound kind name => kind ++ " `" ++ name ++ "` not found"
  | unsupportedMember member type =>
    "unsupported member operation `" ++ member ++ "` on " ++ type.name
  | unknownKindCode code =>
    "syntax kind code " ++ code.toInt.repr ++ " is missing from the kind table"
  | malformedNode kind field =>
    "malformed `" ++ kind ++ "` node: missing or invalid `" ++ field ++ "`"
  | invalidOperands symbol left right =>
    "cannot apply `" ++ symbol ++ "` to " ++ left.name ++ " and " ++ right.name
  | invalidOperand token operand => "cannot apply `" ++ token ++ "` to " ++ operand.name
  | invalidNumber text => "invalid numeric literal `" ++ text ++ "`"
  | unreducible kind => "`" ++ kind ++ "` cannot be reduced to a literal"
  | unsupportedFunction reason => "unsupported function literal: " ++ reason.description
  | indexOutOfBounds index length =>
    "index " ++ index.toInt.repr ++ " out of bounds for sequence of length " ++ length.repr
  | arityMismatch name expected got =>
    "`" ++ name ++ "` expects " ++ expected.repr ++ " argument(s), got " ++ got.repr
  | callFailed name reason => "`" ++ name ++ "` failed: " ++ reason.description
  | depthExceeded limit => "evaluation exceeded maximum depth of " ++ limit.repr

end SyntaxFold
