import SyntaxFold.Reduction.Context

/-!
# Members, elements, keys and callees

The parts of the reduction rules that only look at values which are already reduced: the members
and elements of collections, the keys of mappings, the functions that callees stand for, and the
operators of prefix expressions.
-/

namespace SyntaxFold

/-- A member of a sequence: its length, or the function that maps over it. -/
def sequenceMember (items : List Value) (name : String) : Except FoldError Value :=
  match name with
  | "length" => .ok (.integer (Int64.ofNat items.length))
  | "map" => .ok (.function 0 (.mapItems items))
  | _ => .error (.unsupportedMember name .sequence)

/-- A member of a mapping: its length, or a function that returns the mapping. The latter ends
chains of calls that build a mapping by name, which is already complete here. -/
def mappingMember (entries : List (String × Value)) (name : String) : Except FoldError Value :=
  match name with
  | "length" => .ok (.integer (Int64.ofNat entries.length))
  | "concat" | "reduce" => .ok (.function 0 (.constant name entries))
  | _ => .error (.unsupportedMember name .mapping)

/-- An element of a collection: of a sequence by position, of a mapping by key. -/
def elementOf (base index : Value) : Except FoldError Value :=
  let inMapping (entries : List (String × Value)) : Except FoldError Value :=
    match Entries.get? index.display entries with
    | some value => .ok value
    | none => .error (.propertyNotFound index.display "mapping")
  match base, index with
  | .sequence items, .integer position =>
    match if 0 ≤ position.toInt then items[position.toInt.toNat]? else none with
    | some value => .ok value
    | none => .error (.indexOutOfBounds position items.length)
  | .mapping entries, .string _ => inMapping entries
  | .mapping entries, .integer _ => inMapping entries
  | _, _ => .error (.invalidOperands "[]" base.type index.type)

/-- The key that a reduced property name gives. -/
def keyOf (kind : String) (name : Value) : Except FoldError String :=
  match name with
  | .string _ | .integer _ | .float _ => .ok name.display
  | _ => .error (.malformedNode kind "name")

/-- The function that a reduced callee stands for. A text is the name of a registered function. -/
def functionOf (registry : Registry) (callee : Value) : Except FoldError Callable :=
  match callee with
  | .function _ body => .ok body
  | .string name =>
    match registry.get? name with
    | some function => .ok function
    | none => .error (.notCallable (.unresolvedName name))
  | other => .error (.notCallable (.ofType other.type))

/-- The name of a prefix operator. It is given by name or by a code, since normalization names only
the codes under `kind`. -/
def prefixOperator (kinds : KindTable) (operator : Json) : Except FoldError String :=
  match operator with
  | .string name => .ok name
  | _ =>
    match operator.int64? with
    | some code => kinds.name code
    | none => .error (.malformedNode "PrefixUnaryExpression" "operator")

/-- Accepts the one prefix operator that is folded, the minus. -/
def requireMinus (kinds : KindTable) (operator : Json) : Except FoldError Unit :=
  match prefixOperator kinds operator with
  | .ok "MinusToken" => .ok ()
  | .ok name => .error (.unimplementedOperator name .unary)
  | .error error => .error error

/-- A number in data. -/
def Value.ofInteger (number : Int) : Value :=
  match Numeral.int64OfInt? number with
  | some whole => .integer whole
  | none => .number (Float.ofInt number)

end SyntaxFold
