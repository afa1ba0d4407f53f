import SyntaxFold.Value.Basic

/-!
# Scopes

A declaration group is a named list of members, each bound to a syntax node or to a value that is
known beforehand. A symbol table maps scope names to groups. Looking up a name in a group finds the
first member of that name; putting a group into a table replaces the one under the same name.
-/

namespace SyntaxFold

/-- The scope name that `this` stands for. -/
def selfScope : String := "this"

/-- What a member is bound to. -/
inductive Initializer where
  /-- A node, which is reduced whenever the member is looked up. -/
  | node (tree : Json)
  /-- A value that is known beforehand. -/
  | native (value : Value)

/-- A named list of members. Names may repeat; the first member of a name is the one found. -/
structure Group where
  name : String
  members : List (String × Initializer)

namespace Group

/-- What the first member of the given name is bound to. -/
def lookup (group : Group) (property : String) : Except FoldError Initializer :=
  match Entries.get? property group.members with
  | some initializer => .ok initializer
  | none => .error (.propertyNotFound property group.name)

/-- The functions of the `Math` scope. -/
def mathFunctions : List (String × Callable) :=
  [("abs", .unaryMath .abs), ("ceil", .unaryMath .ceil), ("floor", .unaryMath .floor),
    ("round", .unaryMath .round), ("trunc", .unaryMath .trunc), ("sqrt", .unaryMath .sqrt),
    ("cbrt", .unaryMath .cbrt), ("exp", .unaryMath .exp), ("log", .unaryMath .log),
    ("log2", .unaryMath .log2), ("log10", .unaryMath .log10), ("sin", .unaryMath .sin),
    ("cos", .unaryMath .cos), ("tan", .unaryMath .tan), ("sign", .unaryMath .sign),
    ("pow", .binaryMath .pow), ("atan2", .binaryMath .atan2), ("hypot", .binaryMath .hypot),
    ("min", .extremum .min), ("max", .extremum .max)]

/-- The `Math` scope. -/
def math : Group where
  name := "Math"
  members := mathFunctions.map fun (name, function) => (name, .native (.function 0 function))

end Group

/-- A mapping from scope names to groups, each name once. -/
structure SymbolTable where
  scopes : List (String × Group)

namespace SymbolTable

/-- The table without scopes. -/
def empty : SymbolTable := ⟨[]⟩

/-- Puts a group under a scope name, in place of the group that may be there. -/
def insertAs (table : SymbolTable) (scope : String) (group : Group) : SymbolTable :=
  ⟨Entries.insert scope group table.scopes⟩

/-- Puts a group under its own name. -/
def insert (table : SymbolTable) (group : Group) : SymbolTable :=
  table.insertAs group.name group

/-- The group under a scope name. -/
def get (table : SymbolTable) (scope : String) : Except FoldError Group :=
  match Entries.get? scope table.scopes with
  | some group => .ok group
  | none => .error (.scopeNotFound scope)

/-- Whether there is a group under a scope name. -/
def contains (table : SymbolTable) (scope : String) : Bool :=
  Entries.contains scope table.scopes

/-- How many scopes there are. -/
def size (table : SymbolTable) : Nat := table.scopes.length

/-- Whether there are no scopes. -/
def isEmpty (table : SymbolTable) : Bool := table.scopes.isEmpty

/-- What a property of a scope is bound to. -/
def lookup (table : SymbolTable) (scope property : String) : Except FoldError Initializer :=
  match table.get scope with
  | .ok group => group.lookup property
  | .error error => .error error

end SymbolTable

end SyntaxFold
