import SyntaxFold.Node.Text
import SyntaxFold.Scope

/-!
# Declarations

Finding classes, enumerations, variables and properties in a normalized tree, and making declaration
groups of classes and enumerations. A search for a kind goes through the whole tree in document
order; a search for a name looks only at the top-level statements of a source file.
-/

namespace SyntaxFold

namespace Json

mutual

/-- The first object of the given kind, in document order: an object comes before what it
contains. -/
def firstOfKind? (kind : String) : Json → Option Json
  | array items => firstInItems? kind items
  | object entries =>
    if kindOf (object entries) = some kind then some (object entries)
    else firstInEntries? kind entries
  | _ => none

/-- The first object of the given kind in an array. -/
def firstInItems? (kind : String) : List Json → Option Json
  | [] => none
  | item :: rest =>
    match firstOfKind? kind item with
    | some found => some found
    | none => firstInItems? kind rest

/-- The first object of the given kind among the values of an object. -/
def firstInEntries? (kind : String) : List (String × Json) → Option Json
  | [] => none
  | (_, value) :: rest =>
    match firstOfKind? kind value with
    | some found => some found
    | none => firstInEntries? kind rest

end

end Json

namespace Declaration

/-- The top-level statements of a source file. -/
def statements (sourceFile : Json) : Except FoldError (List Json) :=
  requireArray "SourceFile" "statements" sourceFile

/-- The first top-level statement of the given kind and name. -/
def findStatement (kind label name : String) (sourceFile : Json) : Except FoldError Json := do
  let statements ← statements sourceFile
  let wanted (node : Json) : Bool :=
    kindOf node == some kind && declarationName node == some name
  match statements.find? wanted with
  | some node => .ok node
  | none => .error (.declarationNotFound label name)

/-- The top-level class of the given name. -/
def findClass (name : String) : Json → Except FoldError Json :=
  findStatement "ClassDeclaration" "class" name

/-- The top-level enumeration of the given name. -/
def findEnum (name : String) : Json → Except FoldError Json :=
  findStatement "EnumDeclaration" "enum" name

/-- The bindings that a statement declares, none unless it declares variables. -/
def bindings (statement : Json) : List Json :=
  if kindOf statement = some "FirstStatement" ∨ kindOf statement = some "VariableStatement" then
    (((statement.get? "declarationList").bind (Json.get? "declarations")).bind
      Json.array?).getD []
  else []

/-- The initializer of the top-level variable of the given name. -/
def findVariable (name : String) (sourceFile : Json) : Except FoldError Json := do
  let statements ← statements sourceFile
  match (statements.flatMap bindings).find? fun node => declarationName node == some name with
  | some declaration => requireField "VariableDeclaration" "initializer" declaration
  | none => .error (.declarationNotFound "variable" name)

/-- The property declarations of a class. -/
def propertyDeclarations (members : Json) : List Json :=
  (members.array?.getD []).filter fun member => kindOf member == some "PropertyDeclaration"

/-- The initializer of the first property declaration of the given name in a class. -/
def propertyOfClass (property : String) (classNode : Json) : Except FoldError Json := do
  let scope := (declarationName classNode).getD "<anonymous class>"
  let members ← requireField "ClassDeclaration" "members" classNode
  let declaration := (propertyDeclarations members).find? fun member =>
    declarationName member == some property
  match declaration.bind (Json.get? "initializer") with
  | some initializer => .ok initializer
  | none => .error (.propertyNotFound property scope)

end Declaration

namespace Group

/-- The name and initializer of a property declaration that has both. -/
def memberOfProperty? (declaration : Json) : Option (String × Initializer) :=
  match declarationName declaration, declaration.get? "initializer" with
  | some name, some initializer => some (name, .node initializer)
  | _, _ => none

/-- The group of a class: its property declarations that have a plain name and an initializer. -/
def ofClass (classNode : Json) : Except FoldError Group := do
  let name ← require "ClassDeclaration" "name" (declarationName classNode)
  let members ← requireField "ClassDeclaration" "members" classNode
  return ⟨name, (Declaration.propertyDeclarations members).filterMap memberOfProperty?⟩

/-- A member of an enumeration, which is bound to its own name. -/
def memberOfEnum (member : Json) : Except FoldError (String × Initializer) := do
  let nameNode ← requireField "EnumMember" "name" member
  let name ← require "EnumMember" "name" (identifierText nameNode)
  return (name, .node nameNode)

/-- The group of an enumeration, all of whose members must have plain names. -/
def ofEnum (enumNode : Json) : Except FoldError Group := do
  let name ← require "EnumDeclaration" "name" (declarationName enumNode)
  let members ← requireField "EnumDeclaration" "members" enumNode
  let members ← (members.array?.getD []).mapM memberOfEnum
  return ⟨name, members⟩

end Group

end SyntaxFold
