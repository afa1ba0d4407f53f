import SyntaxFold.Error
import SyntaxFold.Json.Basic

/-!
# Kind tables

A parser marks every node with an integer code for its kind. A kind table gives each code its
name. A table is made from a list of pairs, where the first name of a code counts, or from the dump
of an enumeration, an object that maps codes to names and names to codes, where the last one
counts.
-/

namespace SyntaxFold

/-- The names of kind codes, each code once. -/
structure KindTable where
  entries : List (Int64 × String)

namespace KindTable

/-- The table that knows no code. -/
def empty : KindTable := ⟨[]⟩

/-- Gives a code a name unless it has one. -/
def addMissing (table : KindTable) (code : Int64) (name : String) : KindTable :=
  if Entries.contains code table.entries then table else ⟨table.entries ++ [(code, name)]⟩

/-- Gives a code a name, in place of the one it may have. -/
def set (table : KindTable) (code : Int64) (name : String) : KindTable :=
  ⟨Entries.insert code name table.entries⟩

/-- The table of a list of pairs; the first name of a code counts. -/
def ofPairs (pairs : List (Int64 × String)) : KindTable :=
  pairs.foldl (fun table pair => table.addMissing pair.1 pair.2) empty

/-- The code and name in an entry of a dump: the key is the text of a 64-bit integer and the value
is a string. The other half of a dump, from names to codes, has no such entries. -/
def dumpPair? : String × Json → Option (Int64 × String)
  | (key, .string name) => (Numeral.int64? key.toList).map fun code => (code, name)
  | _ => none

/-- The table of the dump of an enumeration; the last name of a code counts. -/
def ofDump (dump : Json) : Except FoldError KindTable :=
  match dump with
  | .object entries =>
    .ok ((entries.filterMap dumpPair?).foldl (fun table pair => table.set pair.1 pair.2) empty)
  | _ => .error (.malformedNode "SyntaxKind" "entries")

/-- The name of a code. -/
def name? (table : KindTable) (code : Int64) : Option String := Entries.get? code table.entries

/-- The name of a code, which must be known. -/
def name (table : KindTable) (code : Int64) : Except FoldError String :=
  match table.name? code with
  | some name => .ok name
  | none => .error (.unknownKindCode code)

/-- How many codes are known. -/
def size (table : KindTable) : Nat := table.entries.length

/-- Whether no code is known. -/
def isEmpty (table : KindTable) : Bool := table.entries.isEmpty

end KindTable

end SyntaxFold
