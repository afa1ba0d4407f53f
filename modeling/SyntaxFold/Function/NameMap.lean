import SyntaxFold.Value.Basic

/-!
# Records by name

`toNameMap` turns a sequence of records into a mapping. Each record is entered under its field
`name`, which is taken out of the record. When two records have the same name, the first one gives
the position and the last one the value.
-/

namespace SyntaxFold.NameMap

/-- A record with its name taken out. -/
def entryOf (index : Nat) (record : Value) : Except CallFault (String × Value) :=
  match record with
  | .mapping fields =>
    match Entries.get? "name" fields with
    | some (.string name) => .ok (name, .mapping (Entries.remove "name" fields))
    | some other => .error (.elementNameOfType index other.type)
    | none => .error (.elementNameless index)
  | _ => .error (.elementNotMapping index)

/-- The records of a sequence with their names taken out, counted from the given index. -/
def entriesFrom (index : Nat) : List Value → Except CallFault (List (String × Value))
  | [] => .ok []
  | record :: rest => do
    let entry ← entryOf index record
    let rest ← entriesFrom (index + 1) rest
    return entry :: rest

/-- The mapping of a sequence of records. -/
def ofValue (argument : Value) : Except CallFault Value :=
  match argument with
  | .sequence records =>
    (entriesFrom 0 records).map fun entries => .mapping (Entries.ofPairs entries)
  | other => .error (.expectedSequence other.type)

end SyntaxFold.NameMap
