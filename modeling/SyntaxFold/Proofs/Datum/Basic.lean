import SyntaxFold.Value.Data

/-!
# Plain data

A datum is what can be written down without computing anything: null, truth values, integers of 64
bits, texts, arrays and ordered mappings. It is a value, and it is JSON data; writing the value as
data gives that JSON data.
-/

namespace SyntaxFold

/-- Plain data. -/
inductive Datum where
  | null
  | bool (value : Bool)
  | integer (value : Int64)
  | text (value : String)
  | array (items : List Datum)
  | mapping (entries : List (String × Datum))

namespace Datum

mutual

/-- A datum as a value. -/
def value : Datum → Value
  | null => .null
  | bool value => .bool value
  | integer value => .integer value
  | text value => .string value
  | array items => .sequence (itemValues items)
  | mapping entries => .mapping (entryValues entries)

/-- The items of an array as values. -/
def itemValues : List Datum → List Value
  | [] => []
  | item :: rest => value item :: itemValues rest

/-- The entries of a mapping with their data as values. -/
def entryValues : List (String × Datum) → List (String × Value)
  | [] => []
  | (key, datum) :: rest => (key, value datum) :: entryValues rest

end

mutual

/-- A datum as JSON data. -/
def json : Datum → Json
  | null => .null
  | bool value => .bool value
  | integer value => .integer value.toInt
  | text value => .string value
  | array items => .array (itemsJson items)
  | mapping entries => .object (entriesJson entries)

/-- The items of an array as JSON data. -/
def itemsJson : List Datum → List Json
  | [] => []
  | item :: rest => json item :: itemsJson rest

/-- The entries of a mapping with their data as JSON data. -/
def entriesJson : List (String × Datum) → List (String × Json)
  | [] => []
  | (key, datum) :: rest => (key, json datum) :: entriesJson rest

end

mutual

/-- In every mapping of a datum each key occurs once. -/
def KeysDistinct : Datum → Prop
  | array items => ItemsDistinct items
  | mapping entries => (entries.map Prod.fst).Nodup ∧ EntriesDistinct entries
  | _ => True

/-- The keys inside each item are distinct. -/
def ItemsDistinct : List Datum → Prop
  | [] => True
  | item :: rest => KeysDistinct item ∧ ItemsDistinct rest

/-- The keys inside the datum of each entry are distinct. -/
def EntriesDistinct : List (String × Datum) → Prop
  | [] => True
  | (_, datum) :: rest => KeysDistinct datum ∧ EntriesDistinct rest

end

theorem keys_entryValues (entries : List (String × Datum)) :
    (entryValues entries).map Prod.fst = entries.map Prod.fst := by
  induction entries with
  | nil => rfl
  | cons entry rest ih => simp only [entryValues, List.map_cons, ih]

mutual

/-- The value of a datum is written as the datum. -/
theorem toJson_value (datum : Datum) : datum.value.toJson = .ok datum.json := by
  match datum with
  | null | bool _ | integer _ | text _ => rfl
  | array items => simp [value, Value.toJson, itemsToJson_itemValues items, json, Except.map]
  | mapping entries =>
      simp [value, Value.toJson, entriesToJson_entryValues entries, json, Except.map]
termination_by structural datum

theorem itemsToJson_itemValues (items : List Datum) :
    Value.itemsToJson (itemValues items) = .ok (itemsJson items) := by
  match items with
  | [] => rfl
  | item :: rest =>
      simp only [itemValues, Value.itemsToJson, toJson_value item, itemsToJson_itemValues rest]
      rfl
termination_by structural items

theorem entriesToJson_entryValues (entries : List (String × Datum)) :
    Value.entriesToJson (entryValues entries) = .ok (entriesJson entries) := by
  match entries with
  | [] => rfl
  | (key, datum) :: rest =>
      simp only [entryValues, Value.entriesToJson, toJson_value datum,
        entriesToJson_entryValues rest]
      rfl
termination_by structural entries

end

end Datum

end SyntaxFold
