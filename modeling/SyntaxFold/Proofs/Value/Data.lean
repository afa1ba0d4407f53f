import SyntaxFold.Proofs.Nesting
import SyntaxFold.Proofs.Value.Everywhere
import SyntaxFold.Value.Data

/-!
# Which values are data

Only a function keeps a value from being written as data. `Value.functions` lists the functions in
the sequences and mappings of a value, in order; writing fails exactly if there is one, with the
name of the first.
-/

namespace SyntaxFold.Value

open Outcome

mutual

/-- The functions in the sequences and mappings of a value, in order. -/
def functions : Value → List Callable
  | sequence items => itemFunctions items
  | mapping entries => entryFunctions entries
  | function _ body => [body]
  | _ => []

/-- The functions in the items of a sequence. -/
def itemFunctions : List Value → List Callable
  | [] => []
  | item :: rest => item.functions ++ itemFunctions rest

/-- The functions in the values of entries. -/
def entryFunctions : List (String × Value) → List Callable
  | [] => []
  | (_, value) :: rest => value.functions ++ entryFunctions rest

end

/-- The error of writing a value whose functions are the given ones. -/
def firstFunction? (functions : List Callable) : Option FunctionInData :=
  functions.head?.map fun function => ⟨function.name⟩

theorem firstFunction?_append (functions others : List Callable) :
    firstFunction? (functions ++ others) =
      (firstFunction? functions).or (firstFunction? others) := by
  cases functions <;> rfl

mutual

/-- Writing a value fails with the name of its first function, if it has one. -/
theorem error?_toJson (value : Value) : error? value.toJson = firstFunction? value.functions := by
  match value with
  | sequence items => rw [toJson, functions, error?_map, error?_itemsToJson items]
  | mapping entries => rw [toJson, functions, error?_map, error?_entriesToJson entries]
  | function _ _ => simp [toJson, functions, firstFunction?, error?]
  | null | bool _ | integer _ | float _ | string _ | node _ =>
      simp [toJson, functions, firstFunction?]
termination_by structural value

theorem error?_itemsToJson (items : List Value) :
    error? (itemsToJson items) = firstFunction? (itemFunctions items) := by
  match items with
  | [] => rfl
  | item :: rest =>
      rw [itemsToJson, itemFunctions, firstFunction?_append, ← error?_toJson item,
        ← error?_itemsToJson rest]
      apply error?_bind
      intro data _
      cases itemsToJson rest <;> rfl
termination_by structural items

theorem error?_entriesToJson (entries : List (String × Value)) :
    error? (entriesToJson entries) = firstFunction? (entryFunctions entries) := by
  match entries with
  | [] => rfl
  | (key, value) :: rest =>
      rw [entriesToJson, entryFunctions, firstFunction?_append, ← error?_toJson value,
        ← error?_entriesToJson rest]
      apply error?_bind
      intro data _
      cases entriesToJson rest <;> rfl
termination_by structural entries

end

/-- Writing fails exactly if there are functions. -/
theorem toJson_eq_error_iff {value : Value} {error : FunctionInData} :
    value.toJson = .error error ↔
      ∃ first rest, value.functions = first :: rest ∧ error = ⟨first.name⟩ := by
  rw [← error?_eq_some_iff, error?_toJson, firstFunction?]
  cases value.functions <;> simp [eq_comm]

/-- A value without functions is data. -/
theorem exists_toJson {value : Value} (free : value.functions = []) :
    ∃ data, value.toJson = .ok data := by
  have succeeds : error? value.toJson = none := by rw [error?_toJson, free]; rfl
  cases written : value.toJson with
  | ok data => exact ⟨data, rfl⟩
  | error error =>
      rw [written] at succeeds
      cases succeeds

/-! ## Where functions lie -/

/-- What a value holds. Nodes are data, so they hold no values. -/
def holding : Value → Holding Value
  | sequence items => .sequence items
  | mapping entries => .mapping entries
  | _ => .nothing

theorem sizeOf_lt_of_held {value part : Value} (held : part ∈ value.holding.parts) :
    sizeOf part < sizeOf value := by
  cases value with
  | sequence items =>
      have smaller : sizeOf part < sizeOf items := List.sizeOf_lt_of_mem held
      simp only [sequence.sizeOf_spec]
      omega
  | mapping entries =>
      obtain ⟨⟨key, _⟩, member, rfl⟩ := List.mem_map.1 held
      have smaller := List.sizeOf_lt_of_mem member
      simp only [mapping.sizeOf_spec, Prod.mk.sizeOf_spec] at smaller ⊢
      omega
  | _ => cases held

instance : Nested Value := ⟨holding, sizeOf_lt_of_held⟩

theorem mem_inner_of_held {value part : Value} (held : part ∈ value.holding.parts) :
    part ∈ value.inner := by
  cases value with
  | sequence _ | mapping _ => exact held
  | _ => cases held

theorem contains_of_holds {value part : Value} (holds : Nested.Holds value part) :
    value.Contains part := by
  induction holds with
  | self value => exact .self value
  | inside held _ ih => exact .inside (mem_inner_of_held held) ih

theorem itemFunctions_eq_flatMap (items : List Value) :
    itemFunctions items = items.flatMap functions := by
  induction items with
  | nil => rfl
  | cons item rest ih => rw [itemFunctions, ih, List.flatMap_cons]

theorem entryFunctions_eq_flatMap (entries : List (String × Value)) :
    entryFunctions entries = (Entries.values entries).flatMap functions := by
  induction entries with
  | nil => rfl
  | cons entry rest ih =>
      rw [entryFunctions, ih]
      rfl

theorem functions_eq_flatMap {value : Value} (compound : ¬ Nested.IsLeaf value) :
    value.functions = value.holding.parts.flatMap functions := by
  cases value with
  | sequence items => exact itemFunctions_eq_flatMap items
  | mapping entries => exact entryFunctions_eq_flatMap entries
  | _ => exact absurd rfl compound

/-- The functions that are listed are those that lie in sequences and mappings, on any level. -/
theorem mem_functions_iff {value : Value} {body : Callable} :
    body ∈ value.functions ↔ ∃ stamp, Nested.Holds value (.function stamp body) := by
  induction value using Nested.holding_induction with
  | step value ih =>
      by_cases isLeaf : Nested.IsLeaf value
      · constructor
        · intro member
          cases value with
          | function stamp other =>
              obtain rfl := List.mem_singleton.1 member
              exact ⟨stamp, .self _⟩
          | sequence _ | mapping _ => cases isLeaf
          | _ => cases member
        · rintro ⟨stamp, holds⟩
          rw [← holds.eq_of_isLeaf isLeaf]
          exact List.mem_singleton_self body
      · rw [functions_eq_flatMap isLeaf, List.mem_flatMap]
        constructor
        · rintro ⟨part, held, member⟩
          obtain ⟨stamp, holds⟩ := (ih part held).1 member
          exact ⟨stamp, .inside held holds⟩
        · rintro ⟨stamp, holds⟩
          cases holds with
          | self => exact absurd rfl isLeaf
          | @inside _ part _ held holds => exact ⟨part, held, (ih part held).2 ⟨stamp, holds⟩⟩

/-- The functions that are listed are contained in the value. -/
theorem contains_of_mem_functions {value : Value} {body : Callable}
    (member : body ∈ value.functions) : ∃ stamp, value.Contains (.function stamp body) := by
  obtain ⟨stamp, holds⟩ := mem_functions_iff.1 member
  exact ⟨stamp, contains_of_holds holds⟩

end SyntaxFold.Value
