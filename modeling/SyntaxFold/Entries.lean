/-!
# Ordered entries

Mappings keep their entries in the order in which the keys first appeared. `insert` gives a key
that is already present a new value where it stands, and puts a new key at the end; so folding
`insert` over any list of pairs keeps the first position and the last value of every key.
-/

namespace SyntaxFold

/-- The entries of a mapping, in order. -/
abbrev Entries (κ : Type) (α : Type) := List (κ × α)

namespace Entries

variable {κ α : Type} [DecidableEq κ]

/-- The value of the first entry with the given key. -/
def get? (key : κ) : List (κ × α) → Option α
  | [] => none
  | (found, value) :: rest => if found = key then some value else get? key rest

/-- Whether some entry has the given key. -/
def contains (key : κ) (entries : List (κ × α)) : Bool := (get? key entries).isSome

/-- Replaces the value of a key in place, or adds the key at the end. -/
def insert (key : κ) (value : α) : List (κ × α) → List (κ × α)
  | [] => [(key, value)]
  | (found, old) :: rest =>
    if found = key then (found, value) :: rest else (found, old) :: insert key value rest

/-- Drops the first entry with the given key. -/
def remove (key : κ) : List (κ × α) → List (κ × α)
  | [] => []
  | (found, value) :: rest => if found = key then rest else (found, value) :: remove key rest

/-- The entries that result from inserting pairs one after the other. -/
def ofPairs (pairs : List (κ × α)) : List (κ × α) :=
  pairs.foldl (fun entries pair => insert pair.1 pair.2 entries) []

@[simp] theorem get?_nil (key : κ) : get? key ([] : List (κ × α)) = none := rfl

@[simp] theorem get?_insert_self (key : κ) (value : α) (entries : List (κ × α)) :
    get? key (insert key value entries) = some value := by
  induction entries with
  | nil => simp [insert, get?]
  | cons entry rest ih =>
    by_cases same : entry.1 = key <;> simp [insert, get?, same, ih]

theorem get?_insert_of_ne {key other : κ} (different : other ≠ key) (value : α)
    (entries : List (κ × α)) :
    get? other (insert key value entries) = get? other entries := by
  induction entries with
  | nil => simp [insert, get?, Ne.symm different]
  | cons entry rest ih =>
    by_cases same : entry.1 = key
    · simp [insert, get?, same, Ne.symm different]
    · simp [insert, get?, same, ih]

/-- Inserting a key that is present keeps the keys as they are; a new key comes last. -/
theorem keys_insert (key : κ) (value : α) (entries : List (κ × α)) :
    (insert key value entries).map Prod.fst =
      if contains key entries then entries.map Prod.fst else entries.map Prod.fst ++ [key] := by
  induction entries with
  | nil => simp [insert, contains]
  | cons entry rest ih =>
    by_cases same : entry.1 = key
    · simp [insert, contains, get?, same]
    · by_cases present : (get? key rest).isSome <;>
        simp_all [insert, contains, get?]

/-- A value that is found by key is smaller than the entries that hold it. -/
theorem sizeOf_lt_of_get? [SizeOf κ] [SizeOf α] {key : κ} {entries : List (κ × α)} {value : α}
    (found : get? key entries = some value) : sizeOf value < sizeOf entries := by
  induction entries with
  | nil => simp at found
  | cons entry rest ih =>
    obtain ⟨name, first⟩ := entry
    simp only [get?] at found
    split at found
    · obtain rfl := Option.some.inj found
      simp only [List.cons.sizeOf_spec, Prod.mk.sizeOf_spec]
      omega
    · have := ih found
      simp only [List.cons.sizeOf_spec, Prod.mk.sizeOf_spec]
      omega

end Entries

end SyntaxFold
