import SyntaxFold.KindTable
import SyntaxFold.Proofs.Entries
import SyntaxFold.Proofs.Normalize
import SyntaxFold.Proofs.Numeral

/-!
# What kind tables hold

A table made from pairs keeps the first name of a code, and a table made from a dump the last one.
`NamesCode` says which entries of a dump name a code, and `ListsCodes` lists these codes with their
names in document order. The table of the dump is the table of that list taken from its end, and
all other entries of the dump could as well be missing.
-/

namespace SyntaxFold.KindTable

/-! ## Tables of pairs -/

theorem ofPairs_append_singleton (pairs : List (Int64 × String)) (pair : Int64 × String) :
    ofPairs (pairs ++ [pair]) = (ofPairs pairs).addMissing pair.1 pair.2 := by
  rw [ofPairs, List.foldl_append]
  rfl

/-- A code that has a name keeps it. -/
theorem name?_addMissing (table : KindTable) (code other : Int64) (name : String) :
    (table.addMissing code name).name? other =
      (table.name? other).or (Entries.get? other [(code, name)]) := by
  unfold addMissing
  split
  · next known =>
      obtain ⟨old, found⟩ := Option.isSome_iff_exists.1 known
      by_cases same : code = other
      · subst same
        rw [name?, found, Option.some_or]
      · rw [Entries.get?, if_neg same, Entries.get?_nil, Option.or_none]
  · exact Entries.get?_append other table.entries [(code, name)]

/-- Of several pairs with one code the first gives the name. -/
theorem name?_ofPairs (pairs : List (Int64 × String)) (code : Int64) :
    (ofPairs pairs).name? code = Entries.get? code pairs := by
  induction pairs using List.reverseRecOn with
  | nil => rfl
  | append_singleton pairs pair ih =>
      rw [ofPairs_append_singleton, name?_addMissing, ih, Entries.get?_append]

theorem nodup_codes_addMissing {table : KindTable}
    (distinct : (table.entries.map Prod.fst).Nodup) (code : Int64) (name : String) :
    ((table.addMissing code name).entries.map Prod.fst).Nodup := by
  unfold addMissing
  split
  · exact distinct
  · next unknown =>
      have absent : code ∉ table.entries.map Prod.fst :=
        fun present => unknown (Entries.contains_of_mem_keys present)
      rw [← Entries.insert_of_not_mem absent name]
      exact Entries.nodup_keys_insert distinct code name

/-- A table of pairs has each code once. -/
theorem nodup_codes_ofPairs (pairs : List (Int64 × String)) :
    ((ofPairs pairs).entries.map Prod.fst).Nodup := by
  induction pairs using List.reverseRecOn with
  | nil => exact List.nodup_nil
  | append_singleton pairs pair ih =>
      rw [ofPairs_append_singleton]
      exact nodup_codes_addMissing ih pair.1 pair.2

theorem size_ofPairs (pairs : List (Int64 × String)) :
    (ofPairs pairs).size = (pairs.map Prod.fst).toFinset.card := by
  apply Entries.length_eq_card (nodup_codes_ofPairs pairs)
  intro code
  have found : Entries.get? code (ofPairs pairs).entries = Entries.get? code pairs :=
    name?_ofPairs pairs code
  rw [← Entries.contains_eq_true_iff, ← Entries.contains_eq_true_iff, Entries.contains, found,
    Entries.contains]

/-! ## Dumps -/

/-- An entry of a dump names a code: its key denotes the code and its value is the name. -/
def NamesCode (entry : String × Json) (code : Int64) (name : String) : Prop :=
  Numeral.Denotes entry.1.toList code.toInt ∧ entry.2 = .string name

/-- The codes that entries of a dump name, with their names, in document order. -/
inductive ListsCodes : List (String × Json) → List (Int64 × String) → Prop
  | nil : ListsCodes [] []
  | code {entry : String × Json} {code : Int64} {name : String} {entries : List (String × Json)}
      {pairs : List (Int64 × String)} :
      NamesCode entry code name → ListsCodes entries pairs →
        ListsCodes (entry :: entries) ((code, name) :: pairs)
  | other {entry : String × Json} {entries : List (String × Json)}
      {pairs : List (Int64 × String)} :
      (∀ code name, ¬ NamesCode entry code name) → ListsCodes entries pairs →
        ListsCodes (entry :: entries) pairs

theorem dumpPair?_eq_some_iff {entry : String × Json} {code : Int64} {name : String} :
    dumpPair? entry = some (code, name) ↔ NamesCode entry code name := by
  obtain ⟨key, value⟩ := entry
  cases value with
  | string text =>
      simp only [dumpPair?, NamesCode, Option.map_eq_some_iff, Prod.mk.injEq, Json.string.injEq,
        Numeral.int64?_eq_some_iff]
      constructor
      · rintro ⟨_, denotes, rfl, same⟩
        exact ⟨denotes, same⟩
      · rintro ⟨denotes, same⟩
        exact ⟨code, denotes, rfl, same⟩
  | _ => simp [dumpPair?, NamesCode]

theorem dumpPair?_eq_none_iff {entry : String × Json} :
    dumpPair? entry = none ↔ ∀ code name, ¬ NamesCode entry code name := by
  simp only [Option.eq_none_iff_forall_ne_some, Prod.forall, ne_eq, dumpPair?_eq_some_iff]

/-- Every dump lists its codes in one way only. -/
theorem listsCodes_iff {entries : List (String × Json)} {pairs : List (Int64 × String)} :
    ListsCodes entries pairs ↔ entries.filterMap dumpPair? = pairs := by
  constructor
  · intro lists
    induction lists with
    | nil => rfl
    | code names _ ih => rw [List.filterMap_cons_some (dumpPair?_eq_some_iff.2 names), ih]
    | other nameless _ ih => rw [List.filterMap_cons_none (dumpPair?_eq_none_iff.2 nameless), ih]
  · rintro rfl
    induction entries with
    | nil => exact .nil
    | cons entry rest ih =>
        cases read : dumpPair? entry with
        | none =>
            rw [List.filterMap_cons_none read]
            exact .other (dumpPair?_eq_none_iff.1 read) ih
        | some pair =>
            rw [List.filterMap_cons_some read]
            exact .code (dumpPair?_eq_some_iff.1 read) ih

theorem foldl_set (pairs : List (Int64 × String)) :
    pairs.foldl (fun table pair => table.set pair.1 pair.2) empty = ⟨Entries.ofPairs pairs⟩ := by
  induction pairs using List.reverseRecOn with
  | nil => rfl
  | append_singleton pairs pair ih =>
      rw [List.foldl_append, ih, Entries.ofPairs_append_singleton]
      rfl

theorem ofDump_object (entries : List (String × Json)) :
    ofDump (.object entries) = .ok ⟨Entries.ofPairs (entries.filterMap dumpPair?)⟩ := by
  rw [← foldl_set]
  rfl

theorem not_mem_codes_iff {entries : List (String × Json)} {code : Int64} :
    code ∉ (entries.filterMap dumpPair?).map Prod.fst ↔
      ∀ entry ∈ entries, ∀ name, ¬ NamesCode entry code name := by
  constructor
  · intro absent entry member name names
    have listed := List.mem_filterMap.2 ⟨entry, member, dumpPair?_eq_some_iff.2 names⟩
    exact absent (List.mem_map_of_mem listed)
  · intro nameless present
    obtain ⟨⟨_, name⟩, listed, rfl⟩ := List.mem_map.1 present
    obtain ⟨entry, member, read⟩ := List.mem_filterMap.1 listed
    exact nameless entry member name (dumpPair?_eq_some_iff.1 read)

/-- The last entry that names a code gives its name. -/
theorem get?_ofPairs_filterMap_eq_some_iff {entries : List (String × Json)} {code : Int64}
    {name : String} :
    Entries.get? code (Entries.ofPairs (entries.filterMap dumpPair?)) = some name ↔
      ∃ before entry after, entries = before ++ entry :: after ∧ NamesCode entry code name ∧
        ∀ later ∈ after, ∀ other, ¬ NamesCode later code other := by
  rw [Entries.get?_ofPairs_eq_some_iff]
  constructor
  · rintro ⟨early, late, split, last⟩
    -- Entries that name no code may stand between the last pair before `code` and its entry.
    obtain ⟨before, rest, rfl, -, tail⟩ := List.filterMap_eq_append_iff.1 split
    obtain ⟨skipped, entry, after, rfl, -, read, rfl⟩ := List.filterMap_eq_cons_iff.1 tail
    refine ⟨before ++ skipped, entry, after, (List.append_assoc _ _ _).symm, ?_, ?_⟩
    · exact dumpPair?_eq_some_iff.1 read
    · exact not_mem_codes_iff.1 last
  · rintro ⟨before, entry, after, rfl, names, last⟩
    refine ⟨before.filterMap dumpPair?, after.filterMap dumpPair?, ?_, not_mem_codes_iff.2 last⟩
    rw [List.filterMap_append, List.filterMap_cons_some (dumpPair?_eq_some_iff.2 names)]

/-- The table of a dump is the table of its codes and names in reverse order, where the first name
counts: the last entry that names a code gives the name, each code counts once, and an entry that
names no code might as well be missing. -/
theorem ofDump_eq_ofPairs_reverse (entries : List (String × Json)) :
    ∃ table pairs, ofDump (.object entries) = .ok table ∧
      (∀ listed, ListsCodes entries listed ↔ pairs = listed) ∧
      (∀ code, table.name code = (ofPairs pairs.reverse).name code) ∧
      (∀ code name, table.name code = .ok name ↔
        ∃ before entry after, entries = before ++ entry :: after ∧ NamesCode entry code name ∧
          ∀ later ∈ after, ∀ other, ¬ NamesCode later code other) ∧
      table.size = (ofPairs pairs.reverse).size ∧
      table.size = (pairs.map Prod.fst).toFinset.card ∧
      ∀ before entry after, entries = before ++ entry :: after →
        (∀ name, entry.2 ≠ .string name) ∨
          (∀ code : Int64, ¬ Numeral.Denotes entry.1.toList code.toInt) →
        ofDump (.object (before ++ after)) = .ok table := by
  have size := (Entries.keepsLast_ofPairs (entries.filterMap dumpPair?)).size
  refine ⟨_, _, ofDump_object entries, fun _ => listsCodes_iff, ?_, ?_, ?_, size, ?_⟩
  · intro code
    have found := Entries.get?_ofPairs code (entries.filterMap dumpPair?)
    simp only [name, name?_ofPairs, ← found]
    rfl
  · intro code name
    rw [name_eq_ok_iff]
    exact get?_ofPairs_filterMap_eq_some_iff
  · rw [size_ofPairs, List.map_reverse, List.toFinset_reverse]
    exact size
  · rintro before entry after rfl other
    have nameless : ∀ code name, ¬ NamesCode entry code name := by
      rintro code name ⟨denotes, isName⟩
      rcases other with noName | noCode
      · exact noName name isName
      · exact noCode code denotes
    rw [ofDump_object, List.filterMap_append, List.filterMap_append,
      List.filterMap_cons_none (dumpPair?_eq_none_iff.2 nameless)]

/-- Three spellings of one code, between them the names' own entries, a value that is no name, and
a key that does not fit 64 bits. -/
def tangledDump : List (String × Json) :=
  [("1", .string "EndOfFile"), ("EndOfFile", .integer 1), ("+1", .string "NewLine"),
    ("-2", .string "Trivia"), ("2", .integer 7), ("01", .string "SingleLine"),
    ("9223372036854775808", .string "Beyond"), ("SingleLine", .integer 1)]

/-- The last of the three spellings gives the name, and without the entry that does not fit the
table is the same. -/
theorem ofDump_eq_ofPairs_reverse_tangled :
    ListsCodes tangledDump [(1, "EndOfFile"), (1, "NewLine"), (-2, "Trivia"), (1, "SingleLine")] ∧
      ∃ table, ofDump (.object tangledDump) = .ok table ∧ table.name 1 = .ok "SingleLine" ∧
        table.size = 2 ∧
        ofDump (.object (tangledDump.take 6 ++ [("SingleLine", .integer 1)])) = .ok table := by
  obtain ⟨table, pairs, made, lists, same, -, -, size, other⟩ :=
    ofDump_eq_ofPairs_reverse tangledDump
  have listed : ListsCodes tangledDump
      [(1, "EndOfFile"), (1, "NewLine"), (-2, "Trivia"), (1, "SingleLine")] :=
    listsCodes_iff.2 (by decide +kernel)
  obtain rfl := (lists _).1 listed
  refine ⟨listed, table, made, ?_, size, ?_⟩
  · rw [same]
    rfl
  · refine other _ ("9223372036854775808", .string "Beyond") _ rfl (.inr fun code denotes => ?_)
    have unread : Numeral.int64? "9223372036854775808".toList = none := by decide +kernel
    cases unread.symm.trans (Numeral.int64?_eq_some_iff.2 denotes)

end SyntaxFold.KindTable
