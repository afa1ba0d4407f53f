import SyntaxFold.Normalize
import SyntaxFold.Proofs.Outcome

/-!
# What normalization does

`Json.Named` says what a normalized tree is, rule by rule: every code under `kind` has given way to
its name, and every other part of the tree is as it was. `Json.kindCodes` lists the codes of a tree
in document order. Normalization gives exactly the named tree, and fails exactly when some code of
the tree is without a name, at the first one. Names are no codes, so a named tree is named already,
whatever the table.
-/

namespace SyntaxFold

/-! ## Tables and lists of codes -/

namespace KindTable

/-- Whether a table has no name for a code. -/
def lacks (kinds : KindTable) (code : Int64) : Bool := (kinds.name? code).isNone

theorem lacks_eq_true_iff {kinds : KindTable} {code : Int64} :
    kinds.lacks code = true ↔ ¬ ∃ name, kinds.name? code = some name := by
  simp [lacks, Option.eq_none_iff_forall_ne_some]

theorem name_eq_ok_iff {kinds : KindTable} {code : Int64} {name : String} :
    kinds.name code = .ok name ↔ kinds.name? code = some name := by
  unfold KindTable.name
  split <;> simp_all

/-- Looks codes up one after the other, up to the first that has no name. -/
def check (kinds : KindTable) (codes : List Int64) : Except FoldError Unit :=
  match codes.find? kinds.lacks with
  | some code => .error (.unknownKindCode code)
  | none => .ok ()

theorem check_append (kinds : KindTable) (codes others : List Int64) :
    kinds.check (codes ++ others) = (do kinds.check codes; kinds.check others) := by
  unfold check
  rw [List.find?_append]
  cases codes.find? kinds.lacks with
  | some code => rfl
  | none => rfl

theorem check_eq_ok_iff {kinds : KindTable} {codes : List Int64} :
    kinds.check codes = .ok () ↔ ∀ code ∈ codes, ∃ name, kinds.name? code = some name := by
  have allNamed : codes.find? kinds.lacks = none ↔
      ∀ code ∈ codes, ∃ name, kinds.name? code = some name := by
    simp [List.find?_eq_none, lacks_eq_true_iff]
  rw [← allNamed, check]
  cases codes.find? kinds.lacks <;> simp

theorem check_eq_error_iff {kinds : KindTable} {codes : List Int64} {error : FoldError} :
    kinds.check codes = .error error ↔
      ∃ code, codes.find? kinds.lacks = some code ∧ error = .unknownKindCode code := by
  unfold check
  cases codes.find? kinds.lacks <;> simp [eq_comm]

end KindTable

namespace Json

/-! ## The codes of a tree -/

/-- The code in an entry of an object: an integer of 64 bits directly under `kind`. -/
def entryCode? (key : String) (value : Json) : Option Int64 :=
  if key = "kind" then value.int64? else none

/-- A code stands directly under `kind` in an object somewhere in a tree. -/
inductive HoldsCode (code : Int64) : Json → Prop
  | here {entries : List (String × Json)} {value : Json} :
      ("kind", value) ∈ entries → value.int64? = some code → HoldsCode code (.object entries)
  | inItem {items : List Json} {item : Json} :
      item ∈ items → HoldsCode code item → HoldsCode code (.array items)
  | inEntry {entries : List (String × Json)} {key : String} {value : Json} :
      (key, value) ∈ entries → HoldsCode code value → HoldsCode code (.object entries)

mutual

/-- The codes under `kind` in document order: depth first, and from left to right. -/
def kindCodes : Json → List Int64
  | array items => itemCodes items
  | object entries => entryCodes entries
  | _ => []

/-- The codes in the items of an array. -/
def itemCodes : List Json → List Int64
  | [] => []
  | item :: rest => kindCodes item ++ itemCodes rest

/-- The codes in the entries of an object. -/
def entryCodes : List (String × Json) → List Int64
  | [] => []
  | (key, value) :: rest =>
    (entryCode? key value).toList ++ kindCodes value ++ entryCodes rest

end

theorem mem_itemCodes {code : Int64} {items : List Json} :
    code ∈ itemCodes items ↔ ∃ item ∈ items, code ∈ item.kindCodes := by
  induction items with
  | nil => simp [itemCodes]
  | cons item rest ih => simp [itemCodes, ih]

theorem mem_entryCodes {code : Int64} {entries : List (String × Json)} :
    code ∈ entryCodes entries ↔
      ∃ key value, (key, value) ∈ entries ∧
        (entryCode? key value = some code ∨ code ∈ value.kindCodes) := by
  induction entries with
  | nil => simp [entryCodes]
  | cons entry rest ih =>
      obtain ⟨key, value⟩ := entry
      simp only [entryCodes, List.mem_append, Option.mem_toList, ih, List.mem_cons]
      constructor
      · rintro (here | ⟨other, otherValue, member, found⟩)
        · exact ⟨key, value, Or.inl rfl, here⟩
        · exact ⟨other, otherValue, Or.inr member, found⟩
      · rintro ⟨other, otherValue, same | member, found⟩
        · cases same
          exact Or.inl found
        · exact Or.inr ⟨other, otherValue, member, found⟩

theorem entryCode?_eq_some_iff {key : String} {value : Json} {code : Int64} :
    entryCode? key value = some code ↔ key = "kind" ∧ value.int64? = some code := by
  unfold entryCode?
  split <;> simp_all

/-- The list has every code of the tree. -/
theorem holdsCode_of_mem {code : Int64} (tree : Json) (member : code ∈ tree.kindCodes) :
    HoldsCode code tree := by
  cases tree with
  | array items =>
      obtain ⟨item, inItems, found⟩ := mem_itemCodes.1 member
      exact .inItem inItems (holdsCode_of_mem item found)
  | object entries =>
      obtain ⟨key, value, inEntries, here | inside⟩ := mem_entryCodes.1 member
      · obtain ⟨rfl, isCode⟩ := entryCode?_eq_some_iff.1 here
        exact .here inEntries isCode
      · exact .inEntry inEntries (holdsCode_of_mem value inside)
  | _ => simp [kindCodes] at member
termination_by sizeOf tree
decreasing_by
  · subst_vars
    have := List.sizeOf_lt_of_mem inItems
    simp only [array.sizeOf_spec]
    omega
  · subst_vars
    have := List.sizeOf_lt_of_mem inEntries
    simp only [object.sizeOf_spec, Prod.mk.sizeOf_spec] at this ⊢
    omega

/-- The list of codes of a tree has exactly the codes that stand under `kind`. -/
theorem mem_kindCodes {code : Int64} {tree : Json} :
    code ∈ tree.kindCodes ↔ HoldsCode code tree := by
  constructor
  · exact holdsCode_of_mem tree
  · intro holds
    induction holds with
    | here member isCode =>
        exact mem_entryCodes.2 ⟨_, _, member, Or.inl (entryCode?_eq_some_iff.2 ⟨rfl, isCode⟩)⟩
    | inItem member _ ih => exact mem_itemCodes.2 ⟨_, member, ih⟩
    | inEntry member _ ih => exact mem_entryCodes.2 ⟨_, _, member, Or.inr ih⟩

/-! ## Naming -/

/-- Data without parts. -/
def IsLeaf : Json → Prop
  | array _ | object _ => False
  | _ => True

theorem kindCodes_of_isLeaf {leaf : Json} (isLeaf : leaf.IsLeaf) : leaf.kindCodes = [] := by
  cases leaf with
  | array _ | object _ => exact isLeaf.elim
  | _ => rfl

theorem normalize_of_isLeaf {leaf : Json} (isLeaf : leaf.IsLeaf) (kinds : KindTable) :
    normalize kinds leaf = .ok leaf := by
  cases leaf with
  | array _ | object _ => exact isLeaf.elim
  | _ => rfl

/-- A code is a number, which has no parts. -/
theorem isLeaf_of_entryCode? {key : String} {value : Json} {code : Int64}
    (found : entryCode? key value = some code) : value.IsLeaf := by
  obtain ⟨-, isCode⟩ := entryCode?_eq_some_iff.1 found
  cases value with
  | array _ | object _ => cases isCode
  | _ => trivial

mutual

/-- The second tree is the first one with names in the place of its codes. -/
inductive Named (kinds : KindTable) : Json → Json → Prop
  | leaf {leaf : Json} : leaf.IsLeaf → Named kinds leaf leaf
  | array {items named : List Json} :
      NamedItems kinds items named → Named kinds (.array items) (.array named)
  | object {entries named : List (String × Json)} :
      NamedEntries kinds entries named → Named kinds (.object entries) (.object named)

/-- Every item is named. -/
inductive NamedItems (kinds : KindTable) : List Json → List Json → Prop
  | nil : NamedItems kinds [] []
  | cons {item named : Json} {rest namedRest : List Json} :
      Named kinds item named → NamedItems kinds rest namedRest →
        NamedItems kinds (item :: rest) (named :: namedRest)

/-- Every entry keeps its key. A code gives way to its name, any other value is named. -/
inductive NamedEntries (kinds : KindTable) :
    List (String × Json) → List (String × Json) → Prop
  | nil : NamedEntries kinds [] []
  | code {key : String} {value : Json} {code : Int64} {name : String}
      {rest namedRest : List (String × Json)} :
      entryCode? key value = some code → kinds.name? code = some name →
        NamedEntries kinds rest namedRest →
          NamedEntries kinds ((key, value) :: rest) ((key, .string name) :: namedRest)
  | other {key : String} {value named : Json} {rest namedRest : List (String × Json)} :
      entryCode? key value = none → Named kinds value named →
        NamedEntries kinds rest namedRest →
          NamedEntries kinds ((key, value) :: rest) ((key, named) :: namedRest)

end

/-- A name is no code. -/
theorem entryCode?_string (key name : String) : entryCode? key (.string name) = none := by
  unfold entryCode?
  split <;> rfl

/-- Naming makes no code of what is none. -/
theorem Named.entryCode?_eq {kinds : KindTable} {value named : Json}
    (names : Named kinds value named) (key : String) :
    entryCode? key named = entryCode? key value := by
  cases names with
  | leaf => rfl
  | array | object => rfl

mutual

/-- A named tree is named already, by whatever table. -/
theorem Named.again {kinds : KindTable} {tree named : Json} (names : Named kinds tree named)
    (other : KindTable) : Named other named named := by
  match names with
  | .leaf isLeaf => exact .leaf isLeaf
  | .array items => exact .array (items.again other)
  | .object entries => exact .object (entries.again other)
termination_by structural names

theorem NamedItems.again {kinds : KindTable} {items named : List Json}
    (names : NamedItems kinds items named) (other : KindTable) :
    NamedItems other named named := by
  match names with
  | .nil => exact .nil
  | .cons item rest => exact .cons (item.again other) (rest.again other)
termination_by structural names

theorem NamedEntries.again {kinds : KindTable} {entries named : List (String × Json)}
    (names : NamedEntries kinds entries named) (other : KindTable) :
    NamedEntries other named named := by
  match names with
  | .nil => exact .nil
  | .code _ _ rest =>
      exact .other (entryCode?_string _ _) (.leaf trivial) (rest.again other)
  | .other absent value rest =>
      have absentStill := (value.entryCode?_eq _).trans absent
      exact .other absentStill (value.again other) (rest.again other)
termination_by structural names

end

/-! ## Normalization names a tree -/

/-- What the value of an entry is normalized to. -/
def normalizeEntry (kinds : KindTable) (key : String) (value : Json) : Except FoldError Json :=
  match entryCode? key value with
  | some code => (kinds.name code).map string
  | none => normalize kinds value

theorem normalizeEntries_cons (kinds : KindTable) (key : String) (value : Json)
    (rest : List (String × Json)) :
    normalizeEntries kinds ((key, value) :: rest) = (do
      let value ← normalizeEntry kinds key value
      let rest ← normalizeEntries kinds rest
      return (key, value) :: rest) := by
  rw [normalizeEntries, normalizeEntry, entryCode?]
  cases if key = "kind" then value.int64? else none with
  | some code => rfl
  | none => rfl

theorem normalizeEntry_of_code {kinds : KindTable} {key : String} {value : Json} {code : Int64}
    (found : entryCode? key value = some code) :
    normalizeEntry kinds key value = (kinds.name code).map string := by
  rw [normalizeEntry, found]

theorem normalizeEntry_of_no_code {kinds : KindTable} {key : String} {value : Json}
    (absent : entryCode? key value = none) :
    normalizeEntry kinds key value = normalize kinds value := by
  rw [normalizeEntry, absent]

mutual

/-- What normalization gives follows the rules of naming. -/
theorem named_of_normalize {kinds : KindTable} (tree : Json) {named : Json}
    (normalized : normalize kinds tree = .ok named) : Named kinds tree named := by
  cases tree with
  | array items =>
      obtain ⟨namedItems, itemsOk, rfl⟩ := map_eq_ok_iff.1 normalized
      exact .array (named_of_normalizeItems items itemsOk)
  | object entries =>
      obtain ⟨namedEntries, entriesOk, rfl⟩ := map_eq_ok_iff.1 normalized
      exact .object (named_of_normalizeEntries entries entriesOk)
  | _ =>
      cases normalized
      exact .leaf trivial

theorem named_of_normalizeItems {kinds : KindTable} (items : List Json) {named : List Json}
    (normalized : normalizeItems kinds items = .ok named) : NamedItems kinds items named := by
  cases items with
  | nil =>
      cases normalized
      exact .nil
  | cons item rest =>
      obtain ⟨namedItem, itemOk, onward⟩ := bind_eq_ok_iff.1 normalized
      obtain ⟨namedRest, restOk, same⟩ := bind_eq_ok_iff.1 onward
      cases same
      exact .cons (named_of_normalize item itemOk) (named_of_normalizeItems rest restOk)

theorem named_of_normalizeEntries {kinds : KindTable} (entries : List (String × Json))
    {named : List (String × Json)} (normalized : normalizeEntries kinds entries = .ok named) :
    NamedEntries kinds entries named := by
  cases entries with
  | nil =>
      cases normalized
      exact .nil
  | cons entry rest =>
      obtain ⟨key, value⟩ := entry
      rw [normalizeEntries_cons] at normalized
      obtain ⟨namedValue, valueOk, onward⟩ := bind_eq_ok_iff.1 normalized
      obtain ⟨namedRest, restOk, same⟩ := bind_eq_ok_iff.1 onward
      cases same
      have restNamed := named_of_normalizeEntries rest restOk
      cases found : entryCode? key value with
      | some code =>
          rw [normalizeEntry_of_code found] at valueOk
          obtain ⟨name, nameOk, rfl⟩ := map_eq_ok_iff.1 valueOk
          exact .code found (KindTable.name_eq_ok_iff.1 nameOk) restNamed
      | none =>
          rw [normalizeEntry_of_no_code found] at valueOk
          exact .other found (named_of_normalize value valueOk) restNamed

end

mutual

/-- A tree that is named by the rules is normalized to just that. -/
theorem normalize_of_named {kinds : KindTable} {tree named : Json}
    (names : Named kinds tree named) : normalize kinds tree = .ok named := by
  match names with
  | .leaf isLeaf => exact normalize_of_isLeaf isLeaf kinds
  | .array items =>
      rw [normalize, normalizeItems_of_named items]
      rfl
  | .object entries =>
      rw [normalize, normalizeEntries_of_named entries]
      rfl
termination_by structural names

theorem normalizeItems_of_named {kinds : KindTable} {items named : List Json}
    (names : NamedItems kinds items named) : normalizeItems kinds items = .ok named := by
  match names with
  | .nil => rfl
  | .cons item rest =>
      rw [normalizeItems, normalize_of_named item, normalizeItems_of_named rest]
      rfl
termination_by structural names

theorem normalizeEntries_of_named {kinds : KindTable} {entries named : List (String × Json)}
    (names : NamedEntries kinds entries named) : normalizeEntries kinds entries = .ok named := by
  match names with
  | .nil => rfl
  | .code found known rest =>
      rw [normalizeEntries_cons, normalizeEntry_of_code found, KindTable.name_eq_ok_iff.2 known,
        normalizeEntries_of_named rest]
      rfl
  | .other absent value rest =>
      rw [normalizeEntries_cons, normalizeEntry_of_no_code absent, normalize_of_named value,
        normalizeEntries_of_named rest]
      rfl
termination_by structural names

end

/-! ## Where normalization fails -/

/-- Whether a computation succeeds, and with which error it fails. -/
def verdict {α : Type} (outcome : Except FoldError α) : Except FoldError Unit :=
  outcome.map fun _ => ()

@[simp] theorem verdict_map {α β : Type} (outcome : Except FoldError α) (image : α → β) :
    verdict (outcome.map image) = verdict outcome := by
  cases outcome <;> rfl

theorem verdict_bind_bind {α β γ : Type} (first : Except FoldError α) (second : Except FoldError β)
    (pair : α → β → γ) :
    verdict (do let value ← first; let other ← second; return pair value other) =
      (do verdict first; verdict second) := by
  cases first with
  | error error => rfl
  | ok value => cases second <;> rfl

theorem verdict_name (kinds : KindTable) (code : Int64) :
    verdict (kinds.name code) = kinds.check [code] := by
  simp only [KindTable.name, KindTable.check, List.find?, KindTable.lacks]
  cases kinds.name? code <;> rfl

mutual

/-- Normalization fails where looking up the codes of the tree in document order fails. -/
theorem verdict_normalize (kinds : KindTable) (tree : Json) :
    verdict (normalize kinds tree) = kinds.check tree.kindCodes := by
  cases tree with
  | array items => rw [normalize, verdict_map, kindCodes, verdict_normalizeItems]
  | object entries => rw [normalize, verdict_map, kindCodes, verdict_normalizeEntries]
  | _ => rfl

theorem verdict_normalizeItems (kinds : KindTable) (items : List Json) :
    verdict (normalizeItems kinds items) = kinds.check (itemCodes items) := by
  cases items with
  | nil => rfl
  | cons item rest =>
      rw [normalizeItems, verdict_bind_bind, verdict_normalize kinds item,
        verdict_normalizeItems kinds rest, itemCodes, KindTable.check_append]

theorem verdict_normalizeEntries (kinds : KindTable) (entries : List (String × Json)) :
    verdict (normalizeEntries kinds entries) = kinds.check (entryCodes entries) := by
  cases entries with
  | nil => rfl
  | cons entry rest =>
      obtain ⟨key, value⟩ := entry
      have head : verdict (normalizeEntry kinds key value) =
          kinds.check ((entryCode? key value).toList ++ value.kindCodes) := by
        cases found : entryCode? key value with
        | some code =>
            rw [normalizeEntry_of_code found, verdict_map, verdict_name,
              kindCodes_of_isLeaf (isLeaf_of_entryCode? found)]
            rfl
        | none =>
            rw [normalizeEntry_of_no_code found, verdict_normalize kinds value]
            rfl
      rw [normalizeEntries_cons, verdict_bind_bind, head, verdict_normalizeEntries kinds rest,
        entryCodes, KindTable.check_append kinds (_ ++ _)]

end

theorem verdict_eq_ok_iff {α : Type} {outcome : Except FoldError α} :
    verdict outcome = .ok () ↔ ∃ value, outcome = .ok value := by
  cases outcome <;> simp [verdict, Except.map]

theorem verdict_eq_error_iff {α : Type} {outcome : Except FoldError α} {error : FoldError} :
    verdict outcome = .error error ↔ outcome = .error error := by
  cases outcome <;> simp [verdict, Except.map]

/-- Normalization gives the tree with names in the place of its codes, and nothing else. It succeeds
exactly when every code in the tree has a name, and fails with the first one in document order that
has none. -/
theorem normalize_outcome_iff (kinds : KindTable) (tree : Json) :
    (∀ named, tree.normalize kinds = .ok named ↔ Named kinds tree named) ∧
      ((∃ named, tree.normalize kinds = .ok named) ↔
        ∀ code, HoldsCode code tree → ∃ name, kinds.name? code = some name) ∧
      ∀ error, tree.normalize kinds = .error error ↔
        ∃ code, tree.kindCodes.find? kinds.lacks = some code ∧
          error = .unknownKindCode code := by
  refine ⟨fun named => ⟨named_of_normalize tree, normalize_of_named⟩, ?_, ?_⟩
  · rw [← verdict_eq_ok_iff, verdict_normalize, KindTable.check_eq_ok_iff]
    simp only [mem_kindCodes]
  · intro error
    rw [← verdict_eq_error_iff, verdict_normalize, KindTable.check_eq_error_iff]

/-- The code of a child comes before the code of its parent if the child is written first. -/
example :
    (object [("left", object [("kind", .integer 7)]), ("kind", .integer 8)]).normalize .empty =
      .error (.unknownKindCode 7) :=
  rfl

/-- A normalized tree is normalized already, by whatever table. -/
theorem normalize_of_normalize {kinds : KindTable} {tree named : Json}
    (normalized : tree.normalize kinds = .ok named) (other : KindTable) :
    named.normalize other = .ok named :=
  normalize_of_named ((named_of_normalize tree normalized).again other)

/-- A tree of the given kind. What else stands under `kind` in it is no code: a float, an array and
an integer that does not fit 64 signed bits. -/
def oddKinds (kind : Json) : Json :=
  object [("kind", kind), ("first", object [("kind", .float 80)]),
    ("second", object [("kind", .array [.integer 80])]),
    ("third", object [("kind", .integer 0x8000000000000000)])]

theorem normalize_of_normalize_oddKinds :
    (oddKinds (.integer 80)).normalize (.ofPairs [(80, "Identifier")]) =
        .ok (oddKinds (.string "Identifier")) ∧
      (oddKinds (.string "Identifier")).normalize (.ofPairs [(80, "Block")]) =
        .ok (oddKinds (.string "Identifier")) := by
  have first : (oddKinds (.integer 80)).normalize (.ofPairs [(80, "Identifier")]) =
      .ok (oddKinds (.string "Identifier")) := rfl
  exact ⟨first, normalize_of_normalize first (.ofPairs [(80, "Block")])⟩

end Json

end SyntaxFold
