import SyntaxFold.Proofs.Declaration
import SyntaxFold.Proofs.Reduction.Element
import SyntaxFold.Proofs.Reduction.Sequence
import SyntaxFold.Proofs.Value.Projections
import SyntaxFold.Synth.Presets
import SyntaxFold.Synth.Unisons

/-!
# Tables that stay lists

The tables of presets and unisons are calls of `toNameMap`, but only the array that is handed over
is reduced. So nothing is merged: there is one record for each element, in order, and names may be
repeated. Presets are grouped, and the group of the user's own instruments is all that is left out.
-/

namespace SyntaxFold

open Outcome Value

namespace Synth

/-! ## The array that is handed over -/

theorem firstArgument?_eq_some_iff {node table : Json} :
    firstArgument? node = some table ↔
      ∃ callee rest, Json.Presents (.call callee (table :: rest)) node := by
  have single (callee : Json) (rest : List Json) (expression : Json) :
      Node.call callee (table :: rest) ≠ .wrapper expression := by simp
  simp only [Json.presents_iff (single _ _)]
  unfold firstArgument?
  split
  · next shape => simp [shape]
  · next other =>
      constructor
      · intro impossible
        cases impossible
      · rintro ⟨callee, rest, shape⟩
        exact absurd shape (other callee table rest)

/-- A property of a class is a call, in any number of wrappers, and the first argument is an array
of these elements. -/
def HandsOver (classNode : Json) (property : String) (elements : List Json) : Prop :=
  ∃ initializer callee table rest, Declaration.Initializes classNode property initializer ∧
    Json.Presents (.call callee (table :: rest)) initializer ∧ Json.Lists elements table

theorem nameMapArgument_eq_ok_iff {property : String} {classNode table : Json} :
    nameMapArgument property classNode = .ok table ↔
      ∃ initializer callee rest, Declaration.Initializes classNode property initializer ∧
        Json.Presents (.call callee (table :: rest)) initializer := by
  simp only [nameMapArgument, bind_eq_ok_iff, Declaration.propertyOfClass_eq_ok_iff,
    require_eq_ok_iff, firstArgument?_eq_some_iff, exists_and_left]

section Tables

variable [Host] {reducer : Reducer} {classNode : Json}

/-- Each element is reduced to the record at its place. -/
def Records (reducer : Reducer) : List Json → List Value → Prop :=
  List.Forall₂ fun element record => reducer.literal element = .ok record

theorem literal_eq_sequence_iff {table : Json} {records : List Value} :
    reducer.literal table = .ok (.sequence records) ↔
      ∃ elements, Json.Lists elements table ∧ Records reducer elements records :=
  Environment.reduceWith_eq_sequence_iff rfl rfl

/-- Whoever needs the items of what a table is reduced to goes on with the records of an array. -/
theorem items_eq_ok_iff {α : Type} {kind field : String} {table : Json}
    {next : List Value → Except FoldError α} {result : α} :
    (do
      let records ← reducer.literal table
      let records ← require kind field records.sequence?
      next records) = .ok result ↔
    ∃ elements records, Json.Lists elements table ∧ Records reducer elements records ∧
      next records = .ok result := by
  simp only [bind_eq_ok_iff, require_eq_ok_iff, sequence?_eq_some_iff]
  constructor
  · rintro ⟨_, reduced, records, rfl, onward⟩
    obtain ⟨elements, lists, each⟩ := literal_eq_sequence_iff.1 reduced
    exact ⟨elements, records, lists, each, onward⟩
  · rintro ⟨elements, records, lists, each, onward⟩
    exact ⟨_, literal_eq_sequence_iff.2 ⟨elements, lists, each⟩, records, rfl, onward⟩

/-- What is read from a table is read from the records of the array that is handed over. -/
theorem table_eq_ok_iff {α : Type} {property : String} {elements : List Json}
    (handsOver : HandsOver classNode property elements) {next : List Value → Except FoldError α}
    {result : α} :
    (do
      let table ← nameMapArgument property classNode
      let records ← reducer.literal table
      let records ← require property "arguments" records.sequence?
      next records) = .ok result ↔
    ∃ records, Records reducer elements records ∧ next records = .ok result := by
  obtain ⟨initializer, callee, table, rest, initialized, presents, lists⟩ := handsOver
  have isTable : nameMapArgument property classNode = .ok table :=
    nameMapArgument_eq_ok_iff.2 ⟨initializer, callee, rest, initialized, presents⟩
  rw [isTable, ok_bind, items_eq_ok_iff]
  constructor
  · rintro ⟨others, records, lists', each, onward⟩
    obtain rfl := lists.unique lists'
    exact ⟨records, each, onward⟩
  · rintro ⟨records, each, onward⟩
    exact ⟨elements, records, lists, each, onward⟩

/-- The record has what the object literal has: under the key of a property is what the last
property with this key is reduced to. -/
def KeepsFields (reducer : Reducer) (element : Json) (record : Value) : Prop :=
  ∀ properties, Json.Presents (.objectLiteral properties) element →
    ∀ property ∈ properties, ∀ key, Property.HasKey reducer.literal property key →
      ∃ initializer value,
        LastInitializer (propertyKey reducer.literal "ObjectLiteralExpression") properties key
          initializer ∧
        reducer.literal initializer = .ok value ∧ record.get? key = some value

theorem keepsFields_of_literal {element : Json} {record : Value}
    (reduced : reducer.literal element = .ok record) : KeepsFields reducer element record := by
  intro properties presents property listed key hasKey
  have single (expression : Json) : Node.objectLiteral properties ≠ .wrapper expression := by
    simp
  have shape := (Json.presents_iff single).1 presents
  have unwrapped :
      (reducer.context .empty .literal).nested.reduce (unwrap element) = .ok record := by
    rw [← reduced]
    exact (Environment.reduceWith_unwrap_of_full rfl element).symm
  obtain ⟨entries, other, initializer, value, rfl, hasOther, last, initialized, found⟩ :=
    Context.exists_get?_of_mem_properties shape rfl unwrapped listed
  have keyed : propertyKey reducer.literal "ObjectLiteralExpression" property = .ok key :=
    Property.propertyKey_eq_ok_iff.2 hasKey
  obtain rfl : other = key :=
    Except.ok.inj ((Property.propertyKey_eq_ok_iff.2 hasOther).symm.trans keyed)
  exact ⟨initializer, value, last, initialized, found⟩

end Tables

/-- The record has the name. -/
def Named (record : Value) (name : String) : Prop := record.get? "name" = some (.string name)

theorem name_eq_ok_iff {kind field : String} {record : Value} {name : String} :
    require kind field ((record.get? "name").bind Value.string?) = .ok name ↔
      Named record name := by
  rw [require_eq_ok_iff, bind_string?_eq_some_iff, Named]

/-! ## Presets -/

section Presets

variable [Host] {reducer : Reducer} {classNode : Json}

/-- The record describes a category that is not the custom one: its presets are a call on an array,
and the records of that array are the presets of the category. -/
structure PresetCategory.Describes (reducer : Reducer) (record : Value)
    (category : PresetCategory) : Prop where
  named : Named record category.name
  builtIn : category.name ≠ customCategory
  presets : ∃ node callee table rest elements, record.get? "presets" = some (.node node) ∧
    Json.Presents (.call callee (table :: rest)) node ∧ Json.Lists elements table ∧
      Records reducer elements category.presets

/-- A record is left out if it has the custom name, whatever else it has. Otherwise it must describe
a category. -/
theorem PresetCategory.ofRecord?_eq_ok_iff {record : Value} {found : Option PresetCategory} :
    ofRecord? reducer record = .ok found ↔
      (Named record customCategory ∧ found = none) ∨
        ∃ category, Describes reducer record category ∧ found = some category := by
  simp only [ofRecord?, bind_eq_ok_iff, name_eq_ok_iff]
  constructor
  · rintro ⟨name, named, onward⟩
    split at onward
    · next isCustom =>
        cases onward
        exact .inl ⟨isCustom ▸ named, rfl⟩
    · next builtIn =>
        obtain ⟨node, hasNode, onward⟩ := bind_eq_ok_iff.1 onward
        obtain ⟨table, isTable, onward⟩ := bind_eq_ok_iff.1 onward
        obtain ⟨elements, presets, lists, each, same⟩ := items_eq_ok_iff.1 onward
        cases same
        rw [require_eq_ok_iff, bind_node?_eq_some_iff] at hasNode
        rw [require_eq_ok_iff, firstArgument?_eq_some_iff] at isTable
        obtain ⟨callee, rest, presents⟩ := isTable
        exact .inr ⟨⟨name, presets⟩, ⟨named, builtIn, node, callee, table, rest, elements, hasNode,
          presents, lists, each⟩, rfl⟩
  · rintro (⟨named, rfl⟩ | ⟨⟨name, presets⟩, ⟨named, builtIn, listed⟩, rfl⟩)
    · exact ⟨customCategory, named, if_pos rfl⟩
    · obtain ⟨node, callee, table, rest, elements, hasNode, presents, lists, each⟩ := listed
      refine ⟨name, named, ?_⟩
      rw [if_neg builtIn, bind_node?_eq_some_iff.2 hasNode]
      rw [require, ok_bind, firstArgument?_eq_some_iff.2 ⟨callee, rest, presents⟩, require, ok_bind]
      exact items_eq_ok_iff.2 ⟨elements, presets, lists, each, rfl⟩

/-- The categories are those that the elements describe, in order, without the custom ones. Of
these, only the name matters. -/
inductive KeepsBuiltIn (reducer : Reducer) : List Json → List PresetCategory → Prop
  | nil : KeepsBuiltIn reducer [] []
  | custom {element : Json} {record : Value} {rest : List Json} {found : List PresetCategory} :
      reducer.literal element = .ok record → Named record customCategory →
        KeepsBuiltIn reducer rest found → KeepsBuiltIn reducer (element :: rest) found
  | builtIn {element : Json} {record : Value} {category : PresetCategory} {rest : List Json}
      {found : List PresetCategory} :
      reducer.literal element = .ok record → PresetCategory.Describes reducer record category →
        KeepsBuiltIn reducer rest found →
          KeepsBuiltIn reducer (element :: rest) (category :: found)

theorem keepsBuiltIn_iff {elements : List Json} {found : List PresetCategory} :
    KeepsBuiltIn reducer elements found ↔
      ∃ records categories, Records reducer elements records ∧
        records.mapM (PresetCategory.ofRecord? reducer) = .ok categories ∧
          categories.filterMap id = found := by
  simp only [mapM_eq_ok_iff]
  constructor
  · intro keeps
    induction keeps with
    | nil => exact ⟨[], [], .nil, .nil, rfl⟩
    | @custom _ record _ _ reduced named _ ih =>
        obtain ⟨records, categories, each, described, rfl⟩ := ih
        have here : PresetCategory.ofRecord? reducer record = .ok none :=
          PresetCategory.ofRecord?_eq_ok_iff.2 (.inl ⟨named, rfl⟩)
        exact ⟨record :: records, none :: categories, .cons reduced each, .cons here described, rfl⟩
    | @builtIn _ record category _ _ reduced describes _ ih =>
        obtain ⟨records, categories, each, described, rfl⟩ := ih
        have here : PresetCategory.ofRecord? reducer record = .ok (some category) :=
          PresetCategory.ofRecord?_eq_ok_iff.2 (.inr ⟨category, describes, rfl⟩)
        exact ⟨record :: records, some category :: categories, .cons reduced each,
          .cons here described, rfl⟩
  · rintro ⟨records, categories, each, described, rfl⟩
    induction each generalizing categories with
    | nil =>
        cases described
        exact .nil
    | cons reduced _ ih =>
        cases described with
        | cons here later =>
            rcases PresetCategory.ofRecord?_eq_ok_iff.1 here with
              ⟨named, rfl⟩ | ⟨category, describes, rfl⟩
            · rw [List.filterMap_cons_none rfl]
              exact .custom reduced named (ih _ later)
            · exact .builtIn reduced describes (ih _ later)

theorem presets_eq_ok_iff {elements : List Json}
    (handsOver : HandsOver classNode "presetCategories" elements) {found : List PresetCategory} :
    presets reducer classNode = .ok found ↔ KeepsBuiltIn reducer elements found := by
  rw [presets, table_eq_ok_iff handsOver, keepsBuiltIn_iff]
  simp only [bind_eq_ok_iff, pure_eq_ok_iff, exists_and_left]

/-- The names that are left are those of all elements but the custom ones. -/
theorem KeepsBuiltIn.exists_names {elements : List Json} {found : List PresetCategory}
    (keeps : KeepsBuiltIn reducer elements found) :
    ∃ records names, Records reducer elements records ∧ List.Forall₂ Named records names ∧
      found.map PresetCategory.name = names.filter (· ≠ customCategory) := by
  induction keeps with
  | nil => exact ⟨[], [], .nil, .nil, rfl⟩
  | @custom _ record _ _ reduced named _ ih =>
      obtain ⟨records, names, each, all, same⟩ := ih
      refine ⟨record :: records, customCategory :: names, .cons reduced each, .cons named all, ?_⟩
      rw [same, List.filter_cons_of_neg (by simp)]
  | @builtIn _ record category _ _ reduced describes _ ih =>
      obtain ⟨records, names, each, all, same⟩ := ih
      refine ⟨record :: records, category.name :: names, .cons reduced each,
        .cons describes.named all, ?_⟩
      rw [List.map_cons, same, List.filter_cons_of_pos (by simpa using describes.builtIn)]

end Presets

/-! ## Unisons -/

namespace Unison

/-- The record has a number under the key. -/
def HasNumber (record : Value) (key : String) (number : Float) : Prop :=
  ∃ value, record.get? key = some value ∧ value.float? = some number

theorem numberField_eq_ok_iff {record : Value} {key : String} {number : Float} :
    numberField key record = .ok number ↔ HasNumber record key number := by
  rw [numberField, require_eq_ok_iff, Option.bind_eq_some_iff, HasNumber]

/-- The record describes the unison: it has its name, and five numbers that its voices are made
from. -/
structure Describes (record : Value) (unison : Unison) : Prop where
  named : Named record unison.name
  numbers : ∃ voices spread offset expression sign, HasNumber record "voices" voices ∧
    HasNumber record "spread" spread ∧ HasNumber record "offset" offset ∧
      HasNumber record "expression" expression ∧ HasNumber record "sign" sign ∧
        voicesOf voices spread offset expression sign = unison.voices

theorem ofRecord_eq_ok_iff {record : Value} {unison : Unison} :
    ofRecord record = .ok unison ↔ Describes record unison := by
  simp only [ofRecord, bind_eq_ok_iff, name_eq_ok_iff, numberField_eq_ok_iff, pure_eq_ok_iff]
  constructor
  · rintro ⟨name, named, voices, hasVoices, spread, hasSpread, offset, hasOffset, expression,
      hasExpression, sign, hasSign, rfl⟩
    exact ⟨named, voices, spread, offset, expression, sign, hasVoices, hasSpread, hasOffset,
      hasExpression, hasSign, rfl⟩
  · rintro ⟨named, voices, spread, offset, expression, sign, hasVoices, hasSpread, hasOffset,
      hasExpression, hasSign, made⟩
    exact ⟨_, named, voices, hasVoices, spread, hasSpread, offset, hasOffset, expression,
      hasExpression, sign, hasSign, by rw [made]⟩

end Unison

section Unisons

variable [Host] {reducer : Reducer} {classNode : Json}

theorem unisons_eq_ok_iff {elements : List Json}
    (handsOver : HandsOver classNode "unisons" elements) {found : List Unison} :
    unisons reducer classNode = .ok found ↔
      ∃ records, Records reducer elements records ∧
        List.Forall₂ Unison.Describes records found := by
  rw [unisons, table_eq_ok_iff handsOver]
  simp only [mapM_eq_ok_iff, Unison.ofRecord_eq_ok_iff]

/-- Both tables keep every record of the array that is handed over, in order. There is one category
for each record without the custom name, and its presets are the records of the array in it; there
is one unison for each record. Names stay, as often as they occur, and every record has all fields
of its object literal, so that it keeps its own name. -/
theorem tables_keep_records (reducer : Reducer) (classNode : Json) :
    (∀ elements, HandsOver classNode "presetCategories" elements →
      ∀ found, presets reducer classNode = .ok found ↔ KeepsBuiltIn reducer elements found) ∧
    (∀ elements found, KeepsBuiltIn reducer elements found →
      ∃ records names, Records reducer elements records ∧ List.Forall₂ Named records names ∧
        found.map PresetCategory.name = names.filter (· ≠ customCategory)) ∧
    (∀ element record, reducer.literal element = .ok record →
      KeepsFields reducer element record) ∧
    ∀ elements, HandsOver classNode "unisons" elements →
      ∀ found, unisons reducer classNode = .ok found ↔
        ∃ records, Records reducer elements records ∧
          List.Forall₂ Unison.Describes records found := by
  refine ⟨?_, ?_, ?_, ?_⟩
  · intro elements handsOver found
    exact presets_eq_ok_iff handsOver
  · intro elements found
    exact KeepsBuiltIn.exists_names
  · intro element record
    exact keepsFields_of_literal
  · intro elements handsOver found
    exact unisons_eq_ok_iff handsOver

end Unisons

section Repeated

attribute [local instance] Host.closed

/-- A reducer with the prelude. -/
def tableReducer : Reducer := ⟨.empty, .prelude, 8⟩

/-- The call of a table, on an array. -/
def tableCall (elements : List Json) : Json :=
  Tree.call (Tree.identifier "toNameMap") [Tree.array elements]

/-- A record of a category, whose presets may be anything. -/
def categoryRecord (name : String) (presets : Json) : Json :=
  Tree.object [("name", Tree.quoted name), ("presets", presets)]

/-- A record of a preset that has only a name. -/
def presetRecord (name : String) : Json := Tree.object [("name", Tree.quoted name)]

/-- A record of a unison with one voice. -/
def singleVoice (name : String) : Json :=
  Tree.object [("name", Tree.quoted name), ("voices", Tree.numeral "1"),
    ("spread", Tree.numeral "0"), ("offset", Tree.numeral "0"),
    ("expression", Tree.numeral "1"), ("sign", Tree.numeral "1")]

theorem literal_presetRecord (name : String) :
    tableReducer.literal (presetRecord name) = .ok (.mapping [("name", .string name)]) := by
  change (tableReducer.context .empty .literal).reduce _ = _
  rw [Context.reduce_eq_unrolled 3]
  rfl

/-- The presets of a category are let through, without the parentheses around them. -/
theorem literal_categoryRecord (name : String) (presets : List Json) :
    tableReducer.literal (categoryRecord name (Tree.parenthesized (tableCall presets))) =
      .ok (.mapping [("name", .string name), ("presets", .node (tableCall presets))]) := by
  change (tableReducer.context .empty .literal).reduce _ = _
  rw [Context.reduce_eq_unrolled 4]
  rfl

theorem describes_categoryRecord {name : String} (builtIn : name ≠ customCategory)
    (presets : List String) :
    PresetCategory.Describes tableReducer
      (.mapping [("name", .string name), ("presets", .node (tableCall (presets.map presetRecord)))])
      ⟨name, presets.map fun preset => .mapping [("name", .string preset)]⟩ where
  named := rfl
  builtIn := builtIn
  presets := by
    refine ⟨_, _, _, _, _, rfl, .here rfl, .literal rfl, ?_⟩
    rw [Records, List.forall₂_map_left_iff, List.forall₂_map_right_iff, List.forall₂_same]
    exact fun preset _ => literal_presetRecord preset

/-- Here two categories, two presets and two unisons have the same name, and the presets of the
custom category are no call. -/
theorem tables_keep_records_repeated :
    let categories :=
      [categoryRecord "Lead" (Tree.parenthesized (tableCall (["saw", "saw"].map presetRecord))),
        categoryRecord customCategory (Tree.numeral "0"),
        categoryRecord "Lead" (Tree.parenthesized (tableCall ([].map presetRecord)))]
    let classNode := Tree.classDeclaration "Config"
      [Tree.property "presetCategories" (Tree.parenthesized (tableCall categories)),
        Tree.property "unisons" (tableCall [singleVoice "none", singleVoice "none"])]
    let preset := Value.mapping [("name", .string "saw")]
    let zero := floatOfInt64 0
    let one := floatOfInt64 1
    let voices := Unison.voicesOf one zero zero one one
    (HandsOver classNode "presetCategories" categories ∧
        presets tableReducer classNode = .ok [⟨"Lead", [preset, preset]⟩, ⟨"Lead", []⟩]) ∧
      (∃ records names, Records tableReducer categories records ∧ List.Forall₂ Named records names ∧
        ["Lead", "Lead"] = names.filter (· ≠ customCategory)) ∧
      KeepsFields tableReducer (presetRecord "saw") preset ∧
      unisons tableReducer classNode = .ok [⟨"none", voices⟩, ⟨"none", voices⟩] := by
  intro categories classNode preset zero one voices
  obtain ⟨presets_iff, names, keeps, unisons_iff⟩ := tables_keep_records tableReducer classNode
  have custom : tableReducer.literal (categoryRecord customCategory (Tree.numeral "0")) =
      .ok (.mapping [("name", .string customCategory), ("presets", .integer 0)]) := by
    change (tableReducer.context .empty .literal).reduce _ = _
    rw [Context.reduce_eq_unrolled 4]
    rfl
  let record := Value.mapping [("name", .string "none"), ("voices", .integer 1),
    ("spread", .integer 0), ("offset", .integer 0), ("expression", .integer 1),
    ("sign", .integer 1)]
  have voice : tableReducer.literal (singleVoice "none") = .ok record := by
    change (tableReducer.context .empty .literal).reduce _ = _
    rw [Context.reduce_eq_unrolled 4]
    rfl
  have builtIn : KeepsBuiltIn tableReducer categories
      [⟨"Lead", [preset, preset]⟩, ⟨"Lead", []⟩] :=
    .builtIn (literal_categoryRecord _ _) (describes_categoryRecord (by decide) ["saw", "saw"])
      (.custom custom rfl
        (.builtIn (literal_categoryRecord _ _) (describes_categoryRecord (by decide) []) .nil))
  have handsOver : HandsOver classNode "presetCategories" categories :=
    ⟨_, _, _, _, ⟨_, _, rfl, rfl, rfl⟩, .wrapper rfl (.here rfl), .literal rfl⟩
  have handsOverVoices :
      HandsOver classNode "unisons" [singleVoice "none", singleVoice "none"] :=
    ⟨_, _, _, _, ⟨_, _, rfl, rfl, rfl⟩, .here rfl, .literal rfl⟩
  have describes : Unison.Describes record ⟨"none", voices⟩ :=
    ⟨rfl, one, zero, zero, one, one, ⟨_, rfl, rfl⟩, ⟨_, rfl, rfl⟩, ⟨_, rfl, rfl⟩, ⟨_, rfl, rfl⟩,
      ⟨_, rfl, rfl⟩, rfl⟩
  have twice : Records tableReducer [singleVoice "none", singleVoice "none"] [record, record] :=
    .cons voice (.cons voice .nil)
  refine ⟨⟨handsOver, (presets_iff _ handsOver _).2 builtIn⟩, names _ _ builtIn,
    keeps _ _ (literal_presetRecord "saw"), ?_⟩
  exact (unisons_iff _ handsOverVoices _).2 ⟨_, twice, .cons describes (.cons describes .nil)⟩

end Repeated

end Synth

end SyntaxFold
