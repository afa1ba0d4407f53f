import SyntaxFold.Proofs.Datum.Basic
import SyntaxFold.Proofs.Entries
import SyntaxFold.Proofs.Node.Builder
import SyntaxFold.Proofs.Numeral
import SyntaxFold.Proofs.Reduction.Rule

/-!
# Literals reduce to what they write

A datum is written as a literal by keywords, digits, quoted texts, array literals and object
literals. `Writes` says which trees write a datum: a negative integer is a minus before the digits
of its magnitude, a key is a quoted text or an identifier, whose leading underscores are escaped.
What else a node may hold, such as its position, does not matter. Reducing such a tree gives the
datum back.
-/

namespace SyntaxFold

/-! ## Escaped identifiers -/

/-- Escapes leading underscores: of two or more one more is added. -/
def escape (text : String) : String :=
  match text.toList with
  | '_' :: '_' :: rest => String.ofList ('_' :: '_' :: '_' :: rest)
  | _ => text

theorem unescape_escape (text : String) : unescape (escape text) = text := by
  unfold escape
  split
  · next rest leading =>
      simp only [unescape, String.toList_ofList]
      rw [← leading, String.ofList_toList]
  · next plain =>
      unfold unescape
      split
      · next rest leading => exact absurd leading (plain ('_' :: rest))
      · rfl

namespace Datum

/-! ## Trees that write data -/

/-- A numeric literal with the digits of a number. -/
structure WritesNatural (tree : Json) (number : Nat) : Prop where
  form : tree.HasForm .numericLiteral
  text : tree.getString? "text" = some number.repr

/-- A string literal. -/
structure WritesText (tree : Json) (text : String) : Prop where
  form : tree.HasForm .stringLiteral
  text : tree.getString? "text" = some text

/-- The name of a property that stands for a key. -/
inductive WritesKey (name : Json) (key : String) : Prop
  | quoted : WritesText name key → WritesKey name key
  | bare : name.HasForm .identifier → name.getString? "escapedText" = some (escape key) →
      WritesKey name key

mutual

/-- A tree writes a datum. The operator of a negative integer may be given by a code that the table
of kinds knows as the minus. -/
inductive Writes (kinds : KindTable) : Json → Datum → Prop
  | null {tree : Json} : tree.HasForm .nullKeyword → Writes kinds tree .null
  | true {tree : Json} : tree.HasForm .trueKeyword → Writes kinds tree (.bool true)
  | false {tree : Json} : tree.HasForm .falseKeyword → Writes kinds tree (.bool false)
  | natural {tree : Json} {value : Int64} :
      0 ≤ value.toInt → WritesNatural tree value.toInt.natAbs → Writes kinds tree (.integer value)
  | negative {tree operator operand : Json} {value : Int64} :
      value.toInt < 0 → tree.HasForm .prefixUnary → tree.get? "operator" = some operator →
        prefixOperator kinds operator = .ok "MinusToken" → tree.get? "operand" = some operand →
          WritesNatural operand value.toInt.natAbs → Writes kinds tree (.integer value)
  | text {tree : Json} {value : String} : WritesText tree value → Writes kinds tree (.text value)
  | array {tree : Json} {elements : List Json} {items : List Datum} :
      tree.HasForm .arrayLiteral → tree.get? "elements" = some (.array elements) →
        WritesItems kinds elements items → Writes kinds tree (.array items)
  | mapping {tree : Json} {properties : List Json} {entries : List (String × Datum)} :
      tree.HasForm .objectLiteral → tree.get? "properties" = some (.array properties) →
        WritesEntries kinds properties entries → Writes kinds tree (.mapping entries)

/-- The elements of an array literal write the items of an array. -/
inductive WritesItems (kinds : KindTable) : List Json → List Datum → Prop
  | nil : WritesItems kinds [] []
  | cons {element : Json} {elements : List Json} {item : Datum} {items : List Datum} :
      Writes kinds element item → WritesItems kinds elements items →
        WritesItems kinds (element :: elements) (item :: items)

/-- The properties of an object literal write the entries of a mapping. -/
inductive WritesEntries (kinds : KindTable) : List Json → List (String × Datum) → Prop
  | nil : WritesEntries kinds [] []
  | cons {property name initializer : Json} {properties : List Json} {key : String}
      {datum : Datum} {entries : List (String × Datum)} :
      property.get? "name" = some name → WritesKey name key →
        property.get? "initializer" = some initializer → Writes kinds initializer datum →
          WritesEntries kinds properties entries →
            WritesEntries kinds (property :: properties) ((key, datum) :: entries)

end

/-! ## Quoting -/

mutual

/-- A tree that writes a datum, with all keys quoted. -/
def quote : Datum → Json
  | null => Tree.node "NullKeyword" []
  | bool value => Tree.node (if value then "TrueKeyword" else "FalseKeyword") []
  | integer value =>
      let digits := Tree.numeral value.toInt.natAbs.repr
      if 0 ≤ value.toInt then digits else Tree.unary (.string "MinusToken") digits
  | text value => Tree.quoted value
  | array items => Tree.array (quoteItems items)
  | mapping entries =>
      Tree.node "ObjectLiteralExpression" [("properties", .array (quoteEntries entries))]

/-- The items of an array, quoted. -/
def quoteItems : List Datum → List Json
  | [] => []
  | item :: rest => quote item :: quoteItems rest

/-- The entries of a mapping as properties. -/
def quoteEntries : List (String × Datum) → List Json
  | [] => []
  | (key, datum) :: rest => Tree.assignment (Tree.quoted key) (quote datum) :: quoteEntries rest

end

theorem writesNatural_numeral (number : Nat) :
    WritesNatural (Tree.numeral number.repr) number :=
  ⟨Tree.hasForm_node rfl _, rfl⟩

theorem writesText_quoted (text : String) : WritesText (Tree.quoted text) text :=
  ⟨Tree.hasForm_node rfl _, rfl⟩

mutual

theorem writes_quote (kinds : KindTable) (datum : Datum) : Writes kinds datum.quote datum := by
  match datum with
  | null => exact .null (Tree.hasForm_node rfl _)
  | bool true => exact .true (Tree.hasForm_node rfl _)
  | bool false => exact .false (Tree.hasForm_node rfl _)
  | integer value =>
      simp only [quote]
      split
      · next natural => exact .natural natural (writesNatural_numeral _)
      · next negative =>
          exact .negative (Int.not_le.1 negative) (Tree.hasForm_node rfl _) rfl rfl rfl
            (writesNatural_numeral _)
  | text value => exact .text (writesText_quoted value)
  | array items => exact .array (Tree.hasForm_node rfl _) rfl (writesItems_quoteItems kinds items)
  | mapping entries =>
      exact .mapping (Tree.hasForm_node rfl _) rfl (writesEntries_quoteEntries kinds entries)
termination_by structural datum

theorem writesItems_quoteItems (kinds : KindTable) (items : List Datum) :
    WritesItems kinds (quoteItems items) items := by
  match items with
  | [] => exact .nil
  | item :: rest => exact .cons (writes_quote kinds item) (writesItems_quoteItems kinds rest)
termination_by structural items

theorem writesEntries_quoteEntries (kinds : KindTable) (entries : List (String × Datum)) :
    WritesEntries kinds (quoteEntries entries) entries := by
  match entries with
  | [] => exact .nil
  | (key, datum) :: rest =>
      exact .cons rfl (.quoted (writesText_quoted key)) rfl (writes_quote kinds datum)
        (writesEntries_quoteEntries kinds rest)
termination_by structural entries

end

/-! ## Reducing what writes a datum -/

section Reduction

variable [Host] {environment : Environment} {inside : Json → Except FoldError Value} {mode : Mode}

theorem WritesNatural.reduceWith {tree : Json} {number : Nat}
    (writes : WritesNatural tree number) :
    environment.reduceWith inside mode tree = Value.ofNumeral number.repr := by
  have shape : Node.ofJson tree = .ok (.numericLiteral number.repr) := by
    refine Node.ofJson_of_hasForm writes.form fun kind => ?_
    simp only [Node.read, requireText, writes.text]
    rfl
  rw [Environment.reduceWith_eq_nodeRule shape, Environment.nodeRule]

theorem WritesText.reduceWith {tree : Json} {text : String} (writes : WritesText tree text) :
    environment.reduceWith inside mode tree = .ok (.string text) := by
  have shape : Node.ofJson tree = .ok (.stringLiteral text) := by
    refine Node.ofJson_of_hasForm writes.form fun kind => ?_
    simp only [Node.read, requireText, writes.text]
    rfl
  rw [Environment.reduceWith_eq_nodeRule shape, Environment.nodeRule]

theorem WritesKey.reduceWith {name : Json} {key : String} (writes : WritesKey name key) :
    environment.reduceWith inside mode name = .ok (.string key) := by
  cases writes with
  | quoted writes => exact writes.reduceWith
  | bare form text =>
      have shape : Node.ofJson name = .ok (.identifier key) := by
        refine Node.ofJson_of_hasForm form fun kind => ?_
        simp only [Node.read, identifierText, text, Option.map_some, unescape_escape]
        rfl
      rw [Environment.reduceWith_eq_nodeRule shape, Environment.nodeRule]

/-- A property gives the key and the value of the entry that it writes. -/
theorem propertyRule_of_writesKey (deep : mode.shallow = false) {kind key : String}
    {property name initializer : Json} (named : property.get? "name" = some name)
    (writes : WritesKey name key) (initialized : property.get? "initializer" = some initializer)
    {value : Value} (reduced : environment.reduceWith inside mode initializer = .ok value) :
    propertyRule (environment.reduceWith inside) mode kind property = .ok (key, value) := by
  simp only [propertyRule, requireField, named, initialized, require, ok_bind,
    Mode.nested_eq_self deep, writes.reduceWith, deep, Bool.false_eq_true, if_false, reduced]
  rfl

mutual

/-- A tree that writes a datum reduces to its value, unless the reduction is shallow. -/
theorem Writes.reduceWith (deep : mode.shallow = false) {tree : Json} {datum : Datum}
    (distinct : datum.KeysDistinct) (writes : Writes environment.kinds tree datum) :
    environment.reduceWith inside mode tree = .ok datum.value := by
  match writes with
  | .null form =>
      rw [Environment.reduceWith_eq_nodeRule (Node.ofJson_of_hasForm form fun _ => rfl)]
      rfl
  | .true form | .false form =>
      rw [Environment.reduceWith_eq_nodeRule (Node.ofJson_of_hasForm form fun _ => rfl)]
      rfl
  | .natural nonneg digits =>
      rw [digits.reduceWith]
      exact Value.ofNumeral_repr (Int.natAbs_of_nonneg nonneg)
  | @Writes.negative _ _ operator operand _ negative form named minus found digits =>
      have shape : Node.ofJson tree = .ok (.prefixUnary operator operand) := by
        refine Node.ofJson_of_hasForm form fun kind => ?_
        simp only [Node.read, requireField, named, found]
        rfl
      have accepted : requireMinus environment.kinds operator = .ok () := by
        simp only [requireMinus, minus]
      rw [Environment.reduceWith_eq_nodeRule shape, Environment.nodeRule, accepted, ok_bind,
        digits.reduceWith]
      exact Value.negate_ofNumeral_repr negative
  | .text writes => exact writes.reduceWith
  | @Writes.array _ _ elements _ form found writes =>
      have shape : Node.ofJson tree = .ok (.arrayLiteral elements) := by
        refine Node.ofJson_of_hasForm form fun kind => ?_
        rw [Node.read, requireArray_eq_ok_iff.2 found]
        rfl
      rw [Environment.reduceWith_eq_nodeRule shape, Environment.nodeRule, deep,
        if_neg Bool.false_ne_true, Mode.nested_eq_self deep, writes.mapM deep distinct]
      rfl
  | @Writes.mapping _ _ properties entries form found writes =>
      have shape : Node.ofJson tree = .ok (.objectLiteral properties) := by
        refine Node.ofJson_of_hasForm form fun kind => ?_
        rw [Node.read, requireArray_eq_ok_iff.2 found]
        rfl
      have distinctKeys : ((entryValues entries).map Prod.fst).Nodup := by
        rw [keys_entryValues]
        exact distinct.1
      rw [Environment.reduceWith_eq_nodeRule shape, Environment.nodeRule, mappingRule,
        writes.mapM deep _ distinct.2, ok_bind, Entries.ofPairs_of_nodup distinctKeys]
      rfl
termination_by structural writes

theorem WritesItems.mapM (deep : mode.shallow = false) {elements : List Json} {items : List Datum}
    (distinct : ItemsDistinct items) (writes : WritesItems environment.kinds elements items) :
    elements.mapM (environment.reduceWith inside mode) = .ok (itemValues items) := by
  match writes with
  | .nil => rfl
  | .cons first rest =>
      rw [List.mapM_cons, first.reduceWith deep distinct.1, rest.mapM deep distinct.2]
      rfl
termination_by structural writes

theorem WritesEntries.mapM (deep : mode.shallow = false) (kind : String)
    {properties : List Json} {entries : List (String × Datum)} (distinct : EntriesDistinct entries)
    (writes : WritesEntries environment.kinds properties entries) :
    properties.mapM (propertyRule (environment.reduceWith inside) mode kind) =
      .ok (entryValues entries) := by
  match writes with
  | .nil => rfl
  | .cons named key initialized first rest =>
      have value := first.reduceWith deep distinct.1
      rw [List.mapM_cons, propertyRule_of_writesKey deep named key initialized value,
        rest.mapM deep kind distinct.2]
      rfl
termination_by structural writes

end

/-- Every datum with distinct keys can be written, and all trees that write it reduce to its value,
whether names are resolved or not and whatever the tables and the limit are. The value is written
as the datum again. -/
theorem reduce_of_writes (context : Context) (deep : context.mode.shallow = false)
    (datum : Datum) (distinct : datum.KeysDistinct) :
    Writes context.environment.kinds datum.quote datum ∧
      (∀ tree, Writes context.environment.kinds tree datum →
        context.reduce tree = .ok datum.value) ∧
      datum.value.toJson = .ok datum.json := by
  refine ⟨writes_quote _ datum, ?_, toJson_value datum⟩
  intro tree writes
  exact writes.reduceWith deep distinct

end Reduction

section Escaped

attribute [local instance] Host.closed

/-- A key that is escaped, the least integer, and a minus that is given by its code. -/
theorem reduce_of_writes_escaped :
    let context : Context := ⟨⟨⟨[(41, "MinusToken")]⟩, .prelude, .empty⟩, .literal, 0, 0⟩
    let least := Tree.unary (.integer 41) (Tree.numeral "9223372036854775808")
    let tree := Tree.object
      [("___proto__", Tree.array [least, Tree.numeral "0"]), ("size", Tree.quoted "a")]
    let datum := mapping
      [("__proto__", array [integer Int64.minValue, integer 0]), ("size", text "a")]
    (context.mode.shallow = false ∧ datum.KeysDistinct ∧
      Writes context.environment.kinds tree datum) ∧ context.reduce tree = .ok datum.value := by
  intro context least tree datum
  have distinct : datum.KeysDistinct := by
    simp [datum, KeysDistinct, EntriesDistinct, ItemsDistinct]
  have writesLeast : Writes context.environment.kinds least (integer Int64.minValue) :=
    .negative (by decide) (Tree.hasForm_node rfl _) rfl rfl rfl ⟨Tree.hasForm_node rfl _, rfl⟩
  have writesZero : Writes context.environment.kinds (Tree.numeral "0") (integer 0) :=
    .natural (by decide) ⟨Tree.hasForm_node rfl _, rfl⟩
  have writes : Writes context.environment.kinds tree datum := by
    refine .mapping (Tree.hasForm_node rfl _) rfl ?_
    refine .cons rfl (.bare (Tree.hasForm_node rfl _) rfl) rfl ?_ ?_
    · exact .array (Tree.hasForm_node rfl _) rfl (.cons writesLeast (.cons writesZero .nil))
    · refine .cons rfl (.bare (Tree.hasForm_node rfl _) rfl) rfl ?_ .nil
      exact .text (writesText_quoted "a")
  exact ⟨⟨rfl, distinct, writes⟩, (reduce_of_writes context rfl datum distinct).2.1 tree writes⟩

end Escaped

end Datum

end SyntaxFold
