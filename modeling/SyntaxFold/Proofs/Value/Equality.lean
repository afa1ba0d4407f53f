import SyntaxFold.Value.Equality
import SyntaxFold.Proofs.Json.Equality
import SyntaxFold.Proofs.Value.Data

/-!
# Equality of values

Values are compared like data, but not all of them equal themselves: a float may be a NaN, which
reductions compute. So equality is a partial equivalence. Functions and the nodes that were let
through are leaves here. A node is equal to the nodes whose data equals its own, and a function to
those of its stamp.
-/

namespace SyntaxFold.Value

open Nested Comparable

theorem sequence_beq {lefts rights : List Value} :
    (sequence lefts == sequence rights) = (lefts == rights) := by
  change sameItems lefts rights = _
  induction lefts generalizing rights with
  | nil => cases rights <;> rfl
  | cons left lefts ih =>
      cases rights with
      | nil => rfl
      | cons right rights => rw [sameItems, ih]; rfl

theorem mapping_beq {lefts rights : List (String × Value)} :
    (mapping lefts == mapping rights) = (lefts.length == rights.length &&
      lefts.all fun entry => (Entries.get? entry.1 rights).any (entry.2 == ·)) := by
  change (_ && sameEntries lefts rights) = _
  congr 1
  induction lefts with
  | nil => rfl
  | cons entry lefts ih =>
      rw [sameEntries, List.all_cons, ih]
      cases Entries.get? entry.1 rights <;> rfl

/-- Keys are distinct, also in the data of a node. -/
def Proper : Value → Prop
  | mapping entries => (entries.map Prod.fst).Nodup
  | node tree => WellFormed tree
  | _ => True

/-- Leaves that are equal: floats are compared as numbers, functions by their stamps and nodes as
data; all others are the same. -/
inductive LeafEqual : Value → Value → Prop
  | null : LeafEqual null null
  | bool (value : Bool) : LeafEqual (bool value) (bool value)
  | integer (value : Int64) : LeafEqual (integer value) (integer value)
  | float {left right : Float} : left == right → LeafEqual (float left) (float right)
  | string (text : String) : LeafEqual (string text) (string text)
  | function (stamp : Nat) (left right : Callable) :
      LeafEqual (function stamp left) (function stamp right)
  | node {left right : Json} : left == right → LeafEqual (node left) (node right)

variable {left middle right : Value}

theorem Proper.keysDistinct (proper : left.Proper) : left.holding.KeysDistinct := by
  cases left <;> first | exact proper | trivial

theorem beq_eq_same (compound : ¬ (left.holding = .nothing ∧ right.holding = .nothing)) :
    (left == right) = left.holding.same right.holding := by
  cases left with
  | sequence _ => cases right <;> first | exact sequence_beq | rfl
  | mapping _ => cases right <;> first | exact mapping_beq | rfl
  | _ =>
      cases right with
      | sequence _ | mapping _ => rfl
      | _ => exact absurd ⟨rfl, rfl⟩ compound

/-- Equality of leaves is what `LeafEqual` says. -/
theorem beq_iff_leafEqual (leaf : left.holding = .nothing) :
    left == right ↔ LeafEqual left right := by
  constructor
  · intro equal
    change same left right = true at equal
    fun_cases same left right with
    | case1 => exact .null
    | case2 value other =>
        rw [same, beq_iff_eq] at equal
        exact equal ▸ .bool value
    | case3 value other =>
        rw [same, beq_iff_eq] at equal
        exact equal ▸ .integer value
    | case4 value other => exact .float equal
    | case5 text other =>
        rw [same, beq_iff_eq] at equal
        exact equal ▸ .string text
    | case6 | case7 => cases leaf
    | case8 stamp body other body' =>
        rw [same, beq_iff_eq] at equal
        exact equal ▸ .function stamp body body'
    | case9 tree other => exact .node equal
    | case10 => simp_all [same]
  · intro equal
    cases equal with
    | null => rfl
    | bool value => exact beq_self_eq_true value
    | integer value => exact beq_self_eq_true value
    | float equal => exact equal
    | string text => exact beq_self_eq_true text
    | function stamp _ _ => exact beq_self_eq_true stamp
    | node equal => exact equal

theorem LeafEqual.symm (equal : LeafEqual left right) (proper : left.Proper) :
    LeafEqual right left := by
  cases equal with
  | float equal => exact .float (PartialEquivBEq.symm equal)
  | node equal => exact .node (beq_symm proper equal)
  | _ => constructor

theorem LeafEqual.trans (first : LeafEqual left middle) (second : LeafEqual middle right) :
    LeafEqual left right := by
  cases first with
  | float equal =>
      cases second with
      | float equal' => exact .float (PartialEquivBEq.trans equal equal')
  | node equal =>
      cases second with
      | node equal' => exact .node (beq_trans equal equal')
  | function => cases second with | function => constructor
  | _ => exact second

instance : Comparable Value where
  Proper := Proper
  keysDistinct := Proper.keysDistinct
  beq_eq_same := beq_eq_same
  leaf_symm proper leaf leaf' equal :=
    (beq_iff_leafEqual leaf').2 (((beq_iff_leafEqual leaf).1 equal).symm proper)
  leaf_trans leaf leaf' _ first second :=
    (beq_iff_leafEqual leaf).2
      (((beq_iff_leafEqual leaf).1 first).trans ((beq_iff_leafEqual leaf').1 second))

@[simp] theorem wellFormed_string (text : String) : WellFormed (string text) :=
  wellFormed_of_isLeaf rfl trivial

@[simp] theorem wellFormed_node_iff {tree : Json} : WellFormed (node tree) ↔ WellFormed tree := by
  constructor
  · exact WellFormed.proper
  · intro wellFormed
    exact wellFormed_of_isLeaf rfl wellFormed

@[simp] theorem wellFormed_sequence_iff {items : List Value} :
    WellFormed (sequence items) ↔ ∀ item ∈ items, WellFormed item :=
  wellFormed_iff.trans (and_iff_right trivial)

@[simp] theorem wellFormed_mapping_iff {entries : List (String × Value)} :
    WellFormed (mapping entries) ↔
      (entries.map Prod.fst).Nodup ∧ ∀ value ∈ Entries.values entries, WellFormed value :=
  wellFormed_iff

/-- A NaN is the value or lies inside it. -/
def HoldsNaN (value : Value) : Prop :=
  ∃ number : Float, number.isNaN = true ∧ Holds value (float number)

/-- A NaN is the only leaf that differs from itself. -/
theorem leaf_beq_self_iff {leaf : Value} (proper : leaf.Proper) (isLeaf : leaf.holding = .nothing) :
    leaf == leaf ↔ ∀ number : Float, leaf = float number → number.isNaN = false := by
  rw [beq_iff_leafEqual isLeaf]
  constructor
  · rintro equal number rfl
    cases equal with
    | float equal => simpa using equal
  · intro notNaN
    cases leaf with
    | null => exact .null
    | bool value => exact .bool value
    | integer value => exact .integer value
    | float number =>
        apply LeafEqual.float
        simpa using notNaN number rfl
    | string text => exact .string text
    | function stamp body => exact .function stamp body body
    | node tree => exact .node (Json.beq_self proper)
    | sequence _ | mapping _ => cases isLeaf

/-- A value equals itself unless it holds a NaN. -/
theorem beq_self_iff_not_holdsNaN {value : Value} (wellFormed : WellFormed value) :
    value == value ↔ ¬ HoldsNaN value := by
  rw [beq_self_iff wellFormed]
  constructor
  · rintro leaves ⟨number, isNaN, holds⟩
    have equal := leaves (float number) holds rfl
    have proper : (float number).Proper := trivial
    have notNaN := (leaf_beq_self_iff proper rfl).1 equal number rfl
    rw [notNaN] at isNaN
    cases isNaN
  · intro free leaf holds isLeaf
    apply (leaf_beq_self_iff (wellFormed leaf holds) isLeaf).2
    rintro number rfl
    rw [← Bool.not_eq_true]
    intro isNaN
    exact free ⟨number, isNaN, holds⟩

/-- Leaves that differ at most in the order of the entries of their data. -/
inductive SameLeaf : Value → Value → Prop
  | self (leaf : Value) : SameLeaf leaf leaf
  | node {left right : Json} : Json.Permuted left right → SameLeaf (node left) (node right)

/-- Two values that differ only in the order of entries: of mappings on any level, and of the
objects in nodes. -/
abbrev Permuted : Value → Value → Prop := Nested.Permuted SameLeaf

theorem Permuted.sequence {items others : List Value} (each : List.Forall₂ Permuted items others) :
    Permuted (sequence items) (sequence others) :=
  .inside (.sequence each)

theorem Permuted.mapping {entries arranged others : List (String × Value)}
    (perm : entries.Perm arranged) (sameKeys : arranged.map Prod.fst = others.map Prod.fst)
    (each : List.Forall₂ Permuted (Entries.values arranged) (Entries.values others)) :
    Permuted (mapping entries) (mapping others) :=
  .inside (.mapping perm sameKeys each)

/-- Equality of values is a partial equivalence that ignores the order of entries, and a NaN is all
that keeps a value from being equal to itself. Beyond this order, only leaves can be told apart:
floats by their numbers, functions by their stamps, nodes by their data, which is compared in the
same way. Keys are distinct wherever a value is well formed. -/
theorem equality_laws :
    (∀ left right : Value, WellFormed left → left == right → right == left) ∧
      (∀ left middle right : Value, left == middle → middle == right → left == right) ∧
      (∀ value : Value, WellFormed value → (value == value ↔ ¬ HoldsNaN value)) ∧
      (∀ value other : Value, WellFormed value → Permuted value other →
        (value == value ∨ other == other) → value == other) ∧
      (∀ left right : Value, WellFormed left →
        (left == right ↔ Nested.Permuted LeafEqual left right)) ∧
      (∀ tree other : Json, WellFormed tree →
        (node tree == node other ↔ Nested.Permuted Json.LeafEqual tree other)) := by
  refine ⟨?_, ?_, ?_, ?_, ?_, ?_⟩
  · intro left right
    exact beq_symm
  · intro left middle right
    exact beq_trans
  · intro value
    exact beq_self_iff_not_holdsNaN
  · intro value other
    apply beq_of_permuted
    intro leaf leaf' proper related self
    cases related with
    | self => exact self.elim id id
    | node permuted => exact Json.beq_of_permuted proper permuted
  · intro left right
    exact beq_iff_permuted fun isLeaf => beq_iff_leafEqual isLeaf
  · intro tree other
    exact Json.beq_iff_permuted

/-- Here the entries of a mapping and those of the data in a node are in another order. -/
theorem equality_laws_nested :
    let record := mapping [("name", string "kick"),
      ("source", node (.object [("kind", .string "Literal"), ("line", .integer 7)]))]
    let other := mapping [
      ("source", node (.object [("line", .integer 7), ("kind", .string "Literal")])),
      ("name", string "kick")]
    WellFormed (sequence [record]) ∧ Permuted (sequence [record]) (sequence [other]) ∧
      sequence [record] == sequence [other] ∧ sequence [other] == sequence [record] ∧
        sequence [other] == sequence [other] ∧ ¬ HoldsNaN (sequence [record]) := by
  intro record other
  obtain ⟨symm, trans, self_iff, permutable, -, -⟩ := equality_laws
  have wellFormed : WellFormed (sequence [record]) := by simp [record, Entries.values]
  have data : Json.Permuted (.object [("kind", .string "Literal"), ("line", .integer 7)])
      (.object [("line", .integer 7), ("kind", .string "Literal")]) :=
    .object (.swap _ _ []) rfl (.cons (.leaf rfl rfl rfl) (.cons (.leaf rfl rfl rfl) .nil))
  have records : Permuted record other :=
    .mapping (.swap _ _ []) rfl
      (.cons (.leaf rfl rfl (.node data)) (.cons (.leaf rfl rfl (.self _)) .nil))
  have permuted : Permuted (sequence [record]) (sequence [other]) := .sequence (.cons records .nil)
  have self : sequence [record] == sequence [record] := rfl
  have equal := permutable _ _ wellFormed permuted (.inl self)
  have converse := symm _ _ wellFormed equal
  exact ⟨wellFormed, permuted, equal, converse, trans _ _ _ converse equal,
    (self_iff _ wellFormed).1 self⟩

end SyntaxFold.Value
