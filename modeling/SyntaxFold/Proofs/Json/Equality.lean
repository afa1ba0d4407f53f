import Mathlib
import SyntaxFold.Json.Basic
import SyntaxFold.Proofs.Comparison

/-!
# Equality of data

JSON data has distinct keys and no NaN. So its equality, which disregards the order of entries and
compares doubles as numbers, is an equivalence on data, and data equals whatever differs from it
only in the order of entries.
-/

namespace SyntaxFold.Json

open Nested Comparable

theorem array_beq {lefts rights : List Json} :
    (array lefts == array rights) = (lefts == rights) := by
  change sameItems lefts rights = _
  induction lefts generalizing rights with
  | nil => cases rights <;> rfl
  | cons left lefts ih =>
      cases rights with
      | nil => rfl
      | cons right rights => rw [sameItems, ih]; rfl

theorem object_beq {lefts rights : List (String × Json)} :
    (object lefts == object rights) = (lefts.length == rights.length &&
      lefts.all fun entry => (Entries.get? entry.1 rights).any (entry.2 == ·)) := by
  change (_ && sameEntries lefts rights) = _
  congr 1
  induction lefts with
  | nil => rfl
  | cons entry lefts ih =>
      rw [sameEntries, List.all_cons, ih]
      cases Entries.get? entry.1 rights <;> rfl

/-- What data holds: arrays hold items, and objects entries. -/
def holding : Json → Holding Json
  | array items => .sequence items
  | object entries => .mapping entries
  | _ => .nothing

/-- Keys are distinct, and a number is a number. -/
def Proper : Json → Prop
  | object entries => (entries.map Prod.fst).Nodup
  | float number => number.isNaN = false
  | _ => True

/-- Leaves that are equal: doubles are compared as numbers, and all others are the same. -/
inductive LeafEqual : Json → Json → Prop
  | null : LeafEqual null null
  | bool (value : Bool) : LeafEqual (bool value) (bool value)
  | integer (value : Int) : LeafEqual (integer value) (integer value)
  | float {left right : Float} : left == right → LeafEqual (float left) (float right)
  | string (text : String) : LeafEqual (string text) (string text)

variable {left middle right part : Json}

theorem sizeOf_lt_of_held (held : part ∈ left.holding.parts) : sizeOf part < sizeOf left := by
  cases left with
  | array items =>
      have smaller : sizeOf part < sizeOf items := List.sizeOf_lt_of_mem held
      simp only [array.sizeOf_spec]
      omega
  | object entries =>
      obtain ⟨⟨key, _⟩, member, rfl⟩ := List.mem_map.1 held
      have smaller := List.sizeOf_lt_of_mem member
      simp only [object.sizeOf_spec, Prod.mk.sizeOf_spec] at smaller ⊢
      omega
  | _ => cases held

instance : Nested Json := ⟨holding, sizeOf_lt_of_held⟩

theorem Proper.keysDistinct (proper : left.Proper) : left.holding.KeysDistinct := by
  cases left <;> first | exact proper | trivial

theorem beq_eq_same (compound : ¬ (left.holding = .nothing ∧ right.holding = .nothing)) :
    (left == right) = left.holding.same right.holding := by
  cases left with
  | array _ => cases right <;> first | exact array_beq | rfl
  | object _ => cases right <;> first | exact object_beq | rfl
  | _ =>
      cases right with
      | array _ | object _ => rfl
      | _ => exact absurd ⟨rfl, rfl⟩ compound

/-- Equality of leaves is what `LeafEqual` says. -/
theorem beq_iff_leafEqual (leaf : left.holding = .nothing) :
    left == right ↔ LeafEqual left right := by
  constructor
  · intro equal
    change same left right = true at equal
    fun_cases same left right with
    | case1 => exact .null
    | case2 value other =>
        rw [same, beq_iff_eq] at equal
        exact equal ▸ .bool value
    | case3 value other =>
        rw [same, beq_iff_eq] at equal
        exact equal ▸ .integer value
    | case4 value other => exact .float equal
    | case5 text other =>
        rw [same, beq_iff_eq] at equal
        exact equal ▸ .string text
    | case6 | case7 => cases leaf
    | case8 => simp_all [same]
  · intro equal
    cases equal with
    | null => rfl
    | bool value => exact beq_self_eq_true value
    | integer value => exact beq_self_eq_true value
    | float equal => exact equal
    | string text => exact beq_self_eq_true text

theorem LeafEqual.symm (equal : LeafEqual left right) : LeafEqual right left := by
  cases equal with
  | float equal => exact .float (PartialEquivBEq.symm equal)
  | _ => constructor

theorem LeafEqual.trans (first : LeafEqual left middle) (second : LeafEqual middle right) :
    LeafEqual left right := by
  cases first with
  | float equal =>
      cases second with
      | float equal' => exact .float (PartialEquivBEq.trans equal equal')
  | _ => exact second

instance : Comparable Json where
  Proper := Proper
  keysDistinct := Proper.keysDistinct
  beq_eq_same := beq_eq_same
  leaf_symm _ leaf leaf' equal :=
    (beq_iff_leafEqual leaf').2 ((beq_iff_leafEqual leaf).1 equal).symm
  leaf_trans leaf leaf' _ first second :=
    (beq_iff_leafEqual leaf).2
      (((beq_iff_leafEqual leaf).1 first).trans ((beq_iff_leafEqual leaf').1 second))

@[simp] theorem wellFormed_integer (value : Int) : WellFormed (integer value) :=
  wellFormed_of_isLeaf rfl trivial

@[simp] theorem wellFormed_string (text : String) : WellFormed (string text) :=
  wellFormed_of_isLeaf rfl trivial

@[simp] theorem wellFormed_object_iff {entries : List (String × Json)} :
    WellFormed (object entries) ↔
      (entries.map Prod.fst).Nodup ∧ ∀ value ∈ Entries.values entries, WellFormed value :=
  wellFormed_iff

/-- Data equals itself. -/
theorem beq_self {tree : Json} (wellFormed : WellFormed tree) : tree == tree := by
  apply (beq_self_iff wellFormed).2
  intro leaf holds isLeaf
  apply (beq_iff_leafEqual isLeaf).2
  have proper : leaf.Proper := wellFormed leaf holds
  cases leaf with
  | null => exact .null
  | bool value => exact .bool value
  | integer value => exact .integer value
  | float number =>
      apply LeafEqual.float
      simpa [Json.Proper] using proper
  | string text => exact .string text
  | array _ | object _ => cases isLeaf

/-- Data is equal exactly if it differs only in the order of entries and in doubles that are equal
as numbers, as the two zeros are. -/
theorem beq_iff_permuted {tree other : Json} (wellFormed : WellFormed tree) :
    tree == other ↔ Nested.Permuted LeafEqual tree other :=
  Comparable.beq_iff_permuted (fun isLeaf => beq_iff_leafEqual isLeaf) wellFormed

/-- Two trees of data that differ only in the order of entries. -/
abbrev Permuted : Json → Json → Prop := Nested.Permuted Eq

theorem Permuted.object {entries arranged others : List (String × Json)}
    (perm : entries.Perm arranged) (sameKeys : arranged.map Prod.fst = others.map Prod.fst)
    (each : List.Forall₂ Permuted (Entries.values arranged) (Entries.values others)) :
    Permuted (object entries) (object others) :=
  .inside (.mapping perm sameKeys each)

/-- Data equals what differs from it only in the order of entries. -/
theorem beq_of_permuted {tree other : Json} (wellFormed : WellFormed tree)
    (permuted : Permuted tree other) : tree == other := by
  apply Comparable.beq_of_permuted _ wellFormed permuted (.inl (beq_self wellFormed))
  rintro leaf _ - rfl (self | self) <;> exact self

end SyntaxFold.Json
