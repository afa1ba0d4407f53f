import SyntaxFold.Proofs.Entries
import SyntaxFold.Proofs.Outcome
import SyntaxFold.Reduction.Member

/-!
# Filling in nodes

A value that was reduced without resolving may contain nodes. `Value.fill` puts in the place of each
of them what a given reduction makes of it. Scalars contain none, so filling leaves those as they
are.
-/

namespace SyntaxFold

open Outcome

namespace Value

mutual

/-- A value with every node inside it replaced by its reduction, up to the first that fails. -/
def fill (reduce : Json → Except FoldError Value) : Value → Except FoldError Value
  | sequence items => do
      let items ← fillItems reduce items
      return sequence items
  | mapping entries => do
      let entries ← fillEntries reduce entries
      return mapping entries
  | function stamp body => do
      let body ← fillCaptured reduce body
      return function stamp body
  | node tree => reduce tree
  | other => .ok other

/-- A function with every node that it has captured replaced. -/
def fillCaptured (reduce : Json → Except FoldError Value) : Callable → Except FoldError Callable
  | .mapItems items => do
      let items ← fillItems reduce items
      return .mapItems items
  | .constant name entries => do
      let entries ← fillEntries reduce entries
      return .constant name entries
  | other => .ok other

/-- The items of a sequence with every node replaced. -/
def fillItems (reduce : Json → Except FoldError Value) :
    List Value → Except FoldError (List Value)
  | [] => .ok []
  | item :: rest => do
      let item ← fill reduce item
      let rest ← fillItems reduce rest
      return item :: rest

/-- The entries of a mapping with every node replaced. -/
def fillEntries (reduce : Json → Except FoldError Value) :
    List (String × Value) → Except FoldError (List (String × Value))
  | [] => .ok []
  | (key, value) :: rest => do
      let value ← fill reduce value
      let rest ← fillEntries reduce rest
      return (key, value) :: rest

end

variable {reduce : Json → Except FoldError Value}

/-- Filling a value results in another. -/
def Fills (reduce : Json → Except FoldError Value) (value filled : Value) : Prop :=
  value.fill reduce = .ok filled

theorem fills_sequence {items filled : List Value}
    (each : List.Forall₂ (Fills reduce) items filled) :
    Fills reduce (sequence items) (sequence filled) := by
  have fillItems_eq : fillItems reduce items = .ok filled := by
    induction each with
    | nil => simp [fillItems]
    | cons head _ ih =>
        unfold Fills at head
        simp [fillItems, head, ih, pure, Except.pure]
  simp [Fills, fill, fillItems_eq, pure, Except.pure]

theorem forall₂_of_fillItems {items results : List Value}
    (filled : fillItems reduce items = .ok results) :
    List.Forall₂ (Fills reduce) items results := by
  induction items generalizing results with
  | nil =>
      cases filled
      exact .nil
  | cons item rest ih =>
      rcases bind_eq_ok_iff.1 filled with ⟨result, itemFills, onward⟩
      rcases bind_eq_ok_iff.1 onward with ⟨others, othersOk, same⟩
      cases same
      exact .cons itemFills (ih othersOk)

/-- A sequence is filled in item by item. -/
theorem Fills.exists_sequence {items : List Value} {filled : Value}
    (fills : Fills reduce (sequence items) filled) :
    ∃ results, filled = sequence results ∧ List.Forall₂ (Fills reduce) items results := by
  rcases bind_eq_ok_iff.1 fills with ⟨results, resultsOk, same⟩
  cases same
  exact ⟨results, rfl, forall₂_of_fillItems resultsOk⟩

theorem fills_mapping {entries filled : List (String × Value)}
    (matching : Entries.Matching (Fills reduce) entries filled) :
    Fills reduce (mapping entries) (mapping filled) := by
  have fillEntries_eq : fillEntries reduce entries = .ok filled := by
    induction matching with
    | nil => simp [fillEntries]
    | @cons entry entry' _ _ head _ ih =>
        obtain ⟨key, value⟩ := entry
        obtain ⟨key', value'⟩ := entry'
        obtain ⟨sameKey, valueFills⟩ := head
        cases sameKey
        unfold Fills at valueFills
        simp [fillEntries, valueFills, ih, pure, Except.pure]
  simp [Fills, fill, fillEntries_eq, pure, Except.pure]

theorem fills_self {value : Value} (scalar : value.isScalar = true) :
    Fills reduce value value := by
  cases value <;> first | rfl | cases scalar

theorem Fills.eq_of_isScalar {value filled : Value} (fills : Fills reduce value filled)
    (scalar : value.isScalar = true) : filled = value :=
  Except.ok.inj (fills.symm.trans (fills_self scalar))

/-- A key is made from a scalar. -/
theorem isScalar_of_keyOf {kind : String} {name : Value} {key : String}
    (keyed : keyOf kind name = .ok key) : name.isScalar = true := by
  cases name <;> first | rfl | cases keyed

end Value

end SyntaxFold
