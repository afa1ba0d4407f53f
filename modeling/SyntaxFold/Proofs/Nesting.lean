import SyntaxFold.Proofs.Entries

/-!
# Trees that hold trees

Data and values are trees with the same two kinds of inner nodes: sequences, which hold items in
order, and mappings, which hold entries under keys. All other trees are leaves. What follows for a
tree from all that it holds, holds of every tree.
-/

namespace SyntaxFold

/-- What a tree holds directly: nothing, items in order, or entries under keys. -/
inductive Holding (τ : Type) where
  | nothing
  | sequence (items : List τ)
  | mapping (entries : List (String × τ))

/-- The trees that are held. -/
def Holding.parts {τ : Type} : Holding τ → List τ
  | nothing => []
  | sequence items => items
  | mapping entries => Entries.values entries

/-- A type of trees that may hold others. -/
class Nested (τ : Type) [SizeOf τ] where
  holding : τ → Holding τ
  smaller : ∀ {tree part : τ}, part ∈ (holding tree).parts → sizeOf part < sizeOf tree

namespace Nested

variable {τ : Type} [SizeOf τ] [Nested τ]

/-- A tree that holds no others. -/
def IsLeaf (tree : τ) : Prop := holding tree = .nothing

/-- The second tree is the first one or lies inside it, on any level. -/
inductive Holds : τ → τ → Prop
  | self (tree : τ) : Holds tree tree
  | inside {tree part inner : τ} :
      part ∈ (holding tree).parts → Holds part inner → Holds tree inner

theorem Holds.eq_of_isLeaf {leaf inner : τ} (holds : Holds leaf inner) (isLeaf : IsLeaf leaf) :
    inner = leaf := by
  cases holds with
  | self => rfl
  | inside member _ =>
      rw [isLeaf] at member
      cases member

/-- What follows for a tree from all that it holds, holds of every tree. -/
theorem holding_induction {motive : τ → Prop}
    (step : ∀ tree, (∀ part ∈ (holding tree).parts, motive part) → motive tree) (tree : τ) :
    motive tree :=
  step tree fun part member =>
    have := smaller member
    holding_induction step part
termination_by sizeOf tree

end Nested

end SyntaxFold
