import SyntaxFold.Proofs.Correspondence
import SyntaxFold.Proofs.Nesting

/-!
# Trees that are compared level by level

Sequences are equal item by item, and mappings key by key in any order; when leaves are equal is up
to the type. So trees are equal exactly if they differ only in the order of entries and in leaves
that are equal. The laws of such an equality follow from those of its leaves: it is symmetric and
transitive if these are; a tree equals itself exactly if all of its leaves do; and then it equals
every tree that differs only in the order of entries.
-/

namespace SyntaxFold

section Lists

variable {α β γ : Type} {relation : α → β → Prop} {lefts : List α} {rights : List β}

theorem forall₂_imp_of_mem {implied : α → β → Prop} (related : List.Forall₂ relation lefts rights)
    (imp : ∀ left ∈ lefts, ∀ right ∈ rights, relation left right → implied left right) :
    List.Forall₂ implied lefts rights := by
  induction related with
  | nil => exact .nil
  | cons head _ ih =>
      apply List.Forall₂.cons
      · exact imp _ List.mem_cons_self _ List.mem_cons_self head
      · apply ih
        intro left leftMember right rightMember
        apply imp left (List.mem_cons_of_mem _ leftMember) right
        exact List.mem_cons_of_mem _ rightMember

theorem forall₂_trans {onward : β → γ → Prop} {across : α → γ → Prop} {others : List γ}
    (first : List.Forall₂ relation lefts rights) (second : List.Forall₂ onward rights others)
    (through : ∀ left ∈ lefts, ∀ right other, relation left right → onward right other →
      across left other) :
    List.Forall₂ across lefts others := by
  induction first generalizing others with
  | nil =>
      cases second
      exact .nil
  | cons head _ ih =>
      cases second with
      | cons head' tail' =>
          apply List.Forall₂.cons
          · exact through _ List.mem_cons_self _ _ head head'
          · apply ih tail'
            intro left member
            exact through left (List.mem_cons_of_mem _ member)

theorem forall₂_beq_iff [BEq α] {lefts rights : List α} :
    List.Forall₂ (· == ·) lefts rights ↔ (lefts == rights) = true := by
  induction lefts generalizing rights with
  | nil => cases rights <;> simp
  | cons left lefts ih => cases rights <;> simp [ih]

end Lists

/-! ## What two trees hold -/

namespace Holding

variable {τ : Type}

/-- If there are entries, their keys are distinct. -/
def KeysDistinct : Holding τ → Prop
  | .mapping entries => (entries.map Prod.fst).Nodup
  | _ => True

/-- Two trees hold related ones: items in order, entries by key. -/
inductive Related (relation : τ → τ → Prop) : Holding τ → Holding τ → Prop
  | sequence {lefts rights : List τ} :
      List.Forall₂ relation lefts rights → Related relation (.sequence lefts) (.sequence rights)
  | mapping {lefts rights : List (String × τ)} :
      Entries.Corresponding relation lefts rights →
        Related relation (.mapping lefts) (.mapping rights)

/-- Whether two trees hold equal ones. -/
def same [BEq τ] : Holding τ → Holding τ → Bool
  | .sequence lefts, .sequence rights => lefts == rights
  | .mapping lefts, .mapping rights => lefts.length == rights.length &&
      lefts.all fun entry => (Entries.get? entry.1 rights).any (entry.2 == ·)
  | _, _ => false

/-- Two trees hold related ones after the entries of the first were put into another order. -/
inductive Arranged (relation : τ → τ → Prop) : Holding τ → Holding τ → Prop
  | sequence {lefts rights : List τ} :
      List.Forall₂ relation lefts rights → Arranged relation (.sequence lefts) (.sequence rights)
  | mapping {lefts arranged rights : List (String × τ)} :
      lefts.Perm arranged → arranged.map Prod.fst = rights.map Prod.fst →
        List.Forall₂ relation (Entries.values arranged) (Entries.values rights) →
          Arranged relation (.mapping lefts) (.mapping rights)

variable {relation : τ → τ → Prop} {left right : Holding τ}

theorem related_sequence_iff {lefts rights : List τ} :
    Related relation (.sequence lefts) (.sequence rights) ↔
      List.Forall₂ relation lefts rights := by
  constructor
  · rintro ⟨each⟩
    exact each
  · exact .sequence

theorem related_mapping_iff {lefts rights : List (String × τ)} :
    Related relation (.mapping lefts) (.mapping rights) ↔
      Entries.Corresponding relation lefts rights := by
  constructor
  · rintro (_ | corresponding)
    exact corresponding
  · exact .mapping

theorem related_beq_iff [BEq τ] :
    Related (· == ·) left right ↔ left.same right = true := by
  constructor
  · intro related
    cases related with
    | sequence each => exact forall₂_beq_iff.1 each
    | mapping corresponding => exact Entries.corresponding_beq_iff.1 corresponding
  · intro same
    fun_cases Holding.same left right with
    | case1 => exact .sequence (forall₂_beq_iff.2 same)
    | case2 => exact .mapping (Entries.corresponding_beq_iff.2 same)
    | case3 => simp_all [Holding.same]

theorem Related.compound (related : Related relation left right) :
    left ≠ .nothing ∧ right ≠ .nothing := by
  cases related <;> simp

theorem Related.symm (related : Related relation left right) (distinct : left.KeysDistinct)
    (back : ∀ part ∈ left.parts, ∀ other, relation part other → relation other part) :
    Related relation right left := by
  cases related with
  | @sequence lefts rights each =>
      have flipped : List.Forall₂ (flip relation) lefts rights :=
        forall₂_imp_of_mem each fun part member other _ => back part member other
      exact .sequence flipped.flip
  | mapping corresponding => exact .mapping (Entries.Corresponding.symm corresponding distinct back)

theorem Related.trans {other : Holding τ} (first : Related relation left right)
    (second : Related relation right other)
    (through : ∀ part ∈ left.parts, ∀ middle last, relation part middle → relation middle last →
      relation part last) :
    Related relation left other := by
  cases first with
  | sequence each =>
      cases second with
      | sequence onward => exact .sequence (forall₂_trans each onward through)
  | mapping corresponding =>
      cases second with
      | mapping onward => exact .mapping (Entries.Corresponding.trans corresponding onward through)

/-- What holds something is related to itself exactly if all that it holds is. -/
theorem related_self_iff {holding : Holding τ} (compound : holding ≠ .nothing)
    (distinct : holding.KeysDistinct) :
    Related relation holding holding ↔ ∀ part ∈ holding.parts, relation part part := by
  cases holding with
  | nothing => exact absurd rfl compound
  | sequence items =>
      exact related_sequence_iff.trans List.forall₂_same
  | mapping entries =>
      exact related_mapping_iff.trans (Entries.Corresponding.self_iff distinct)

theorem Arranged.compound (arranged : Arranged relation left right) :
    left ≠ .nothing ∧ right ≠ .nothing := by
  cases arranged <;> simp

/-- Where trees hold the same in another order, the keys are as distinct on the right as on the
left. -/
theorem Arranged.keysDistinct (arranged : Arranged relation left right)
    (distinct : left.KeysDistinct) : right.KeysDistinct := by
  cases arranged with
  | sequence _ => trivial
  | mapping perm sameKeys _ =>
      rw [KeysDistinct, ← sameKeys]
      exact (perm.map Prod.fst).nodup_iff.1 distinct

/-- What is held in another order is related by key. -/
theorem Arranged.related {implied : τ → τ → Prop} (arranged : Arranged relation left right)
    (distinct : left.KeysDistinct)
    (imp : ∀ part ∈ left.parts, ∀ other ∈ right.parts, relation part other → implied part other) :
    Related implied left right := by
  cases arranged with
  | sequence each => exact .sequence (forall₂_imp_of_mem each imp)
  | mapping perm sameKeys each =>
      apply Related.mapping
      apply Entries.Corresponding.of_perm perm distinct
      refine Entries.matching_iff.2 ⟨sameKeys, forall₂_imp_of_mem each ?_⟩
      intro part member
      exact imp part ((perm.map Prod.snd).mem_iff.2 member)

/-- Conversely, what is related by key is held in another order. -/
theorem Related.arranged {implied : τ → τ → Prop} (related : Related relation left right)
    (distinct : left.KeysDistinct)
    (imp : ∀ part ∈ left.parts, ∀ other, relation part other → implied part other) :
    Arranged implied left right := by
  cases related with
  | sequence each =>
      exact .sequence (forall₂_imp_of_mem each fun part member other _ => imp part member other)
  | mapping corresponding =>
      obtain ⟨arranged, perm, matching⟩ := corresponding.exists_arranged distinct
      obtain ⟨sameKeys, each⟩ := Entries.matching_iff.1 matching
      refine .mapping perm sameKeys (forall₂_imp_of_mem each ?_)
      intro part member other _
      exact imp part ((perm.map Prod.snd).mem_iff.2 member) other

end Holding

/-! ## Comparable trees -/

open Nested

/-- Two trees differ only in the order of entries, on any level, and in leaves that are related. -/
inductive Nested.Permuted {τ : Type} [SizeOf τ] [Nested τ] (leaves : τ → τ → Prop) : τ → τ → Prop
  | leaf {tree other : τ} :
      IsLeaf tree → IsLeaf other → leaves tree other → Permuted leaves tree other
  | inside {tree other : τ} :
      Holding.Arranged (Permuted leaves) (holding tree) (holding other) →
        Permuted leaves tree other

/-- A type of trees whose equality looks at what they hold, level by level. `Proper` is what the
type requires of each tree by itself: that keys are distinct, and whatever the equality of leaves
relies on. -/
class Comparable (τ : Type) [SizeOf τ] [Nested τ] [BEq τ] where
  Proper : τ → Prop
  keysDistinct : ∀ {tree : τ}, Proper tree → (holding tree).KeysDistinct
  beq_eq_same : ∀ {left right : τ}, ¬ (holding left = .nothing ∧ holding right = .nothing) →
    (left == right) = (holding left).same (holding right)
  leaf_symm : ∀ {left right : τ}, Proper left → holding left = .nothing →
    holding right = .nothing → left == right → right == left
  leaf_trans : ∀ {left middle right : τ}, holding left = .nothing → holding middle = .nothing →
    holding right = .nothing → left == middle → middle == right → left == right

namespace Comparable

variable {τ : Type} [SizeOf τ] [Nested τ] [BEq τ] [Comparable τ]

/-- A tree in which every level is as the type requires. -/
def WellFormed (tree : τ) : Prop := ∀ inner, Holds tree inner → Proper inner

theorem beq_iff {left right : τ} (compound : ¬ (IsLeaf left ∧ IsLeaf right)) :
    left == right ↔ Holding.Related (· == ·) (holding left) (holding right) := by
  rw [beq_eq_same compound]
  exact Holding.related_beq_iff.symm

theorem WellFormed.proper {tree : τ} (wellFormed : WellFormed tree) : Proper tree :=
  wellFormed tree (.self tree)

theorem WellFormed.part {tree part : τ} (wellFormed : WellFormed tree)
    (member : part ∈ (holding tree).parts) : WellFormed part := by
  intro inner holds
  exact wellFormed inner (.inside member holds)

theorem wellFormed_iff {tree : τ} :
    WellFormed tree ↔ Proper tree ∧ ∀ part ∈ (holding tree).parts, WellFormed part := by
  constructor
  · intro wellFormed
    exact ⟨wellFormed.proper, fun part => wellFormed.part⟩
  · rintro ⟨proper, parts⟩ inner holds
    cases holds with
    | self => exact proper
    | @inside _ part _ member holds => exact parts part member inner holds

theorem wellFormed_of_isLeaf {leaf : τ} (isLeaf : IsLeaf leaf) (proper : Proper leaf) :
    WellFormed leaf := by
  rw [wellFormed_iff, isLeaf]
  refine ⟨proper, ?_⟩
  intro part member
  cases member

/-! ## The laws of equality -/

theorem beq_symm {left right : τ} (wellFormed : WellFormed left) (equal : left == right) :
    right == left := by
  induction left using holding_induction generalizing right with
  | step left ih =>
      by_cases leaves : IsLeaf left ∧ IsLeaf right
      · exact leaf_symm wellFormed.proper leaves.1 leaves.2 equal
      · have flipped : ¬ (IsLeaf right ∧ IsLeaf left) := mt And.symm leaves
        rw [beq_iff leaves] at equal
        rw [beq_iff flipped]
        apply equal.symm (keysDistinct wellFormed.proper)
        intro part member other
        exact ih part member (wellFormed.part member)

/-- A leaf is equal to leaves only. -/
theorem isLeaf_of_beq {left right : τ} (equal : left == right) (leaf : IsLeaf left ∨ IsLeaf right) :
    IsLeaf left ∧ IsLeaf right := by
  by_contra compound
  rw [beq_iff compound] at equal
  rcases leaf with leaf | leaf
  · exact equal.compound.1 leaf
  · exact equal.compound.2 leaf

theorem beq_trans {left middle right : τ} (first : left == middle) (second : middle == right) :
    left == right := by
  induction left using holding_induction generalizing middle right with
  | step left ih =>
      -- Leaves are equal to leaves only, so either all three trees are leaves or none is.
      by_cases leaf : IsLeaf middle
      · have leftLeaf := (isLeaf_of_beq first (.inr leaf)).1
        have rightLeaf := (isLeaf_of_beq second (.inl leaf)).2
        exact leaf_trans leftLeaf leaf rightLeaf first second
      · have compound : ¬ IsLeaf left := fun isLeaf => leaf (isLeaf_of_beq first (.inl isLeaf)).2
        rw [beq_iff fun leaves => leaf leaves.2] at first
        rw [beq_iff fun leaves => leaf leaves.1] at second
        rw [beq_iff fun leaves => compound leaves.1]
        apply first.trans second
        intro part member middle last
        exact ih part member

/-- A tree that holds something equals itself exactly if all that it holds does. -/
theorem beq_self_iff_parts {tree : τ} (compound : ¬ IsLeaf tree)
    (distinct : (holding tree).KeysDistinct) :
    tree == tree ↔ ∀ part ∈ (holding tree).parts, part == part := by
  rw [beq_iff fun leaves => compound leaves.1]
  exact Holding.related_self_iff compound distinct

/-- A tree equals itself exactly if all leaves inside it do. -/
theorem beq_self_iff {tree : τ} (wellFormed : WellFormed tree) :
    tree == tree ↔ ∀ leaf, Holds tree leaf → IsLeaf leaf → leaf == leaf := by
  induction tree using holding_induction with
  | step tree ih =>
      by_cases isLeaf : IsLeaf tree
      · constructor
        · intro equal leaf holds _
          rw [holds.eq_of_isLeaf isLeaf]
          exact equal
        · intro leaves
          exact leaves tree (.self tree) isLeaf
      · rw [beq_self_iff_parts isLeaf (keysDistinct wellFormed.proper)]
        constructor
        · intro parts leaf holds leafIsLeaf
          cases holds with
          | self => exact absurd leafIsLeaf isLeaf
          | @inside _ part _ member holds =>
              exact (ih part member (wellFormed.part member)).1 (parts part member) leaf holds
                leafIsLeaf
        · intro leaves part member
          apply (ih part member (wellFormed.part member)).2
          intro leaf holds
          exact leaves leaf (.inside member holds)

/-! ## Other orders of entries -/

/-- Trees are equal exactly if they differ only in the order of entries and in leaves that are
equal. -/
theorem beq_iff_permuted {leaves : τ → τ → Prop}
    (leaf_beq_iff : ∀ {left right : τ}, IsLeaf left → (left == right ↔ leaves left right))
    {left right : τ} (wellFormed : WellFormed left) :
    left == right ↔ Permuted leaves left right := by
  induction left using holding_induction generalizing right with
  | step left ih =>
      by_cases areLeaves : IsLeaf left ∧ IsLeaf right
      · rw [leaf_beq_iff areLeaves.1]
        constructor
        · exact .leaf areLeaves.1 areLeaves.2
        · intro permuted
          cases permuted with
          | leaf _ _ related => exact related
          | inside arranged => exact absurd areLeaves.1 arranged.compound.1
      · have distinct := keysDistinct wellFormed.proper
        rw [beq_iff areLeaves]
        constructor
        · intro related
          apply Permuted.inside
          apply related.arranged distinct
          intro part member other
          exact (ih part member (wellFormed.part member)).1
        · intro permuted
          cases permuted with
          | leaf isLeaf isLeaf' _ => exact absurd ⟨isLeaf, isLeaf'⟩ areLeaves
          | inside arranged =>
              apply arranged.related distinct
              intro part member other _
              exact (ih part member (wellFormed.part member)).2

/-- Trees that differ only in the order of entries are equal if one of them equals itself, provided
that this holds of the leaves. -/
theorem beq_of_permuted {leaves : τ → τ → Prop}
    (leaf_beq : ∀ {tree other : τ}, Proper tree → leaves tree other →
      (tree == tree ∨ other == other) → tree == other)
    {tree other : τ} (wellFormed : WellFormed tree) (permuted : Permuted leaves tree other)
    (self : tree == tree ∨ other == other) : tree == other := by
  induction tree using holding_induction generalizing other with
  | step tree ih =>
      cases permuted with
      | leaf _ _ related => exact leaf_beq wellFormed.proper related self
      | inside arranged =>
          have distinct := keysDistinct wellFormed.proper
          have compound := arranged.compound
          rw [beq_iff fun leaves => compound.1 leaves.1]
          apply arranged.related distinct
          intro part member otherPart otherMember permuted
          apply ih part member (wellFormed.part member) permuted
          -- The tree that equals itself hands this down to its part.
          apply self.imp
          · intro equal
            exact (beq_self_iff_parts compound.1 distinct).1 equal part member
          · intro equal
            have otherDistinct := arranged.keysDistinct distinct
            exact (beq_self_iff_parts compound.2 otherDistinct).1 equal otherPart otherMember

end Comparable

end SyntaxFold
