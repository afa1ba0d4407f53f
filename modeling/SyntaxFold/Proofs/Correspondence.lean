import Mathlib.Data.List.Perm.Basic
import Mathlib.Data.List.Perm.Subperm
import SyntaxFold.Proofs.Entries

/-!
# Entries that correspond

Two lists of entries correspond when there are as many on both sides and every entry on the left has
a related one under its key on the right. This looks from left to right only. But the keys on the
left are distinct, and as many as those on the right, so no key on the right is left out: the
entries correspond from right to left as well, and can be put into the order of the right.
-/

namespace SyntaxFold.Entries

variable {κ α β γ : Type} [DecidableEq κ]

omit [DecidableEq κ] in
/-- Entries match when their keys are the same and their values are related in order. -/
theorem matching_iff {relation : α → β → Prop} {lefts : List (κ × α)} {rights : List (κ × β)} :
    Matching relation lefts rights ↔
      lefts.map Prod.fst = rights.map Prod.fst ∧
        List.Forall₂ relation (values lefts) (values rights) := by
  constructor
  · intro matching
    induction matching with
    | nil => exact ⟨rfl, .nil⟩
    | cons head _ ih =>
        constructor
        · rw [List.map_cons, List.map_cons, head.1, ih.1]
        · exact .cons head.2 ih.2
  · rintro ⟨sameKeys, related⟩
    induction lefts generalizing rights with
    | nil =>
        cases rights with
        | nil => exact .nil
        | cons right rights => cases sameKeys
    | cons left lefts ih =>
        cases rights with
        | nil => cases sameKeys
        | cons right rights =>
            rw [List.map_cons, List.map_cons, List.cons.injEq] at sameKeys
            cases related with
            | cons head tail => exact .cons ⟨sameKeys.1, head⟩ (ih sameKeys.2 tail)

/-- Where keys are distinct, every entry is found under its key. -/
theorem get?_of_mem {entries : List (κ × α)} (distinct : (entries.map Prod.fst).Nodup) {key : κ}
    {value : α} (member : (key, value) ∈ entries) : get? key entries = some value := by
  obtain ⟨before, after, rfl⟩ := List.append_of_mem member
  apply get?_append_cons_self
  intro present
  rw [List.map_append, List.nodup_append] at distinct
  exact distinct.2.2 key present key List.mem_cons_self rfl

/-- There are as many entries on the left as on the right, where each finds a related value under
its key. -/
structure Corresponding (relation : α → β → Prop) (lefts : List (κ × α))
    (rights : List (κ × β)) : Prop where
  size : lefts.length = rights.length
  found : ∀ {key : κ} {left : α}, (key, left) ∈ lefts →
    ∃ right, get? key rights = some right ∧ relation left right

/-- Whether entries correspond can be computed: equal counts, and one look-up for each entry on the
left. -/
theorem corresponding_beq_iff [BEq α] {lefts rights : List (κ × α)} :
    Corresponding (· == ·) lefts rights ↔
      (lefts.length == rights.length &&
        lefts.all fun entry => (get? entry.1 rights).any (entry.2 == ·)) = true := by
  rw [Bool.and_eq_true, beq_iff_eq, List.all_eq_true]
  constructor
  · intro corresponding
    constructor
    · exact corresponding.size
    · intro entry member
      exact (Option.any_eq_true _ _).2 (corresponding.found member)
  · rintro ⟨size, each⟩
    refine ⟨size, ?_⟩
    intro key left member
    exact (Option.any_eq_true _ _).1 (each (key, left) member)

namespace Corresponding

variable {relation : α → β → Prop} {lefts : List (κ × α)} {rights : List (κ × β)}

/-- Entries that correspond have the same keys, if those on the left are distinct. -/
theorem keys_perm (corresponding : Corresponding relation lefts rights)
    (distinct : (lefts.map Prod.fst).Nodup) :
    (lefts.map Prod.fst).Perm (rights.map Prod.fst) := by
  have contained : lefts.map Prod.fst ⊆ rights.map Prod.fst := by
    intro key present
    obtain ⟨⟨_, left⟩, member, rfl⟩ := List.mem_map.1 present
    obtain ⟨right, found, -⟩ := corresponding.found member
    exact List.mem_map_of_mem (mem_of_get? found)
  apply (List.subperm_of_subset distinct contained).perm_of_length_le
  rw [List.length_map, List.length_map, corresponding.size]

theorem symm (corresponding : Corresponding relation lefts rights)
    (distinct : (lefts.map Prod.fst).Nodup) {converse : β → α → Prop}
    (back : ∀ left ∈ values lefts, ∀ right, relation left right → converse right left) :
    Corresponding converse rights lefts where
  size := corresponding.size.symm
  found := by
    intro key right member
    have keys := corresponding.keys_perm distinct
    -- The key occurs on the left as well, and what corresponds to it there is this entry.
    obtain ⟨⟨_, left⟩, leftMember, rfl⟩ :=
      List.mem_map.1 (keys.mem_iff.2 (List.mem_map_of_mem member))
    obtain ⟨other, found, related⟩ := corresponding.found leftMember
    have isRight := get?_of_mem (keys.nodup_iff.1 distinct) member
    obtain rfl := Option.some.inj (found.symm.trans isRight)
    refine ⟨left, get?_of_mem distinct leftMember, ?_⟩
    exact back left (List.mem_map_of_mem leftMember) other related

theorem trans {onward : β → γ → Prop} {across : α → γ → Prop} {others : List (κ × γ)}
    (first : Corresponding relation lefts rights) (second : Corresponding onward rights others)
    (through : ∀ left ∈ values lefts, ∀ right other, relation left right → onward right other →
      across left other) :
    Corresponding across lefts others where
  size := first.size.trans second.size
  found := by
    intro key left member
    obtain ⟨right, found, related⟩ := first.found member
    obtain ⟨other, foundOther, relatedOther⟩ := second.found (mem_of_get? found)
    refine ⟨other, foundOther, ?_⟩
    exact through left (List.mem_map_of_mem member) right other related relatedOther

/-- Entries with distinct keys correspond to themselves exactly if each value is related to
itself. -/
theorem self_iff {relation : α → α → Prop} {entries : List (κ × α)}
    (distinct : (entries.map Prod.fst).Nodup) :
    Corresponding relation entries entries ↔ ∀ value ∈ values entries, relation value value := by
  constructor
  · intro corresponding value present
    obtain ⟨⟨key, _⟩, member, rfl⟩ := List.mem_map.1 present
    obtain ⟨other, found, related⟩ := corresponding.found member
    rw [get?_of_mem distinct member] at found
    exact Option.some.inj found ▸ related
  · intro related
    refine ⟨rfl, ?_⟩
    intro key value member
    exact ⟨value, get?_of_mem distinct member, related value (List.mem_map_of_mem member)⟩

/-- Entries correspond to those that come out when they are put into another order and their values
are replaced by related ones. -/
theorem of_perm {arranged : List (κ × α)} (perm : lefts.Perm arranged)
    (distinct : (lefts.map Prod.fst).Nodup) (matching : Matching relation arranged rights) :
    Corresponding relation lefts rights where
  size := perm.length_eq.trans matching.length_eq
  found := by
    intro key left member
    have distinctArranged : (arranged.map Prod.fst).Nodup :=
      (perm.map Prod.fst).nodup_iff.1 distinct
    have found := get?_of_mem distinctArranged (perm.mem_iff.1 member)
    have under := matching.get? key
    rw [found] at under
    generalize stands : get? key rights = other at under
    cases under with
    | some related => exact ⟨_, rfl, related⟩

/-- Conversely, the left side of entries that correspond can be put into the order of the right. -/
theorem exists_arranged (corresponding : Corresponding relation lefts rights)
    (distinct : (lefts.map Prod.fst).Nodup) :
    ∃ arranged, lefts.Perm arranged ∧ Matching relation arranged rights := by
  have keys := corresponding.keys_perm distinct
  have byKey : List.Forall₂ (fun key entry => key = entry.1) (lefts.map Prod.fst) lefts :=
    List.forall₂_map_left_iff.2 (List.forall₂_same.2 fun _ _ => rfl)
  obtain ⟨arranged, sameKeys, perm⟩ := List.perm_comp_forall₂ keys.symm byKey
  rw [List.forall₂_map_left_iff, List.forall₂_iff_zip] at sameKeys
  refine ⟨arranged, perm.symm, List.Forall₂.flip (List.forall₂_iff_zip.2 ⟨sameKeys.1, ?_⟩)⟩
  rintro ⟨_, right⟩ ⟨key, left⟩ zipped
  obtain ⟨rightMember, leftMember⟩ := List.of_mem_zip zipped
  obtain rfl := sameKeys.2 zipped
  -- What corresponds to the entry on the left is the entry beside it, as that has the same key.
  obtain ⟨other, found, related⟩ := corresponding.found (perm.mem_iff.1 leftMember)
  have isRight := get?_of_mem (keys.nodup_iff.1 distinct) rightMember
  obtain rfl := Option.some.inj (found.symm.trans isRight)
  exact ⟨rfl, related⟩

end Corresponding

end SyntaxFold.Entries
