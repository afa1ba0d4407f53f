import Mathlib.Data.Finset.Card
import Mathlib.Data.List.Forall2
import Mathlib.Data.List.Induction
import SyntaxFold.Entries

/-!
# The values of ordered entries

Inserting and removing entries only rearranges the values that were there: every value of the result
is one that was put in, and where it ends up depends on the keys alone. The entry that is found
under a key is the first one with it, and removing the key closes the gap. Of several pairs with one
key the first gives the place and the last the value, so what the pairs leave under a key is found
first from their end. Entries with the same keys and with related values still have both after the
same insertions, and pairs whose keys are distinct stay as they are.
-/

namespace SyntaxFold.Entries

variable {κ α : Type} [DecidableEq κ]

/-- The values of entries, in order. -/
def values (entries : List (κ × α)) : List α := entries.map Prod.snd

theorem mem_of_get? {key : κ} {value : α} {entries : List (κ × α)}
    (found : get? key entries = some value) : (key, value) ∈ entries := by
  induction entries with
  | nil => cases found
  | cons entry rest ih =>
      simp only [get?] at found
      split at found
      · next same =>
          cases found
          subst same
          exact List.mem_cons_self
      · exact List.mem_cons_of_mem _ (ih found)

theorem mem_values_of_get? {key : κ} {value : α} {entries : List (κ × α)}
    (found : get? key entries = some value) : value ∈ values entries :=
  List.mem_map_of_mem (mem_of_get? found)

theorem mem_values_insert {key : κ} {value other : α} {entries : List (κ × α)}
    (member : other ∈ values (insert key value entries)) :
    other = value ∨ other ∈ values entries := by
  induction entries with
  | nil => exact Or.inl (List.mem_singleton.1 member)
  | cons entry rest ih =>
      simp only [insert] at member
      split at member
      · rcases List.mem_cons.1 member with rfl | inRest
        · exact Or.inl rfl
        · exact Or.inr (List.mem_cons_of_mem _ inRest)
      · rcases List.mem_cons.1 member with rfl | inRest
        · exact Or.inr List.mem_cons_self
        · rcases ih inRest with same | old
          · exact Or.inl same
          · exact Or.inr (List.mem_cons_of_mem _ old)

theorem mem_values_remove {key : κ} {value : α} {entries : List (κ × α)}
    (member : value ∈ values (remove key entries)) : value ∈ values entries := by
  induction entries with
  | nil => exact member
  | cons entry rest ih =>
      simp only [remove] at member
      split at member
      · exact List.mem_cons_of_mem _ member
      · rcases List.mem_cons.1 member with rfl | inRest
        · exact List.mem_cons_self
        · exact List.mem_cons_of_mem _ (ih inRest)

theorem get?_append (key : κ) (entries others : List (κ × α)) :
    get? key (entries ++ others) = (get? key entries).or (get? key others) := by
  induction entries with
  | nil => rfl
  | cons entry rest ih =>
      rw [List.cons_append, get?, get?]
      split
      · rfl
      · exact ih

/-- Removing a key leaves the other keys as they are. -/
theorem get?_remove_of_ne {key other : κ} (different : other ≠ key) (entries : List (κ × α)) :
    get? other (remove key entries) = get? other entries := by
  induction entries with
  | nil => rfl
  | cons entry rest ih =>
      by_cases same : entry.1 = key
      · simp [remove, get?, same, Ne.symm different]
      · simp [remove, get?, same, ih]

private theorem mem_values_foldl_insert {pairs entries : List (κ × α)} {value : α}
    (member : value ∈
      values (pairs.foldl (fun entries pair => insert pair.1 pair.2 entries) entries)) :
    value ∈ values pairs ∨ value ∈ values entries := by
  induction pairs generalizing entries with
  | nil => exact Or.inr member
  | cons pair rest ih =>
      rcases ih member with inRest | inserted
      · exact Or.inl (List.mem_cons_of_mem _ inRest)
      · rcases mem_values_insert inserted with rfl | old
        · exact Or.inl List.mem_cons_self
        · exact Or.inr old

theorem mem_values_ofPairs {pairs : List (κ × α)} {value : α}
    (member : value ∈ values (ofPairs pairs)) : value ∈ values pairs := by
  rcases mem_values_foldl_insert member with inPairs | inNil
  · exact inPairs
  · cases inNil

/-! ## Where an entry stands -/

/-- The value that is found is that of the first entry with the key. -/
theorem exists_append_of_get? {key : κ} {value : α} {entries : List (κ × α)}
    (found : get? key entries = some value) :
    ∃ before after, entries = before ++ (key, value) :: after ∧ key ∉ before.map Prod.fst := by
  induction entries with
  | nil => cases found
  | cons entry rest ih =>
      simp only [get?] at found
      split at found
      · next same =>
          cases found
          exact ⟨[], rest, by rw [← same, List.nil_append], List.not_mem_nil⟩
      · next different =>
          obtain ⟨before, after, rfl, absent⟩ := ih found
          refine ⟨entry :: before, after, rfl, ?_⟩
          rw [List.map_cons, List.mem_cons, not_or]
          exact ⟨Ne.symm different, absent⟩

/-- What is found under a key stands where the key first occurs. -/
theorem getElem?_values_of_get? {key : κ} {value : α} {entries : List (κ × α)}
    (found : get? key entries = some value) :
    (values entries)[(entries.map Prod.fst).idxOf key]? = some value := by
  induction entries with
  | nil => cases found
  | cons entry rest ih =>
      rw [get?] at found
      rw [List.map_cons, List.idxOf_cons]
      split at found
      · next same =>
          cases found
          simp [values, same]
      · next different =>
          rw [beq_false_of_ne different]
          exact ih found

section Standing

variable {key : κ} {before : List (κ × α)} (absent : key ∉ before.map Prod.fst) (value : α)
variable (after : List (κ × α))
include absent

theorem get?_append_cons_self : get? key (before ++ (key, value) :: after) = some value := by
  induction before with
  | nil => simp [get?]
  | cons entry rest ih =>
      rw [List.map_cons, List.mem_cons, not_or] at absent
      rw [List.cons_append, get?, if_neg (Ne.symm absent.1), ih absent.2]

/-- Removing a key closes the gap; all other entries keep their order. -/
theorem remove_append_cons_self :
    remove key (before ++ (key, value) :: after) = before ++ after := by
  induction before with
  | nil => simp [remove]
  | cons entry rest ih =>
      rw [List.map_cons, List.mem_cons, not_or] at absent
      rw [List.cons_append, remove, if_neg (Ne.symm absent.1), ih absent.2, List.cons_append]

end Standing

section Listed

variable (holds : κ → α → Prop) {keys : List κ} {entries : List (κ × α)}
variable (each : List.Forall₂ (fun key entry => entry.1 = key ∧ holds key entry.2) keys entries)
include each

omit [DecidableEq κ] in
/-- Entries that are made for keys, one after the other, have these keys. -/
theorem keys_of_forall₂ : entries.map Prod.fst = keys := by
  induction each with
  | nil => rfl
  | cons head _ ih => rw [List.map_cons, head.1, ih]

theorem exists_get?_of_forall₂ {key : κ} (listed : key ∈ keys) :
    ∃ value, get? key entries = some value ∧ holds key value := by
  induction each with
  | nil => cases listed
  | @cons first entry keys entries head _ ih =>
      by_cases same : entry.1 = key
      · rw [get?, if_pos same]
        exact ⟨entry.2, rfl, same ▸ head.1 ▸ head.2⟩
      · rw [get?, if_neg same]
        apply ih
        exact (List.mem_cons.1 listed).resolve_left fun here => same (head.1.trans here.symm)

end Listed

/-! ## Entries with distinct keys -/

/-- A new key comes last. -/
theorem insert_of_not_mem {key : κ} {entries : List (κ × α)}
    (absent : key ∉ entries.map Prod.fst) (value : α) :
    insert key value entries = entries ++ [(key, value)] := by
  induction entries with
  | nil => rfl
  | cons entry rest ih =>
      simp only [List.map_cons, List.mem_cons, not_or] at absent
      rw [insert, if_neg (Ne.symm absent.1), ih absent.2, List.cons_append]

private theorem foldl_insert_of_nodup {pairs entries : List (κ × α)}
    (distinct : ((entries ++ pairs).map Prod.fst).Nodup) :
    pairs.foldl (fun entries pair => insert pair.1 pair.2 entries) entries = entries ++ pairs := by
  induction pairs generalizing entries with
  | nil => simp
  | cons pair rest ih =>
      have absent : pair.1 ∉ entries.map Prod.fst := by
        rw [List.map_append, List.nodup_append] at distinct
        intro present
        exact distinct.2.2 pair.1 present pair.1 List.mem_cons_self rfl
      rw [List.foldl_cons, insert_of_not_mem absent, ih (by simpa using distinct)]
      simp

/-- Pairs with distinct keys stay as they are. -/
theorem ofPairs_of_nodup {pairs : List (κ × α)} (distinct : (pairs.map Prod.fst).Nodup) :
    ofPairs pairs = pairs :=
  foldl_insert_of_nodup distinct

/-! ## The last pair with a key -/

theorem contains_of_mem_keys {key : κ} {entries : List (κ × α)}
    (present : key ∈ entries.map Prod.fst) : contains key entries = true := by
  induction entries with
  | nil => cases present
  | cons entry rest ih =>
      by_cases same : entry.1 = key
      · simp [contains, get?, same]
      · rcases List.mem_cons.1 present with here | inRest
        · exact absurd here.symm same
        · simpa [contains, get?, same] using ih inRest

theorem contains_eq_true_iff {key : κ} {entries : List (κ × α)} :
    contains key entries = true ↔ key ∈ entries.map Prod.fst := by
  constructor
  · intro present
    rcases Option.isSome_iff_exists.1 present with ⟨value, found⟩
    exact List.mem_map_of_mem (mem_of_get? found)
  · exact contains_of_mem_keys

theorem get?_eq_none_iff {key : κ} {entries : List (κ × α)} :
    get? key entries = none ↔ key ∉ entries.map Prod.fst := by
  rw [← contains_eq_true_iff, contains, Option.not_isSome_iff_eq_none]

theorem nodup_keys_insert {entries : List (κ × α)} (distinct : (entries.map Prod.fst).Nodup)
    (key : κ) (value : α) : ((insert key value entries).map Prod.fst).Nodup := by
  rw [keys_insert]
  split
  · exact distinct
  · next absent =>
      refine List.nodup_append.2 ⟨distinct, by simp, ?_⟩
      rintro other present last member rfl
      obtain rfl := List.mem_singleton.1 member
      exact absent (contains_of_mem_keys present)

/-- After an insertion the new value stands under its key, and nothing else has changed. -/
theorem mem_insert {entries : List (κ × α)} (distinct : (entries.map Prod.fst).Nodup)
    {key : κ} {value : α} {entry : κ × α} (member : entry ∈ insert key value entries) :
    entry = (key, value) ∨ entry.1 ≠ key ∧ entry ∈ entries := by
  induction entries with
  | nil => exact Or.inl (List.mem_singleton.1 member)
  | cons first rest ih =>
      rw [List.map_cons, List.nodup_cons] at distinct
      simp only [insert] at member
      split at member
      · next same =>
          subst same
          rcases List.mem_cons.1 member with rfl | inRest
          · exact Or.inl rfl
          · refine Or.inr ⟨?_, List.mem_cons_of_mem _ inRest⟩
            intro same
            exact distinct.1 (List.mem_map.2 ⟨entry, inRest, same⟩)
      · next different =>
          rcases List.mem_cons.1 member with rfl | inRest
          · exact Or.inr ⟨different, List.mem_cons_self⟩
          · rcases ih distinct.2 inRest with new | ⟨other, old⟩
            · exact Or.inl new
            · exact Or.inr ⟨other, List.mem_cons_of_mem _ old⟩

theorem ofPairs_append_singleton (pairs : List (κ × α)) (pair : κ × α) :
    ofPairs (pairs ++ [pair]) = insert pair.1 pair.2 (ofPairs pairs) := by
  rw [ofPairs, List.foldl_append]
  rfl

theorem nodup_keys_ofPairs (pairs : List (κ × α)) : ((ofPairs pairs).map Prod.fst).Nodup := by
  induction pairs using List.reverseRecOn with
  | nil => exact List.nodup_nil
  | append_singleton pairs pair ih =>
      rw [ofPairs_append_singleton]
      exact nodup_keys_insert ih pair.1 pair.2

/-- An entry is the last of the pairs that have its key. -/
theorem last_of_mem_ofPairs {pairs : List (κ × α)} {entry : κ × α}
    (member : entry ∈ ofPairs pairs) :
    ∃ before after, pairs = before ++ entry :: after ∧ entry.1 ∉ after.map Prod.fst := by
  induction pairs using List.reverseRecOn with
  | nil => cases member
  | append_singleton pairs pair ih =>
      rw [ofPairs_append_singleton] at member
      rcases mem_insert (nodup_keys_ofPairs pairs) member with rfl | ⟨different, old⟩
      · exact ⟨pairs, [], rfl, List.not_mem_nil⟩
      · obtain ⟨before, after, rfl, last⟩ := ih old
        refine ⟨before, after ++ [pair], by simp, ?_⟩
        rw [List.map_append, List.mem_append, not_or]
        exact ⟨last, by simpa using different⟩

/-- Keys stand where they first occur. -/
theorem keys_ofPairs (pairs : List (κ × α)) :
    (ofPairs pairs).map Prod.fst = (pairs.map Prod.fst).eraseDups := by
  induction pairs using List.reverseRecOn with
  | nil => rfl
  | append_singleton pairs pair ih =>
      rw [ofPairs_append_singleton, keys_insert, List.map_append, List.eraseDups_append, ih]
      have known : contains pair.1 (ofPairs pairs) = true ↔ pair.1 ∈ pairs.map Prod.fst := by
        rw [contains_eq_true_iff, ih, List.mem_eraseDups]
      by_cases present : pair.1 ∈ pairs.map Prod.fst
      · rw [if_pos (known.2 present)]
        simp [List.removeAll, present]
      · rw [if_neg (fun contained => present (known.1 contained))]
        simp [List.removeAll, List.eraseDups_cons, present]

/-- Pairs with other keys that come later do not change the value of a key. -/
theorem get?_ofPairs_append {key : κ} (pairs : List (κ × α)) {later : List (κ × α)}
    (absent : key ∉ later.map Prod.fst) :
    get? key (ofPairs (pairs ++ later)) = get? key (ofPairs pairs) := by
  induction later using List.reverseRecOn with
  | nil => rw [List.append_nil]
  | append_singleton later pair ih =>
      rw [List.map_append, List.mem_append, not_or] at absent
      have different : key ≠ pair.1 := by simpa using absent.2
      rw [← List.append_assoc, ofPairs_append_singleton, get?_insert_of_ne different, ih absent.1]

theorem get?_ofPairs_eq_some_iff {pairs : List (κ × α)} {key : κ} {value : α} :
    get? key (ofPairs pairs) = some value ↔
      ∃ before after, pairs = before ++ (key, value) :: after ∧ key ∉ after.map Prod.fst := by
  constructor
  · intro found
    exact last_of_mem_ofPairs (mem_of_get? found)
  · rintro ⟨before, after, rfl, last⟩
    rw [List.append_cons, get?_ofPairs_append _ last, ofPairs_append_singleton, get?_insert_self]

/-- What the pairs leave under a key is what is found first from the other end. -/
theorem get?_ofPairs (key : κ) (pairs : List (κ × α)) :
    get? key (ofPairs pairs) = get? key pairs.reverse := by
  -- The pair that is inserted last is found first, so pairs are taken off at the end.
  induction pairs using List.reverseRecOn with
  | nil => rfl
  | append_singleton pairs pair ih =>
      rw [ofPairs_append_singleton, List.reverse_append, List.reverse_singleton,
        List.singleton_append, get?]
      split
      · next same => rw [← same, get?_insert_self]
      · next different => rw [get?_insert_of_ne (Ne.symm different), ih]

/-- Entries with distinct keys are as many as the keys that they have. -/
theorem length_eq_card {entries pairs : List (κ × α)} (distinct : (entries.map Prod.fst).Nodup)
    (same : ∀ key, key ∈ entries.map Prod.fst ↔ key ∈ pairs.map Prod.fst) :
    entries.length = (pairs.map Prod.fst).toFinset.card := by
  have keys : (pairs.map Prod.fst).toFinset = (entries.map Prod.fst).toFinset := by
    ext key
    rw [List.mem_toFinset, List.mem_toFinset, same]
  rw [keys, List.toFinset_card_of_nodup distinct, List.length_map]

/-- The entries that pairs make: the distinct keys, each where it occurs first and with the value
where it occurs last. -/
structure KeepsLast (pairs entries : List (κ × α)) : Prop where
  keys : entries.map Prod.fst = (pairs.map Prod.fst).eraseDups
  size : entries.length = (pairs.map Prod.fst).toFinset.card
  last : ∀ key value, get? key entries = some value ↔
    ∃ before after, pairs = before ++ (key, value) :: after ∧ key ∉ after.map Prod.fst

theorem keepsLast_ofPairs (pairs : List (κ × α)) : KeepsLast pairs (ofPairs pairs) where
  keys := keys_ofPairs pairs
  size := by
    apply length_eq_card (nodup_keys_ofPairs pairs)
    intro key
    rw [keys_ofPairs, List.mem_eraseDups]
  last _ _ := get?_ofPairs_eq_some_iff

/-! ## Entries with the same keys -/

variable {β : Type} {relation : α → β → Prop}

/-- Entries with the same keys in the same order, whose values are related. -/
def Matching (relation : α → β → Prop) : List (κ × α) → List (κ × β) → Prop :=
  List.Forall₂ fun entry other => entry.1 = other.1 ∧ relation entry.2 other.2

theorem Matching.get? {entries : List (κ × α)} {others : List (κ × β)}
    (matching : Matching relation entries others) (key : κ) :
    Option.Rel relation (get? key entries) (get? key others) := by
  induction matching with
  | nil => exact .none
  | @cons entry entry' rest rest' head tail ih =>
      simp only [Entries.get?, ← head.1]
      split
      · exact .some head.2
      · exact ih

theorem Matching.insert {entries : List (κ × α)} {others : List (κ × β)}
    (matching : Matching relation entries others) (key : κ) {value : α} {other : β}
    (related : relation value other) :
    Matching relation (insert key value entries) (insert key other others) := by
  induction matching with
  | nil => exact .cons ⟨rfl, related⟩ .nil
  | @cons entry entry' rest rest' head tail ih =>
      obtain ⟨found, old⟩ := entry
      obtain ⟨found', old'⟩ := entry'
      obtain ⟨sameKey, oldRelated⟩ := head
      cases sameKey
      simp only [Entries.insert]
      split
      · exact .cons ⟨rfl, related⟩ tail
      · exact .cons ⟨rfl, oldRelated⟩ ih

private theorem Matching.foldl_insert {pairs : List (κ × α)} {pairs' : List (κ × β)}
    (inserted : Matching relation pairs pairs') {entries : List (κ × α)} {others : List (κ × β)}
    (matching : Matching relation entries others) :
    Matching relation
      (pairs.foldl (fun entries pair => Entries.insert pair.1 pair.2 entries) entries)
      (pairs'.foldl (fun entries pair => Entries.insert pair.1 pair.2 entries) others) := by
  induction inserted generalizing entries others with
  | nil => exact matching
  | @cons pair pair' rest rest' head tail ih =>
      rw [List.foldl_cons, List.foldl_cons, ← head.1]
      exact ih (matching.insert pair.1 head.2)

theorem Matching.ofPairs {pairs : List (κ × α)} {pairs' : List (κ × β)}
    (matching : Matching relation pairs pairs') :
    Matching relation (ofPairs pairs) (ofPairs pairs') :=
  matching.foldl_insert .nil

end SyntaxFold.Entries
