import SyntaxFold.Declaration
import SyntaxFold.Proofs.Json.Equality

/-!
# Places in a tree

The same data can occur in a tree more than once, so an occurrence is told by its place: the
positions, from the root on, of the children that lead to it. `Json.located` lists a tree and all
that it contains, each with its place. Document order is the lexicographic order of places, in which
a place comes before those below it. A search for a kind finds the first object of the kind in this
order.
-/

namespace SyntaxFold.Json

open Nested

/-- What is at a place of a tree. -/
def at? : List Nat → Json → Option Json
  | [], tree => some tree
  | position :: place, tree => (holding tree).parts[position]?.bind (at? place)

/-- An occurrence in a tree, seen from where the tree is the child at the given position. -/
def fromAbove (position : Nat) (occurrence : List Nat × Json) : List Nat × Json :=
  (position :: occurrence.1, occurrence.2)

mutual

/-- A tree and all that it contains, each with its place, in document order. -/
def located : Json → List (List Nat × Json)
  | array items => ([], array items) :: locatedItems 0 items
  | object entries => ([], object entries) :: locatedEntries 0 entries
  | leaf => [([], leaf)]

/-- All that items contain, where the first item is the child at the given position. -/
def locatedItems (position : Nat) : List Json → List (List Nat × Json)
  | [] => []
  | item :: rest => item.located.map (fromAbove position) ++ locatedItems (position + 1) rest

/-- All that the values of entries contain, where the first value is the child at the given
position. -/
def locatedEntries (position : Nat) : List (String × Json) → List (List Nat × Json)
  | [] => []
  | (_, value) :: rest =>
      value.located.map (fromAbove position) ++ locatedEntries (position + 1) rest

end

/-- The objects of a kind in a tree, each with its place, in document order. -/
def occurrences (kind : String) (tree : Json) : List (List Nat × Json) :=
  tree.located.filter fun occurrence => kindOf occurrence.2 == some kind

/-! ## What is listed -/

theorem locatedEntries_eq (position : Nat) (entries : List (String × Json)) :
    locatedEntries position entries = locatedItems position (Entries.values entries) := by
  induction entries generalizing position with
  | nil => rfl
  | cons entry rest ih => exact congrArg (_ ++ ·) (ih (position + 1))

theorem located_eq (tree : Json) :
    tree.located = ([], tree) :: locatedItems 0 (holding tree).parts := by
  cases tree with
  | object entries => exact congrArg (_ :: ·) (locatedEntries_eq 0 entries)
  | _ => rfl

theorem mem_locatedItems_iff {position : Nat} {items : List Json} {place : List Nat}
    {inner : Json} :
    (place, inner) ∈ locatedItems position items ↔
      ∃ offset rest item, place = (position + offset) :: rest ∧ items[offset]? = some item ∧
        (rest, inner) ∈ item.located := by
  induction items generalizing position with
  | nil => simp [locatedItems]
  | cons item others ih =>
      rw [locatedItems, List.mem_append, List.mem_map, ih]
      constructor
      · rintro (⟨⟨rest, _⟩, listed, ⟨⟩⟩ | ⟨offset, rest, other, rfl, found, listed⟩)
        · exact ⟨0, rest, item, rfl, rfl, listed⟩
        · exact ⟨offset + 1, rest, other, by rw [Nat.add_right_comm]; rfl, found, listed⟩
      · rintro ⟨offset, rest, other, rfl, found, listed⟩
        cases offset with
        | zero =>
            cases found
            exact Or.inl ⟨(rest, inner), listed, rfl⟩
        | succ offset =>
            exact Or.inr ⟨offset, rest, other, by rw [Nat.add_right_comm]; rfl, found, listed⟩

/-- Everything in a tree is listed with its place, and nothing else is. -/
theorem mem_located_iff {place : List Nat} {tree inner : Json} :
    (place, inner) ∈ tree.located ↔ tree.at? place = some inner := by
  induction place generalizing tree with
  | nil =>
      rw [located_eq, List.mem_cons, mem_locatedItems_iff, at?]
      simp [eq_comm]
  | cons position place ih =>
      rw [located_eq, List.mem_cons, mem_locatedItems_iff, at?, Option.bind_eq_some_iff]
      constructor
      · rintro (⟨⟨⟩⟩ | ⟨offset, rest, child, ⟨⟩, found, listed⟩)
        exact ⟨child, by rwa [Nat.zero_add], ih.1 listed⟩
      · rintro ⟨child, found, inside⟩
        exact Or.inr ⟨position, place, child, by rw [Nat.zero_add], found, ih.2 inside⟩

/-! ## Document order -/

/-- Items in whose trees earlier places come first are listed so, one after the other. -/
theorem pairwise_locatedItems {items : List Json} (position : Nat)
    (each : ∀ item ∈ items,
      item.located.Pairwise fun earlier later => earlier.1 < later.1) :
    (locatedItems position items).Pairwise fun earlier later => earlier.1 < later.1 := by
  induction items generalizing position with
  | nil => exact .nil
  | cons item rest ih =>
      rw [List.forall_mem_cons] at each
      rw [locatedItems, List.pairwise_append]
      refine ⟨?_, ih (position + 1) each.2, ?_⟩
      · rw [List.pairwise_map]
        exact each.1.imp fun before => List.cons_lt_cons_iff.2 (Or.inr ⟨rfl, before⟩)
      · rintro _ inItem ⟨place, inner⟩ inRest
        obtain ⟨occurrence, -, rfl⟩ := List.mem_map.1 inItem
        obtain ⟨offset, later, other, rfl, -⟩ := mem_locatedItems_iff.1 inRest
        apply List.cons_lt_cons_iff.2
        exact Or.inl (by omega)

/-- What comes first in document order comes first in the list. -/
theorem pairwise_located (tree : Json) :
    tree.located.Pairwise fun earlier later => earlier.1 < later.1 := by
  induction tree using holding_induction with
  | step tree ih =>
      rw [located_eq, List.pairwise_cons]
      constructor
      · rintro ⟨place, inner⟩ listed
        obtain ⟨offset, rest, item, rfl, -⟩ := mem_locatedItems_iff.1 listed
        exact List.nil_lt_cons _ _
      · exact pairwise_locatedItems 0 ih

/-- Whatever comes later in the list than the first occurrence of a kind comes later in document
order. -/
theorem eq_or_lt_of_head?_occurrences {kind : String} {tree : Json} {first other : List Nat × Json}
    (heads : (tree.occurrences kind).head? = some first) (listed : other ∈ tree.occurrences kind) :
    other = first ∨ first.1 < other.1 := by
  have ordered : (tree.occurrences kind).Pairwise fun earlier later => earlier.1 < later.1 :=
    (pairwise_located tree).filter _
  obtain ⟨later, split⟩ := List.head?_eq_some_iff.1 heads
  rw [split] at ordered listed
  rcases List.mem_cons.1 listed with rfl | inLater
  · exact Or.inl rfl
  · exact Or.inr ((List.pairwise_cons.1 ordered).1 other inLater)

theorem mem_occurrences_iff {kind : String} {place : List Nat} {tree inner : Json} :
    (place, inner) ∈ tree.occurrences kind ↔
      tree.at? place = some inner ∧ kindOf inner = some kind := by
  rw [occurrences, List.mem_filter, mem_located_iff, beq_iff_eq]

/-! ## The search for a kind -/

theorem firstInEntries?_eq_firstInItems? (kind : String) (entries : List (String × Json)) :
    firstInEntries? kind entries = firstInItems? kind (Entries.values entries) := by
  induction entries with
  | nil => rfl
  | cons entry rest ih =>
      rw [firstInEntries?, ih]
      rfl

/-- A search looks at the tree itself and then searches what it holds, in order. -/
theorem firstOfKind?_eq (kind : String) (tree : Json) :
    tree.firstOfKind? kind =
      if kindOf tree = some kind then some tree
      else firstInItems? kind (holding tree).parts := by
  cases tree with
  | object entries =>
      rw [firstOfKind?, firstInEntries?_eq_firstInItems?]
      rfl
  | _ => rfl

/-- A search through items finds the first occurrence if the searches in them do. -/
theorem firstInItems?_eq_find? {kind : String} {items : List Json} (position : Nat)
    (each : ∀ item ∈ items, item.firstOfKind? kind =
      (item.located.find? fun occurrence => kindOf occurrence.2 == some kind).map Prod.snd) :
    firstInItems? kind items =
      ((locatedItems position items).find? fun occurrence =>
        kindOf occurrence.2 == some kind).map Prod.snd := by
  induction items generalizing position with
  | nil => rfl
  | cons item rest ih =>
      rw [List.forall_mem_cons] at each
      rw [firstInItems?, each.1, ih (position + 1) each.2, locatedItems, List.find?_append,
        List.find?_map]
      unfold Function.comp fromAbove
      cases item.located.find? fun occurrence => kindOf occurrence.2 == some kind <;> rfl

/-- A search for a kind finds the first occurrence in document order. -/
theorem firstOfKind?_eq_head? (kind : String) (tree : Json) :
    tree.firstOfKind? kind = (tree.occurrences kind).head?.map Prod.snd := by
  rw [occurrences, List.head?_filter]
  induction tree using holding_induction with
  | step tree ih =>
      rw [firstOfKind?_eq, located_eq, List.find?_cons]
      by_cases isKind : kindOf tree = some kind
      · simp [isKind]
      · rw [if_neg isKind, beq_eq_false_iff_ne.2 isKind]
        exact firstInItems?_eq_find? 0 ih

end SyntaxFold.Json
