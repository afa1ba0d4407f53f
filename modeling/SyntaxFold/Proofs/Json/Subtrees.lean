import SyntaxFold.Proofs.Reduction.Parts

/-!
# The subtrees of a tree

`Json.subtrees` lists a tree and all that it contains in document order, where a tree comes before
what it contains. So whether something occurs in a tree can be computed.
-/

namespace SyntaxFold.Json

mutual

/-- A tree and all that it contains, in document order. -/
def subtrees : Json → List Json
  | array items => array items :: itemSubtrees items
  | object entries => object entries :: entrySubtrees entries
  | leaf => [leaf]

/-- All that the items of an array contain. -/
def itemSubtrees : List Json → List Json
  | [] => []
  | item :: rest => item.subtrees ++ itemSubtrees rest

/-- All that the values of an object contain. -/
def entrySubtrees : List (String × Json) → List Json
  | [] => []
  | (_, value) :: rest => value.subtrees ++ entrySubtrees rest

end

variable {inner tree : Json}

theorem self_mem_subtrees (tree : Json) : tree ∈ tree.subtrees := by
  cases tree <;> simp [subtrees]

theorem mem_itemSubtrees {item : Json} {items : List Json} (listed : item ∈ items)
    (member : inner ∈ item.subtrees) : inner ∈ itemSubtrees items := by
  induction listed with
  | head rest => exact List.mem_append_left _ member
  | tail _ _ ih => exact List.mem_append_right _ ih

theorem mem_entrySubtrees {key : String} {value : Json} {entries : List (String × Json)}
    (found : Entries.get? key entries = some value) (member : inner ∈ value.subtrees) :
    inner ∈ entrySubtrees entries := by
  induction entries with
  | nil => cases found
  | cons entry rest ih =>
      simp only [Entries.get?] at found
      split at found
      · cases found
        exact List.mem_append_left _ member
      · exact List.mem_append_right _ (ih found)

/-- What a child of a tree contains is contained in the tree. -/
theorem Child.mem_subtrees {child : Json} (isChild : child.Child tree)
    (member : inner ∈ child.subtrees) : inner ∈ tree.subtrees := by
  cases isChild with
  | item listed => exact List.mem_cons_of_mem _ (mem_itemSubtrees listed member)
  | @field key value tree found =>
      cases tree with
      | object entries => exact List.mem_cons_of_mem _ (mem_entrySubtrees found member)
      | _ => cases found

/-- Every subtree is listed. -/
theorem Within.mem_subtrees (within : inner.Within tree) : inner ∈ tree.subtrees := by
  induction within with
  | refl => exact inner.self_mem_subtrees
  | tail _ isChild ih => exact isChild.mem_subtrees ih

end SyntaxFold.Json
