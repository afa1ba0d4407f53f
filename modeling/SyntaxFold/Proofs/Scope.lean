import SyntaxFold.Proofs.Entries
import SyntaxFold.Proofs.Outcome
import SyntaxFold.Scope

/-!
# What scopes bind

A lookup finds what a member is bound to, which may be a node. Two symbol tables correspond if they
have the same scopes and members, where the nodes that members are bound to are related and the
native values are the same. A lookup finds what corresponds in both, or fails in both in the same
way.
-/

namespace SyntaxFold

open Outcome

/-! ## Lookups -/

theorem Group.lookup_eq_ok_iff {group : Group} {property : String} {initializer : Initializer} :
    group.lookup property = .ok initializer ↔
      Entries.get? property group.members = some initializer := by
  unfold lookup
  split <;> simp_all

theorem SymbolTable.get_eq_ok_iff {table : SymbolTable} {scope : String} {group : Group} :
    table.get scope = .ok group ↔ Entries.get? scope table.scopes = some group := by
  unfold get
  split <;> simp_all

theorem SymbolTable.lookup_eq_ok_iff {table : SymbolTable} {scope property : String}
    {initializer : Initializer} :
    table.lookup scope property = .ok initializer ↔
      ∃ group, table.get scope = .ok group ∧ group.lookup property = .ok initializer := by
  unfold lookup
  split <;> simp_all

theorem SymbolTable.get_insertAs_self (table : SymbolTable) (scope : String) (group : Group) :
    (table.insertAs scope group).get scope = .ok group := by
  simp [get, insertAs]

theorem SymbolTable.get_insertAs_of_ne {scope other : String} (different : other ≠ scope)
    (table : SymbolTable) (group : Group) :
    (table.insertAs scope group).get other = table.get other := by
  simp [get, insertAs, Entries.get?_insert_of_ne different]

/-- A lookup in the table can find the node. -/
def SymbolTable.Binds (table : SymbolTable) (tree : Json) : Prop :=
  ∃ scope property, table.lookup scope property = .ok (.node tree)

/-- The node that a member is bound to, if it is one. -/
def Initializer.node? : Initializer → Option Json
  | node tree => some tree
  | native _ => none

/-- The nodes that members of the scopes are bound to. -/
def SymbolTable.nodes (table : SymbolTable) : List Json :=
  (Entries.values table.scopes).flatMap fun group =>
    (Entries.values group.members).filterMap Initializer.node?

theorem SymbolTable.Binds.mem_nodes {table : SymbolTable} {tree : Json}
    (binds : table.Binds tree) : tree ∈ table.nodes := by
  rcases binds with ⟨scope, property, found⟩
  rcases lookup_eq_ok_iff.1 found with ⟨group, isGroup, isMember⟩
  apply List.mem_flatMap.2
  exists group
  constructor
  · exact Entries.mem_values_of_get? (get_eq_ok_iff.1 isGroup)
  · apply List.mem_filterMap.2
    exists .node tree
    constructor
    · exact Entries.mem_values_of_get? (Group.lookup_eq_ok_iff.1 isMember)
    · rfl

/-! ## Scopes whose nodes correspond -/

/-- Two initializers with related nodes, or with the same native value. -/
inductive Initializer.Matches (trees : Json → Json → Prop) : Initializer → Initializer → Prop
  | node {tree tree' : Json} : trees tree tree' → Matches trees (.node tree) (.node tree')
  | native (value : Value) : Matches trees (.native value) (.native value)

/-- Two groups of one name whose members correspond. -/
structure Group.Matches (trees : Json → Json → Prop) (group group' : Group) : Prop where
  name : group.name = group'.name
  members : Entries.Matching (Initializer.Matches trees) group.members group'.members

/-- Two tables whose scopes correspond. -/
def SymbolTable.Matches (trees : Json → Json → Prop) (table table' : SymbolTable) : Prop :=
  Entries.Matching (Group.Matches trees) table.scopes table'.scopes

variable {trees : Json → Json → Prop} {errors : FoldError → FoldError → Prop}

theorem Initializer.matches_self (self : ∀ tree, trees tree tree) (initializer : Initializer) :
    initializer.Matches trees initializer := by
  cases initializer with
  | node tree => exact .node (self tree)
  | native value => exact .native value

theorem Group.matches_self (self : ∀ tree, trees tree tree) (group : Group) :
    group.Matches trees group where
  name := rfl
  members := List.forall₂_same.2 fun member _ => ⟨rfl, member.2.matches_self self⟩

theorem SymbolTable.matches_self (self : ∀ tree, trees tree tree) (table : SymbolTable) :
    table.Matches trees table :=
  List.forall₂_same.2 fun scope _ => ⟨rfl, scope.2.matches_self self⟩

/-- `Math` holds no nodes, so it corresponds to itself. -/
theorem Group.matches_math : Group.math.Matches trees Group.math where
  name := rfl
  members := by
    refine List.forall₂_same.2 fun member listed => ⟨rfl, ?_⟩
    obtain ⟨function, -, rfl⟩ := List.mem_map.1 listed
    exact .native _

theorem Group.Matches.lookup {group group' : Group} (matching : group.Matches trees group')
    (property : String) (error_self : ∀ error : FoldError, errors error error) :
    Agrees (Initializer.Matches trees) errors (group.lookup property) (group'.lookup property) := by
  have found := matching.members.get? property
  unfold Group.lookup
  rw [← matching.name]
  generalize Entries.get? property group.members = member at found ⊢
  generalize Entries.get? property group'.members = member' at found ⊢
  cases found with
  | none => exact .error (error_self _)
  | some related => exact .ok related

/-- Looking up a property in tables whose scopes correspond gives initializers that correspond, or
fails in the same way. -/
theorem SymbolTable.Matches.lookup {table table' : SymbolTable}
    (matching : table.Matches trees table') (scope property : String)
    (error_self : ∀ error : FoldError, errors error error) :
    Agrees (Initializer.Matches trees) errors (table.lookup scope property)
      (table'.lookup scope property) := by
  have found := Entries.Matching.get? matching scope
  unfold SymbolTable.lookup SymbolTable.get
  generalize Entries.get? scope table.scopes = group at found ⊢
  generalize Entries.get? scope table'.scopes = group' at found ⊢
  cases found with
  | none => exact .error (error_self _)
  | some related => exact related.lookup property error_self

theorem SymbolTable.Matches.get {table table' : SymbolTable}
    (matching : table.Matches trees table') {scope : String} {group : Group}
    (isGroup : table.get scope = .ok group) :
    ∃ group', table'.get scope = .ok group' ∧ group.Matches trees group' := by
  have found := Entries.Matching.get? matching scope
  rw [get_eq_ok_iff.1 isGroup] at found
  generalize isGroup' : Entries.get? scope table'.scopes = group' at found
  cases found with
  | some groups => exact ⟨_, get_eq_ok_iff.2 isGroup', groups⟩

theorem SymbolTable.Matches.insertAs {table table' : SymbolTable}
    (matching : table.Matches trees table') (scope : String) {group group' : Group}
    (groups : group.Matches trees group') :
    (table.insertAs scope group).Matches trees (table'.insertAs scope group') :=
  Entries.Matching.insert matching scope groups

theorem SymbolTable.Matches.insert {table table' : SymbolTable}
    (matching : table.Matches trees table') {group group' : Group}
    (groups : group.Matches trees group') :
    (table.insert group).Matches trees (table'.insert group') := by
  rw [SymbolTable.insert, SymbolTable.insert, ← groups.name]
  exact matching.insertAs group.name groups

end SyntaxFold
