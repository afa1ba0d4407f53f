import SyntaxFold.Proofs.Node.Builder
import SyntaxFold.Proofs.Reduction.Everywhere
import SyntaxFold.Proofs.Scope

/-!
# What the known tables supply

The functions of the prelude and of `Math` have captured nothing, so whatever holds of all functions
that are not foreign holds everywhere in them. Tables with these functions and without other native
values supply what an invariant asks for.
-/

namespace SyntaxFold

open Outcome Value

variable {holds : Value → Prop}

/-- A function that has captured nothing and is not foreign. -/
def Callable.IsBare (function : Callable) : Prop := function.captured = [] ∧ ¬ function.IsForeign

theorem Callable.IsBare.everywhere {function : Callable} (bare : function.IsBare)
    (invariant : Invariant holds) (stamp : Nat) : Everywhere holds (.function stamp function) := by
  refine invariant.everywhere_function function bare.2 ?_ stamp
  intro value member
  rw [bare.1] at member
  cases member

theorem isBare_of_mem_prelude {function : Callable}
    (member : function ∈ Entries.values Registry.prelude.functions) : function.IsBare := by
  have listed : Entries.values Registry.prelude.functions = Registry.preludeFunctions := rfl
  rw [listed] at member
  simp only [Registry.preludeFunctions, List.mem_cons, List.not_mem_nil, or_false] at member
  rcases member with rfl | rfl | rfl | rfl <;> exact ⟨rfl, id⟩

theorem everywhere_prelude (invariant : Invariant holds) {name : String} {function : Callable}
    (registered : Registry.prelude.get? name = some function) :
    Everywhere holds (.function 0 function) :=
  (isBare_of_mem_prelude (Entries.mem_values_of_get? registered)).everywhere invariant 0

theorem everywhere_math (invariant : Invariant holds) {property : String} {value : Value}
    (found : Group.math.lookup property = .ok (.native value)) : Everywhere holds value := by
  have member := Entries.mem_values_of_get? (Group.lookup_eq_ok_iff.1 found)
  rcases List.mem_map.1 member with ⟨entry, entryMember, same⟩
  rcases List.mem_map.1 entryMember with ⟨pair, pairMember, rfl⟩
  cases same
  have bare : ∀ pair ∈ Group.mathFunctions, pair.2.IsBare := by
    simp [Group.mathFunctions, Callable.IsBare, Callable.captured, Callable.IsForeign]
  exact (bare pair pairMember).everywhere invariant 0

/-- Members are bound to nodes, those of `Math` excepted. -/
def SymbolTable.BindsNodes (table : SymbolTable) : Prop :=
  ∀ group ∈ Entries.values table.scopes,
    group = .math ∨ ∀ initializer ∈ Entries.values group.members, ∃ tree, initializer = .node tree

/-- The prelude and tables that bind nodes supply what an invariant asks for. -/
theorem supplies_of_bindsNodes (invariant : Invariant holds) {environment : Environment}
    (prelude : environment.registry = .prelude) (bound : environment.scopes.BindsNodes) :
    environment.Supplies holds where
  registry name function registered := by
    rw [prelude] at registered
    exact everywhere_prelude invariant registered
  native scope property value found := by
    rcases SymbolTable.lookup_eq_ok_iff.1 found with ⟨group, isGroup, isMember⟩
    rcases bound group (Entries.mem_values_of_get? (SymbolTable.get_eq_ok_iff.1 isGroup)) with
      rfl | nodes
    · exact everywhere_math invariant isMember
    · have member := Entries.mem_values_of_get? (Group.lookup_eq_ok_iff.1 isMember)
      rcases nodes _ member with ⟨tree, isNode⟩
      cases isNode

/-- `Math` and a class with one property bind nodes. -/
theorem bindsNodes_of_property (name property : String) (tree : Json) :
    (⟨[("Math", .math), (selfScope, ⟨name, [(property, .node tree)]⟩)]⟩ :
      SymbolTable).BindsNodes := by
  intro group member
  simp only [Entries.values, List.map_cons, List.map_nil, List.mem_cons, List.not_mem_nil,
    or_false] at member
  rcases member with rfl | rfl
  · exact Or.inl rfl
  · refine Or.inr fun initializer listed => ?_
    obtain rfl := List.mem_singleton.1 listed
    exact ⟨tree, rfl⟩

/-- `Math` and a class with one property, a sequence. -/
def listScopes : SymbolTable :=
  ⟨[("Math", .math), (selfScope,
    ⟨"Config", [("items", .node (Tree.array [Tree.numeral "1", Tree.identifier "a"]))]⟩)]⟩

theorem everywhere_listScopes (invariant : Invariant holds) :
    (⟨.empty, .prelude, listScopes⟩ : Environment).Supplies holds :=
  supplies_of_bindsNodes invariant rfl (bindsNodes_of_property _ _ _)

end SyntaxFold
