import SyntaxFold.Proofs.Reduction.LiteralMode
import SyntaxFold.Proofs.Reduction.LiteralStage
import SyntaxFold.Proofs.Reduction.Passing
import SyntaxFold.Proofs.Reduction.Shallow

/-!
# The outermost level as a first stage

A collection can be taken apart by a shallow reduction in literal mode, and its children be resolved
one by one. Where resolving the whole collection succeeds, this gives the items and values that it
has. All that is no collection a shallow reduction treats as literal mode does, so the nodes in its
value are open and stay as they are when literal mode reduces them again.
-/

namespace SyntaxFold

open Outcome Value

/-- The first value is a node, and the second is what it resolves to. -/
def Value.Unresolved (resolve : Json → Except FoldError Value) (kept value : Value) : Prop :=
  ∃ tree, kept = .node tree ∧ resolve tree = .ok value

/-- Where entries are nodes beside what they resolve to, a node under a key is one, too. -/
theorem Entries.Matching.get?_of_unresolved {resolve : Json → Except FoldError Value}
    {kept entries : List (String × Value)}
    (matching : Entries.Matching (Unresolved resolve) kept entries) {key : String} {tree : Json}
    (found : Entries.get? key kept = some (.node tree)) :
    ∃ value, Entries.get? key entries = some value ∧ resolve tree = .ok value := by
  have under := matching.get? key
  rw [found] at under
  generalize stands : Entries.get? key entries = other at under
  cases under with
  | @some _ value unresolved =>
      rcases unresolved with ⟨node, isNode, resolved⟩
      cases isNode
      exact ⟨value, rfl, resolved⟩

/-- What a shallow reduction in literal mode gives, beside what the tree resolves to. -/
inductive Value.EarlyStage (literal resolve : Json → Except FoldError Value) (tree : Json) :
    Value → Value → Prop
  | sequence {kept items : List Value} :
      List.Forall₂ (Unresolved resolve) kept items →
        EarlyStage literal resolve tree (.sequence kept) (.sequence items)
  | mapping {kept entries : List (String × Value)} :
      Entries.Matching (Unresolved resolve) kept entries →
        EarlyStage literal resolve tree (.mapping kept) (.mapping entries)
  | full {early value : Value} :
      literal tree = .ok early → Fills resolve early value →
        EarlyStage literal resolve tree early value

section Properties

variable {reduce : Mode → Json → Except FoldError Value} {fill : Json → Except FoldError Value}

theorem propertyRule_shallowStage {property : Json}
    (parts : ∀ part ∈ propertyParts property,
      Related (Fills fill) (reduce .literal part) (reduce .resolve part)) (kind : String) :
    Related (fun kept entry => kept.1 = entry.1 ∧ Unresolved (reduce .resolve) kept.2 entry.2)
      (propertyRule reduce Mode.literal.outermost kind property)
      (propertyRule reduce .resolve kind property) := by
  intro kept entry early full
  rcases propertyRule_eq_ok_iff.1 early with ⟨keyed, initializer, initialized, isNode⟩
  rcases propertyRule_eq_ok_iff.1 full with ⟨keyed', initializer', initialized', reduced⟩
  cases initialized.symm.trans initialized'
  rcases bind_eq_ok_iff.1 keyed with ⟨name, named, rest⟩
  rcases bind_eq_ok_iff.1 rest with ⟨nameValue, nameOk, isKey⟩
  rcases bind_eq_ok_iff.1 keyed' with ⟨name', named', rest'⟩
  rcases bind_eq_ok_iff.1 rest' with ⟨nameValue', nameOk', isKey'⟩
  cases named.symm.trans named'
  have nameFills : Fills fill nameValue nameValue' :=
    parts name (mem_propertyParts_of_name named) nameValue nameValue' nameOk nameOk'
  -- A key is made from a scalar, and a scalar contains no node.
  have sameName : nameValue' = nameValue := nameFills.eq_of_isScalar (isScalar_of_keyOf isKey)
  rw [sameName] at isKey'
  constructor
  · exact Except.ok.inj (isKey.symm.trans isKey')
  · exact ⟨initializer, (Except.ok.inj isNode).symm, reduced⟩

theorem mappingRule_shallowStage {properties : List Json}
    (parts : ∀ part ∈ properties.flatMap propertyParts,
      Related (Fills fill) (reduce .literal part) (reduce .resolve part)) (kind : String)
    {literal : Json → Except FoldError Value} {tree : Json} :
    Related (EarlyStage literal (reduce .resolve) tree)
      (mappingRule reduce Mode.literal.outermost kind properties)
      (mappingRule reduce .resolve kind properties) := by
  apply related_bind
  intro kept entries keptOk entriesOk
  apply related_ok
  apply EarlyStage.mapping
  apply Entries.Matching.ofPairs
  refine related_mapM (fun property listed => ?_) kept entries keptOk entriesOk
  apply propertyRule_shallowStage
  intro part member
  exact parts part (List.mem_flatMap.2 ⟨property, listed, member⟩)

end Properties

section Reductions

variable [Host]

namespace Environment

variable {environment : Environment} {inside inside' : Json → Except FoldError Value}

/-- A shallow reduction in literal mode and the resolving reduction of one tree. -/
theorem reduceWith_shallowStage (data : Json) :
    Related (EarlyStage (environment.reduceWith inside .literal)
        (environment.reduceWith inside .resolve) data)
      (environment.reduceWith inside Mode.literal.outermost data)
      (environment.reduceWith inside .resolve data) := by
  by_cases single : ∀ node, Node.ofJson data = .ok node → ¬ node.IsCollection
  · rw [reduceWith_nested single Mode.literal.outermost]
    intro early value earlyOk valueOk
    exact .full earlyOk (reduceWith_fills environment inside data early value earlyOk valueOk)
  · simp only [not_forall, not_not] at single
    rcases single with ⟨node, shape, collection⟩
    have parts (part : Json) : Related (Fills (environment.reduceWith inside .resolve))
        (environment.reduceWith inside .literal part)
        (environment.reduceWith inside .resolve part) :=
      reduceWith_fills environment inside part
    rw [reduceWith_eq_nodeRule shape, reduceWith_eq_nodeRule shape Mode.resolve]
    cases node with
    | arrayLiteral elements =>
        intro early value earlyOk valueOk
        cases earlyOk
        rcases bind_eq_ok_iff.1 valueOk with ⟨items, itemsOk, same⟩
        cases same
        apply EarlyStage.sequence
        apply List.forall₂_map_left_iff.2
        apply (mapM_eq_ok_iff.1 itemsOk).imp
        intro element item reduced
        exact ⟨element, rfl, reduced⟩
    | objectLiteral properties | classDeclaration properties =>
        exact mappingRule_shallowStage (fun part _ => parts part) _
    | _ => cases collection

end Environment

end Reductions

/-! ## What the stages have in common -/

namespace Value.EarlyStage

variable [Host] {environment : Environment} {inside : Json → Except FoldError Value}
variable {tree : Json} {value : Value}

/-- If a first stage gives a mapping with a node that is not open, then the second gives a mapping
of what its nodes resolve to. -/
theorem matching_of_node {kept : List (String × Value)} {key : String} {node : Json}
    (stage : EarlyStage (environment.reduceWith inside .literal)
      (environment.reduceWith inside .resolve) tree (.mapping kept) value)
    (found : Entries.get? key kept = some (.node node)) (notOpen : ¬ node.IsOpen) :
    ∃ entries, value = .mapping entries ∧
      Entries.Matching (Unresolved (environment.reduceWith inside .resolve)) kept entries := by
  cases stage with
  | @mapping _ entries matching => exact ⟨entries, rfl, matching⟩
  | full literal _ =>
      have comesFrom := Environment.reduceWith_comesFrom tree _ literal
      have member : Value.node node ∈ Entries.values kept := Entries.mem_values_of_get? found
      exact absurd (comesFrom.inside member).here.2 notOpen

/-- If a first stage gives a sequence of nodes that are not open, then the second gives a sequence
of what these resolve to. -/
theorem forall₂_of_nodes {kept : List Value}
    (stage : EarlyStage (environment.reduceWith inside .literal)
      (environment.reduceWith inside .resolve) tree (.sequence kept) value)
    (nodes : ∀ item ∈ kept, ∃ node, item = .node node ∧ ¬ node.IsOpen) :
    ∃ items, value = .sequence items ∧
      List.Forall₂ (Unresolved (environment.reduceWith inside .resolve)) kept items := by
  cases stage with
  | @sequence _ items each => exact ⟨items, rfl, each⟩
  | full literal fills =>
      have comesFrom := Environment.reduceWith_comesFrom tree _ literal
      cases kept with
      | nil =>
          cases fills
          exact ⟨[], rfl, .nil⟩
      | cons item rest =>
          rcases nodes item List.mem_cons_self with ⟨node, rfl, notOpen⟩
          exact absurd (comesFrom.inside List.mem_cons_self).here.2 notOpen

end Value.EarlyStage

end SyntaxFold
