import SyntaxFold.Proofs.Entries
import SyntaxFold.Proofs.Reduction.LiteralStage

/-!
# Shallow reduction

A shallow reduction leaves the children of the outermost collection as they are and reduces all
else in full. So where the full reduction succeeds, the shallow one stops one level early: it gives
the elements of an array literal, or the initializers under the keys of an object literal or a
class, as nodes, and each of these reduces to what the full reduction has in its place. Of several
properties with one key the last one is kept. Everything else is reduced in full.
-/

namespace SyntaxFold

namespace Node

/-- The properties of an object literal or a class, with the kind that is reported for properties
that have none. -/
def properties? : Node → Option (String × List Json)
  | objectLiteral properties => some ("ObjectLiteralExpression", properties)
  | classDeclaration members => some ("ClassDeclaration", members)
  | _ => none

theorem isCollection_of_properties? {node : Node} {listed : String × List Json}
    (found : node.properties? = some listed) : node.IsCollection := by
  cases node with
  | objectLiteral _ | classDeclaration _ => trivial
  | _ => cases found

end Node

/-- The mode that leaves the children of the outermost collection as they are. -/
def Mode.outermost (mode : Mode) : Mode := { mode with shallow := true }

/-! ## Properties -/

/-- The key of a property, when `reduce` reduces its name. -/
def propertyKey (reduce : Json → Except FoldError Value) (kind : String) (property : Json) :
    Except FoldError String := do
  let kindHere := (kindOf property).getD kind
  let name ← requireField kindHere "name" property
  let nameValue ← reduce name
  keyOf kindHere nameValue

/-- The last property with a key has the given initializer. -/
def LastInitializer (keyed : Json → Except FoldError String) (properties : List Json)
    (key : String) (initializer : Json) : Prop :=
  ∃ before property after, properties = before ++ property :: after ∧
    keyed property = .ok key ∧ property.get? "initializer" = some initializer ∧
      ∀ later ∈ after, keyed later ≠ .ok key

/-- An entry of a shallow reduction beside the entry of the full one: under the same key it holds
the initializer of the last property with this key, which reduces to the value of the other. -/
structure Unreduced (reduce : Json → Except FoldError Value) (kind : String)
    (properties : List Json) (kept entry : String × Value) : Prop where
  key : kept.1 = entry.1
  initializer : ∃ initializer, kept.2 = .node initializer ∧
    LastInitializer (propertyKey reduce kind) properties kept.1 initializer ∧
      reduce initializer = .ok entry.2

section Properties

variable {reduce : Mode → Json → Except FoldError Value} {mode : Mode} {kind : String}

/-- The rule of a property finds its key first and then its value. -/
theorem propertyRule_eq_bind (reduce : Mode → Json → Except FoldError Value) (mode : Mode)
    (kind : String) (property : Json) :
    propertyRule reduce mode kind property = (do
      let key ← propertyKey (reduce mode.nested) kind property
      let initializer ← requireField ((kindOf property).getD kind) "initializer" property
      let value ←
        (if mode.shallow then .ok (.node initializer) else reduce mode.nested initializer)
      return (key, value)) := by
  simp only [propertyRule, propertyKey, bind_assoc]

theorem propertyRule_eq_ok_iff {property : Json} {pair : String × Value} :
    propertyRule reduce mode kind property = .ok pair ↔
      propertyKey (reduce mode.nested) kind property = .ok pair.1 ∧
        ∃ initializer, property.get? "initializer" = some initializer ∧
          (if mode.shallow then .ok (.node initializer) else reduce mode.nested initializer) =
            .ok pair.2 := by
  obtain ⟨key, value⟩ := pair
  rw [propertyRule_eq_bind, bind_eq_ok_iff]
  constructor
  · rintro ⟨found, keyed, rest⟩
    obtain ⟨initializer, initialized, rest⟩ := bind_eq_ok_iff.1 rest
    obtain ⟨result, reduced, same⟩ := bind_eq_ok_iff.1 rest
    cases same
    exact ⟨keyed, initializer, require_eq_ok_iff.1 initialized, reduced⟩
  · rintro ⟨keyed, initializer, initialized, reduced⟩
    refine ⟨key, keyed, bind_eq_ok_iff.2 ⟨initializer, require_eq_ok_iff.2 initialized, ?_⟩⟩
    exact bind_eq_ok_iff.2 ⟨value, reduced, rfl⟩

/-- Where the full reduction of the properties succeeds, so does the shallow one: it gives the same
keys, with the initializers as nodes. -/
theorem exists_kept_of_forall₂ {properties : List Json} {pairs : List (String × Value)}
    (full : List.Forall₂ (fun property pair => propertyRule reduce mode.nested kind property =
      .ok pair) properties pairs) :
    ∃ kept, List.Forall₂ (fun property entry => propertyRule reduce mode.outermost kind property =
        .ok entry) properties kept ∧
      Entries.Matching (fun value result => ∃ initializer, value = .node initializer ∧
        reduce mode.nested initializer = .ok result) kept pairs := by
  induction full with
  | nil => exact ⟨[], .nil, .nil⟩
  | @cons property pair _ _ head _ ih =>
      obtain ⟨kept, each, matching⟩ := ih
      obtain ⟨keyed, initializer, initialized, reduced⟩ := propertyRule_eq_ok_iff.1 head
      have here : propertyRule reduce mode.outermost kind property =
          .ok (pair.1, .node initializer) :=
        propertyRule_eq_ok_iff.2 ⟨keyed, initializer, initialized, rfl⟩
      exact ⟨(pair.1, .node initializer) :: kept, .cons here each,
        .cons ⟨rfl, initializer, rfl, reduced⟩ matching⟩

/-- A key that no pair has is the key of no property. -/
theorem propertyKey_ne_of_not_mem {properties : List Json} {pairs : List (String × Value)}
    (each : List.Forall₂ (fun property pair => propertyRule reduce mode kind property = .ok pair)
      properties pairs)
    {key : String} (absent : key ∉ pairs.map Prod.fst) :
    ∀ property ∈ properties, propertyKey (reduce mode.nested) kind property ≠ .ok key := by
  induction each with
  | nil =>
      intro property member
      cases member
  | @cons first pair rest pairs head _ ih =>
      rw [List.map_cons, List.mem_cons, not_or] at absent
      intro property member
      rcases List.mem_cons.1 member with rfl | inRest
      · intro keyed
        have keyedHere := (propertyRule_eq_ok_iff.1 head).1
        exact absent.1 (Except.ok.inj (keyed.symm.trans keyedHere))
      · exact ih absent.2 property inRest

/-- In the mapping that is made of properties, every entry comes from the last property with its
key. -/
theorem exists_lastInitializer_of_mem {properties : List Json} {pairs : List (String × Value)}
    (each : List.Forall₂ (fun property pair => propertyRule reduce mode kind property = .ok pair)
      properties pairs)
    {entry : String × Value} (member : entry ∈ Entries.ofPairs pairs) :
    ∃ initializer,
      LastInitializer (propertyKey (reduce mode.nested) kind) properties entry.1 initializer ∧
        (if mode.shallow then .ok (.node initializer) else reduce mode.nested initializer) =
          .ok entry.2 := by
  obtain ⟨before, after, rfl, last⟩ := Entries.last_of_mem_ofPairs member
  have fromEntry := List.forall₂_drop_append _ _ _ each
  obtain ⟨property, later, here, rest, dropped⟩ := List.forall₂_cons_right_iff.1 fromEntry
  obtain ⟨keyed, initializer, initialized, becomes⟩ := propertyRule_eq_ok_iff.1 here
  have split : properties = properties.take before.length ++ property :: later := by
    rw [← dropped, List.take_append_drop]
  exact ⟨initializer, ⟨_, property, later, split, keyed, initialized,
    propertyKey_ne_of_not_mem rest last⟩, becomes⟩

/-- Where the full reduction of properties gives a mapping, the shallow one gives a mapping whose
entries are not yet reduced. -/
theorem mappingRule_outermost {properties : List Json} {full : Value}
    (reduced : mappingRule reduce mode.nested kind properties = .ok full) :
    ∃ kept entries, full = .mapping entries ∧
      mappingRule reduce mode.outermost kind properties = .ok (.mapping kept) ∧
        List.Forall₂ (Unreduced (reduce mode.nested) kind properties) kept entries := by
  obtain ⟨pairs, pairsOk, same⟩ := bind_eq_ok_iff.1 reduced
  obtain ⟨kept, each, matching⟩ := exists_kept_of_forall₂ (mapM_eq_ok_iff.1 pairsOk)
  refine ⟨Entries.ofPairs kept, Entries.ofPairs pairs, (pure_eq_ok_iff.1 same).symm, ?_, ?_⟩
  · rw [mappingRule, mapM_eq_ok_iff.2 each]
    rfl
  · have last : ∀ entry ∈ Entries.ofPairs kept, ∃ initializer,
        LastInitializer (propertyKey (reduce mode.nested) kind) properties entry.1 initializer ∧
          .ok (.node initializer) = (.ok entry.2 : Except FoldError Value) :=
      fun _ member => @exists_lastInitializer_of_mem _ mode.outermost _ _ _ each _ member
    refine ((List.forall₂_and_left _ _).2 ⟨last, matching.ofPairs⟩).imp ?_
    rintro entry result ⟨⟨initializer, isLast, isNode⟩, sameKey, other, isOther, initialOk⟩
    have isNode : entry.2 = .node initializer := (Except.ok.inj isNode).symm
    obtain rfl : initializer = other := Value.node.inj (isNode.symm.trans isOther)
    exact ⟨sameKey, initializer, isNode, isLast, initialOk⟩

end Properties

/-! ## Whole reductions -/

section Reductions

variable [Host]

namespace Environment

variable {environment : Environment} {inside : Json → Except FoldError Value}

/-- The shallow reduction of an array literal gives its elements, and the full one what each of
them reduces to. -/
theorem reduceWith_outermost_of_arrayLiteral {data : Json} {elements : List Json}
    (shape : Node.ofJson data = .ok (.arrayLiteral elements)) {mode : Mode} {full : Value}
    (reduced : environment.reduceWith inside mode.nested data = .ok full) :
    environment.reduceWith inside mode.outermost data = .ok (.sequence (elements.map .node)) ∧
      ∃ items, full = .sequence items ∧ List.Forall₂
        (fun element item => environment.reduceWith inside mode.nested element = .ok item)
        elements items := by
  rw [reduceWith_eq_nodeRule shape] at reduced ⊢
  obtain ⟨items, itemsOk, same⟩ := bind_eq_ok_iff.1 reduced
  exact ⟨rfl, items, (pure_eq_ok_iff.1 same).symm, mapM_eq_ok_iff.1 itemsOk⟩

/-- The shallow reduction of an object literal or a class gives a mapping whose entries are not yet
reduced. -/
theorem reduceWith_outermost_of_properties? {data : Json} {node : Node} {kind : String}
    {properties : List Json} (shape : Node.ofJson data = .ok node)
    (listed : node.properties? = some (kind, properties)) {mode : Mode} {full : Value}
    (reduced : environment.reduceWith inside mode.nested data = .ok full) :
    ∃ kept entries, full = .mapping entries ∧
      environment.reduceWith inside mode.outermost data = .ok (.mapping kept) ∧ List.Forall₂
        (Unreduced (environment.reduceWith inside mode.nested) kind properties) kept entries := by
  rw [reduceWith_eq_nodeRule shape] at reduced ⊢
  cases node with
  | objectLiteral _ | classDeclaration _ =>
      cases listed
      exact mappingRule_outermost reduced
  | _ => cases listed

end Environment

namespace Context

/-- The context of a shallow reduction. -/
def outermost (context : Context) : Context := { context with mode := context.mode.outermost }

/-- Where the full reduction succeeds the shallow one does, one level early. Of an array literal it
gives the elements, and of an object literal or a class the last initializer of each key, which
reduce to the items and the values of the full reduction. All else it reduces in full. -/
theorem outermost_reduce_of_nested (context : Context) (data : Json) {full : Value}
    (reduced : context.nested.reduce data = .ok full) :
    ∃ early, context.outermost.reduce data = .ok early ∧
      (∀ elements, Node.ofJson data = .ok (.arrayLiteral elements) →
        early = .sequence (elements.map .node) ∧ ∃ items, full = .sequence items ∧
          List.Forall₂ (fun element item => context.nested.reduce element = .ok item)
            elements items) ∧
      (∀ node kind properties, Node.ofJson data = .ok node →
        node.properties? = some (kind, properties) →
          ∃ kept entries, early = .mapping kept ∧ full = .mapping entries ∧
            List.Forall₂ (Unreduced context.nested.reduce kind properties) kept entries) ∧
      ((∀ node, Node.ofJson data = .ok node → ¬ node.IsCollection) → early = full) := by
  by_cases single : ∀ node, Node.ofJson data = .ok node → ¬ node.IsCollection
  · refine ⟨full, ?_, ?_, ?_, fun _ => rfl⟩
    · exact (Environment.reduceWith_nested single context.mode.outermost).trans reduced
    · intro elements shape
      exact absurd trivial (single _ shape)
    · intro node kind properties shape listed
      exact absurd (Node.isCollection_of_properties? listed) (single node shape)
  · simp only [not_forall, not_not] at single
    obtain ⟨node, shape, collection⟩ := single
    have unique : ∀ other, Node.ofJson data = .ok other → other = node :=
      fun _ otherShape => Except.ok.inj (otherShape.symm.trans shape)
    have several (all : ∀ other, Node.ofJson data = .ok other → ¬ other.IsCollection)
        {early : Value} : early = full := absurd collection (all node shape)
    cases node with
    | arrayLiteral elements =>
        obtain ⟨early, items, same, each⟩ :=
          Environment.reduceWith_outermost_of_arrayLiteral shape reduced
        refine ⟨_, early, ?_, ?_, fun all => several all⟩
        · intro elements' shape'
          cases unique _ shape'
          exact ⟨rfl, items, same, each⟩
        · intro node kind properties shape' listed
          cases unique _ shape'
          cases listed
    | objectLiteral properties | classDeclaration properties =>
        obtain ⟨kept, entries, same, early, each⟩ :=
          Environment.reduceWith_outermost_of_properties? shape rfl reduced
        refine ⟨_, early, ?_, ?_, fun all => several all⟩
        · intro elements shape'
          cases unique _ shape'
        · intro node kind properties' shape' listed
          cases unique _ shape'
          cases listed
          exact ⟨kept, entries, rfl, same, each⟩
    | _ => cases collection

end Context

end Reductions

section Stopped

attribute [local instance] Host.closed

theorem Context.outermost_reduce_of_nested_speed :
    let context : Context := { speedContext with mode := .resolve }
    context.nested.reduce speedTree = .ok (speedValue (.integer 3)) ∧
      ∃ kept entries, context.outermost.reduce speedTree = .ok (.mapping kept) ∧
        speedValue (.integer 3) = .mapping entries ∧
          ∀ properties, Node.ofJson speedTree = .ok (.objectLiteral properties) →
            List.Forall₂ (Unreduced context.nested.reduce "ObjectLiteralExpression" properties)
              kept entries := by
  intro context
  have reduced : context.nested.reduce speedTree = .ok (speedValue (.integer 3)) := by
    rw [Context.reduce_eq_unrolled 4]
    rfl
  have shape : ∃ properties, Node.ofJson speedTree = .ok (.objectLiteral properties) := ⟨_, rfl⟩
  obtain ⟨properties, shape⟩ := shape
  obtain ⟨early, earlyOk, -, stopped, -⟩ :=
    Context.outermost_reduce_of_nested context speedTree reduced
  obtain ⟨kept, entries, rfl, same, each⟩ := stopped _ _ properties shape rfl
  refine ⟨reduced, kept, entries, earlyOk, same, ?_⟩
  intro properties' shape'
  cases Except.ok.inj (shape'.symm.trans shape)
  exact each

end Stopped

end SyntaxFold
