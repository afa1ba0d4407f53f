import SyntaxFold.Proofs.Function.Everywhere
import SyntaxFold.Proofs.Reduction.Rule

/-!
# Reduction keeps what holds everywhere

An invariant of values that holds everywhere in what the tables supply holds everywhere in every
value that a reduction gives, as long as the mode lets no node through that breaks it. This is
proved for one rule first, then for trees by induction on their parts, and then for what lies inside
lookups and calls by induction on the depth that remains.
-/

namespace SyntaxFold

open Outcome Value

variable {holds : Value → Prop}

/-- Nodes that this mode may let through do not break the property. -/
def Mode.Admits (mode : Mode) (holds : Value → Prop) : Prop :=
  mode = .resolve ∨ ∀ tree, holds (.node tree)

theorem Mode.Admits.nested {mode : Mode} (admits : mode.Admits holds) :
    mode.nested.Admits holds := by
  rcases admits with rfl | nodes
  · exact Or.inl rfl
  · exact Or.inr nodes

/-- What a mode that lets nodes through gives for them keeps the property. -/
theorem Mode.Admits.node {mode : Mode} (admits : mode.Admits holds)
    (passes : mode.resolving = false ∨ mode.shallow = true) (tree : Json) :
    Everywhere holds (.node tree) := by
  rcases admits with rfl | nodes
  · simp [Mode.resolve] at passes
  · exact .intro (nodes tree) fun _ member => by cases member

/-- The property holds everywhere in what the tables of an environment supply. -/
structure Environment.Supplies (environment : Environment) (holds : Value → Prop) : Prop where
  registry : ∀ name function, environment.registry.get? name = some function →
    Everywhere holds (.function 0 function)
  native : ∀ scope property value,
    environment.scopes.lookup scope property = .ok (.native value) → Everywhere holds value

/-! ## Lookups and calls -/

section Tables

variable {environment : Environment} {inside : Json → Except FoldError Value}

theorem Environment.memberWith_everywhere (supplies : environment.Supplies holds)
    (within : ∀ tree, Ensures (Everywhere holds) (inside tree)) (scope property : String) :
    Ensures (Everywhere holds) (environment.memberWith inside scope property) := by
  unfold memberWith
  split
  · exact ensures_error _
  · next value found => exact ensures_ok (supplies.native scope property value found)
  · next tree _ => exact within tree

theorem Environment.accessWith_everywhere (invariant : Invariant holds)
    (supplies : environment.Supplies holds)
    (within : ∀ tree, Ensures (Everywhere holds) (inside tree)) {base : Value}
    (every : Everywhere holds base) (name : String) :
    Ensures (Everywhere holds) (environment.accessWith inside base name) := by
  cases base with
  | string scope => exact memberWith_everywhere supplies within scope name
  | sequence items => exact invariant.sequenceMember (fun _ => every.inside) name
  | mapping entries => exact invariant.mappingMember (fun _ => every.inside) name
  | _ => exact ensures_error _

theorem Environment.functionOf_everywhere (supplies : environment.Supplies holds)
    {target : Value} (every : Everywhere holds target) :
    Ensures (fun function => ∃ stamp, Everywhere holds (.function stamp function))
      (functionOf environment.registry target) := by
  cases target with
  | function stamp body => exact ensures_ok ⟨stamp, every⟩
  | string name =>
      simp only [functionOf]
      split
      · next function registered =>
          exact ensures_ok ⟨0, supplies.registry name function registered⟩
      · exact ensures_error _
  | _ => exact ensures_error _

theorem Environment.callWith_everywhere [Host] (invariant : Invariant holds)
    (supplies : environment.Supplies holds)
    (within : ∀ tree, Ensures (Everywhere holds) (inside tree)) (callee : Json)
    (arguments : List Json) :
    Ensures (Everywhere holds) (environment.callWith inside callee arguments) := by
  refine ensures_bind fun target targetOk => ensures_bind fun values valuesOk => ?_
  refine ensures_bind fun function functionOk => ?_
  have every : ∀ value ∈ values, Everywhere holds value :=
    ensures_mapM (fun argument _ => within argument) values valuesOk
  obtain ⟨stamp, functionEvery⟩ :=
    functionOf_everywhere supplies (within callee target targetOk) function functionOk
  have known : ¬ function.IsForeign := fun foreign =>
    invariant.foreign stamp function foreign functionEvery.here
  exact Callable.everywhere_call invariant function values known
    (fun _ => functionEvery.inside) every

end Tables

/-! ## One node -/

section Rule

variable {reduce : Mode → Json → Except FoldError Value} {mode : Mode}

theorem propertyRule_everywhere
    (kept : mode.shallow = true → ∀ tree, Everywhere holds (.node tree)) {property : Json}
    (parts : ∀ part ∈ propertyParts property,
      Ensures (Everywhere holds) (reduce mode.nested part))
    (kind : String) :
    Ensures (fun pair : String × Value => Everywhere holds pair.2)
      (propertyRule reduce mode kind property) := by
  refine ensures_bind fun name _ => ensures_bind fun nameValue _ => ?_
  refine ensures_bind fun key _ => ensures_bind fun initializer initialized => ?_
  refine ensures_bind fun value valueOk => ensures_ok ?_
  split at valueOk
  · next shallow =>
      cases valueOk
      exact kept shallow initializer
  · have initializerPart : initializer ∈ propertyParts property :=
      mem_propertyParts_of_initializer initialized
    exact parts initializer initializerPart value valueOk

theorem mappingRule_everywhere (mapping : ∀ entries, holds (.mapping entries))
    (kept : mode.shallow = true → ∀ tree, Everywhere holds (.node tree)) {properties : List Json}
    (parts : ∀ part ∈ properties.flatMap propertyParts,
      Ensures (Everywhere holds) (reduce mode.nested part))
    (kind : String) :
    Ensures (Everywhere holds) (mappingRule reduce mode kind properties) := by
  refine ensures_bind fun pairs pairsOk => ensures_ok (.intro (mapping _) ?_)
  have everyPair : ∀ pair ∈ pairs, Everywhere holds pair.2 := by
    refine ensures_mapM (fun property member => ?_) pairs pairsOk
    refine propertyRule_everywhere kept ?_ kind
    intro part partMember
    exact parts part (List.mem_flatMap.2 ⟨property, member, partMember⟩)
  intro value member
  obtain ⟨pair, pairMember, rfl⟩ := List.mem_map.1 (Entries.mem_values_ofPairs member)
  exact everyPair pair pairMember

variable [Host] {environment : Environment} {inside : Json → Except FoldError Value}

/-- The rule of a node keeps what holds everywhere, if the reduction of its parts does. -/
theorem Environment.nodeRule_everywhere (invariant : Invariant holds)
    (supplies : environment.Supplies holds)
    (within : ∀ tree, Ensures (Everywhere holds) (inside tree)) (admits : mode.Admits holds)
    {node : Node}
    (parts : ∀ part ∈ node.parts, ∀ mode : Mode, mode.Admits holds →
      Ensures (Everywhere holds) (reduce mode part))
    (whole : Json) :
    Ensures (Everywhere holds) (environment.nodeRule inside reduce mode whole node) := by
  have passed (literal : ¬ mode.resolving = true) : Ensures (Everywhere holds)
      (.ok (.node whole) : Except FoldError Value) :=
    ensures_ok (admits.node (Or.inl (Bool.eq_false_iff.2 literal)) whole)
  have kept (shallow : mode.shallow = true) (tree : Json) : Everywhere holds (.node tree) :=
    admits.node (Or.inr shallow) tree
  have nested : ∀ part ∈ node.parts, Ensures (Everywhere holds) (reduce mode.nested part) :=
    fun part member => parts part member mode.nested admits.nested
  cases node with
  | arrayLiteral elements =>
      simp only [nodeRule]
      split
      · next shallow =>
          refine ensures_ok (invariant.everywhere_sequence ?_)
          intro item member
          obtain ⟨element, -, rfl⟩ := List.mem_map.1 member
          exact kept shallow element
      · refine ensures_bind fun values valuesOk => ensures_ok ?_
        exact invariant.everywhere_sequence (ensures_mapM nested values valuesOk)
  | objectLiteral properties => exact mappingRule_everywhere invariant.mapping kept nested _
  | classDeclaration members => exact mappingRule_everywhere invariant.mapping kept nested _
  | identifier text | stringLiteral text => exact ensures_ok (invariant.everywhere_string text)
  | numericLiteral text =>
      intro value numeral
      exact invariant.everywhere_computed (computed_of_ofNumeral numeral)
  | boolean value => exact ensures_ok (invariant.everywhere_bool value)
  | null => exact ensures_ok invariant.everywhere_null
  | prefixUnary operator operand =>
      refine ensures_bind fun _ _ => ensures_bind fun value _ => ?_
      intro result negated
      exact invariant.everywhere_computed (computed_of_negate negated).2
  | binary left token right =>
      simp only [nodeRule]
      split
      · exact ensures_error _
      · refine ensures_bind fun leftValue _ => ensures_bind fun rightValue _ => ?_
        intro result applied
        exact invariant.everywhere_computed (BinaryOperator.computed_of_apply applied).2.2
  | wrapper expression => exact nested expression (by simp [Node.parts])
  | arrowFunction parameters body =>
      simp only [nodeRule]
      split
      · exact ensures_error _
      · refine ensures_bind fun scale _ => ?_
        split
        · refine ensures_ok (invariant.everywhere_function (.logarithm _ _) id ?_ 0)
          exact fun _ member => by cases member
        · exact ensures_error _
  | this =>
      simp only [nodeRule]
      split
      · exact ensures_ok (invariant.everywhere_string _)
      · exact ensures_error _
  | template =>
      simp only [nodeRule]
      split
      · exact ensures_error _
      · next literal => exact passed literal
  | call callee arguments =>
      simp only [nodeRule]
      split
      · exact callWith_everywhere invariant supplies within callee arguments
      · next literal => exact passed literal
  | propertyAccess expression name =>
      simp only [nodeRule]
      split
      · refine ensures_bind fun base baseOk => ?_
        have every := nested expression (by simp [Node.parts]) base baseOk
        exact accessWith_everywhere invariant supplies within every name
      · next literal => exact passed literal
  | elementAccess expression argument =>
      simp only [nodeRule]
      split
      · refine ensures_bind fun base baseOk => ensures_bind fun index _ => ?_
        have every := nested expression (by simp [Node.parts]) base baseOk
        exact Invariant.elementOf every index
      · next literal => exact passed literal

/-- The rule of a tree keeps what holds everywhere, if the reduction of its parts does. -/
theorem Environment.rule_everywhere (invariant : Invariant holds)
    (supplies : environment.Supplies holds)
    (within : ∀ tree, Ensures (Everywhere holds) (inside tree)) (admits : mode.Admits holds)
    {data : Json}
    (parts : ∀ part ∈ data.parts, ∀ mode : Mode, mode.Admits holds →
      Ensures (Everywhere holds) (reduce mode part)) :
    Ensures (Everywhere holds) (environment.rule inside reduce mode data) := by
  cases data with
  | null => exact ensures_ok invariant.everywhere_null
  | bool value => exact ensures_ok (invariant.everywhere_bool value)
  | integer value => exact ensures_ok (invariant.everywhere_computed (computed_ofInteger value))
  | float value => exact ensures_ok (invariant.everywhere_number value)
  | string text => exact ensures_ok (invariant.everywhere_string text)
  | array items =>
      refine ensures_bind fun values valuesOk => ensures_ok ?_
      refine invariant.everywhere_sequence (ensures_mapM ?_ values valuesOk)
      exact fun item member => parts item member mode.nested admits.nested
  | object entries =>
      refine ensures_bind fun node shape => ?_
      refine nodeRule_everywhere invariant supplies within admits ?_ _
      rw [← Json.parts_of_ofJson shape]
      exact parts

end Rule

/-! ## Whole reductions -/

variable [Host] {environment : Environment}

namespace Environment

theorem reduceWith_everywhere (invariant : Invariant holds) (supplies : environment.Supplies holds)
    {inside : Json → Except FoldError Value}
    (within : ∀ tree, Ensures (Everywhere holds) (inside tree)) (data : Json) :
    ∀ mode : Mode, mode.Admits holds →
      Ensures (Everywhere holds) (environment.reduceWith inside mode data) := by
  induction data using Json.parts_induction with
  | step data ih =>
      intro mode admits
      rw [reduceWith_eq_rule]
      exact rule_everywhere invariant supplies within admits ih

theorem reduceWithin_everywhere (invariant : Invariant holds)
    (supplies : environment.Supplies holds) (limit remaining : Nat) (tree : Json) :
    Ensures (Everywhere holds) (environment.reduceWithin limit remaining tree) := by
  induction remaining generalizing tree with
  | zero => exact ensures_error _
  | succ remaining ih =>
      exact reduceWith_everywhere invariant supplies ih tree .resolve (Or.inl rfl)

end Environment

/-- An invariant that holds everywhere in what the tables supply holds everywhere in the value of a
reduction. -/
theorem Context.reduce_everywhere (invariant : Invariant holds) (context : Context)
    (supplies : context.environment.Supplies holds) (admits : context.mode.Admits holds)
    (data : Json) : Ensures (Everywhere holds) (context.reduce data) :=
  Environment.reduceWith_everywhere invariant supplies
    (Environment.reduceWithin_everywhere invariant supplies _ _) data context.mode admits

end SyntaxFold
