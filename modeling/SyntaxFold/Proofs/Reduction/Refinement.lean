import SyntaxFold.Proofs.Reduction.Rule
import SyntaxFold.Proofs.Scope

/-!
# Reductions that agree where one of them is settled

Two reductions of the same tree may differ in their tables and in what lies inside calls and
lookups. When each table answers a question in the later reduction as it does in the earlier one,
unless the earlier answer was only provisional, the outcomes agree in the same sense
(`Environment.reduceWith_refines`). Raising the limit on lookups and calls is a case of this, since
reaching the limit is provisional, and so is adding to the tables.
-/

namespace SyntaxFold

open Outcome

variable {provisional : FoldError → Prop} {earlier later : Environment}

namespace Environment

/-- The later environment answers every question that a reduction asks as the earlier one does,
unless the earlier answer was provisional. -/
structure RefinedBy (provisional : FoldError → Prop) (earlier later : Environment) : Prop where
  operator : ∀ operator : Json,
    Refines provisional (requireMinus earlier.kinds operator) (requireMinus later.kinds operator)
  callee : ∀ target : Value,
    Refines provisional (functionOf earlier.registry target) (functionOf later.registry target)
  member : ∀ scope property : String,
    Refines provisional (earlier.scopes.lookup scope property)
      (later.scopes.lookup scope property)

theorem refinedBy_refl (environment : Environment) :
    RefinedBy provisional environment environment where
  operator _ := refines_refl _
  callee _ := refines_refl _
  member _ _ := refines_refl _

/-- The value of an initializer that a lookup has found. -/
def initialValue (inside : Json → Except FoldError Value) : Initializer → Except FoldError Value
  | .native value => .ok value
  | .node tree => inside tree

theorem memberWith_eq_bind (environment : Environment) (inside : Json → Except FoldError Value)
    (scope property : String) :
    environment.memberWith inside scope property =
      environment.scopes.lookup scope property >>= initialValue inside := by
  unfold memberWith
  split
  · next failed => rw [failed, error_bind]
  · next found =>
      rw [found, ok_bind]
      rfl
  · next found =>
      rw [found, ok_bind]
      rfl

variable {inside inside' : Json → Except FoldError Value}

theorem memberWith_refines (tables : RefinedBy provisional earlier later)
    (within : ∀ tree, earlier.scopes.Binds tree → Refines provisional (inside tree) (inside' tree))
    (scope property : String) :
    Refines provisional (earlier.memberWith inside scope property)
      (later.memberWith inside' scope property) := by
  rw [memberWith_eq_bind, memberWith_eq_bind]
  refine refines_bind (tables.member scope property) ?_
  intro initializer found
  cases initializer with
  | node tree => exact within tree ⟨scope, property, found⟩
  | native value => exact refines_refl _

theorem accessWith_refines (tables : RefinedBy provisional earlier later)
    (within : ∀ tree, earlier.scopes.Binds tree → Refines provisional (inside tree) (inside' tree))
    (base : Value) (name : String) :
    Refines provisional (earlier.accessWith inside base name)
      (later.accessWith inside' base name) := by
  cases base with
  | string scope => exact memberWith_refines tables within scope name
  | _ => exact refines_refl _

theorem callWith_refines [Host] (tables : RefinedBy provisional earlier later) {callee : Json}
    {arguments : List Json}
    (within : ∀ part ∈ callee :: arguments, Refines provisional (inside part) (inside' part)) :
    Refines provisional (earlier.callWith inside callee arguments)
      (later.callWith inside' callee arguments) := by
  rw [List.forall_mem_cons] at within
  refine refines_bind within.1 fun target _ => ?_
  refine refines_bind (refines_mapM within.2) fun values _ => ?_
  refine refines_bind (tables.callee target) fun function _ => ?_
  exact refines_refl _

end Environment

/-! ## One node -/

section Rule

variable {reduce reduce' : Mode → Json → Except FoldError Value}
variable {inside inside' : Json → Except FoldError Value}

theorem propertyRule_refines {property : Json}
    (parts : ∀ part ∈ propertyParts property, ∀ mode,
      Refines provisional (reduce mode part) (reduce' mode part))
    (mode : Mode) (kind : String) :
    Refines provisional (propertyRule reduce mode kind property)
      (propertyRule reduce' mode kind property) := by
  refine refines_bind (refines_refl _) fun name named => ?_
  have namePart : name ∈ propertyParts property := mem_propertyParts_of_name named
  refine refines_bind (parts name namePart _) fun nameValue _ => ?_
  refine refines_bind (refines_refl _) fun key _ => ?_
  refine refines_bind (refines_refl _) fun initializer initialized => ?_
  have initializerPart : initializer ∈ propertyParts property :=
    mem_propertyParts_of_initializer initialized
  refine refines_bind ?_ fun value _ => refines_refl _
  split
  · exact refines_refl _
  · exact parts initializer initializerPart _

theorem mappingRule_refines {properties : List Json}
    (parts : ∀ part ∈ properties.flatMap propertyParts, ∀ mode,
      Refines provisional (reduce mode part) (reduce' mode part))
    (mode : Mode) (kind : String) :
    Refines provisional (mappingRule reduce mode kind properties)
      (mappingRule reduce' mode kind properties) := by
  refine refines_bind (refines_mapM ?_) fun pairs _ => refines_refl _
  intro property member
  refine propertyRule_refines ?_ mode kind
  intro part partMember
  exact parts part (List.mem_flatMap.2 ⟨property, member, partMember⟩)

/-- The rule of a node keeps what is settled, if the reduction of its parts does, and, where names
are resolved, the reduction of parts and of bound nodes inside calls and lookups. -/
theorem Environment.nodeRule_refines [Host] (tables : RefinedBy provisional earlier later)
    {node : Node} {mode : Mode}
    (within : mode.resolving = true → ∀ tree, tree ∈ node.parts ∨ earlier.scopes.Binds tree →
      Refines provisional (inside tree) (inside' tree))
    (parts : ∀ part ∈ node.parts, ∀ mode,
      Refines provisional (reduce mode part) (reduce' mode part))
    (whole : Json) :
    Refines provisional (earlier.nodeRule inside reduce mode whole node)
      (later.nodeRule inside' reduce' mode whole node) := by
  cases node with
  | arrayLiteral elements =>
      simp only [nodeRule]
      split
      · exact refines_refl _
      · refine refines_bind (refines_mapM ?_) fun values _ => refines_refl _
        intro element member
        exact parts element member _
  | objectLiteral properties => exact mappingRule_refines parts mode _
  | classDeclaration members => exact mappingRule_refines parts mode _
  | prefixUnary operator operand =>
      refine refines_bind (tables.operator operator) fun _ _ => ?_
      refine refines_bind (parts operand (by simp [Node.parts]) _) fun value _ => ?_
      exact refines_refl _
  | binary left token right =>
      simp only [nodeRule]
      split
      · exact refines_refl _
      · refine refines_bind (parts left (by simp [Node.parts]) _) fun leftValue _ => ?_
        refine refines_bind (parts right (by simp [Node.parts]) _) fun rightValue _ => ?_
        exact refines_refl _
  | wrapper expression => exact parts expression (by simp [Node.parts]) _
  | arrowFunction parameters body =>
      simp only [nodeRule]
      split
      · exact refines_refl _
      · next base factor recognized =>
          have factorPart : factor ∈ (Node.arrowFunction parameters body).parts := by
            simp [Node.parts, recognized]
          exact refines_bind (parts factor factorPart _) fun scale _ => refines_refl _
  | call callee arguments =>
      simp only [nodeRule]
      split
      · next resolving =>
          refine callWith_refines tables ?_
          exact fun part member => within resolving part (.inl member)
      · exact refines_refl _
  | propertyAccess expression name =>
      simp only [nodeRule]
      split
      · next resolving =>
          refine refines_bind (parts expression (by simp [Node.parts]) _) fun base _ => ?_
          refine accessWith_refines tables ?_ base name
          exact fun tree bound => within resolving tree (.inr bound)
      · exact refines_refl _
  | elementAccess expression argument =>
      simp only [nodeRule]
      split
      · refine refines_bind (parts expression (by simp [Node.parts]) _) fun base _ => ?_
        refine refines_bind (parts argument (by simp [Node.parts]) _) fun index _ => ?_
        exact refines_refl _
      · exact refines_refl _
  | _ => exact refines_refl _

/-- The rule of a tree keeps what is settled, if the reduction of its parts does, and, where names
are resolved, the reduction of parts and of bound nodes inside calls and lookups. -/
theorem Environment.rule_refines [Host] (tables : RefinedBy provisional earlier later)
    {data : Json} {mode : Mode}
    (within : mode.resolving = true → ∀ tree, tree ∈ data.parts ∨ earlier.scopes.Binds tree →
      Refines provisional (inside tree) (inside' tree))
    (parts : ∀ part ∈ data.parts, ∀ mode,
      Refines provisional (reduce mode part) (reduce' mode part)) :
    Refines provisional (earlier.rule inside reduce mode data)
      (later.rule inside' reduce' mode data) := by
  cases data with
  | array items =>
      refine refines_bind (refines_mapM ?_) fun values _ => refines_refl _
      intro item member
      exact parts item member _
  | object entries =>
      refine refines_bind (refines_refl _) fun node shape => ?_
      rw [Json.parts_of_ofJson shape] at within parts
      exact nodeRule_refines tables within parts _
  | _ => exact refines_refl _

end Rule

/-! ## Whole reductions -/

variable [Host]

namespace Environment

/-- A reduction keeps what is settled in an earlier one, if its tables and what lies inside its
calls and lookups do. -/
theorem reduceWith_refines {inside inside' : Json → Except FoldError Value}
    (tables : RefinedBy provisional earlier later)
    (within : ∀ tree, Refines provisional (inside tree) (inside' tree)) (data : Json) :
    ∀ mode, Refines provisional (earlier.reduceWith inside mode data)
      (later.reduceWith inside' mode data) := by
  induction data using Json.parts_induction with
  | step data ih =>
      intro mode
      rw [reduceWith_eq_rule, reduceWith_eq_rule]
      exact rule_refines tables (fun _ tree _ => within tree) ih

/-- What lies inside calls and lookups keeps what is settled, if no fewer of them may follow. -/
theorem reduceWithin_refines (tables : RefinedBy provisional earlier later)
    (limited : ∀ limit, provisional (.depthExceeded limit)) (limit limit' : Nat)
    {remaining remaining' : Nat} (le : remaining ≤ remaining') (tree : Json) :
    Refines provisional (earlier.reduceWithin limit remaining tree)
      (later.reduceWithin limit' remaining' tree) := by
  induction remaining generalizing remaining' tree with
  | zero => exact refines_of_provisional (limited limit) _
  | succ remaining ih =>
      cases remaining' with
      | zero => omega
      | succ remaining' =>
          refine reduceWith_refines tables ?_ tree .resolve
          intro inner
          exact ih (Nat.le_of_succ_le_succ le) inner

end Environment

/-- A reduction in a context keeps what is settled in another, if its tables do and it may go no
less deep. -/
theorem Context.reduce_refines (earlier later : Context)
    (tables : Environment.RefinedBy provisional earlier.environment later.environment)
    (limited : ∀ limit, provisional (.depthExceeded limit))
    (sameMode : later.mode = earlier.mode) (deeper : earlier.remaining ≤ later.remaining)
    (data : Json) :
    Refines provisional (earlier.reduce data) (later.reduce data) := by
  unfold Context.reduce
  rw [sameMode]
  refine Environment.reduceWith_refines tables ?_ data earlier.mode
  intro tree
  exact Environment.reduceWithin_refines tables limited _ _ deeper tree

end SyntaxFold
