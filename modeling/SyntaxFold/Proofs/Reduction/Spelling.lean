import SyntaxFold.Proofs.Node.Spelling
import SyntaxFold.Proofs.Reduction.Likeness
import SyntaxFold.Proofs.Reduction.Resolved
import SyntaxFold.Proofs.Reduction.Supply

/-!
# Trees of different parser versions reduce alike

A respelling of a tree and of the nodes of the scopes keeps the outcome of every reduction, up to
what the outcome quotes: nodes that are let through are respelled themselves, and an error may quote
another name of the same kind. In literal mode this follows rule by rule. With resolving, the values
are even the same, and where the tables supply no node they contain none; only the children that a
shallow reduction leaves as they are differ.
-/

namespace SyntaxFold

open Outcome Value

variable {kinds : KindTable} {rewrites : Json → Json → Prop}

/-! ## Values -/

/-- Two values that are the same up to the rewriting of the nodes in their sequences and
mappings. -/
inductive Value.Respelled (rewrites : Json → Json → Prop) : Value → Value → Prop
  | scalar {value : Value} : value.isScalar = true → Respelled rewrites value value
  | function (stamp : Nat) (body : Callable) :
      Respelled rewrites (.function stamp body) (.function stamp body)
  | sequence {items items' : List Value} :
      List.Forall₂ (Respelled rewrites) items items' →
        Respelled rewrites (.sequence items) (.sequence items')
  | mapping {entries entries' : List (String × Value)} :
      entries.map Prod.fst = entries'.map Prod.fst →
        List.Forall₂ (Respelled rewrites) (Entries.values entries) (Entries.values entries') →
          Respelled rewrites (.mapping entries) (.mapping entries')
  | node {tree tree' : Json} :
      rewrites tree tree' → Respelled rewrites (.node tree) (.node tree')

theorem congruent_respelled : Congruent (Value.Respelled rewrites) where
  scalar _ := .scalar
  function := .function
  sequence _ _ := .sequence
  mapping entries entries' matching := by
    refine .mapping ?_ ?_
    · rw [← List.forall₂_eq_eq_eq]
      exact List.forall₂_map_left_iff.2
        (List.forall₂_map_right_iff.2 (matching.imp fun _ _ related => related.1))
    · exact List.forall₂_map_left_iff.2
        (List.forall₂_map_right_iff.2 (matching.imp fun _ _ related => related.2))
  type_eq _ _ related := by cases related <;> rfl
  eq_of_isScalar _ _ related scalar := by
    cases related with
    | scalar _ | function _ _ => rfl
    | sequence _ | mapping _ _ | node _ => cases scalar

/-- A value without nodes stays as it is. -/
theorem respelled_self {value : Value} (free : value.NodeFree) :
    Value.Respelled rewrites value value := by
  induction free with
  | @intro value here _ ih =>
      cases value with
      | sequence items => exact .sequence (List.forall₂_same.2 ih)
      | mapping entries => exact .mapping rfl (List.forall₂_same.2 ih)
      | function stamp body => exact .function stamp body
      | node tree => exact here.elim
      | _ => exact .scalar rfl

/-! ## Reduction -/

/-- Reduction does not notice a respelling. -/
theorem Respelling.lawful (rule : Respelling kinds rewrites) :
    (respelling kinds rewrites).Lawful kinds FoldError.Respelled where
  kind_self := sameKind_self
  operator _ _ same := same
  token _ _ same := same.ofToken?_eq
  formula _ _ _ _ := rule.recognize
  literal _ _ := .self _
  malformed _ _ field same := .malformed field same
  unimplemented _ _ same := .unimplemented same

/-- A respelled tree is no collection unless the tree is one. -/
theorem Respelling.not_isCollection (rule : Respelling kinds rewrites) {tree tree' : Json}
    (related : rewrites tree tree')
    (single : ∀ node, Node.ofJson tree = .ok node → ¬ node.IsCollection) :
    ∀ node', Node.ofJson tree' = .ok node' → ¬ node'.IsCollection := by
  intro node' shape' collection
  have nodes := rule.ofJson related
  rw [shape'] at nodes
  generalize shape : Node.ofJson tree = outcome at nodes
  cases nodes with
  | ok alike => exact single _ shape (alike.isCollection collection)

section Reductions

variable [Host] {environment : Environment} {scopes : SymbolTable}
variable {inside inside' : Json → Except FoldError Value}

namespace Environment

theorem reduceWith_respelled_of_literal (rule : Respelling environment.kinds rewrites)
    {tree tree' : Json} (related : rewrites tree tree') {mode : Mode}
    (literal : mode.resolving = false) :
    Agrees (Value.Respelled rewrites) FoldError.Respelled
      (environment.reduceWith inside mode tree)
      ((environment.withScopes scopes).reduceWith inside' mode tree') := by
  have sameKinds := kinds_withScopes environment scopes
  refine reduceWith_literal_alike rule.lawful sameKinds congruent_respelled ?_ ?_ ?_ tree tree'
    mode related literal
  · exact fun _ _ => rule.alike
  · exact fun _ _ => id
  · exact fun _ _ => .node

/-- Environments whose scopes are respelled. -/
theorem alike_of_respelling (rule : Respelling environment.kinds rewrites)
    (table : environment.scopes.Matches rewrites scopes) :
    Environment.Alike (respelling environment.kinds rewrites) FoldError.Respelled environment
      (environment.withScopes scopes) where
  lawful := rule.lawful
  error_self := .self
  kinds := rfl
  registry := rfl
  scopes := table
  tree _ _ related := Or.inl (rule.alike related)
  factor inside inside' factor factor' related := by
    have agrees : Agrees (Value.Respelled rewrites) FoldError.Respelled
        (environment.reduceWith inside .literal factor)
        ((environment.withScopes scopes).reduceWith inside' .literal factor') :=
      reduceWith_respelled_of_literal rule related rfl
    exact agrees.imp fun _ _ _ scales => congruent_respelled.float?_eq scales

/-- With resolving, the value of a respelled tree is the same, and it contains no node if the tables
supply none. -/
theorem reduceWith_respelled_of_resolve (rule : Respelling environment.kinds rewrites)
    (supplies : environment.Supplies NotNode) (table : environment.scopes.Matches rewrites scopes)
    (limit remaining : Nat) {tree tree' : Json} (related : rewrites tree tree') :
    Agrees (Value.Respelled rewrites) FoldError.Respelled
      (environment.reduceWithin limit (remaining + 1) tree)
      ((environment.withScopes scopes).reduceWithin limit (remaining + 1) tree') := by
  have agrees := (alike_of_respelling rule table).reduceWithin limit (remaining + 1) tree tree'
    related
  refine agrees.imp ?_
  rintro value _ reduced rfl
  exact respelled_self
    (reduceWithin_everywhere invariant_notNode supplies limit (remaining + 1) tree value reduced)

/-- The children that a shallow reduction leaves as they are have been respelled. -/
theorem reduceWith_respelled_of_collection (rule : Respelling environment.kinds rewrites)
    {mode : Mode} (resolving : mode.resolving = true)
    (nested : ∀ tree tree', rewrites tree tree' → Agrees (Value.Respelled rewrites)
      FoldError.Respelled (environment.reduceWith inside mode.nested tree)
        ((environment.withScopes scopes).reduceWith inside' mode.nested tree'))
    {tree tree' : Json} (related : rewrites tree tree') {node : Node}
    (shape : Node.ofJson tree = .ok node) (collection : node.IsCollection) :
    Agrees (Value.Respelled rewrites) FoldError.Respelled
      (environment.reduceWith inside mode tree)
      ((environment.withScopes scopes).reduceWith inside' mode tree') := by
  have sameKinds := kinds_withScopes environment scopes
  rw [reduceWith_eq_rule, reduceWith_eq_rule]
  refine rule_alike rule.lawful sameKinds congruent_respelled (rule.alike related) ⟨?_, ?_⟩
    ?_ ?_ ?_
  · intro part _ part' _ parts
    exact nested part part' parts
  · intro factor _ factor' _ factors
    have agrees : Agrees (Value.Respelled rewrites) FoldError.Respelled
        (environment.reduceWith inside .literal factor)
        ((environment.withScopes scopes).reduceWith inside' .literal factor') :=
      reduceWith_respelled_of_literal rule factors rfl
    exact agrees.imp fun _ _ _ scales => congruent_respelled.float?_eq scales
  · exact fun _ _ _ => .node
  · exact fun literal => by cases resolving.symm.trans literal
  · exact fun _ single => absurd collection (single node shape)

end Environment

/-- Reducing a respelled tree in respelled scopes gives the outcome of the reduction up to the
spelling, in every mode: in literal mode whatever the tables are, and with resolving if they supply
no nodes, as the prelude, `Math` and members that are bound to nodes do
(`supplies_of_bindsNodes`). -/
theorem Context.reduce_of_respelling (context : Context)
    (rule : Respelling context.environment.kinds rewrites)
    (supplies : context.environment.Supplies NotNode)
    (table : context.environment.scopes.Matches rewrites scopes) {tree tree' : Json}
    (related : rewrites tree tree') :
    Agrees (Value.Respelled rewrites) FoldError.Respelled (context.reduce tree)
      ((context.withScopes scopes).reduce tree') := by
  cases resolving : context.mode.resolving with
  | false => exact Environment.reduceWith_respelled_of_literal rule related resolving
  | true =>
      have deep : context.mode.nested = .resolve := by
        rw [Mode.nested, resolving]
        rfl
      have nested : ∀ tree tree', rewrites tree tree' →
          Agrees (Value.Respelled rewrites) FoldError.Respelled
            (context.environment.reduceWith context.inside context.mode.nested tree)
            ((context.environment.withScopes scopes).reduceWith (context.withScopes scopes).inside
              context.mode.nested tree') := by
        intro tree tree' related
        rw [deep]
        exact Environment.reduceWith_respelled_of_resolve rule supplies table _ _ related
      by_cases single : ∀ node, Node.ofJson tree = .ok node → ¬ node.IsCollection
      · have single' := rule.not_isCollection related single
        rw [Context.reduce, Context.reduce, Environment.reduceWith_nested single,
          Environment.reduceWith_nested single']
        exact nested tree tree' related
      · simp only [not_forall, not_not] at single
        obtain ⟨node, shape, collection⟩ := single
        exact Environment.reduceWith_respelled_of_collection rule resolving nested related shape
          collection

end Reductions

section Respelled

attribute [local instance] Host.closed

/-- The later names of kinds. -/
def laterSpelling : String → String
  | "FirstLiteralToken" => "NumericLiteral"
  | "FirstTemplateToken" => "NoSubstitutionTemplateLiteral"
  | "TypeAssertionExpression" => "ParenthesizedExpression"
  | kind => kind

theorem sameKind_laterSpelling (kind : String) : SameKind kind (laterSpelling kind) := by
  unfold laterSpelling
  split
  · exact Or.inr (by decide)
  · exact Or.inr (by decide)
  · exact Or.inr (by decide)
  · exact sameKind_self kind

/-- A table that knows the code of the minus. -/
def minusKinds : KindTable := ⟨[(41, "MinusToken")]⟩

/-- `Math` and a class with one property, a number whose kind has the given name. -/
def numberScopes (kind : String) : SymbolTable :=
  ⟨[("Math", .math),
    (selfScope, ⟨"Config", [("speed", .node (Tree.node kind [("text", .string "3")]))]⟩)]⟩

/-- The negative of that property, with an operator and a wrapper as given. -/
def negatedSpeed (operator : Json) (wrapper : String) : Json :=
  Tree.unary operator (Tree.node wrapper [("expression", Tree.access Tree.this "speed")])

theorem Context.reduce_of_respelling_negated :
    let environment : Environment := ⟨minusKinds, .prelude, numberScopes "FirstLiteralToken"⟩
    let context : Context := ⟨environment, .resolve, 256, 0⟩
    let scopes := numberScopes "NumericLiteral"
    let rewrites := fun tree tree' => tree.respell laterSpelling minusKinds = tree'
    let tree := negatedSpeed (.integer 41) "TypeAssertionExpression"
    let tree' := negatedSpeed (.string "MinusToken") "ParenthesizedExpression"
    (Respelling minusKinds rewrites ∧ environment.Supplies NotNode ∧
      environment.scopes.Matches rewrites scopes ∧ rewrites tree tree' ∧
        context.reduce tree = .ok (.integer (-3))) ∧
          (context.withScopes scopes).reduce tree' = .ok (.integer (-3)) := by
  intro environment context scopes rewrites tree tree'
  have rule : Respelling minusKinds rewrites := respelling_respell _ sameKind_laterSpelling
  have supplies : environment.Supplies NotNode :=
    supplies_of_bindsNodes invariant_notNode rfl (bindsNodes_of_property _ _ _)
  have table : environment.scopes.Matches rewrites scopes :=
    .cons ⟨rfl, Group.matches_math⟩ (.cons ⟨rfl, rfl, .cons ⟨rfl, .node rfl⟩ .nil⟩ .nil)
  have related : rewrites tree tree' := rfl
  have reduced : context.reduce tree = .ok (.integer (-3)) := by
    rw [Context.reduce_eq_unrolled 4]
    rfl
  have agrees := Context.reduce_of_respelling context rule supplies table related
  refine ⟨⟨rule, supplies, table, related, reduced⟩, ?_⟩
  rw [reduced] at agrees
  generalize (context.withScopes scopes).reduce tree' = outcome at agrees ⊢
  cases agrees with
  | ok same =>
      cases same
      rfl

end Respelled

end SyntaxFold
