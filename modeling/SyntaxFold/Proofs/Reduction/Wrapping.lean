import SyntaxFold.Proofs.Node.Builder
import SyntaxFold.Proofs.Reduction.LiteralMode
import SyntaxFold.Proofs.Reduction.LiteralStage

/-!
# Wrappers are transparent

Parentheses and type assertions may be put around any expressions that are reduced, any number of
times, in a tree and in the nodes of the scopes. With resolving, the outcome stays the same: rules
look at what an expression reduces to, not at how it is written, and a wrapper does not count
against the limit on lookups and calls. Function literals are an exception, since these are
recognized by their syntax; nothing is wrapped inside of them.
-/

namespace SyntaxFold

open Outcome Value

/-! ## Wrapping -/

/-- A wrapper around an expression. -/
structure Encloses (outer inner : Json) : Prop where
  form : outer.HasForm .wrapper
  expression : outer.get? "expression" = some inner

/-- The role of a field in properties. -/
def propertyRole : String → Role
  | "name" | "initializer" => .expression
  | _ => .unread

mutual

/-- On the right, wrappers have been put around expressions on the left. The role says what the
trees stand for: only expressions are wrapped, and these are also found in lists and properties. -/
inductive Wraps : Role → Json → Json → Prop
  | same (role : Role) (tree : Json) : Wraps role tree tree
  | around {tree inner outer : Json} :
      Wraps .expression tree inner → Encloses outer inner → Wraps .expression tree outer
  | bare {items items' : List Json} :
      WrapsEach items items' → Wraps .expression (.array items) (.array items')
  | node {form : Form} {entries entries' : List (String × Json)} :
      (Json.object entries).HasForm form → WrapsFields form.role entries entries' →
        Wraps .expression (.object entries) (.object entries')
  | expressions {items items' : List Json} :
      WrapsEach items items' → Wraps .expressions (.array items) (.array items')
  | properties {items items' : List Json} :
      WrapsProperties items items' → Wraps .properties (.array items) (.array items')

/-- Wrappers have been put around the expressions of a list. -/
inductive WrapsEach : List Json → List Json → Prop
  | nil : WrapsEach [] []
  | cons {item item' : Json} {rest rest' : List Json} :
      Wraps .expression item item' → WrapsEach rest rest' →
        WrapsEach (item :: rest) (item' :: rest')

/-- Wrappers have been put around expressions in fields with the given roles. -/
inductive WrapsFields : (String → Role) → List (String × Json) → List (String × Json) → Prop
  | nil (role : String → Role) : WrapsFields role [] []
  | cons {role : String → Role} {key : String} {value value' : Json}
      {rest rest' : List (String × Json)} :
      Wraps (role key) value value' → WrapsFields role rest rest' →
        WrapsFields role ((key, value) :: rest) ((key, value') :: rest')

/-- Wrappers have been put around the names and initializers of properties. -/
inductive WrapsProperties : List Json → List Json → Prop
  | nil : WrapsProperties [] []
  | same {rest rest' : List Json} (property : Json) :
      WrapsProperties rest rest' → WrapsProperties (property :: rest) (property :: rest')
  | cons {entries entries' : List (String × Json)} {rest rest' : List Json} :
      WrapsFields propertyRole entries entries' → WrapsProperties rest rest' →
        WrapsProperties (.object entries :: rest) (.object entries' :: rest')

end

/-- The variation that wrapping is. -/
def wrapping : Variation := .ofParts (Wraps .expression)

theorem reflexive_wrapping : wrapping.Reflexive :=
  Variation.reflexive_ofParts (Wraps.same .expression)

theorem WrapsEach.forall₂ {items items' : List Json} (wraps : WrapsEach items items') :
    List.Forall₂ (Wraps .expression) items items' := by
  induction items generalizing items' with
  | nil =>
      cases wraps
      exact .nil
  | cons item rest ih =>
      cases wraps with
      | cons head tail => exact .cons head (ih tail)

theorem WrapsFields.get? {role : String → Role} {entries entries' : List (String × Json)}
    (wraps : WrapsFields role entries entries') (key : String) :
    Option.Rel (Wraps (role key)) (Entries.get? key entries) (Entries.get? key entries') := by
  induction entries generalizing entries' with
  | nil =>
      cases wraps
      exact .none
  | cons entry rest ih =>
      cases wraps with
      | cons head tail =>
          simp only [Entries.get?]
          split
          · next same =>
              subst same
              exact .some head
          · exact ih tail

/-- Fields that hold no expressions stay as they are. -/
theorem WrapsFields.get?_eq {role : String → Role} {entries entries' : List (String × Json)}
    (wraps : WrapsFields role entries entries') {key : String} (unread : role key = .unread) :
    Entries.get? key entries' = Entries.get? key entries := by
  have found := wraps.get? key
  rw [unread] at found
  generalize Entries.get? key entries = value at found ⊢
  generalize Entries.get? key entries' = value' at found ⊢
  cases found with
  | none => rfl
  | some related =>
      cases related
      rfl

theorem propertyAlike_of_wrapsFields {entries entries' : List (String × Json)}
    (wraps : WrapsFields propertyRole entries entries') :
    PropertyAlike wrapping (.object entries) (.object entries') where
  kind := by
    have same : kindOf (.object entries') = kindOf (.object entries) :=
      congrArg (fun found => found.bind Json.string?) (wraps.get?_eq rfl)
    rw [same]
    exact option_rel_self (fun _ => rfl) _
  name := wraps.get? "name"
  initializer := wraps.get? "initializer"

theorem WrapsProperties.forall₂ {properties properties' : List Json}
    (wraps : WrapsProperties properties properties') :
    List.Forall₂ (PropertyAlike wrapping) properties properties' := by
  induction properties generalizing properties' with
  | nil =>
      cases wraps
      exact .nil
  | cons property rest ih =>
      cases wraps with
      | same _ tail => exact .cons (propertyAlike_self reflexive_wrapping property) (ih tail)
      | cons head tail => exact .cons (propertyAlike_of_wrapsFields head) (ih tail)

/-- A field in which expressions have been wrapped differs as its role allows. -/
theorem Role.alike_of_wraps {role : Role} {found found' : Option Json}
    (wraps : Option.Rel (Wraps role) found found') : role.Alike wrapping found found' := by
  cases wraps with
  | none => exact alike_self reflexive_wrapping role none
  | @some value value' wraps =>
      cases wraps with
      | same => exact alike_self reflexive_wrapping role _
      | around wraps encloses => exact .some (.around wraps encloses)
      | bare each => exact .some (.bare each)
      | node hasForm fields => exact .some (.node hasForm fields)
      | expressions each => exact .some each.forall₂
      | properties each => exact .some each.forall₂

/-- What has been wrapped is a wrapper, or its root is as before. -/
theorem Wraps.alike {tree tree' : Json} (wraps : Wraps .expression tree tree') :
    Json.Alike wrapping (· = ·) tree tree' ∨
      ∃ inner, Node.ofJson tree' = .ok (.wrapper inner) ∧ wrapping.part tree inner := by
  cases wraps with
  | same => exact Or.inl (Json.alike_self reflexive_wrapping (fun _ _ => rfl) tree)
  | @around _ inner _ wraps encloses =>
      refine Or.inr ⟨inner, Node.ofJson_of_hasForm encloses.form ?_, wraps⟩
      intro kind
      simp only [Node.read, requireField, encloses.expression]
      rfl
  | bare each => exact Or.inl (.array each.forall₂)
  | @node form entries entries' hasForm fields =>
      obtain ⟨kind, isKind, known⟩ := hasForm
      have isKind' : (Json.object entries').get? "kind" = some (.string kind) :=
        (fields.get?_eq form.role_kind).trans isKind
      refine Or.inl (.node (Node.ofJson_alike isKind isKind' known known (fun _ => rfl) ?_))
      exact fun key => Role.alike_of_wraps (fields.get? key)

/-! ## Reduction -/

section Reductions

variable [Host]

/-- Environments whose scopes differ in wrappers only. -/
theorem Environment.alike_of_wraps (environment : Environment) {scopes : SymbolTable}
    (table : environment.scopes.Matches (Wraps .expression) scopes) :
    Environment.Alike wrapping (· = ·) environment (environment.withScopes scopes) where
  lawful := Variation.lawful_ofParts _ _ fun _ _ => rfl
  error_self _ := rfl
  kinds := rfl
  registry := rfl
  scopes := table
  tree _ _ wraps := wraps.alike
  factor inside inside' factor factor' same := by
    obtain rfl : factor = factor' := same
    exact agrees_factor (kinds_withScopes environment scopes) (fun _ => rfl) factor

/-- Putting wrappers around expressions, in a tree and in the nodes of the scopes, changes nothing
about the outcome when everything is resolved. -/
theorem Context.reduce_of_wraps (context : Context) (resolving : context.mode = .resolve)
    {scopes : SymbolTable} (table : context.environment.scopes.Matches (Wraps .expression) scopes)
    {tree tree' : Json} (wraps : Wraps .expression tree tree') :
    (context.withScopes scopes).reduce tree' = context.reduce tree := by
  have alike := Environment.alike_of_wraps context.environment table
  have agrees := alike.reduceWithin context.maxDepth (context.remaining + 1) tree tree' wraps
  have resolving' : (context.withScopes scopes).mode = .resolve := resolving
  rw [Context.reduce_eq_reduceWithin resolving, Context.reduce_eq_reduceWithin resolving']
  exact agrees.eq.symm

end Reductions

section Wrapped

attribute [local instance] Host.closed

theorem wraps_parenthesized {tree inner : Json} (wraps : Wraps .expression tree inner) :
    Wraps .expression tree (Tree.parenthesized inner) :=
  .around wraps ⟨Tree.hasForm_node rfl _, rfl⟩

/-- `speedContext`, with the initializer in parentheses. -/
def wrappedScopes : SymbolTable :=
  ⟨[(selfScope, ⟨"Config",
    [("speed", .node (Tree.parenthesized (Tree.numeral "3")))]⟩)]⟩

/-- An access to a member of the enclosing scope. -/
def speedAccess : Json := Tree.access Tree.this "speed"

/-- The same access with parentheses around the base and twice around the whole. -/
def wrappedAccess : Json :=
  Tree.parenthesized (Tree.parenthesized (Tree.access (Tree.parenthesized Tree.this) "speed"))

theorem wraps_wrappedAccess : Wraps .expression speedAccess wrappedAccess := by
  refine wraps_parenthesized (wraps_parenthesized ?_)
  have base : Wraps .expression Tree.this (Tree.parenthesized Tree.this) :=
    wraps_parenthesized (.same _ _)
  have form : speedAccess.HasForm .propertyAccess := Tree.hasForm_node rfl _
  exact .node form (.cons (.same _ _) (.cons base (.cons (.same _ _) (.nil _))))

theorem matches_wrappedScopes :
    speedContext.environment.scopes.Matches (Wraps .expression) wrappedScopes := by
  have initializer : Wraps .expression (Tree.numeral "3")
      (Tree.parenthesized (Tree.numeral "3")) :=
    wraps_parenthesized (.same _ _)
  exact .cons ⟨rfl, rfl, .cons ⟨rfl, .node initializer⟩ .nil⟩ .nil

theorem Context.reduce_of_wraps_access :
    let context : Context := { speedContext with mode := .resolve }
    (context.mode = .resolve ∧
      context.environment.scopes.Matches (Wraps .expression) wrappedScopes ∧
        Wraps .expression speedAccess wrappedAccess ∧
          context.reduce speedAccess = .ok (.integer 3)) ∧
            (context.withScopes wrappedScopes).reduce wrappedAccess = .ok (.integer 3) := by
  intro context
  have reduced : context.reduce speedAccess = .ok (.integer 3) := by
    rw [Context.reduce_eq_unrolled 3]
    rfl
  have same := Context.reduce_of_wraps context rfl matches_wrappedScopes wraps_wrappedAccess
  exact ⟨⟨rfl, matches_wrappedScopes, wraps_wrappedAccess, reduced⟩, same.trans reduced⟩

end Wrapped

end SyntaxFold
