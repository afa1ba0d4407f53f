import SyntaxFold.Formula
import SyntaxFold.Proofs.Node.Likeness

/-!
# Variations that are read field by field

Most variations relate two trees when they relate what stands in the fields of these. Then texts,
names and lists are read out of both trees alike, and so is every field whose role does not ask for
more. Function literals are recognized alike, too, if products and logarithms are.
-/

namespace SyntaxFold

open Outcome

/-- A variation that relates the fields of related trees. Of kinds, prefix operators and expressions
it may make something else. -/
structure Variation.Structural (variation : Variation) : Prop where
  string?_eq : ∀ tree tree', variation.part tree tree' → tree.string? = tree'.string?
  array? : ∀ tree tree', variation.part tree tree' →
    Option.Rel (List.Forall₂ variation.part) tree.array? tree'.array?
  kindOf : ∀ tree tree', variation.part tree tree' →
    Option.Rel variation.kind (kindOf tree) (kindOf tree')
  get? : ∀ tree tree' key, variation.part tree tree' →
    key ∉ ["kind", "operator", "expression"] →
      Option.Rel variation.part (tree.get? key) (tree'.get? key)

namespace Variation.Structural

variable {variation : Variation} (structural : variation.Structural) {tree tree' : Json}
include structural

theorem identifierText_eq (related : variation.part tree tree') :
    identifierText tree = identifierText tree' := by
  have text := structural.get? tree tree' "escapedText" related (by decide)
  exact congrArg (Option.map unescape) (option_bind_eq text structural.string?_eq)

theorem declarationName_eq (related : variation.part tree tree') :
    declarationName tree = declarationName tree' := by
  have name := structural.get? tree tree' "name" related (by decide)
  exact option_bind_eq name fun _ _ => structural.identifierText_eq

theorem propertyAlike (related : variation.part tree tree') :
    PropertyAlike variation tree tree' where
  kind := structural.kindOf tree tree' related
  name := structural.get? tree tree' "name" related (by decide)
  initializer := structural.get? tree tree' "initializer" related (by decide)

/-- A field that is related differs as its role allows, unless it is a prefix operator. -/
theorem roleAlike (formula : ∀ tree tree', variation.part tree tree' → variation.formula tree tree')
    (role : Role) (notOperator : role ≠ .operator) {found found' : Option Json}
    (related : Option.Rel variation.part found found') : role.Alike variation found found' := by
  have items := option_rel_bind related structural.array?
  cases role with
  | expression => exact related
  | expressions => exact items
  | properties =>
      exact option_rel_imp items fun _ _ each => each.imp fun _ _ => structural.propertyAlike
  | operator => exact absurd rfl notOperator
  | token => exact option_rel_bind related structural.kindOf
  | name => exact option_bind_eq related fun _ _ => structural.identifierText_eq
  | text => exact option_bind_eq related structural.string?_eq
  | parameters => exact option_rel_imp items fun _ _ each => each.imp formula
  | body => exact option_rel_imp related formula
  | unread => trivial

/-- Function literals are the same formulas, with related factors, if products have related sides
and logarithms are the same. -/
theorem recognize
    (product : ∀ tree tree', variation.part tree tree' →
      Option.Rel (fun sides sides' =>
        variation.part sides.1 sides'.1 ∧ variation.part sides.2 sides'.2)
          (Formula.product? tree) (Formula.product? tree'))
    (logarithm : ∀ parameter tree tree', variation.part tree tree' →
      Formula.logarithmOf? parameter tree = Formula.logarithmOf? parameter tree')
    {parameters parameters' : List Json} {body body' : Json}
    (eachParameter : List.Forall₂ variation.part parameters parameters')
    (bodies : variation.part body body') :
    Agrees (fun found found' => found.1 = found'.1 ∧ variation.part found.2 found'.2) (· = ·)
      (Formula.recognize parameters body) (Formula.recognize parameters' body') := by
  cases eachParameter with
  | nil => exact .error rfl
  | @cons parameter parameter' _ _ head tail =>
      cases tail with
      | cons _ rest =>
          simp only [Formula.recognize, List.length_cons, rest.length_eq]
          exact .error rfl
      | nil =>
          have sides := product body body' bodies
          simp only [Formula.recognize, structural.declarationName_eq head]
          cases declarationName parameter' with
          | none => exact .error rfl
          | some name =>
              dsimp only
              generalize Formula.product? body = found at sides ⊢
              generalize Formula.product? body' = found' at sides ⊢
              cases sides with
              | none => exact .error rfl
              | @some sides sides' related =>
                  rcases sides with ⟨left, right⟩
                  rcases sides' with ⟨left', right'⟩
                  rcases related with ⟨lefts, rights⟩
                  dsimp only at lefts rights ⊢
                  rw [logarithm name left left' lefts, logarithm name right right' rights]
                  split
                  · exact .ok ⟨rfl, rights⟩
                  · exact .ok ⟨rfl, lefts⟩
                  · exact .error rfl

end Variation.Structural

end SyntaxFold
