import SyntaxFold.Proofs.Node.Structural
import SyntaxFold.Proofs.Scope
import SyntaxFold.Synth.Config

/-!
# Scopes of related source files

Declarations are found by kinds and names. So if a variation keeps these and relates the fields of
related trees, then in related source files the same declarations are found, related classes and
enumerations give groups that match, and the symbol tables for a class match as well, or cannot be
made for the same reason.
-/

namespace SyntaxFold

open Outcome

theorem find?_related {α : Type} {relation : α → α → Prop} {items others : List α}
    (each : List.Forall₂ relation items others) {wanted : α → Bool}
    (same : ∀ item other, relation item other → wanted item = wanted other) :
    Option.Rel relation (items.find? wanted) (others.find? wanted) := by
  induction each with
  | nil => exact .none
  | @cons item other _ _ head _ ih =>
      rw [List.find?_cons, List.find?_cons, same item other head]
      split
      · exact .some head
      · exact ih

namespace Variation.Structural

variable {variation : Variation} (structural : variation.Structural)
variable (sameKinds : variation.kind = (· = ·)) {tree tree' : Json}
include structural sameKinds

theorem kindOf_eq (related : variation.part tree tree') :
    SyntaxFold.kindOf tree = SyntaxFold.kindOf tree' := by
  have kinds := structural.kindOf tree tree' related
  rw [sameKinds] at kinds
  generalize SyntaxFold.kindOf tree = kind at kinds ⊢
  generalize SyntaxFold.kindOf tree' = kind' at kinds ⊢
  cases kinds with
  | none => rfl
  | some same => rw [same]

/-! ## Declarations -/

theorem agrees_findStatement (kind label name : String) (related : variation.part tree tree') :
    Agrees variation.part (· = ·) (Declaration.findStatement kind label name tree)
      (Declaration.findStatement kind label name tree') := by
  have statements := option_rel_bind (structural.get? tree tree' "statements" related (by decide))
    structural.array?
  apply agrees_bind (agrees_require statements rfl)
  intro statements statements' each
  have same (node node' : Json) (related : variation.part node node') :
      (SyntaxFold.kindOf node == some kind && declarationName node == some name) =
        (SyntaxFold.kindOf node' == some kind && declarationName node' == some name) := by
    rw [structural.kindOf_eq sameKinds related, structural.declarationName_eq related]
  have found := find?_related each same
  dsimp only
  generalize statements.find? _ = node at found ⊢
  generalize statements'.find? _ = node' at found ⊢
  cases found with
  | none => exact .error rfl
  | some related => exact .ok related

theorem propertyDeclarations_related (related : variation.part tree tree') :
    List.Forall₂ variation.part (Declaration.propertyDeclarations tree)
      (Declaration.propertyDeclarations tree') := by
  have members : List.Forall₂ variation.part (tree.array?.getD []) (tree'.array?.getD []) :=
    option_rel_getD (structural.array? tree tree' related) .nil
  apply List.rel_filter _ members
  intro member member' related
  dsimp only
  rw [structural.kindOf_eq sameKinds related]

omit sameKinds in
theorem memberOfProperty?_related (related : variation.part tree tree') :
    Option.Rel (fun entry entry' => entry.1 = entry'.1 ∧
      entry.2.Matches variation.part entry'.2) (Group.memberOfProperty? tree)
        (Group.memberOfProperty? tree') := by
  have initializer := structural.get? tree tree' "initializer" related (by decide)
  unfold Group.memberOfProperty?
  rw [structural.declarationName_eq related]
  generalize tree.get? "initializer" = found at initializer ⊢
  generalize tree'.get? "initializer" = found' at initializer ⊢
  cases declarationName tree' with
  | none => exact .none
  | some name =>
      cases initializer with
      | none => exact .none
      | some related => exact .some ⟨rfl, .node related⟩

theorem agrees_ofClass (related : variation.part tree tree') :
    Agrees (Group.Matches variation.part) (· = ·) (Group.ofClass tree) (Group.ofClass tree') := by
  have members := structural.get? tree tree' "members" related (by decide)
  unfold Group.ofClass
  rw [structural.declarationName_eq related]
  refine agrees_bind_self (fun _ _ => rfl) fun name _ => ?_
  apply agrees_bind (agrees_require members rfl)
  intro members members' related
  apply Agrees.ok
  constructor
  · rfl
  · apply List.rel_filterMap _ (structural.propertyDeclarations_related sameKinds related)
    intro member member' related
    exact structural.memberOfProperty?_related related

omit sameKinds in
theorem agrees_memberOfEnum (related : variation.part tree tree') :
    Agrees (fun entry entry' => entry.1 = entry'.1 ∧ entry.2.Matches variation.part entry'.2)
      (· = ·) (Group.memberOfEnum tree) (Group.memberOfEnum tree') := by
  have name := structural.get? tree tree' "name" related (by decide)
  apply agrees_bind (agrees_require name rfl)
  intro nameNode nameNode' related
  rw [structural.identifierText_eq related]
  refine agrees_bind_self (fun _ _ => rfl) fun name _ => ?_
  exact .ok ⟨rfl, .node related⟩

omit sameKinds in
theorem agrees_ofEnum (related : variation.part tree tree') :
    Agrees (Group.Matches variation.part) (· = ·) (Group.ofEnum tree) (Group.ofEnum tree') := by
  have members := structural.get? tree tree' "members" related (by decide)
  unfold Group.ofEnum
  rw [structural.declarationName_eq related]
  refine agrees_bind_self (fun _ _ => rfl) fun name _ => ?_
  apply agrees_bind (agrees_require members rfl)
  intro members members' related
  have each : List.Forall₂ variation.part (members.array?.getD []) (members'.array?.getD []) :=
    option_rel_getD (structural.array? members members' related) .nil
  apply agrees_bind (agrees_mapM each fun _ _ _ _ => structural.agrees_memberOfEnum)
  intro members members' matching
  exact .ok ⟨rfl, matching⟩

/-! ## Symbol tables -/

theorem agrees_addEnums (related : variation.part tree tree') (enums : List String)
    {before before' : SymbolTable} (matching : before.Matches variation.part before') :
    Agrees (SymbolTable.Matches variation.part) (· = ·) (Synth.addEnums tree enums before)
      (Synth.addEnums tree' enums before') := by
  induction enums generalizing before before' with
  | nil => exact .ok matching
  | cons name rest ih =>
      apply agrees_bind (structural.agrees_findStatement sameKinds _ _ _ related)
      intro enumNode enumNode' related
      apply agrees_bind (structural.agrees_ofEnum related)
      intro group group' groups
      exact ih (matching.insert groups)

theorem agrees_configScope (related : variation.part tree tree') (className : String)
    (enums : List String) :
    Agrees (SymbolTable.Matches variation.part) (· = ·) (Synth.configScope tree className enums)
      (Synth.configScope tree' className enums) := by
  apply agrees_bind (structural.agrees_findStatement sameKinds _ _ _ related)
  intro classNode classNode' related'
  apply agrees_bind (structural.agrees_ofClass sameKinds related')
  intro group group' groups
  have empty : SymbolTable.empty.Matches variation.part .empty := .nil
  apply agrees_bind (structural.agrees_addEnums sameKinds related enums
    ((empty.insertAs selfScope groups).insert groups))
  intro scopes scopes' matching
  exact .ok (matching.insert Group.matches_math)

end Variation.Structural

end SyntaxFold
