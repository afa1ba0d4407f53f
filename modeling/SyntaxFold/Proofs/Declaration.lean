import SyntaxFold.Declaration
import SyntaxFold.Proofs.Node.Builder
import SyntaxFold.Proofs.Outcome
import SyntaxFold.Proofs.Scope

/-!
# Declarations and the groups made of them

A property is found in two ways: in its class, by the first declaration of its name, and in the
group of the class, which has the declarations with initializers as its members. Where the first
declaration has an initializer, both ways find it, and where no declaration has one, both fail
alike. They part only where the first declaration has none and a later one has.
-/

namespace SyntaxFold

namespace Declaration

/-- The first declaration of a property in a class has an initializer, and it is this one. -/
def Initializes (classNode : Json) (property : String) (initializer : Json) : Prop :=
  ∃ members declaration, classNode.get? "members" = some members ∧
    ((propertyDeclarations members).find? fun member => declarationName member == some property) =
      some declaration ∧
    declaration.get? "initializer" = some initializer

theorem propertyOfClass_eq_ok_iff {property : String} {classNode initializer : Json} :
    propertyOfClass property classNode = .ok initializer ↔
      Initializes classNode property initializer := by
  unfold propertyOfClass Initializes requireField
  cases classNode.get? "members" with
  | none => simp [require]
  | some members =>
      simp only [require, ok_bind, Option.some.injEq, exists_eq_left', exists_and_left]
      rw [← Option.bind_eq_some_iff]
      split
      · next found => simp [found]
      · next absent => simp [absent]

/-- The declarations of a property among the members of a class, in order. -/
def declarationsOf (property : String) (members : Json) : List Json :=
  (propertyDeclarations members).filter fun member => declarationName member == some property

/-- The first declaration of a property has no initializer, but a later one has. -/
def Withheld (property : String) (members : Json) : Prop :=
  ∃ first later, declarationsOf property members = first :: later ∧
    first.get? "initializer" = none ∧
      ∃ declaration ∈ later, (declaration.get? "initializer").isSome

/-- What is found of a property in a scope. -/
def orNotFound {α : Type} (property scope : String) : Option α → Except FoldError α
  | some found => .ok found
  | none => .error (.propertyNotFound property scope)

theorem eq_of_orNotFound {α : Type} {property scope : String} {found : Option α}
    {error : FoldError} (failed : orNotFound property scope found = .error error) :
    error = .propertyNotFound property scope := by
  cases found with
  | some value => cases failed
  | none =>
      cases failed
      rfl

theorem orNotFound_eq_map_iff {α β : Type} {property scope : String} {found : Option α}
    {other : Option β} {image : β → α} :
    orNotFound property scope found = (orNotFound property scope other).map image ↔
      found = other.map image := by
  cases found <;> cases other <;> simp [orNotFound, Except.map]

/-- A search in a class asks the first declaration of the property for its initializer. -/
theorem propertyOfClass_eq_orNotFound {classNode members : Json} {name : String}
    (named : declarationName classNode = some name)
    (listed : classNode.get? "members" = some members) (property : String) :
    propertyOfClass property classNode = orNotFound property name
      ((declarationsOf property members).head?.bind (Json.get? "initializer")) := by
  unfold propertyOfClass requireField
  rw [named, listed, declarationsOf, List.head?_filter]
  simp only [require, ok_bind, Option.getD_some]
  cases Option.bind _ (Json.get? "initializer") <;> rfl

/-- A statement that is found by name has the name. -/
theorem declarationName_of_findStatement {kind label name : String} {sourceFile node : Json}
    (found : findStatement kind label name sourceFile = .ok node) :
    declarationName node = some name := by
  rcases bind_eq_ok_iff.1 found with ⟨statements, -, search⟩
  dsimp only at search
  split at search
  · next wanted =>
      cases search
      have both := List.find?_some wanted
      simp only [Bool.and_eq_true, beq_iff_eq] at both
      exact both.2
  · cases search

end Declaration

namespace Group

open Declaration

theorem ofClass_eq_ok_iff {classNode : Json} {group : Group} :
    ofClass classNode = .ok group ↔
      ∃ members, declarationName classNode = some group.name ∧
        classNode.get? "members" = some members ∧
          (Declaration.propertyDeclarations members).filterMap memberOfProperty? =
            group.members := by
  unfold ofClass requireField
  cases declarationName classNode with
  | none => simp [require]
  | some name =>
      cases classNode.get? "members" with
      | none => simp [require]
      | some members =>
          cases group
          simp [require]

theorem name_of_ofEnum {enumNode : Json} {group : Group} (made : ofEnum enumNode = .ok group) :
    declarationName enumNode = some group.name := by
  rcases bind_eq_ok_iff.1 made with ⟨name, named, rest⟩
  rcases bind_eq_ok_iff.1 rest with ⟨members, -, rest⟩
  rcases bind_eq_ok_iff.1 rest with ⟨each, -, same⟩
  cases same
  exact require_eq_ok_iff.1 named

/-- A member of a group is found by the initializers of the declarations of its name. -/
theorem get?_filterMap_eq_findSome? (property : String) (declarations : List Json) :
    Entries.get? property (declarations.filterMap memberOfProperty?) =
      ((declarations.filter fun member => declarationName member == some property).findSome?
        (Json.get? "initializer")).map .node := by
  induction declarations with
  | nil => rfl
  | cons head rest ih =>
      rw [List.filterMap_cons, List.filter_cons, memberOfProperty?]
      cases declarationName head with
      | none => exact ih
      | some name =>
          by_cases same : name = property
          · rw [if_pos (beq_iff_eq.2 (congrArg some same)), List.findSome?_cons]
            cases head.get? "initializer" with
            | none => exact ih
            | some initializer => simp [Entries.get?, same]
          · have other : ¬ (some name == some property) = true := by simpa using same
            rw [if_neg other]
            cases head.get? "initializer" with
            | none => exact ih
            | some initializer =>
                dsimp only
                rw [Entries.get?, if_neg same]
                exact ih

/-- The declarations before the first one of a property give no member of its name. -/
theorem get?_filterMap_memberOfProperty {property : String} {declarations : List Json}
    {declaration initializer : Json}
    (first : (declarations.find? fun member => declarationName member == some property) =
      some declaration)
    (initialized : declaration.get? "initializer" = some initializer) :
    Entries.get? property (declarations.filterMap memberOfProperty?) =
      some (.node initializer) := by
  rw [← List.head?_filter] at first
  rcases List.head?_eq_some_iff.1 first with ⟨later, split⟩
  rw [get?_filterMap_eq_findSome?, split, List.findSome?_cons, initialized]
  rfl

/-- The group of a class has a property bound to the initializer of its first declaration. -/
theorem lookup_of_initializes {classNode initializer : Json} {group : Group} {property : String}
    (made : ofClass classNode = .ok group)
    (initialized : Declaration.Initializes classNode property initializer) :
    group.lookup property = .ok (.node initializer) := by
  rcases ofClass_eq_ok_iff.1 made with ⟨members, -, isMembers, isGroup⟩
  rcases initialized with ⟨members', declaration, isMembers', first, isInitializer⟩
  cases isMembers.symm.trans isMembers'
  rw [lookup_eq_ok_iff, ← isGroup]
  exact get?_filterMap_memberOfProperty first isInitializer

/-- A lookup in the group of a class takes the first initializer among the declarations of the
property. -/
theorem lookup_eq_orNotFound {classNode members : Json} {group : Group}
    (made : ofClass classNode = .ok group) (listed : classNode.get? "members" = some members)
    (property : String) :
    group.lookup property = orNotFound property group.name
      (((declarationsOf property members).findSome? (Json.get? "initializer")).map .node) := by
  rcases ofClass_eq_ok_iff.1 made with ⟨found, -, isMembers, isGroup⟩
  cases isMembers.symm.trans listed
  unfold lookup declarationsOf
  rw [← isGroup, get?_filterMap_eq_findSome?]
  cases Option.map _ _ <;> rfl

theorem exists_ofClass {classNode members : Json} {name : String}
    (named : declarationName classNode = some name)
    (listed : classNode.get? "members" = some members) :
    ∃ group, ofClass classNode = .ok group ∧ group.name = name := by
  exists ⟨name, (propertyDeclarations members).filterMap memberOfProperty?⟩
  constructor
  · apply ofClass_eq_ok_iff.2
    exact ⟨members, named, listed, rfl⟩
  · rfl

end Group

namespace Declaration

/-! ## Both ways -/

/-- The first declaration and the first initializer give the same unless the first declaration
lacks an initializer that a later one has. -/
theorem findSome?_eq_head?_bind_iff (property : String) (members : Json) :
    (declarationsOf property members).findSome? (Json.get? "initializer") =
        (declarationsOf property members).head?.bind (Json.get? "initializer") ↔
      ¬ Withheld property members := by
  unfold Withheld
  cases declarationsOf property members with
  | nil => simp
  | cons first later =>
      rw [List.findSome?_cons, List.head?_cons, Option.bind_some]
      cases initialized : first.get? "initializer" with
      | none => simp [initialized]
      | some initializer => simp [initialized]

/-- The search in a class and the lookup in its group agree, be it on the initializer or on the
error, unless the first declaration of the property has no initializer and a later one has. Then the
search fails although the lookup succeeds. -/
theorem lookup_eq_propertyOfClass_iff {classNode : Json} {name : String} {members : List Json}
    (named : declarationName classNode = some name)
    (listed : classNode.get? "members" = some (.array members)) (property : String) :
    ∃ group, Group.ofClass classNode = .ok group ∧
      (group.lookup property = (propertyOfClass property classNode).map .node ↔
        ¬ Withheld property (.array members)) ∧
      (Withheld property (.array members) →
        propertyOfClass property classNode = .error (.propertyNotFound property name) ∧
          ∃ initializer, group.lookup property = .ok (.node initializer)) ∧
      (∀ error, propertyOfClass property classNode = .error error ∨
          group.lookup property = .error error →
        error = .propertyNotFound property name) := by
  rcases Group.exists_ofClass named listed with ⟨group, made, rfl⟩
  have search := propertyOfClass_eq_orNotFound named listed property
  have lookup := Group.lookup_eq_orNotFound made listed property
  exists group
  rw [search, lookup]
  refine ⟨made, ?_, ?_, ?_⟩
  · have injective : Function.Injective (Option.map Initializer.node) :=
      Option.map_injective fun _ _ => Initializer.node.inj
    rw [orNotFound_eq_map_iff, injective.eq_iff]
    exact findSome?_eq_head?_bind_iff property (.array members)
  · rintro ⟨first, later, split, uninitialized, declaration, member, initialized⟩
    have found : (later.findSome? (Json.get? "initializer")).isSome :=
      List.findSome?_isSome_iff.2 ⟨declaration, member, initialized⟩
    rcases Option.isSome_iff_exists.1 found with ⟨initializer, found⟩
    rw [split, List.head?_cons, Option.bind_some, List.findSome?_cons, uninitialized, found]
    exact ⟨rfl, initializer, rfl⟩
  · rintro error (failed | failed) <;> exact eq_of_orNotFound failed

/-- A class that declares `speed` twice, with an initializer the second time only. -/
def twiceDeclared : Json :=
  Tree.classDeclaration "Config"
    [Tree.node "PropertyDeclaration" [("name", Tree.identifier "speed")],
      Tree.property "speed" (Tree.numeral "1")]

theorem lookup_ne_propertyOfClass_speed :
    (∃ group, Group.ofClass twiceDeclared = .ok group ∧
      group.lookup "speed" = .ok (.node (Tree.numeral "1"))) ∧
      propertyOfClass "speed" twiceDeclared = .error (.propertyNotFound "speed" "Config") :=
  ⟨⟨_, rfl, rfl⟩, rfl⟩

theorem lookup_eq_propertyOfClass_iff_speed :
    declarationName twiceDeclared = some "Config" ∧ ∃ members,
      twiceDeclared.get? "members" = some (.array members) ∧
        Withheld "speed" (.array members) ∧ ∃ group, Group.ofClass twiceDeclared = .ok group ∧
          group.lookup "speed" ≠ (propertyOfClass "speed" twiceDeclared).map .node := by
  have withheld : Withheld "speed" (.array
      [Tree.node "PropertyDeclaration" [("name", Tree.identifier "speed")],
        Tree.property "speed" (Tree.numeral "1")]) :=
    ⟨_, _, rfl, rfl, _, List.mem_cons_self, rfl⟩
  have named : declarationName twiceDeclared = some "Config" := rfl
  rcases lookup_eq_propertyOfClass_iff named rfl "speed" with ⟨group, made, agree, -, -⟩
  refine ⟨named, _, rfl, withheld, group, made, ?_⟩
  intro same
  exact agree.1 same withheld

end Declaration

end SyntaxFold
