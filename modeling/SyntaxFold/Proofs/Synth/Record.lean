import SyntaxFold.Proofs.Declaration
import SyntaxFold.Proofs.Reduction.Properties
import SyntaxFold.Synth.Config

/-!
# Classes as records

A class can be reduced as a whole, like an object literal, or property by property. If its members
are declarations of different properties, all with initializers, then both ways agree: the class
reduces to the mapping of the property names, in order, to what the properties reduce to; and if
some property fails, then the class fails with the error of the first one that does.
-/

namespace SyntaxFold

open Outcome

namespace Declaration

/-! ## Different properties -/

/-- The member declares a property with an identifier as its name and with an initializer. -/
structure Declares (member : Json) (name : String) (initializer : Json) : Prop where
  kind : kindOf member = some "PropertyDeclaration"
  named : ∃ identifier, member.get? "name" = some identifier ∧
    Node.ofJson identifier = .ok (.identifier name)
  initialized : member.get? "initializer" = some initializer

/-- The members declare properties of these names, in this order. -/
def DeclaresEach (members : List Json) (names : List String) : Prop :=
  List.Forall₂ (fun member name => ∃ initializer, Declares member name initializer) members names

theorem Declares.declarationName {member initializer : Json} {name : String}
    (declares : Declares member name initializer) : declarationName member = some name := by
  obtain ⟨identifier, found, shape⟩ := declares.named
  rw [SyntaxFold.declarationName, found]
  exact identifierText_of_identifier shape

theorem DeclaresEach.declarationNames {members : List Json} {names : List String}
    (declared : DeclaresEach members names) : members.map declarationName = names.map some := by
  induction declared with
  | nil => rfl
  | cons head _ ih =>
      obtain ⟨initializer, declares⟩ := head
      rw [List.map_cons, List.map_cons, declares.declarationName, ih]

theorem DeclaresEach.propertyDeclarations {members : List Json} {names : List String}
    (declared : DeclaresEach members names) : propertyDeclarations (.array members) = members := by
  apply List.filter_eq_self.2
  change ∀ member ∈ members, _
  induction declared with
  | nil => simp
  | cons head _ ih =>
      obtain ⟨initializer, declares⟩ := head
      rw [List.forall_mem_cons, declares.kind, beq_self_eq_true]
      exact ⟨rfl, ih⟩

/-- Of members with different names, the first one with a name is the only one. -/
theorem find?_of_nodup {members : List Json} (distinct : (members.map declarationName).Nodup)
    {member : Json} (listed : member ∈ members) {name : String}
    (named : declarationName member = some name) :
    (members.find? fun member => declarationName member == some name) = some member := by
  induction members with
  | nil => cases listed
  | cons first rest ih =>
      rw [List.map_cons, List.nodup_cons] at distinct
      rcases List.mem_cons.1 listed with rfl | inRest
      · rw [List.find?_cons_of_pos (by rw [named, beq_self_eq_true])]
      · have different : declarationName first ≠ some name := by
          intro same
          apply distinct.1
          rw [same, ← named]
          exact List.mem_map_of_mem inRest
        rw [List.find?_cons_of_neg (by simpa using different)]
        exact ih distinct.2 inRest

/-- In a class whose members declare different properties, each initializer is found. -/
theorem DeclaresEach.initializes {classNode : Json} {members : List Json} {names : List String}
    (declared : DeclaresEach members names) (distinct : names.Nodup)
    (listed : classNode.get? "members" = some (.array members)) :
    List.Forall₂ (fun member name => ∃ initializer, Declares member name initializer ∧
      Initializes classNode name initializer) members names := by
  have distinctMembers : (members.map SyntaxFold.declarationName).Nodup := by
    rw [declared.declarationNames]
    exact distinct.map (Option.some_injective _)
  obtain ⟨sameLength, each⟩ := List.forall₂_iff_zip.1 declared
  apply List.forall₂_iff_zip.2
  refine ⟨sameLength, ?_⟩
  intro member name paired
  obtain ⟨initializer, declares⟩ := each paired
  refine ⟨initializer, declares, .array members, member, listed, ?_, declares.initialized⟩
  rw [declared.propertyDeclarations]
  exact find?_of_nodup distinctMembers (List.of_mem_zip paired).1 declares.declarationName

end Declaration

namespace Synth

section Properties

variable [Host] (reducer : Reducer) (scopes : SymbolTable)
variable {classNode : Json} {members : List Json} {names : List String}

/-- A property of a class, reduced, under its name. -/
def entryOf (classNode : Json) (name : String) : Except FoldError (String × Value) := do
  let value ← property reducer scopes classNode name
  return (name, value)

variable {reducer scopes}

theorem entryOf_eq_ok_iff {name : String} {entry : String × Value} :
    entryOf reducer scopes classNode name = .ok entry ↔
      entry.1 = name ∧ property reducer scopes classNode name = .ok entry.2 := by
  rw [entryOf, bind_eq_ok_iff]
  constructor
  · rintro ⟨value, reduced, ⟨⟩⟩
    exact ⟨rfl, reduced⟩
  · rintro ⟨rfl, reduced⟩
    exact ⟨entry.2, reduced, rfl⟩

theorem exists_entryOf_iff {name : String} :
    (∃ entry, entryOf reducer scopes classNode name = .ok entry) ↔
      ∃ value, property reducer scopes classNode name = .ok value := by
  simp [entryOf_eq_ok_iff]

theorem entryOf_eq_error_iff {name : String} {error : FoldError} :
    entryOf reducer scopes classNode name = .error error ↔
      property reducer scopes classNode name = .error error := by
  rw [entryOf, bind_eq_error_iff]
  refine or_iff_left ?_
  rintro ⟨value, -, impossible⟩
  cases impossible

/-- A declaration gives its name and what the property reduces to. -/
theorem propertyRule_of_declares {member initializer : Json} {name kind : String}
    (declares : Declaration.Declares member name initializer)
    (initializes : Declaration.Initializes classNode name initializer) :
    propertyRule ((reducer.context scopes .resolve).environment.reduceWith
      (reducer.context scopes .resolve).inside) .resolve kind member =
        entryOf reducer scopes classNode name := by
  obtain ⟨identifier, found, shape⟩ := declares.named
  rw [entryOf, property, Declaration.propertyOfClass_eq_ok_iff.2 initializes, propertyRule,
    requireField, found, requireField, declares.initialized]
  simp only [require, ok_bind]
  rw [Environment.reduceWith_eq_nodeRule shape]
  rfl

/-- The class reduces to its entries, one after the other. -/
theorem resolve_classDeclaration (shape : Node.ofJson classNode = .ok (.classDeclaration members))
    (declared : Declaration.DeclaresEach members names) (distinct : names.Nodup) :
    reducer.resolve scopes classNode =
      names.mapM (entryOf reducer scopes classNode) >>= fun entries =>
        pure (.mapping (Entries.ofPairs entries)) := by
  change (reducer.context scopes .resolve).reduce classNode = _
  rw [Context.reduce_eq_mappingRule shape rfl, mappingRule]
  congr 1
  have initializes := declared.initializes distinct (members_of_classDeclaration shape)
  apply mapM_eq_of_forall₂
  refine initializes.imp ?_
  rintro member name ⟨initializer, declares, initializes⟩
  exact propertyRule_of_declares declares initializes

variable (reducer scopes)

/-- A class whose members declare different properties reduces exactly if each of its properties
does. Then it is the mapping of their names, in order, to what they reduce to. Otherwise it fails
with the error of the first property that fails. -/
theorem resolve_class_agrees_properties
    (shape : Node.ofJson classNode = .ok (.classDeclaration members))
    (declared : Declaration.DeclaresEach members names) (distinct : names.Nodup) :
    ((∃ result, reducer.resolve scopes classNode = .ok result) ↔
      ∀ name ∈ names, ∃ value, property reducer scopes classNode name = .ok value) ∧
    (∀ result, reducer.resolve scopes classNode = .ok result →
      ∃ entries, result = .mapping entries ∧ entries.map Prod.fst = names ∧
        ∀ name ∈ names, ∃ value, Entries.get? name entries = some value ∧
          property reducer scopes classNode name = .ok value) ∧
    ∀ error, reducer.resolve scopes classNode = .error error ↔
      ∃ before name after, names = before ++ name :: after ∧
        (∀ earlier ∈ before, ∃ value, property reducer scopes classNode earlier = .ok value) ∧
          property reducer scopes classNode name = .error error := by
  rw [resolve_classDeclaration shape declared distinct]
  refine ⟨?_, ?_, ?_⟩
  · simp only [← exists_entryOf_iff, ← exists_mapM_eq_ok_iff]
    constructor
    · rintro ⟨result, reduced⟩
      obtain ⟨entries, each, -⟩ := bind_eq_ok_iff.1 reduced
      exact ⟨entries, each⟩
    · rintro ⟨entries, each⟩
      exact ⟨_, bind_eq_ok_iff.2 ⟨entries, each, rfl⟩⟩
  · intro result reduced
    obtain ⟨entries, each, ⟨⟩⟩ := bind_eq_ok_iff.1 reduced
    have listed := (mapM_eq_ok_iff.1 each).imp fun _ _ => entryOf_eq_ok_iff.1
    let holds name value := property reducer scopes classNode name = .ok value
    have keys : entries.map Prod.fst = names := Entries.keys_of_forall₂ holds listed
    refine ⟨entries, ?_, keys, ?_⟩
    · rw [Entries.ofPairs_of_nodup (keys ▸ distinct)]
    · intro name isName
      exact Entries.exists_get?_of_forall₂ holds listed isName
  · intro error
    simp only [← entryOf_eq_error_iff, ← exists_entryOf_iff, ← mapM_eq_error_iff]
    rw [bind_eq_error_iff]
    refine or_iff_left ?_
    rintro ⟨entries, -, impossible⟩
    cases impossible

end Properties

section Escaped

attribute [local instance] Host.closed

/-- A class with a property whose name is escaped, and one that refers to it. -/
def escapedClass : Json :=
  Tree.classDeclaration "Config" [Tree.property "___speed" (Tree.numeral "3"),
    Tree.property "gain" (Tree.access Tree.this "___speed")]

/-- The class agrees with its properties when the limit allows the lookup that the second one needs
and when it does not. -/
theorem resolve_class_agrees_properties_escaped :
    let members := [Tree.property "___speed" (Tree.numeral "3"),
      Tree.property "gain" (Tree.access Tree.this "___speed")]
    let names := ["__speed", "gain"]
    let scopes : SymbolTable :=
      ⟨[(selfScope, ⟨"Config", [("__speed", .node (Tree.numeral "3"))]⟩)]⟩
    let reducer : Reducer := ⟨.empty, .prelude, 1⟩
    (Node.ofJson escapedClass = .ok (.classDeclaration members) ∧
      Declaration.DeclaresEach members names ∧ names.Nodup) ∧
      reducer.resolve scopes escapedClass =
        .ok (.mapping [("__speed", .integer 3), ("gain", .integer 3)]) ∧
      (∀ name ∈ names, ∃ value, property reducer scopes escapedClass name = .ok value) ∧
        ({ reducer with maxDepth := 0 } : Reducer).resolve scopes escapedClass =
          .error (.depthExceeded 0) := by
  intro members names scopes reducer
  have shape : Node.ofJson escapedClass = .ok (.classDeclaration members) := by rfl
  have declared : Declaration.DeclaresEach members names :=
    .cons ⟨_, rfl, ⟨_, rfl, rfl⟩, rfl⟩ (.cons ⟨_, rfl, ⟨_, rfl, rfl⟩, rfl⟩ .nil)
  have distinct : names.Nodup := by decide
  have reduced : reducer.resolve scopes escapedClass =
      .ok (.mapping [("__speed", .integer 3), ("gain", .integer 3)]) := by
    change (reducer.context scopes .resolve).reduce escapedClass = _
    rw [Context.reduce_eq_unrolled 3]
    rfl
  refine ⟨⟨shape, declared, distinct⟩, reduced, ?_, ?_⟩
  · exact (resolve_class_agrees_properties reducer scopes shape declared distinct).1.1
      ⟨_, reduced⟩
  · obtain ⟨-, -, fails⟩ := resolve_class_agrees_properties { reducer with maxDepth := 0 } scopes
      shape declared distinct
    apply (fails _).2
    refine ⟨["__speed"], "gain", [], rfl, ?_, ?_⟩
    · intro earlier listed
      obtain rfl := List.mem_singleton.1 listed
      refine ⟨.integer 3, ?_⟩
      change (Reducer.context _ scopes .resolve).reduce (Tree.numeral "3") = _
      rw [Context.reduce_eq_unrolled 3]
      rfl
    · change (Reducer.context _ scopes .resolve).reduce (Tree.access Tree.this "___speed") = _
      rw [Context.reduce_eq_unrolled 3]
      rfl

end Escaped

end Synth

end SyntaxFold
