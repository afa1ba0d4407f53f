import SyntaxFold.Proofs.Reduction.Renaming
import SyntaxFold.Proofs.Synth.Config
import SyntaxFold.Proofs.Synth.Likeness

/-!
# Accesses by `this` and by the name of the class

In the scopes for a configuration class, `this` and the name of the class stand for the same group.
So wherever a member is accessed by `this`, in the class or in a tree that is reduced, it can be
accessed by the name of the class as well, without a change in any outcome.
-/

namespace SyntaxFold.Synth

open Outcome

section Scopes

variable {sourceFile : Json} {className : String} {enums : List String} {scopes : SymbolTable}

/-- In the scopes for a class, `this` and the name of the class stand for one group. -/
theorem exists_group_of_configScope
    (configured : configScope sourceFile className enums = .ok scopes)
    (notMath : className ≠ "Math") (classNotEnum : className ∉ enums)
    (selfNotEnum : selfScope ∉ enums) :
    ∃ group, scopes.get selfScope = .ok group ∧ scopes.get className = .ok group := by
  rcases bind_eq_ok_iff.1 configured with ⟨classNode, isClass, -⟩
  rcases get_of_configScope configured notMath isClass (.inl rfl) selfNotEnum with
    ⟨group, made, isSelf⟩
  rcases get_of_configScope configured notMath isClass (.inr rfl) classNotEnum with
    ⟨group', made', isNamed⟩
  cases made.symm.trans made'
  exact ⟨group, isSelf, isNamed⟩

/-- `this` and the name of the class are interchangeable as bases of accesses. If any number of them
are renamed in a source file and in a tree, then the source file still has scopes for the class, and
the tree is resolved in these with the outcome that it had before. -/
theorem resolve_of_renames [Host]
    (configured : configScope sourceFile className enums = .ok scopes)
    (notMath : className ≠ "Math") (classNotEnum : className ∉ enums)
    (selfNotEnum : selfScope ∉ enums) {sourceFile' : Json}
    (source : Renames className .other sourceFile sourceFile') {tree tree' : Json}
    (renames : Renames className .other tree tree') :
    ∃ scopes', configScope sourceFile' className enums = .ok scopes' ∧
      ∀ reducer : Reducer, reducer.resolve scopes' tree' = reducer.resolve scopes tree := by
  have tables := (structural_selfRenaming className).agrees_configScope rfl source className enums
  rw [configured] at tables
  generalize configured' : configScope sourceFile' className enums = outcome at tables
  cases tables with
  | @ok _ scopes' matching =>
      refine ⟨scopes', rfl, ?_⟩
      intro reducer
      rcases exists_group_of_configScope configured notMath classNotEnum selfNotEnum with
        ⟨group, isSelf, isNamed⟩
      rcases SymbolTable.Matches.get matching isNamed with ⟨group', isNamed', groups⟩
      have renamed : Environment.Renamed className (reducer.environment scopes)
          (reducer.environment scopes') :=
        ⟨notMath, rfl, rfl, matching, group, group', isSelf, isNamed', groups⟩
      have agrees := renamed.reduceWithin reducer.maxDepth (reducer.maxDepth + 1) tree tree' renames
      rw [Reducer.resolve_eq_reduceWithin, Reducer.resolve_eq_reduceWithin]
      exact agrees.eq.symm

end Scopes

section Doubled

attribute [local instance] Host.closed

theorem renames_node {name : String} {site : Site} {kind : String}
    {fields fields' : List (String × Json)}
    (renames : RenamesFields name (site.ofField (some kind)) fields fields') :
    Renames name site (Tree.node kind fields) (Tree.node kind fields') :=
  .object (.cons (.leaf _ trivial) renames)

/-- A class with a property that is another one twice, accessed with the given base. -/
def doublingClass (base : Json) : Json :=
  Tree.classDeclaration "Config" [Tree.property "speed" (Tree.numeral "3"),
    Tree.property "double"
      (Tree.binary (Tree.access base "speed") "AsteriskToken" (Tree.numeral "2"))]

/-- A source file with this class and with an enumeration. -/
def doublingFile (base : Json) : Json :=
  Tree.sourceFile [Tree.enumeration "Kind" ["soft"], doublingClass base]

theorem renames_access {name : String} {site : Site} {base base' : Json}
    (bases : Renames name .base base base') (property : String) :
    Renames name site (Tree.access base property) (Tree.access base' property) :=
  renames_node (.cons bases (.cons (renames_self _ _ _) (.nil _)))

theorem renames_doublingClass {name : String} {base base' : Json}
    (bases : Renames name .base base base') :
    Renames name .other (doublingClass base) (doublingClass base') := by
  have product : Renames name .other
      (Tree.binary (Tree.access base "speed") "AsteriskToken" (Tree.numeral "2"))
      (Tree.binary (Tree.access base' "speed") "AsteriskToken" (Tree.numeral "2")) :=
    renames_node (.cons (renames_access bases "speed") (renames_fields_self _ _ _))
  apply renames_node
  apply RenamesFields.cons (renames_self _ _ _)
  apply RenamesFields.cons _ (.nil _)
  apply Renames.array
  apply List.Forall₂.cons (renames_self _ _ _)
  apply List.Forall₂.cons _ .nil
  exact renames_node (.cons (renames_self _ _ _) (.cons product (.nil _)))

theorem renames_doublingFile {name : String} {base base' : Json}
    (bases : Renames name .base base base') :
    Renames name .other (doublingFile base) (doublingFile base') := by
  apply renames_node
  apply RenamesFields.cons _ (.nil _)
  apply Renames.array
  exact .cons (renames_self _ _ _) (.cons (renames_doublingClass bases) .nil)

/-- An access by `this` in parentheses, which is renamed along with one in the class. -/
theorem resolve_of_renames_doubled :
    let className := Tree.identifier "Config"
    let tree := Tree.access (Tree.parenthesized Tree.this) "double"
    let tree' := Tree.access (Tree.parenthesized className) "double"
    let reducer : Reducer := ⟨.empty, .prelude, 8⟩
    ∃ scopes, (configScope (doublingFile Tree.this) "Config" ["Kind"] = .ok scopes ∧
      "Config" ≠ "Math" ∧ "Config" ∉ ["Kind"] ∧ selfScope ∉ ["Kind"] ∧
      Renames "Config" .other (doublingFile Tree.this) (doublingFile className) ∧
      Renames "Config" .other tree tree' ∧ reducer.resolve scopes tree = .ok (.integer 6)) ∧
        ∃ scopes', configScope (doublingFile className) "Config" ["Kind"] = .ok scopes' ∧
          reducer.resolve scopes' tree' = .ok (.integer 6) := by
  intro className tree tree' reducer
  have bases : Renames "Config" .base Tree.this className := .this rfl rfl
  have wrapped : Renames "Config" .base (Tree.parenthesized Tree.this)
      (Tree.parenthesized className) :=
    renames_node (.cons bases (.nil _))
  have configured : ∃ scopes, configScope (doublingFile Tree.this) "Config" ["Kind"] = .ok scopes ∧
      reducer.resolve scopes tree = .ok (.integer 6) := by
    refine ⟨_, rfl, ?_⟩
    change (reducer.context _ .resolve).reduce tree = _
    rw [Context.reduce_eq_unrolled 4]
    rfl
  rcases configured with ⟨scopes, configured, reduced⟩
  have source := renames_doublingFile bases
  have renames : Renames "Config" .other tree tree' := renames_access wrapped "double"
  rcases resolve_of_renames configured (by decide) (by decide) (by decide) source renames with
    ⟨scopes', configured', same⟩
  refine ⟨scopes, ⟨configured, by decide, by decide, by decide, source, renames, reduced⟩, ?_⟩
  exact ⟨scopes', configured', (same reducer).trans reduced⟩

end Doubled

end SyntaxFold.Synth
