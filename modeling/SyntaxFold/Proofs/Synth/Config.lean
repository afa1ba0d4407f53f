import SyntaxFold.Proofs.Declaration
import SyntaxFold.Proofs.Reduction.Chain
import SyntaxFold.Proofs.Reduction.LimitShift
import SyntaxFold.Synth.Config

/-!
# The scopes of a configuration class

The scopes for a class hold its group twice, as the enclosing scope and under the name of the class.
Enumerations and `Math` come after it and take over neither name, unless one of them has it. So an
access to a property, by `this` or by the name of the class, finds the initializer that the class
itself gives, and has its value with room for one lookup less.
-/

namespace SyntaxFold.Synth

open Outcome

section Scopes

variable {sourceFile : Json} {className : String} {enums : List String} {scopes : SymbolTable}

/-- Adding enumerations leaves the scopes of other names as they are. -/
theorem get_of_addEnums {scope : String} {before : SymbolTable} (notEnum : scope ∉ enums)
    (added : addEnums sourceFile enums before = .ok scopes) :
    scopes.get scope = before.get scope := by
  induction enums generalizing before with
  | nil =>
      cases added
      rfl
  | cons name rest ih =>
      rw [List.mem_cons, not_or] at notEnum
      rcases bind_eq_ok_iff.1 added with ⟨enumNode, found, onward⟩
      rcases bind_eq_ok_iff.1 onward with ⟨group, made, others⟩
      have named : group.name = name := by
        apply Option.some.inj
        rw [← Group.name_of_ofEnum made]
        exact Declaration.declarationName_of_findStatement found
      rw [ih notEnum.2 others, SymbolTable.insert, named]
      exact SymbolTable.get_insertAs_of_ne notEnum.1 before group

/-- A group is in scope under both names that it is put in. -/
theorem get_of_insert_both {scope : String} (table : SymbolTable) (group : Group)
    (isScope : scope = selfScope ∨ scope = group.name) :
    ((table.insertAs selfScope group).insert group).get scope = .ok group := by
  by_cases same : scope = group.name
  · rw [same]
    exact SymbolTable.get_insertAs_self _ _ _
  · rw [SymbolTable.insert, SymbolTable.get_insertAs_of_ne same, isScope.resolve_right same]
    exact SymbolTable.get_insertAs_self _ _ _

/-- The group of the class is in scope as the enclosing scope and under the name of the class. -/
theorem get_of_configScope (configured : configScope sourceFile className enums = .ok scopes)
    (notMath : className ≠ "Math") {classNode : Json}
    (isClass : Declaration.findClass className sourceFile = .ok classNode) {scope : String}
    (isScope : scope = selfScope ∨ scope = className) (notEnum : scope ∉ enums) :
    ∃ group, Group.ofClass classNode = .ok group ∧ scopes.get scope = .ok group := by
  rcases bind_eq_ok_iff.1 configured with ⟨found, foundClass, onward⟩
  cases isClass.symm.trans foundClass
  rcases bind_eq_ok_iff.1 onward with ⟨group, made, onward⟩
  rcases bind_eq_ok_iff.1 onward with ⟨withEnums, added, same⟩
  cases same
  rcases Group.ofClass_eq_ok_iff.1 made with ⟨-, named, -⟩
  have sameName : group.name = className := by
    apply Option.some.inj
    rw [← named]
    exact Declaration.declarationName_of_findStatement isClass
  have notMathScope : scope ≠ Group.math.name := by
    rcases isScope with rfl | rfl
    · decide
    · exact notMath
  exists group
  constructor
  · exact made
  · rw [SymbolTable.insert, SymbolTable.get_insertAs_of_ne notMathScope,
      get_of_addEnums notEnum added]
    apply get_of_insert_both
    rwa [sameName]

/-- An access to a property of the class leads to the initializer that the class gives. -/
theorem looksUp_of_configScope (configured : configScope sourceFile className enums = .ok scopes)
    (notMath : className ≠ "Math") {classNode : Json}
    (isClass : Declaration.findClass className sourceFile = .ok classNode) {name : String}
    {initializer : Json} (initialized : Declaration.Initializes classNode name initializer)
    {scope : String} (isScope : scope = selfScope ∨ scope = className) (notEnum : scope ∉ enums)
    {access : Json} (accesses : access.Accesses scope name) :
    scopes.LooksUp access initializer := by
  rcases get_of_configScope configured notMath isClass isScope notEnum with ⟨group, made, isGroup⟩
  exists scope, name
  constructor
  · exact accesses
  · apply SymbolTable.lookup_eq_ok_iff.2
    exact ⟨group, isGroup, Group.lookup_of_initializes made initialized⟩

end Scopes

section Reductions

variable [Host]

/-- An access to a property of a class, by `this` or by the name of the class, ends in the same way
as the reduction of the property itself, with a limit of one more for the lookup. -/
theorem property_agrees_access (reducer : Reducer) {sourceFile classNode : Json}
    {className : String} {enums : List String} {scopes : SymbolTable}
    (configured : configScope sourceFile className enums = .ok scopes)
    (notMath : className ≠ "Math") (classNotEnum : className ∉ enums)
    (selfNotEnum : selfScope ∉ enums)
    (isClass : Declaration.findClass className sourceFile = .ok classNode)
    {name : String} {initializer : Json}
    (initialized : Declaration.Initializes classNode name initializer) {access : Json}
    (accesses : access.Accesses selfScope name ∨ access.Accesses className name) :
    Agrees (· = ·) (FoldError.SameUpToLimit reducer.maxDepth (reducer.maxDepth + 1))
      (property reducer scopes classNode name)
      (({ reducer with maxDepth := reducer.maxDepth + 1 } : Reducer).resolve scopes access) := by
  have direct : property reducer scopes classNode name = reducer.resolve scopes initializer := by
    rw [property, Declaration.propertyOfClass_eq_ok_iff.2 initialized]
    rfl
  have looksUp : scopes.LooksUp access initializer := by
    rcases accesses with bySelf | byName
    · apply looksUp_of_configScope configured notMath isClass initialized (.inl rfl)
      · exact selfNotEnum
      · exact bySelf
    · apply looksUp_of_configScope configured notMath isClass initialized (.inr rfl)
      · exact classNotEnum
      · exact byName
  have through : ({ reducer with maxDepth := reducer.maxDepth + 1 } : Reducer).resolve scopes
      access = (reducer.environment scopes).reduceWithin (reducer.maxDepth + 1)
        (reducer.maxDepth + 1) initializer := by
    rw [Reducer.resolve_eq_reduceWithin]
    exact Environment.defers_of_looksUp looksUp _ _
  rw [direct, through, Reducer.resolve_eq_reduceWithin]
  exact Environment.reduceWithin_of_remaining _ _ _ _ _

end Reductions

section Looping

attribute [local instance] Host.closed

/-- A class with a property that leads to itself. -/
def loopingClass : Json :=
  Tree.classDeclaration "Config" [Tree.property "speed" (Tree.numeral "3"),
    Tree.property "loop" (Tree.access (Tree.identifier "Config") "loop")]

/-- The property that leads to itself, read directly and by `this`. -/
theorem property_agrees_access_looping :
    let reducer : Reducer := ⟨.empty, .prelude, 2⟩
    let sourceFile := Tree.sourceFile [Tree.enumeration "Kind" ["soft"], loopingClass]
    let initializer := Tree.access (Tree.identifier "Config") "loop"
    let config : Group :=
      ⟨"Config", [("speed", .node (Tree.numeral "3")), ("loop", .node initializer)]⟩
    let kind : Group := ⟨"Kind", [("soft", .node (Tree.identifier "soft"))]⟩
    let scopes : SymbolTable :=
      ⟨[(selfScope, config), ("Config", config), ("Kind", kind), ("Math", .math)]⟩
    let access := Tree.access Tree.this "loop"
    (configScope sourceFile "Config" ["Kind"] = .ok scopes ∧
      Declaration.findClass "Config" sourceFile = .ok loopingClass ∧
        Declaration.Initializes loopingClass "loop" initializer ∧
          access.Accesses selfScope "loop") ∧
      property reducer scopes loopingClass "loop" = .error (.depthExceeded 2) ∧
        Agrees (· = ·) (FoldError.SameUpToLimit 2 3) (property reducer scopes loopingClass "loop")
          (({ reducer with maxDepth := 3 } : Reducer).resolve scopes access) := by
  intro reducer sourceFile initializer config kind scopes access
  have configured : configScope sourceFile "Config" ["Kind"] = .ok scopes := by rfl
  have isClass : Declaration.findClass "Config" sourceFile = .ok loopingClass := by rfl
  have initialized : Declaration.Initializes loopingClass "loop" initializer :=
    ⟨_, _, rfl, rfl, rfl⟩
  have accesses : access.Accesses selfScope "loop" := ⟨Tree.this, rfl, .this rfl⟩
  constructor
  · exact ⟨configured, isClass, initialized, accesses⟩
  · constructor
    · rw [property, Declaration.propertyOfClass_eq_ok_iff.2 initialized]
      change (reducer.context scopes .resolve).reduce initializer = _
      rw [Context.reduce_eq_unrolled 3]
      rfl
    · exact property_agrees_access reducer configured (by decide) (by decide) (by decide) isClass
        initialized (.inl accesses)

end Looping

end SyntaxFold.Synth
