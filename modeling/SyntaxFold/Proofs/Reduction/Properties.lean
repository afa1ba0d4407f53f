import SyntaxFold.Proofs.Reduction.Shallow

/-!
# Properties make mappings

An object literal or a class is reduced property by property. A property has four steps: its name
must be there and reduce to a key, and its initializer must be there and reduce. `Gives` says what a
property gives when all of them succeed, `Fails` what it ends in when one of them does not. The
reduction of the whole fails where the first property fails. Otherwise it is the mapping that keeps
the first place and the last value of every key.
-/

namespace SyntaxFold

open Outcome

/-- The text of a key: a string as it is, and a number as it is displayed. -/
def Value.keyText? : Value → Option String
  | .string text => some text
  | .integer number => some (Value.integer number).display
  | .float number => some (Value.float number).display
  | _ => none

theorem keyOf_eq_require (kind : String) (name : Value) :
    keyOf kind name = require kind "name" name.keyText? := by
  cases name <;> rfl

theorem require_eq_error_iff {α : Type} {kind field : String} {found : Option α}
    {error : FoldError} :
    require kind field found = .error error ↔ found = none ∧ error = .malformedNode kind field := by
  cases found <;> simp [require, eq_comm]

namespace Property

/-! ## What one property gives -/

section Steps

variable (reduce : Json → Except FoldError Value)

/-- The name of the property reduces to a string or a number with the text of the key. -/
def HasKey (property : Json) (key : String) : Prop :=
  ∃ name value, property.get? "name" = some name ∧ reduce name = .ok value ∧
    value.keyText? = some key

/-- The property has the key, and its initializer reduces to the value. -/
def Gives (property : Json) (key : String) (value : Value) : Prop :=
  HasKey reduce property key ∧
    ∃ initializer, property.get? "initializer" = some initializer ∧ reduce initializer = .ok value

/-- The first step of the property that fails ends in the error. A property of no kind is reported
under the kind of what it belongs to. -/
inductive Fails (kind : String) (property : Json) : FoldError → Prop
  | nameless : property.get? "name" = none →
      Fails kind property (.malformedNode ((kindOf property).getD kind) "name")
  | name {name : Json} {error : FoldError} : property.get? "name" = some name →
      reduce name = .error error → Fails kind property error
  | keyless {name : Json} {value : Value} : property.get? "name" = some name →
      reduce name = .ok value → value.keyText? = none →
        Fails kind property (.malformedNode ((kindOf property).getD kind) "name")
  | uninitialized {key : String} : HasKey reduce property key →
      property.get? "initializer" = none →
        Fails kind property (.malformedNode ((kindOf property).getD kind) "initializer")
  | initializer {key : String} {initializer : Json} {error : FoldError} :
      HasKey reduce property key → property.get? "initializer" = some initializer →
        reduce initializer = .error error → Fails kind property error

end Steps

/-! ## The rule of a property -/

section Rule

variable {reduce : Json → Except FoldError Value} {kind : String} {property : Json}

theorem propertyKey_eq_ok_iff {key : String} :
    propertyKey reduce kind property = .ok key ↔ HasKey reduce property key := by
  constructor
  · intro keyed
    rcases bind_eq_ok_iff.1 keyed with ⟨name, named, keyed⟩
    rcases bind_eq_ok_iff.1 keyed with ⟨value, reduced, keyed⟩
    rw [keyOf_eq_require] at keyed
    exact ⟨name, value, require_eq_ok_iff.1 named, reduced, require_eq_ok_iff.1 keyed⟩
  · rintro ⟨name, value, named, reduced, keyed⟩
    simp only [propertyKey, requireField, require, named, ok_bind, reduced, keyOf_eq_require, keyed]

/-- A property gives a key and a value exactly when its rule does. -/
theorem propertyRule_eq_ok_iff_gives {reduce : Mode → Json → Except FoldError Value} {mode : Mode}
    (full : mode.shallow = false) {pair : String × Value} :
    propertyRule reduce mode kind property = .ok pair ↔
      Gives (reduce mode.nested) property pair.1 pair.2 := by
  rw [propertyRule_eq_ok_iff, propertyKey_eq_ok_iff, Gives, full]
  rfl

/-- The rule of a property fails with the error of its first step that fails. -/
theorem propertyRule_eq_error_iff_fails {reduce : Mode → Json → Except FoldError Value}
    {mode : Mode} (full : mode.shallow = false) {error : FoldError} :
    propertyRule reduce mode kind property = .error error ↔
      Fails (reduce mode.nested) kind property error := by
  constructor
  · intro failed
    rw [propertyRule] at failed
    rcases bind_eq_error_iff.1 failed with unnamed | ⟨name, named, failed⟩
    · rcases require_eq_error_iff.1 unnamed with ⟨absent, rfl⟩
      exact .nameless absent
    have named := require_eq_ok_iff.1 named
    rcases bind_eq_error_iff.1 failed with nameFails | ⟨value, reduced, failed⟩
    · exact .name named nameFails
    rw [keyOf_eq_require] at failed
    rcases bind_eq_error_iff.1 failed with noKey | ⟨key, keyed, failed⟩
    · rcases require_eq_error_iff.1 noKey with ⟨keyless, rfl⟩
      exact .keyless named reduced keyless
    have hasKey : HasKey (reduce mode.nested) property key :=
      ⟨name, value, named, reduced, require_eq_ok_iff.1 keyed⟩
    rcases bind_eq_error_iff.1 failed with uninitialized | ⟨initializer, initialized, failed⟩
    · rcases require_eq_error_iff.1 uninitialized with ⟨absent, rfl⟩
      exact .uninitialized hasKey absent
    rw [full] at failed
    rcases bind_eq_error_iff.1 failed with initializerFails | ⟨result, -, impossible⟩
    · exact .initializer hasKey (require_eq_ok_iff.1 initialized) initializerFails
    · cases impossible
  · intro fails
    rw [propertyRule_eq_bind]
    cases fails with
    | nameless absent => simp [propertyKey, requireField, absent, require]
    | name named failed =>
        simp [propertyKey, requireField, require, named, failed]
    | keyless named reduced keyless =>
        simp [propertyKey, requireField, require, named, reduced, keyOf_eq_require, keyless]
    | uninitialized hasKey absent =>
        rw [propertyKey_eq_ok_iff.2 hasKey, ok_bind]
        simp [requireField, require, absent]
    | initializer hasKey initialized failed =>
        rw [propertyKey_eq_ok_iff.2 hasKey, ok_bind]
        simp [requireField, require, initialized, failed, full]

end Rule

end Property

/-! ## Whole reductions -/

section Reductions

variable [Host]

namespace Context

open Property

variable {context : Context} {data : Json} {node : Node} {kind : String} {properties : List Json}

/-- An object literal or a class is reduced by the rule of its properties. -/
theorem reduce_eq_mappingRule (shape : Node.ofJson data = .ok node)
    (listed : node.properties? = some (kind, properties)) :
    context.reduce data = mappingRule (context.environment.reduceWith context.inside) context.mode
      kind properties := by
  rw [reduce, Environment.reduceWith_eq_nodeRule shape]
  cases node with
  | objectLiteral _ | classDeclaration _ =>
      cases listed
      rfl
  | _ => cases listed

/-- The reduction of an object literal or a class, in terms of what its properties give and how they
fail. It succeeds exactly when every property gives a key and a value; the result is the mapping
with the distinct keys in order of their first property, each with the value of its last property.
Otherwise it fails with the error of the first property that fails. -/
theorem reduce_properties (full : context.mode.shallow = false)
    (shape : Node.ofJson data = .ok node) (listed : node.properties? = some (kind, properties)) :
    ((∃ result, context.reduce data = .ok result) ↔
      ∀ property ∈ properties, ∃ key value, Gives context.reduce property key value) ∧
    (∀ result, context.reduce data = .ok result → ∃ pairs entries,
      List.Forall₂ (fun property pair => Gives context.reduce property pair.1 pair.2)
        properties pairs ∧ result = .mapping entries ∧ Entries.KeepsLast pairs entries) ∧
    ∀ error, context.reduce data = .error error ↔
      ∃ before property after, properties = before ++ property :: after ∧
        (∀ earlier ∈ before, ∃ key value, Gives context.reduce earlier key value) ∧
          Fails context.reduce kind property error := by
  let reduce := context.environment.reduceWith context.inside
  have children : reduce context.mode.nested = context.reduce := by
    rw [Mode.nested_eq_self full]
    rfl
  have gives (property : Json) (pair : String × Value) :
      propertyRule reduce context.mode kind property = .ok pair ↔
        Gives context.reduce property pair.1 pair.2 := by
    rw [propertyRule_eq_ok_iff_gives full, children]
  have fails (property : Json) (error : FoldError) :
      propertyRule reduce context.mode kind property = .error error ↔
        Fails context.reduce kind property error := by
    rw [propertyRule_eq_error_iff_fails full, children]
  have givesSome (property : Json) :
      (∃ pair, propertyRule reduce context.mode kind property = .ok pair) ↔
        ∃ key value, Gives context.reduce property key value := by
    simp only [gives, Prod.exists]
  rw [reduce_eq_mappingRule shape listed]
  refine ⟨?_, ?_, ?_⟩
  · simp only [← givesSome, ← exists_mapM_eq_ok_iff]
    constructor
    · rintro ⟨result, reduced⟩
      obtain ⟨pairs, each, -⟩ := bind_eq_ok_iff.1 reduced
      exact ⟨pairs, each⟩
    · rintro ⟨pairs, each⟩
      exact ⟨_, bind_eq_ok_iff.2 ⟨pairs, each, rfl⟩⟩
  · intro result reduced
    obtain ⟨pairs, each, same⟩ := bind_eq_ok_iff.1 reduced
    refine ⟨pairs, Entries.ofPairs pairs, ?_, (pure_eq_ok_iff.1 same).symm,
      Entries.keepsLast_ofPairs pairs⟩
    exact (mapM_eq_ok_iff.1 each).imp fun property pair => (gives property pair).1
  · intro error
    have onlyThere : mappingRule reduce context.mode kind properties = .error error ↔
        properties.mapM (propertyRule reduce context.mode kind) = .error error := by
      rw [mappingRule, bind_eq_error_iff]
      refine or_iff_left ?_
      rintro ⟨pairs, -, impossible⟩
      cases impossible
    simp only [← givesSome, ← fails, ← mapM_eq_error_iff]
    exact onlyThere

end Context

end Reductions

section SpelledTwice

attribute [local instance] Host.closed

/-- An object literal with a key that is written once as a number and once as a text. -/
def spelledTwice : Json :=
  Tree.node "ObjectLiteralExpression" [("properties", .array [
    Tree.assignment (Tree.numeral "1") (Tree.quoted "first"),
    Tree.assignment (Tree.identifier "gain") Tree.this,
    Tree.assignment (Tree.quoted "1") (Tree.quoted "second")])]

/-- Outside of resolving mode the second property is the first one that fails. -/
theorem Context.reduce_properties_spelledTwice :
    let resolving : Context := { speedContext with mode := .resolve }
    resolving.mode.shallow = false ∧ speedContext.mode.shallow = false ∧
      ∃ properties, Node.ofJson spelledTwice = .ok (.objectLiteral properties) ∧
        (∃ pairs entries, List.Forall₂ (fun property pair =>
            Property.Gives resolving.reduce property pair.1 pair.2) properties pairs ∧
          Value.mapping [("1", .string "second"), ("gain", .string selfScope)] =
            .mapping entries ∧ Entries.KeepsLast pairs entries) ∧
        ∃ before property after, properties = before ++ property :: after ∧
          (∀ earlier ∈ before, ∃ key value,
            Property.Gives speedContext.reduce earlier key value) ∧
          Property.Fails speedContext.reduce "ObjectLiteralExpression" property
            (.unrecognizedKind "ThisKeyword") := by
  intro resolving
  obtain ⟨properties, shape⟩ :
      ∃ properties, Node.ofJson spelledTwice = .ok (.objectLiteral properties) := ⟨_, rfl⟩
  have reduced : resolving.reduce spelledTwice =
      .ok (.mapping [("1", .string "second"), ("gain", .string selfScope)]) := by
    rw [Context.reduce_eq_unrolled 3]
    rfl
  have failed : speedContext.reduce spelledTwice = .error (.unrecognizedKind "ThisKeyword") := by
    rw [Context.reduce_eq_unrolled 3]
    rfl
  refine ⟨rfl, rfl, properties, shape, ?_, ?_⟩
  · exact (Context.reduce_properties rfl shape rfl).2.1 _ reduced
  · exact ((Context.reduce_properties rfl shape rfl).2.2 _).1 failed

end SpelledTwice

end SyntaxFold
