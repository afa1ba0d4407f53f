import SyntaxFold.Proofs.Reduction.Properties

/-!
# Keys that are read back

The key of a property is written in one place and read in another: an object literal turns the name
of a property into a text, and an access to an element turns its index into one. The two agree on
texts and on integers, so under such a key an access finds what the last property with this key has.
They do not agree on fractions and on numbers beyond the integers. These are keys of mappings, but
an access by one of them is refused.
-/

namespace SyntaxFold

open Property

/-! ## Elements of mappings -/

theorem Value.display_of_keyText? {name : Value} {key : String}
    (keyed : name.keyText? = some key) : name.display = key := by
  cases name with
  | string _ | integer _ | float _ =>
      cases keyed
      rfl
  | _ => cases keyed

/-- A mapping is read at a key, unless the key is a number that is no integer. -/
theorem elementOf_of_get? {entries : List (String × Value)} {index value : Value} {key : String}
    (keyed : index.keyText? = some key) (whole : ∀ number, index ≠ .float number)
    (found : Entries.get? key entries = some value) :
    elementOf (.mapping entries) index = .ok value := by
  rw [← Value.display_of_keyText? keyed] at found
  cases index with
  | float number => exact absurd rfl (whole number)
  | string _ | integer _ => simp only [elementOf, found]
  | _ => cases keyed

/-! ## Whole reductions -/

section Reductions

variable [Host]

namespace Context

variable {context : Context} {literal access name property : Json} {properties : List Json}

/-- Every property of an object literal or a class that reduces has its key in the result, with the
value of the last property that has it. -/
theorem exists_get?_of_mem_properties {node : Node} {kind : String}
    (shape : Node.ofJson literal = .ok node) (listed : node.properties? = some (kind, properties))
    {base : Value} (reduced : context.nested.reduce literal = .ok base)
    (member : property ∈ properties) :
    ∃ entries key initializer value, base = .mapping entries ∧
      HasKey context.nested.reduce property key ∧
      LastInitializer (propertyKey context.nested.reduce kind) properties key initializer ∧
      context.nested.reduce initializer = .ok value ∧ Entries.get? key entries = some value := by
  rw [reduce_eq_mappingRule shape listed] at reduced
  obtain ⟨pairs, pairsOk, same⟩ := bind_eq_ok_iff.1 reduced
  have each := mapM_eq_ok_iff.1 pairsOk
  obtain ⟨⟨key, _⟩, here⟩ := exists_ok_of_mem pairsOk member
  have keyed := (propertyRule_eq_ok_iff.1 here).1
  have present : key ∈ (Entries.ofPairs pairs).map Prod.fst := by
    rw [Entries.keys_ofPairs, List.mem_eraseDups]
    by_contra absent
    exact propertyKey_ne_of_not_mem each absent property member keyed
  obtain ⟨value, found⟩ := Option.isSome_iff_exists.1 (Entries.contains_of_mem_keys present)
  obtain ⟨initializer, last, initialized⟩ :=
    exists_lastInitializer_of_mem each (Entries.mem_of_get? found)
  exact ⟨_, key, initializer, value, (pure_eq_ok_iff.1 same).symm, propertyKey_eq_ok_iff.1 keyed,
    last, initialized, found⟩

/-- An access to an element reduces what is accessed, then the index, and reads the element. -/
theorem reduce_elementAccess (resolving : context.mode.resolving = true)
    (shape : Node.ofJson access = .ok (.elementAccess literal name)) :
    context.reduce access = (do
      let base ← context.nested.reduce literal
      let index ← context.nested.reduce name
      elementOf base index) := by
  rw [reduce, Environment.reduceWith_eq_nodeRule shape]
  simp only [Environment.nodeRule, resolving, if_true]
  rfl

/-- An object literal that reduces can be accessed by the name of each of its properties, and gives
what the last property with the same key reduces to, unless the name reduces to a number that is no
integer. Then the access fails. -/
theorem reduce_elementAccess_name_iff (resolving : context.mode.resolving = true)
    (isLiteral : Node.ofJson literal = .ok (.objectLiteral properties))
    (isAccess : Node.ofJson access = .ok (.elementAccess literal name)) {base : Value}
    (reduced : context.nested.reduce literal = .ok base) (member : property ∈ properties)
    (named : property.get? "name" = some name) :
    ∃ key initializer value, HasKey context.nested.reduce property key ∧
      LastInitializer (propertyKey context.nested.reduce "ObjectLiteralExpression") properties key
        initializer ∧
      context.nested.reduce initializer = .ok value ∧
      (context.reduce access = .ok value ↔
        ∀ number, context.nested.reduce name ≠ .ok (.float number)) ∧
      (∀ text, Node.ofJson name = .ok (.stringLiteral text) → context.reduce access = .ok value) ∧
      ∀ number, context.nested.reduce name = .ok (.float number) →
        context.reduce access = .error (.invalidOperands "[]" .mapping .float) := by
  obtain ⟨entries, key, initializer, value, rfl, keyed, last, initialized, found⟩ :=
    exists_get?_of_mem_properties isLiteral rfl reduced member
  obtain ⟨name', index, named', nameOk, keyText⟩ := keyed
  obtain rfl := Option.some.inj (named.symm.trans named')
  have accessed : context.reduce access = elementOf (.mapping entries) index := by
    rw [reduce_elementAccess resolving isAccess, reduced, nameOk]
    rfl
  have readBack (whole : ∀ number, index ≠ .float number) : context.reduce access = .ok value := by
    rw [accessed]
    exact elementOf_of_get? keyText whole found
  have refused (number : Float) (isFloat : context.nested.reduce name = .ok (.float number)) :
      context.reduce access = .error (.invalidOperands "[]" .mapping .float) := by
    cases nameOk.symm.trans isFloat
    exact accessed
  refine ⟨key, initializer, value, ⟨name, index, named, nameOk, keyText⟩, last, initialized,
    ⟨?_, ?_⟩, ?_, refused⟩
  · intro accessedOk number isFloat
    cases accessedOk.symm.trans (refused number isFloat)
  · intro whole
    apply readBack
    rintro number rfl
    exact whole number nameOk
  · intro text isText
    apply readBack
    rintro number rfl
    rw [reduce, Environment.reduceWith_eq_nodeRule isText] at nameOk
    cases nameOk

end Context

end Reductions

section ReadBack

attribute [local instance] Host.closed

/-- The key of `spelledTwice` is read in the spelling that is not the last one. -/
theorem Context.reduce_elementAccess_name_iff_spelledTwice :
    let context : Context := { speedContext with mode := .resolve }
    let name := Tree.numeral "1"
    let access := Tree.element spelledTwice name
    let reduced := Value.mapping [("1", .string "second"), ("gain", .string selfScope)]
    ∃ properties, Node.ofJson spelledTwice = .ok (.objectLiteral properties) ∧
      Node.ofJson access = .ok (.elementAccess spelledTwice name) ∧
      context.nested.reduce spelledTwice = .ok reduced ∧
      ∃ initializer value,
        LastInitializer (propertyKey context.nested.reduce "ObjectLiteralExpression") properties "1"
          initializer ∧
        context.nested.reduce initializer = .ok value ∧ context.reduce access = .ok value := by
  intro context name access reduced
  let property := Tree.assignment name (Tree.quoted "first")
  obtain ⟨properties, isLiteral, member⟩ : ∃ properties,
      Node.ofJson spelledTwice = .ok (.objectLiteral properties) ∧ property ∈ properties :=
    ⟨_, rfl, List.mem_cons_self⟩
  have isAccess : Node.ofJson access = .ok (.elementAccess spelledTwice name) := rfl
  have reducedOk : context.nested.reduce spelledTwice = .ok reduced := by
    rw [Context.reduce_eq_unrolled 3]
    rfl
  have nameOk : context.nested.reduce name = .ok (.integer 1) := by
    rw [Context.reduce_eq_unrolled 3]
    rfl
  obtain ⟨key, initializer, value, ⟨name', index, named, indexOk, keyed⟩, last, initialized, whole,
    -⟩ := Context.reduce_elementAccess_name_iff rfl isLiteral isAccess reducedOk member rfl
  cases named
  cases indexOk.symm.trans nameOk
  have isKey : (Value.integer 1).keyText? = some "1" := rfl
  cases keyed.symm.trans isKey
  refine ⟨properties, isLiteral, isAccess, reducedOk, initializer, value, last, initialized,
    whole.2 ?_⟩
  intro number isFloat
  cases nameOk.symm.trans isFloat

/-- An object literal with a fraction as a key reduces, but an access by this key is refused. -/
theorem Context.reduce_elementAccess_fraction :
    let context : Context := { speedContext with mode := .resolve }
    let name := Tree.numeral "1.5"
    let literal :=
      Tree.node "ObjectLiteralExpression" [("properties", .array [
        Tree.assignment name (Tree.numeral "7")])]
    context.reduce literal = .ok (.mapping [("1.5", .integer 7)]) ∧
      context.reduce (Tree.element literal name) =
        .error (.invalidOperands "[]" .mapping .float) := by
  intro context name literal
  constructor
  · rw [Context.reduce_eq_unrolled 3]
    rfl
  · rw [Context.reduce_eq_unrolled 3]
    rfl

end ReadBack

end SyntaxFold
