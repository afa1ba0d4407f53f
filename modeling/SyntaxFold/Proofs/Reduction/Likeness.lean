import SyntaxFold.Proofs.Node.Likeness
import SyntaxFold.Proofs.Reduction.Refinement
import SyntaxFold.Proofs.Scope
import SyntaxFold.Proofs.Value.Congruence

/-!
# Reductions of alike trees

Two reductions of trees that differ as a variation allows end alike: both in values that are
related, or both in errors that are. This is proved for one rule first, from what the parts reduce
to, then for trees without resolving, where no table but that of the kinds matters, and then with
resolving, where the scopes may differ in the same way as the trees do. With resolving, the values
must be the same: functions take values apart in ways that no weaker relation survives.
-/

namespace SyntaxFold

open Outcome Value

/-- An environment with other scopes. -/
def Environment.withScopes (environment : Environment) (scopes : SymbolTable) : Environment :=
  { environment with scopes := scopes }

theorem Environment.kinds_withScopes (environment : Environment) (scopes : SymbolTable) :
    (environment.withScopes scopes).kinds = environment.kinds := rfl

/-- A context with other scopes. -/
def Context.withScopes (context : Context) (scopes : SymbolTable) : Context :=
  { context with environment := context.environment.withScopes scopes }

/-- A variation that reduction does not notice: operators and formulas are read as the same, and
errors that quote what may differ are related. -/
structure Variation.Lawful (variation : Variation) (kinds : KindTable)
    (errors : FoldError → FoldError → Prop) : Prop where
  kind_self : ∀ kind, variation.kind kind kind
  operator : ∀ operator operator', variation.operator operator operator' →
    prefixOperator kinds operator = prefixOperator kinds operator'
  token : ∀ token token', variation.kind token token' →
    BinaryOperator.ofToken? token = BinaryOperator.ofToken? token'
  formula : ∀ parameters parameters' body body',
    List.Forall₂ variation.formula parameters parameters' → variation.formula body body' →
      Agrees (fun found found' => found.1 = found'.1 ∧ variation.formula found.2 found'.2) (· = ·)
        (Formula.recognize parameters body) (Formula.recognize parameters' body')
  literal : ∀ error : FoldError, error.IsLiteral → errors error error
  malformed : ∀ kind kind' field, variation.kind kind kind' →
    errors (.malformedNode kind field) (.malformedNode kind' field)
  unimplemented : ∀ token token', variation.kind token token' →
    errors (.unimplementedOperator token .binary) (.unimplementedOperator token' .binary)

variable {variation : Variation} {errors : FoldError → FoldError → Prop}
variable {values : Value → Value → Prop}

theorem isLiteral_of_ofNumeral {text : String} {error : FoldError}
    (failed : ofNumeral text = .error error) : error.IsLiteral := by
  obtain rfl := ofNumeral_eq_error failed
  trivial

theorem isLiteral_of_requireMinus {kinds : KindTable} {operator : Json} {error : FoldError}
    (failed : requireMinus kinds operator = .error error) : error.IsLiteral := by
  unfold requireMinus at failed
  split at failed
  · cases failed
  · cases failed
    trivial
  · next unknown =>
      cases failed
      unfold prefixOperator at unknown
      split at unknown
      · cases unknown
      · split at unknown
        · unfold KindTable.name at unknown
          split at unknown <;> cases unknown
          trivial
        · cases unknown
          trivial

/-! ## One property -/

section Properties

variable {kinds : KindTable} {reduce reduce' : Mode → Json → Except FoldError Value} {mode : Mode}

theorem propertyRule_alike (lawful : variation.Lawful kinds errors)
    (congruent : Congruent values) (kind : String) {property property' : Json}
    (alike : PropertyAlike variation property property')
    (parts : ∀ part ∈ propertyParts property, ∀ part' ∈ propertyParts property',
      variation.part part part' →
        Agrees values errors (reduce mode.nested part) (reduce' mode.nested part'))
    (kept : mode.shallow = true → ∀ part part', variation.part part part' →
      values (.node part) (.node part')) :
    Agrees (fun pair pair' => pair.1 = pair'.1 ∧ values pair.2 pair'.2) errors
      (propertyRule reduce mode kind property) (propertyRule reduce' mode kind property') := by
  have kinds : variation.kind ((kindOf property).getD kind) ((kindOf property').getD kind) :=
    option_rel_getD alike.kind (lawful.kind_self kind)
  have malformed (field : String) := lawful.malformed _ _ field kinds
  refine agrees_bind (agrees_require alike.name (malformed "name")).with_ok ?_
  rintro name name' ⟨names, named, named'⟩
  refine agrees_bind (parts _ (mem_propertyParts_of_name named) _
    (mem_propertyParts_of_name named') names) fun _ _ nameValues => ?_
  refine agrees_bind (congruent.agrees_keyOf nameValues (malformed "name")) ?_
  rintro key _ rfl
  refine agrees_bind (agrees_require alike.initializer (malformed "initializer")).with_ok ?_
  rintro initializer initializer' ⟨initializers, initialized, initialized'⟩
  have reduced : Agrees values errors
      (if mode.shallow then .ok (.node initializer) else reduce mode.nested initializer)
      (if mode.shallow then .ok (.node initializer') else reduce' mode.nested initializer') := by
    split
    · next shallow => exact .ok (kept shallow _ _ initializers)
    · exact parts _ (mem_propertyParts_of_initializer initialized) _
        (mem_propertyParts_of_initializer initialized') initializers
  exact agrees_bind reduced fun _ _ related => .ok ⟨rfl, related⟩

theorem mappingRule_alike (lawful : variation.Lawful kinds errors)
    (congruent : Congruent values) (kind : String) {properties properties' : List Json}
    (alike : List.Forall₂ (PropertyAlike variation) properties properties')
    (parts : ∀ part ∈ properties.flatMap propertyParts,
      ∀ part' ∈ properties'.flatMap propertyParts, variation.part part part' →
        Agrees values errors (reduce mode.nested part) (reduce' mode.nested part'))
    (kept : mode.shallow = true → ∀ part part', variation.part part part' →
      values (.node part) (.node part')) :
    Agrees values errors (mappingRule reduce mode kind properties)
      (mappingRule reduce' mode kind properties') := by
  have pairs : Agrees (Entries.Matching values) errors
      (properties.mapM (propertyRule reduce mode kind))
      (properties'.mapM (propertyRule reduce' mode kind)) := by
    refine agrees_mapM alike ?_
    intro property member property' member' related
    refine propertyRule_alike lawful congruent kind related ?_ kept
    intro part partMember part' partMember'
    exact parts part (List.mem_flatMap.2 ⟨property, member, partMember⟩) part'
      (List.mem_flatMap.2 ⟨property', member', partMember'⟩)
  exact agrees_bind pairs fun _ _ matching => .ok (congruent.mapping _ _ matching.ofPairs)

end Properties

theorem Node.Alike.isCollection {node node' : Node} (alike : node.Alike variation node')
    (collection : node'.IsCollection) : node.IsCollection := by
  cases alike <;> trivial

namespace Environment

variable {environment environment' : Environment}
variable {inside inside' : Json → Except FoldError Value}

/-! ## Lookups and calls -/

theorem agrees_initialValue {trees : Json → Json → Prop}
    (within : ∀ tree tree', trees tree tree' → Agrees (· = ·) errors (inside tree) (inside' tree'))
    {initializer initializer' : Initializer} (matching : initializer.Matches trees initializer') :
    Agrees (· = ·) errors (initialValue inside initializer)
      (initialValue inside' initializer') := by
  cases matching with
  | node related => exact within _ _ related
  | native value => exact .ok rfl

/-- Two environments resolve alike: with the same functions to call by name, members that agree, and
inside lookups and calls reductions that agree. -/
structure ResolvesAlike (variation : Variation) (errors : FoldError → FoldError → Prop)
    (environment environment' : Environment) (inside inside' : Json → Except FoldError Value) :
    Prop where
  error_self : ∀ error : FoldError, errors error error
  registry : environment'.registry = environment.registry
  member : ∀ scope property, Agrees (· = ·) errors (environment.memberWith inside scope property)
    (environment'.memberWith inside' scope property)
  within : ∀ tree tree', variation.part tree tree' →
    Agrees (· = ·) errors (inside tree) (inside' tree')

namespace ResolvesAlike

variable (resolves : ResolvesAlike variation errors environment environment' inside inside')
include resolves

theorem self (outcome : Except FoldError Value) : Agrees (· = ·) errors outcome outcome :=
  agrees_self (fun _ _ => rfl) fun error _ => resolves.error_self error

theorem accessWith (base : Value) (name : String) :
    Agrees (· = ·) errors (environment.accessWith inside base name)
      (environment'.accessWith inside' base name) := by
  cases base with
  | string scope => exact resolves.member scope name
  | _ => exact resolves.self _

theorem callWith [Host] {callee callee' : Json} {arguments arguments' : List Json}
    (callees : variation.part callee callee')
    (each : List.Forall₂ variation.part arguments arguments') :
    Agrees (· = ·) errors (environment.callWith inside callee arguments)
      (environment'.callWith inside' callee' arguments') := by
  refine agrees_bind (resolves.within callee callee' callees) ?_
  rintro target _ rfl
  refine agrees_bind (agrees_mapM each fun argument _ argument' _ related =>
    resolves.within argument argument' related) ?_
  intro values values' same
  rw [List.forall₂_eq_eq_eq] at same
  rw [same, resolves.registry]
  exact resolves.self _

end ResolvesAlike

/-! ## One node -/

section Rule

variable [Host] {reduce reduce' : Mode → Json → Except FoldError Value} {mode : Mode}

/-- What the rules of two nodes need of their parts: that their reductions agree, and in literal
mode those of factors up to the number. -/
structure PartsAgree (variation : Variation) (values : Value → Value → Prop)
    (errors : FoldError → FoldError → Prop)
    (reduce reduce' : Mode → Json → Except FoldError Value) (mode : Mode)
    (parts parts' : List Json) : Prop where
  nested : ∀ part ∈ parts, ∀ part' ∈ parts', variation.part part part' →
    Agrees values errors (reduce mode.nested part) (reduce' mode.nested part')
  factors : ∀ factor ∈ parts, ∀ factor' ∈ parts', variation.formula factor factor' →
    Agrees (fun scale scale' => scale.float? = scale'.float?) errors (reduce .literal factor)
      (reduce' .literal factor')

/-- A function literal is the same formula on both sides, and its factor the same number. -/
theorem arrowFunction_alike (lawful : variation.Lawful environment.kinds errors)
    (congruent : Congruent values) {parameters parameters' : List Json} {body body' : Json}
    (eachParameter : List.Forall₂ variation.formula parameters parameters')
    (bodies : variation.formula body body')
    (agree : PartsAgree variation values errors reduce reduce' mode
      (Node.arrowFunction parameters body).parts (Node.arrowFunction parameters' body').parts)
    {whole whole' : Json} :
    Agrees values errors
      (environment.nodeRule inside reduce mode whole (.arrowFunction parameters body))
      (environment'.nodeRule inside' reduce' mode whole' (.arrowFunction parameters' body')) := by
  have recognized := lawful.formula _ _ _ _ eachParameter bodies
  simp only [nodeRule]
  generalize found : Formula.recognize parameters body = formula at recognized ⊢
  generalize found' : Formula.recognize parameters' body' = formula' at recognized ⊢
  cases recognized with
  | error sameFault =>
      rw [sameFault]
      exact .error (lawful.literal _ trivial)
  | @ok known known' related =>
      obtain ⟨base, factor⟩ := known
      obtain ⟨base', factor'⟩ := known'
      obtain ⟨rfl, related⟩ : base = base' ∧ variation.formula factor factor' := related
      have member : factor ∈ (Node.arrowFunction parameters body).parts := by
        simp [Node.parts, found]
      have member' : factor' ∈ (Node.arrowFunction parameters' body').parts := by
        simp [Node.parts, found']
      apply agrees_bind (agree.factors factor member factor' member' related)
      intro scale scale' same
      simp only [same]
      split
      · exact .ok (congruent.function _ _)
      · exact .error (lawful.literal _ trivial)

/-- The rules of two alike nodes agree, if the reductions of their parts do. -/
theorem nodeRule_alike (lawful : variation.Lawful environment.kinds errors)
    (sameKinds : environment'.kinds = environment.kinds) (congruent : Congruent values)
    {node node' : Node} (alike : node.Alike variation node')
    (agree : PartsAgree variation values errors reduce reduce' mode node.parts node'.parts)
    (kept : mode.shallow = true → ∀ part part', variation.part part part' →
      values (.node part) (.node part'))
    {whole whole' : Json} (passed : mode.resolving = false → values (.node whole) (.node whole'))
    (resolves : mode.resolving = true → ¬ node.IsCollection → values = (· = ·) ∧
      ResolvesAlike variation errors environment environment' inside inside') :
    Agrees values errors (environment.nodeRule inside reduce mode whole node)
      (environment'.nodeRule inside' reduce' mode whole' node') := by
  have through (literal : ¬ mode.resolving = true) :
      Agrees values errors (.ok (.node whole) : Except FoldError Value) (.ok (.node whole')) :=
    .ok (passed (Bool.eq_false_iff.2 literal))
  have same (value : Value) (scalar : value.isScalar = true) :
      Agrees values errors (.ok value : Except FoldError Value) (.ok value) :=
    .ok (congruent.scalar value scalar)
  cases alike with
  | arrayLiteral elements =>
      simp only [nodeRule]
      split
      · next shallow =>
          refine .ok (congruent.sequence _ _ ?_)
          exact List.forall₂_map_left_iff.2
            (List.forall₂_map_right_iff.2 (elements.imp (kept shallow)))
      · refine agrees_bind (agrees_mapM elements agree.nested) fun _ _ related => ?_
        exact .ok (congruent.sequence _ _ related)
  | objectLiteral properties =>
      exact mappingRule_alike lawful congruent _ properties agree.nested kept
  | classDeclaration members => exact mappingRule_alike lawful congruent _ members agree.nested kept
  | identifier text | stringLiteral text => exact same _ rfl
  | boolean value => exact same _ rfl
  | null => exact same _ rfl
  | numericLiteral text =>
      refine agrees_self ?_ ?_
      · exact fun _ numeral => congruent.computed (computed_of_ofNumeral numeral)
      · exact fun error failed => lawful.literal error (isLiteral_of_ofNumeral failed)
  | this =>
      simp only [nodeRule]
      split
      · exact same _ rfl
      · exact .error (lawful.literal _ trivial)
  | @prefixUnary operator operator' _ _ operators operands =>
      have minus : requireMinus environment'.kinds operator' =
          requireMinus environment.kinds operator := by
        rw [requireMinus, requireMinus, sameKinds, lawful.operator _ _ operators]
      simp only [nodeRule, minus]
      refine agrees_bind_self ?_ fun _ _ => ?_
      · exact fun error failed => lawful.literal error (isLiteral_of_requireMinus failed)
      · have reduced := agree.nested _ (by simp [Node.parts]) _ (by simp [Node.parts]) operands
        apply agrees_bind reduced
        intro _ _ related
        exact congruent.agrees_negate related fun _ _ => lawful.literal _ trivial
  | @binary _ _ _ _ token token' lefts tokens rights =>
      simp only [nodeRule, lawful.token _ _ tokens]
      split
      · exact .error (lawful.unimplemented _ _ tokens)
      · have leftReduced := agree.nested _ (by simp [Node.parts]) _ (by simp [Node.parts]) lefts
        have rightReduced := agree.nested _ (by simp [Node.parts]) _ (by simp [Node.parts]) rights
        apply agrees_bind leftReduced
        intro _ _ leftValues
        apply agrees_bind rightReduced
        intro _ _ rightValues
        exact congruent.agrees_apply leftValues rightValues fun _ _ _ => lawful.literal _ trivial
  | wrapper expressions =>
      exact agree.nested _ (by simp [Node.parts]) _ (by simp [Node.parts]) expressions
  | arrowFunction parameters bodies =>
      exact arrowFunction_alike lawful congruent parameters bodies agree
  | template =>
      simp only [nodeRule]
      split
      · next resolving =>
          obtain ⟨-, tables⟩ := resolves resolving id
          exact .error (tables.error_self _)
      · next literal => exact through literal
  | call callees arguments =>
      simp only [nodeRule]
      split
      · next resolving =>
          obtain ⟨rfl, tables⟩ := resolves resolving id
          exact tables.callWith callees arguments
      · next literal => exact through literal
  | propertyAccess name expressions =>
      simp only [nodeRule]
      split
      · next resolving =>
          obtain ⟨rfl, tables⟩ := resolves resolving id
          have reduced := agree.nested _ (by simp [Node.parts]) _ (by simp [Node.parts]) expressions
          apply agrees_bind reduced
          rintro base _ rfl
          exact tables.accessWith base name
      · next literal => exact through literal
  | elementAccess expressions arguments =>
      simp only [nodeRule]
      split
      · next resolving =>
          obtain ⟨rfl, tables⟩ := resolves resolving id
          have baseReduced :=
            agree.nested _ (by simp [Node.parts]) _ (by simp [Node.parts]) expressions
          have indexReduced :=
            agree.nested _ (by simp [Node.parts]) _ (by simp [Node.parts]) arguments
          apply agrees_bind baseReduced
          rintro base _ rfl
          apply agrees_bind indexReduced
          rintro index _ rfl
          exact tables.self _
      · next literal => exact through literal

/-- The rules of two alike trees agree, if the reductions of their parts do. -/
theorem rule_alike (lawful : variation.Lawful environment.kinds errors)
    (sameKinds : environment'.kinds = environment.kinds) (congruent : Congruent values)
    {data data' : Json} (alike : Json.Alike variation errors data data')
    (agree : PartsAgree variation values errors reduce reduce' mode data.parts data'.parts)
    (kept : mode.shallow = true → ∀ part part', variation.part part part' →
      values (.node part) (.node part'))
    (passed : mode.resolving = false → values (.node data) (.node data'))
    (resolves : mode.resolving = true →
      (∀ node, Node.ofJson data = .ok node → ¬ node.IsCollection) → values = (· = ·) ∧
        ResolvesAlike variation errors environment environment' inside inside') :
    Agrees values errors (environment.rule inside reduce mode data)
      (environment'.rule inside' reduce' mode data') := by
  cases alike with
  | @leaf data isLeaf =>
      cases data with
      | integer value => exact .ok (congruent.computed (computed_ofInteger value))
      | float value => exact .ok (congruent.computed (.number value))
      | null | bool value | string text => exact .ok (congruent.scalar _ rfl)
      | array items | object entries => exact isLeaf.elim
  | array items =>
      exact agrees_bind (agrees_mapM items agree.nested) fun _ _ related =>
        .ok (congruent.sequence _ _ related)
  | node nodes =>
      refine agrees_bind nodes.with_ok ?_
      rintro node node' ⟨alike, shape, shape'⟩
      rw [Json.parts_of_ofJson shape, Json.parts_of_ofJson shape'] at agree
      refine nodeRule_alike lawful sameKinds congruent alike agree kept passed ?_
      intro resolving single
      refine resolves resolving fun other otherShape => ?_
      cases shape.symm.trans otherShape
      exact single

end Rule

/-! ## Whole reductions -/

section Reductions

variable [Host]

/-- Without resolving, reductions of alike trees agree, whatever the scopes, the functions to call
by name and the reductions inside lookups and calls are. -/
theorem reduceWith_literal_alike (lawful : variation.Lawful environment.kinds errors)
    (sameKinds : environment'.kinds = environment.kinds) (congruent : Congruent values)
    (alike : ∀ tree tree', variation.part tree tree' → Json.Alike variation errors tree tree')
    (formula : ∀ tree tree', variation.formula tree tree' → variation.part tree tree')
    (node : ∀ tree tree', variation.part tree tree' → values (.node tree) (.node tree'))
    (data : Json) : ∀ data' mode, variation.part data data' → mode.resolving = false →
      Agrees values errors (environment.reduceWith inside mode data)
        (environment'.reduceWith inside' mode data') := by
  induction data using Json.parts_induction with
  | step data ih =>
      intro data' mode related literal
      rw [reduceWith_eq_rule, reduceWith_eq_rule]
      refine rule_alike lawful sameKinds congruent (alike data data' related) ⟨?_, ?_⟩
        (fun _ => node) (fun _ => node data data' related) ?_
      · intro part member part' _ parts
        exact ih part member part' mode.nested parts literal
      · intro factor member factor' _ factors
        refine (ih factor member factor' .literal (formula _ _ factors) rfl).imp ?_
        exact fun _ _ _ scales => congruent.float?_eq scales
      · exact fun resolving => by cases literal.symm.trans resolving

/-- Two environments that differ as a variation allows, and trees that may also have wrappers around
them on the right. -/
structure Alike (variation : Variation) (errors : FoldError → FoldError → Prop)
    (environment environment' : Environment) : Prop where
  lawful : variation.Lawful environment.kinds errors
  error_self : ∀ error : FoldError, errors error error
  kinds : environment'.kinds = environment.kinds
  registry : environment'.registry = environment.registry
  scopes : environment.scopes.Matches variation.part environment'.scopes
  tree : ∀ tree tree', variation.part tree tree' →
    Json.Alike variation errors tree tree' ∨
      ∃ inner, Node.ofJson tree' = .ok (.wrapper inner) ∧ variation.part tree inner
  factor : ∀ inside inside' factor factor', variation.formula factor factor' →
    Agrees (fun scale scale' => scale.float? = scale'.float?) errors
      (environment.reduceWith inside .literal factor)
      (environment'.reduceWith inside' .literal factor')

namespace Alike

variable (alike : Alike variation errors environment environment')
include alike

theorem resolvesAlike (within : ∀ tree tree', variation.part tree tree' →
      Agrees (· = ·) errors (inside tree) (inside' tree')) :
    ResolvesAlike variation errors environment environment' inside inside' where
  error_self := alike.error_self
  registry := alike.registry
  member scope property := by
    rw [memberWith_eq_bind, memberWith_eq_bind]
    have found := alike.scopes.lookup scope property alike.error_self
    exact agrees_bind found fun _ _ => agrees_initialValue within
  within := within

theorem reduceWith_resolve (tables :
      ResolvesAlike variation errors environment environment' inside inside') (data' : Json) :
    ∀ data, variation.part data data' →
      Agrees (· = ·) errors (environment.reduceWith inside .resolve data)
        (environment'.reduceWith inside' .resolve data') := by
  -- The induction is on the tree on the right: only there a wrapper may stand around the other.
  induction data' using Json.parts_induction with
  | step data' ih =>
      intro data related
      rcases alike.tree data data' related with same | ⟨inner, wrapper, related⟩
      · rw [reduceWith_eq_rule, reduceWith_eq_rule]
        refine rule_alike alike.lawful alike.kinds congruent_eq same ⟨?_, ?_⟩ ?_ ?_ ?_
        · exact fun part _ part' member parts => ih part' member part parts
        · exact fun factor _ factor' _ factors => alike.factor _ _ factor factor' factors
        · exact fun shallow => by cases shallow
        · exact fun literal => by cases literal
        · exact fun _ _ => ⟨rfl, tables⟩
      · rw [reduceWith_eq_nodeRule wrapper]
        exact ih inner (Json.mem_parts_of_wrapper wrapper) data related

/-- Inside lookups and calls, reductions of trees that differ as the variation allows agree, even
under different limits, if the errors of these are related. -/
theorem reduceWithin_of_limits {limit limit' : Nat}
    (reached : errors (.depthExceeded limit) (.depthExceeded limit')) (remaining : Nat) :
    ∀ tree tree', variation.part tree tree' →
      Agrees (· = ·) errors (environment.reduceWithin limit remaining tree)
        (environment'.reduceWithin limit' remaining tree') := by
  induction remaining with
  | zero => exact fun _ _ _ => .error reached
  | succ remaining ih =>
      intro tree tree' related
      exact alike.reduceWith_resolve (alike.resolvesAlike ih) tree' tree related

theorem reduceWithin (limit remaining : Nat) (tree tree' : Json)
    (related : variation.part tree tree') :
    Agrees (· = ·) errors (environment.reduceWithin limit remaining tree)
      (environment'.reduceWithin limit remaining tree') :=
  alike.reduceWithin_of_limits (alike.error_self _) remaining tree tree' related

end Alike

end Reductions

end Environment

/-- A reduction that resolves everything is what happens inside a lookup or call with room for one
more. -/
theorem Context.reduce_eq_reduceWithin [Host] {context : Context}
    (resolving : context.mode = .resolve) (data : Json) :
    context.reduce data =
      context.environment.reduceWithin context.maxDepth (context.remaining + 1) data := by
  rw [reduce, resolving]
  rfl

end SyntaxFold
