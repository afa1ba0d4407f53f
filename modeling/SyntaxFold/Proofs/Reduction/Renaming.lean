import SyntaxFold.Proofs.Node.Renaming
import SyntaxFold.Proofs.Reduction.Spelling

/-!
# Reduction under another name for the enclosing scope

If a scope name stands for the same group as `this`, then accesses by the one and by the other have
the same outcome, and so have all trees that differ in such accesses only, also when the scopes
differ from each other in this way. The base of an access is the only place where the two names are
told apart. In literal mode the accesses are let through, so there they stay in the values.
-/

namespace SyntaxFold

open Outcome Value

variable {name : String} {site : Site}

/-- What the base of an access is resolved to may be either name of the enclosing scope. Everything
else is the same. -/
inductive Value.SameBase (name : String) : Site → Value → Value → Prop
  | same (site : Site) (value : Value) : SameBase name site value value
  | self : SameBase name .base (.string selfScope) (.string name)

theorem Value.SameBase.eq {value other : Value} (same : SameBase name .other value other) :
    value = other := by
  cases same
  rfl

/-- A renaming is not noticed away from the bases of accesses. -/
theorem lawful_selfRenaming (notMath : name ≠ "Math") (kinds : KindTable) :
    (selfRenaming name).Lawful kinds (· = ·) where
  kind_self _ := rfl
  operator _ _ renames := by cases renames <;> rfl
  token _ _ same := congrArg BinaryOperator.ofToken? same
  formula _ _ _ _ := (structural_selfRenaming name).recognize (fun _ _ => Renames.product?)
    fun parameter _ _ => Renames.logarithmOf?_eq notMath parameter
  literal _ _ := rfl
  malformed _ _ field same := congrArg (FoldError.malformedNode · field) same
  unimplemented _ _ same := congrArg (FoldError.unimplementedOperator · .binary) same

/-- The second environment has under a name what the first has as the enclosing scope. Otherwise
they differ only in what the renaming of accesses has changed in their scopes. -/
structure Environment.Renamed (name : String) (environment environment' : Environment) : Prop where
  notMath : name ≠ "Math"
  kinds : environment'.kinds = environment.kinds
  registry : environment'.registry = environment.registry
  scopes : environment.scopes.Matches (Renames name .other) environment'.scopes
  self : ∃ group group', environment.scopes.get selfScope = .ok group ∧
    environment'.scopes.get name = .ok group' ∧ group.Matches (Renames name .other) group'

variable {environment environment' : Environment}
variable {inside inside' : Json → Except FoldError Value}

namespace Environment.Renamed

variable (renamed : Renamed name environment environment')
variable (within : ∀ tree tree', Renames name .other tree tree' →
  Agrees (· = ·) (· = ·) (inside tree) (inside' tree'))
include renamed within

theorem resolvesAlike :
    ResolvesAlike (selfRenaming name) (· = ·) environment environment' inside inside' where
  error_self _ := rfl
  registry := renamed.registry
  member scope property := by
    rw [memberWith_eq_bind, memberWith_eq_bind]
    have found := renamed.scopes.lookup scope property fun error : FoldError => rfl
    exact agrees_bind found fun _ _ => agrees_initialValue within
  within := within

/-- A member of the enclosing scope is found under either name. -/
theorem accessWith {base base' : Value} (bases : SameBase name site base base')
    (property : String) :
    Agrees (· = ·) (· = ·) (environment.accessWith inside base property)
      (environment'.accessWith inside' base' property) := by
  cases bases with
  | same _ base => exact (renamed.resolvesAlike within).accessWith base property
  | self =>
      rcases renamed.self with ⟨group, group', isGroup, isGroup', matching⟩
      have lookup : environment.scopes.lookup selfScope property = group.lookup property := by
        simp only [SymbolTable.lookup, isGroup]
      have lookup' : environment'.scopes.lookup name property = group'.lookup property := by
        simp only [SymbolTable.lookup, isGroup']
      change Agrees _ _ (environment.memberWith inside selfScope property)
        (environment'.memberWith inside' name property)
      rw [memberWith_eq_bind, memberWith_eq_bind, lookup, lookup']
      have found := matching.lookup property fun error : FoldError => rfl
      exact agrees_bind found fun _ _ => agrees_initialValue within

end Environment.Renamed

section Reductions

variable [Host]

namespace Environment

/-! ## Literal mode -/

theorem reduceWith_renamed_of_literal (notMath : name ≠ "Math")
    (sameKinds : environment'.kinds = environment.kinds) (data : Json) :
    ∀ data' mode, Renames name .other data data' → mode.resolving = false →
      Agrees (Value.Respelled (Renames name .other)) (· = ·)
        (environment.reduceWith inside mode data)
        (environment'.reduceWith inside' mode data') := by
  have lawful := lawful_selfRenaming notMath environment.kinds
  induction data using Json.parts_induction with
  | step data ih =>
      intro data' mode renames literal
      cases renames.renamed with
      | access _ shape shape' _ =>
          rw [reduceWith_eq_nodeRule shape, reduceWith_eq_nodeRule shape']
          simp only [nodeRule, literal]
          exact .ok (.node renames)
      | wrapper shape shape' expressions =>
          rw [reduceWith_eq_nodeRule shape, reduceWith_eq_nodeRule shape']
          exact ih _ (Json.mem_parts_of_wrapper shape) _ mode.nested expressions literal
      | alike _ alike =>
          rw [reduceWith_eq_rule, reduceWith_eq_rule]
          refine rule_alike lawful sameKinds congruent_respelled alike ⟨?_, ?_⟩
            (fun _ _ _ => .node) (fun _ => .node renames) ?_
          · intro part member part' _ parts
            exact ih part member part' mode.nested parts literal
          · intro factor member factor' _ factors
            apply (ih factor member factor' .literal factors rfl).imp
            exact fun _ _ _ scales => congruent_respelled.float?_eq scales
          · intro resolving
            cases literal.symm.trans resolving

/-! ## Resolving -/

namespace Renamed

variable (renamed : Renamed name environment environment')
include renamed

theorem reduceWith (within : ∀ tree tree', Renames name .other tree tree' →
      Agrees (· = ·) (· = ·) (inside tree) (inside' tree')) (data : Json) :
    ∀ site data', Renames name site data data' →
      Agrees (SameBase name site) (· = ·) (environment.reduceWith inside .resolve data)
        (environment'.reduceWith inside' .resolve data') := by
  have lawful := lawful_selfRenaming renamed.notMath environment.kinds
  -- The induction is for all sites at once: the base of an access is a part of it at another site.
  induction data using Json.parts_induction with
  | step data ih =>
      intro site data' renames
      have same {left right : Except FoldError Value} (agrees : Agrees (· = ·) (· = ·) left right) :
          Agrees (SameBase name site) (· = ·) left right := by
        rw [agrees.eq]
        exact agrees_self (fun value _ => .same site value) fun _ _ => rfl
      cases renames.renamed with
      | this shape shape' =>
          rw [reduceWith_eq_nodeRule shape, reduceWith_eq_nodeRule shape']
          exact .ok .self
      | access _ shape shape' bases =>
          rw [reduceWith_eq_nodeRule shape, reduceWith_eq_nodeRule shape']
          apply same
          apply agrees_bind (ih _ (Json.mem_parts_of_access shape) .base _ bases)
          intro base base' sameBase
          exact renamed.accessWith within sameBase _
      | wrapper shape shape' expressions =>
          rw [reduceWith_eq_nodeRule shape, reduceWith_eq_nodeRule shape']
          exact ih _ (Json.mem_parts_of_wrapper shape) site _ expressions
      | alike _ alike =>
          apply same
          rw [reduceWith_eq_rule, reduceWith_eq_rule]
          refine rule_alike lawful renamed.kinds congruent_eq alike ⟨?_, ?_⟩ nofun nofun ?_
          · intro part member part' _ parts
            exact (ih part member .other part' parts).imp fun _ _ _ => SameBase.eq
          · intro factor _ factor' _ factors
            have agrees : Agrees (Value.Respelled (Renames name .other)) (· = ·)
                (environment.reduceWith inside .literal factor)
                (environment'.reduceWith inside' .literal factor') :=
              reduceWith_renamed_of_literal renamed.notMath renamed.kinds factor factor' .literal
                factors rfl
            exact agrees.imp fun _ _ _ scales => congruent_respelled.float?_eq scales
          · intro _ _
            exact ⟨rfl, renamed.resolvesAlike within⟩

/-- Inside lookups and calls, what a renaming has changed has the same outcome. -/
theorem reduceWithin (limit remaining : Nat) : ∀ tree tree', Renames name .other tree tree' →
    Agrees (· = ·) (· = ·) (environment.reduceWithin limit remaining tree)
      (environment'.reduceWithin limit remaining tree') := by
  induction remaining with
  | zero => exact fun _ _ _ => .error rfl
  | succ remaining ih =>
      intro tree tree' renames
      exact (renamed.reduceWith ih tree .other tree' renames).imp fun _ _ _ => SameBase.eq

end Renamed

end Environment

end Reductions

end SyntaxFold
