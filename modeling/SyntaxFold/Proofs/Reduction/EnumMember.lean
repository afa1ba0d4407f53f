import SyntaxFold.Proofs.Declaration
import SyntaxFold.Proofs.Reduction.Chain
import SyntaxFold.Proofs.Reduction.Properties

/-!
# Members of enumerations

The group of an enumeration binds each member to the identifier that names it, so an access to a
member reduces to the name of the member. The text of an identifier is unescaped three times on the
way, each time for its own purpose: where the member is declared, where it is accessed, and where
its identifier is reduced. All three agree, since they read the same texts.
-/

namespace SyntaxFold

open Outcome

/-- The member is named by an identifier of this text. -/
def Declaration.NamedBy (member : Json) (text : String) : Prop :=
  ∃ identifier, member.get? "name" = some identifier ∧
    Node.ofJson identifier = .ok (.identifier text)

/-- What an enumeration binds a member to: the identifier that names it. -/
def Initializer.IsIdentifier (text : String) (initializer : Initializer) : Prop :=
  ∃ tree, initializer = .node tree ∧ Node.ofJson tree = .ok (.identifier text)

namespace Group

/-! ## Making the group -/

theorem memberOfEnum_eq_ok_iff {member : Json} {entry : String × Initializer} :
    memberOfEnum member = .ok entry ↔
      ∃ nameNode, member.get? "name" = some nameNode ∧
        identifierText nameNode = some entry.1 ∧ entry.2 = .node nameNode := by
  simp only [memberOfEnum, requireField, bind_eq_ok_iff, require_eq_ok_iff, pure_eq_ok_iff]
  constructor
  · rintro ⟨nameNode, found, text, isText, rfl⟩
    exact ⟨nameNode, found, isText, rfl⟩
  · rintro ⟨nameNode, found, isText, bound⟩
    exact ⟨nameNode, found, entry.1, isText, Prod.ext rfl bound.symm⟩

/-- A member is refused for one reason only. -/
theorem eq_of_memberOfEnum_eq_error {member : Json} {error : FoldError}
    (failed : memberOfEnum member = .error error) : error = .malformedNode "EnumMember" "name" := by
  rcases bind_eq_error_iff.1 failed with unnamed | ⟨nameNode, -, rest⟩
  · exact (require_eq_error_iff.1 unnamed).2
  · rcases bind_eq_error_iff.1 rest with textless | ⟨text, -, impossible⟩
    · exact (require_eq_error_iff.1 textless).2
    · cases impossible

/-- A member whose name has no identifier text makes the whole enumeration fail. -/
theorem ofEnum_of_unnamed {enumNode member : Json} {name : String} {members : List Json}
    (named : declarationName enumNode = some name)
    (listed : enumNode.get? "members" = some (.array members)) (mem : member ∈ members)
    (unnamed : declarationName member = none) :
    ofEnum enumNode = .error (.malformedNode "EnumMember" "name") := by
  unfold ofEnum requireField
  rw [named, listed]
  change (members.mapM memberOfEnum >>= _) = _
  cases each : members.mapM memberOfEnum with
  | ok entries =>
      obtain ⟨entry, made⟩ := exists_ok_of_mem each mem
      obtain ⟨nameNode, found, text, -⟩ := memberOfEnum_eq_ok_iff.1 made
      rw [declarationName, found, Option.bind_some, text] at unnamed
      cases unnamed
  | error error =>
      obtain ⟨before, first, after, -, -, failed⟩ := mapM_eq_error_iff.1 each
      rw [eq_of_memberOfEnum_eq_error failed]
      rfl

/-- Members that are named by identifiers are bound to these, under their texts. -/
theorem exists_entries_of_namedBy {members : List Json} {texts : List String}
    (named : List.Forall₂ Declaration.NamedBy members texts) :
    ∃ entries, members.mapM memberOfEnum = .ok entries ∧
      List.Forall₂ (fun text entry => entry.1 = text ∧ entry.2.IsIdentifier text) texts entries := by
  simp only [mapM_eq_ok_iff]
  induction named with
  | nil => exact ⟨[], .nil, .nil⟩
  | @cons member text _ _ head _ ih =>
      obtain ⟨identifier, found, shape⟩ := head
      obtain ⟨entries, made, bound⟩ := ih
      have first : memberOfEnum member = .ok (text, .node identifier) :=
        memberOfEnum_eq_ok_iff.2 ⟨identifier, found, identifierText_of_identifier shape, rfl⟩
      exact ⟨_, .cons first made, .cons ⟨rfl, identifier, rfl, shape⟩ bound⟩

theorem exists_ofEnum {enumNode : Json} {name : String} {members : List Json} {texts : List String}
    (named : declarationName enumNode = some name)
    (listed : enumNode.get? "members" = some (.array members))
    (each : List.Forall₂ Declaration.NamedBy members texts) :
    ∃ entries, ofEnum enumNode = .ok ⟨name, entries⟩ ∧
      List.Forall₂ (fun text entry => entry.1 = text ∧ entry.2.IsIdentifier text) texts entries := by
  obtain ⟨entries, made, bound⟩ := exists_entries_of_namedBy each
  refine ⟨entries, ?_, bound⟩
  unfold ofEnum requireField
  rw [named, listed]
  change (members.mapM memberOfEnum >>= _) = _
  rw [made]
  rfl

end Group

/-! ## Reducing an access -/

section Reductions

variable [Host] (reducer : Reducer) {scopes : SymbolTable} {access : Json} {name property : String}

/-- An access to a member that is bound to an identifier is one lookup away from its text. -/
theorem Reducer.resolve_of_isIdentifier {initializer : Initializer}
    (accesses : access.Accesses name property)
    (found : scopes.lookup name property = .ok initializer)
    (isIdentifier : initializer.IsIdentifier property) (room : 1 ≤ reducer.maxDepth) :
    reducer.resolve scopes access = .ok (.string property) := by
  obtain ⟨tree, rfl, shape⟩ := isIdentifier
  have chain : Leads scopes.LooksUp 1 access tree :=
    .step ⟨name, property, accesses, found⟩ (.here tree)
  have constant : (reducer.environment scopes).IsConstant tree (.string property) := fun _ =>
    Environment.reduceWith_of_namesScope (.identifier shape)
  have lookups (tree bound : Json) (looksUp : scopes.LooksUp tree bound) :
      (reducer.environment scopes).Defers tree bound :=
    Environment.defers_of_looksUp looksUp
  rw [resolve_eq_reduceWithin, Environment.reduceWithin_of_leads_constant lookups chain constant,
    if_pos room]

/-- An access fails as its lookup does. -/
theorem Reducer.resolve_of_lookup_eq_error {error : FoldError}
    (accesses : access.Accesses name property)
    (failed : scopes.lookup name property = .error error) :
    reducer.resolve scopes access = .error error := by
  have missing : (reducer.environment scopes).scopes.lookup name property = .error error := failed
  rw [resolve_eq_reduceWithin, Environment.reduceWithin,
    Environment.reduceWith_of_accesses accesses, Environment.memberWith, missing]

variable {enumNode : Json} {members : List Json}

/-- An enumeration whose members are all named by identifiers makes a group with their names, in
order, and wherever this group stands under the name of the enumeration, an access to a member
reduces to the name of the member if there is such a member, and says that it is not found
otherwise. An enumeration with a member whose name has no identifier text makes no group. -/
theorem Reducer.resolve_enum_member (named : declarationName enumNode = some name)
    (listed : enumNode.get? "members" = some (.array members)) :
    (∀ texts, List.Forall₂ Declaration.NamedBy members texts →
      ∃ group, Group.ofEnum enumNode = .ok group ∧ group.members.map Prod.fst = texts ∧
        ∀ scopes : SymbolTable, scopes.get name = .ok group → 1 ≤ reducer.maxDepth →
          ∀ access property, access.Accesses name property →
            reducer.resolve scopes access =
              if property ∈ texts then .ok (.string property)
              else .error (.propertyNotFound property name)) ∧
    ((∃ member ∈ members, declarationName member = none) →
      Group.ofEnum enumNode = .error (.malformedNode "EnumMember" "name")) := by
  constructor
  · intro texts each
    obtain ⟨entries, made, bound⟩ := Group.exists_ofEnum named listed each
    have names := Entries.keys_of_forall₂ _ bound
    refine ⟨⟨name, entries⟩, made, names, ?_⟩
    intro scopes registered room access property accesses
    have lookup : scopes.lookup name property = Group.lookup ⟨name, entries⟩ property := by
      rw [SymbolTable.lookup, registered]
    split
    · next declared =>
        obtain ⟨initializer, found, isIdentifier⟩ := Entries.exists_get?_of_forall₂ _ bound declared
        have present : Group.lookup ⟨name, entries⟩ property = .ok initializer :=
          Group.lookup_eq_ok_iff.2 found
        exact resolve_of_isIdentifier reducer accesses (lookup.trans present) isIdentifier room
    · next undeclared =>
        apply resolve_of_lookup_eq_error reducer accesses
        rw [lookup, Group.lookup, Entries.get?_eq_none_iff.2 (names ▸ undeclared)]
  · rintro ⟨member, mem, unnamed⟩
    exact Group.ofEnum_of_unnamed named listed mem unnamed

end Reductions

section Gates

attribute [local instance] Host.closed

/-- An enumeration that declares `__lock` twice, the second time after `open`. -/
def gates : Json := Tree.enumeration "Gate" ["___lock", "open", "___lock"]

/-- An enumeration with a member whose name is quoted. -/
def quotedGates : Json :=
  Tree.node "EnumDeclaration" [("name", Tree.identifier "Gate"), ("members", .array
    [Tree.node "EnumMember" [("name", Tree.identifier "open")],
      Tree.node "EnumMember" [("name", Tree.quoted "not open")]])]

/-- The escaped member is found and another one is not, with a limit that allows one lookup. With a
quoted member there is no group. -/
theorem Reducer.resolve_enum_member_gates :
    let reducer : Reducer := ⟨.empty, .prelude, 1⟩
    let gate (name : String) := Tree.access (Tree.identifier "Gate") name
    (declarationName gates = some "Gate" ∧ ∃ group, Group.ofEnum gates = .ok group ∧
      let scopes := SymbolTable.empty.insertAs "Gate" group
      (gate "___lock").Accesses "Gate" "__lock" ∧ (gate "shut").Accesses "Gate" "shut" ∧
        reducer.resolve scopes (gate "___lock") = .ok (.string "__lock") ∧
          reducer.resolve scopes (gate "shut") = .error (.propertyNotFound "shut" "Gate")) ∧
    declarationName quotedGates = some "Gate" ∧
      Group.ofEnum quotedGates = .error (.malformedNode "EnumMember" "name") := by
  intro reducer gate
  have named : declarationName gates = some "Gate" := by decide +kernel
  have quotedNamed : declarationName quotedGates = some "Gate" := by decide +kernel
  have member (text escaped : String) (unescaped : unescape escaped = text) :
      Declaration.NamedBy (Tree.node "EnumMember" [("name", Tree.identifier escaped)]) text :=
    ⟨_, rfl, by rw [← unescaped]; rfl⟩
  have lock : unescape "___lock" = "__lock" := by decide +kernel
  have each : List.Forall₂ Declaration.NamedBy _ ["__lock", "open", "__lock"] :=
    .cons (member _ "___lock" lock) (.cons (member _ "open" (by decide +kernel))
      (.cons (member _ "___lock" lock) .nil))
  have accesses (text escaped : String) (unescaped : unescape escaped = text) :
      (gate escaped).Accesses "Gate" text :=
    ⟨Tree.identifier "Gate", by rw [← unescaped]; rfl, .identifier rfl⟩
  have locked := accesses "__lock" "___lock" lock
  have shut := accesses "shut" "shut" (by decide +kernel)
  obtain ⟨group, made, -, reduces⟩ := (resolve_enum_member reducer named rfl).1 _ each
  have reduces := reduces _ (SymbolTable.get_insertAs_self .empty "Gate" group) (Nat.le_refl 1)
  constructor
  · refine ⟨named, group, made, locked, shut, ?_, ?_⟩
    · exact (reduces _ _ locked).trans (if_pos (by decide +kernel))
    · exact (reduces _ _ shut).trans (if_neg (by decide +kernel))
  · refine ⟨quotedNamed, ?_⟩
    apply (resolve_enum_member reducer quotedNamed rfl).2
    exact ⟨_, List.mem_cons_of_mem _ List.mem_cons_self, by decide +kernel⟩

end Gates

end SyntaxFold
