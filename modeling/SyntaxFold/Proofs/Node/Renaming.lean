import SyntaxFold.Proofs.Node.Structural
import SyntaxFold.Proofs.Node.Wrapper

/-!
# Another name for the enclosing scope

A member of the enclosing scope is accessed by `this`, or by a name if the scope has one. `Renames`
puts an identifier in the place of `this`, in any number of the accesses in a tree, and leaves
everything else as it is. The nodes of such trees are alike but for the bases of accesses, and no
function literal is recognized differently, unless the name is that of `Math`.
-/

namespace SyntaxFold

open Outcome

/-! ## Sites -/

/-- Where a tree stands: it is the base of a member access, maybe in wrappers, or anything else. -/
inductive Site where
  | base
  | other
  deriving DecidableEq, Repr

/-- The site of a field of a node, which itself has a kind and a site. -/
def Site.ofField (site : Site) (kind? : Option String) (key : String) : Site :=
  if key = "expression" then
    match kind?.bind Form.ofKind? with
    | some .propertyAccess => base
    | some .wrapper => site
    | _ => other
  else other

theorem Site.ofField_of_ne {key : String} (different : key ≠ "expression") (site : Site)
    (kind? : Option String) : site.ofField kind? key = other :=
  if_neg different

/-- The expression of all but accesses and wrappers is no base. -/
theorem Site.ofField_of_form {kind : String} {form : Form} (known : Form.ofKind? kind = some form)
    (notAccess : form ≠ .propertyAccess) (notWrapper : form ≠ .wrapper) (site : Site)
    (key : String) : site.ofField (some kind) key = other := by
  unfold ofField
  split
  · simp only [Option.bind_some, known]
    split <;> simp_all
  · rfl

/-! ## Renaming -/

mutual

/-- On the right, an identifier of the name stands in the place of `this`, in any number of bases of
member accesses. -/
inductive Renames (name : String) : Site → Json → Json → Prop
  | this {tree tree' : Json} :
      Node.ofJson tree = .ok .this → Node.ofJson tree' = .ok (.identifier name) →
        Renames name .base tree tree'
  | leaf (site : Site) {data : Json} : data.IsLeaf → Renames name site data data
  | array (site : Site) {items items' : List Json} :
      List.Forall₂ (Renames name .other) items items' →
        Renames name site (.array items) (.array items')
  | object {site : Site} {entries entries' : List (String × Json)} :
      RenamesFields name (site.ofField (kindOf (.object entries))) entries entries' →
        Renames name site (.object entries) (.object entries')

/-- The same in the values of fields, each at its site. -/
inductive RenamesFields (name : String) :
    (String → Site) → List (String × Json) → List (String × Json) → Prop
  | nil (sites : String → Site) : RenamesFields name sites [] []
  | cons {sites : String → Site} {key : String} {value value' : Json}
      {rest rest' : List (String × Json)} :
      Renames name (sites key) value value' → RenamesFields name sites rest rest' →
        RenamesFields name sites ((key, value) :: rest) ((key, value') :: rest')

end

mutual

/-- There may be nothing to rename. -/
theorem renames_self (name : String) (site : Site) :
    (tree : Json) → Renames name site tree tree
  | .null | .bool _ | .integer _ | .float _ | .string _ => .leaf site trivial
  | .array items => .array site (renames_items_self name items)
  | .object entries => .object (renames_fields_self name _ entries)

theorem renames_items_self (name : String) :
    (items : List Json) → List.Forall₂ (Renames name .other) items items
  | [] => .nil
  | item :: rest => .cons (renames_self name .other item) (renames_items_self name rest)

theorem renames_fields_self (name : String) (sites : String → Site) :
    (entries : List (String × Json)) → RenamesFields name sites entries entries
  | [] => .nil sites
  | (_, value) :: rest =>
      .cons (renames_self name _ value) (renames_fields_self name sites rest)

end

/-- The variation that a renaming is, away from the bases of accesses. -/
def selfRenaming (name : String) : Variation where
  kind := (· = ·)
  operator := Renames name .other
  part := Renames name .other
  formula := Renames name .other

variable {name : String} {site : Site} {tree tree' : Json}

theorem RenamesFields.get? {sites : String → Site} {entries entries' : List (String × Json)}
    (fields : RenamesFields name sites entries entries') (key : String) :
    Option.Rel (Renames name (sites key)) (Entries.get? key entries)
      (Entries.get? key entries') := by
  induction entries generalizing entries' with
  | nil =>
      cases fields
      exact .none
  | cons entry rest ih =>
      cases fields with
      | cons head tail =>
          simp only [Entries.get?]
          split
          · next same =>
              subst same
              exact .some head
          · exact ih tail

namespace Renames

theorem get? (renames : Renames name .other tree tree') {key : String}
    (different : key ≠ "expression") :
    Option.Rel (Renames name .other) (tree.get? key) (tree'.get? key) := by
  cases renames with
  | leaf _ isLeaf =>
      cases tree with
      | array _ | object _ => exact isLeaf.elim
      | _ => exact .none
  | array _ _ => exact .none
  | object fields =>
      have field := fields.get? key
      rw [Site.ofField_of_ne different] at field
      exact field

theorem string?_eq (renames : Renames name .other tree tree') : tree.string? = tree'.string? := by
  cases renames <;> rfl

theorem array? (renames : Renames name .other tree tree') :
    Option.Rel (List.Forall₂ (Renames name .other)) tree.array? tree'.array? := by
  cases renames with
  | leaf _ isLeaf =>
      cases tree with
      | array _ | object _ => exact isLeaf.elim
      | _ => exact .none
  | array _ items => exact .some items
  | object _ => exact .none

theorem kindOf_eq (renames : Renames name .other tree tree') : kindOf tree = kindOf tree' :=
  option_bind_eq (renames.get? (by decide)) fun _ _ => string?_eq

end Renames

theorem structural_selfRenaming (name : String) : (selfRenaming name).Structural where
  string?_eq _ _ := Renames.string?_eq
  array? _ _ := Renames.array?
  kindOf _ _ renames := by
    rw [renames.kindOf_eq]
    exact option_rel_self (fun _ => rfl) _
  get? _ _ key renames different := by
    apply renames.get?
    rintro rfl
    exact different (by decide)

/-! ## Nodes -/

/-- Two nodes of one shape that are alike, where the base of an access or what a wrapper around a
base encloses may also have been renamed. -/
inductive Node.Renamed (name : String) : Site → Node → Node → Prop
  | this : Renamed name .base .this (.identifier name)
  | access (site : Site) {expression expression' : Json} (property : String) :
      Renames name .base expression expression' →
        Renamed name site (.propertyAccess expression property)
          (.propertyAccess expression' property)
  | wrapper {site : Site} {expression expression' : Json} :
      Renames name site expression expression' →
        Renamed name site (.wrapper expression) (.wrapper expression')
  | alike (site : Site) {node node' : Node} :
      node.Alike (selfRenaming name) node' → Renamed name site node node'

theorem Node.Renamed.exists_wrapper {expression : Json} {node' : Node}
    (renamed : Node.Renamed name .other (.wrapper expression) node') :
    ∃ expression', node' = .wrapper expression' ∧ Renames name .other expression expression' := by
  cases renamed with
  | wrapper expressions => exact ⟨_, rfl, expressions⟩
  | alike _ alike =>
      cases alike with
      | wrapper expressions => exact ⟨_, rfl, expressions⟩

theorem Node.Renamed.exists_wrapper_left {node : Node} {expression' : Json}
    (renamed : Node.Renamed name .other node (.wrapper expression')) :
    ∃ expression, node = .wrapper expression := by
  cases renamed with
  | wrapper _ => exact ⟨_, rfl⟩
  | alike _ alike =>
      cases alike with
      | wrapper _ => exact ⟨_, rfl⟩

/-- A node of a known form, in whose fields something was renamed. -/
theorem RenamesFields.read {entries entries' : List (String × Json)} {kind : String} {form : Form}
    (known : Form.ofKind? kind = some form)
    (fields : RenamesFields name (site.ofField (some kind)) entries entries') :
    Agrees (Node.Renamed name site) (· = ·) (Node.read kind (.object entries) form)
      (Node.read kind (.object entries') form) := by
  have structural := structural_selfRenaming name
  -- Only accesses and wrappers have an expression that may be a base.
  by_cases isAccess : form = .propertyAccess
  · subst isAccess
    have expression := fields.get? "expression"
    have property := fields.get? "name"
    simp only [Site.ofField, if_pos, Option.bind_some, known] at expression
    rw [Site.ofField_of_ne (by decide)] at property
    have sameName : declarationName (.object entries) = declarationName (.object entries') :=
      option_bind_eq property fun _ _ => structural.identifierText_eq
    refine agrees_bind (agrees_require expression rfl) fun base base' bases => ?_
    rw [sameName]
    refine agrees_bind_self (fun _ _ => rfl) fun property _ => ?_
    exact .ok (.access site property bases)
  by_cases isWrapper : form = .wrapper
  · subst isWrapper
    have expression := fields.get? "expression"
    simp only [Site.ofField, if_pos, Option.bind_some, known] at expression
    exact agrees_map (agrees_require expression rfl) fun _ _ => .wrapper
  · have alike : Agrees (Node.Alike (selfRenaming name)) (· = ·)
        (Node.read kind (.object entries) form) (Node.read kind (.object entries') form) := by
      refine Node.read_alike (fun _ => rfl) fun key => ?_
      have field := fields.get? key
      rw [Site.ofField_of_form known isAccess isWrapper] at field
      by_cases isOperator : form.role key = .operator
      · rw [isOperator]
        exact field
      · exact structural.roleAlike (fun _ _ => id) _ isOperator field
    exact alike.imp fun _ _ _ => .alike site

namespace Renames

/-- The node of an object in which something was renamed. -/
theorem ofJson_object {entries entries' : List (String × Json)}
    (fields : RenamesFields name (site.ofField (kindOf (.object entries))) entries entries') :
    Agrees (Node.Renamed name site) (· = ·) (Node.ofJson (.object entries))
      (Node.ofJson (.object entries')) := by
  have isKind := fields.get? "kind"
  rw [Site.ofField_of_ne (by decide)] at isKind
  generalize found : Entries.get? "kind" entries = value at isKind
  generalize found' : Entries.get? "kind" entries' = value' at isKind
  cases isKind with
  | none =>
      simp only [Node.ofJson, Json.get?, found, found']
      exact .error rfl
  | @some value value' renames =>
      cases renames with
      | leaf _ _ =>
          cases value with
          | string kind =>
              have isKind : kindOf (.object entries) = some kind := by
                simp only [kindOf, Json.getString?, Json.get?, found]
                rfl
              rw [isKind] at fields
              simp only [Node.ofJson, Json.get?, found, found']
              cases known : Form.ofKind? kind with
              | none => exact .error rfl
              | some form => exact fields.read known
          | _ =>
              simp only [Node.ofJson, Json.get?, found, found']
              exact .error rfl
      | array _ _ | object _ =>
          simp only [Node.ofJson, Json.get?, found, found']
          exact .error rfl

theorem ofJson (renames : Renames name site tree tree') :
    Agrees (Node.Renamed name site) (· = ·) (Node.ofJson tree) (Node.ofJson tree') := by
  cases renames with
  | this shape shape' =>
      rw [shape, shape']
      exact .ok .this
  | leaf _ isLeaf =>
      cases tree with
      | array _ | object _ => exact isLeaf.elim
      | _ => exact .error rfl
  | array _ _ => exact .error rfl
  | object fields => exact ofJson_object fields

/-! ## Function literals -/

/-- A base that is renamed is no other identifier. -/
theorem isIdentifier_eq (renames : Renames name site tree tree') (text : String)
    (different : site = .base → text ≠ name) :
    isIdentifier text tree = isIdentifier text tree' := by
  have nodes := renames.ofJson
  unfold isIdentifier
  generalize Node.ofJson tree = outcome at nodes ⊢
  generalize Node.ofJson tree' = outcome' at nodes ⊢
  cases nodes with
  | error _ => rfl
  | ok renamed =>
      cases renamed with
      | this => exact (beq_eq_false_iff_ne.2 (Ne.symm (different rfl))).symm
      | access _ _ _ | wrapper _ => rfl
      | alike _ alike => cases alike <;> rfl

theorem unwrap (renames : Renames name .other tree tree') :
    Renames name .other (SyntaxFold.unwrap tree) (SyntaxFold.unwrap tree') := by
  fun_induction SyntaxFold.unwrap tree generalizing tree' with
  | case1 node expression shape _ ih =>
      have nodes := renames.ofJson
      rw [shape] at nodes
      generalize shape' : Node.ofJson tree' = outcome at nodes
      cases nodes with
      | ok renamed =>
          rcases renamed.exists_wrapper with ⟨expression', rfl, expressions⟩
          rw [unwrap_of_wrapper shape']
          exact ih expressions
  | case2 node single =>
      have single' : ∀ expression, Node.ofJson tree' ≠ .ok (.wrapper expression) := by
        intro expression shape'
        have nodes := renames.ofJson
        rw [shape'] at nodes
        generalize shape : Node.ofJson node = outcome at nodes
        cases nodes with
        | ok renamed =>
            rcases renamed.exists_wrapper_left with ⟨expression', rfl⟩
            exact single expression' shape
      rw [unwrap_of_no_wrapper single']
      exact renames

/-- The two trees call the same logarithm: `Math` is not renamed. -/
theorem logarithmOf?_eq (notMath : name ≠ "Math") (parameter : String)
    (renames : Renames name .other tree tree') :
    Formula.logarithmOf? parameter tree = Formula.logarithmOf? parameter tree' := by
  have nodes := renames.unwrap.ofJson
  unfold Formula.logarithmOf?
  generalize Node.ofJson (SyntaxFold.unwrap tree) = outcome at nodes ⊢
  generalize Node.ofJson (SyntaxFold.unwrap tree') = outcome' at nodes ⊢
  cases nodes with
  | error _ => rfl
  | ok renamed =>
      cases renamed with
      | access _ _ _ | wrapper _ => rfl
      | alike _ alike =>
          cases alike with
          | @call callee callee' _ _ callees arguments =>
              cases arguments with
              | nil => rfl
              | @cons argument argument' _ _ first rest =>
                  cases rest with
                  | cons _ _ => rfl
                  | nil =>
                      have sameParameter := first.isIdentifier_eq parameter nofun
                      have nodes := callees.ofJson
                      dsimp only
                      generalize Node.ofJson callee = outcome at nodes ⊢
                      generalize Node.ofJson callee' = outcome' at nodes ⊢
                      cases nodes with
                      | error _ => rfl
                      | ok renamed =>
                          cases renamed with
                          | wrapper _ => rfl
                          | access _ member bases =>
                              -- Neither `this` nor the name is `Math`.
                              have sameBase := bases.isIdentifier_eq "Math" fun _ => notMath.symm
                              simp only [sameBase, sameParameter]
                          | alike _ alike =>
                              cases alike with
                              | propertyAccess member bases =>
                                  have sameBase := bases.isIdentifier_eq "Math" nofun
                                  simp only [sameBase, sameParameter]
                              | _ => rfl
          | _ => rfl

/-- A product in which something was renamed has sides in which something was. -/
theorem product? (renames : Renames name .other tree tree') :
    Option.Rel (fun sides sides' =>
      Renames name .other sides.1 sides'.1 ∧ Renames name .other sides.2 sides'.2)
        (Formula.product? tree) (Formula.product? tree') := by
  have nodes := renames.unwrap.ofJson
  unfold Formula.product?
  generalize Node.ofJson (SyntaxFold.unwrap tree) = outcome at nodes ⊢
  generalize Node.ofJson (SyntaxFold.unwrap tree') = outcome' at nodes ⊢
  cases nodes with
  | error _ => exact .none
  | ok renamed =>
      cases renamed with
      | access _ _ _ | wrapper _ => exact .none
      | alike _ alike =>
          cases alike with
          | @binary _ _ _ _ token token' lefts tokens rights =>
              cases tokens
              by_cases times : token = "AsteriskToken"
              · subst times
                exact .some ⟨lefts, rights⟩
              · split
                · next shape =>
                    cases shape
                    exact absurd rfl times
                · split
                  · next shape =>
                      cases shape
                      exact absurd rfl times
                  · exact .none
          | _ => exact .none

end Renames

/-! ## Trees -/

/-- What the roots of two trees are if the second has been renamed: `this` and the name, two
accesses or two wrappers whose expressions have been renamed, or trees that are alike. -/
inductive Json.Renamed (name : String) : Site → Json → Json → Prop
  | this {tree tree' : Json} :
      Node.ofJson tree = .ok .this → Node.ofJson tree' = .ok (.identifier name) →
        Renamed name .base tree tree'
  | access (site : Site) {tree tree' expression expression' : Json} {property : String} :
      Node.ofJson tree = .ok (.propertyAccess expression property) →
        Node.ofJson tree' = .ok (.propertyAccess expression' property) →
          Renames name .base expression expression' → Renamed name site tree tree'
  | wrapper {site : Site} {tree tree' expression expression' : Json} :
      Node.ofJson tree = .ok (.wrapper expression) →
        Node.ofJson tree' = .ok (.wrapper expression') →
          Renames name site expression expression' → Renamed name site tree tree'
  | alike (site : Site) {tree tree' : Json} :
      Json.Alike (selfRenaming name) (· = ·) tree tree' → Renamed name site tree tree'

theorem Renames.renamed (renames : Renames name site tree tree') :
    Json.Renamed name site tree tree' := by
  cases renames with
  | this shape shape' => exact .this shape shape'
  | leaf _ isLeaf => exact .alike site (.leaf isLeaf)
  | array _ items => exact .alike site (.array items)
  | @object _ entries entries' fields =>
      have nodes := Renames.ofJson_object fields
      generalize shape : Node.ofJson (.object entries) = outcome at nodes
      generalize shape' : Node.ofJson (.object entries') = outcome' at nodes
      cases nodes with
      | error same =>
          apply Json.Renamed.alike
          apply Json.Alike.node
          rw [shape, shape']
          exact .error same
      | ok renamed =>
          cases renamed with
          | this => exact .this shape shape'
          | access _ _ bases => exact .access site shape shape' bases
          | wrapper expressions => exact .wrapper shape shape' expressions
          | alike _ alike =>
              apply Json.Renamed.alike
              apply Json.Alike.node
              rw [shape, shape']
              exact .ok alike

end SyntaxFold
