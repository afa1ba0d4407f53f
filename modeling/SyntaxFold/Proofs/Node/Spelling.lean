import SyntaxFold.Operator
import SyntaxFold.Proofs.Node.Structural
import SyntaxFold.Proofs.Node.Wrapper
import SyntaxFold.Reduction.Member

/-!
# Trees of different parser versions

Parser versions give different names to some kinds, and write the operator of a prefix expression by
code or by name. A `Respelling` relates trees that differ in this way, anywhere in them; it may be a
function, such as `Json.respell`, or treat different places differently. Nodes of such trees are
alike, function literals are recognized as the same formulas, and only errors that quote a kind can
tell the trees apart.
-/

namespace SyntaxFold

open Outcome

/-! ## Names of kinds -/

/-- The names that differ between versions, those of one kind together. -/
def kindAliases : List (List String) :=
  [["FirstLiteralToken", "NumericLiteral"],
    ["FirstTemplateToken", "NoSubstitutionTemplateLiteral", "StringLiteral"],
    ["TypeAssertionExpression", "ParenthesizedExpression"]]

/-- Two names of one kind. -/
def SameKind (kind kind' : String) : Prop :=
  kind = kind' ∨ ∃ names ∈ kindAliases, kind ∈ names ∧ kind' ∈ names

theorem sameKind_self (kind : String) : SameKind kind kind := Or.inl rfl

/-- Names of one kind stand for the same form. -/
theorem SameKind.ofKind?_eq {kind kind' : String} (same : SameKind kind kind') :
    Form.ofKind? kind = Form.ofKind? kind' := by
  rcases same with rfl | ⟨names, listed, member, member'⟩
  · rfl
  · have all : ∀ names ∈ kindAliases, ∀ kind ∈ names, ∀ kind' ∈ names,
        Form.ofKind? kind = Form.ofKind? kind' := by decide
    exact all names listed kind member kind' member'

/-- A kind that stands for no form has one name only. -/
theorem SameKind.eq_of_unknown {kind kind' : String} (same : SameKind kind kind')
    (unknown : Form.ofKind? kind = none) : kind = kind' := by
  rcases same with rfl | ⟨names, listed, member, member'⟩
  · rfl
  · have all : ∀ names ∈ kindAliases, ∀ kind ∈ names, Form.ofKind? kind ≠ none := by decide
    exact absurd unknown (all names listed kind member)

/-- No operator token has another name. -/
theorem SameKind.ofToken?_eq {token token' : String} (same : SameKind token token') :
    BinaryOperator.ofToken? token = BinaryOperator.ofToken? token' := by
  rcases same with rfl | ⟨names, listed, member, member'⟩
  · rfl
  · have all : ∀ names ∈ kindAliases, ∀ kind ∈ names, BinaryOperator.ofToken? kind = none := by
      decide
    rw [all names listed token member, all names listed token' member']

/-! ## Respellings -/

section Respelling

variable (kinds : KindTable) (rewrites : Json → Json → Prop)

/-- What may become of the value of a field: it is rewritten, or it is a kind and gets another name,
or it is the code of a prefix operator and gives way to the name of this code. -/
inductive RespellsField (kind? : Option String) : String → Json → Json → Prop
  | tree {key : String} {value value' : Json} :
      rewrites value value' → RespellsField kind? key value value'
  | kind {kind kind' : String} :
      SameKind kind kind' → RespellsField kind? "kind" (.string kind) (.string kind')
  | operator {operator : Json} {code : Int64} {name : String} :
      kind? = some "PrefixUnaryExpression" → operator.int64? = some code →
        kinds.name? code = some name → RespellsField kind? "operator" operator (.string name)

/-- What may become of a tree, when `rewrites` tells what may become of its parts. -/
inductive RespellsTree : Json → Json → Prop
  | leaf {data : Json} : data.IsLeaf → RespellsTree data data
  | array {items items' : List Json} :
      List.Forall₂ rewrites items items' → RespellsTree (.array items) (.array items')
  | object {entries entries' : List (String × Json)} :
      List.Forall₂ (fun entry entry' => entry.1 = entry'.1 ∧
        RespellsField kinds rewrites (kindOf (.object entries)) entry.1 entry.2 entry'.2)
          entries entries' → RespellsTree (.object entries) (.object entries')

/-- A relation between trees that differ only in the names of kinds and in how prefix operators are
written. -/
def Respelling : Prop := ∀ tree tree', rewrites tree tree' → RespellsTree kinds rewrites tree tree'

end Respelling

variable {kinds : KindTable} {rewrites : Json → Json → Prop}

/-- The variation that a respelling is. -/
def respelling (kinds : KindTable) (rewrites : Json → Json → Prop) : Variation where
  kind := SameKind
  operator operator operator' := prefixOperator kinds operator = prefixOperator kinds operator'
  part := rewrites
  formula := rewrites

namespace RespellsTree

variable {tree tree' : Json} (respells : RespellsTree kinds rewrites tree tree')
include respells

theorem get? (key : String) :
    Option.Rel (RespellsField kinds rewrites (kindOf tree) key) (tree.get? key)
      (tree'.get? key) := by
  cases respells with
  | leaf isLeaf =>
      cases tree with
      | array _ | object _ => exact isLeaf.elim
      | _ => exact .none
  | array _ => exact .none
  | object fields =>
      simp only [Json.get?]
      generalize kindOf _ = kind? at fields ⊢
      induction fields with
      | nil => exact .none
      | @cons entry entry' _ _ head _ ih =>
          obtain ⟨same, field⟩ := head
          simp only [Entries.get?, ← same]
          split
          · next here =>
              rw [← here]
              exact .some field
          · exact ih

end RespellsTree

theorem RespellsField.of_kind {kind? : Option String} {key : String} {value value' : Json}
    (field : RespellsField kinds rewrites kind? key value value') (isKind : key = "kind") :
    rewrites value value' ∨
      ∃ kind kind', value = .string kind ∧ value' = .string kind' ∧ SameKind kind kind' := by
  cases field with
  | tree related => exact Or.inl related
  | kind same => exact Or.inr ⟨_, _, rfl, rfl, same⟩
  | operator _ _ _ => exact absurd isKind (by decide)

theorem RespellsField.of_operator {kind? : Option String} {key : String} {value value' : Json}
    (field : RespellsField kinds rewrites kind? key value value') (isOperator : key = "operator") :
    rewrites value value' ∨ ∃ code name, value.int64? = some code ∧
      kinds.name? code = some name ∧ value' = .string name := by
  cases field with
  | tree related => exact Or.inl related
  | kind _ => exact absurd isOperator (by decide)
  | operator _ isCode named => exact Or.inr ⟨_, _, isCode, named, rfl⟩

/-- A field that holds neither a kind nor a prefix operator is rewritten. -/
theorem RespellsField.tree_of_ne {kind? : Option String} {key : String} {value value' : Json}
    (field : RespellsField kinds rewrites kind? key value value') (notKind : key ≠ "kind")
    (notOperator : key ≠ "operator") : rewrites value value' := by
  cases field with
  | tree related => exact related
  | kind _ => exact absurd rfl notKind
  | operator _ _ _ => exact absurd rfl notOperator

namespace Respelling

variable (rule : Respelling kinds rewrites) {tree tree' : Json}
include rule

theorem get? (related : rewrites tree tree') {key : String} (notKind : key ≠ "kind")
    (notOperator : key ≠ "operator") :
    Option.Rel rewrites (tree.get? key) (tree'.get? key) := by
  have found := (rule tree tree' related).get? key
  exact option_rel_imp found fun _ _ field => field.tree_of_ne notKind notOperator

theorem string?_eq (related : rewrites tree tree') : tree.string? = tree'.string? := by
  cases rule tree tree' related <;> rfl

theorem array? (related : rewrites tree tree') :
    Option.Rel (List.Forall₂ rewrites) tree.array? tree'.array? := by
  cases rule tree tree' related with
  | leaf isLeaf =>
      cases tree with
      | array _ | object _ => exact isLeaf.elim
      | _ => exact .none
  | array items => exact .some items
  | object _ => exact .none

theorem kindOf (related : rewrites tree tree') :
    Option.Rel SameKind (kindOf tree) (kindOf tree') := by
  refine option_rel_bind ((rule tree tree' related).get? "kind") fun value value' field => ?_
  rcases field.of_kind rfl with related | ⟨kind, kind', rfl, rfl, same⟩
  · rw [rule.string?_eq related]
    exact option_rel_self sameKind_self _
  · exact .some same

theorem structural : (respelling kinds rewrites).Structural where
  string?_eq _ _ := rule.string?_eq
  array? _ _ := rule.array?
  kindOf _ _ := rule.kindOf
  get? _ _ key related other := by
    simp only [List.mem_cons, List.not_mem_nil, or_false, not_or] at other
    exact rule.get? related other.1 other.2.1

theorem prefixOperator_eq {kind? : Option String} {operator operator' : Json}
    (field : RespellsField kinds rewrites kind? "operator" operator operator') :
    prefixOperator kinds operator = prefixOperator kinds operator' := by
  rcases field.of_operator rfl with related | ⟨code, name, isCode, named, rfl⟩
  · cases rule _ _ related <;> rfl
  · cases operator with
    | integer value => simp only [prefixOperator, isCode, KindTable.name, named]
    | _ => cases isCode

/-- What may become of a field differs as the role of the field allows. -/
theorem roleAlike {form : Form} {kind? : Option String} {key : String}
    {found found' : Option Json}
    (field : Option.Rel (RespellsField kinds rewrites kind? key) found found') :
    (form.role key).Alike (respelling kinds rewrites) found found' := by
  by_cases isOperator : form.role key = .operator
  · obtain rfl := Form.eq_operator_of_role isOperator
    rw [isOperator]
    exact option_rel_imp field fun _ _ => rule.prefixOperator_eq
  by_cases unread : form.role key = .unread
  · rw [unread]
    trivial
  -- Neither a kind nor a prefix operator is read from any other field.
  apply rule.structural.roleAlike (fun _ _ => id) _ isOperator
  have notKind : key ≠ "kind" := by
    rintro rfl
    exact unread form.role_kind
  have notOperator : key ≠ "operator" := by
    rintro rfl
    exact form.role_operator.elim isOperator unread
  exact option_rel_imp field fun _ _ field => field.tree_of_ne notKind notOperator

end Respelling

/-! ## Errors -/

/-- An error on both sides that differs at most in the name of a kind that it quotes. -/
inductive FoldError.Respelled : FoldError → FoldError → Prop
  | self (error : FoldError) : Respelled error error
  | malformed {kind kind' : String} (field : String) :
      SameKind kind kind' → Respelled (.malformedNode kind field) (.malformedNode kind' field)
  | unimplemented {token token' : String} :
      SameKind token token' →
        Respelled (.unimplementedOperator token .binary) (.unimplementedOperator token' .binary)

namespace Respelling

variable (rule : Respelling kinds rewrites) {tree tree' : Json}
include rule

theorem ofJson_of_sameKind (related : rewrites tree tree') {kind kind' : String}
    (isKind : tree.get? "kind" = some (.string kind))
    (isKind' : tree'.get? "kind" = some (.string kind')) (same : SameKind kind kind') :
    Agrees (Node.Alike (respelling kinds rewrites)) FoldError.Respelled (Node.ofJson tree)
      (Node.ofJson tree') := by
  cases known : Form.ofKind? kind with
  | none =>
      obtain rfl := same.eq_of_unknown known
      simp only [Node.ofJson, isKind, isKind', known]
      exact .error (.self _)
  | some form =>
      have known' : Form.ofKind? kind' = some form := same.ofKind?_eq ▸ known
      refine Node.ofJson_alike isKind isKind' known known' (fun field => .malformed field same) ?_
      exact fun key => rule.roleAlike ((rule tree tree' related).get? key)

/-- The nodes of rewritten trees are alike. -/
theorem ofJson (related : rewrites tree tree') :
    Agrees (Node.Alike (respelling kinds rewrites)) FoldError.Respelled (Node.ofJson tree)
      (Node.ofJson tree') := by
  have isKind := (rule tree tree' related).get? "kind"
  generalize found : tree.get? "kind" = value at isKind
  generalize found' : tree'.get? "kind" = value' at isKind
  cases isKind with
  | none =>
      simp only [Node.ofJson, found, found']
      exact .error (.self _)
  | @some value value' field =>
      rcases field.of_kind rfl with inner | ⟨kind, kind', rfl, rfl, same⟩
      · cases rule _ _ inner with
        | leaf isLeaf =>
            cases value with
            | string kind => exact rule.ofJson_of_sameKind related found found' (sameKind_self kind)
            | _ =>
                simp only [Node.ofJson, found, found']
                exact .error (.self _)
        | array _ | object _ =>
            simp only [Node.ofJson, found, found']
            exact .error (.self _)
      · exact rule.ofJson_of_sameKind related found found' same

theorem alike (related : rewrites tree tree') :
    Json.Alike (respelling kinds rewrites) FoldError.Respelled tree tree' := by
  have node := rule.ofJson related
  cases rule tree tree' related with
  | leaf isLeaf => exact .leaf isLeaf
  | array items => exact .array items
  | object _ => exact .node node

end Respelling

/-! ## Function literals -/

namespace Respelling

variable (rule : Respelling kinds rewrites) {tree tree' : Json}
include rule

theorem unwrap (related : rewrites tree tree') :
    rewrites (SyntaxFold.unwrap tree) (SyntaxFold.unwrap tree') := by
  fun_induction SyntaxFold.unwrap tree generalizing tree' with
  | case1 node expression shape _ ih =>
      have nodes := rule.ofJson related
      rw [shape] at nodes
      generalize shape' : Node.ofJson tree' = outcome at nodes
      cases nodes with
      | ok alike =>
          cases alike with
          | wrapper expressions =>
              rw [unwrap_of_wrapper shape']
              exact ih expressions
  | case2 node single =>
      have single' : ∀ expression, Node.ofJson tree' ≠ .ok (.wrapper expression) := by
        intro expression shape'
        have nodes := rule.ofJson related
        rw [shape'] at nodes
        generalize shape : Node.ofJson node = outcome at nodes
        cases nodes with
        | ok alike =>
            cases alike with
            | wrapper expressions => exact single _ shape
      rw [unwrap_of_no_wrapper single']
      exact related

theorem isIdentifier_eq (related : rewrites tree tree') (name : String) :
    isIdentifier name tree = isIdentifier name tree' := by
  have nodes := rule.ofJson related
  unfold isIdentifier
  generalize Node.ofJson tree = outcome at nodes ⊢
  generalize Node.ofJson tree' = outcome' at nodes ⊢
  cases nodes with
  | error _ => rfl
  | ok alike => cases alike <;> rfl

/-- A rewritten tree calls the same logarithm. -/
theorem logarithmOf?_eq (related : rewrites tree tree') (parameter : String) :
    Formula.logarithmOf? parameter tree = Formula.logarithmOf? parameter tree' := by
  have nodes := rule.ofJson (rule.unwrap related)
  unfold Formula.logarithmOf?
  generalize Node.ofJson (SyntaxFold.unwrap tree) = outcome at nodes ⊢
  generalize Node.ofJson (SyntaxFold.unwrap tree') = outcome' at nodes ⊢
  cases nodes with
  | error _ => rfl
  | ok alike =>
      cases alike with
      | @call callee callee' _ _ callees arguments =>
          cases arguments with
          | nil => rfl
          | cons argument rest =>
              cases rest with
              | cons _ _ => rfl
              | nil =>
                  have nodes := rule.ofJson callees
                  dsimp only
                  generalize Node.ofJson callee = outcome at nodes ⊢
                  generalize Node.ofJson callee' = outcome' at nodes ⊢
                  cases nodes with
                  | error _ => rfl
                  | ok alike =>
                      cases alike with
                      | propertyAccess name objects =>
                          simp only [rule.isIdentifier_eq objects, rule.isIdentifier_eq argument]
                      | _ => rfl
      | _ => rfl

/-- A rewritten product has rewritten sides. -/
theorem product? (related : rewrites tree tree') :
    Option.Rel (fun sides sides' => rewrites sides.1 sides'.1 ∧ rewrites sides.2 sides'.2)
      (Formula.product? tree) (Formula.product? tree') := by
  have nodes := rule.ofJson (rule.unwrap related)
  unfold Formula.product?
  generalize Node.ofJson (SyntaxFold.unwrap tree) = outcome at nodes ⊢
  generalize Node.ofJson (SyntaxFold.unwrap tree') = outcome' at nodes ⊢
  cases nodes with
  | error _ => exact .none
  | ok alike =>
      cases alike with
      | @binary _ _ _ _ token token' lefts tokens rights =>
          by_cases times : token = "AsteriskToken"
          · subst times
            obtain rfl := tokens.eq_of_unknown rfl
            exact .some ⟨lefts, rights⟩
          · have times' : token' ≠ "AsteriskToken" := by
              rintro rfl
              exact times (tokens.eq_of_unknown tokens.ofKind?_eq)
            split
            · next shape =>
                cases shape
                exact absurd rfl times
            · split
              · next shape =>
                  cases shape
                  exact absurd rfl times'
              · exact .none
      | _ => exact .none

/-- Rewritten function literals are the same formulas, with rewritten factors. -/
theorem recognize {parameters parameters' : List Json} {body body' : Json}
    (eachParameter : List.Forall₂ rewrites parameters parameters') (bodies : rewrites body body') :
    Agrees (fun found found' => found.1 = found'.1 ∧ rewrites found.2 found'.2) (· = ·)
      (Formula.recognize parameters body) (Formula.recognize parameters' body') :=
  rule.structural.recognize (fun _ _ => rule.product?)
    (fun parameter _ _ related => rule.logarithmOf?_eq related parameter) eachParameter bodies

end Respelling

/-! ## Respelling everything -/

/-- What becomes of a field that holds a kind or the code of a prefix operator. -/
def respelledField? (spelling : String → String) (kinds : KindTable) (kind? : Option String) :
    String → Json → Option Json
  | "kind", .string kind => some (.string (spelling kind))
  | "operator", operator =>
      if kind? = some "PrefixUnaryExpression" then
        (operator.int64?.bind kinds.name?).map .string
      else none
  | _, _ => none

namespace Json

mutual

/-- Gives every kind in a tree another name, and every code of a prefix operator its name. -/
def respell (spelling : String → String) (kinds : KindTable) : Json → Json
  | array items => array (respellItems spelling kinds items)
  | object entries => object (respellEntries spelling kinds (kindOf (object entries)) entries)
  | data => data

/-- Respells the items of an array. -/
def respellItems (spelling : String → String) (kinds : KindTable) : List Json → List Json
  | [] => []
  | item :: rest => respell spelling kinds item :: respellItems spelling kinds rest

/-- Respells the fields of an object of a kind. -/
def respellEntries (spelling : String → String) (kinds : KindTable) (kind? : Option String) :
    List (String × Json) → List (String × Json)
  | [] => []
  | (key, value) :: rest =>
      (key, (respelledField? spelling kinds kind? key value).getD (respell spelling kinds value)) ::
        respellEntries spelling kinds kind? rest

end

end Json

section Respell

variable {spelling : String → String}

theorem respellsField_of_respelledField? (same : ∀ kind, SameKind kind (spelling kind))
    {kind? : Option String} {key : String} {value value' : Json}
    (found : respelledField? spelling kinds kind? key value = some value') :
    RespellsField kinds rewrites kind? key value value' := by
  unfold respelledField? at found
  split at found
  · cases found
    exact .kind (same _)
  · split at found
    · next isPrefix =>
        obtain ⟨name, named, rfl⟩ := Option.map_eq_some_iff.1 found
        obtain ⟨code, isCode, named⟩ := Option.bind_eq_some_iff.1 named
        exact .operator isPrefix isCode named
    · cases found
  · cases found

/-- Respelling everything is a respelling. -/
theorem respelling_respell (kinds : KindTable) (same : ∀ kind, SameKind kind (spelling kind)) :
    Respelling kinds fun tree tree' => tree.respell spelling kinds = tree' := by
  rintro tree _ rfl
  cases tree with
  | array items =>
      rw [Json.respell]
      refine .array ?_
      induction items with
      | nil => exact .nil
      | cons item rest ih => exact .cons rfl ih
  | object entries =>
      rw [Json.respell]
      refine .object ?_
      generalize kindOf _ = kind?
      induction entries with
      | nil => exact .nil
      | cons entry rest ih =>
          refine .cons ⟨rfl, ?_⟩ ih
          cases found : respelledField? spelling kinds kind? entry.1 entry.2 with
          | some value => exact respellsField_of_respelledField? same found
          | none => exact .tree rfl
  | _ => exact .leaf trivial

end Respell

end SyntaxFold
