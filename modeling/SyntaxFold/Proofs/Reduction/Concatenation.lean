import SyntaxFold.Proofs.Node.Builder
import SyntaxFold.Proofs.Node.Wrapper
import SyntaxFold.Proofs.Reduction.Rule

/-!
# Concatenations

A sum one of whose operands is a text joins the texts of both, and is a text itself. So in a tree of
sums it is enough that each sum has a text or another sum as an operand: then the tree reduces to
the texts of its terms, joined from left to right, however the sums are nested and whatever wrappers
they are in.
-/

namespace SyntaxFold

open BinaryOperator Value

namespace Json

/-- A sum. -/
def IsSum (tree left right : Json) : Prop :=
  Node.ofJson tree = .ok (.binary left "PlusToken" right)

/-- A tree that is neither a sum nor a wrapper. -/
structure IsTerm (tree : Json) : Prop where
  noSum : ∀ left right, ¬ tree.IsSum left right
  noWrapper : ∀ expression, Node.ofJson tree ≠ .ok (.wrapper expression)

theorem isTerm_of_ofJson {tree : Json} {node : Node} (shape : Node.ofJson tree = .ok node)
    (noSum : ∀ left right, node ≠ .binary left "PlusToken" right)
    (noWrapper : ∀ expression, node ≠ .wrapper expression) : tree.IsTerm where
  noSum left right isSum := noSum left right (Except.ok.inj (shape.symm.trans isSum))
  noWrapper expression isWrapper :=
    noWrapper expression (Except.ok.inj (shape.symm.trans isWrapper))

/-- Inside any number of wrappers, the tree is a sum. -/
def HoldsSum (tree : Json) : Prop := ∃ left right, (unwrap tree).IsSum left right

theorem IsSum.holdsSum {tree left right : Json} (isSum : tree.IsSum left right) :
    tree.HoldsSum := by
  refine ⟨left, right, ?_⟩
  rw [unwrap_of_no_wrapper]
  · exact isSum
  · intro expression isWrapper
    cases isSum.symm.trans isWrapper

variable (reduce : Json → Except FoldError Value)

/-- Inside any number of wrappers, the tree is a term whose value is a text, or it is a sum. -/
def IsText (tree : Json) : Prop :=
  tree.HoldsSum ∨ ((unwrap tree).IsTerm ∧ ∃ text, reduce (unwrap tree) = .ok (.string text))

theorem IsTerm.isText {reduce : Json → Except FoldError Value} {tree : Json} {text : String}
    (isTerm : tree.IsTerm) (reduced : reduce tree = .ok (.string text)) :
    tree.IsText reduce := by
  rw [IsText, unwrap_of_no_wrapper isTerm.noWrapper]
  exact Or.inr ⟨isTerm, text, reduced⟩

/-- The tree is made of sums and wrappers over terms that have these values, from left to right.
All values are scalars, and every sum has a text or a sum as an operand. -/
inductive Sums : Json → List Value → Prop
  | term {tree : Json} {value : Value} :
      tree.IsTerm → reduce tree = .ok value → value.isScalar = true → Sums tree [value]
  | wrapper {tree expression : Json} {values : List Value} :
      Node.ofJson tree = .ok (.wrapper expression) → Sums expression values → Sums tree values
  | sum {tree left right : Json} {values others : List Value} :
      tree.IsSum left right → Sums left values → Sums right others →
        left.IsText reduce ∨ right.IsText reduce → Sums tree (values ++ others)

/-- The tree is made of sums in this way, of at least one. -/
def Concatenates (tree : Json) (values : List Value) : Prop :=
  tree.Sums reduce values ∧ tree.HoldsSum

end Json

/-! ## Joining texts -/

/-- A scalar whose text is that of other values, joined from left to right. -/
structure Value.Spells (value : Value) (values : List Value) : Prop where
  scalar : value.isScalar = true
  text : value.display = String.join (values.map display)

/-- A sum with a text on one side joins the texts of both sides. -/
theorem BinaryOperator.plus_of_isString {left right : Value} {values others : List Value}
    (leftSpells : left.Spells values) (rightSpells : right.Spells others)
    (isText : isString left = true ∨ isString right = true) :
    plus left right = .ok (.string (String.join ((values ++ others).map display))) := by
  rw [← Bool.or_eq_true] at isText
  rw [plus, if_pos isText, leftSpells.scalar, rightSpells.scalar,
    leftSpells.text, rightSpells.text, List.map_append, String.join_append]
  rfl

namespace Environment

variable [Host] {environment : Environment} {inside : Json → Except FoldError Value}
variable {mode : Mode} {tree : Json} {values : List Value}

/-- A tree of sums is reduced to a scalar with the texts of the terms, which is a text as soon as
there is a sum. -/
theorem exists_spells_of_sums (full : mode.shallow = false)
    (sums : tree.Sums (environment.reduceWith inside mode) values) :
    ∃ value, environment.reduceWith inside mode tree = .ok value ∧ value.Spells values ∧
      (tree.IsText (environment.reduceWith inside mode) → isString value = true) := by
  induction sums with
  | @term tree value isTerm reduced scalar =>
      refine ⟨value, reduced, ⟨scalar, by simp⟩, ?_⟩
      rw [Json.IsText, Json.HoldsSum, unwrap_of_no_wrapper isTerm.noWrapper]
      rintro (⟨left, right, isSum⟩ | ⟨-, text, isText⟩)
      · exact absurd isSum (isTerm.noSum left right)
      · cases reduced.symm.trans isText
        rfl
  | wrapper shape _ ih =>
      rw [reduceWith_eq_nodeRule shape, nodeRule, Mode.nested_eq_self full, Json.IsText,
        Json.HoldsSum, unwrap_of_wrapper shape]
      exact ih
  | @sum tree left right values others isSum _ _ text leftIh rightIh =>
      obtain ⟨leftValue, leftReduced, leftSpells, leftText⟩ := leftIh
      obtain ⟨rightValue, rightReduced, rightSpells, rightText⟩ := rightIh
      refine ⟨.string (String.join ((values ++ others).map display)), ?_, ⟨rfl, rfl⟩,
        fun _ => rfl⟩
      rw [reduceWith_eq_nodeRule isSum, nodeRule, Mode.nested_eq_self full]
      change (environment.reduceWith inside mode left >>= fun leftValue =>
        environment.reduceWith inside mode right >>= fun rightValue =>
          plus leftValue rightValue) = _
      rw [leftReduced, rightReduced]
      exact plus_of_isString leftSpells rightSpells (text.imp leftText rightText)

/-- A tree of at least one sum is reduced to the texts of the terms, joined from left to right. -/
theorem reduceWith_of_concatenates (full : mode.shallow = false)
    (concatenates : tree.Concatenates (environment.reduceWith inside mode) values) :
    environment.reduceWith inside mode tree =
      .ok (.string (String.join (values.map display))) := by
  obtain ⟨sums, holdsSum⟩ := concatenates
  obtain ⟨value, reduced, spells, text⟩ := exists_spells_of_sums full sums
  have isText := text (Or.inl holdsSum)
  cases value with
  | string found => rw [reduced, ← spells.text]; rfl
  | _ => cases isText

end Environment

/-- The root of a concatenation is no collection, so that it is not left as it is. -/
theorem Json.HoldsSum.not_isCollection {tree : Json} (holdsSum : tree.HoldsSum) {node : Node}
    (shape : Node.ofJson tree = .ok node) : ¬ node.IsCollection := by
  obtain ⟨left, right, isSum⟩ := holdsSum
  cases node with
  | arrayLiteral _ | objectLiteral _ | classDeclaration _ =>
      rw [unwrap_of_no_wrapper] at isSum
      · cases shape.symm.trans isSum
      · intro expression isWrapper
        cases shape.symm.trans isWrapper
  | _ => exact id

/-- A tree of sums, each of which has a text or another sum as an operand, is reduced to the texts
of its terms, joined from left to right, whether calls are resolved or not. So it depends on the
values of the terms and their order alone, and not on how the sums are nested or in which wrappers
they are. -/
theorem Context.reduce_concatenation [Host] :
    (∀ (context : Context) tree values, tree.Concatenates context.nested.reduce values →
      context.reduce tree = .ok (.string (String.join (values.map display)))) ∧
    ∀ (context context' : Context) tree tree' values,
      tree.Concatenates context.nested.reduce values →
        tree'.Concatenates context'.nested.reduce values →
          context.reduce tree = context'.reduce tree' := by
  have joined (context : Context) (tree : Json) (values : List Value)
      (concatenates : tree.Concatenates context.nested.reduce values) :
      context.reduce tree = .ok (.string (String.join (values.map display))) := by
    have single (node : Node) (shape : Node.ofJson tree = .ok node) : ¬ node.IsCollection :=
      concatenates.2.not_isCollection shape
    rw [Context.reduce, Environment.reduceWith_nested single]
    exact Environment.reduceWith_of_concatenates rfl concatenates
  refine ⟨joined, ?_⟩
  intro context context' tree tree' values concatenates concatenates'
  rw [joined context tree values concatenates, joined context' tree' values concatenates']

section Nested

attribute [local instance] Host.closed

/-- Without scopes and without resolving. -/
def literalContext : Context := .initial ⟨.empty, .prelude, .empty⟩

/-- The sum of a text and a number, and that of nothing and of another text and a truth value. -/
def balancedSum : Json :=
  Tree.binary (Tree.binary (Tree.quoted "a") "PlusToken" (Tree.numeral "1")) "PlusToken"
    (Tree.parenthesized (Tree.binary (Tree.node "NullKeyword" []) "PlusToken"
      (Tree.binary (Tree.quoted "b") "PlusToken" (Tree.node "TrueKeyword" []))))

/-- The same terms, added one after the other. -/
def leftSum : Json :=
  Tree.binary (Tree.binary (Tree.binary (Tree.binary (Tree.quoted "a") "PlusToken"
    (Tree.numeral "1")) "PlusToken" (Tree.node "NullKeyword" [])) "PlusToken"
      (Tree.quoted "b")) "PlusToken" (Tree.node "TrueKeyword" [])

theorem Context.reduce_concatenation_nested :
    let values := [.string "a", .integer 1, .null, .string "b", .bool true]
    (balancedSum.Concatenates literalContext.nested.reduce values ∧
      leftSum.Concatenates literalContext.nested.reduce values) ∧
      literalContext.reduce balancedSum = .ok (.string "a1nullbtrue") ∧
        literalContext.reduce leftSum = literalContext.reduce balancedSum := by
  intro values
  have term {tree : Json} {node : Node} {value : Value} (shape : Node.ofJson tree = .ok node)
      (noSum : ∀ left right, node ≠ .binary left "PlusToken" right)
      (noWrapper : ∀ expression, node ≠ .wrapper expression)
      (rule : ∀ reduce whole, literalContext.environment.nodeRule literalContext.nested.inside
        reduce .literal whole node = .ok value) :
      tree.IsTerm ∧ literalContext.nested.reduce tree = .ok value := by
    refine ⟨Json.isTerm_of_ofJson shape noSum noWrapper, ?_⟩
    rw [Context.reduce, Environment.reduceWith_eq_nodeRule shape]
    exact rule _ _
  have sums {tree : Json} {value : Value}
      (term : tree.IsTerm ∧ literalContext.nested.reduce tree = .ok value)
      (scalar : value.isScalar = true) : tree.Sums literalContext.nested.reduce [value] :=
    .term term.1 term.2 scalar
  have a := @term (Tree.quoted "a") _ (.string "a") rfl (by simp) (by simp) fun _ _ => rfl
  have b := @term (Tree.quoted "b") _ (.string "b") rfl (by simp) (by simp) fun _ _ => rfl
  have one := @term (Tree.numeral "1") _ (.integer 1) rfl (by simp) (by simp) fun _ _ => rfl
  have null := @term (Tree.node "NullKeyword" []) _ .null rfl (by simp) (by simp) fun _ _ => rfl
  have yes := @term (Tree.node "TrueKeyword" []) _ (.bool true) rfl (by simp) (by simp)
    fun _ _ => rfl
  have isSum (left right : Json) : (Tree.binary left "PlusToken" right).IsSum left right := rfl
  have sum {left right : Json} {lefts rights : List Value}
      (leftSums : left.Sums literalContext.nested.reduce lefts)
      (rightSums : right.Sums literalContext.nested.reduce rights) :=
    Json.Sums.sum (isSum left right) leftSums rightSums
  have begins := sum (sums a rfl) (sums one rfl) (.inl (a.1.isText a.2))
  have balanced : balancedSum.Concatenates literalContext.nested.reduce values := by
    have ends := sum (sums b rfl) (sums yes rfl) (.inl (b.1.isText b.2))
    have right := sum (sums null rfl) ends (.inr (.inl (isSum _ _).holdsSum))
    refine ⟨?_, (isSum _ _).holdsSum⟩
    exact sum begins (.wrapper rfl right) (.inl (.inl (isSum _ _).holdsSum))
  have leftmost : leftSum.Concatenates literalContext.nested.reduce values := by
    have second := sum begins (sums null rfl) (.inl (.inl (isSum _ _).holdsSum))
    have third := sum second (sums b rfl) (.inl (.inl (isSum _ _).holdsSum))
    refine ⟨?_, (isSum _ _).holdsSum⟩
    exact sum third (sums yes rfl) (.inl (.inl (isSum _ _).holdsSum))
  obtain ⟨joined, same⟩ := Context.reduce_concatenation
  exact ⟨⟨balanced, leftmost⟩, joined _ _ _ balanced, same _ _ _ _ _ leftmost balanced⟩

end Nested

end SyntaxFold
