import Mathlib.Logic.Relation
import SyntaxFold.Formula

/-!
# Parts, subtrees and height

`Json.parts` lists the parts of a tree that the rule of its root reduces, in order of the source.
They are proper subtrees: nothing is put together anew on the way, not even where wrappers are
looked through or a formula is taken apart. So every part is lower than its tree, and whatever
follows for a tree from its parts holds of every tree (`Json.parts_induction`).
-/

namespace SyntaxFold

/-! ## Parts -/

/-- The parts of a property that are reduced: its name and what it is initialized with. -/
def propertyParts (property : Json) : List Json :=
  (property.get? "name").toList ++ (property.get? "initializer").toList

/-- The parts of a node that its own rule reduces. -/
def Node.parts : Node → List Json
  | arrayLiteral elements => elements
  | objectLiteral properties | classDeclaration properties => properties.flatMap propertyParts
  | prefixUnary _ operand => [operand]
  | binary left _ right => [left, right]
  | wrapper expression => [expression]
  | call callee arguments => callee :: arguments
  | propertyAccess expression _ => [expression]
  | elementAccess expression argument => [expression, argument]
  | arrowFunction parameters body =>
      match Formula.recognize parameters body with
      | .ok (_, factor) => [factor]
      | .error _ => []
  | _ => []

/-- The parts of a tree that are reduced along with it. -/
def Json.parts : Json → List Json
  | .array items => items
  | .object entries =>
      match Node.ofJson (.object entries) with
      | .ok node => node.parts
      | .error _ => []
  | _ => []

theorem mem_propertyParts_of_name {kind : String} {property name : Json}
    (named : requireField kind "name" property = .ok name) : name ∈ propertyParts property := by
  simp [propertyParts, require_eq_ok_iff.1 named]

theorem mem_propertyParts_of_initializer {kind : String} {property initializer : Json}
    (initialized : requireField kind "initializer" property = .ok initializer) :
    initializer ∈ propertyParts property := by
  simp [propertyParts, require_eq_ok_iff.1 initialized]

theorem Json.parts_of_ofJson {data : Json} {node : Node} (shape : Node.ofJson data = .ok node) :
    data.parts = node.parts := by
  cases data with
  | object entries => simp only [parts, shape]
  | _ => cases shape

theorem Json.mem_parts_of_wrapper {data expression : Json}
    (shape : Node.ofJson data = .ok (.wrapper expression)) : expression ∈ data.parts := by
  simp [parts_of_ofJson shape, Node.parts]

theorem Json.mem_parts_of_access {data expression : Json} {property : String}
    (shape : Node.ofJson data = .ok (.propertyAccess expression property)) :
    expression ∈ data.parts := by
  simp [parts_of_ofJson shape, Node.parts]

/-! ## Subtrees -/

namespace Json

/-- The first tree is an item or the value of a field of the second. -/
inductive Child : Json → Json → Prop
  | item {item : Json} {items : List Json} : item ∈ items → Child item (.array items)
  | field {key : String} {value tree : Json} : tree.get? key = some value → Child value tree

/-- The first tree is a proper subtree of the second. -/
def Below : Json → Json → Prop := Relation.TransGen Child

/-- The first tree is a subtree of the second, which may be the second itself. -/
def Within : Json → Json → Prop := Relation.ReflTransGen Child

variable {tree value : Json} {items : List Json} {kind key : String}

theorem below_of_get? (found : tree.get? key = some value) : value.Below tree :=
  .single (.field found)

theorem below_of_requireField (found : requireField kind key tree = .ok value) :
    value.Below tree :=
  below_of_get? (require_eq_ok_iff.1 found)

theorem below_of_requireArray (found : requireArray kind key tree = .ok items) {item : Json}
    (member : item ∈ items) : item.Below tree :=
  .tail (.single (.item member)) (.field (requireArray_eq_ok_iff.1 found))

theorem below_of_mem_propertyParts {property part : Json}
    (member : part ∈ propertyParts property) : part.Below property := by
  simp only [propertyParts, List.mem_append, Option.mem_toList] at member
  rcases member with found | found
  · exact below_of_get? found
  · exact below_of_get? found

end Json

/-- The syntax trees that a node consists of. -/
def Node.children : Node → List Json
  | arrayLiteral items | objectLiteral items | classDeclaration items => items
  | prefixUnary _ operand => [operand]
  | binary left _ right => [left, right]
  | wrapper expression | propertyAccess expression _ => [expression]
  | call callee arguments => callee :: arguments
  | elementAccess expression argument => [expression, argument]
  | arrowFunction _ body => [body]
  | _ => []

theorem Node.below_of_read {kind : String} {tree : Json} {form : Form} {node : Node}
    (shape : Node.read kind tree form = .ok node) : ∀ child ∈ node.children, child.Below tree := by
  cases form with
  | arrayLiteral | objectLiteral | classDeclaration =>
      rcases map_eq_ok_iff.1 shape with ⟨items, found, rfl⟩
      intro child member
      exact Json.below_of_requireArray found member
  | wrapper =>
      rcases map_eq_ok_iff.1 shape with ⟨expression, found, rfl⟩
      simpa [children] using Json.below_of_requireField found
  | prefixUnary =>
      rcases bind_eq_ok_iff.1 shape with ⟨operator, -, rest⟩
      rcases bind_eq_ok_iff.1 rest with ⟨operand, found, same⟩
      cases same
      simpa [children] using Json.below_of_requireField found
  | binary =>
      rcases bind_eq_ok_iff.1 shape with ⟨left, leftFound, rest⟩
      rcases bind_eq_ok_iff.1 rest with ⟨operator, -, rest⟩
      rcases bind_eq_ok_iff.1 rest with ⟨right, rightFound, same⟩
      cases same
      simpa [children] using
        And.intro (Json.below_of_requireField leftFound) (Json.below_of_requireField rightFound)
  | call =>
      rcases bind_eq_ok_iff.1 shape with ⟨callee, calleeFound, rest⟩
      rcases bind_eq_ok_iff.1 rest with ⟨arguments, argumentsFound, same⟩
      cases same
      simp only [children, List.forall_mem_cons]
      constructor
      · exact Json.below_of_requireField calleeFound
      · intro argument member
        exact Json.below_of_requireArray argumentsFound member
  | propertyAccess =>
      rcases bind_eq_ok_iff.1 shape with ⟨expression, found, rest⟩
      rcases bind_eq_ok_iff.1 rest with ⟨name, -, same⟩
      cases same
      simpa [children] using Json.below_of_requireField found
  | elementAccess =>
      rcases bind_eq_ok_iff.1 shape with ⟨expression, expressionFound, rest⟩
      rcases bind_eq_ok_iff.1 rest with ⟨argument, argumentFound, same⟩
      cases same
      simpa [children] using And.intro (Json.below_of_requireField expressionFound)
        (Json.below_of_requireField argumentFound)
  | arrowFunction =>
      rcases bind_eq_ok_iff.1 shape with ⟨parameters, -, rest⟩
      rcases bind_eq_ok_iff.1 rest with ⟨body, found, same⟩
      cases same
      simpa [children] using Json.below_of_requireField found
  | identifier | stringLiteral | numericLiteral =>
      rcases map_eq_ok_iff.1 shape with ⟨text, -, rfl⟩
      simp [children]
  | trueKeyword | falseKeyword | nullKeyword | thisKeyword | template =>
      cases shape
      simp [children]

/-- What a node consists of lies in the tree that it was read from. -/
theorem Node.below_of_ofJson {tree : Json} {node : Node} (shape : Node.ofJson tree = .ok node) :
    ∀ child ∈ node.children, child.Below tree := by
  obtain ⟨kind, form, -, -, read⟩ := Node.exists_read_of_ofJson shape
  exact below_of_read read

theorem within_unwrap (tree : Json) : (unwrap tree).Within tree := by
  fun_induction unwrap tree with
  | case1 tree expression shape smaller ih =>
      have below : expression.Below tree := Node.below_of_ofJson shape expression List.mem_cons_self
      exact ih.trans below.to_reflTransGen
  | case2 => exact .refl

/-- The factor of a formula is one of the two sides of its product. -/
theorem Formula.below_of_recognize {parameters : List Json} {body factor : Json} {base : LogBase}
    (recognized : recognize parameters body = .ok (base, factor)) : factor.Below body := by
  unfold recognize at recognized
  split at recognized
  · split at recognized
    · cases recognized
    · split at recognized
      · cases recognized
      · next left right isProduct =>
          unfold product? at isProduct
          split at isProduct
          · next shape =>
              cases isProduct
              have sides := Node.below_of_ofJson shape
              simp only [Node.children, List.forall_mem_cons] at sides
              split at recognized
              · cases recognized
                exact sides.2.1.trans_left (within_unwrap body)
              · cases recognized
                exact sides.1.trans_left (within_unwrap body)
              · cases recognized
          · cases isProduct
  · cases recognized

/-- The parts that the rule of a node reduces lie below what the node consists of, or are that. -/
theorem Node.below_of_mem_parts {node : Node} {tree : Json}
    (children : ∀ child ∈ node.children, child.Below tree) {part : Json}
    (member : part ∈ node.parts) : part.Below tree := by
  cases node with
  | objectLiteral properties | classDeclaration properties =>
      rcases List.mem_flatMap.1 member with ⟨property, listed, inProperty⟩
      exact (Json.below_of_mem_propertyParts inProperty).trans (children property listed)
  | arrowFunction parameters body =>
      simp only [parts] at member
      split at member
      · next recognized =>
          cases List.mem_singleton.1 member
          exact (Formula.below_of_recognize recognized).trans (children body List.mem_cons_self)
      · cases member
  | _ => exact children part member

namespace Json

/-- The parts of a tree are proper subtrees. -/
theorem below_of_mem_parts {tree part : Json} (member : part ∈ tree.parts) : part.Below tree := by
  cases tree with
  | array items => exact .single (.item member)
  | object entries =>
      simp only [parts] at member
      split at member
      · next shape => exact Node.below_of_mem_parts (Node.below_of_ofJson shape) member
      · cases member
  | _ => cases member

/-! ## Height -/

mutual

/-- How many levels a tree has. A scalar has one, and so has an empty container. -/
def height : Json → Nat
  | array items => itemsHeight items + 1
  | object entries => entriesHeight entries + 1
  | _ => 1

/-- The height of the highest of several trees. -/
def itemsHeight : List Json → Nat
  | [] => 0
  | item :: rest => max (height item) (itemsHeight rest)

/-- The height of the highest value of several entries. -/
def entriesHeight : List (String × Json) → Nat
  | [] => 0
  | (_, value) :: rest => max (height value) (entriesHeight rest)

end

theorem height_pos (tree : Json) : 0 < tree.height := by
  cases tree <;> simp [height]

theorem height_le_of_mem {item : Json} {items : List Json} (member : item ∈ items) :
    item.height ≤ itemsHeight items := by
  induction member with
  | head rest => exact Nat.le_max_left _ _
  | tail _ _ ih => exact Nat.le_trans ih (Nat.le_max_right _ _)

theorem height_le_of_get? {key : String} {value : Json} {entries : List (String × Json)}
    (found : Entries.get? key entries = some value) : value.height ≤ entriesHeight entries := by
  induction entries with
  | nil => cases found
  | cons entry rest ih =>
      simp only [Entries.get?] at found
      split at found
      · cases found
        exact Nat.le_max_left _ _
      · exact Nat.le_trans (ih found) (Nat.le_max_right _ _)

theorem Child.height_lt {child tree : Json} (isChild : child.Child tree) :
    child.height < tree.height := by
  cases isChild with
  | item member =>
      rw [height]
      exact Nat.lt_succ_of_le (height_le_of_mem member)
  | @field key value tree found =>
      cases tree with
      | object entries =>
          rw [height]
          exact Nat.lt_succ_of_le (height_le_of_get? found)
      | _ => cases found

/-- A proper subtree is lower than the tree. -/
theorem Below.height_lt {inner tree : Json} (below : inner.Below tree) :
    inner.height < tree.height := by
  induction below with
  | single isChild => exact isChild.height_lt
  | tail _ isChild ih => exact Nat.lt_trans ih isChild.height_lt

/-- What holds of a tree whenever it holds of its parts holds of every tree. -/
theorem parts_induction {motive : Json → Prop}
    (step : ∀ data : Json, (∀ part ∈ data.parts, motive part) → motive data) (data : Json) :
    motive data :=
  step data fun part _ => parts_induction step part
termination_by data.height
decreasing_by exact (below_of_mem_parts ‹_›).height_lt

end Json

end SyntaxFold
