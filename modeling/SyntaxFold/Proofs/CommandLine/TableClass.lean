import SyntaxFold.CommandLine.Execution
import SyntaxFold.Proofs.Json.Places
import SyntaxFold.Proofs.Node.Builder
import SyntaxFold.Proofs.Outcome

/-!
# The class of a table

Without a name the class of a table is the first class in document order, wherever in the tree it
is; with a name it is the first top-level class of this name. If the first class in document order
is a top-level statement, then no top-level class comes before it, so both ways find it.
-/

namespace SyntaxFold

namespace Declaration

open Json

/-- The top-level statement of a source file at a place, which consists of the position of the
field and the position of the statement in it. -/
def StatementAt (sourceFile : Json) (place : List Nat) (statement : Json) : Prop :=
  ∃ fields statements position, sourceFile = .object fields ∧
    Entries.get? "statements" fields = some (.array statements) ∧
      statements[position]? = some statement ∧
        place = [(fields.map Prod.fst).idxOf "statements", position]

/-- Every top-level statement stands at its place in the tree. -/
theorem StatementAt.at? {sourceFile statement : Json} {place : List Nat}
    (stands : StatementAt sourceFile place statement) :
    sourceFile.at? place = some statement := by
  obtain ⟨fields, statements, position, rfl, listed, found, rfl⟩ := stands
  have field := Entries.getElem?_values_of_get? listed
  change ((Entries.values fields)[_]?.bind (Json.at? [position])) = _
  rw [field]
  change (statements[position]?.bind (Json.at? [])) = _
  rw [found]
  rfl

/-- If the first class in document order is a top-level statement, then it is the first top-level
class of its name. -/
theorem findClass_of_first_occurrence {sourceFile classNode : Json} {place : List Nat}
    {name : String}
    (heads : (sourceFile.occurrences "ClassDeclaration").head? = some (place, classNode))
    (stands : StatementAt sourceFile place classNode)
    (named : declarationName classNode = some name) :
    findClass name sourceFile = .ok classNode := by
  have isClass := (mem_occurrences_iff.1 (List.mem_of_head? heads)).2
  obtain ⟨fields, topLevel, position, rfl, listed, found, rfl⟩ := stands
  have first : (topLevel.find? fun node =>
      kindOf node == some "ClassDeclaration" && declarationName node == some name) =
        some classNode := by
    obtain ⟨inside, here⟩ := List.getElem?_eq_some_iff.1 found
    apply List.find?_eq_some_iff_getElem.2
    refine ⟨by simp [isClass, named], position, inside, here, ?_⟩
    -- A class at an earlier position would come earlier in document order.
    intro earlier before
    by_contra wanted
    simp only [Bool.not_eq_true', Bool.not_eq_false, Bool.and_eq_true, beq_iff_eq] at wanted
    have stands : StatementAt (.object fields)
        [(fields.map Prod.fst).idxOf "statements", earlier] topLevel[earlier] :=
      ⟨fields, topLevel, earlier, rfl, listed, List.getElem?_eq_getElem _, rfl⟩
    have occurs := mem_occurrences_iff.2 ⟨stands.at?, wanted.1⟩
    rcases eq_or_lt_of_head?_occurrences heads occurs with same | later
    · cases same
      exact Nat.lt_irrefl _ before
    · have sameField := (List.cons_lt_cons_iff.1 later).resolve_left (Nat.lt_irrefl _)
      rcases List.cons_lt_cons_iff.1 sameField.2 with sooner | ⟨-, impossible⟩
      · exact Nat.lt_asymm before sooner
      · cases impossible
  have isStatements : statements (.object fields) = .ok topLevel :=
    requireArray_eq_ok_iff.2 listed
  simp only [findClass, findStatement, isStatements, ok_bind, first]

end Declaration

namespace CommandLine

open Json

/-- A search for a kind finds the first among all objects of the kind in the tree, in document
order, and fails only if there are none. So if the first class of a source file is one of its
top-level statements and has a name, then a table is extracted from this class both without a name
and with this one. -/
theorem search_in_document_order :
    (∀ (kind : String) (tree : Json),
      (∀ place inner, (place, inner) ∈ tree.occurrences kind ↔
        tree.at? place = some inner ∧ kindOf inner = some kind) ∧
      ((tree.occurrences kind).Pairwise fun earlier later => earlier.1 < later.1) ∧
      tree.firstOfKind? kind = (tree.occurrences kind).head?.map Prod.snd ∧
      (tree.firstOfKind? kind = none ↔ tree.occurrences kind = [])) ∧
    ∀ (path : String) (sourceFile : Json) place classNode name,
      (sourceFile.occurrences "ClassDeclaration").head? = some (place, classNode) →
        Declaration.StatementAt sourceFile place classNode →
          declarationName classNode = some name →
            tableClass path none sourceFile = .ok classNode ∧
              tableClass path (some name) sourceFile = .ok classNode := by
  constructor
  · intro kind tree
    refine ⟨fun _ _ => mem_occurrences_iff, (pairwise_located tree).filter _,
      firstOfKind?_eq_head? kind tree, ?_⟩
    rw [firstOfKind?_eq_head?, Option.map_eq_none_iff, List.head?_eq_none_iff]
  · intro path sourceFile place classNode name heads stands named
    have byKind : sourceFile.firstOfKind? "ClassDeclaration" = some classNode := by
      rw [firstOfKind?_eq_head?, heads, Option.map_some]
    have byName := Declaration.findClass_of_first_occurrence heads stands named
    constructor
    · simp only [tableClass, byKind]
    · simp only [tableClass, byName, Except.mapError]

/-- A source file whose first class holds another one and is followed by a namesake. -/
def nestedClasses : Json :=
  Tree.sourceFile
    [Tree.numeral "1",
      Tree.classDeclaration "Config" [Tree.property "inner" (Tree.classDeclaration "Inner" [])],
      Tree.classDeclaration "Other" [], Tree.classDeclaration "Config" []]

theorem search_in_document_order_nested :
    let classNode :=
      Tree.classDeclaration "Config" [Tree.property "inner" (Tree.classDeclaration "Inner" [])]
    ((nestedClasses.occurrences "ClassDeclaration").map Prod.fst =
        [[1, 1], [1, 1, 2, 0, 2], [1, 2], [1, 3]] ∧
      (nestedClasses.occurrences "ClassDeclaration").head? = some ([1, 1], classNode) ∧
        Declaration.StatementAt nestedClasses [1, 1] classNode ∧
          declarationName classNode = some "Config") ∧
      tableClass "tree.json" none nestedClasses = .ok classNode ∧
        tableClass "tree.json" (some "Config") nestedClasses = .ok classNode := by
  intro classNode
  have places : (nestedClasses.occurrences "ClassDeclaration").map Prod.fst =
      [[1, 1], [1, 1, 2, 0, 2], [1, 2], [1, 3]] := by
    rfl
  have heads : (nestedClasses.occurrences "ClassDeclaration").head? =
      some ([1, 1], classNode) := by
    rfl
  have stands : Declaration.StatementAt nestedClasses [1, 1] classNode :=
    ⟨_, _, 1, rfl, rfl, rfl, rfl⟩
  have named : declarationName classNode = some "Config" := rfl
  refine ⟨⟨places, heads, stands, named⟩, ?_⟩
  exact search_in_document_order.2 "tree.json" nestedClasses _ _ _ heads stands named

end CommandLine

end SyntaxFold
