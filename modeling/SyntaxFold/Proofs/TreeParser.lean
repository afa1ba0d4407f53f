import SyntaxFold.Proofs.Normalize
import SyntaxFold.Proofs.System
import SyntaxFold.TreeParser

/-!
# What tree parsers give

A source of trees gives exactly the named tree that belongs to its kind table and its raw tree, and
otherwise the first error among those of the table, of the tree and of the codes. A script parser
gives the data that its program prints before it ends with success. Nothing else that the program
does counts, and every failure is one of three: of the program's start, of its end, or of its
output.
-/

namespace SyntaxFold

namespace TreeSource

variable {trees : TreeSource} {source filename : String}

/-- A normalized tree is the raw tree with the names of the kind table in place of its codes. -/
theorem parseNormalized_eq_ok_iff {named : Json} :
    trees.parseNormalized source filename = .ok named ↔
      ∃ kinds tree, trees.kindTable = .ok kinds ∧ trees.parse source filename = .ok tree ∧
        Json.Named kinds tree named := by
  simp only [parseNormalized, bind_eq_ok_iff, mapError_eq_ok_iff]
  constructor
  · rintro ⟨kinds, table, tree, parsed, normalized⟩
    exact ⟨kinds, tree, table, parsed, Json.named_of_normalize tree normalized⟩
  · rintro ⟨kinds, tree, table, parsed, names⟩
    exact ⟨kinds, table, tree, parsed, Json.normalize_of_named names⟩

/-- The kind table is asked for before the tree, and the codes are looked up last, in document
order. -/
theorem parseNormalized_eq_error_iff {error : ParserError} :
    trees.parseNormalized source filename = .error error ↔
      trees.kindTable = .error error ∨ ∃ kinds, trees.kindTable = .ok kinds ∧
        (trees.parse source filename = .error error ∨
          ∃ tree code, trees.parse source filename = .ok tree ∧
            tree.kindCodes.find? kinds.lacks = some code ∧
              error = .kinds (.unknownKindCode code)) := by
  simp only [parseNormalized, bind_eq_error_iff]
  refine or_congr_right (exists_congr fun kinds => and_congr_right fun _ =>
    or_congr_right (exists_congr fun tree => ?_))
  have unnamed (failure : FoldError) : tree.normalize kinds = .error failure ↔
      ∃ code, tree.kindCodes.find? kinds.lacks = some code ∧ failure = .unknownKindCode code := by
    rw [← Json.verdict_eq_error_iff, Json.verdict_normalize, KindTable.check_eq_error_iff]
  simp only [mapError_eq_error_iff, unnamed]
  constructor
  · rintro ⟨parsed, failure, ⟨code, first, rfl⟩, rfl⟩
    exact ⟨code, parsed, first, rfl⟩
  · rintro ⟨code, parsed, first, rfl⟩
    exact ⟨parsed, _, ⟨code, first, rfl⟩, rfl⟩

end TreeSource

namespace ScriptParser

/-- A program has ended with success, and its output is a text that holds the data. What it wrote to
its errors does not count. -/
def Prints (finished : Finished) (data : Json) : Prop :=
  finished.ending = .exited 0 ∧ ∃ text, finished.output.toString? = some text ∧
    Json.ofText? (some maxJsonNesting) text = some data

theorem ofFinished_eq_ok_iff {finished : Finished} {data : Json} :
    ofFinished finished = .ok data ↔ Prints finished data := by
  rw [ofFinished, Prints, ← Option.bind_eq_some_iff]
  by_cases success : finished.ending = .exited 0
  · rw [if_pos success]
    cases finished.output.toString?.bind (Json.ofText? (some maxJsonNesting)) <;> simp [success]
  · simp [success]

/-- What a program has left is refused because of its end or because of its output. -/
theorem ofFinished_error {finished : Finished} {error : ParserError}
    (refused : ofFinished finished = .error error) :
    (∃ ending errors, ending ≠ .exited 0 ∧ error = .failed ending errors) ∨ error = .output := by
  unfold ofFinished at refused
  split at refused
  · right
    split at refused
    · cases refused
    · exact (Except.error.inj refused).symm
  · rename_i failed
    exact .inl ⟨finished.ending, _, failed, (Except.error.inj refused).symm⟩

variable {σ τ : Type} [System σ] [System τ] (parser : ScriptParser)

/-- A script parser gives data when its program, started with the script behind its arguments,
prints them. -/
theorem run_eq_ok_iff {expression input : String} {state after : σ} {data : Json} :
    parser.run expression input state = (.ok data, after) ↔
      ∃ finished, System.runProgram parser.program (parser.arguments ++ [scriptFor expression])
          input state = (.ok finished, after) ∧ Prints finished data := by
  rw [run, Action.bind_eq_ok_iff]
  simp only [Action.adapt_eq_ok_iff, Action.lift_eq_ok_iff, ofFinished_eq_ok_iff]
  constructor
  · rintro ⟨finished, _, ran, printed, rfl⟩
    exact ⟨finished, ran, printed⟩
  · rintro ⟨finished, ran, printed⟩
    exact ⟨finished, after, ran, printed, rfl⟩

/-- A script parser fails in three ways: its program cannot be run, ends with a failure, or prints
no data. It never complains about kinds. -/
theorem run_error {expression input : String} {state : σ} {error : ParserError}
    (failed : (parser.run expression input state).1 = .error error) :
    (∃ fault, error = .spawn parser.program fault) ∨
      (∃ ending errors, ending ≠ .exited 0 ∧ error = .failed ending errors) ∨
        error = .output := by
  rcases Action.bind_eq_error_iff.1 failed with notRun | ⟨finished, _, _, refused⟩
  · obtain ⟨fault, -, rfl⟩ := mapError_eq_error_iff.1 notRun
    exact .inl ⟨fault, rfl⟩
  · exact .inr (ofFinished_error refused)

/-- In similar systems a script parser gives the same data. -/
theorem run_alike {related : σ → τ → Prop} (similar : System.Similar related)
    (expression input : String) :
    Action.Alike related (parser.run expression input) (parser.run expression input) :=
  ((similar.runProgram _ _ _).adapt _).bind fun finished => Action.alike_lift (ofFinished finished)

end ScriptParser

end SyntaxFold
