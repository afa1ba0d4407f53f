import SyntaxFold.CommandLine.Execution
import SyntaxFold.Proofs.TreeParser

/-!
# What commands do in any system

A command that only reads leaves the system as it is, and what it prints depends on nothing but the
texts of the files that it names. A command that parses starts its parser only when the source can
be read, and prints the data that the parser prints. In systems that no request can tell apart the
whole command line does the same. A run prints data or reports a problem, never both and never
neither.
-/

namespace SyntaxFold.CommandLine

variable {σ τ : Type}

/-! ## What is left behind -/

namespace Ending

/-- What is seen of two runs from outside is the same. -/
def LooksLike (ending : Ending σ) (other : Ending τ) : Prop :=
  ending.exitCode = other.exitCode ∧ ending.output = other.output ∧ ending.errors = other.errors

@[simp] theorem state_ofOutcome (outcome : Except Failure String) (state : σ) :
    (ofOutcome outcome state).state = state := by
  cases outcome <;> rfl

theorem looksLike_ofOutcome (outcome : Except Failure String) (state : σ) (other : τ) :
    (ofOutcome outcome state).LooksLike (ofOutcome outcome other) := by
  cases outcome <;> exact ⟨rfl, rfl, rfl⟩

end Ending

variable [System σ] [System τ]

/-! ## Reading files -/

/-- The system gives a text for a file, and the text holds the data. -/
def FileHolds (state : σ) (path : String) (data : Json) : Prop :=
  ∃ text, System.readText state path = .ok text ∧
    Json.ofText? (some maxJsonNesting) text = some data

theorem readData_eq_ok_iff {state : σ} {path : String} {data : Json} :
    readData state path = .ok data ↔ FileHolds state path data := by
  simp only [readData, readText, bind_eq_ok_iff, mapError_eq_ok_iff, FileHolds]
  refine exists_congr fun text => and_congr_right fun _ => ?_
  cases Json.ofText? (some maxJsonNesting) text <;> simp

theorem readKinds_eq_ok_iff {state : σ} {path : String} {kinds : KindTable} :
    readKinds state path = .ok kinds ↔
      ∃ dump, FileHolds state path dump ∧ KindTable.ofDump dump = .ok kinds := by
  simp only [readKinds, bind_eq_ok_iff, mapError_eq_ok_iff, readData_eq_ok_iff]

/-- The tree that is read has the names of the kind table in place of its codes. -/
theorem readTree_eq_ok_iff {state : σ} {kinds : KindTable} {path : String} {named : Json} :
    readTree state kinds path = .ok named ↔
      ∃ tree, FileHolds state path tree ∧ Json.Named kinds tree named := by
  simp only [readTree, bind_eq_ok_iff, mapError_eq_ok_iff, readData_eq_ok_iff]
  refine exists_congr fun tree => and_congr_right fun _ => ?_
  exact ⟨Json.named_of_normalize tree, Json.normalize_of_named⟩

theorem readInputs_eq_ok_iff {state : σ} {kindsPath treePath : String} {kinds : KindTable}
    {named : Json} :
    readInputs state kindsPath treePath = .ok (kinds, named) ↔
      readKinds state kindsPath = .ok kinds ∧ readTree state kinds treePath = .ok named := by
  simp only [readInputs, bind_eq_ok_iff, pure_eq_ok_iff, Prod.mk.injEq]
  constructor
  · rintro ⟨_, kindsRead, _, treeRead, rfl, rfl⟩
    exact ⟨kindsRead, treeRead⟩
  · rintro ⟨kindsRead, treeRead⟩
    exact ⟨kinds, kindsRead, named, treeRead, rfl, rfl⟩

/-- Systems that read two files alike give the same kind table and the same tree. -/
theorem readInputs_congr {state : σ} {other : τ} {kindsPath treePath : String}
    (same : ∀ path ∈ [kindsPath, treePath],
      System.readText state path = System.readText other path) :
    readInputs state kindsPath treePath = readInputs other kindsPath treePath := by
  have kindsSame := same kindsPath (by simp)
  have treeSame := same treePath (by simp)
  simp only [readInputs, readKinds, readTree, readData, readText, kindsSame, treeSame]

/-! ## Commands that only read -/

namespace Command

/-- Whether a command only reads: it starts no program and writes no file. -/
def OnlyReads : Command → Prop
  | parse .. => False
  | _ => True

/-- A command that only reads leaves every system as it is, also when it fails. -/
theorem run_state {command : Command} (onlyReads : command.OnlyReads) (state : σ) :
    (command.run state).2 = state := by
  have reads : ∃ outcome : σ → Except Failure String, Action.Reads command.run outcome := by
    cases command with
    | version => exact ⟨_, Action.reads_pure _⟩
    | normalize kindsPath treePath =>
        exact ⟨_, Action.reads_get_bind _ fun _ => Action.reads_pure _⟩
    | eval kindsPath treePath query =>
        exact ⟨_, Action.reads_get_bind _ fun _ => Action.reads_lift_bind _ fun _ =>
          Action.reads_pure _⟩
    | table kindsPath treePath table className =>
        exact ⟨_, Action.reads_get_bind _ fun _ => Action.reads_lift_bind _ fun _ =>
          Action.reads_lift_bind _ fun _ => Action.reads_pure _⟩
    | parse source runtime kindsOut => exact onlyReads.elim
  obtain ⟨outcome, reads⟩ := reads
  rw [reads]

/-- A command that only reads does the same wherever the files that it names read alike. -/
theorem alike_of_onlyReads {command : Command} (onlyReads : command.OnlyReads)
    {related : σ → τ → Prop} (same : ∀ ⦃state other⦄, related state other →
      ∀ path ∈ command.inputs, System.readText state path = System.readText other path) :
    Action.Alike related command.run command.run := by
  have inputs (kindsPath treePath : String) (named : command.inputs = [kindsPath, treePath])
      ⦃state : σ⦄ ⦃other : τ⦄ (both : related state other) :
      readInputs state kindsPath treePath = readInputs other kindsPath treePath :=
    readInputs_congr (named ▸ same both)
  cases command with
  | version => exact Action.alike_pure _
  | normalize kindsPath treePath =>
      exact Action.alike_get_bind (inputs _ _ rfl) fun _ => Action.alike_pure _
  | eval kindsPath treePath query =>
      exact Action.alike_get_bind (inputs _ _ rfl) fun _ => (Action.alike_lift _).bind fun _ =>
        Action.alike_pure _
  | table kindsPath treePath table className =>
      exact Action.alike_get_bind (inputs _ _ rfl) fun _ => (Action.alike_lift _).bind fun _ =>
        (Action.alike_lift _).bind fun _ => Action.alike_pure _
  | parse source runtime kindsOut => exact onlyReads.elim

/-- Normalizing prints the tree that the second file holds, with the names of its kinds by the dump
that the first file holds. -/
theorem run_normalize_eq_ok_iff {kindsPath treePath output : String} {state after : σ} :
    (normalize kindsPath treePath).run state = (.ok output, after) ↔ state = after ∧
      ∃ dump kinds tree named, FileHolds state kindsPath dump ∧
        KindTable.ofDump dump = .ok kinds ∧ FileHolds state treePath tree ∧
          Json.Named kinds tree named ∧ output = printed named := by
  have reads : Action.Reads (normalize kindsPath treePath).run fun state : σ => do
      let inputs ← readInputs state kindsPath treePath
      return printed inputs.2 :=
    Action.reads_get_bind _ fun _ => Action.reads_pure _
  rw [reads, Prod.mk.injEq, and_comm]
  refine and_congr_right fun _ => ?_
  simp only [bind_eq_ok_iff, pure_eq_ok_iff, Prod.exists, readInputs_eq_ok_iff, readKinds_eq_ok_iff,
    readTree_eq_ok_iff]
  constructor
  · rintro ⟨kinds, named, ⟨⟨dump, dumpRead, table⟩, tree, treeRead, names⟩, rfl⟩
    exact ⟨dump, kinds, tree, named, dumpRead, table, treeRead, names, rfl⟩
  · rintro ⟨dump, kinds, tree, named, dumpRead, table, treeRead, names, rfl⟩
    exact ⟨kinds, named, ⟨⟨dump, dumpRead, table⟩, tree, treeRead, names⟩, rfl⟩

end Command

/-! ## Parsing -/

theorem keepKinds_alike {related : σ → τ → Prop} (similar : System.Similar related)
    (parser : ScriptParser) (path? : Option String) :
    Action.Alike related (keepKinds parser path?) (keepKinds parser path?) := by
  cases path? with
  | none => exact Action.alike_pure ()
  | some path =>
      exact ((parser.run_alike similar _ _).adapt _).bind fun dump =>
        (similar.writeText path dump.pretty).adapt _

namespace Command

/-- A command whose source cannot be read starts no program and writes no file. -/
theorem run_parse_of_unreadable {source : String} {state : σ} {fault : SystemFault}
    (unreadable : System.readText state source = .error fault) (runtime : String)
    (kindsOut : Option String) :
    (parse source runtime kindsOut).run state = (.error (.unreadable source fault), state) := by
  have failed : readText state source = .error (.unreadable source fault) := by
    rw [readText, unreadable]
    rfl
  exact Action.bind_of_error (Action.get_bind_of_error (readText · source) failed _) _

/-- Parsing prints the data that the runtime prints when it is given the source, after it has kept
the dump of the kinds if it was asked to. -/
theorem run_parse_eq_ok_iff {source runtime output : String} {kindsOut : Option String}
    {state after : σ} :
    (parse source runtime kindsOut).run state = (.ok output, after) ↔
      ∃ text kept finished data, System.readText state source = .ok text ∧
        keepKinds ⟨runtime, ["-e"]⟩ kindsOut state = (.ok (), kept) ∧
          System.runProgram runtime ["-e", ScriptParser.scriptFor
            (ScriptParser.parseExpression (sourceName source))] text kept =
              (.ok finished, after) ∧
            ScriptParser.Prints finished data ∧ output = printed data := by
  have read (text : String) : readText state source = .ok text ↔
      System.readText state source = .ok text := mapError_eq_ok_iff
  rw [run, Action.bind_eq_ok_iff]
  simp only [parseFile, Action.get_bind_eq_ok_iff]
  simp only [Action.bind_eq_ok_iff, Action.adapt_eq_ok_iff, ScriptParser.parse,
    ScriptParser.run_eq_ok_iff, read]
  constructor
  · rintro ⟨data, _, ⟨text, textRead, _, kept, keeps, finished, ran, holds⟩, prints⟩
    cases prints
    exact ⟨text, kept, finished, data, textRead, keeps, ran, holds, rfl⟩
  · rintro ⟨text, kept, finished, data, textRead, keeps, ran, holds, rfl⟩
    exact ⟨data, after, ⟨text, textRead, (), kept, keeps, finished, ran, holds⟩, rfl⟩

/-- In systems that no request can tell apart every command does the same. -/
theorem run_alike {related : σ → τ → Prop} (similar : System.Similar related) (command : Command) :
    Action.Alike related command.run command.run := by
  cases command with
  | parse source runtime kindsOut =>
      refine Action.Alike.bind (Action.alike_get_bind ?_ fun text =>
        (keepKinds_alike similar _ kindsOut).bind fun _ =>
          (ScriptParser.run_alike _ similar _ text).adapt _) fun tree => Action.alike_pure _
      intro state other both
      exact congrArg (Except.mapError _) (similar.readText both source)
  | _ => exact alike_of_onlyReads (by trivial) fun _ _ both path _ => similar.readText both path

end Command

/-! ## Running the command line -/

theorem execute_of_none {words : List String} (nothing : Command.ofArguments? words = none)
    (state : σ) : execute state words = ⟨2, "", usageText, state⟩ := by
  rw [execute, nothing]

theorem execute_of_some {words : List String} {command : Command}
    (asked : Command.ofArguments? words = some command) (state : σ) :
    execute state words = .ofOutcome (command.run state).1 (command.run state).2 := by
  rw [execute, asked]
  rfl

/-- A run of a command that only reads leaves every system as it is, however it ends. -/
theorem execute_state {words : List String} {command : Command}
    (asked : Command.ofArguments? words = some command) (onlyReads : command.OnlyReads)
    (state : σ) : (execute state words).state = state := by
  rw [execute_of_some asked, Ending.state_ofOutcome, Command.run_state onlyReads]

/-- In systems that no request can tell apart the command line does the same, and it leaves states
behind that no request can tell apart. -/
theorem execute_alike {related : σ → τ → Prop} (similar : System.Similar related) {state : σ}
    {other : τ} (both : related state other) (words : List String) :
    (execute state words).LooksLike (execute other words) ∧
      related (execute state words).state (execute other words).state := by
  cases asked : Command.ofArguments? words with
  | none =>
      rw [execute_of_none asked, execute_of_none asked]
      exact ⟨⟨rfl, rfl, rfl⟩, both⟩
  | some command =>
      obtain ⟨same, after⟩ := Command.run_alike similar command both
      rw [execute_of_some asked, execute_of_some asked, ← same]
      exact ⟨Ending.looksLike_ofOutcome _ _ _, by simpa using after⟩

/-- A run of a command that only reads depends on nothing but the texts of the files that the
command names. -/
theorem execute_of_reads_alike {words : List String} {command : Command}
    (asked : Command.ofArguments? words = some command) (onlyReads : command.OnlyReads) {state : σ}
    {other : τ} (same : ∀ path ∈ command.inputs,
      System.readText state path = System.readText other path) :
    (execute state words).LooksLike (execute other words) := by
  have alike : Action.Alike (fun (state : σ) (other : τ) => ∀ path ∈ command.inputs,
      System.readText state path = System.readText other path) command.run command.run :=
    Command.alike_of_onlyReads onlyReads fun _ _ both => both
  rw [execute_of_some asked, execute_of_some asked, ← (alike same).1]
  exact Ending.looksLike_ofOutcome _ _ _

/-! ## Printing and reporting -/

theorem printed_ne_empty (data : Json) : printed data ≠ "" := by
  simp [printed]

theorem Failure.report_ne_empty (failure : Failure) : failure.report ≠ "" := by
  simp [report]

/-- A command that succeeds prints something. -/
theorem Command.run_prints {command : Command} {state after : σ} {text : String}
    (ran : command.run state = (.ok text, after)) : text ≠ "" := by
  cases command with
  | version =>
      cases ran
      decide
  | normalize kindsPath treePath =>
      obtain ⟨_, _, rest⟩ := Action.get_bind_eq_ok_iff.1 ran
      cases rest
      exact printed_ne_empty _
  | eval kindsPath treePath query =>
      obtain ⟨_, _, rest⟩ := Action.get_bind_eq_ok_iff.1 ran
      obtain ⟨_, _, _, rest⟩ := Action.bind_eq_ok_iff.1 rest
      cases rest
      exact printed_ne_empty _
  | table kindsPath treePath table className =>
      obtain ⟨_, _, rest⟩ := Action.get_bind_eq_ok_iff.1 ran
      obtain ⟨_, _, _, rest⟩ := Action.bind_eq_ok_iff.1 rest
      obtain ⟨_, _, _, rest⟩ := Action.bind_eq_ok_iff.1 rest
      cases rest
      exact printed_ne_empty _
  | parse source runtime kindsOut =>
      obtain ⟨_, _, _, rest⟩ := Action.bind_eq_ok_iff.1 ran
      cases rest
      exact printed_ne_empty _

/-- A run prints data or reports a problem: the code is 0 exactly when nothing is reported, and
exactly when something is printed. -/
theorem execute_streams (state : σ) (words : List String) :
    ((execute state words).exitCode = 0 ↔ (execute state words).errors = "") ∧
      ((execute state words).exitCode = 0 ↔ (execute state words).output ≠ "") := by
  cases asked : Command.ofArguments? words with
  | none =>
      rw [execute_of_none asked]
      simp [usageText]
  | some command =>
      rw [execute_of_some asked]
      rcases ran : command.run state with ⟨outcome, after⟩
      cases outcome with
      | ok text => simp [Ending.ofOutcome, Command.run_prints ran]
      | error failure => simp [Ending.ofOutcome, failure.report_ne_empty]

end SyntaxFold.CommandLine
