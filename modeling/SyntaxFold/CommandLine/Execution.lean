import SyntaxFold.CommandLine.Command
import SyntaxFold.CommandLine.Failure
import SyntaxFold.Synth.Presets
import SyntaxFold.Synth.Unisons
import SyntaxFold.Synth.Waves

/-!
# Running commands

A command reads files, prints data, and may run a parser and write a file. `Command.run` says what
it prints and what becomes of the system that it runs in; the first failure ends it, and then
nothing is printed but its report. Everything here is said of any `System`.
-/

namespace SyntaxFold.CommandLine

/-- Commands have no foreign functions. -/
instance : Host := .closed

/-- The text of the version. -/
def versionText : String := "litfold 0.0.1\n"

/-- The text for words that ask for nothing. It stands for the explanation that a reader of
arguments would give, which depends on the words. -/
def usageText : String :=
  "error: expected `normalize`, `eval`, `table` or `parse` with its operands and options\n"

section Reading

variable {σ : Type} [System σ]

/-- Reads the text of a file. -/
def readText (state : σ) (path : String) : Except Failure String :=
  (System.readText state path).mapError (.unreadable path)

/-- Reads the data in a file. -/
def readData (state : σ) (path : String) : Except Failure Json := do
  let text ← readText state path
  match Json.ofText? (some maxJsonNesting) text with
  | some data => .ok data
  | none => .error (.notJson path)

/-- Reads a kind table. -/
def readKinds (state : σ) (path : String) : Except Failure KindTable := do
  let dump ← readData state path
  (KindTable.ofDump dump).mapError .fold

/-- Reads a tree and normalizes it. -/
def readTree (state : σ) (kinds : KindTable) (path : String) : Except Failure Json := do
  let tree ← readData state path
  (tree.normalize kinds).mapError (.notNormalized path)

/-- Reads what commands on trees start from: the kind table, and then the tree. -/
def readInputs (state : σ) (kindsPath treePath : String) : Except Failure (KindTable × Json) := do
  let kinds ← readKinds state kindsPath
  let tree ← readTree state kinds treePath
  return (kinds, tree)

end Reading

/-- Data as it is printed. -/
def printed (data : Json) : String := data.pretty ++ "\n"

/-- The value of a property as data. -/
def PropertyQuery.answer (query : PropertyQuery) (kinds : KindTable) (tree : Json) :
    Except Failure Json := do
  let scopes ← (Synth.configScope tree query.className query.enums).mapError .fold
  let classNode ← (Declaration.findClass query.className tree).mapError .fold
  let node ← (Declaration.propertyOfClass query.property classNode).mapError .fold
  let reducer : Reducer := { Reducer.ofKinds kinds with maxDepth := query.maxDepth }
  let value ← (reducer.reduce scopes query.mode node).mapError
    (.notReduced query.className query.property)
  value.toJson.mapError .holdsFunction

/-- The class that a table is extracted from. -/
def tableClass (path : String) (className : Option String) (tree : Json) : Except Failure Json :=
  match className with
  | some name => (Declaration.findClass name tree).mapError .fold
  | none =>
    match tree.firstOfKind? "ClassDeclaration" with
    | some classNode => .ok classNode
    | none => .error (.noClass path)

/-- A table of a class as data. -/
def Table.extract (table : Table) (kinds : KindTable) (classNode : Json) :
    Except Failure Json := do
  let reducer := Reducer.ofKinds kinds
  match table with
  | waves => ((Synth.waves reducer classNode).map Synth.wavesToJson).mapError .fold
  | unisons =>
    let unisons ← (Synth.unisons reducer classNode).mapError .fold
    return .array (unisons.map Synth.Unison.toJson)
  | presets =>
    let categories ← (Synth.presets reducer classNode).mapError .fold
    let categories ← (categories.mapM Synth.PresetCategory.toJson).mapError .holdsFunction
    return .array categories

/-- The name under which a source file is parsed: the last part of its path. -/
def sourceName (path : String) : String :=
  match (path.splitOn "/").reverse.find? fun part => part ≠ "" ∧ part ≠ "." with
  | some part => if part = ".." then "source.ts" else part
  | none => "source.ts"

section Running

variable {σ : Type} [System σ]

/-- Keeps the dump of the kinds of syntax in a file, if one is named. -/
def keepKinds (parser : ScriptParser) : (path? : Option String) → Action σ Failure Unit
  | none => return
  | some path => do
    let dump ← parser.syntaxKinds.adapt Failure.parser
    (System.writeText path dump.pretty).adapt (.unwritable path)

/-- Parses a source file with a script parser. -/
def parseFile (parser : ScriptParser) (source : String) (kindsOut : Option String) :
    Action σ Failure Json := do
  let text ← readText (← get) source
  keepKinds parser kindsOut
  (parser.parse text (sourceName source)).adapt Failure.parser

/-- Runs a command; the result is what it prints. -/
def Command.run : Command → Action σ Failure String
  | version => return versionText
  | normalize kindsPath treePath => do
    let (_, tree) ← readInputs (← get) kindsPath treePath
    return printed tree
  | eval kindsPath treePath query => do
    let (kinds, tree) ← readInputs (← get) kindsPath treePath
    let data ← query.answer kinds tree
    return printed data
  | table kindsPath treePath kind className => do
    let (kinds, tree) ← readInputs (← get) kindsPath treePath
    let classNode ← tableClass treePath className tree
    let data ← kind.extract kinds classNode
    return printed data
  | parse source runtime kindsOut => do
    let tree ← parseFile ⟨runtime, ["-e"]⟩ source kindsOut
    return printed tree

/-- What a run of the command line leaves behind. -/
structure Ending (σ : Type) where
  exitCode : UInt8
  output : String
  errors : String
  state : σ

/-- What a command leaves behind: the exit code is 0 after a success and 1 after a failure. -/
def Ending.ofOutcome (outcome : Except Failure String) (state : σ) : Ending σ :=
  match outcome with
  | .ok text => ⟨0, text, "", state⟩
  | .error failure => ⟨1, "", failure.report, state⟩

/-- Runs the command line on its words. The exit code is 2 for words that ask for nothing. -/
def execute (state : σ) (words : List String) : Ending σ :=
  match Command.ofArguments? words with
  | none => ⟨2, "", usageText, state⟩
  | some command =>
    let (outcome, state) := command.run state
    .ofOutcome outcome state

end Running

end SyntaxFold.CommandLine
