import SyntaxFold.Json.Parser
import SyntaxFold.Json.Printer
import SyntaxFold.Normalize
import SyntaxFold.System
import SyntaxFold.Text.Blank
import SyntaxFold.Text.Quoted

/-!
# Tree parsers

Source text is parsed by a program outside the library: a script runtime that loads the TypeScript
compiler, takes the source on its input and prints a tree or the table of kinds as JSON. What the
program does is up to the `System` that it runs in. Anything that delivers a kind table and a tree
can stand in its place.
-/

namespace SyntaxFold

/-- Why no tree was obtained. -/
inductive ParserError where
  /-- The program could not be run, or not be talked to. -/
  | spawn (program : String) (fault : SystemFault)
  /-- The program ended with a failure. -/
  | failed (ending : ProgramEnd) (errors : String)
  /-- The program printed something that is not JSON. -/
  | output
  /-- The kind table was not one, or lacks a code. -/
  | kinds (error : FoldError)

/-- The text of a parser error. -/
def ParserError.message : ParserError → String
  | spawn program fault => "failed to run `" ++ program ++ "`: " ++ fault.message
  | failed ending errors => "parser exited with " ++ ending.description ++ ": " ++ errors
  | output => "parser output is not valid JSON"
  | kinds error => error.message

/-- How deeply JSON from outside may nest. -/
def maxJsonNesting : Nat := 127

/-- Anything that delivers a kind table and raw trees. -/
structure TreeSource where
  kindTable : Except ParserError KindTable
  parse : (source filename : String) → Except ParserError Json

/-- Parses and normalizes a source text. -/
def TreeSource.parseNormalized (trees : TreeSource) (source filename : String) :
    Except ParserError Json := do
  let kinds ← trees.kindTable
  let tree ← trees.parse source filename
  (tree.normalize kinds).mapError .kinds

/-- A program that runs parser scripts, with the arguments that stand before the script. -/
structure ScriptParser where
  program : String
  arguments : List String

namespace ScriptParser

/-- The runtime that is used unless another one is named. -/
def default : ScriptParser := ⟨"bun", ["-e"]⟩

/-- The text that shows a script parser. -/
def inspect (parser : ScriptParser) : String :=
  "ScriptParser \x7b program: " ++ Text.quoted parser.program ++ ", args: [" ++
    ", ".intercalate (parser.arguments.map Text.quoted) ++ "] \x7d"

/-- The script that prints the value of an expression, with `s` bound to the input. -/
def scriptFor (expression : String) : String :=
  "var ts=require('typescript'),s='';for await(var c of process.stdin)s+=c;" ++
    "console.log(JSON.stringify(" ++ expression ++ "))"

/-- What a program that has come to its end says about the value of an expression. -/
def ofFinished (finished : Finished) : Except ParserError Json :=
  if finished.ending = .exited 0 then
    match finished.output.toString?.bind (Json.ofText? (some maxJsonNesting)) with
    | some data => .ok data
    | none => .error .output
  else .error (.failed finished.ending (Text.trim finished.errors.toStringLossy))

variable {σ : Type} [System σ]

/-- The value of an expression as the program prints it. -/
def run (parser : ScriptParser) (expression input : String) : Action σ ParserError Json := do
  let arguments := parser.arguments ++ [scriptFor expression]
  let finished ← (System.runProgram parser.program arguments input).adapt (.spawn parser.program)
  ofFinished finished

/-- The dump of the kinds of syntax. -/
def syntaxKinds (parser : ScriptParser) : Action σ ParserError Json :=
  parser.run "ts.SyntaxKind" ""

/-- The expression that parses the input as a file of the given name. -/
def parseExpression (filename : String) : String :=
  "ts.createSourceFile(" ++ Json.quote filename ++ ",s,ts.ScriptTarget.Latest)"

/-- The raw tree of a source text. -/
def parse (parser : ScriptParser) (source filename : String) : Action σ ParserError Json :=
  parser.run (parseExpression filename) source

/-- A script parser as a source of trees, run in a system that is always found in the given
state. -/
def trees (parser : ScriptParser) (state : σ) : TreeSource where
  kindTable := do
    let dump ← (parser.syntaxKinds state).1
    (KindTable.ofDump dump).mapError .kinds
  parse := fun source filename => (parser.parse source filename state).1

end ScriptParser

end SyntaxFold
