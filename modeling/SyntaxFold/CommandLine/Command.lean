import SyntaxFold.CommandLine.Arguments
import SyntaxFold.TreeParser
import SyntaxFold.Synth.Config

/-!
# Commands

What the command line can be asked to do. `Command.ofArguments?` is `none` for words that ask for
nothing: an unknown subcommand, a missing or superfluous operand, an option without its value.
-/

namespace SyntaxFold.CommandLine

/-- The tables that can be extracted. -/
inductive Table where
  | waves
  | unisons
  | presets
  deriving DecidableEq, Repr

/-- The table of a given name. -/
def Table.ofName? : String → Option Table
  | "waves" => some waves
  | "unisons" => some unisons
  | "presets" => some presets
  | _ => none

/-- Which property is reduced, and how. -/
structure PropertyQuery where
  className : String
  property : String
  mode : Mode
  /-- The enumerations in scope besides the class. -/
  enums : List String
  maxDepth : Nat

/-- What the command line is asked to do. Trees come with the file of their kind table. -/
inductive Command where
  | version
  /-- Give the nodes of a tree their kinds by name. -/
  | normalize (kinds tree : String)
  /-- Reduce a property of a class. -/
  | eval (kinds tree : String) (query : PropertyQuery)
  /-- Extract a table from a class, the first one unless it is named. -/
  | table (kinds tree : String) (table : Table) (className : Option String)
  /-- Parse a source file, and keep the dump of the kinds of syntax if asked to. -/
  | parse (source runtime : String) (kindsOut : Option String)

/-- A path, which is never empty. -/
def path? (text : String) : Option String := if text = "" then none else some text

/-- A limit: digits, perhaps behind a plus sign, for a number of 64 bits. -/
def limit? (text : String) : Option Nat := do
  let digits := match text.toList with
    | '+' :: rest => rest
    | characters => characters
  let limit ← Numeral.natural? digits
  if limit < UInt64.size then some limit else none

namespace Command

/-- The options of the subcommand that normalizes. -/
def normalizeGrammar : Grammar := [("kinds", .single)]

/-- The options of the subcommand that reduces a property. -/
def evalGrammar : Grammar :=
  [("kinds", .single), ("class", .single), ("property", .single), ("try-eval", .switch),
    ("shallow", .switch), ("enum", .repeated), ("config-enums", .switch), ("max-depth", .single)]

/-- The options of the subcommand that extracts a table. -/
def tableGrammar : Grammar := [("kinds", .single), ("class", .single)]

/-- The options of the subcommand that parses. -/
def parseGrammar : Grammar := [("kinds-out", .single), ("runtime", .single)]

/-- The command to normalize a tree. -/
def ofNormalize? (arguments : Arguments) : Option Command := do
  let kinds ← (arguments.value? "kinds").bind path?
  let [tree] := arguments.operands | none
  return normalize kinds (← path? tree)

/-- The command to reduce a property. The enumerations of the configuration class come after those
that are named. -/
def ofEval? (arguments : Arguments) : Option Command := do
  let kinds ← (arguments.value? "kinds").bind path?
  let [tree] := arguments.operands | none
  let tree ← path? tree
  let className ← arguments.value? "class"
  let property ← arguments.value? "property"
  let maxDepth ← match arguments.value? "max-depth" with
    | some text => limit? text
    | none => some defaultMaxDepth
  let mode : Mode := ⟨arguments.has "try-eval", arguments.has "shallow"⟩
  let more := if arguments.has "config-enums" then Synth.configEnums else []
  return eval kinds tree ⟨className, property, mode, arguments.valuesOf "enum" ++ more, maxDepth⟩

/-- The command to extract a table. -/
def ofTable? (arguments : Arguments) : Option Command := do
  let kinds ← (arguments.value? "kinds").bind path?
  let [tree, name] := arguments.operands | none
  return table kinds (← path? tree) (← Table.ofName? name) (arguments.value? "class")

/-- The command to parse a source file. -/
def ofParse? (arguments : Arguments) : Option Command := do
  let [source] := arguments.operands | none
  let source ← path? source
  let kindsOut ← (arguments.value? "kinds-out").mapM path?
  let runtime := (arguments.value? "runtime").getD ScriptParser.default.program
  return parse source runtime kindsOut

/-- The command that words ask for. -/
def ofArguments? : List String → Option Command
  | "normalize" :: words => (normalizeGrammar.read words).bind ofNormalize?
  | "eval" :: words => (evalGrammar.read words).bind ofEval?
  | "table" :: words => (tableGrammar.read words).bind ofTable?
  | "parse" :: words => (parseGrammar.read words).bind ofParse?
  | "--version" :: _ => some version
  | word :: _ => if word.startsWith "-V" then some version else none
  | [] => none

/-- The paths of the files that a command reads. A runtime is a file when its name has a slash. -/
def inputs : Command → List String
  | version => []
  | normalize kinds tree | eval kinds tree _ | table kinds tree _ _ => [kinds, tree]
  | parse source runtime _ => if runtime.toList.contains '/' then [source, runtime] else [source]

/-- The path of the file that a command writes. -/
def output? : Command → Option String
  | parse _ _ kindsOut => kindsOut
  | _ => none

end Command

end SyntaxFold.CommandLine
