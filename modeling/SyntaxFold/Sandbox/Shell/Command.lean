import SyntaxFold.Text.Bytes

/-!
# Shell commands

The commands of the shell that parser programs are written in. Words are made of parts; a part
remembers whether it was quoted, since only unquoted expansions are split into fields and only
unquoted characters are special in patterns.
-/

namespace SyntaxFold.Sandbox.Shell

/-- What the value of a parameter is turned into. -/
inductive Adjustment where
  /-- The word, where there is no value. -/
  | orElse
  /-- The word where there is no value, and the parameter takes it. -/
  | orAssign
  /-- A complaint, where there is no value. -/
  | orFail
  /-- The word, where there is a value. -/
  | instead
  /-- The value without a start that matches the word. -/
  | withoutStart (longest : Bool)
  /-- The value without an end that matches the word. -/
  | withoutEnd (longest : Bool)
  deriving DecidableEq, Repr

/-- What becomes of a file that is there already when a stream is sent to it. -/
inductive Writing where
  /-- It is emptied, unless an option protects it. -/
  | anew
  /-- It is emptied. -/
  | over
  /-- It is added to. -/
  | behind
  deriving DecidableEq, Repr

mutual

/-- A part of a word. -/
inductive Part where
  | literal (text : List Char) (quoted : Bool)
  | parameter (name : String) (quoted : Bool)
  /-- How long the value of a parameter is. -/
  | length (name : String) (quoted : Bool)
  /-- The value of a parameter, adjusted by a word. The first flag says whether an empty value
  counts as none. -/
  | adjusted (name : String) (adjustment : Adjustment) (emptyIsNone : Bool) (word : List Part)
    (quoted : Bool)
  /-- The value of an arithmetic expression. -/
  | arithmetic (text : List Part) (quoted : Bool)
  /-- The output of a command. -/
  | substitution (body : Command) (quoted : Bool)
  /-- Braces that hold no parameter. -/
  | malformed

/-- Where a stream of a command goes or comes from. -/
inductive Redirection where
  | toFile (stream : Nat) (writing : Writing) (target : List Part)
  | fromFile (stream : Nat) (source : List Part)
  /-- The text itself is the input. -/
  | fromText (stream : Nat) (text : List Part)
  /-- The stream goes where another one goes, or nowhere. -/
  | duplicate (stream : Nat) (target : List Part)

/-- A command. -/
inductive Command where
  | simple (line : Nat) (assignments : List (String × List Part)) (words : List (List Part))
    (redirections : List Redirection)
  | pipeline (negated : Bool) (stages : List Command)
  | sequence (commands : List Command)
  | both (left right : Command)
  | either (left right : Command)
  | branch (condition whenTrue whenFalse : Command)
  /-- Commands that are run while, or until, a condition holds. -/
  | loop (whileTrue : Bool) (condition body : Command)
  /-- Commands that are run for every word, or for every parameter of the script. -/
  | each (name : String) (words : Option (List (List Part))) (body : Command)
  | choice (subject : List Part) (arms : List (List (List Part) × Command))
  | define (name : String) (body : Command)
  | background (body : Command)
  /-- Commands in parentheses. -/
  | isolated (body : Command)
  | redirected (body : Command) (redirections : List Redirection)

end

/-- A word. -/
abbrev Word := List Part

/-- The text of a word in which nothing is quoted or expanded. -/
def bareText? (word : Word) : Option String :=
  (word.mapM bare?).map fun texts => String.ofList texts.flatten
where
  /-- The text of a part that is neither quoted nor expanded. -/
  bare? : Part → Option (List Char)
    | .literal text false => some text
    | _ => none

/-- What is wrong with the text of a script. -/
inductive ScriptFault where
  /-- Something stands where it must not, perhaps instead of something else. -/
  | unexpected (found : String) (expected : Option String)
  | unfinishedQuote
  | unfinishedBackquote
  | missing (closing : String)
  | badLoopName
  | badFunctionName
  deriving DecidableEq, Repr

/-- The text of a fault. -/
def ScriptFault.message : ScriptFault → String
  | unexpected found none => found ++ " unexpected"
  | unexpected found (some expected) => found ++ " unexpected (expecting " ++ expected ++ ")"
  | unfinishedQuote => "Unterminated quoted string"
  | unfinishedBackquote => "EOF in backquote substitution"
  | missing closing => "Missing '" ++ closing ++ "'"
  | badLoopName => "Bad for loop variable"
  | badFunctionName => "Bad function name"

/-- A script as far as it could be read: its commands, line by line, and the fault that ended it
with the number of its line. -/
structure Script where
  commands : List Command
  fault : Option (Nat × ScriptFault)

end SyntaxFold.Sandbox.Shell
