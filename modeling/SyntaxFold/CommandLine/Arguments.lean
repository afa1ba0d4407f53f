/-!
# Arguments

How the words after the name of a subcommand are told apart. An option is written `--name value` or
`--name=value`, a switch `--name`. The word `--` makes every word after it an operand.
`Grammar.read` refuses a word that looks like an option and is none, a value that looks like an
option, and an option that is given twice unless it may be.
-/

namespace SyntaxFold.CommandLine

/-- What an option of a subcommand takes. -/
inductive OptionForm where
  /-- Nothing; it is given or not. -/
  | switch
  /-- One value. -/
  | single
  /-- One value each time it is given. -/
  | repeated
  deriving DecidableEq, Repr

/-- The options of a subcommand, by name. -/
abbrev Grammar := List (String × OptionForm)

/-- The form of the option with the given name. -/
def Grammar.form? (grammar : Grammar) (name : String) : Option OptionForm :=
  (grammar.find? fun option => option.1 == name).map Prod.snd

/-- What a word looks like. -/
inductive Word where
  | separator
  /-- An option, with the value behind its equals sign. -/
  | long (name : String) (attached : Option String)
  /-- Letters behind a single dash, which no subcommand knows. -/
  | short
  | plain (text : String)
  deriving DecidableEq, Repr

/-- Tells a name from the value behind the first equals sign. -/
def Word.ofOption (characters : List Char) : Word :=
  let name := String.ofList (characters.takeWhile (· != '='))
  match characters.dropWhile (· != '=') with
  | [] => long name none
  | _ :: value => long name (some (String.ofList value))

/-- What a word looks like. A single dash is an operand like any other. -/
def Word.ofText (text : String) : Word :=
  match text.toList with
  | ['-', '-'] => separator
  | '-' :: '-' :: characters => ofOption characters
  | '-' :: _ :: _ => short
  | _ => plain text

/-- The text of a word that looks like no option. -/
def Word.plain? : Word → Option String
  | plain text => some text
  | _ => none

/-- The words of a subcommand, told apart. -/
structure Arguments where
  switches : List String
  /-- The values of options, in the order of the words. -/
  values : List (String × String)
  operands : List String
  deriving DecidableEq, Repr

namespace Arguments

/-- No words. -/
def empty : Arguments := ⟨[], [], []⟩

/-- Whether a switch is given. -/
def has (arguments : Arguments) (name : String) : Bool := arguments.switches.contains name

/-- All values of an option. -/
def valuesOf (arguments : Arguments) (name : String) : List String :=
  (arguments.values.filter fun value => value.1 == name).map Prod.snd

/-- The value of an option. -/
def value? (arguments : Arguments) (name : String) : Option String :=
  (arguments.valuesOf name).head?

/-- Adds an operand. -/
def addOperand (arguments : Arguments) (text : String) : Arguments :=
  { arguments with operands := arguments.operands ++ [text] }

/-- Adds a switch, which must not have been given before. -/
def addSwitch (arguments : Arguments) (name : String) : Option Arguments :=
  if arguments.has name then none
  else some { arguments with switches := arguments.switches ++ [name] }

/-- Adds the value of an option, which must not have been given before unless it is repeated. -/
def addValue (arguments : Arguments) (form : OptionForm) (name value : String) :
    Option Arguments :=
  if form = .single ∧ (arguments.value? name).isSome then none
  else some { arguments with values := arguments.values ++ [(name, value)] }

end Arguments

/-- Tells words apart, after those that were read before. -/
def Grammar.readFrom (grammar : Grammar) (arguments : Arguments) : List String → Option Arguments
  | [] => some arguments
  | text :: rest =>
    match Word.ofText text with
    | .separator => some { arguments with operands := arguments.operands ++ rest }
    | .short => none
    | .plain text => grammar.readFrom (arguments.addOperand text) rest
    | .long name attached =>
      match grammar.form? name, attached, rest with
      | none, _, _ => none
      | some .switch, none, rest => do
        let arguments ← arguments.addSwitch name
        grammar.readFrom arguments rest
      | some .switch, some _, _ => none
      | some form, some value, rest => do
        let arguments ← arguments.addValue form name value
        grammar.readFrom arguments rest
      | some form, none, text :: rest => do
        let value ← (Word.ofText text).plain?
        let arguments ← arguments.addValue form name value
        grammar.readFrom arguments rest
      | some _, none, [] => none

/-- Tells the words of a subcommand apart. -/
def Grammar.read (grammar : Grammar) (words : List String) : Option Arguments :=
  grammar.readFrom .empty words

end SyntaxFold.CommandLine
