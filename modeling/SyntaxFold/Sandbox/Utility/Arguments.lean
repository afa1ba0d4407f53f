import SyntaxFold.Sandbox.Utility.Basic

/-!
# Arguments of utilities

Arguments are options, by letters behind a dash or by names behind two, and operands. Behind two
dashes alone everything is an operand. A name may be cut short as long as it still tells one option
from the others.
-/

namespace SyntaxFold.Sandbox.Utility

/-- Whether an option comes with a value. -/
inductive ValueForm where
  | none
  | required
  /-- The value stands in the same argument, or there is none. -/
  | optional
  deriving DecidableEq, Repr

/-- An option that a utility knows. -/
structure OptionRule where
  letter : Option Char
  name : String
  value : ValueForm
  deriving DecidableEq, Repr

namespace OptionRule

/-- An option without a value. -/
def plain (letter : Char) (name : String) : OptionRule := ⟨some letter, name, .none⟩

/-- An option with a value. -/
def valued (letter : Char) (name : String) : OptionRule := ⟨some letter, name, .required⟩

end OptionRule

/-- What arguments say: the options by their names, in their order, with their values, and the
operands. -/
structure Given where
  options : List (String × Bytes)
  operands : List Bytes
  deriving DecidableEq, Repr

namespace Given

/-- Puts an option in front. -/
def cons (name : String) (value : Bytes) (given : Given) : Given :=
  { given with options := (name, value) :: given.options }

/-- Whether an option is given. -/
def has (given : Given) (name : String) : Bool := Entries.contains name given.options

/-- The values of an option, in their order. -/
def values (given : Given) (name : String) : List Bytes :=
  (given.options.filter (·.1 == name)).map Prod.snd

/-- The value of an option that counts: the last one. -/
def value? (given : Given) (name : String) : Option Bytes := (given.values name).getLast?

/-- The last one of the options with the given names, with its value. -/
def lastOf? (given : Given) (names : List String) : Option (String × Bytes) :=
  given.options.reverse.find? fun option => names.contains option.1

/-- Reads the letters of an argument. The last one is given back when its value is still to
come. -/
def readLetters (rules : List OptionRule) :
    Bytes → Except String (List (String × Bytes) × Option OptionRule)
  | [] => .ok ([], none)
  | byte :: rest =>
    let letter := Char.ofNat byte.toNat
    match rules.find? (·.letter == some letter) with
    | none => .error ("invalid option -- '" ++ letter.toString ++ "'")
    | some rule =>
      match rule.value, rest with
      | .required, [] => .ok ([], some rule)
      | .required, rest | .optional, rest => .ok ([(rule.name, rest)], none)
      | .none, rest => do
        let (others, pending) ← readLetters rules rest
        return ((rule.name, []) :: others, pending)

/-- The rule that a name belongs to, perhaps cut short. -/
def ruleOf? (rules : List OptionRule) (name : String) : Option OptionRule :=
  match rules.find? (·.name == name), rules.filter (·.name.startsWith name) with
  | some rule, _ => some rule
  | none, [rule] => some rule
  | none, _ => none

/-- Reads an option by name. It is given back when its value is still to come. -/
def readName (rules : List OptionRule) (argument : Bytes) :
    Except String (List (String × Bytes) × Option OptionRule) :=
  let name : Bytes := argument.takeWhile (· != 61)
  match ruleOf? rules name.toStringLossy, argument.drop name.length with
  | none, _ => .error ("unrecognized option '--" ++ argument.toStringLossy ++ "'")
  | some rule, [] =>
    if rule.value = .required then .ok ([], some rule) else .ok ([(rule.name, [])], none)
  | some rule, _ :: value =>
    if rule.value = .none then
      .error ("option '--" ++ rule.name ++ "' doesn't allow an argument")
    else .ok ([(rule.name, value)], none)

/-- Reads arguments. An option may wait for its value, with the text that says so if there is none.
Options behind operands are read if they are mixed. -/
def read (rules : List OptionRule) (mixed : Bool) :
    (pending : Option (OptionRule × String)) → List Bytes → Except String Given
  | none, [] => .ok ⟨[], []⟩
  | some (_, complaint), [] => .error complaint
  | some (rule, _), value :: rest => do
    return (← read rules mixed none rest).cons rule.name value
  | none, argument :: rest =>
    match argument with
    | [45, 45] => .ok ⟨[], rest⟩
    | 45 :: 45 :: name => do
      let (found, pending) ← readName rules name
      let pending := pending.map fun rule =>
        (rule, "option '--" ++ rule.name ++ "' requires an argument")
      let others ← read rules mixed pending rest
      return { others with options := found ++ others.options }
    | 45 :: letter :: letters => do
      let (found, pending) ← readLetters rules (letter :: letters)
      let pending := pending.map fun rule =>
        let shown := String.ofList rule.letter.toList
        (rule, "option requires an argument -- '" ++ shown ++ "'")
      let others ← read rules mixed pending rest
      return { others with options := found ++ others.options }
    | _ =>
      if mixed then do
        let others ← read rules mixed none rest
        return { others with operands := argument :: others.operands }
      else .ok ⟨[], argument :: rest⟩

end Given

/-- Acts on what the arguments say, or refuses them with a status. -/
def Request.reading (request : Request) (rules : List OptionRule) (mixed : Bool) (status : Nat)
    (action : Given → Effect) : Effect :=
  match Given.read rules mixed none request.arguments with
  | .ok given => action given
  | .error message => request.failing status (message ++ request.hint)

/-- Acts on what the arguments say. Options may stand behind operands. -/
def Request.taking (request : Request) (rules : List OptionRule) (action : Given → Effect) :
    Effect :=
  request.reading rules true 1 action

/-- Refuses an operand that is one too many. -/
def Request.tooMany (request : Request) (operand : Bytes) : Effect :=
  request.failing 1 ("extra operand " ++ quotedText operand ++ request.hint)

end SyntaxFold.Sandbox.Utility
