import SyntaxFold.Sandbox.Shell.Command

/-!
# Reading shell scripts

A script is read token by token, and commands by descent. A token that was read too early is put
back. Words are keywords only where a command can begin. The functions that follow the nesting of
the text take fuel, one unit per call, and `readScript` gives enough of it for the length of the
text.
-/

namespace SyntaxFold.Sandbox.Shell

/-- A token of a script. -/
inductive Token where
  | ending
  | newline
  | mark (text : String)
  | keyword (name : String)
  | word (parts : Word)
  /-- A redirection without its target, with the number of its stream if that was given. -/
  | redirection (stream : Option Nat) (operator : String)

/-- The name of a token in faults. -/
def Token.name : Token → String
  | ending => "end of file"
  | newline => "newline"
  | mark text | keyword text => "\"" ++ text ++ "\""
  | word _ => "word"
  | redirection _ _ => "redirection"

/-- What is left to read: the text, and before it a token that was put back. -/
structure Cursor where
  text : List Char
  returned : Option Token

/-- A reader of scripts. It knows how many line ends the whole script has. -/
abbrev Reader := ReaderT Nat (StateT Cursor (Except (Nat × ScriptFault)))

/-- The number of the line that is being read. -/
def lineNumber : Reader Nat := do
  return (← read) + 1 - (← get).text.count '\n'

/-- Ends with a fault. -/
def refuse {α : Type} (fault : ScriptFault) : Reader α := do
  throw (← lineNumber, fault)

/-- Ends with a fault because of a token. -/
def refuseToken {α : Type} (token : Token) (expected : Option String) : Reader α :=
  refuse (.unexpected token.name expected)

/-- The text that is left. -/
def remaining : Reader (List Char) := return (← get).text

/-- Goes on with the given text. -/
def advance (text : List Char) : Reader Unit := modify fun cursor => { cursor with text }

/-- Puts a token back. -/
def putBack (token : Token) : Reader Unit :=
  modify fun cursor => { cursor with returned := some token }

/-- Reads another text in place of the one that is left, and then goes on with that one. -/
def readingInstead {α : Type} (text : List Char) (reader : Reader α) : Reader α := do
  let outer ← get
  set { text, returned := none : Cursor }
  let result ← reader
  set outer
  return result

/-- Whether a character ends an unquoted word. -/
def endsWord (c : Char) : Bool :=
  c == ' ' || c == '\t' || c == '\n' || c == ';' || c == '&' || c == '|' || c == '<' ||
    c == '>' || c == '(' || c == ')'

/-- Drops blanks, continued lines, and a comment if one follows. -/
def skipBlanks : List Char → List Char
  | ' ' :: rest | '\t' :: rest => skipBlanks rest
  | '\\' :: '\n' :: rest => skipBlanks rest
  | '#' :: rest => rest.dropWhile (· != '\n')
  | text => text

/-- Whether a character can begin a name. -/
def isNameStart (c : Char) : Bool := c.isAlpha || c == '_'

/-- Whether a character can stand in a name. -/
def isNamePart (c : Char) : Bool := c.isAlphanum || c == '_'

/-- Whether a text is a name. -/
def isName (text : String) : Bool :=
  match text.toList with
  | [] => false
  | c :: rest => isNameStart c && rest.all isNamePart

/-- The words that are special where a command can begin. -/
def keywords : List String :=
  ["!", "case", "do", "done", "elif", "else", "esac", "fi", "for", "if", "in", "then", "until",
    "while", "\x7b", "\x7d"]

/-- A token, taken for a keyword if it looks like one. -/
def Token.asKeyword : Token → Token
  | word parts =>
    match bareText? parts with
    | some text => if keywords.contains text then keyword text else word parts
    | none => word parts
  | token => token

/-- Whether a token ends a list of commands. -/
def Token.endsList : Token → Bool
  | mark text => text == ")" || text == ";;"
  | keyword name => ["do", "done", "elif", "else", "esac", "fi", "then", "\x7d"].contains name
  | _ => false

/-- The name of a parameter, at the start of a text. In braces, a number may have several
digits. -/
def parameterName? (inBraces : Bool) : List Char → Option (String × List Char)
  | c :: rest =>
    if isNameStart c then
      some (String.ofList ((c :: rest).takeWhile isNamePart), (c :: rest).dropWhile isNamePart)
    else if c.isDigit then
      if inBraces then
        some (String.ofList ((c :: rest).takeWhile Char.isDigit),
          (c :: rest).dropWhile Char.isDigit)
      else some (String.ofList [c], rest)
    else if "@*#?$!-".toList.contains c then some (String.ofList [c], rest)
    else none
  | [] => none

/-- An adjustment of a parameter at the start of a text, and whether an empty value counts as
none. -/
def adjustment? : List Char → Option (Adjustment × Bool × List Char)
  | ':' :: '-' :: rest => some (.orElse, true, rest)
  | ':' :: '=' :: rest => some (.orAssign, true, rest)
  | ':' :: '?' :: rest => some (.orFail, true, rest)
  | ':' :: '+' :: rest => some (.instead, true, rest)
  | '-' :: rest => some (.orElse, false, rest)
  | '=' :: rest => some (.orAssign, false, rest)
  | '?' :: rest => some (.orFail, false, rest)
  | '+' :: rest => some (.instead, false, rest)
  | '#' :: '#' :: rest => some (.withoutStart true, false, rest)
  | '#' :: rest => some (.withoutStart false, false, rest)
  | '%' :: '%' :: rest => some (.withoutEnd true, false, rest)
  | '%' :: rest => some (.withoutEnd false, false, rest)
  | _ => none

/-- The operator of a redirection at the start of a text. -/
def operator? : List Char → Option (String × List Char)
  | '<' :: '<' :: '-' :: rest => some ("<<-", rest)
  | '<' :: '<' :: rest => some ("<<", rest)
  | '<' :: '&' :: rest => some ("<&", rest)
  | '<' :: '>' :: rest => some ("<>", rest)
  | '<' :: rest => some ("<", rest)
  | '>' :: '>' :: rest => some (">>", rest)
  | '>' :: '&' :: rest => some (">&", rest)
  | '>' :: '|' :: rest => some (">|", rest)
  | '>' :: rest => some (">", rest)
  | _ => none

/-- The text of a command in backquotes, and what follows the closing one. Inside double quotes, a
backslash also takes the meaning from a double quote. -/
def untilBackquote (quoted : Bool) : List Char → Option (List Char × List Char)
  | [] => none
  | '\x60' :: rest => some ([], rest)
  | '\\' :: c :: rest =>
    (untilBackquote quoted rest).map fun (body, rest) =>
      if c = '\x60' ∨ c = '\\' ∨ c = '$' ∨ (quoted ∧ c = '"') then (c :: body, rest)
      else ('\\' :: c :: body, rest)
  | c :: rest => (untilBackquote quoted rest).map fun (body, rest) => (c :: body, rest)

/-- The line that stands where a line was taken away: a comment that no script can hold. -/
def takenLine : List Char := ['#', '\x00']

/-- Splits off the first line of a text. -/
def splitLine (text : List Char) : List Char × Option (List Char) :=
  match text.span (· != '\n') with
  | (line, _ :: rest) => (line, some rest)
  | (line, []) => (line, none)

/-- Takes the lines up to a delimiter from a text. The lines before them that stand for others are
kept, and the lines that are taken leave such lines in their place. The fuel is the length of the
text. -/
def takeLines (fuel : Nat) (dropTabs : Bool) (delimiter text : List Char) :
    List Char × List Char :=
  match fuel, text with
  | 0, text => ([], text)
  | _, [] => ([], [])
  | fuel + 1, text =>
    let (whole, rest) := splitLine text
    let line := if dropTabs then whole.dropWhile (· == '\t') else whole
    let behind := match rest with
      | some rest => '\n' :: rest
      | none => []
    if whole = takenLine then
      let (body, others) := takeLines fuel dropTabs delimiter (rest.getD [])
      (body, takenLine ++ ['\n'] ++ others)
    else if line = delimiter then ([], takenLine ++ behind)
    else
      let (body, others) := takeLines fuel dropTabs delimiter (rest.getD [])
      let ended := if rest.isSome then ['\n'] else []
      (line ++ ended ++ body, takenLine ++ ended ++ others)

/-- Takes the text up to a delimiter from the lines below the one that is being read. -/
def takeText (dropTabs : Bool) (delimiter : List Char) : Reader (List Char) := do
  let (line, below) := splitLine (← remaining)
  match below with
  | none => return []
  | some below =>
    let (body, others) := takeLines (below.length + 1) dropTabs delimiter below
    advance (line ++ ['\n'] ++ others)
    return body

/-- What closes quoted text. -/
inductive Closing where
  | quote
  | brace
  | ending
  /-- Two parentheses, outside of others. -/
  | parentheses (depth : Nat)
  deriving DecidableEq, Repr

/-- Whether a backslash takes the meaning from a character of quoted text. -/
def Closing.escapes (closing : Closing) (c : Char) : Bool :=
  c == '$' || c == '\x60' || c == '\\' || (c == '"' && closing != .ending) ||
    (c == '\x7d' && closing == .brace)

/-- The text of a delimiter, and whether some of it is quoted. -/
def delimiterText (word : Word) : List Char × Bool :=
  (word.flatMap fun
    | .literal text _ => text
    | _ => [],
  word.any fun
    | .literal _ quoted => quoted
    | _ => false)

/-- The name and the value of an assignment. -/
def assignment? (word : Word) : Option (String × Word) :=
  go [] word
where
  /-- Looks for the equals sign behind a name. -/
  go (name : List Char) : Word → Option (String × Word)
    | .literal ['='] false :: value =>
      let name := String.ofList name
      if isName name then some (name, value) else none
    | .literal [c] false :: rest => go (name ++ [c]) rest
    | _ => none

/-- How a list of commands ends. -/
inductive ListForm where
  /-- With the line. -/
  | line
  /-- With a token that ends lists, behind one command at least. -/
  | nonempty
  /-- With a token that ends lists. -/
  | any
  deriving DecidableEq, Repr

/-- The builtins that no function can stand for. -/
def specialBuiltins : List String :=
  [".", ":", "break", "continue", "eval", "exec", "exit", "export", "local", "readonly", "return",
    "set", "shift", "times", "trap", "unset"]

mutual

/-- Reads the parts of an unquoted word. In braces it goes on to the closing one. -/
def readWord (fuel : Nat) (inBraces : Bool) : Reader Word :=
  match fuel with
  | 0 => refuse (.unexpected Token.ending.name none)
  | fuel + 1 => do
    match ← remaining with
    | [] => if inBraces then refuse (.missing "\x7d") else return []
    | '\'' :: rest =>
      match rest.span (· != '\'') with
      | (quoted, '\'' :: rest) =>
        advance rest
        return .literal quoted true :: (← readWord fuel inBraces)
      | _ =>
        advance []
        refuse .unfinishedQuote
    | '"' :: rest =>
      advance rest
      let parts ← readQuoted fuel .quote
      return .literal [] true :: parts ++ (← readWord fuel inBraces)
    | '\\' :: '\n' :: rest =>
      advance rest
      readWord fuel inBraces
    | '\\' :: c :: rest =>
      advance rest
      return .literal [c] true :: (← readWord fuel inBraces)
    | '\\' :: [] =>
      advance []
      return [.literal ['\\'] true]
    | '$' :: rest =>
      advance rest
      let part ← readDollar fuel false
      return part :: (← readWord fuel inBraces)
    | '\x60' :: rest =>
      advance rest
      let part ← readBackquoted fuel false
      return part :: (← readWord fuel inBraces)
    | c :: rest =>
      if inBraces ∧ c = '\x7d' then
        advance rest
        return []
      else if ¬ inBraces ∧ endsWord c then return []
      else
        advance rest
        return .literal [c] false :: (← readWord fuel inBraces)

/-- Reads the parts of quoted text, and what closes it. -/
def readQuoted (fuel : Nat) (closing : Closing) : Reader Word :=
  match fuel with
  | 0 => refuse .unfinishedQuote
  | fuel + 1 => do
    match ← remaining, closing with
    | [], .ending => return []
    | [], .quote => refuse .unfinishedQuote
    | [], .brace => refuse .unfinishedQuote
    | [], .parentheses _ => refuse (.missing "))")
    | '"' :: rest, .quote =>
      advance rest
      return []
    | '\x7d' :: rest, .brace =>
      advance rest
      return []
    | ')' :: ')' :: rest, .parentheses 0 =>
      advance rest
      return []
    | ')' :: rest, .parentheses (depth + 1) =>
      advance rest
      return .literal [')'] true :: (← readQuoted fuel (.parentheses depth))
    | '(' :: rest, .parentheses depth =>
      advance rest
      return .literal ['('] true :: (← readQuoted fuel (.parentheses (depth + 1)))
    | '"' :: rest, .brace =>
      advance rest
      let parts ← readQuoted fuel .quote
      return parts ++ (← readQuoted fuel closing)
    | '\\' :: '\n' :: rest, closing =>
      advance rest
      readQuoted fuel closing
    | '\\' :: c :: rest, closing =>
      advance rest
      let text := if closing.escapes c then [c] else ['\\', c]
      return .literal text true :: (← readQuoted fuel closing)
    | '$' :: rest, closing =>
      advance rest
      let part ← readDollar fuel true
      return part :: (← readQuoted fuel closing)
    | '\x60' :: rest, closing =>
      advance rest
      let part ← readBackquoted fuel true
      return part :: (← readQuoted fuel closing)
    | c :: rest, closing =>
      advance rest
      return .literal [c] true :: (← readQuoted fuel closing)

/-- Reads what follows a dollar sign. -/
def readDollar (fuel : Nat) (quoted : Bool) : Reader Part :=
  match fuel with
  | 0 => refuse (.unexpected Token.ending.name none)
  | fuel + 1 => do
    match ← remaining with
    | '(' :: '(' :: rest =>
      advance rest
      return .arithmetic (← readQuoted fuel (.parentheses 0)) quoted
    | '(' :: rest =>
      advance rest
      let commands ← readList fuel .any
      match ← readToken fuel false false with
      | .mark ")" => return .substitution (.sequence commands) quoted
      | token => refuseToken token (some "\")\"")
    | '\x7b' :: rest =>
      advance rest
      readBraces fuel quoted
    | text =>
      match parameterName? false text with
      | some (name, rest) =>
        advance rest
        return .parameter name quoted
      | none => return .literal ['$'] quoted

/-- Reads a parameter in braces, behind the opening one. -/
def readBraces (fuel : Nat) (quoted : Bool) : Reader Part :=
  match fuel with
  | 0 => refuse (.missing "\x7d")
  | fuel + 1 => do
    let readRest : Reader Word :=
      if quoted then readQuoted fuel .brace else readWord fuel true
    let text ← remaining
    match text with
    | '#' :: '\x7d' :: rest =>
      advance rest
      return .parameter "#" quoted
    | '#' :: rest =>
      match parameterName? true rest with
      | some (name, '\x7d' :: rest) =>
        advance rest
        return .length name quoted
      | _ =>
        let _ ← readRest
        return .malformed
    | text =>
      match parameterName? true text with
      | some (name, '\x7d' :: rest) =>
        advance rest
        return .parameter name quoted
      | some (name, rest) =>
        match adjustment? rest with
        | some (adjustment, emptyIsNone, rest) =>
          advance rest
          let word ← match adjustment with
            | .withoutStart _ | .withoutEnd _ => readWord fuel true
            | _ => readRest
          return .adjusted name adjustment emptyIsNone word quoted
        | none =>
          let _ ← readRest
          return .malformed
      | none =>
        let _ ← readRest
        return .malformed

/-- Reads a command in backquotes, behind the opening one. -/
def readBackquoted (fuel : Nat) (quoted : Bool) : Reader Part :=
  match fuel with
  | 0 => refuse .unfinishedBackquote
  | fuel + 1 => do
    match untilBackquote quoted (← remaining) with
    | some (body, rest) =>
      advance rest
      let commands ← readingInstead body (readList fuel .any)
      return .substitution (.sequence commands) quoted
    | none =>
      advance []
      refuse .unfinishedBackquote

/-- Reads a token. Line ends are passed over when newlines are asked for, and words can be
keywords when those are. -/
def readToken (fuel : Nat) (newlines asKeyword : Bool) : Reader Token :=
  match fuel with
  | 0 => refuse (.unexpected Token.ending.name none)
  | fuel + 1 => do
    let token ← match (← get).returned with
      | some token =>
        modify fun cursor => { cursor with returned := none }
        pure token
      | none => scan fuel
    match token with
    | .newline => if newlines then readToken fuel newlines asKeyword else return .newline
    | token => return if asKeyword then token.asKeyword else token

/-- Reads a token from the text. -/
def scan (fuel : Nat) : Reader Token :=
  match fuel with
  | 0 => refuse (.unexpected Token.ending.name none)
  | fuel + 1 => do
    let text := skipBlanks (← remaining)
    let taking (token : Token) (rest : List Char) : Reader Token := do
      advance rest
      return token
    match text with
    | [] => taking .ending []
    | '\n' :: rest => taking .newline rest
    | '&' :: '&' :: rest => taking (.mark "&&") rest
    | '&' :: rest => taking (.mark "&") rest
    | '|' :: '|' :: rest => taking (.mark "||") rest
    | '|' :: rest => taking (.mark "|") rest
    | ';' :: ';' :: rest => taking (.mark ";;") rest
    | ';' :: rest => taking (.mark ";") rest
    | '(' :: rest => taking (.mark "(") rest
    | ')' :: rest => taking (.mark ")") rest
    | c :: behind =>
      match operator? text with
      | some (operator, rest) => taking (.redirection none operator) rest
      | none =>
        match if c.isDigit then operator? behind else none with
        | some (operator, rest) => taking (.redirection (some (c.toNat - 48)) operator) rest
        | none =>
          advance text
          return .word (← readWord fuel false)

/-- Reads a redirection, behind its operator. -/
def readRedirection (fuel : Nat) (stream : Option Nat) (operator : String) : Reader Redirection :=
  match fuel with
  | 0 => refuse (.unexpected Token.ending.name none)
  | fuel + 1 => do
    match ← readToken fuel false false with
    | .word word =>
      match operator with
      | ">" => return .toFile (stream.getD 1) .anew word
      | ">|" => return .toFile (stream.getD 1) .over word
      | ">>" => return .toFile (stream.getD 1) .behind word
      | ">&" => return .duplicate (stream.getD 1) word
      | "<&" => return .duplicate (stream.getD 0) word
      | "<<" | "<<-" =>
        let (delimiter, quoted) := delimiterText word
        let body ← takeText (operator == "<<-") delimiter
        if quoted then return .fromText (stream.getD 0) [.literal body true]
        else return .fromText (stream.getD 0) (← readingInstead body (readQuoted fuel .ending))
      | _ => return .fromFile (stream.getD 0) word
    | token => refuseToken token none

/-- Reads commands that follow each other. -/
def readList (fuel : Nat) (form : ListForm) : Reader (List Command) :=
  match fuel with
  | 0 => refuse (.unexpected Token.ending.name none)
  | fuel + 1 => do
    let token ← readToken fuel (form != .line) true
    match token, form with
    | .newline, .line => return []
    | .ending, .line | .ending, .any =>
      putBack token
      return []
    | token, form =>
      putBack token
      if form = .any ∧ token.endsList then return []
      else
        let first ← readCondition fuel
        let form := if form = .line then .line else .any
        match ← readToken fuel false false with
        | .mark ";" => return first :: (← readList fuel form)
        | .mark "&" => return .background first :: (← readList fuel form)
        | .newline =>
          putBack .newline
          return first :: (← readList fuel form)
        | token =>
          if form = .line ∧ token.name ≠ Token.ending.name then refuseToken token none
          putBack token
          return [first]

/-- Reads pipelines joined by conditions. -/
def readCondition (fuel : Nat) : Reader Command :=
  match fuel with
  | 0 => refuse (.unexpected Token.ending.name none)
  | fuel + 1 => do
    let first ← readPipeline fuel false
    readConditionTail fuel first

/-- Reads the conditions that follow a pipeline. -/
def readConditionTail (fuel : Nat) (left : Command) : Reader Command :=
  match fuel with
  | 0 => refuse (.unexpected Token.ending.name none)
  | fuel + 1 => do
    match ← readToken fuel false false with
    | .mark "&&" => readConditionTail fuel (.both left (← readPipeline fuel true))
    | .mark "||" => readConditionTail fuel (.either left (← readPipeline fuel true))
    | token =>
      putBack token
      return left

/-- Reads commands joined by pipes. -/
def readPipeline (fuel : Nat) (newlines : Bool) : Reader Command :=
  match fuel with
  | 0 => refuse (.unexpected Token.ending.name none)
  | fuel + 1 => do
    match ← readToken fuel newlines true with
    | .keyword "!" =>
      let stages ← readStages fuel (← readToken fuel false true)
      return .pipeline true stages
    | token =>
      match ← readStages fuel token with
      | [stage] => return stage
      | stages => return .pipeline false stages

/-- Reads the stages of a pipeline, behind the first token. -/
def readStages (fuel : Nat) (token : Token) : Reader (List Command) :=
  match fuel with
  | 0 => refuse (.unexpected Token.ending.name none)
  | fuel + 1 => do
    let stage ← readCommand fuel token
    match ← readToken fuel false false with
    | .mark "|" => return stage :: (← readStages fuel (← readToken fuel true true))
    | token =>
      putBack token
      return [stage]

/-- Reads a command, behind its first token. -/
def readCommand (fuel : Nat) (token : Token) : Reader Command :=
  match fuel with
  | 0 => refuse (.unexpected Token.ending.name none)
  | fuel + 1 => do
    match token with
    | .keyword "if" => readRedirected fuel (← readBranch fuel)
    | .keyword "while" | .keyword "until" =>
      let condition ← readList fuel .nonempty
      expectKeyword fuel "do"
      let body ← readList fuel .nonempty
      expectKeyword fuel "done"
      let whileTrue := token.name == (Token.keyword "while").name
      readRedirected fuel (.loop whileTrue (.sequence condition) (.sequence body))
    | .keyword "for" => readRedirected fuel (← readEach fuel)
    | .keyword "case" =>
      match ← readToken fuel false false with
      | .word subject =>
        match ← readToken fuel true true with
        | .keyword "in" =>
          let arms ← readArms fuel
          readRedirected fuel (.choice subject arms)
        | token => refuseToken token (some "\"in\"")
      | token => refuseToken token (some "word")
    | .mark "(" =>
      let body ← readList fuel .nonempty
      match ← readToken fuel false false with
      | .mark ")" => readRedirected fuel (.isolated (.sequence body))
      | token => refuseToken token (some "\")\"")
    | .keyword "\x7b" =>
      let body ← readList fuel .nonempty
      expectKeyword fuel "\x7d"
      readRedirected fuel (.sequence body)
    | .word _ | .redirection _ _ =>
      putBack token
      readSimple fuel (← lineNumber) [] [] []
    | token => refuseToken token none

/-- Consumes a keyword that must follow. -/
def expectKeyword (fuel : Nat) (name : String) : Reader Unit :=
  match fuel with
  | 0 => refuse (.unexpected Token.ending.name none)
  | fuel + 1 => do
    match ← readToken fuel false true with
    | .keyword found =>
      if found ≠ name then refuseToken (.keyword found) (some ("\"" ++ name ++ "\""))
    | token => refuseToken token (some ("\"" ++ name ++ "\""))

/-- Reads the redirections behind a command. -/
def readRedirected (fuel : Nat) (command : Command) : Reader Command :=
  match fuel with
  | 0 => refuse (.unexpected Token.ending.name none)
  | fuel + 1 => do
    match ← readRedirections fuel with
    | [] => return command
    | redirections => return .redirected command redirections

/-- Reads redirections that follow each other. -/
def readRedirections (fuel : Nat) : Reader (List Redirection) :=
  match fuel with
  | 0 => refuse (.unexpected Token.ending.name none)
  | fuel + 1 => do
    match ← readToken fuel false true with
    | .redirection stream operator =>
      let redirection ← readRedirection fuel stream operator
      return redirection :: (← readRedirections fuel)
    | token =>
      putBack token
      return []

/-- Reads a condition and its branches, behind the keyword that opens it. -/
def readBranch (fuel : Nat) : Reader Command :=
  match fuel with
  | 0 => refuse (.unexpected Token.ending.name none)
  | fuel + 1 => do
    let condition ← readList fuel .nonempty
    expectKeyword fuel "then"
    let whenTrue ← readList fuel .nonempty
    match ← readToken fuel false true with
    | .keyword "elif" =>
      return .branch (.sequence condition) (.sequence whenTrue) (← readBranch fuel)
    | .keyword "else" =>
      let whenFalse ← readList fuel .nonempty
      expectKeyword fuel "fi"
      return .branch (.sequence condition) (.sequence whenTrue) (.sequence whenFalse)
    | token =>
      putBack token
      expectKeyword fuel "fi"
      return .branch (.sequence condition) (.sequence whenTrue) (.sequence [])

/-- Reads a loop over words, behind the keyword that opens it. -/
def readEach (fuel : Nat) : Reader Command :=
  match fuel with
  | 0 => refuse (.unexpected Token.ending.name none)
  | fuel + 1 => do
    let name ← match ← readToken fuel false false with
      | .word parts =>
        match bareText? parts with
        | some name => if isName name then pure name else refuse .badLoopName
        | none => refuse .badLoopName
      | _ => refuse .badLoopName
    let words ← match ← readToken fuel true true with
      | .keyword "in" =>
        let (words, last) ← readWords fuel
        match last with
        | .newline | .mark ";" => pure (some words)
        | token => refuseToken token none
      | .mark ";" => pure none
      | token =>
        putBack token
        pure none
    match ← readToken fuel true true with
    | .keyword "do" =>
      let body ← readList fuel .nonempty
      expectKeyword fuel "done"
      return .each name words (.sequence body)
    | token => refuseToken token (some "\"do\"")

/-- Reads words that follow each other, and the token behind them. -/
def readWords (fuel : Nat) : Reader (List Word × Token) :=
  match fuel with
  | 0 => refuse (.unexpected Token.ending.name none)
  | fuel + 1 => do
    match ← readToken fuel false false with
    | .word word =>
      let (words, last) ← readWords fuel
      return (word :: words, last)
    | token => return ([], token)

/-- Reads the arms of a choice, and the keyword that closes it. -/
def readArms (fuel : Nat) : Reader (List (List Word × Command)) :=
  match fuel with
  | 0 => refuse (.unexpected Token.ending.name none)
  | fuel + 1 => do
    match ← readToken fuel true true with
    | .keyword "esac" => return []
    | token =>
      let token ← match token with
        | .mark "(" => readToken fuel false false
        | token => pure token
      let patterns ← readPatterns fuel token
      let body ← readList fuel .any
      match ← readToken fuel true true with
      | .keyword "esac" => return [(patterns, .sequence body)]
      | .mark ";;" => return (patterns, .sequence body) :: (← readArms fuel)
      | token => refuseToken token (some "\";;\"")

/-- Reads the patterns of an arm behind the first token, and the parenthesis behind them. -/
def readPatterns (fuel : Nat) (token : Token) : Reader (List Word) :=
  match fuel with
  | 0 => refuse (.unexpected Token.ending.name none)
  | fuel + 1 => do
    let pattern : Word := match token with
      | .word parts => parts
      | .keyword name => [.literal name.toList false]
      | _ => []
    match ← readToken fuel false false with
    | .mark "|" => return pattern :: (← readPatterns fuel (← readToken fuel false false))
    | .mark ")" => return [pattern]
    | token => refuseToken token (some "\")\"")

/-- Reads a simple command: assignments, words and redirections, each newest first. A word with
parentheses behind it is the name of a function. -/
def readSimple (fuel line : Nat) (assignments : List (String × Word)) (words : List Word)
    (redirections : List Redirection) : Reader Command :=
  match fuel with
  | 0 => refuse (.unexpected Token.ending.name none)
  | fuel + 1 => do
    match ← readToken fuel false false with
    | .word word =>
      match if words.isEmpty then assignment? word else none with
      | some assignment => readSimple fuel line (assignment :: assignments) words redirections
      | none => readSimple fuel line assignments (word :: words) redirections
    | .redirection stream operator =>
      let redirection ← readRedirection fuel stream operator
      readSimple fuel line assignments words (redirection :: redirections)
    | token =>
      match token, words with
      | .mark "(", [word] =>
        if assignments.isEmpty ∧ redirections.isEmpty then
          match ← readToken fuel false false with
          | .mark ")" =>
            match bareText? word with
            | some name =>
              if isName name ∧ ¬ specialBuiltins.contains name then
                return .define name (← readCommand fuel (← readToken fuel true true))
              else refuse .badFunctionName
            | none => refuse .badFunctionName
          | token => refuseToken token (some "\")\"")
        else
          putBack token
          return .simple line assignments.reverse words.reverse redirections.reverse
      | token, words =>
        putBack token
        return .simple line assignments.reverse words.reverse redirections.reverse

end

/-- Reads the lines of a script one after the other, up to the first fault. -/
def readLines (fuel total : Nat) (cursor : Cursor) : Script :=
  match fuel with
  | 0 => ⟨[], none⟩
  | fuel + 1 =>
    if cursor.text.isEmpty then ⟨[], none⟩
    else match ((readList (32 * cursor.text.length + 64) .line).run total).run cursor with
      | .ok (commands, cursor) =>
        let ⟨others, fault⟩ := readLines fuel total { cursor with returned := none }
        if commands.isEmpty then ⟨others, fault⟩ else ⟨.sequence commands :: others, fault⟩
      | .error fault => ⟨[], some fault⟩

/-- The commands of a script. -/
def readScript (text : String) : Script :=
  let text := text.toList
  readLines (text.length + 1) (text.count '\n') ⟨text, none⟩

end SyntaxFold.Sandbox.Shell
