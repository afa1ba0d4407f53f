import SyntaxFold.Json.Number

/-!
# Tokens of JSON text

Text is cut into tokens by a machine that reads one character at a time and remembers the token
that has begun. Strings, numbers and words become scalar tokens; everything else is punctuation.
-/

namespace SyntaxFold.Json

/-- A token of JSON text. -/
inductive Token where
  | openArray
  | closeArray
  | openObject
  | closeObject
  | comma
  | colon
  | scalar (value : Json)

namespace Token

/-- The token that has begun, with the characters of its text newest first. -/
inductive Pending where
  | nothing
  | number (text : List Char)
  | word (text : List Char)
  | string (text : List Char)
  /-- After a backslash inside a string. -/
  | escape (text : List Char)
  /-- Inside a four-digit escape: the first half of a surrogate pair, if one came before, and the
  value and number of the digits read so far. -/
  | hexadecimal (text : List Char) (high : Option Nat) (value count : Nat)
  /-- After the first half of a surrogate pair, and after a backslash behind it. -/
  | halfPair (text : List Char) (high : Nat)
  | halfPairEscape (text : List Char) (high : Nat)

/-- The machine: the tokens that are complete, newest first, and the one that has begun. -/
structure Scanner where
  tokens : List Token
  pending : Pending

/-- The value of a hexadecimal digit in either case. -/
def hexDigit? (c : Char) : Option Nat :=
  if '0' ≤ c ∧ c ≤ '9' then some (c.toNat - '0'.toNat)
  else if 'a' ≤ c ∧ c ≤ 'f' then some (c.toNat - 'a'.toNat + 10)
  else if 'A' ≤ c ∧ c ≤ 'F' then some (c.toNat - 'A'.toNat + 10)
  else none

/-- The character that a one-letter escape stands for. -/
def escaped? : Char → Option Char
  | '"' => some '"'
  | '\\' => some '\\'
  | '/' => some '/'
  | 'b' => some '\x08'
  | 'f' => some '\x0c'
  | 'n' => some '\n'
  | 'r' => some '\r'
  | 't' => some '\t'
  | _ => none

/-- What follows a complete four-digit escape: a character, or the first half of a surrogate pair
that waits for its second half. A half without its partner is an error. -/
def closeHexadecimal (text : List Char) (high : Option Nat) (unit : Nat) : Option Pending :=
  match high with
  | some high =>
    if 0xDC00 ≤ unit ∧ unit ≤ 0xDFFF then
      let point := 0x10000 + (high - 0xD800) * 0x400 + (unit - 0xDC00)
      some (.string (Char.ofNat point :: text))
    else none
  | none =>
    if 0xDC00 ≤ unit ∧ unit ≤ 0xDFFF then none
    else if 0xD800 ≤ unit ∧ unit ≤ 0xDBFF then some (.halfPair text unit)
    else some (.string (Char.ofNat unit :: text))

/-- The literal words. -/
def ofWord? (word : String) : Option Token :=
  if word = "null" then some (.scalar .null)
  else if word = "true" then some (.scalar (.bool true))
  else if word = "false" then some (.scalar (.bool false))
  else none

/-- Begins a token with a character. -/
def Scanner.begin (tokens : List Token) (c : Char) : Option Scanner :=
  let complete (token : Token) : Option Scanner := some ⟨token :: tokens, .nothing⟩
  match c with
  | ' ' | '\t' | '\n' | '\r' => some ⟨tokens, .nothing⟩
  | '[' => complete .openArray
  | ']' => complete .closeArray
  | '\x7b' => complete .openObject
  | '\x7d' => complete .closeObject
  | ',' => complete .comma
  | ':' => complete .colon
  | '"' => some ⟨tokens, .string []⟩
  | '-' => some ⟨tokens, .number [c]⟩
  | _ =>
    if c.isDigit then some ⟨tokens, .number [c]⟩
    else if c.isLower then some ⟨tokens, .word [c]⟩
    else none

/-- Completes a number or a word that has begun; an open string cannot be completed. -/
def Scanner.finish (scanner : Scanner) : Option (List Token) :=
  match scanner.pending with
  | .nothing => some scanner.tokens
  | .number text =>
    (Number.ofText? text.reverse).map fun value => .scalar value :: scanner.tokens
  | .word text =>
    (ofWord? (String.ofList text.reverse)).map (· :: scanner.tokens)
  | _ => none

/-- Whether a character can stand inside a number. -/
def isNumberPart (c : Char) : Bool :=
  c.isDigit || c == '-' || c == '+' || c == '.' || c == 'e' || c == 'E'

/-- Reads one character. -/
def Scanner.step (scanner : Scanner) (c : Char) : Option Scanner :=
  let becomes (pending : Pending) : Option Scanner := some { scanner with pending }
  match scanner.pending with
  | .nothing => begin scanner.tokens c
  | .number text =>
    if isNumberPart c then becomes (.number (c :: text))
    else scanner.finish.bind (begin · c)
  | .word text =>
    if c.isLower then becomes (.word (c :: text)) else scanner.finish.bind (begin · c)
  | .string text =>
    if c = '"' then
      some ⟨.scalar (.string (String.ofList text.reverse)) :: scanner.tokens, .nothing⟩
    else if c = '\\' then becomes (.escape text)
    else if c < ' ' then none
    else becomes (.string (c :: text))
  | .escape text =>
    if c = 'u' then becomes (.hexadecimal text none 0 0)
    else (escaped? c).bind fun plain => becomes (.string (plain :: text))
  | .hexadecimal text high value count =>
    (hexDigit? c).bind fun digit =>
      let value := 16 * value + digit
      if count < 3 then becomes (.hexadecimal text high value (count + 1))
      else (closeHexadecimal text high value).bind becomes
  | .halfPair text high =>
    if c = '\\' then becomes (.halfPairEscape text high) else none
  | .halfPairEscape text high =>
    if c = 'u' then becomes (.hexadecimal text (some high) 0 0) else none

/-- The tokens of a text; `none` when some part of it is no token. -/
def scan (text : List Char) : Option (List Token) :=
  ((text.foldlM Scanner.step ⟨[], .nothing⟩).bind Scanner.finish).map List.reverse

end Token

end SyntaxFold.Json
