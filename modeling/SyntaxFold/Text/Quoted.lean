import SyntaxFold.Text.Shown

/-!
# Quoted text

The text of a string in quotes, with everything escaped that would not be seen as it is. Quotes,
backslashes and the four commonest controls have short escapes, all other hidden characters are
written by their number.
-/

namespace SyntaxFold.Text

/-- The text of a character inside quotes. -/
def quotedChar (c : Char) : List Char :=
  match c with
  | '"' => ['\\', '"']
  | '\\' => ['\\', '\\']
  | '\n' => ['\\', 'n']
  | '\r' => ['\\', 'r']
  | '\t' => ['\\', 't']
  | '\x00' => ['\\', '0']
  | _ =>
    if isShown c then [c]
    else ['\\', 'u', '\x7b'] ++ Nat.toDigits 16 c.toNat ++ ['\x7d']

/-- A text in quotes. -/
def quoted (text : String) : String :=
  "\"" ++ String.ofList (text.toList.flatMap quotedChar) ++ "\""

end SyntaxFold.Text
