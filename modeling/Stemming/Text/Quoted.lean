import Stemming.Text.Escaped

set_option autoImplicit false

namespace Stemming.Text

def hexDigits (code : Nat) : List Char :=
  Nat.toDigits 16 code

/-- How quoted text shows one character. -/
def quotedChar (letter : Char) : List Char :=
  match letter with
  | '\x00' => ['\\', '0']
  | '\t' => ['\\', 't']
  | '\n' => ['\\', 'n']
  | '\r' => ['\\', 'r']
  | '"' => ['\\', '"']
  | '\\' => ['\\', '\\']
  | _ =>
    if isEscaped letter then ['\\', 'u', '\x7b'] ++ hexDigits letter.toNat ++ ['\x7d']
    else [letter]

/-- A text between double quotes. -/
def quoted (text : String) : String :=
  String.ofList (['"'] ++ text.toList.flatMap quotedChar ++ ['"'])

end Stemming.Text
