import StagedBuilder.Character.Printable

/-!
# Quoted text

A text between double quotes, readable again by whoever knows the escapes: the quote and the
backslash are escaped, and so is every character that would not show as itself, the marks that
would join the character before them included.
-/

namespace StagedBuilder.Text

def hexadecimal (n : Nat) : List Char := Nat.toDigits 16 n

/-- What stands for a character between double quotes. -/
def escape (c : Char) : List Char :=
  match c with
  | '\x00' => ['\\', '0']
  | '\t' => ['\\', 't']
  | '\r' => ['\\', 'r']
  | '\n' => ['\\', 'n']
  | '"' => ['\\', '"']
  | '\\' => ['\\', '\\']
  | c =>
    if Character.isGraphemeExtender c || !Character.isPrintable c then
      '\\' :: 'u' :: '{' :: hexadecimal c.toNat ++ ['}']
    else [c]

/-- The text between double quotes, escaped character by character. -/
def quoted (text : String) : String :=
  String.ofList ('"' :: text.toList.flatMap escape ++ ['"'])

/-- Escapes for a string literal. A NUL before an octal digit is written with two digits, so
that nobody takes the pair for an octal escape. -/
def escapeLiteral : List Char → List Char
  | [] => []
  | '\x00' :: d :: rest =>
    (if '0' ≤ d ∧ d ≤ '7' then ['\\', 'x', '0', '0'] else ['\\', '0']) ++ escapeLiteral (d :: rest)
  | c :: rest => escape c ++ escapeLiteral rest

/-- The string literal that denotes the text. -/
def stringLiteral (text : String) : String :=
  String.ofList ('"' :: escapeLiteral text.toList ++ ['"'])

end StagedBuilder.Text
