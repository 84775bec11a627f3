import ModalLexer.Text.Hex
import ModalLexer.Unicode.Character

/-!
# Quoted text

A quoted text stands between quotation marks. The mark itself, the backslash and the most common
controls are written with a backslash and one more character, all other characters that cannot be
seen on their own by number, and the rest as they are.
-/

namespace ModalLexer.Text

/-- A character inside quotation marks of a given kind. -/
def escapeChar (mark c : Char) : List Char :=
  if c == '\x00' then ['\\', '0']
  else if c == '\t' then ['\\', 't']
  else if c == '\r' then ['\\', 'r']
  else if c == '\n' then ['\\', 'n']
  else if c == '\\' || c == mark then ['\\', c]
  else if Unicode.isVisible c then [c]
  else ['\\', 'u', '\x7B'] ++ hexDigits c.toNat ++ ['\x7D']

/-- A text between double quotation marks. -/
def quote (s : String) : String :=
  String.ofList ('"' :: s.toList.flatMap (escapeChar '"') ++ ['"'])

/-- A character between single quotation marks. -/
def quoteChar (c : Char) : String :=
  String.ofList ('\'' :: escapeChar '\'' c ++ ['\''])

end ModalLexer.Text
