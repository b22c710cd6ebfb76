import Distill.Text.Digits
import Distill.Text.Printable

/-!
Quoted text for messages and log lines: double quotes around, printable characters as they are, everything
else as an escape.
-/
namespace Distill.Text

/-- One character between quotes. -/
def quotedChar (c : Char) : String :=
  if c = '"' then "\\\""
  else if c = '\\' then "\\\\"
  else if isPrintable c then String.singleton c
  else match c.toNat with
    | 0x07 => "\\a"
    | 0x08 => "\\b"
    | 0x0C => "\\f"
    | 0x0A => "\\n"
    | 0x0D => "\\r"
    | 0x09 => "\\t"
    | 0x0B => "\\v"
    | n =>
      if n < 0x20 ∨ n = 0x7F then "\\x" ++ hex 2 n
      else if n < 0x10000 then "\\u" ++ hex 4 n
      else "\\U" ++ hex 8 n

/-- The text between double quotes. -/
def quoted (s : String) : String :=
  "\"" ++ String.join (s.toList.map quotedChar) ++ "\""

/-- Blanks outside ASCII. -/
def isWideBlank (c : Char) : Bool :=
  [0x85, 0xA0, 0x1680, 0x2028, 0x2029, 0x202F, 0x205F, 0x3000].contains c.toNat ||
    (0x2000 ≤ c.toNat && c.toNat ≤ 0x200A)

/-- Whether a character forces quotes around a value in a log line. -/
def forcesQuotes (c : Char) : Bool :=
  if c.toNat < 0x80 then c == ' ' || c == '=' || c == '"' || c.toNat < 0x20
  else c == '�' || isWideBlank c || !isPrintable c

/-- A value in a log line: as it is where that is unambiguous, else between quotes. -/
def logValue (s : String) : String :=
  if s.isEmpty || s.toList.any forcesQuotes then quoted s else s

end Distill.Text
