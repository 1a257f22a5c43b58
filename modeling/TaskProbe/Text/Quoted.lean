import TaskProbe.Text.Digits
import TaskProbe.Text.Printable

/-!
# Quoted text in messages

How messages show a single character between apostrophes and a text between double quotes. NUL, tab,
line feed, carriage return, the backslash and the quote in use are written with a backslash, other
characters that are not printable as their code point in hexadecimal.
-/

namespace TaskProbe.Text

/-- One character inside quotes of the kind `quote`. -/
def escapeQuoted (quote : Char) (c : Char) : List Char :=
  if c = '\x00' then ['\\', '0']
  else if c = '\t' then ['\\', 't']
  else if c = '\n' then ['\\', 'n']
  else if c = '\r' then ['\\', 'r']
  else if c = '\\' then ['\\', '\\']
  else if c = quote then ['\\', quote]
  else if isPrintable c then [c]
  else ['\\', 'u', '\x7b'] ++ digits 16 c.toNat ++ ['\x7d']

/-- A character between apostrophes. -/
def quotedChar (c : Char) : List Char := '\'' :: escapeQuoted '\'' c ++ ['\'']

/-- A text between double quotes. -/
def quoted (s : List Char) : List Char := '"' :: s.flatMap (escapeQuoted '"') ++ ['"']

end TaskProbe.Text
