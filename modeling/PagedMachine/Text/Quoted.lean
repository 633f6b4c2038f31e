import PagedMachine.Text.Printable
import PagedMachine.Text.GraphemeExtend

/-!
# Quoted names in messages

A name that a user typed is shown in messages between double quotes, so that an empty or
blank name stays visible. Inside the quotes a double quote and a backslash are preceded by a
backslash; tab, line feed, carriage return and NUL are written `\t`, `\n`, `\r`, `\0`; a
grapheme extender, which would otherwise merge into the quote or the character before it, and
every character that does not print as itself, are written `\u{hex}` with lowercase
hexadecimal digits and no leading zeros. Every other character stands for itself.
-/

namespace PagedMachine.Text

/-- Lowercase hexadecimal digits of `n`, without leading zeros. -/
def hexDigits (n : Nat) : String :=
  String.ofList (Nat.toDigits 16 n)

/-- Characters written as their code point: grapheme extenders and unprintable characters. -/
def isEscaped (c : Char) : Bool :=
  isGraphemeExtend c || !isPrintable c

/-- How one character is written inside quotes. -/
def escapeChar (c : Char) : String :=
  if c == '"' then "\\\""
  else if c == '\\' then "\\\\"
  else if c == '\t' then "\\t"
  else if c == '\n' then "\\n"
  else if c == '\r' then "\\r"
  else if c.toNat == 0 then "\\0"
  else if isEscaped c then "\\u\x7b" ++ hexDigits c.toNat ++ "\x7d"
  else c.toString

/-- A name between double quotes, escaped as the module docstring says. -/
def quoted (name : String) : String :=
  "\"" ++ String.join (name.toList.map escapeChar) ++ "\""

end PagedMachine.Text
