import NetReconcile.Unicode.Printable

/-!
# Quoted text for diagnostics

Diagnostics show a text between double quotes. Inside, a double quote and a backslash
get a backslash, tab, carriage return, line feed and NUL their short escapes, and a
character that would not show as itself (a control, format or unassigned code point, a
space other than the plain one, or a mark that extends the character before it) is
written as `\u{hex}` with lowercase digits. Every other character stands as itself.
-/

namespace NetReconcile.Text

/-- Lowercase hexadecimal digits of a number, at least one. -/
def hexDigits (n : Nat) : String := String.ofList (Nat.toDigits 16 n)

/-- How one character is written between the quotes. -/
def quoteChar (c : Char) : String :=
  if c = '"' then "\\\""
  else if c = '\\' then "\\\\"
  else if c = '\t' then "\\t"
  else if c = '\r' then "\\r"
  else if c = '\n' then "\\n"
  else if c = '\x00' then "\\0"
  else if Unicode.isEscaped c.toNat then
    "\\u\x7b" ++ hexDigits c.toNat ++ "\x7d"
  else String.singleton c

/-- A text between double quotes, escaped for a diagnostic. -/
def quoted (s : String) : String := "\"" ++ String.join (s.toList.map quoteChar) ++ "\""

end NetReconcile.Text
