import StructLang.Text.Unprintable

/-!
# Quoted text

A name shown inside a message is put in double quotes, with everything escaped that would not be
seen for what it is. The quote, the backslash, and tab, line feed, carriage return and NUL have
short forms; any other unprintable or combining character is written by its number, `\u` and the
number in braces, in lower-case hexadecimal digits without leading zeros. All other characters,
of whatever script, stand for themselves.
-/

namespace StructLang.Text.Quoted

/-- The escape by number: `\u` and the number in braces. -/
def byNumber (c : Char) : String :=
  "\\u\x7b" ++ String.ofList (Nat.toDigits 16 c.toNat) ++ "\x7d"

/-- The text that stands for one character between the quotes. -/
def encodeChar (c : Char) : String :=
  if c = '"' then "\\\""
  else if c = '\\' then "\\\\"
  else if c = '\n' then "\\n"
  else if c = '\t' then "\\t"
  else if c = '\r' then "\\r"
  else if c = '\x00' then "\\0"
  else if isUnprintable c then byNumber c
  else c.toString

/-- The text in double quotes. -/
def encode (s : String) : String :=
  "\"" ++ String.join (s.toList.map encodeChar) ++ "\""

end StructLang.Text.Quoted
