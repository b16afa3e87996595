import ChainRecord.Text.Graphic

/-!
# Quoted text

Error messages show the text they complain about in double quotes, in a form that stays on one
line and makes every character visible: the quote and the backslash are escaped, five controls
have letters, and every other hidden character is named by its number in braces.
-/

namespace ChainRecord.Text

/-- Lower case hexadecimal digits of a number, without leading zeros. -/
def hexNumeral (n : Nat) : String :=
  String.ofList (Nat.toDigits 16 n)

/-- The form of one character inside quotes. -/
def quoteChar (c : Char) : String :=
  if c = '\x00' then "\\0"
  else if c = '\t' then "\\t"
  else if c = '\r' then "\\r"
  else if c = '\n' then "\\n"
  else if c = '\\' then "\\\\"
  else if c = '"' then "\\\""
  else if isHidden c then "\\u\x7b" ++ hexNumeral c.toNat ++ "\x7d"
  else String.singleton c

/-- A text in double quotes. -/
def quote (text : String) : String :=
  "\"" ++ String.join (text.toList.map quoteChar) ++ "\""

end ChainRecord.Text
