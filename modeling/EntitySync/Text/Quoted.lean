import EntitySync.Text.Unprintable

/-!
# Quoted text

A text between double quotes, as it is shown in messages: the quote, the backslash and unprintable
characters are escaped, all else stands as it is.
-/

namespace EntitySync

namespace Text

/-- Lowercase hexadecimal digits of a code point. -/
def hexDigits (c : Char) : List Char := Nat.toDigits 16 c.toNat

/-- A character between the quotes. -/
def quoteChar (c : Char) : List Char :=
  if c = '\x00' then ['\\', '0']
  else if c = '\t' then ['\\', 't']
  else if c = '\r' then ['\\', 'r']
  else if c = '\n' then ['\\', 'n']
  else if c = '\\' then ['\\', '\\']
  else if c = '"' then ['\\', '"']
  else if isUnprintable c then ['\\', 'u', '{'] ++ hexDigits c ++ ['}']
  else [c]

def quoted (text : String) : String :=
  String.ofList ('"' :: text.toList.flatMap quoteChar ++ ['"'])

end Text

end EntitySync
