import PubSub.Text.Printable

/-!
# Quoted text

A quoted text stands between double quotes. The quote, the backslash and four
control characters have a two-character escape; every other character that is
not shown is written as its code point in hexadecimal between braces. The
apostrophe is not escaped.
-/

namespace PubSub
namespace Text

/-- Lower-case hexadecimal digits, most significant first, without leading zeros. -/
def hexDigits (value : Nat) : List Char := Nat.toDigits 16 value

def codePointEscape (character : Char) : List Char :=
  ['\\', 'u', '\x7b'] ++ hexDigits character.toNat ++ ['\x7d']

/-- A character as it is written between double quotes. -/
def quoteChar (character : Char) : List Char :=
  if character = '"' then ['\\', '"']
  else if character = '\\' then ['\\', '\\']
  else if character = '\n' then ['\\', 'n']
  else if character = '\t' then ['\\', 't']
  else if character = '\r' then ['\\', 'r']
  else if character = '\x00' then ['\\', '0']
  else if isShown character then [character]
  else codePointEscape character

/-- A text between double quotes, with its escapes. -/
def quoted (text : String) : String :=
  String.ofList ('"' :: (text.toList.flatMap quoteChar ++ ['"']))

end Text
end PubSub
