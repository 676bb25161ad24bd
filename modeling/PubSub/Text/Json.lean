/-!
# Compact JSON

Strings and lists in JSON without blanks. The quote, the backslash and the control
characters are escaped; everything else stands for itself.
-/

namespace PubSub
namespace Text

def jsonChar (character : Char) : List Char :=
  if character = '"' then ['\\', '"']
  else if character = '\\' then ['\\', '\\']
  else if character = '\n' then ['\\', 'n']
  else if character = '\t' then ['\\', 't']
  else if character = '\r' then ['\\', 'r']
  else if character = '\x08' then ['\\', 'b']
  else if character = '\x0c' then ['\\', 'f']
  else if character.toNat < 32 then
    ['\\', 'u', '0', '0', Nat.digitChar (character.toNat / 16),
      Nat.digitChar (character.toNat % 16)]
  else [character]

def jsonString (text : String) : String :=
  String.ofList ('"' :: (text.toList.flatMap jsonChar ++ ['"']))

def jsonList (values : List String) : String := "[" ++ ",".intercalate values ++ "]"

end Text
end PubSub
