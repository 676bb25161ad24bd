/-!
# Bytes as text

A byte string is text when it is a valid encoding of a character sequence in
UTF-8. `ofBytes` shows any byte string: the text it encodes, or its hexadecimal
digits.

`lossy` reads every byte string. Each longest run of bytes that begins a
character but does not finish it, and each byte that cannot begin one, is
replaced by the replacement character.
-/

namespace PubSub

abbrev Bytes := List UInt8

namespace Text

def encode (text : String) : Bytes := text.toUTF8.data.toList

/-- The text encoded by a byte string, if it is a valid encoding. -/
def decode? (bytes : Bytes) : Option String := String.fromUTF8? ⟨bytes.toArray⟩

/-- Reading accepts exactly what writing produces. -/
theorem decode?_eq_some_iff {bytes : Bytes} {text : String} :
    decode? bytes = some text ↔ bytes = encode text := by
  unfold decode? encode String.fromUTF8?
  constructor
  · intro decoded
    split at decoded
    · cases decoded
      rfl
    · contradiction
  · rintro rfl
    exact dif_pos text.isValidUTF8

@[simp] theorem decode?_encode (text : String) : decode? (encode text) = some text :=
  decode?_eq_some_iff.mpr rfl

/-- Two lower-case hexadecimal digits of a byte. -/
def hexByte (byte : UInt8) : List Char :=
  [Nat.digitChar (byte.toNat / 16), Nat.digitChar (byte.toNat % 16)]

def hex (bytes : Bytes) : String := String.ofList (bytes.flatMap hexByte)

/-- A byte string for display: its text, or `hex:` and its digits. -/
def ofBytes (bytes : Bytes) : String :=
  match decode? bytes with
  | some text => text
  | none => "hex:" ++ hex bytes

/-- Byte-wise lexicographic order. -/
def bytesBefore (left right : Bytes) : Bool := decide (left ≤ right)

/-- The character shown in place of bytes that encode none. -/
def replacement : Char := Char.ofNat 0xfffd

/-- Whether a byte continues a character begun earlier. -/
def isContinuation (byte : Nat) : Bool := 0x80 ≤ byte && byte ≤ 0xbf

/-- Bytes after the first that a first byte announces, with the range allowed for the
first of them; `none` if the byte begins no longer character. -/
def announced (first : Nat) : Option (Nat × Nat × Nat) :=
  if 0xc2 ≤ first && first ≤ 0xdf then some (1, 0x80, 0xbf)
  else if first = 0xe0 then some (2, 0xa0, 0xbf)
  else if first = 0xed then some (2, 0x80, 0x9f)
  else if 0xe1 ≤ first && first ≤ 0xef then some (2, 0x80, 0xbf)
  else if first = 0xf0 then some (3, 0x90, 0xbf)
  else if first = 0xf4 then some (3, 0x80, 0x8f)
  else if 0xf1 ≤ first && first ≤ 0xf3 then some (3, 0x80, 0xbf)
  else none

/-- The continuation bytes of a character that are present, at most `count`. -/
def continuations (count low high : Nat) (rest : List Nat) : List Nat :=
  match rest with
  | [] => []
  | next :: others =>
      if count = 0 then []
      else if low ≤ next && next ≤ high then
        next :: (others.takeWhile isContinuation).take (count - 1)
      else []

def codePoint (first count : Nat) (tail : List Nat) : Nat :=
  tail.foldl (fun value byte => value * 64 + byte % 64) (first % (64 >>> count))

/-- The first character of a nonempty byte string and how many bytes follow its first. -/
def firstChar (first : Nat) (rest : List Nat) : Char × Nat :=
  if first < 0x80 then (Char.ofNat first, 0)
  else
    match announced first with
    | none => (replacement, 0)
    | some (count, low, high) =>
        let tail := continuations count low high rest
        if tail.length = count then (Char.ofNat (codePoint first count tail), count)
        else (replacement, tail.length)

/-- The characters of a byte string, with replacements. -/
def lossyChars : List Nat → List Char
  | [] => []
  | first :: rest =>
      (firstChar first rest).1 :: lossyChars (rest.drop (firstChar first rest).2)
termination_by bytes => bytes.length
decreasing_by simp only [List.length_drop, List.length_cons]; omega

/-- The text of a byte string, with replacements. -/
def lossy (bytes : Bytes) : String := String.ofList (lossyChars (bytes.map UInt8.toNat))

end Text
end PubSub
