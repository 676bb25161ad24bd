import Mathlib.Algebra.GroupWithZero.Nat
import Mathlib.Data.List.Nodup
import PubSub.Message.Basic

/-!
# Attributes of messages

The attributes of a message are a map from byte strings to byte strings: each key has one value,
the one that was set last. A driver is given them as a map from texts to texts, which exists exactly
if every key and every value is text. The way to the driver and back loses nothing: as different
byte strings are different texts, no two keys become one.
-/

namespace PubSub

/-! ## Maps as lists of entries -/

section Entries

-- Byte strings are compared as lists, not by their decision procedure, so both are asked for.
variable {Key Value : Type} [DecidableEq Key] [BEq Key] [LawfulBEq Key] {key other : Key}
  {value : Value} {entries : List (Key × Value)}

omit [DecidableEq Key] in
theorem lookup_cons_of_ne (differ : other ≠ key) :
    ((key, value) :: entries).lookup other = entries.lookup other := by
  rw [List.lookup_cons, beq_eq_false_iff_ne.mpr differ]

theorem lookup_setEntry_of_ne (differ : other ≠ key) :
    (setEntry key value entries).lookup other = entries.lookup other := by
  induction entries with
  | nil => exact lookup_cons_of_ne differ
  | cons entry rest hypothesis =>
      obtain ⟨present, stored⟩ := entry
      by_cases same : present = key
      · rw [setEntry, if_pos same, same, lookup_cons_of_ne differ, lookup_cons_of_ne differ]
      · rw [setEntry, if_neg same, List.lookup_cons, List.lookup_cons, hypothesis]

/-- Setting an entry adds its key behind the others, unless it is there. -/
theorem keys_setEntry :
    (setEntry key value entries).map Prod.fst =
      if key ∈ entries.map Prod.fst then entries.map Prod.fst
      else entries.map Prod.fst ++ [key] := by
  induction entries with
  | nil => simp [setEntry]
  | cons entry rest hypothesis =>
      by_cases same : entry.1 = key
      · simp [setEntry, same]
      · simp only [setEntry, if_neg same, List.map_cons, hypothesis, List.mem_cons,
          or_iff_right (Ne.symm same)]
        split <;> rfl

theorem nodup_keys_setEntry (distinct : (entries.map Prod.fst).Nodup) :
    ((setEntry key value entries).map Prod.fst).Nodup := by
  rw [keys_setEntry]
  split
  next => exact distinct
  next absent => exact List.concat_eq_append ▸ distinct.concat absent

/-- Set the entries of a list, one after the other. -/
def setEntries (pairs entries : List (Key × Value)) : List (Key × Value) :=
  pairs.foldl (fun entries pair => setEntry pair.1 pair.2 entries) entries

theorem nodup_keys_setEntries
    {pairs : List (Key × Value)}
    (distinct : (entries.map Prod.fst).Nodup) :
    ((setEntries pairs entries).map Prod.fst).Nodup := by
  induction pairs generalizing entries with
  | nil => exact distinct
  | cons pair rest hypothesis => exact hypothesis (nodup_keys_setEntry distinct)

/-- The value that was set last counts. -/
theorem lookup_setEntries {pairs : List (Key × Value)} :
    (setEntries pairs entries).lookup key =
      (pairs.reverse.lookup key).or (entries.lookup key) := by
  induction pairs generalizing entries with
  | nil => rfl
  | cons pair rest hypothesis =>
      obtain ⟨present, stored⟩ := pair
      have step : setEntries ((present, stored) :: rest) entries =
          setEntries rest (setEntry present stored entries) := rfl
      rw [step, hypothesis, List.reverse_cons, List.lookup_append, Option.or_assoc]
      refine congrArg _ ?_
      by_cases same : key = present
      · simp [same]
      · rw [lookup_setEntry_of_ne same, lookup_cons_of_ne same]
        rfl

end Entries

/-! ## Text -/

namespace Text

/-- Whether a byte string is text: the encodings of characters, one after the other. -/
def IsText (bytes : Bytes) : Prop :=
  ∃ characters : List Char, bytes = characters.flatMap String.utf8EncodeChar

theorem encode_eq_flatMap (text : String) :
    encode text = text.toList.flatMap String.utf8EncodeChar := by
  rw [encode, String.toUTF8, ← String.utf8Encode_toList, List.utf8Encode]
  simp

theorem isText_encode (text : String) : IsText (encode text) := ⟨_, encode_eq_flatMap text⟩

theorem isText_iff_exists_decode? {bytes : Bytes} :
    IsText bytes ↔ ∃ text, decode? bytes = some text := by
  constructor
  · rintro ⟨characters, rfl⟩
    refine ⟨String.ofList characters, decode?_eq_some_iff.mpr ?_⟩
    rw [encode_eq_flatMap, String.toList_ofList]
  · rintro ⟨text, decoded⟩
    exact decode?_eq_some_iff.mp decoded ▸ isText_encode text

-- An encoding that is cut off, one that is longer than it has to be, and one of half a pair.
example : decode? [0xe2, 0x82] = none ∧ decode? [0xc0, 0x80] = none ∧
    decode? [0xed, 0xa0, 0x80] = none ∧ decode? [0xe2, 0x82, 0xac] = some "€" := by
  decide +kernel

theorem encode_injective : Function.Injective encode := by
  intro left right same
  exact Option.some.inj ((decode?_encode left).symm.trans (same ▸ decode?_encode right))

end Text

/-! ## Attributes as text -/

namespace Message

open Text

/-- A message that an application makes: a body, and attributes that are set one after the other. -/
def composed (body : Bytes) (pairs : List (Bytes × Bytes)) : Message :=
  pairs.foldl (fun message pair => message.withMetadata pair.1 pair.2) { body }

theorem foldl_withMetadata (message : Message) (pairs : List (Bytes × Bytes)) :
    pairs.foldl (fun message pair => message.withMetadata pair.1 pair.2) message =
      { message with metadata := setEntries pairs message.metadata } := by
  induction pairs generalizing message with
  | nil => rfl
  | cons pair rest hypothesis => exact hypothesis _

theorem composed_eq (body : Bytes) (pairs : List (Bytes × Bytes)) :
    composed body pairs = { body, metadata := setEntries pairs [] } :=
  foldl_withMetadata _ pairs

/-- Whether an attribute is text. -/
def IsTextEntry (entry : Bytes × Bytes) : Prop := IsText entry.1 ∧ IsText entry.2

/-- The complaint about an attribute that is not text: about its key, or else about its value. -/
inductive Objects (entry : Bytes × Bytes) : Error → Prop
  | key (noText : ¬IsText entry.1) : Objects entry (invalidKey entry.1)
  | value (key : String) (isKey : entry.1 = encode key) (noText : ¬IsText entry.2) :
      Objects entry (invalidValue key)

variable {entry : Bytes × Bytes} {entries : List (Bytes × Bytes)} {error : Error}

theorem Objects.not_isTextEntry (objects : Objects entry error) : ¬IsTextEntry entry := by
  cases objects with
  | key noText => exact fun isText => noText isText.1
  | value key isKey noText => exact fun isText => noText isText.2

theorem Objects.exists_invalidArgument (objects : Objects entry error) :
    ∃ message, error = .invalidArgument message := by
  cases objects with
  | key | value => exact ⟨_, rfl⟩

/-- Bytes that are not read are not text. -/
theorem not_isText_of_decode?_eq_none {bytes : Bytes} (unread : decode? bytes = none) :
    ¬IsText bytes := by
  intro isText
  obtain ⟨text, decoded⟩ := isText_iff_exists_decode?.mp isText
  exact Option.some_ne_none _ (decoded.symm.trans unread)

/-- An attribute is read, or there is a complaint about it. -/
theorem textEntry_cases (entry : Bytes × Bytes) :
    (∃ text, textEntry entry = .ok text ∧ IsTextEntry entry) ∨
      ∃ error, textEntry entry = .error error ∧ Objects entry error := by
  unfold textEntry
  split
  next unread => exact .inr ⟨_, rfl, .key (not_isText_of_decode?_eq_none unread)⟩
  next key isKey =>
    split
    next unread =>
      exact .inr ⟨_, rfl, .value key (decode?_eq_some_iff.mp isKey)
        (not_isText_of_decode?_eq_none unread)⟩
    next value isValue =>
      exact .inl ⟨_, rfl, isText_iff_exists_decode?.mpr ⟨key, isKey⟩,
        isText_iff_exists_decode?.mpr ⟨value, isValue⟩⟩

/-- All attributes are read, or there is a complaint about one of them. -/
theorem textEntries_cases (entries : List (Bytes × Bytes)) :
    (∃ texts, textEntries entries = .ok texts ∧ ∀ entry ∈ entries, IsTextEntry entry) ∨
      ∃ error, textEntries entries = .error error ∧ ∃ entry ∈ entries, Objects entry error := by
  induction entries with
  | nil => exact .inl ⟨[], rfl, by simp⟩
  | cons entry rest hypothesis =>
      rcases textEntry_cases entry with ⟨text, first, isText⟩ | ⟨error, first, objects⟩
      · rcases hypothesis with ⟨texts, others, allText⟩ | ⟨error, others, other, member, objects⟩
        · exact .inl ⟨text :: texts, by rw [textEntries, first, others],
            List.forall_mem_cons.mpr ⟨isText, allText⟩⟩
        · exact .inr ⟨error, by rw [textEntries, first, others], other, .tail _ member, objects⟩
      · exact .inr ⟨error, by rw [textEntries, first], entry, .head _, objects⟩

/-- A message is taken by the driver, or there is a complaint about one of its attributes. -/
theorem toEnvelope_cases (message : Message) :
    (∃ envelope, message.toEnvelope = .ok envelope ∧
        ∀ entry ∈ message.metadata, IsTextEntry entry) ∨
      ∃ error, message.toEnvelope = .error error ∧
        ∃ entry ∈ message.metadata, Objects entry error := by
  rcases textEntries_cases message.metadata with ⟨texts, read, allText⟩ | ⟨error, read, objects⟩
  · exact .inl ⟨_, by rw [toEnvelope, read], allText⟩
  · exact .inr ⟨error, by rw [toEnvelope, read], objects⟩

/-! ## To the driver and back -/

/-- An attribute as bytes. -/
def encodeEntry (entry : String × String) : Bytes × Bytes := (encode entry.1, encode entry.2)

section Encoding

variable {texts : List (String × String)} {key value : String}

theorem keys_map_encodeEntry :
    (texts.map encodeEntry).map Prod.fst = (texts.map Prod.fst).map encode := by
  rw [List.map_map, List.map_map]
  rfl

/-- Different texts have different encodings, so what is found under a text is what is found under
its encoding. -/
theorem lookup_map_encodeEntry :
    (texts.map encodeEntry).lookup (encode key) = (texts.lookup key).map encode := by
  induction texts with
  | nil => rfl
  | cons text rest hypothesis =>
      obtain ⟨present, stored⟩ := text
      by_cases same : key = present
      · simp [encodeEntry, same]
      · have differ : encode key ≠ encode present := fun equal => same (encode_injective equal)
        rw [lookup_cons_of_ne same, ← hypothesis]
        exact lookup_cons_of_ne differ

/-- Attributes count as many bytes as they have. -/
theorem metadataSize_eq :
    Envelope.metadataSize texts =
      ((texts.map encodeEntry).map fun entry => entry.1.length + entry.2.length).sum := by
  induction texts with
  | nil => rfl
  | cons text rest hypothesis =>
      rw [Envelope.metadataSize, hypothesis]
      rfl

end Encoding

/-- What the driver is given. -/
theorem exists_texts_of_toEnvelope
    {message : Message}
    {envelope : Envelope}
    (checked : message.toEnvelope = .ok envelope) :
    ∃ texts : List (String × String), texts.map encodeEntry = message.metadata ∧
      envelope = { body := message.body, metadata := texts, native := message.native } := by
  unfold toEnvelope at checked
  split at checked
  next => contradiction
  next texts read =>
    cases checked
    exact ⟨texts, textEntries_eq_ok read, rfl⟩

/-- A message has one value for each key, the one set last. It can be given to a driver exactly if
all keys and values are text; otherwise the error names one that is not. The driver gets the same
body and attributes, and whoever receives them gets the message that was made. -/
theorem attributes_survive_exchange
    (body : Bytes)
    (pairs : List (Bytes × Bytes))
    (completion : Completion) :
    let message := composed body pairs
    (message.metadata.map Prod.fst).Nodup ∧
    (∀ key, message.metadata.lookup key = pairs.reverse.lookup key) ∧
    ((∃ envelope, message.toEnvelope = .ok envelope) ↔
      ∀ entry ∈ message.metadata, IsText entry.1 ∧ IsText entry.2) ∧
    (∀ error, message.toEnvelope = .error error →
      (∃ text, error = .invalidArgument text) ∧
        ∃ entry ∈ message.metadata, Objects entry error) ∧
    ∀ envelope, message.toEnvelope = .ok envelope →
      envelope = { body, metadata := envelope.metadata } ∧
      (envelope.metadata.map Prod.fst).Nodup ∧
      envelope.metadata.map (fun entry => (encode entry.1, encode entry.2)) = message.metadata ∧
      (∀ key value, envelope.metadata.lookup key = some value ↔
        message.metadata.lookup (encode key) = some (encode value)) ∧
      envelope.byteSize =
        body.length +
          (message.metadata.map fun entry => entry.1.length + entry.2.length).sum ∧
      (ofEnvelope envelope completion).body = body ∧
      (ofEnvelope envelope completion).metadata = message.metadata ∧
      ∀ key, ((ofEnvelope envelope completion).metadataText? key).map encode =
        pairs.reverse.lookup (encode key) := by
  intro message
  have shape : message = { body, metadata := setEntries pairs [] } := composed_eq body pairs
  have distinct : (message.metadata.map Prod.fst).Nodup := by
    rw [shape]
    exact nodup_keys_setEntries List.nodup_nil
  have last (key : Bytes) : message.metadata.lookup key = pairs.reverse.lookup key := by
    rw [shape]
    exact lookup_setEntries.trans Option.or_none
  refine ⟨distinct, last, ?accepted, ?refused, fun envelope checked => ?exchanged⟩
  case accepted =>
    rcases toEnvelope_cases message with
      ⟨envelope, checked, allText⟩ | ⟨error, failed, entry, member, objects⟩
    · exact iff_of_true ⟨envelope, checked⟩ allText
    · refine iff_of_false ?_ fun allText => objects.not_isTextEntry (allText entry member)
      rintro ⟨envelope, checked⟩
      cases failed.symm.trans checked
  case refused =>
    intro error failed
    rcases toEnvelope_cases message with
      ⟨envelope, checked, -⟩ | ⟨other, known, entry, member, objects⟩
    · cases failed.symm.trans checked
    · obtain rfl := Except.error.inj (known.symm.trans failed)
      exact ⟨objects.exists_invalidArgument, entry, member, objects⟩
  case exchanged =>
    obtain ⟨texts, encoded, rfl⟩ := exists_texts_of_toEnvelope checked
    have found (key : String) :
        (texts.lookup key).map encode = message.metadata.lookup (encode key) := by
      rw [← encoded, lookup_map_encodeEntry]
    refine ⟨by rw [shape], ?nodup, encoded, fun key value => ?same, ?size, by rw [shape]; rfl,
      encoded, fun key => ?read⟩
    case nodup =>
      rw [← encoded, keys_map_encodeEntry] at distinct
      exact distinct.of_map
    case same =>
      rw [← found, Option.map_eq_some_iff]
      exact ⟨fun here => ⟨value, here, rfl⟩, fun ⟨other, here, same⟩ =>
        encode_injective same ▸ here⟩
    case size =>
      rw [Envelope.byteSize, metadataSize_eq, encoded, shape]
    case read =>
      have received : ((texts.map encodeEntry).lookup (encode key)).bind decode? =
          texts.lookup key := by
        rw [lookup_map_encodeEntry]
        cases texts.lookup key <;> simp
      rw [← last, ← found]
      exact congrArg _ received

/-- A key that is set twice has its second value; what was sent is read again. -/
theorem attributes_survive_exchange_of_repeated_key :
    let message := composed [104, 105]
      [(encode "lang", encode "en"), (encode "größe", []), (encode "lang", encode "de")]
    let envelope : Envelope := { body := [104, 105], metadata := [("lang", "de"), ("größe", "")] }
    message.toEnvelope = .ok envelope ∧ envelope.byteSize = 15 ∧
      (ofEnvelope envelope .hook).metadata = message.metadata ∧
      ((ofEnvelope envelope .hook).metadataText? "lang").map encode = some (encode "de") := by
  intro message envelope
  have checked : message.toEnvelope = .ok envelope := by decide +kernel
  obtain ⟨-, -, -, -, exchanged⟩ := attributes_survive_exchange [104, 105]
    [(encode "lang", encode "en"), (encode "größe", []), (encode "lang", encode "de")] .hook
  obtain ⟨-, -, -, -, size, -, same, read⟩ := exchanged envelope checked
  exact ⟨checked, size.trans (by decide +kernel), same, (read "lang").trans (by decide +kernel)⟩

end Message
end PubSub
