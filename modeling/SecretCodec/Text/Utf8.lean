/-!
# Texts and the bytes that stand for them

A text is a `String`; what is hashed, encrypted or written to a file is its UTF-8 encoding, a list
of bytes. Decoding is exact: `ofUtf8?_eq_some_iff` says that it accepts precisely the encodings of
texts, so a text and its bytes determine each other (`ofUtf8?_utf8`, `utf8_injective`).

Formats that write only ASCII build their output as bytes. `ofAscii` turns such bytes into a text,
and `utf8_ofAscii` recovers them.
-/

namespace SecretCodec

/-- A byte string. -/
abbrev Bytes := List UInt8

namespace Text

/-- The UTF-8 encoding of a text. -/
def utf8 (text : String) : Bytes := text.toByteArray.data.toList

/-- The text that a byte string encodes, if it is well-formed UTF-8. -/
def ofUtf8? (bytes : Bytes) : Option String := String.fromUTF8? bytes.toByteArray

/-- The text whose characters have the given codes, one byte each. -/
def ofAscii (bytes : Bytes) : String := String.ofList (bytes.map Char.ofUInt8)

private theorem toByteArray_utf8 (s : String) : (utf8 s).toByteArray = s.toByteArray := by
  apply ByteArray.ext
  simp [utf8, List.data_toByteArray]

theorem utf8_injective {s t : String} (h : utf8 s = utf8 t) : s = t := by
  apply String.toByteArray_inj.1
  rw [← toByteArray_utf8 s, ← toByteArray_utf8 t, h]

@[simp] theorem utf8_inj {s t : String} : utf8 s = utf8 t ↔ s = t :=
  ⟨utf8_injective, fun h => h ▸ rfl⟩

@[simp] theorem ofUtf8?_utf8 (s : String) : ofUtf8? (utf8 s) = some s := by
  simp only [ofUtf8?, toByteArray_utf8, String.fromUTF8?, s.isValidUTF8, dite_true]
  rfl

/-- Decoding accepts exactly the encodings of texts. -/
theorem ofUtf8?_eq_some_iff {bytes : Bytes} {s : String} :
    ofUtf8? bytes = some s ↔ bytes = utf8 s := by
  constructor
  · intro h
    simp only [ofUtf8?, String.fromUTF8?] at h
    split at h
    · cases h
      simp [utf8, String.fromUTF8, List.data_toByteArray]
    · cases h
  · rintro rfl
    exact ofUtf8?_utf8 s

/-- The encoding of a text joins those of its characters. -/
theorem utf8_ofList (cs : List Char) :
    utf8 (String.ofList cs) = cs.flatMap String.utf8EncodeChar := by
  simp [utf8, String.toByteArray_ofList, List.utf8Encode, List.data_toByteArray]

theorem utf8_eq_flatMap (s : String) : utf8 s = s.toList.flatMap String.utf8EncodeChar := by
  rw [← utf8_ofList, String.ofList_toList]

@[simp] theorem utf8_empty : utf8 "" = [] := rfl

@[simp] theorem utf8_append (s t : String) : utf8 (s ++ t) = utf8 s ++ utf8 t := by
  simp [utf8_eq_flatMap]

@[simp] theorem toList_ofAscii (bytes : Bytes) :
    (ofAscii bytes).toList = bytes.map Char.ofUInt8 := by
  simp [ofAscii]

/-- A character below 128 is its own encoding. -/
theorem utf8EncodeChar_ofUInt8 {b : UInt8} (h : b < 128) :
    String.utf8EncodeChar (Char.ofUInt8 b) = [b] := by
  have code : (Char.ofUInt8 b).val.toNat = b.toNat := UInt8.toNat_toUInt32 b
  have small : b.toNat ≤ 127 := Nat.le_of_lt_succ h
  rw [String.utf8EncodeChar, code, if_pos small, UInt8.ofNat_toNat]

/-- ASCII bytes are the encoding of the text they spell. -/
theorem utf8_ofAscii {bytes : Bytes} (h : ∀ b ∈ bytes, b < 128) : utf8 (ofAscii bytes) = bytes := by
  rw [ofAscii, utf8_ofList]
  induction bytes with
  | nil => rfl
  | cons b rest ih =>
    simp only [List.map_cons, List.flatMap_cons, utf8EncodeChar_ofUInt8 (h b List.mem_cons_self),
      ih fun c hc => h c (List.mem_cons_of_mem b hc), List.singleton_append]

end Text

end SecretCodec
