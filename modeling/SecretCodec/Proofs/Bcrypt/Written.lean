import SecretCodec.Bcrypt.Stored
import SecretCodec.Proofs.Base64.Written
import SecretCodec.Proofs.Success

/-!
# Reading a written password hash

What is written is read back part by part: the cost from its two digits (`readWord?_twoDigits`), the
salt and the hash from their symbols, none of which is a dollar sign (`parse_encode`). A password is
therefore checked against a written value by comparing two hashes (`verify_encode`).
-/

namespace SecretCodec.Decimal

theorem toList_twoDigits (n : Nat) :
    (twoDigits n).toList = List.replicate (if n < 10 then 1 else 0) '0' ++ Nat.toDigits 10 n := by
  rw [twoDigits]
  split
  · rw [String.toList_append, Nat.toList_repr]
    rfl
  · rw [Nat.toList_repr]
    rfl

theorem isDigit_of_mem_twoDigits {n : Nat} {c : Char} (h : c ∈ (twoDigits n).toList) :
    c.isDigit := by
  rw [toList_twoDigits, List.mem_append] at h
  obtain zero | digit := h
  · rw [List.eq_of_mem_replicate zero]
    rfl
  · exact Nat.isDigit_of_mem_toDigits (by decide) (by decide) digit

/-- Digits alone are read as they stand, without a plus sign. -/
theorem readWord?_of_isDigit {text : List Char} (h : ∀ c ∈ text, c.isDigit) :
    readWord? text = (read? text).bind toWord? := by
  rw [readWord?.eq_def]
  split
  · next digits =>
    have plus := h '+' List.mem_cons_self
    cases plus
  · rfl

/-- The two digits of a word are read as that word. -/
@[simp] theorem readWord?_twoDigits (w : UInt32) :
    readWord? (twoDigits w.toNat).toList = some w := by
  rw [readWord?_of_isDigit fun c member => isDigit_of_mem_twoDigits member, toList_twoDigits,
    read?_toDigits, Option.bind_some, toWord?_toNat]

end SecretCodec.Decimal

namespace SecretCodec.Bcrypt

open Base64 (Alphabet)

variable {cost : UInt32} {salt : Bytes} {password : String}

/-! ### The pieces of a written value -/

/-- The symbols of a written value: those of the salt, then those of the hash. -/
def symbols (cost : UInt32) (salt : Bytes) (password : String) : String :=
  Alphabet.password.text salt ++ Alphabet.password.text (hash cost.toNat salt password)

theorem dollar_not_mem_text (bytes : Bytes) : '$' ∉ (Alphabet.password.text bytes).toList := by
  have absent : ∀ s ∈ Alphabet.password.symbols, Char.ofUInt8 s ≠ '$' := by decide +kernel
  exact Alphabet.password.not_mem_text absent (by decide) bytes

theorem dollar_not_mem_symbols : '$' ∉ (symbols cost salt password).toList := by
  rw [symbols, String.toList_append, List.mem_append]
  rintro (inSalt | inHash)
  · exact dollar_not_mem_text _ inSalt
  · exact dollar_not_mem_text _ inHash

theorem dollar_not_mem_twoDigits (n : Nat) : '$' ∉ (Decimal.twoDigits n).toList := by
  intro member
  have digit := Decimal.isDigit_of_mem_twoDigits member
  cases digit

theorem toList_encode :
    (encode cost salt password).toList =
      [] ++ '$' :: (['2', 'a'] ++ '$' :: ((Decimal.twoDigits cost.toNat).toList ++
        '$' :: (symbols cost salt password).toList)) := by
  simp [encode, symbols]

/-- The symbols as bytes. -/
theorem utf8_symbols :
    Text.utf8 (symbols cost salt password) =
      Alphabet.password.encode salt ++
        Alphabet.password.encode (hash cost.toNat salt password) := by
  rw [symbols, Text.utf8_append, Alphabet.utf8_text, Alphabet.utf8_text]

theorem length_encode_salt (whole : salt.length = 16) :
    (Alphabet.password.encode salt).length = saltSymbols := by
  rw [Alphabet.length_encode, whole]
  rfl

theorem length_encode_digest {digest : Bytes} (whole : digest.length = 23) :
    (Alphabet.password.encode digest).length = hashSymbols := by
  rw [Alphabet.length_encode, whole]
  rfl

theorem toList_symbols_ne_nil : (symbols cost salt password).toList ≠ [] := by
  intro empty
  have bytes : Text.utf8 (symbols cost salt password) = [] := by
    rw [Text.utf8_eq_flatMap, empty]
    rfl
  have lengths := congrArg List.length bytes
  rw [utf8_symbols, List.length_append, length_encode_digest (length_hash _ _ _)] at lengths
  simp [hashSymbols] at lengths

theorem pieces_encode :
    pieces (encode cost salt password) =
      ["2a", Decimal.twoDigits cost.toNat, symbols cost salt password] := by
  have someDigits : (Decimal.twoDigits cost.toNat).toList ≠ [] := by
    rw [Decimal.toList_twoDigits]
    simp [Nat.toDigits_ne_nil]
  have someSymbols : (symbols cost salt password).toList ≠ [] := toList_symbols_ne_nil
  rw [pieces, toList_encode, List.splitOn_append_cons_self_of_not_mem (by simp),
    List.splitOn_append_cons_self_of_not_mem (by decide),
    List.splitOn_append_cons_self_of_not_mem (dollar_not_mem_twoDigits _),
    List.splitOn_eq_singleton dollar_not_mem_symbols]
  simp [someDigits, someSymbols]

/-! ### Parts and answer -/

/-- No symbol is the inner byte of a character. -/
theorem startsCharacter_of_mem_encode {bytes : Bytes} {b : UInt8}
    (h : b ∈ Alphabet.password.encode bytes) : startsCharacter b := by
  have first : ∀ s ∈ Alphabet.password.symbols, startsCharacter s := by decide +kernel
  obtain symbol | rfl := Alphabet.password.mem_symbols_or_eq_pad h
  · exact first b symbol
  · decide

/-- Symbols of a salt and a hash by their number, with a character's end between the two. -/
def AreSymbols (symbols : String) : Prop :=
  (Text.utf8 symbols).length = saltSymbols + hashSymbols ∧
    (Text.utf8 symbols)[saltSymbols]?.any startsCharacter

instance (symbols : String) : Decidable (AreSymbols symbols) :=
  inferInstanceAs (Decidable (_ ∧ _))

theorem parse_of_pieces {stored version costText symbolText : String}
    (h : pieces stored = [version, costText, symbolText]) :
    parse stored =
      if version ∉ versions then .error (.invalidVersion version)
      else
        match Decimal.readWord? costText.toList with
        | none => .error (.invalidCost costText)
        | some cost =>
          if AreSymbols symbolText then
            .ok ⟨cost, (Text.utf8 symbolText).take saltSymbols,
              (Text.utf8 symbolText).drop saltSymbols⟩
          else .error (.invalidHash stored) := by
  rw [parse, h]
  rfl

theorem areSymbols_text {digest : Bytes} (wholeSalt : salt.length = 16)
    (wholeDigest : digest.length = 23) :
    AreSymbols (Alphabet.password.text salt ++ Alphabet.password.text digest) := by
  have lengthSalt := length_encode_salt wholeSalt
  have lengthDigest := length_encode_digest wholeDigest
  rw [AreSymbols, Text.utf8_append, Alphabet.utf8_text, Alphabet.utf8_text]
  refine ⟨by rw [List.length_append, lengthSalt, lengthDigest], ?_⟩
  have inside : 0 < (Alphabet.password.encode digest).length := by
    rw [lengthDigest]
    decide
  rw [List.getElem?_append_right (Nat.le_of_eq lengthSalt), lengthSalt, Nat.sub_self,
    List.getElem?_eq_getElem inside, Option.any_some]
  exact startsCharacter_of_mem_encode (List.getElem_mem inside)

/-- A written value is read as the cost, the salt and the hash it was written for. -/
theorem parse_encode (whole : salt.length = 16) :
    parse (encode cost salt password) =
      .ok ⟨cost, Alphabet.password.encode salt,
        Alphabet.password.encode (hash cost.toNat salt password)⟩ := by
  have version : "2a" ∈ versions := by decide
  have lengthSalt := length_encode_salt whole
  have areSymbols : AreSymbols (symbols cost salt password) :=
    areSymbols_text whole (length_hash cost.toNat salt password)
  rw [parse_of_pieces pieces_encode, if_neg (not_not_intro version), Decimal.readWord?_twoDigits]
  simp only [if_pos areSymbols, utf8_symbols]
  rw [List.take_left' lengthSalt, List.drop_left' lengthSalt]

@[simp] theorem decodeSymbols_encode (bytes : Bytes) :
    decodeSymbols (Alphabet.password.encode bytes) = .ok bytes := by
  rw [decodeSymbols, Alphabet.decode_encode]
  rfl

theorem isCost_iff {cost : UInt32} : isCost cost ↔ 4 ≤ cost ∧ cost ≤ 31 := by
  rw [isCost, Bool.and_eq_true, decide_eq_true_iff, decide_eq_true_iff]
  rfl

theorem encodeFresh_eq_ok_iff {random : Entropy} {stored : String} :
    encodeFresh cost random password = .ok stored ↔
      isCost cost ∧ encode cost (random.draw 16) password = stored := by
  rw [encodeFresh]
  split
  · next inRange => simp [inRange]
  · next outside => simp [outside]

/-- A password is checked against a written value by comparing two hashes. -/
theorem verify_encode (inRange : isCost cost) (whole : salt.length = 16) (other : String) :
    verify other (encode cost salt password) =
      .ok (decide (hash cost.toNat salt other = hash cost.toNat salt password)) := by
  rw [verify, parse_encode whole]
  simp only [bind, Except.bind, decodeSymbols_encode, if_pos inRange]
  rfl

end SecretCodec.Bcrypt
