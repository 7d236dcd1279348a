import SecretCodec.Password
import SecretCodec.Proofs.Bcrypt.Refusal
import SecretCodec.Proofs.Text.Decimal

/-!
# Which stored password hashes are accepted

A check takes a stored value apart before it looks at the password (`readParts`). So it depends on
the value alone whether there is an answer, and the answer is a comparison of two hashes
(`verify_eq_map`). What can be taken apart has three pieces, the last of which is the written form
of a salt and a hash (`readParts_eq_ok_iff`). Hence a password is accepted exactly where that piece
is what the password itself is stored as under some salt (`acceptance_exact`). The other two pieces
are read more freely than they are written.
-/

namespace SecretCodec.Bcrypt

open Base64 (Alphabet)

variable {stored password version costText symbolText : String} {cause : Error} {parts : Stored}

/-! ### Taking a stored value apart -/

/-- The cost, the salt and the hash that a stored value is made of, with the salt and the hash no
longer in symbols. -/
def readParts (stored : String) : Except Error Stored := do
  let parts ← parse stored
  let salt ← decodeSymbols parts.salt
  if isCost parts.cost then
    let hash ← decodeSymbols parts.hash
    return ⟨parts.cost, salt, hash⟩
  else
    .error (.costOutOfRange parts.cost)

/-- The password is looked at only after the stored value has been taken apart. -/
theorem verify_eq_map (password stored : String) :
    verify password stored =
      (readParts stored).map fun parts =>
        decide (hash parts.cost.toNat parts.salt password = parts.hash) := by
  rw [verify, readParts]
  cases parse stored with
  | error cause => rfl
  | ok parts =>
    simp only [bind, Except.bind]
    cases decodeSymbols parts.salt with
    | error cause => rfl
    | ok salt =>
      by_cases inRange : isCost parts.cost
      · simp only [if_pos inRange]
        cases decodeSymbols parts.hash <;> rfl
      · simp only [if_neg inRange]
        rfl

theorem decodeSymbols_eq_ok_iff {symbols bytes : Bytes} :
    decodeSymbols symbols = .ok bytes ↔ symbols = Alphabet.password.encode bytes := by
  rw [decodeSymbols, mapError_eq_ok_iff, Alphabet.decode_eq_ok_iff]

/-- What is read has three pieces, of which the last has enough symbols. -/
theorem parse_eq_ok_iff :
    parse stored = .ok parts ↔
      ∃ version costText symbolText, pieces stored = [version, costText, symbolText] ∧
        version ∈ versions ∧ Decimal.readWord? costText.toList = some parts.cost ∧
        AreSymbols symbolText ∧ parts.salt = (Text.utf8 symbolText).take saltSymbols ∧
        parts.hash = (Text.utf8 symbolText).drop saltSymbols := by
  constructor
  · intro read
    obtain ⟨version, costText, symbolText, three⟩ := exists_pieces_of_parse read
    rw [parse_of_pieces three] at read
    split at read
    · cases read
    · next known =>
      split at read
      · cases read
      · next cost number =>
        split at read
        · next whole =>
          cases read
          exact ⟨version, costText, symbolText, three, Classical.not_not.1 known, number, whole,
            rfl, rfl⟩
        · cases read
  · obtain ⟨cost, salt, hash⟩ := parts
    rintro ⟨version, costText, symbolText, three, known, number, whole, rfl, rfl⟩
    rw [parse_of_pieces three, if_neg (not_not_intro known), number]
    exact if_pos whole

/-! ### The symbols of a salt and a hash -/

/-- Twenty-two symbols stand for sixteen bytes. -/
theorem length_salt_of_encode {salt : Bytes}
    (h : (Alphabet.password.encode salt).length = saltSymbols) : salt.length = 16 := by
  rw [Alphabet.length_encode] at h
  change (4 * salt.length + 2) / 3 = 22 at h
  omega

/-- Thirty-one symbols stand for twenty-three bytes. -/
theorem length_digest_of_encode {digest : Bytes}
    (h : (Alphabet.password.encode digest).length = hashSymbols) : digest.length = 23 := by
  rw [Alphabet.length_encode] at h
  change (4 * digest.length + 2) / 3 = 31 at h
  omega

/-- Symbols that stand for a salt and a hash are the written form of the two and nothing else. -/
theorem eq_text_iff {salt digest : Bytes} :
    AreSymbols symbolText ∧
        (Text.utf8 symbolText).take saltSymbols = Alphabet.password.encode salt ∧
        (Text.utf8 symbolText).drop saltSymbols = Alphabet.password.encode digest ↔
      salt.length = 16 ∧ digest.length = 23 ∧
        symbolText = Alphabet.password.text salt ++ Alphabet.password.text digest := by
  constructor
  · rintro ⟨⟨count, -⟩, front, back⟩
    have lengthSalt := congrArg List.length front
    have lengthDigest := congrArg List.length back
    rw [List.length_take, count, Nat.min_eq_left (Nat.le_add_right _ _)] at lengthSalt
    rw [List.length_drop, count, Nat.add_sub_cancel_left] at lengthDigest
    refine ⟨length_salt_of_encode lengthSalt.symm, length_digest_of_encode lengthDigest.symm, ?_⟩
    apply Text.utf8_injective
    rw [Text.utf8_append, Alphabet.utf8_text, Alphabet.utf8_text, ← front, ← back,
      List.take_append_drop]
  · rintro ⟨wholeSalt, wholeDigest, rfl⟩
    have lengthSalt := length_encode_salt wholeSalt
    refine ⟨areSymbols_text wholeSalt wholeDigest, ?_⟩
    rw [Text.utf8_append, Alphabet.utf8_text, Alphabet.utf8_text]
    exact ⟨List.take_left' lengthSalt, List.drop_left' lengthSalt⟩

/-- What can be taken apart is a known version, a cost in range and the written form of a salt and a
hash, between dollar signs. -/
theorem readParts_eq_ok_iff :
    readParts stored = .ok parts ↔
      ∃ version costText symbolText, pieces stored = [version, costText, symbolText] ∧
        version ∈ versions ∧ Decimal.readWord? costText.toList = some parts.cost ∧
        isCost parts.cost ∧ parts.salt.length = 16 ∧ parts.hash.length = 23 ∧
        symbolText =
          Alphabet.password.text parts.salt ++ Alphabet.password.text parts.hash := by
  simp only [readParts, bind_eq_ok_iff, decodeSymbols_eq_ok_iff, parse_eq_ok_iff]
  constructor
  · rintro ⟨⟨cost, salt, hash⟩, ⟨version, costText, symbolText, three, known, number, whole, rfl,
      rfl⟩, salt, isSalt, checked⟩
    split at checked
    · next inRange =>
      obtain ⟨hash, isHash, done⟩ := bind_eq_ok_iff.1 checked
      cases done
      have written := eq_text_iff.1 ⟨whole, isSalt, decodeSymbols_eq_ok_iff.1 isHash⟩
      exact ⟨version, costText, symbolText, three, known, number, inRange, written⟩
    · cases checked
  · rintro ⟨version, costText, symbolText, three, known, number, inRange, written⟩
    obtain ⟨whole, isSalt, isHash⟩ := eq_text_iff.2 written
    refine ⟨⟨parts.cost, (Text.utf8 symbolText).take saltSymbols,
      (Text.utf8 symbolText).drop saltSymbols⟩, ⟨version, costText, symbolText, three, known, number,
      whole, rfl, rfl⟩, parts.salt, isSalt, ?_⟩
    rw [if_pos inRange]
    exact bind_eq_ok_iff.2 ⟨parts.hash, decodeSymbols_eq_ok_iff.2 isHash, rfl⟩

/-- A password is accepted where its own hash, under the salt of the stored value, is written after
that salt. -/
theorem verify_eq_ok_true_iff :
    verify password stored = .ok true ↔
      ∃ version costText cost salt,
        pieces stored = [version, costText, symbols cost salt password] ∧ version ∈ versions ∧
        Decimal.readWord? costText.toList = some cost ∧ isCost cost ∧ salt.length = 16 := by
  rw [verify_eq_map, map_eq_ok_iff]
  simp only [readParts_eq_ok_iff]
  constructor
  · rintro ⟨⟨cost, salt, _⟩, ⟨version, costText, _, three, known, number, inRange, whole, -, rfl⟩,
      same⟩
    rw [← of_decide_eq_true same] at three
    exact ⟨version, costText, cost, salt, three, known, number, inRange, whole⟩
  · rintro ⟨version, costText, cost, salt, three, known, number, inRange, whole⟩
    -- The hash gets a name, since unification would evaluate it.
    obtain ⟨digest, isHash⟩ : ∃ digest, hash cost.toNat salt password = digest := ⟨_, rfl⟩
    have lengthHash := length_hash cost.toNat salt password
    rw [isHash] at lengthHash
    rw [symbols, isHash] at three
    exact ⟨⟨cost, salt, digest⟩, ⟨version, costText, _, three, known, number, inRange, whole,
      lengthHash, rfl⟩, decide_eq_true isHash⟩

end SecretCodec.Bcrypt

namespace SecretCodec.Password

variable {password stored tail tail' text : String} {cost : UInt32} {random : Entropy}

/-! ### What a password is stored as -/

/-- Whether a text ends, after its last dollar sign, in another one. -/
def EndsIn (text tail : String) : Prop :=
  '$' ∉ tail.toList ∧ ∃ front, text = front ++ "$" ++ tail

theorem EndsIn.unique (h : EndsIn text tail) (h' : EndsIn text tail') : tail = tail' := by
  have rest : ∀ {t : String}, EndsIn text t → text.toList.reverse.takeWhile (· ≠ '$') =
      t.toList.reverse := by
    rintro t ⟨fresh, front, rfl⟩
    have all : ∀ c ∈ t.toList.reverse, decide (c ≠ '$') = true := by
      intro c member
      exact decide_eq_true fun same => fresh (same ▸ List.mem_reverse.1 member)
    simp only [String.toList_append, List.reverse_append]
    rw [List.takeWhile_append_of_pos all]
    simp
  apply String.toList_inj.1
  rw [← List.reverse_inj, ← rest h, rest h']

theorem endsIn_encode (cost : UInt32) (salt : Bytes) (password : String) :
    EndsIn (Bcrypt.encode cost salt password) (Bcrypt.symbols cost salt password) := by
  refine ⟨Bcrypt.dollar_not_mem_symbols, "$2a$" ++ Decimal.twoDigits cost.toNat, ?_⟩
  simp only [Bcrypt.encode, Bcrypt.symbols, String.append_assoc]

theorem hash_eq_ok_iff :
    hash cost random password = .ok stored ↔
      Bcrypt.isCost cost ∧ Bcrypt.encode cost (random.draw 16) password = stored := by
  rw [hash, mapError_eq_ok_iff, Bcrypt.encodeFresh_eq_ok_iff]

/-- What a password is stored as at a cost ends in the symbols of some salt and its hash. -/
theorem exists_hash_endsIn_iff :
    (∃ random written, hash cost random password = .ok written ∧ EndsIn written tail) ↔
      Bcrypt.isCost cost ∧
        ∃ salt : Bytes, salt.length = 16 ∧ tail = Bcrypt.symbols cost salt password := by
  simp only [hash_eq_ok_iff]
  constructor
  · rintro ⟨random, _, ⟨inRange, rfl⟩, ends⟩
    exact ⟨inRange, random.draw 16, random.length_draw 16, ends.unique (endsIn_encode ..)⟩
  · rintro ⟨inRange, salt, whole, rfl⟩
    obtain ⟨random, drawn⟩ := Entropy.exists_draw salt
    rw [whole] at drawn
    exact ⟨random, _, ⟨inRange, rfl⟩, drawn ▸ endsIn_encode ..⟩

/-! ### Acceptance -/

/-- A stored value is answered whatever the password, or refused whatever the password. -/
theorem answered_or_refused (stored : String) :
    (∀ password, ∃ answer, verify password stored = .ok answer) ∨
      ∃ defect, ∀ password, verify password stored = .error (.malformedStoredValue defect) := by
  cases read : Bcrypt.readParts stored with
  | error cause =>
    refine .inr ⟨.bcrypt cause, fun password => ?_⟩
    rw [verify, mapError_eq_error_iff]
    exact ⟨cause, by rw [Bcrypt.verify_eq_map, map_eq_error_iff, read], rfl⟩
  | ok parts =>
    refine .inl fun password => ?_
    simp only [verify, mapError_eq_ok_iff, Bcrypt.verify_eq_map, read]
    exact ⟨_, rfl⟩

/-- A password is accepted exactly where the stored value has three pieces between dollar signs: one
of four versions, a cost in range, and what the password itself is stored as at that cost and under
some salt, after the last dollar sign. Whether a stored value is answered or refused depends on the
value alone, and it is refused for the same reason whatever the password. -/
theorem acceptance_exact (stored : String) :
    (∀ password, verify password stored = .ok true ↔
      ∃ version costText tail cost, Bcrypt.pieces stored = [version, costText, tail] ∧
        version ∈ ["2a", "2b", "2x", "2y"] ∧
        Decimal.IsWordOf costText.toList cost ∧ 4 ≤ cost ∧ cost ≤ 31 ∧
        ∃ random written, hash cost random password = .ok written ∧ EndsIn written tail) ∧
    ((∀ password, ∃ answer, verify password stored = .ok answer) ∨
      ∃ defect, ∀ password, verify password stored = .error (.malformedStoredValue defect)) := by
  refine ⟨fun password => ?_, answered_or_refused stored⟩
  rw [verify, mapError_eq_ok_iff, Bcrypt.verify_eq_ok_true_iff]
  simp only [exists_hash_endsIn_iff, Decimal.readWord?_eq_some_iff, Bcrypt.isCost_iff]
  constructor
  · rintro ⟨version, costText, cost, salt, three, known, number, ⟨low, high⟩, whole⟩
    exact ⟨version, costText, _, cost, three, known, number, low, high, ⟨low, high⟩, salt, whole,
      rfl⟩
  · rintro ⟨version, costText, _, cost, three, known, number, low, high, -, salt, whole, rfl⟩
    exact ⟨version, costText, cost, salt, three, known, number, ⟨low, high⟩, whole⟩

/-- The freedom that is left: a plus sign and leading zeros in the cost, and empty pieces. -/
example :
    Bcrypt.pieces "$$2y$+004$x$" = ["2y", "+004", "x"] ∧
      Decimal.readWord? "+004".toList = some 4 := by
  decide +kernel

end SecretCodec.Password
