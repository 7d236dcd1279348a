import SecretCodec.Proofs.Bcrypt.Refusal
import SecretCodec.Proofs.Codec.Failures
import SecretCodec.Proofs.Hex.Refusal
import SecretCodec.Proofs.Text.Containment
import SecretCodec.Proofs.Text.Quoted

/-!
# What messages give away of a stored value

Errors and events are read by people who may not see what is stored. A stored value of some length
cannot be in a message of fixed wording and a few numbers, and a message about a piece of a password
hash has no dollar sign, while the value has. There is one exception: a password hash without a
shape has no piece to name, and the message then holds the whole value. `exposed_iff_isShapeless`
says that this is the only one, and where such a value comes to the surface.
-/

namespace SecretCodec

variable {cause : Error} {stored plaintext text : String}

/-- Whether the wording of an error has a text in it. -/
def Error.Shows (cause : Error) (text : String) : Prop := Text.Contains cause.message text

/-- Whether an event has a text in it, in its message or in one of its fields. -/
def Event.Shows (event : Event) (text : String) : Prop :=
  Text.Contains event.message text ∨
    ∃ field ∈ event.fields, Text.Contains field.1 text ∨ Text.Contains field.2 text

/-! ### Fixed wording -/

/-- The errors whose wording has nothing of a stored value in it. -/
def Error.fixed : List Error :=
  .keyNotConfigured :: .decryptionFailed :: .malformedStoredValue (.hex .oddLength) ::
    Algorithm.all.map .notReversible

theorem Error.not_shows_of_mem_fixed (large : 128 ≤ (Text.utf8 text).length)
    (h : cause ∈ fixed) : ¬cause.Shows text := by
  have short : ∀ cause ∈ fixed, (Text.utf8 cause.message).length < 128 := by decide +kernel
  exact Text.not_contains_of_lt (Nat.lt_of_lt_of_le (short cause h) large)

/-! ### Digests -/

theorem length_message_invalidDigit (b : UInt8) (index : Nat) :
    (Text.utf8 (Error.malformedStoredValue (.hex (.invalidDigit b index))).message).length =
      55 + (Text.utf8 (Text.quoteChar (Char.ofUInt8 b))).length +
        (Text.utf8 index.repr).length := by
  have lead : (Text.utf8 "malformed stored value: ").length = 24 := rfl
  have what : (Text.utf8 "Invalid character ").length = 18 := rfl
  have middle : (Text.utf8 " at position ").length = 13 := rfl
  show (Text.utf8 ("malformed stored value: " ++ ("Invalid character " ++
    Text.quoteChar (Char.ofUInt8 b) ++ " at position " ++ index.repr))).length = _
  simp only [Text.utf8_append, List.length_append, lead, what, middle]
  clear lead what middle
  omega

theorem length_message_length (expected found : Nat) :
    (Text.utf8 (Error.malformedStoredValue (.length expected found)).message).length =
      47 + (Text.utf8 expected.repr).length + (Text.utf8 found.repr).length := by
  have lead : (Text.utf8 "malformed stored value: ").length = 24 := rfl
  have what : (Text.utf8 "expected ").length = 9 := rfl
  have middle : (Text.utf8 " bytes, found ").length = 14 := rfl
  show (Text.utf8 ("malformed stored value: " ++ ("expected " ++ expected.repr ++
    " bytes, found " ++ found.repr))).length = _
  simp only [Text.utf8_append, List.length_append, lead, what, middle]
  clear lead what middle
  omega

/-- What is wrong with a stored digest is said in fixed words and two numbers, or a number and a
byte. -/
theorem DigestKind.not_shows_of_verify {kind : DigestKind} {o : Overflow} {saltLength : UInt64}
    (large : 128 ≤ (Text.utf8 stored).length)
    (h : kind.verify o saltLength plaintext stored = some (.error cause)) :
    ¬cause.Shows stored := by
  have trimmed := Text.length_trim_le stored
  obtain ⟨reason, unread, rfl⟩ | ⟨bytes, expected, read, rfl⟩ := verify_eq_error h
  · obtain ⟨-, rfl⟩ | ⟨-, index, b, first, rfl⟩ := Hex.decode_eq_error_iff.1 unread
    · exact Error.not_shows_of_mem_fixed large (by simp [Error.fixed])
    · apply Text.not_contains_of_lt
      have position := Text.length_repr_le large (Nat.le_trans (Nat.le_of_lt first.lt) trimmed)
      have quoted : (Text.utf8 (Text.quoteChar (Char.ofUInt8 b))).length ≤ 8 := by
        apply Text.length_quoteChar_le
        rw [Text.toNat_ofUInt8]
        exact b.toNat_lt
      rw [length_message_invalidDigit]
      omega
  · apply Text.not_contains_of_lt
    have digits := Hex.length_of_map_eq_encode (Hex.decode_eq_ok_iff.1 read)
    have found := Text.length_repr_le large (m := bytes.length) (by omega)
    have word : (Text.utf8 expected.toNat.repr).length ≤ 20 :=
      Text.length_repr_le_of_lt (by decide) (Nat.lt_trans expected.toNat_lt (by decide))
    rw [length_message_length]
    omega

/-! ### The cipher -/

theorem SecretKey.not_shows_of_decrypt {key : SecretKey}
    (large : 128 ≤ (Text.utf8 stored).length) (h : key.decrypt stored = .error cause) :
    ¬cause.Shows stored := by
  rw [decrypt_error h]
  exact Error.not_shows_of_mem_fixed large (by simp [Error.fixed])

theorem SecretKey.not_shows_of_verify {key : SecretKey}
    (large : 128 ≤ (Text.utf8 stored).length) (h : key.verify plaintext stored = .error cause) :
    ¬cause.Shows stored := by
  rw [verify, map_eq_error_iff] at h
  exact not_shows_of_decrypt large h

/-! ### The password hash -/

/-- The dollar signs of a password hash with a shape are in no message about it. -/
theorem Password.shows_iff (h : verify plaintext stored = .error cause) :
    cause.Shows stored ↔ Bcrypt.IsShapeless stored := by
  obtain ⟨defect, refused, rfl⟩ := mapError_eq_error_iff.1 h
  constructor
  · intro shown
    obtain ⟨shapeless, -⟩ | ⟨dollar, fresh⟩ := Bcrypt.verify_eq_error refused
    · exact shapeless
    · have inMessage : '$' ∈ ("malformed stored value: " ++ defect.message).toList :=
        shown.mem dollar
      simp [fresh] at inMessage
  · intro shapeless
    cases (Bcrypt.verify_of_isShapeless shapeless).symm.trans refused
    exact Text.contains_append "malformed stored value: Invalid hash: " stored

namespace Codec

variable {c : Codec}

/-! ### Decoding -/

/-- The wording of what decoding returns is fixed, apart from the name of an algorithm. -/
theorem not_shows_of_decode {algorithm : Option Algorithm}
    (large : 128 ≤ (Text.utf8 stored).length)
    (h : c.decode (some stored) algorithm = .error cause) : ¬cause.Shows stored := by
  apply Error.not_shows_of_mem_fixed large
  cases decode_eq_error_iff.1 h with
  | notReversible other => simp [Error.fixed, Algorithm.mem_all]
  | noKeyToDecode noKey => simp [Error.fixed]
  | decryptionFailed held other => simp [Error.fixed]

/-! ### Events -/

/-- All else in a report of a failure is short. -/
theorem failure_shows_iff {algorithm : Option Algorithm} (large : 128 ≤ (Text.utf8 text).length) :
    (failure algorithm cause).Shows text ↔ cause.Shows text := by
  have short : ∀ t : String, (Text.utf8 t).length < 128 → ¬Text.Contains t text :=
    fun t h => Text.not_contains_of_lt (Nat.lt_of_lt_of_le h large)
  have names : ∀ a ∈ Algorithm.all, (Text.utf8 a.name).length < 128 := by decide +kernel
  have wording : ∀ t ∈ ["verification failed", "algorithm", "error"], ¬Text.Contains t text := by
    have lengths : ∀ t ∈ ["verification failed", "algorithm", "error"],
        (Text.utf8 t).length < 128 := by
      decide +kernel
    exact fun t member => short t (lengths t member)
  constructor
  · rintro (inMessage | ⟨field, member, shown⟩)
    · exact (wording "verification failed" (by simp) inMessage).elim
    · obtain named | reason := List.mem_append.1 member
      · obtain ⟨a, -, rfl⟩ := List.mem_map.1 named
        obtain inName | inValue := shown
        · exact (wording _ (by simp) inName).elim
        · exact (short _ (names a (Algorithm.mem_all a)) inValue).elim
      · cases List.mem_singleton.1 reason
        exact shown.resolve_left (wording _ (by simp))
  · intro shown
    exact .inr ⟨_, List.mem_append_right _ (List.mem_singleton_self _), .inr shown⟩

/-- What a verification reports shows the stored value only where it is a shapeless password hash. -/
theorem Reports.shows_iff {plaintext : Option String} {algorithm : Option Algorithm}
    (large : 128 ≤ (Text.utf8 stored).length)
    (h : c.Reports (.verify plaintext algorithm (some stored)) cause) :
    cause.Shows stored ↔ algorithm = some .bcrypt ∧ Bcrypt.IsShapeless stored := by
  cases h with
  | @digest plaintext _ a _ _ digest malformed =>
    have failed : DigestKind.verify _ .stop _ plaintext stored =
        some (c.checkText plaintext a stored) := verify_eq_checkText digest .stop
    rw [checkText_digest digest, malformed] at failed
    refine iff_of_false (DigestKind.not_shows_of_verify large failed) ?_
    rintro ⟨same, -⟩
    cases same
    cases digest
  | password malformed =>
    have failed : Password.verify _ stored = .error (.malformedStoredValue (.bcrypt _)) :=
      mapError_eq_error_iff.2 ⟨_, malformed, rfl⟩
    rw [Password.shows_iff failed]
    simp
  | noKey noKey =>
    exact iff_of_false (Error.not_shows_of_mem_fixed large (by simp [Error.fixed])) nofun
  | decryptionFailed held other =>
    exact iff_of_false (Error.not_shows_of_mem_fixed large (by simp [Error.fixed])) nofun

/-- A stored value is in an event of a verification exactly if it is a shapeless password hash and
there is a plaintext to check it against. -/
theorem exists_event_shows_iff {plaintext : Option String} {algorithm : Option Algorithm}
    (large : 128 ≤ (Text.utf8 stored).length) :
    (∃ event ∈ (c.verify plaintext algorithm (some stored)).events, event.Shows stored) ↔
      algorithm = some .bcrypt ∧ plaintext.isSome ∧ Bcrypt.IsShapeless stored := by
  obtain ⟨cause, only, done⟩ | ⟨silent, answer, done⟩ :=
    c.verify_cases plaintext algorithm (some stored)
  · have reports : c.Reports (.verify plaintext algorithm (some stored)) cause := (only cause).2 rfl
    have present : plaintext.isSome := by cases reports <;> rfl
    rw [done]
    simp [failure_shows_iff large, reports.shows_iff large, present]
  · rw [done]
    refine iff_of_false (by simp) ?_
    rintro ⟨rfl, present, shapeless⟩
    obtain ⟨plaintext, rfl⟩ := Option.isSome_iff_exists.1 present
    exact silent _ (.password (Bcrypt.verify_of_isShapeless shapeless))

end Codec

/-! ### Exposure -/

/-- Where a stored value comes to the surface. -/
structure Exposure (stored : String) : Prop where
  /-- It is in an event of a verification only as a shapeless password hash. -/
  events (c : Codec) (plaintext : Option String) (algorithm : Option Algorithm) :
    (∃ event ∈ (c.verify plaintext algorithm (some stored)).events, event.Shows stored) ↔
      algorithm = some .bcrypt ∧ plaintext.isSome ∧ Bcrypt.IsShapeless stored
  /-- It is in an error of the password check only if it is shapeless. -/
  password (plaintext : String) :
    (∃ cause, Password.verify plaintext stored = .error cause ∧ cause.Shows stored) ↔
      Bcrypt.IsShapeless stored
  /-- It is in no error of the digests, with a salt of any length and whatever is done at an
  overflow. -/
  digest (kind : DigestKind) (o : Overflow) (saltLength : UInt64) (plaintext : String)
    (cause : Error) :
    kind.verify o saltLength plaintext stored = some (.error cause) → ¬cause.Shows stored
  /-- It is in no error of decoding. -/
  decode (c : Codec) (algorithm : Option Algorithm) (cause : Error) :
    c.decode (some stored) algorithm = .error cause → ¬cause.Shows stored
  /-- It is in no error of decryption. -/
  decrypt (key : SecretKey) (cause : Error) :
    key.decrypt stored = .error cause → ¬cause.Shows stored
  /-- It is in no error of verification under a key. -/
  verify (key : SecretKey) (plaintext : String) (cause : Error) :
    key.verify plaintext stored = .error cause → ¬cause.Shows stored

/-- A stored value that is too long for a coincidence comes to the surface in one case only: it is
taken for a password hash, and has not the shape of one. -/
theorem exposed_iff_isShapeless (large : 128 ≤ (Text.utf8 stored).length) : Exposure stored where
  events _ _ _ := Codec.exists_event_shows_iff large
  password plaintext := by
    constructor
    · rintro ⟨cause, failed, shown⟩
      exact (Password.shows_iff failed).1 shown
    · intro shapeless
      have failed : Password.verify plaintext stored =
          .error (.malformedStoredValue (.bcrypt (.invalidHash stored))) :=
        mapError_eq_error_iff.2 ⟨_, Bcrypt.verify_of_isShapeless shapeless, rfl⟩
      exact ⟨_, failed, (Password.shows_iff failed).2 shapeless⟩
  digest _ _ _ _ _ := DigestKind.not_shows_of_verify large
  decode _ _ _ := Codec.not_shows_of_decode large
  decrypt _ _ := SecretKey.not_shows_of_decrypt large
  verify _ _ _ := SecretKey.not_shows_of_verify large

/-- A value of 128 bytes, the shortest there are. -/
theorem exposed_at_bound :
    let stored := String.ofList (List.replicate 128 'a')
    128 ≤ (Text.utf8 stored).length ∧ Exposure stored := by
  intro stored
  have large : 128 ≤ (Text.utf8 stored).length := by decide +kernel
  exact ⟨large, exposed_iff_isShapeless large⟩

/-- A value without dollar signs, taken for a password hash, is in the event that refuses it. -/
theorem event_shows_stored :
    let stored := String.ofList (List.replicate 128 'a')
    let checked := ({} : Codec).verify (some "fabiano") (some .bcrypt) (some stored)
    128 ≤ (Text.utf8 stored).length ∧ ¬Text.Contains "fabiano" stored ∧
      ∃ event ∈ checked.events, event.Shows stored := by
  intro stored checked
  have large : 128 ≤ (Text.utf8 stored).length := by decide +kernel
  have short : (Text.utf8 "fabiano").length < 128 := by decide +kernel
  have shapeless : Bcrypt.IsShapeless stored := by
    intro version cost symbols same
    have dollar := Bcrypt.dollar_mem_of_pieces same
    rw [String.toList_ofList] at dollar
    cases List.eq_of_mem_replicate dollar
  refine ⟨large, Text.not_contains_of_lt (Nat.lt_of_lt_of_le short large), ?_⟩
  exact (Codec.exists_event_shows_iff large).2 ⟨rfl, rfl, shapeless⟩

end SecretCodec
