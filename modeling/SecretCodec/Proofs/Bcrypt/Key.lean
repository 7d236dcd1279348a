import SecretCodec.Bcrypt.Hash
import SecretCodec.Proofs.Text.Ascii

/-!
# The key that a password makes

The cipher is set up with 72 bytes: the bytes of the password, ended by a NUL, cut off or repeated
to that length. The hash is a function of these bytes (`hash_eq_of_keyBytes_eq`), so passwords with
the same key cannot be told apart. Passwords without NUL have the same key exactly when their first
72 bytes agree (`keyBytes_eq_iff`).
-/

namespace SecretCodec.Blowfish

/-- The byte at a position of a byte string that is repeated for ever. -/
def cyclicByte (bytes : Bytes) (i : Nat) : UInt8 := bytes[i % bytes.length]?.getD 0

theorem cyclicWord_eq (bytes : Bytes) (i : Nat) :
    cyclicWord bytes i =
      (List.range 4).foldl
        (fun (word : UInt32) j => word <<< 8 ||| (cyclicByte bytes (4 * i + j)).toUInt32) 0 :=
  rfl

/-- A word depends on its four bytes only. -/
theorem cyclicWord_congr {b c : Bytes} {i : Nat}
    (h : ∀ j < 4, cyclicByte b (4 * i + j) = cyclicByte c (4 * i + j)) :
    cyclicWord b i = cyclicWord c i := by
  rw [cyclicWord_eq, cyclicWord_eq]
  apply List.foldl_ext
  intro word j member
  rw [h j (List.mem_range.1 member)]

/-- The key setup takes no more of a password than its first 72 bytes, after repetition. -/
theorem setup_congr {cost : Nat} {salt b c : Bytes}
    (h : ∀ i < 72, cyclicByte b i = cyclicByte c i) : setup cost salt b = setup cost salt c := by
  have words : (Vector.ofFn fun i : Fin 18 => cyclicWord b i.val) =
      Vector.ofFn fun i : Fin 18 => cyclicWord c i.val := by
    congr 1
    funext i
    apply cyclicWord_congr
    intro j small
    exact h _ (by omega)
  simp only [setup, words]

end SecretCodec.Blowfish

namespace SecretCodec.Bcrypt

open Blowfish (cyclicByte)

/-- The 72 bytes that a password is made into. -/
def keyBytes (password : String) : Bytes :=
  (List.range 72).map (cyclicByte (passwordBytes password))

@[simp] theorem length_keyBytes (password : String) : (keyBytes password).length = 72 := by
  simp [keyBytes]

theorem keyBytes_eq_iff_cyclicByte {p q : String} :
    keyBytes p = keyBytes q ↔
      ∀ i < 72, cyclicByte (passwordBytes p) i = cyclicByte (passwordBytes q) i := by
  simp only [keyBytes, List.map_inj_left, List.mem_range]

/-- Passwords with the same key have the same hash, whatever the cost and the salt. -/
theorem hash_eq_of_keyBytes_eq {cost : Nat} {salt : Bytes} {p q : String}
    (h : keyBytes p = keyBytes q) : hash cost salt p = hash cost salt q := by
  simp only [hash, Blowfish.setup_congr (keyBytes_eq_iff_cyclicByte.1 h)]

/-- Two passwords with different keys and yet the same hash. -/
def Collide (cost : Nat) (salt : Bytes) (p q : String) : Prop :=
  keyBytes p ≠ keyBytes q ∧ hash cost salt p = hash cost salt q

theorem hash_eq_iff {cost : Nat} {salt : Bytes} {p q : String} :
    hash cost salt p = hash cost salt q ↔ keyBytes p = keyBytes q ∨ Collide cost salt p q := by
  by_cases key : keyBytes p = keyBytes q
  · exact iff_of_true (hash_eq_of_keyBytes_eq key) (Or.inl key)
  · constructor
    · intro same
      exact Or.inr ⟨key, same⟩
    · intro alike
      exact (alike.resolve_left key).2

/-! ### Passwords without NUL -/

theorem zero_mem_utf8_iff {t : String} : 0 ∈ Text.utf8 t ↔ '\x00' ∈ t.toList := by
  rw [Text.utf8_eq_flatMap, List.mem_flatMap]
  constructor
  · rintro ⟨c, inText, inChar⟩
    by_cases ascii : c.toNat < 128
    · rw [Text.utf8EncodeChar_of_lt ascii, List.mem_singleton] at inChar
      have code : c.toNat = 0 := by rw [← Text.toNat_toUInt8 ascii, ← inChar]; rfl
      have nul : c = '\x00' := Char.toNat_inj.1 code
      exact nul ▸ inText
    · have high := Text.le_of_mem_utf8EncodeChar (Nat.le_of_not_lt ascii) 0 inChar
      exact absurd high (by decide)
  · intro nul
    exact ⟨'\x00', nul, by decide⟩

/-- The bytes that are hashed depend on the first 72 bytes of the text only. -/
theorem passwordBytes_eq (password : String) :
    passwordBytes password = ((Text.utf8 password).take 72 ++ [0]).take 72 := by
  rw [passwordBytes, List.take_append, List.take_append, List.take_take, Nat.min_self,
    List.length_take]
  congr 2
  omega

/-- The key begins with the bytes that are hashed. -/
theorem exists_keyBytes_eq_append (password : String) :
    ∃ rest, keyBytes password = passwordBytes password ++ rest := by
  have short : (passwordBytes password).length ≤ 72 := List.length_take_le 72 _
  have start : (keyBytes password).take (passwordBytes password).length =
      passwordBytes password := by
    apply List.ext_getElem
    · rw [List.length_take, length_keyBytes, Nat.min_eq_left short]
    · intro i _ inside
      simp [keyBytes, cyclicByte, Nat.mod_eq_of_lt inside, inside]
  refine ⟨(keyBytes password).drop (passwordBytes password).length, ?_⟩
  rw [← start, List.length_take, length_keyBytes, Nat.min_eq_left short]
  exact (List.take_append_drop _ _).symm

/-- The first zero in the key of a text without NUL stands where the text ends. -/
theorem takeWhile_keyBytes {password : String} (h : 0 ∉ Text.utf8 password) :
    (keyBytes password).takeWhile (· ≠ 0) = (Text.utf8 password).take 72 := by
  have nonzero : ∀ b ∈ Text.utf8 password, decide (b ≠ 0) = true := by
    intro b member
    exact decide_eq_true fun zero => h (zero ▸ member)
  obtain ⟨rest, split⟩ := exists_keyBytes_eq_append password
  by_cases short : (Text.utf8 password).length < 72
  · have whole : passwordBytes password = Text.utf8 password ++ [0] := by
      apply List.take_of_length_le
      rw [List.length_append, List.length_singleton]
      exact short
    rw [split, whole, List.append_assoc, List.takeWhile_append_of_pos nonzero,
      List.take_of_length_le (Nat.le_of_lt short)]
    simp
  · -- The text fills the key, and the NUL after it is cut off.
    have cut : passwordBytes password = (Text.utf8 password).take 72 :=
      List.take_append_of_le_length (Nat.le_of_not_lt short)
    have none : rest = [] := by
      have count := congrArg List.length split
      simp [cut] at count
      exact List.length_eq_zero_iff.1 (by omega)
    rw [split, none, cut]
    rw [List.takeWhile_append_of_pos fun b member => nonzero b (List.mem_of_mem_take member),
      List.takeWhile_nil, List.append_nil]

/-- Passwords without NUL have the same key exactly when their first 72 bytes agree. -/
theorem keyBytes_eq_iff {p q : String} (hp : 0 ∉ Text.utf8 p) (hq : 0 ∉ Text.utf8 q) :
    keyBytes p = keyBytes q ↔ (Text.utf8 p).take 72 = (Text.utf8 q).take 72 := by
  constructor
  · intro same
    rw [← takeWhile_keyBytes hp, same, takeWhile_keyBytes hq]
  · intro same
    rw [keyBytes, keyBytes, passwordBytes_eq, passwordBytes_eq q, same]

end SecretCodec.Bcrypt
