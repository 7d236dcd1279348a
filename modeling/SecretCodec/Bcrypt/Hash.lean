import SecretCodec.Blowfish.Cipher

/-!
# The password hash

The hash of a password is a fixed text, encrypted sixty-four times under subkeys that the password
and a salt have been worked into. One NUL is put after the password, and no more than 72 bytes of
the outcome are used, so longer passwords that agree so far have the same hash.
-/

namespace SecretCodec.Bcrypt

/-- The text that is encrypted: three blocks that spell "OrpheanBeholderScryDoubt". -/
def seed : List (UInt32 × UInt32) :=
  [(0x4f727068, 0x65616e42), (0x65686f6c, 0x64657253), (0x63727944, 0x6f756274)]

/-- The four bytes of a word, the high byte first. -/
def wordBytes (w : UInt32) : Bytes :=
  [(w >>> 24).toUInt8, (w >>> 16).toUInt8, (w >>> 8).toUInt8, w.toUInt8]

/-- The bytes of a password that are hashed. -/
def passwordBytes (password : String) : Bytes := (Text.utf8 password ++ [0]).take 72

/-- The hash of a password: the encrypted text without its last byte. -/
def hash (cost : Nat) (salt : Bytes) (password : String) : Bytes :=
  let keys := Blowfish.setup cost salt (passwordBytes password)
  let blocks := seed.map fun (left, right) => Blowfish.encipherTimes keys 64 left right
  (blocks.flatMap fun (left, right) => wordBytes left ++ wordBytes right).take 23

@[simp] theorem length_hash (cost : Nat) (salt : Bytes) (password : String) :
    (hash cost salt password).length = 23 := by
  simp [hash, seed, wordBytes]

end SecretCodec.Bcrypt
