import SecretCodec.Blowfish.Pi
import SecretCodec.Text.Utf8

/-!
# The block cipher Blowfish, with the key setup of password hashing

The cipher works on two words in sixteen rounds. Its subkeys are 1042 words: eighteen that are added
to the words, and four tables of 256 words for the round function. They start as the binary digits
of π and are expanded under a key and a salt: the key is added to the first eighteen, and then all
words are replaced in order by the encryptions of a running block into which the salt is mixed.

The expensive setup repeats the expansion many times, under the key and under the salt in turn.
-/

namespace SecretCodec.Blowfish

/-- The eighteen words added in the rounds, followed by the four tables of the round function. -/
abbrev Subkeys := Vector UInt32 1042

/-- The binary digits of π after the point, in words. -/
def initial : Subkeys :=
  let digits := piFraction (32 * 1042)
  Vector.ofFn fun i => UInt32.ofNat (digits >>> (32 * (1041 - i.val)))

/-- The round function: each byte of the word selects an entry of its own table. -/
def roundFunction (keys : Subkeys) (x : UInt32) : UInt32 :=
  let a := (x >>> 24).toUInt8.toNat
  let b := (x >>> 16).toUInt8.toNat
  let c := (x >>> 8).toUInt8.toNat
  let d := x.toUInt8.toNat
  have := (x >>> 24).toUInt8.toNat_lt
  have := (x >>> 16).toUInt8.toNat_lt
  have := (x >>> 8).toUInt8.toNat_lt
  have := x.toUInt8.toNat_lt
  ((keys[18 + a] + keys[274 + b]) ^^^ keys[530 + c]) + keys[786 + d]

/-- The last `count` of the sixteen rounds and the two additions after them. -/
def rounds (keys : Subkeys) : (count : Nat) → (left right : UInt32) → UInt32 × UInt32
  | 0, left, right => (right ^^^ keys[17], left ^^^ keys[16])
  | count + 1, left, right =>
    let mixed := left ^^^ keys[15 - count]
    rounds keys count (right ^^^ roundFunction keys mixed) mixed

/-- The encryption of a block of two words. -/
def encipher (keys : Subkeys) (left right : UInt32) : UInt32 × UInt32 := rounds keys 16 left right

/-- The words that a byte string spells when it is repeated, the high byte of each first. -/
def cyclicWord (bytes : Bytes) (i : Nat) : UInt32 :=
  (List.range 4).foldl
    (fun word j => word <<< 8 ||| (bytes[(4 * i + j) % bytes.length]?.getD 0).toUInt32) 0

/-- A key added to the first eighteen subkeys. -/
def addKey (key : Vector UInt32 18) (keys : Subkeys) : Subkeys :=
  Fin.foldl 18 (fun keys i => keys.set i.val (keys[i.val] ^^^ key[i])) keys

/-- The last `count` pairs of subkeys replaced by encryptions of the running block. -/
def refill (salt : Vector UInt32 4) : (count : Nat) → (left right : UInt32) → Subkeys → Subkeys
  | 0, _, _, keys => keys
  | count + 1, left, right, keys =>
    let i := 2 * (520 - count)
    let (left, right) := encipher keys (left ^^^ salt[i % 4]) (right ^^^ salt[(i + 1) % 4])
    refill salt count left right ((keys.set i left).set (i + 1) right)

/-- One expansion of the subkeys under a key and a salt. -/
def expand (key : Vector UInt32 18) (salt : Vector UInt32 4) (keys : Subkeys) : Subkeys :=
  refill salt 521 0 0 (addKey key keys)

/-- The salt of an expansion without salt. -/
def noSalt : Vector UInt32 4 := Vector.replicate 4 0

/-- Repeated expansion without salt, under two keys in turn. -/
def alternate (first second : Vector UInt32 18) : (count : Nat) → Subkeys → Subkeys
  | 0, keys => keys
  | count + 1, keys =>
    alternate first second count (expand second noSalt (expand first noSalt keys))

/-- The expensive key setup, whose work doubles with every unit of cost. -/
def setup (cost : Nat) (salt password : Bytes) : Subkeys :=
  let passwordWords := Vector.ofFn fun i => cyclicWord password i.val
  let saltWords := Vector.ofFn fun i => cyclicWord salt i.val
  let firstSalt := Vector.ofFn fun i => cyclicWord salt i.val
  alternate passwordWords saltWords (1 <<< cost) (expand passwordWords firstSalt initial)

/-- A block encrypted repeatedly. -/
def encipherTimes (keys : Subkeys) : (count : Nat) → (left right : UInt32) → UInt32 × UInt32
  | 0, left, right => (left, right)
  | count + 1, left, right =>
    let (left, right) := encipher keys left right
    encipherTimes keys count left right

end SecretCodec.Blowfish
