import SecretCodec.Blocks
import SecretCodec.Text.Utf8

/-!
# Iterated hash functions

A hash function of the MD5 and SHA families compresses one block after another into a state of fixed
size. The message is padded to whole blocks by a one bit, zeros and the message's length.

`IteratedHash.hash` says what the digest of a whole message is. A `Hasher` computes it while the
message arrives in parts: it compresses every block as soon as it is complete and keeps the
incomplete one (`length_pending_lt`). What it holds after some parts is what it would hold after
their concatenation (`foldl_update_start`), so the parts do not matter, only what they spell together
(`finish_updates`).
-/

namespace SecretCodec.Digest

/-- The data of an iterated hash function. Lengths count bytes. -/
structure IteratedHash where
  State : Type
  blockLength : Nat
  outputLength : Nat
  initial : State
  compress : State → Vector UInt8 blockLength → State
  /-- How the padding writes the length of the message. -/
  lengthField : Nat → Bytes
  output : State → Vector UInt8 outputLength

namespace IteratedHash

variable (h : IteratedHash)

/-- The state after the whole blocks at the front of `data`. -/
def absorb (state : h.State) (data : Bytes) : h.State :=
  (Blocks.cut h.blockLength data).foldl h.compress state

/-- What is put after a message of the given length: a one bit, the fewest zeros that lead to whole
blocks, and the length. -/
def padding (length : Nat) : Bytes :=
  let field := h.lengthField length
  let used := (length + 1 + field.length) % h.blockLength
  0x80 :: List.replicate ((h.blockLength - used) % h.blockLength) 0 ++ field

/-- The digest of a message. -/
def hash (message : Bytes) : Vector UInt8 h.outputLength :=
  h.output (h.absorb h.initial (message ++ h.padding message.length))

/-- A padded message consists of whole blocks. -/
theorem length_append_padding_mod (pos : 0 < h.blockLength) (message : Bytes) :
    (message ++ h.padding message.length).length % h.blockLength = 0 := by
  have used := Nat.mod_lt (message.length + 1 + (h.lengthField message.length).length) pos
  have whole := Nat.div_add_mod (message.length + 1 + (h.lengthField message.length).length)
    h.blockLength
  simp only [padding, List.length_append, List.length_cons, List.length_replicate]
  generalize (h.lengthField message.length).length = field at *
  generalize (message.length + 1 + field) % h.blockLength = r at *
  generalize (message.length + 1 + field) / h.blockLength = q at *
  by_cases zero : r = 0
  · have : message.length + ((h.blockLength - r) % h.blockLength + 1 + field)
        = h.blockLength * q := by
      rw [zero, Nat.sub_zero, Nat.mod_self]
      omega
    rw [this, Nat.mul_mod_right]
  · have : message.length + ((h.blockLength - r) % h.blockLength + 1 + field)
        = h.blockLength * (q + 1) := by
      rw [Nat.mod_eq_of_lt (by omega), Nat.mul_add, Nat.mul_one]
      omega
    rw [this, Nat.mul_mod_right]

end IteratedHash

/-- A hash computation in progress: the state after all complete blocks, the bytes of the block that
is not complete yet, and the length of everything that has arrived. -/
structure Hasher (h : IteratedHash) where
  state : h.State
  pending : Bytes
  length : Nat

namespace Hasher

variable {h : IteratedHash}

/-- A computation to which nothing has arrived. -/
def start : Hasher h := ⟨h.initial, [], 0⟩

/-- One more part of the message arrives. -/
def update (s : Hasher h) (part : Bytes) : Hasher h :=
  let data := s.pending ++ part
  ⟨h.absorb s.state data, Blocks.rest h.blockLength data, s.length + part.length⟩

/-- The digest of what has arrived. -/
def finish (s : Hasher h) : Vector UInt8 h.outputLength :=
  h.output (h.absorb s.state (s.pending ++ h.padding s.length))

/-- The computation to which a message has arrived as a whole. -/
def ofMessage (message : Bytes) : Hasher h :=
  ⟨h.absorb h.initial message, Blocks.rest h.blockLength message, message.length⟩

/-- The incomplete block and what follows it are compressed as a continuation of the blocks. -/
theorem absorb_absorb_rest (state : h.State) (data more : Bytes) :
    h.absorb (h.absorb state data) (Blocks.rest h.blockLength data ++ more)
      = h.absorb state (data ++ more) := by
  rw [IteratedHash.absorb, IteratedHash.absorb, IteratedHash.absorb, ← List.foldl_append,
    Blocks.cut_append_cut_rest]

theorem update_ofMessage (message part : Bytes) :
    (ofMessage (h := h) message).update part = ofMessage (message ++ part) := by
  simp only [ofMessage, update, absorb_absorb_rest, Blocks.rest_rest_append, List.length_append]

theorem start_eq_ofMessage : start = ofMessage (h := h) [] := by
  simp [start, ofMessage, IteratedHash.absorb, Blocks.rest]

theorem finish_ofMessage (message : Bytes) : (ofMessage message).finish = h.hash message := by
  simp only [finish, ofMessage, absorb_absorb_rest, IteratedHash.hash]

/-- After any parts the computation is where their concatenation as a whole would have led it. -/
theorem foldl_update_ofMessage (message : Bytes) (parts : List Bytes) :
    parts.foldl update (ofMessage (h := h) message) = ofMessage (message ++ parts.flatten) := by
  induction parts generalizing message with
  | nil => rw [List.foldl_nil, List.flatten_nil, List.append_nil]
  | cons part parts ih =>
    rw [List.foldl_cons, update_ofMessage, ih, List.flatten_cons, List.append_assoc]

theorem foldl_update_start (parts : List Bytes) :
    parts.foldl update (start (h := h)) = ofMessage parts.flatten := by
  rw [start_eq_ofMessage, foldl_update_ofMessage, List.nil_append]

/-- What waits for the next part never fills a block. -/
theorem length_pending_lt (pos : 0 < h.blockLength) (parts : List Bytes) :
    (parts.foldl update (start (h := h))).pending.length < h.blockLength := by
  rw [foldl_update_start]
  exact Blocks.length_rest_lt pos parts.flatten

/-- Only the concatenation of the parts matters. -/
theorem finish_updates (parts : List Bytes) :
    (parts.foldl update (start (h := h))).finish = h.hash parts.flatten := by
  rw [foldl_update_start, finish_ofMessage]

end Hasher

end SecretCodec.Digest
