import SecretCodec.Hex
import SecretCodec.Proofs.Text.Ascii

/-!
# What quotation marks hold

A byte string is quoted piece by piece: the characters it spells, and in between the bytes that
belong to no character (`exists_pieces`). How a piece is written can be read again, whatever follows
it (`read?_written_append`). So nothing is lost between quotation marks: two byte strings that are
quoted alike are the same (`quoteBytes_injective`). A single quoted byte is short
(`length_quoteChar_le`).
-/

namespace SecretCodec.Text

variable {mark c : Char}

/-! ### Length -/

/-- A character with a code of one byte is escaped by at most six characters. -/
theorem length_escape_le (small : c.toNat < 256) :
    ((escape mark c).flatMap String.utf8EncodeChar).length ≤ 6 := by
  have pair : ∀ d : Char, (['\\', d].flatMap String.utf8EncodeChar).length ≤ 6 := by
    intro d
    have size := d.utf8Size_le_four
    have backslash : '\\'.utf8Size = 1 := rfl
    simp only [List.flatMap_cons, List.flatMap_nil, List.length_append, List.length_nil,
      String.length_utf8EncodeChar, backslash]
    omega
  rw [escape]
  split
  · exact pair '0'
  split
  · exact pair 't'
  split
  · exact pair 'n'
  split
  · exact pair 'r'
  split
  · exact pair c
  split
  · have numbers : ∀ n < 256,
        ((Nat.toDigits 16 n).flatMap String.utf8EncodeChar).length ≤ 2 := by
      decide +kernel
    have number := numbers c.toNat small
    have front : (['\\', 'u', '{'].flatMap String.utf8EncodeChar).length = 3 := rfl
    have back : (['}'].flatMap String.utf8EncodeChar).length = 1 := rfl
    rw [List.flatMap_append, List.flatMap_append, List.length_append, List.length_append, front,
      back]
    omega
  · have size := c.utf8Size_le_four
    rw [List.flatMap_singleton, String.length_utf8EncodeChar]
    omega

theorem length_quoteChar_le (small : c.toNat < 256) : (utf8 (quoteChar c)).length ≤ 8 := by
  have escaped : ((escape '\'' c).flatMap String.utf8EncodeChar).length ≤ 6 :=
    length_escape_le small
  have apostrophe : String.utf8EncodeChar '\'' = [39] := rfl
  rw [quoteChar, utf8_ofList, List.flatMap_append, List.flatMap_cons, List.flatMap_singleton,
    apostrophe]
  simp only [List.length_append, List.length_cons, List.length_nil]
  omega

/-! ### Pieces -/

/-- What a quoted byte string consists of. -/
inductive Piece where
  | char (c : Char)
  | byte (b : UInt8)

namespace Piece

/-- The bytes of a piece. -/
def bytes : Piece → Bytes
  | .char c => String.utf8EncodeChar c
  | .byte b => [b]

/-- How a piece stands between quotation marks. -/
def written : Piece → List Char
  | .char c => escape '"' c
  | .byte b => ['\\', 'x'] ++ (Nat.toDigits 16 b.toNat).map Char.toUpper

/-- Whether a piece needs two digits if it is a byte, as all do that belong to no character. -/
def IsWide : Piece → Prop
  | .char _ => True
  | .byte b => 16 ≤ b.toNat

/-- The number in digits up to a closing brace, and what follows that. -/
def readNumber (number : Nat) : List Char → Option (Nat × List Char)
  | [] => none
  | c :: rest =>
    if c = '}' then some (number, rest)
    else (Hex.value? c.toNat).bind fun digit => readNumber (16 * number + digit) rest

/-- The character that a letter behind a backslash stands for. -/
def named (letter : Char) : Char :=
  if letter = '0' then '\x00'
  else if letter = 't' then '\t'
  else if letter = 'n' then '\n'
  else if letter = 'r' then '\r'
  else letter

/-- The piece that begins with a backslash before the given characters. -/
def readEscape : List Char → Option (Piece × List Char)
  | 'x' :: high :: low :: rest =>
    (Hex.value? high.toNat).bind fun h => (Hex.value? low.toNat).map fun l =>
      (.byte (UInt8.ofNat (16 * h + l)), rest)
  | 'u' :: '{' :: rest => (readNumber 0 rest).map fun (n, rest) => (.char (Char.ofNat n), rest)
  | letter :: rest => some (.char (named letter), rest)
  | [] => none

/-- The piece that is written first, and what follows it. -/
def read? : List Char → Option (Piece × List Char)
  | [] => none
  | c :: rest => if c = '\\' then readEscape rest else some (.char c, rest)

theorem readNumber_digits {digits : List Char} {number : Nat} (rest : List Char)
    (known : ∀ c ∈ digits, (Hex.value? c.toNat).isSome) :
    readNumber number (digits ++ '}' :: rest) =
      some (digits.foldl (fun n c => 16 * n + (Hex.value? c.toNat).getD 0) number, rest) := by
  induction digits generalizing number with
  | nil => rfl
  | cons c digits ih =>
    obtain ⟨first, others⟩ := List.forall_mem_cons.1 known
    obtain ⟨digit, value⟩ := Option.isSome_iff_exists.1 first
    have other : c ≠ '}' := by
      rintro rfl
      cases value
    rw [List.cons_append, readNumber, if_neg other, value, Option.bind_some, ih others,
      List.foldl_cons, value]
    rfl

theorem value?_digitChar {n : Nat} (h : n < 16) :
    Hex.value? (Nat.digitChar n).toNat = some n ∧
      Hex.value? (Nat.digitChar n).toUpper.toNat = some n := by
  have digits : ∀ n < 16, Hex.value? (Nat.digitChar n).toNat = some n ∧
      Hex.value? (Nat.digitChar n).toUpper.toNat = some n := by
    decide +kernel
  exact digits n h

/-- The digits of a number are digits, and make up that number. -/
theorem foldl_toDigits (n : Nat) :
    (∀ c ∈ Nat.toDigits 16 n, (Hex.value? c.toNat).isSome) ∧
      (Nat.toDigits 16 n).foldl (fun n c => 16 * n + (Hex.value? c.toNat).getD 0) 0 = n := by
  induction n using Nat.strongRecOn with
  | ind n ih =>
    obtain small | large := Nat.lt_or_ge n 16
    · rw [Nat.toDigits_of_lt_base small]
      simp [value?_digitChar small]
    · obtain ⟨known, value⟩ := ih (n / 16) (by omega)
      have last := (value?_digitChar (Nat.mod_lt n (show 0 < 16 by decide))).1
      rw [Nat.toDigits_of_base_le (by decide) large]
      constructor
      · intro c member
        obtain front | back := List.mem_append.1 member
        · exact known c front
        · rw [List.mem_singleton.1 back, last]
          rfl
      · rw [List.foldl_append, value, List.foldl_cons, List.foldl_nil, last]
        exact Nat.div_add_mod n 16

theorem readNumber_toDigits (n : Nat) (rest : List Char) :
    readNumber 0 (Nat.toDigits 16 n ++ '}' :: rest) = some (n, rest) := by
  obtain ⟨known, value⟩ := foldl_toDigits n
  rw [readNumber_digits rest known, value]

theorem read?_char (c : Char) (rest : List Char) :
    read? (escape '"' c ++ rest) = some (.char c, rest) := by
  rw [escape]
  split
  · next same => rw [same]; rfl
  split
  · next same => rw [same]; rfl
  split
  · next same => rw [same]; rfl
  split
  · next same => rw [same]; rfl
  split
  · next same =>
    obtain same | same := same
    · rw [same]; rfl
    · rw [same]; rfl
  split
  · have shape : ['\\', 'u', '{'] ++ Nat.toDigits 16 c.toNat ++ ['}'] ++ rest =
        '\\' :: 'u' :: '{' :: (Nat.toDigits 16 c.toNat ++ '}' :: rest) := by
      simp
    rw [shape]
    show (readNumber 0 _).map _ = _
    rw [readNumber_toDigits]
    show some (Piece.char (Char.ofNat c.toNat), rest) = _
    rw [Char.ofNat_toNat]
  · next plain _ =>
    have other : c ≠ '\\' := fun same => plain (.inr same)
    exact if_neg other

theorem read?_byte {b : UInt8} (wide : 16 ≤ b.toNat) (rest : List Char) :
    read? ((Piece.byte b).written ++ rest) = some (.byte b, rest) := by
  have bound := b.toNat_lt
  have digits : Nat.toDigits 16 b.toNat =
      [Nat.digitChar (b.toNat / 16), Nat.digitChar (b.toNat % 16)] := by
    rw [Nat.toDigits_of_base_le (by decide) wide, Nat.toDigits_of_lt_base (by omega)]
    rfl
  have high := (value?_digitChar (n := b.toNat / 16) (by omega)).2
  have low := (value?_digitChar (n := b.toNat % 16) (by omega)).2
  rw [written, digits]
  show (Hex.value? _).bind _ = _
  rw [high, Option.bind_some, low, Option.map_some, Nat.div_add_mod, UInt8.ofNat_toNat]
  rfl

/-- A piece can be read whatever follows it. -/
theorem read?_written_append {p : Piece} (wide : p.IsWide) (rest : List Char) :
    read? (p.written ++ rest) = some (p, rest) := by
  cases p with
  | char c => exact read?_char c rest
  | byte b => exact read?_byte wide rest

/-- Pieces that are written alike are the same. -/
theorem eq_of_flatMap_written {ps qs : List Piece} (wide : ∀ p ∈ ps, p.IsWide)
    (wide' : ∀ q ∈ qs, q.IsWide) (h : ps.flatMap written = qs.flatMap written) : ps = qs := by
  have visible : ∀ {p : Piece} (rest : List Char), p.IsWide → p.written ++ rest ≠ [] := by
    intro p rest wide empty
    have read := read?_written_append wide rest
    rw [empty] at read
    cases read
  induction ps generalizing qs with
  | nil =>
    cases qs with
    | nil => rfl
    | cons q qs => exact (visible _ (wide' q List.mem_cons_self) h.symm).elim
  | cons p ps ih =>
    obtain ⟨wideP, more⟩ := List.forall_mem_cons.1 wide
    cases qs with
    | nil => exact (visible _ wideP h).elim
    | cons q qs =>
      obtain ⟨wideQ, more'⟩ := List.forall_mem_cons.1 wide'
      rw [List.flatMap_cons, List.flatMap_cons] at h
      have read := read?_written_append wideP (ps.flatMap written)
      rw [h, read?_written_append wideQ] at read
      obtain ⟨rfl, rest⟩ := Prod.mk.inj (Option.some.inj read)
      rw [ih more more' rest.symm]

end Piece

/-! ### Byte strings -/

theorem toList_toByteArray (bytes : Bytes) : bytes.toByteArray.data.toList = bytes := by
  simp [List.data_toByteArray]

/-- The first character is the one whose encoding stands in front. -/
theorem eq_append_of_firstChar? {bytes : Bytes} {c : Char} (h : firstChar? bytes = some c) :
    bytes = String.utf8EncodeChar c ++ bytes.drop c.utf8Size := by
  obtain ⟨after, same⟩ := ByteArray.exists_of_utf8DecodeChar?_eq_some h
  have front : bytes.take 4 = String.utf8EncodeChar c ++ after.data.toList := by
    have lists := congrArg (fun b : ByteArray => b.data.toList) same
    simpa [toList_toByteArray] using lists
  have pre : String.utf8EncodeChar c <+: bytes :=
    (front ▸ List.prefix_append _ _ : _ <+: bytes.take 4).trans (List.take_prefix 4 bytes)
  rw [← String.length_utf8EncodeChar]
  exact (List.prefix_iff_eq_append.1 pre).symm

/-- Every ASCII byte is a character. -/
theorem firstChar?_ne_none {b : UInt8} (ascii : b < 128) (rest : Bytes) :
    firstChar? (b :: rest) ≠ none := by
  have front : ((b :: rest).take 4).toByteArray =
      (String.utf8EncodeChar (Char.ofUInt8 b)).toByteArray ++ (rest.take 3).toByteArray := by
    rw [utf8EncodeChar_ofUInt8 ascii, ← List.toByteArray_append]
    rfl
  rw [firstChar?, front, ByteArray.utf8DecodeChar?_utf8EncodeChar_append]
  exact Option.some_ne_none _

/-- A byte string is quoted piece by piece. -/
theorem exists_pieces (bytes : Bytes) :
    ∃ ps : List Piece, (∀ p ∈ ps, p.IsWide) ∧ ps.flatMap Piece.bytes = bytes ∧
      ps.flatMap Piece.written = escapeBytes bytes := by
  induction bytes using escapeBytes.induct with
  | case1 => exact ⟨[], by simp, rfl, by simp [escapeBytes]⟩
  | case2 b rest c first ih =>
    obtain ⟨ps, wide, same, written⟩ := ih
    refine ⟨.char c :: ps, List.forall_mem_cons.2 ⟨trivial, wide⟩, ?_, ?_⟩
    · rw [List.flatMap_cons, same, ← List.drop_cons c.utf8Size_pos]
      exact (eq_append_of_firstChar? first).symm
    · rw [List.flatMap_cons, written, escapeBytes, first]
      rfl
  | case3 b rest none ih =>
    obtain ⟨ps, wide, same, written⟩ := ih
    have high : 128 ≤ b.toNat := by
      by_contra low
      exact firstChar?_ne_none (UInt8.lt_iff_toNat_lt.2 (Nat.lt_of_not_le low)) rest none
    refine ⟨.byte b :: ps, List.forall_mem_cons.2 ⟨Nat.le_trans (by decide) high, wide⟩, ?_, ?_⟩
    · rw [List.flatMap_cons, same]
      rfl
    · rw [List.flatMap_cons, written, escapeBytes, none]
      rfl

/-- Nothing is lost between quotation marks. -/
theorem quoteBytes_injective {x y : Bytes} (h : quoteBytes x = quoteBytes y) : x = y := by
  have quoted : '"' :: escapeBytes x ++ ['"'] = '"' :: escapeBytes y ++ ['"'] :=
    String.ofList_injective h
  have escaped : escapeBytes x = escapeBytes y :=
    List.cons_injective (List.append_cancel_right quoted)
  obtain ⟨ps, wide, same, written⟩ := exists_pieces x
  obtain ⟨qs, wide', same', written'⟩ := exists_pieces y
  have pieces : ps = qs := by
    apply Piece.eq_of_flatMap_written wide wide'
    rw [written, written', escaped]
  rw [← same, ← same', pieces]

end SecretCodec.Text
