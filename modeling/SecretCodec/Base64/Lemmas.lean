import SecretCodec.Base64

/-!
# Laws of base64

Bytes and their six-bit numbers determine each other (`ofSixes_toSixes`, `toSixes_ofSixes`), and so
do numbers and their symbols (`value?_eq_some_iff`). Together they give the main statement,
`Alphabet.decode_eq_ok_iff`: what is read is exactly what is written, for every alphabet.
-/

namespace SecretCodec.Base64

private theorem toNat_ofNat {n : Nat} (h : n < 256) : (UInt8.ofNat n).toNat = n :=
  UInt8.toNat_ofNat_of_lt' h

private theorem ofNat_eq {n : Nat} {b : UInt8} (h : n = b.toNat) : UInt8.ofNat n = b := by
  rw [h, UInt8.ofNat_toNat]

/-! ### Six-bit numbers -/

theorem toSixes_lt (bytes : Bytes) : ∀ n ∈ toSixes bytes, n < 64 := by
  fun_induction toSixes bytes with
  | case1 x y z rest ih =>
    have hx := x.toNat_lt
    have hy := y.toNat_lt
    have hz := z.toNat_lt
    simp only [List.forall_mem_cons]
    exact ⟨by omega, by omega, by omega, by omega, ih⟩
  | case2 x y =>
    have hx := x.toNat_lt
    have hy := y.toNat_lt
    simp only [List.forall_mem_cons]
    exact ⟨by omega, by omega, by omega, by simp⟩
  | case3 x =>
    have hx := x.toNat_lt
    simp only [List.forall_mem_cons]
    exact ⟨by omega, by omega, by simp⟩
  | case4 => simp

theorem length_toSixes (bytes : Bytes) : (toSixes bytes).length = (4 * bytes.length + 2) / 3 := by
  fun_induction toSixes bytes with
  | case1 x y z rest ih =>
    simp only [List.length_cons, ih]
    omega
  | case2 | case3 | case4 => simp

theorem spareBits_cons₄ (p q r s : Nat) (rest : List Nat) :
    spareBits (p :: q :: r :: s :: rest) = spareBits rest := by
  cases rest with
  | nil => simp [spareBits]
  | cons n rest =>
    have : (rest.length + 1 + 1 + 1 + 1 + 1) % 4 = (rest.length + 1) % 4 := by omega
    simp [spareBits, List.getLastD, this]

/-- Written forms leave no spare bit set. -/
@[simp] theorem spareBits_toSixes (bytes : Bytes) : spareBits (toSixes bytes) = 0 := by
  fun_induction toSixes bytes with
  | case1 x y z rest ih => rw [spareBits_cons₄, ih]
  | case2 x y => simp [spareBits]
  | case3 x => simp [spareBits]
  | case4 => rfl

/-- The numbers of a byte string make up that byte string. -/
@[simp] theorem ofSixes_toSixes (bytes : Bytes) : ofSixes (toSixes bytes) = bytes := by
  fun_induction toSixes bytes with
  | case1 x y z rest ih =>
    have hx := x.toNat_lt
    have hy := y.toNat_lt
    have hz := z.toNat_lt
    rw [ofSixes, ih, ofNat_eq (b := x) (by omega), ofNat_eq (b := y) (by omega),
      ofNat_eq (b := z) (by omega)]
  | case2 x y =>
    have hx := x.toNat_lt
    have hy := y.toNat_lt
    rw [ofSixes, ofNat_eq (b := x) (by omega), ofNat_eq (b := y) (by omega)]
  | case3 x =>
    have hx := x.toNat_lt
    rw [ofSixes, ofNat_eq (b := x) (by omega)]
  | case4 => rfl

/-- Numbers below sixty-four come back if they make up whole bytes and the spare bits are zero. -/
theorem toSixes_ofSixes {sixes : List Nat} (small : ∀ n ∈ sixes, n < 64)
    (whole : sixes.length % 4 ≠ 1) (spare : spareBits sixes = 0) :
    toSixes (ofSixes sixes) = sixes := by
  fun_induction ofSixes sixes with
  | case1 p q r s rest ih =>
    simp only [List.forall_mem_cons] at small
    obtain ⟨hp, hq, hr, hs, more⟩ := small
    rw [spareBits_cons₄] at spare
    rw [toSixes, ih more (by simp only [List.length_cons] at whole; omega) spare,
      toNat_ofNat (by omega), toNat_ofNat (by omega), toNat_ofNat (by omega)]
    simp only [List.cons.injEq, and_true]
    omega
  | case2 p q r =>
    simp only [List.forall_mem_cons] at small
    simp [spareBits] at spare
    rw [toSixes, toNat_ofNat (by omega), toNat_ofNat (by omega)]
    simp only [List.cons.injEq, and_true]
    omega
  | case3 p q =>
    simp only [List.forall_mem_cons] at small
    simp [spareBits] at spare
    rw [toSixes, toNat_ofNat (by omega)]
    simp only [List.cons.injEq, and_true]
    omega
  | case4 ns short₄ short₃ short₂ =>
    match ns with
    | [] => rfl
    | [_] => simp at whole
    | [p, q] => exact (short₂ p q rfl).elim
    | [p, q, r] => exact (short₃ p q r rfl).elim
    | p :: q :: r :: s :: rest => exact (short₄ p q r s rest rfl).elim

namespace Alphabet

variable (a : Alphabet)

/-! ### Symbols -/

/-- Numbers and symbols determine each other. -/
theorem value?_eq_some_iff {b : UInt8} {n : Nat} :
    a.value? b = some n ↔ n < 64 ∧ a.symbol n = b := by
  rw [value?, List.idxOf?_eq_some_iff]
  have len := a.length_symbols
  constructor
  · rintro ⟨lt, same, -⟩
    rw [len] at lt
    exact ⟨lt, by simp only [symbol, Nat.mod_eq_of_lt lt, same]⟩
  · rintro ⟨lt, same⟩
    simp only [symbol, Nat.mod_eq_of_lt lt] at same
    refine ⟨by omega, same, fun j hj other => ?_⟩
    have := (List.getElem_inj a.nodup_symbols).1 (other.trans same.symm)
    omega

theorem symbol_mem (n : Nat) : a.symbol n ∈ a.symbols := List.getElem_mem _

theorem symbol_ne_pad (n : Nat) : a.symbol n ≠ pad := fun h => a.pad_not_mem (h ▸ a.symbol_mem n)

theorem fill_eq_replicate (count : Nat) : ∃ k < 4, a.fill count = List.replicate k pad := by
  simp only [fill]
  split
  · exact ⟨_, Nat.mod_lt _ (by decide), rfl⟩
  · exact ⟨0, by decide, rfl⟩

/-- Written forms are ASCII. -/
theorem encode_lt (bytes : Bytes) : ∀ b ∈ a.encode bytes, b < 128 := by
  obtain ⟨k, -, filled⟩ := a.fill_eq_replicate (toSixes bytes).length
  simp only [encode, filled, List.mem_append, List.mem_map, List.mem_replicate]
  rintro b (⟨n, -, rfl⟩ | ⟨-, rfl⟩)
  · exact a.symbols_lt _ (a.symbol_mem n)
  · decide

@[simp] theorem utf8_text (bytes : Bytes) : Text.utf8 (a.text bytes) = a.encode bytes :=
  Text.utf8_ofAscii (a.encode_lt bytes)

/-! ### Reading -/

theorem readSymbols_cons_eq_ok_iff {offset : Nat} {b : UInt8} {rest : Bytes} {sixes : List Nat} :
    a.readSymbols offset (b :: rest) = .ok sixes ↔
      ∃ n ns, a.value? b = some n ∧ a.readSymbols (offset + 1) rest = .ok ns ∧ sixes = n :: ns := by
  rw [readSymbols]
  cases a.value? b with
  | none => simp
  | some n =>
    cases a.readSymbols (offset + 1) rest with
    | error e => simp [Except.map]
    | ok ns => simp [Except.map, eq_comm]

theorem readSymbols_eq_ok_iff {offset : Nat} {written : Bytes} {sixes : List Nat} :
    a.readSymbols offset written = .ok sixes ↔
      (∀ n ∈ sixes, n < 64) ∧ written = sixes.map a.symbol := by
  induction written generalizing offset sixes with
  | nil => cases sixes <;> simp [readSymbols]
  | cons b rest ih =>
    simp only [readSymbols_cons_eq_ok_iff, value?_eq_some_iff, ih]
    constructor
    · rintro ⟨n, ns, ⟨lt, rfl⟩, ⟨small, rfl⟩, rfl⟩
      exact ⟨List.forall_mem_cons.2 ⟨lt, small⟩, rfl⟩
    · rintro ⟨small, same⟩
      cases sixes with
      | nil => cases same
      | cons n ns =>
        obtain ⟨lt, small⟩ := List.forall_mem_cons.1 small
        obtain ⟨first, more⟩ := List.cons.inj same
        exact ⟨n, ns, ⟨lt, first.symm⟩, ⟨small, more⟩, rfl⟩

private theorem takeWhile_symbols (sixes : List Nat) (k : Nat) :
    (sixes.map a.symbol ++ List.replicate k pad).takeWhile (· ≠ pad) = sixes.map a.symbol := by
  rw [List.takeWhile_append_of_pos]
  · cases k <;> simp [List.replicate_succ]
  · simp [a.symbol_ne_pad]

private theorem dropWhile_symbols (sixes : List Nat) (k : Nat) :
    (sixes.map a.symbol ++ List.replicate k pad).dropWhile (· ≠ pad) = List.replicate k pad := by
  rw [List.dropWhile_append_of_pos]
  · cases k <;> simp [List.replicate_succ]
  · simp [a.symbol_ne_pad]

/-- Filling up the last group leaves what stands before it alone. -/
private theorem frontLength_symbols (sixes : List Nat) :
    frontLength (sixes.map a.symbol ++ a.fill sixes.length) = (sixes.length - 1) / 4 * 4 := by
  simp only [frontLength, fill, List.length_append, List.length_map]
  split
  · simp only [List.length_replicate]
    omega
  · simp

/-- What is read has passed all checks: the front and the last group are symbols, the last group is
no single symbol, and just the fill comes after it. -/
private theorem exists_groups_of_readSixes {written : Bytes} {sixes : List Nat}
    (read : a.readSixes written = .ok sixes) :
    let offset := frontLength written
    let last := written.drop offset
    ∃ front back, a.readSymbols 0 (written.take offset) = .ok front ∧
      a.readSymbols offset (last.takeWhile (· ≠ pad)) = .ok back ∧ sixes = front ++ back ∧
      back.length ≠ 1 ∧ last.dropWhile (· ≠ pad) = a.fill (offset + back.length) := by
  intro offset last
  simp only [readSixes] at read
  cases first : a.readSymbols 0 (written.take offset) with
  | error e => simp [offset, first, bind, Except.bind] at read
  | ok front =>
    cases second : a.readSymbols offset (last.takeWhile (· ≠ pad)) with
    | error e =>
      simp only [offset, last, first, second, bind, Except.bind] at read
      cases read
    | ok back =>
      have lengthBack : (last.takeWhile (· ≠ pad)).length = back.length := by
        rw [(a.readSymbols_eq_ok_iff.1 second).2, List.length_map]
      simp only [offset, last, first, second, lengthBack, bind, Except.bind] at read
      split at read
      · cases read
      · split at read
        · cases read
        · next several =>
          split at read
          · cases read
          · next filled =>
            cases read
            exact ⟨front, back, rfl, rfl, rfl, several, Classical.not_not.1 filled⟩

theorem readSixes_sound {written : Bytes} {sixes : List Nat}
    (read : a.readSixes written = .ok sixes) :
    (∀ n ∈ sixes, n < 64) ∧ sixes.length % 4 ≠ 1 ∧
      written = sixes.map a.symbol ++ a.fill sixes.length := by
  obtain ⟨front, back, first, last, rfl, several, filled⟩ := a.exists_groups_of_readSixes read
  obtain ⟨smallFront, isFront⟩ := a.readSymbols_eq_ok_iff.1 first
  obtain ⟨smallBack, isBack⟩ := a.readSymbols_eq_ok_iff.1 last
  have bound : frontLength written ≤ written.length := by
    simp only [frontLength]
    omega
  have lengthFront : front.length = frontLength written := by
    have := congrArg List.length isFront
    simp only [List.length_take, List.length_map] at this
    omega
  have lengthBack : back.length ≤ 4 := by
    have := congrArg List.length isBack
    have := (List.takeWhile_sublist (p := (· ≠ pad))
      (l := written.drop (frontLength written))).length_le
    simp only [List.length_map, List.length_drop, frontLength] at *
    omega
  refine ⟨List.forall_mem_append.2 ⟨smallFront, smallBack⟩, ?_, ?_⟩
  · simp only [List.length_append, lengthFront, frontLength]
    omega
  · rw [List.map_append, ← isFront, ← isBack, List.append_assoc, List.length_append, lengthFront,
      ← filled, List.takeWhile_append_dropWhile, List.take_append_drop]

/-- Numbers that make up whole bytes end in a group of two to four. Only where there are none at all,
the last group is empty, and then nothing is filled up. -/
private theorem exists_groups {sixes : List Nat} (whole : sixes.length % 4 ≠ 1) :
    ∃ front back, sixes = front ++ back ∧ front.length = (sixes.length - 1) / 4 * 4 ∧
      (2 ≤ back.length ∨ back = [] ∧ a.fill sixes.length = []) := by
  refine ⟨sixes.take ((sixes.length - 1) / 4 * 4), sixes.drop ((sixes.length - 1) / 4 * 4),
    (List.take_append_drop ..).symm, by rw [List.length_take]; omega, ?_⟩
  cases sixes with
  | nil =>
    refine .inr ⟨rfl, ?_⟩
    rw [fill]
    split <;> rfl
  | cons n more =>
    left
    simp only [List.length_drop, List.length_cons] at whole ⊢
    omega

theorem readSixes_symbols {sixes : List Nat} (small : ∀ n ∈ sixes, n < 64)
    (whole : sixes.length % 4 ≠ 1) :
    a.readSixes (sixes.map a.symbol ++ a.fill sixes.length) = .ok sixes := by
  obtain ⟨front, back, rfl, lengthFront, group⟩ := a.exists_groups whole
  obtain ⟨smallFront, smallBack⟩ := List.forall_mem_append.1 small
  obtain ⟨k, -, filled⟩ := a.fill_eq_replicate (front ++ back).length
  have take_eq : (front.map a.symbol ++ (back.map a.symbol ++ List.replicate k pad)).take
      front.length = front.map a.symbol := List.take_left' (List.length_map _)
  have drop_eq : (front.map a.symbol ++ (back.map a.symbol ++ List.replicate k pad)).drop
      front.length = back.map a.symbol ++ List.replicate k pad :=
    List.drop_left' (List.length_map _)
  have at_front : frontLength ((front ++ back).map a.symbol ++ a.fill (front ++ back).length) =
      front.length := by rw [a.frontLength_symbols, lengthFront]
  simp only [readSixes, at_front]
  simp only [filled, List.map_append, List.append_assoc, take_eq, drop_eq, takeWhile_symbols,
    dropWhile_symbols, a.readSymbols_eq_ok_iff.2 ⟨smallFront, rfl⟩,
    a.readSymbols_eq_ok_iff.2 ⟨smallBack, rfl⟩, bind, Except.bind, List.length_map]
  rw [if_neg, if_neg, if_neg]
  · rw [← List.length_append, filled]
    simp
  · intro lone
    obtain several | ⟨rfl, -⟩ := group
    · omega
    · cases lone
  · rintro ⟨some, few | other⟩
    · obtain several | ⟨-, none⟩ := group
      · omega
      · exact some (filled.symm.trans none)
    · simp at other

/-- Reading gives the numbers below sixty-four whose symbols, filled up, are what is read. -/
theorem readSixes_eq_ok_iff {written : Bytes} {sixes : List Nat} :
    a.readSixes written = .ok sixes ↔
      (∀ n ∈ sixes, n < 64) ∧ sixes.length % 4 ≠ 1 ∧
        written = sixes.map a.symbol ++ a.fill sixes.length := by
  constructor
  · exact a.readSixes_sound
  · rintro ⟨small, whole, rfl⟩
    exact a.readSixes_symbols small whole

/-- What is read is exactly what is written. -/
theorem decode_eq_ok_iff {written bytes : Bytes} :
    a.decode written = .ok bytes ↔ written = a.encode bytes := by
  constructor
  · intro h
    rw [decode] at h
    split at h
    · cases h
    · next sixes read =>
      obtain ⟨small, whole, rfl⟩ := a.readSixes_eq_ok_iff.1 read
      split at h
      · next spare =>
        cases h
        rw [encode, toSixes_ofSixes small whole spare]
      · cases h
  · rintro rfl
    have read : a.readSixes (a.encode bytes) = .ok (toSixes bytes) :=
      a.readSixes_eq_ok_iff.2
        ⟨toSixes_lt bytes, by rw [length_toSixes]; omega, rfl⟩
    rw [decode, read]
    simp

@[simp] theorem decode_encode (bytes : Bytes) : a.decode (a.encode bytes) = .ok bytes :=
  a.decode_eq_ok_iff.2 rfl

/-- Different byte strings have different written forms. -/
theorem encode_injective {b c : Bytes} (h : a.encode b = a.encode c) : b = c := by
  have := a.decode_encode b
  rw [h, a.decode_encode c] at this
  exact (Except.ok.inj this).symm

end Alphabet

end SecretCodec.Base64
