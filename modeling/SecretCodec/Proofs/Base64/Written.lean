import SecretCodec.Base64.Lemmas
import SecretCodec.Proofs.Text.Ascii
import SecretCodec.Proofs.Text.Places

/-!
# Base64 as a text

A written form consists of symbols and pad bytes (`mem_symbols_or_eq_pad`), all of them visible, so
blanks around a written form can be told from it (`trim_text`). Its length follows from the number
of bytes and the padding rule (`length_encode`). Conversely all symbols in whole groups of four are a
written form (`exists_encode_of_symbols`). What stands before the last group of three bytes is
written on its own (`text_append`).
-/

namespace SecretCodec.Base64

/-- Bytes that follow whole groups of three are cut as if they stood alone. -/
theorem toSixes_append {front : Bytes} (whole : front.length % 3 = 0) (back : Bytes) :
    toSixes (front ++ back) = toSixes front ++ toSixes back := by
  fun_induction toSixes front with
  | case1 x y z rest ih =>
    rw [List.length_cons, List.length_cons, List.length_cons] at whole
    have more : rest.length % 3 = 0 := by omega
    simp only [List.cons_append, toSixes, ih more]
  | case2 | case3 => cases whole
  | case4 => rfl

namespace Alphabet

variable (a : Alphabet)

theorem mem_symbols_or_eq_pad {bytes : Bytes} {b : UInt8} (h : b ∈ a.encode bytes) :
    b ∈ a.symbols ∨ b = pad := by
  obtain ⟨k, -, filled⟩ := a.fill_eq_replicate (toSixes bytes).length
  rw [encode, filled] at h
  obtain symbols | padding := List.mem_append.1 h
  · obtain ⟨n, -, rfl⟩ := List.mem_map.1 symbols
    exact .inl (a.symbol_mem n)
  · exact .inr (List.eq_of_mem_replicate padding)

/-- A character that is neither a symbol nor the pad character is in no written form. -/
theorem not_mem_text {c : Char} (other : ∀ s ∈ a.symbols, Char.ofUInt8 s ≠ c)
    (notPad : Char.ofUInt8 pad ≠ c) (bytes : Bytes) : c ∉ (a.text bytes).toList := by
  rw [text, Text.toList_ofAscii, List.mem_map]
  rintro ⟨b, member, same⟩
  obtain symbol | rfl := a.mem_symbols_or_eq_pad member
  · exact other b symbol same
  · exact notPad same

/-- A written form is as long as its groups: with padding the last one has four bytes, without it
two or three where bytes are left over. -/
theorem length_encode (bytes : Bytes) :
    (a.encode bytes).length =
      match a.padding with
      | .full => 4 * ((bytes.length + 2) / 3)
      | .none => (4 * bytes.length + 2) / 3 := by
  rw [encode, List.length_append, List.length_map, length_toSixes, fill]
  cases a.padding with
  | full =>
    simp only [List.length_replicate]
    omega
  | none => rfl

/-- Where the last group is always filled up and no pad byte is written, the groups are whole. -/
theorem dvd_length_of_pad_not_mem {bytes : Bytes} (full : a.padding = .full)
    (h : pad ∉ a.encode bytes) : 3 ∣ bytes.length := by
  have unfilled : (4 - (toSixes bytes).length % 4) % 4 = 0 := by
    rw [encode, fill, full, List.mem_append, not_or] at h
    by_contra filled
    exact h.2 (List.mem_replicate.2 ⟨filled, rfl⟩)
  rw [length_toSixes] at unfilled
  omega

theorem exists_symbol_of_mem {b : UInt8} (h : b ∈ a.symbols) : ∃ n < 64, a.symbol n = b := by
  obtain ⟨n, bound, same⟩ := List.mem_iff_getElem.1 h
  have small : n < 64 := a.length_symbols ▸ bound
  refine ⟨n, small, ?_⟩
  simp only [symbol, Nat.mod_eq_of_lt small, same]

theorem exists_map_symbol {written : Bytes} (h : ∀ b ∈ written, b ∈ a.symbols) :
    ∃ sixes : List Nat, (∀ n ∈ sixes, n < 64) ∧ written = sixes.map a.symbol := by
  induction written with
  | nil => exact ⟨[], by simp, rfl⟩
  | cons b rest ih =>
    obtain ⟨first, others⟩ := List.forall_mem_cons.1 h
    obtain ⟨n, small, rfl⟩ := a.exists_symbol_of_mem first
    obtain ⟨sixes, allSmall, rfl⟩ := ih others
    exact ⟨n :: sixes, List.forall_mem_cons.2 ⟨small, allSmall⟩, rfl⟩

/-- Symbols in whole groups of four are a written form, whichever they are. -/
theorem exists_encode_of_symbols {written : Bytes} (h : ∀ b ∈ written, b ∈ a.symbols)
    (whole : written.length % 4 = 0) : ∃ bytes, written = a.encode bytes := by
  obtain ⟨sixes, small, rfl⟩ := a.exists_map_symbol h
  rw [List.length_map] at whole
  have spare : spareBits sixes = 0 := by
    rw [spareBits, whole]
    rfl
  have unfilled : a.fill sixes.length = [] := by
    rw [fill, whole]
    cases a.padding <;> rfl
  refine ⟨ofSixes sixes, ?_⟩
  rw [encode, toSixes_ofSixes small (by omega) spare, unfilled, List.append_nil]

theorem text_injective {b c : Bytes} (h : a.text b = a.text c) : b = c := by
  apply a.encode_injective
  rw [← a.utf8_text, h, a.utf8_text]

/-- A text stands for a byte string exactly when it is how that is written. -/
theorem decode_utf8_eq_ok_iff {t : String} {bytes : Bytes} :
    a.decode (Text.utf8 t) = .ok bytes ↔ t = a.text bytes := by
  rw [decode_eq_ok_iff, ← utf8_text, Text.utf8_inj]

theorem length_text (bytes : Bytes) : (a.text bytes).length = (a.encode bytes).length := by
  rw [text, Text.length_ofAscii]

/-- Whole groups of three bytes are written without pad bytes, and what follows them as if it stood
alone. -/
theorem encode_append {front : Bytes} (whole : front.length % 3 = 0) (back : Bytes) :
    a.encode (front ++ back) = a.encode front ++ a.encode back := by
  have groups : (toSixes front).length % 4 = 0 := by
    rw [length_toSixes]
    omega
  have unfilled : a.fill (toSixes front).length = [] := by
    rw [fill, groups]
    cases a.padding <;> rfl
  have filled : a.fill ((toSixes front).length + (toSixes back).length) =
      a.fill (toSixes back).length := by
    rw [fill, fill, Nat.add_mod, groups, Nat.zero_add, Nat.mod_mod]
  rw [encode, encode, encode, toSixes_append whole, List.length_append, filled, unfilled,
    List.map_append, List.append_nil, List.append_assoc]

theorem text_append {front : Bytes} (whole : front.length % 3 = 0) (back : Bytes) :
    a.text (front ++ back) = a.text front ++ a.text back := by
  rw [text, encode_append a whole, Text.ofAscii_append, text, text]

/-- An alphabet of visible symbols. -/
def IsVisible : Prop := ∀ s ∈ a.symbols, Text.IsVisible s

theorem standard_isVisible : standard.IsVisible := by
  have all : ∀ s ∈ standard.symbols, Text.IsVisible s := by decide +kernel
  exact all

theorem trim_text {a : Alphabet} (visible : a.IsVisible) (bytes : Bytes) :
    Text.trim (a.text bytes) = a.text bytes := by
  apply Text.trim_ofAscii
  intro b member
  obtain symbol | rfl := a.mem_symbols_or_eq_pad member
  · exact visible b symbol
  · decide

end Alphabet

end SecretCodec.Base64
