/-!
# Binary digits of π

The cipher takes its first subkeys from the binary digits of π after the point. They are computed in
whole numbers from the formula π = 16 arctan(1/5) - 4 arctan(1/239), with more digits than are
asked for, so that the errors of rounding stay below the last digit that is kept.
-/

namespace SecretCodec.Blowfish

/-- The value of `count` terms of the series `power/odd - power/square/(odd + 2) + …`, each rounded
down. -/
def arctanSeries (square : Nat) : (count odd power : Nat) → Nat
  | 0, _, _ => 0
  | count + 1, odd, power => power / odd - arctanSeries square count (odd + 2) (power / square)

/-- The arctangent of `1/k` for `k` at least five, times `2^bits`. A term is less than 1/16 of the
one before, so a fourth as many terms as bits are enough. -/
def arctan (k bits : Nat) : Nat := arctanSeries (k * k) (bits / 4 + 1) 1 ((1 <<< bits) / k)

/-- The fraction of π times `2^bits`, rounded down. -/
def piFraction (bits : Nat) : Nat :=
  let guard := 64
  let precision := bits + guard
  (16 * arctan 5 precision - 4 * arctan 239 precision - (3 <<< precision)) >>> guard

end SecretCodec.Blowfish
