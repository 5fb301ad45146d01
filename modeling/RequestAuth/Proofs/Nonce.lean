import RequestAuth.Nonce

/-! The written form of a nonce has 32 lower-case hexadecimal digits, which say what its octets are. -/

namespace RequestAuth.Bytes

theorem hexValue?_hexDigit : ∀ n < 16, hexValue? (hexDigit n) = some n := by decide

theorem ofHexChars?_hexChars (b : Bytes) : ofHexChars? (hexChars b) = some b := by
  induction b with
  | nil => rfl
  | cons x r ih =>
    have hx := x.toNat_lt
    have whole : 16 * (x.toNat / 16) + x.toNat % 16 = x.toNat := by omega
    simp only [hexChars, ofHexChars?, hexValue?_hexDigit _ (by omega : x.toNat / 16 < 16),
      hexValue?_hexDigit _ (by omega : x.toNat % 16 < 16), ih, Option.bind_eq_bind, Option.bind_some,
      whole, UInt8.ofNat_toNat]
    rfl

theorem ofHex?_toHex (b : Bytes) : ofHex? (toHex b) = some b := by
  rw [ofHex?, toHex, String.toList_ofList, ofHexChars?_hexChars]

theorem hexDigit_lower : ∀ n < 16, hexDigit n ∈ "0123456789abcdef".toList := by decide

theorem lower_of_mem_hexChars {b : Bytes} {c : Char} (h : c ∈ hexChars b) :
    c ∈ "0123456789abcdef".toList := by
  induction b with
  | nil => simp [hexChars] at h
  | cons x r ih =>
    have hx := x.toNat_lt
    simp only [hexChars, List.mem_cons] at h
    obtain rfl | rfl | h := h
    · exact hexDigit_lower _ (by omega)
    · exact hexDigit_lower _ (by omega)
    · exact ih h

end RequestAuth.Bytes

namespace RequestAuth.Nonce

theorem length_hex (n : Nonce) : n.hex.length = 32 := by
  rw [hex, Bytes.toHex, String.length_ofList, Bytes.length_hexChars, length_toList]
  rfl

theorem lower_of_mem_hex {n : Nonce} {c : Char} (h : c ∈ n.hex.toList) :
    c ∈ "0123456789abcdef".toList := by
  rw [hex, Bytes.toHex, String.toList_ofList] at h
  exact Bytes.lower_of_mem_hexChars h

theorem ofHex?_hex (n : Nonce) : Bytes.ofHex? n.hex = some n.toList := Bytes.ofHex?_toHex _

end RequestAuth.Nonce
