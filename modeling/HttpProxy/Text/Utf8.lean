import Mathlib.Data.List.Basic
import Mathlib.Data.Nat.Bitwise

/-!
`String.toUTF8` is injective: the bytes of a Rust `String` determine it. `config.rs` keys a
credential by the base64 of a user spec's bytes, and two specs must never share a key.

The encoding of a character is read on natural numbers (`utf8Nat`, through
`map_toNat_utf8EncodeChar`): its first byte tells how many bytes follow, and `decodeNat` reads
the code point back from them whatever follows (`decodeNat_utf8Nat`), whence
`utf8Nat_append_inj` and `toUTF8_injective`.
-/

namespace HttpProxy

/-- The bytes of `String.utf8EncodeChar` for the code point `n`, as numbers. -/
def utf8Nat (n : ℕ) : List ℕ :=
  if n ≤ 0x7f then [n]
  else if n ≤ 0x7ff then [0xc0 + n / 64, 0x80 + n % 64]
  else if n ≤ 0xffff then [0xe0 + n / 4096, 0x80 + n / 64 % 64, 0x80 + n % 64]
  else [0xf0 + n / 262144, 0x80 + n / 4096 % 64, 0x80 + n / 64 % 64, 0x80 + n % 64]

lemma toNat_lit (n : ℕ) : (no_index (OfNat.ofNat n : UInt8)).toNat = n % 256 := rfl

lemma toNat_or (a b : UInt8) : (a ||| b).toNat = a.toNat ||| b.toNat := BitVec.toNat_or ..

lemma toNat_toUInt8 (v : UInt32) : v.toUInt8.toNat = v.toNat % 256 := by
  simp [UInt32.toUInt8, UInt8.toNat, Nat.toUInt8, UInt8.ofNat]

lemma toNat_shiftRight (v k : UInt32) (hk : k.toNat < 32) :
    (v >>> k).toNat = v.toNat / 2 ^ k.toNat := by
  show (v.toBitVec >>> (k % 32).toBitVec.toNat).toNat = _
  rw [BitVec.toNat_ushiftRight, Nat.shiftRight_eq_div_pow]
  congr 2
  exact (UInt32.toNat_mod k 32).trans (Nat.mod_eq_of_lt hk)

lemma lor_tag : ∀ y < 64, (y ||| 128 = 128 + y) ∧ (y < 32 → y ||| 192 = 192 + y) ∧
    (y < 16 → y ||| 224 = 224 + y) ∧ (y < 8 → y ||| 240 = 240 + y) := by
  decide

lemma and_low (x k : ℕ) (hk : k ≤ 8) : x % 256 &&& 2 ^ k - 1 = x % 2 ^ k := by
  rw [Nat.and_pow_two_sub_one_eq_mod, Nat.mod_mod_of_dvd x (Nat.pow_dvd_pow 2 hk)]

/-- A tagged byte of an encoding: the low `k` bits of `x` under the tag whose high `7 - k` bits
are set, for a continuation byte (`k = 6`, tag `10`) and for the first byte of a two-, three- or
four-byte encoding (`k = 5, 4, 3`, tags `110`, `1110`, `11110`). -/
lemma tag_or (x k : ℕ) (hk : 3 ≤ k ∧ k ≤ 6) :
    x % 256 &&& 2 ^ k - 1 ||| 256 - 2 ^ (k + 1) = 256 - 2 ^ (k + 1) + x % 2 ^ k := by
  rw [and_low x k (by omega)]
  have hy := Nat.mod_lt x (Nat.two_pow_pos k)
  obtain rfl | rfl | rfl | rfl : k = 3 ∨ k = 4 ∨ k = 5 ∨ k = 6 := by omega
  · exact (lor_tag _ (by omega)).2.2.2 hy
  · exact (lor_tag _ (by omega)).2.2.1 hy
  · exact (lor_tag _ (by omega)).2.1 hy
  · exact (lor_tag _ hy).1

/-- `String.utf8EncodeChar` read on numbers. -/
lemma map_toNat_utf8EncodeChar (c : Char) :
    (String.utf8EncodeChar c).map UInt8.toNat = utf8Nat c.toNat := by
  have s6 : (c.val >>> 6).toNat = c.toNat / 64 := toNat_shiftRight _ 6 (by decide)
  have s12 : (c.val >>> 12).toNat = c.toNat / 4096 := toNat_shiftRight _ 12 (by decide)
  have s18 : (c.val >>> 18).toNat = c.toNat / 262144 := toNat_shiftRight _ 18 (by decide)
  have e0 : c.val.toNat = c.toNat := rfl
  have e1 : (c.val ≤ 127) = (c.toNat ≤ 127) := rfl
  have e2 : (c.val ≤ 2047) = (c.toNat ≤ 2047) := rfl
  have e3 : (c.val ≤ 65535) = (c.toNat ≤ 65535) := rfl
  have t6 (x : ℕ) : x % 256 &&& 63 ||| 128 = 128 + x % 64 := tag_or x 6 (by decide)
  have t5 (x : ℕ) : x % 256 &&& 31 ||| 192 = 192 + x % 32 := tag_or x 5 (by decide)
  have t4 (x : ℕ) : x % 256 &&& 15 ||| 224 = 224 + x % 16 := tag_or x 4 (by decide)
  have t3 (x : ℕ) : x % 256 &&& 7 ||| 240 = 240 + x % 8 := tag_or x 3 (by decide)
  have hc : c.toNat < 0x110000 := by
    rcases c.valid with h | h <;> simp [Char.toNat] <;> omega
  simp only [String.utf8EncodeChar, utf8Nat, e1, e2, e3]
  split_ifs <;>
    simp only [List.map_cons, List.map_nil, toNat_or, UInt8.and_toNat, toNat_toUInt8, s6, s12,
      s18, e0, toNat_lit, Nat.reduceMod, List.cons.injEq, and_true, t6, t5, t4, t3] <;>
    omega

lemma utf8Nat_ne_nil (n : ℕ) : utf8Nat n ≠ [] := by
  unfold utf8Nat; split_ifs <;> simp

/-- The code point at the head of a sequence of bytes, read as its first byte says. -/
def decodeNat (l : List ℕ) : ℕ :=
  let b0 := l.getD 0 0
  let b := fun i => l.getD i 0 % 64
  if b0 < 0x80 then b0
  else if b0 < 0xe0 then (b0 - 0xc0) * 64 + b 1
  else if b0 < 0xf0 then (b0 - 0xe0) * 4096 + b 1 * 64 + b 2
  else (b0 - 0xf0) * 262144 + b 1 * 4096 + b 2 * 64 + b 3

/-- Decoding gives the code point back, whatever follows its encoding. -/
lemma decodeNat_utf8Nat (n : ℕ) (r : List ℕ) : decodeNat (utf8Nat n ++ r) = n := by
  unfold utf8Nat
  split_ifs <;>
    simp only [decodeNat, List.cons_append, List.nil_append, List.getD_cons_zero,
      List.getD_cons_succ]
  · rw [if_pos (by omega)]
  · rw [if_neg (by omega), if_pos (by omega)]; omega
  · rw [if_neg (by omega), if_neg (by omega), if_pos (by omega)]; omega
  · rw [if_neg (by omega), if_neg (by omega), if_neg (by omega)]; omega

/-- The first byte of an encoding says how many bytes it has, and the bytes give the code
point back. -/
lemma utf8Nat_append_inj {a b : ℕ} {r r' : List ℕ} (h : utf8Nat a ++ r = utf8Nat b ++ r') :
    a = b := by
  rw [← decodeNat_utf8Nat a r, h, decodeNat_utf8Nat]

lemma flatMap_utf8Nat_inj : ∀ {s t : List Char},
    s.flatMap (fun c => utf8Nat c.toNat) = t.flatMap (fun c => utf8Nat c.toNat) → s = t
  | [], [], _ => rfl
  | [], d :: _, h => absurd h.symm (by simp [utf8Nat_ne_nil])
  | c :: _, [], h => absurd h (by simp [utf8Nat_ne_nil])
  | c :: cs, d :: ds, h => by
    simp only [List.flatMap_cons] at h
    have hcd := utf8Nat_append_inj h
    rw [hcd, List.append_cancel_left_eq] at h
    rw [← Char.ofNat_toNat c, hcd, Char.ofNat_toNat, flatMap_utf8Nat_inj h]

/-- **`String.toUTF8` is injective**: a string is determined by its bytes. -/
theorem toUTF8_injective : Function.Injective String.toUTF8 := by
  rintro ⟨s⟩ ⟨t⟩ h
  have h' := congrArg (fun b : ByteArray => b.data.toList.map UInt8.toNat) h
  simp only [String.toUTF8, List.map_flatMap, map_toNat_utf8EncodeChar] at h'
  rw [flatMap_utf8Nat_inj h']

end HttpProxy
