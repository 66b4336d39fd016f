import Mathlib.Data.List.Nodup
import Mathlib.Data.List.GetD
import Mathlib.Data.String.Basic

/-!
The `base64` crate's `general_purpose::STANDARD` engine, with which `config.rs` turns a user
spec into the `Proxy-Authorization` value it expects.

* `Base64.encode`: three bytes to four characters of the standard alphabet, and `=` padding
  for a last group of one or two bytes.
* `Base64.decode` reads an encoding back (`decode_encode`), so `encode` is injective
  (`encode_injective`).
-/

namespace HttpProxy

namespace Base64

/-- The standard alphabet. -/
def standard : List Char := "ABCDEFGHIJKLMNOPQRSTUVWXYZabcdefghijklmnopqrstuvwxyz0123456789+/".data

/-- The character of a six-bit group. -/
def sextetChar (n : ℕ) : Char := standard.getD n '='

/-- The six-bit group of an alphabet character. -/
def sextetValue (c : Char) : ℕ := standard.indexOf c

/-- `Engine::encode` with the standard alphabet and padding. -/
def encodeChars : List UInt8 → List Char
  | [] => []
  | [a] => [sextetChar (a.toNat / 4), sextetChar (a.toNat % 4 * 16), '=', '=']
  | [a, b] =>
    [sextetChar (a.toNat / 4), sextetChar (a.toNat % 4 * 16 + b.toNat / 16),
      sextetChar (b.toNat % 16 * 4), '=']
  | a :: b :: c :: rest =>
    [sextetChar (a.toNat / 4), sextetChar (a.toNat % 4 * 16 + b.toNat / 16),
      sextetChar (b.toNat % 16 * 4 + c.toNat / 64), sextetChar (c.toNat % 64)] ++ encodeChars rest

/-- `general_purpose::STANDARD.encode`. -/
def encode (input : List UInt8) : String := ⟨encodeChars input⟩

/-- The bytes of one group of four characters, padding read as the end. -/
def decodeQuad (c₀ c₁ c₂ c₃ : Char) : List UInt8 :=
  let n₀ := sextetValue c₀
  let n₁ := sextetValue c₁
  let n₂ := sextetValue c₂
  let n₃ := sextetValue c₃
  if c₂ = '=' then [.ofNat (n₀ * 4 + n₁ / 16)]
  else if c₃ = '=' then [.ofNat (n₀ * 4 + n₁ / 16), .ofNat (n₁ % 16 * 16 + n₂ / 4)]
  else [.ofNat (n₀ * 4 + n₁ / 16), .ofNat (n₁ % 16 * 16 + n₂ / 4), .ofNat (n₂ % 4 * 64 + n₃)]

/-- Reads an encoding back, four characters at a time. -/
def decode : List Char → List UInt8
  | c₀ :: c₁ :: c₂ :: c₃ :: rest => decodeQuad c₀ c₁ c₂ c₃ ++ decode rest
  | _ => []

lemma standard_nodup : standard.Nodup := List.Nodup.of_map Char.toNat (by decide)

lemma pad_not_mem : '=' ∉ standard := by decide

lemma sextetChar_ne_pad {n : ℕ} (h : n < 64) : sextetChar n ≠ '=' := by
  have hn : n < standard.length := h
  rw [sextetChar, List.getD_eq_getElem _ _ hn]
  exact fun he => pad_not_mem (he ▸ List.getElem_mem hn)

@[simp] lemma sextetValue_sextetChar {n : ℕ} (h : n < 64) : sextetValue (sextetChar n) = n := by
  have hn : n < standard.length := h
  rw [sextetChar, sextetValue, List.getD_eq_getElem _ _ hn, List.indexOf_getElem standard_nodup]

lemma ofNat_toNat (a : UInt8) : UInt8.ofNat a.toNat = a :=
  UInt8.toNat.inj (by simp [UInt8.ofNat, UInt8.toNat, Nat.mod_eq_of_lt a.toBitVec.isLt])

lemma ofNat_eq (a : UInt8) {n : ℕ} (h : n = a.toNat) : UInt8.ofNat n = a := h ▸ ofNat_toNat a

/-- **Decoding inverts `encode`.** -/
theorem decode_encode : ∀ input : List UInt8, decode (encodeChars input) = input
  | [] => rfl
  | [a] => by
    have ha := UInt8.toNat_lt a
    simp only [encodeChars, decode, decodeQuad, if_true, List.append_nil,
      sextetValue_sextetChar (show a.toNat / 4 < 64 by omega),
      sextetValue_sextetChar (show a.toNat % 4 * 16 < 64 by omega), List.cons.injEq, and_true]
    exact ofNat_eq a (by omega)
  | [a, b] => by
    have ha := UInt8.toNat_lt a
    have hb := UInt8.toNat_lt b
    simp only [encodeChars, decode, decodeQuad, if_true, List.append_nil,
      sextetChar_ne_pad (show b.toNat % 16 * 4 < 64 by omega), if_false,
      sextetValue_sextetChar (show a.toNat / 4 < 64 by omega),
      sextetValue_sextetChar (show a.toNat % 4 * 16 + b.toNat / 16 < 64 by omega),
      sextetValue_sextetChar (show b.toNat % 16 * 4 < 64 by omega), List.cons.injEq, and_true]
    exact ⟨ofNat_eq a (by omega), ofNat_eq b (by omega)⟩
  | a :: b :: c :: rest => by
    have ha := UInt8.toNat_lt a
    have hb := UInt8.toNat_lt b
    have hc := UInt8.toNat_lt c
    simp only [encodeChars, List.cons_append, List.nil_append, decode, decodeQuad,
      sextetChar_ne_pad (show b.toNat % 16 * 4 + c.toNat / 64 < 64 by omega),
      sextetChar_ne_pad (show c.toNat % 64 < 64 by omega), if_false,
      sextetValue_sextetChar (show a.toNat / 4 < 64 by omega),
      sextetValue_sextetChar (show a.toNat % 4 * 16 + b.toNat / 16 < 64 by omega),
      sextetValue_sextetChar (show b.toNat % 16 * 4 + c.toNat / 64 < 64 by omega),
      sextetValue_sextetChar (show c.toNat % 64 < 64 by omega), List.append_eq, decode_encode rest,
      List.cons.injEq, and_true]
    exact ⟨ofNat_eq a (by omega), ofNat_eq b (by omega), ofNat_eq c (by omega)⟩

/-- Distinct byte strings have distinct encodings. -/
theorem encode_injective : Function.Injective encode := fun x y h => by
  rw [← decode_encode x, ← decode_encode y]
  exact congrArg (fun s : String => decode s.data) h

end Base64

end HttpProxy
