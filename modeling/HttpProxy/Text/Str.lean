import Mathlib.Data.List.Basic
import Mathlib.Data.Nat.Digits

/-!
The two parts of Rust's `str` library that `proxy.rs` and `config.rs` parse with.

* `Str.split`: `str::split` by a character, the pieces between its occurrences;
  `split_of_not_mem` and `split_append` read the first pieces off a string.
* `unsignedFromStr`: `FromStr::from_str` of an unsigned integer type, through the checked digit
  loop `accumulate`, with `u16FromStr` and `u8FromStr` its two uses. `unsignedFromStr_eq_ok`
  characterises what it accepts: an optional `+`, then one or more decimal digits
  (`IsDecimalText`) whose value fits the type; `u16FromStr_eq_ok` is the `u16` case.
* `toString_decimal`: the text `Display` gives a number, which `proxy.rs` writes into a `Host`
  header and `ipnetwork` into a network's text, is one or more decimal digits of its value with
  no leading zero.
-/

namespace HttpProxy

namespace Str

/-- `str::split` by one character: the pieces between its occurrences, at least one. -/
def split (c : Char) (s : String) : List String := (s.data.splitOn c).map String.mk

lemma split_of_not_mem {c : Char} {s : String} (h : c ∉ s.data) : split c s = [s] := by
  simp only [split, List.splitOn]
  rw [List.splitOnP_eq_single (· == c) s.data fun x hx hxc => h (eq_of_beq hxc ▸ hx)]
  rfl

lemma split_append {c : Char} {h : String} (hc : c ∉ h.data) (t : String) :
    split c (h ++ ⟨[c]⟩ ++ t) = h :: split c t := by
  simp only [split, List.splitOn, String.data_append]
  rw [List.append_assoc, List.singleton_append,
    List.splitOnP_first (· == c) h.data (fun x hx hxc => hc (eq_of_beq hxc ▸ hx)) c (by simp)]
  rfl

/-- The first piece is the text before the first `c`. -/
lemma head_split (c : Char) (s : String) :
    (split c s).head? = some ⟨s.data.takeWhile (· ≠ c)⟩ := by
  obtain ⟨l⟩ := s
  simp only [split, List.head?_map]
  induction l with
  | nil => rfl
  | cons x xs ih =>
    rw [List.splitOn, List.splitOnP_cons]
    by_cases hx : x = c
    · simp [hx]
    · obtain ⟨p, ps, hp⟩ := List.exists_cons_of_ne_nil (List.splitOnP_ne_nil (· == c) xs)
      simp only [List.splitOn, hp, List.head?_cons, Option.map_some', Option.some.injEq] at ih
      have ih' : p = xs.takeWhile (fun y => !decide (y = c)) := by simpa using congrArg String.data ih
      simp [hx, hp, ih', List.takeWhile_cons]

/-- A string without `c` is one piece; otherwise it is split at its first `c`. -/
lemma not_mem_or_eq_append (c : Char) (s : String) :
    c ∉ s.data ∨ ∃ h t : String, c ∉ h.data ∧ s = h ++ ⟨[c]⟩ ++ t := by
  obtain ⟨l⟩ := s
  induction l with
  | nil => exact .inl (List.not_mem_nil c)
  | cons x xs ih =>
    by_cases hx : x = c
    · exact .inr ⟨"", ⟨xs⟩, List.not_mem_nil c, by simp [hx]; rfl⟩
    · rcases ih with h | ⟨h, t, hc, he⟩
      · exact .inl (by simp [hx, h, Ne.symm hx])
      · refine .inr ⟨⟨x :: h.data⟩, t, by simp [Ne.symm hx, hc], ?_⟩
        have := congrArg String.data he
        simp only [String.data_append] at this
        simp [String.ext_iff, this]

/-- The text before the first `c` and the text after it are determined by the string. -/
lemma append_sep_inj {c : Char} {h h' t t' : String} (hc : c ∉ h.data) (hc' : c ∉ h'.data)
    (e : h ++ ⟨[c]⟩ ++ t = h' ++ ⟨[c]⟩ ++ t') : h = h' ∧ t = t' := by
  have := split_append hc t ▸ split_append hc' t' ▸ congrArg (split c) e
  obtain ⟨rfl, -⟩ := List.cons.inj this
  exact ⟨rfl, by simpa [String.ext_iff] using congrArg String.data e⟩

end Str

/-! ### `u16::from_str` -/

/-- The kinds of `ParseIntError` that `u16::from_str` returns. -/
inductive IntErrorKind where
  | empty | invalidDigit | posOverflow
  deriving DecidableEq, Repr

/-- `ParseIntError`'s text. -/
def IntErrorKind.text : IntErrorKind → String
  | .empty => "cannot parse integer from empty string"
  | .invalidDigit => "invalid digit found in string"
  | .posOverflow => "number too large to fit in target type"

/-- The value of a decimal digit. -/
def digitValue (d : Char) : ℕ := d.toNat - '0'.toNat

/-- One step of reading decimal digits. -/
def shiftDigit (acc : ℕ) (d : Char) : ℕ := acc * 10 + digitValue d

/-- The value of a string of decimal digits. -/
def decimal (ds : List Char) : ℕ := ds.foldl shiftDigit 0

/-- The digit loop of `from_str_radix` at radix 10, for the unsigned type whose largest value
is `max`: every character must be a decimal digit, and the checked multiply and add fail once
the value passes `max`. -/
def accumulate (max : ℕ) : ℕ → List Char → Except IntErrorKind ℕ
  | acc, [] => .ok acc
  | acc, d :: ds =>
    if d.isDigit then
      if shiftDigit acc d ≤ max then accumulate max (shiftDigit acc d) ds else .error .posOverflow
    else .error .invalidDigit

/-- `FromStr::from_str` of the unsigned type whose largest value is `max`: a lone sign is an
invalid digit, and only `+` is taken off before the digits. -/
def unsignedFromStr (max : ℕ) (s : String) : Except IntErrorKind ℕ :=
  match s.data with
  | [] => .error .empty
  | ['+'] | ['-'] => .error .invalidDigit
  | '+' :: ds => accumulate max 0 ds
  | ds => accumulate max 0 ds

/-- `<u16 as FromStr>::from_str`. -/
def u16FromStr (s : String) : Except IntErrorKind UInt16 :=
  match unsignedFromStr 65535 s with
  | .ok v => .ok (UInt16.ofNat v)
  | .error e => .error e

/-- `<u8 as FromStr>::from_str`. -/
def u8FromStr (s : String) : Except IntErrorKind UInt8 :=
  match unsignedFromStr 255 s with
  | .ok v => .ok (UInt8.ofNat v)
  | .error e => .error e

/-- The text an unsigned `from_str` reads as `n`: an optional `+`, then one or more decimal
digits of value `n`. -/
def IsDecimalText (q : String) (n : ℕ) : Prop :=
  ∃ ds : List Char, (q.data = ds ∨ q.data = '+' :: ds) ∧ ds ≠ [] ∧
    (∀ d ∈ ds, d.isDigit) ∧ decimal ds = n

/-- The digits of a decimal text, and so its value, are determined by the text. -/
lemma IsDecimalText.unique {q : String} {m n : ℕ} (hm : IsDecimalText q m)
    (hn : IsDecimalText q n) : m = n := by
  have key : ∀ {k}, IsDecimalText q k →
      decimal (if q.data.head? = some '+' then q.data.tail else q.data) = k := by
    rintro k ⟨ds, h | h, hne, hdig, rfl⟩ <;> rw [h]
    · obtain ⟨d, ds', rfl⟩ := List.exists_cons_of_ne_nil hne
      have : d ≠ '+' := fun e => absurd (e ▸ hdig d (List.mem_cons_self _ _)) (by decide)
      simp [this]
    · simp
  exact (key hm).symm.trans (key hn)

lemma le_foldl_shiftDigit (ds : List Char) (acc : ℕ) : acc ≤ ds.foldl shiftDigit acc := by
  induction ds generalizing acc with
  | nil => exact le_rfl
  | cons d ds ih => exact le_trans (by unfold shiftDigit; omega) (ih _)

/-- The checked loop accepts exactly the digit strings whose value stays at most `max`. -/
lemma accumulate_eq_ok {max acc : ℕ} (hacc : acc ≤ max) {ds : List Char} {v : ℕ} :
    accumulate max acc ds = .ok v ↔
      (∀ d ∈ ds, d.isDigit) ∧ ds.foldl shiftDigit acc = v ∧ v ≤ max := by
  induction ds generalizing acc with
  | nil => simp only [accumulate, Except.ok.injEq, List.foldl_nil]; aesop
  | cons d ds ih =>
    have hle := le_foldl_shiftDigit ds (shiftDigit acc d)
    by_cases hd : d.isDigit
    · by_cases hb : shiftDigit acc d ≤ max
      · simp [accumulate, hd, hb, ih hb]
      · simp only [accumulate, hd, hb, if_false, if_true, List.foldl_cons]
        refine ⟨nofun, fun ⟨_, hv, hv'⟩ => absurd (hv ▸ hle) (by omega)⟩
    · simp [accumulate, hd]

/-- **An unsigned `from_str`** accepts exactly an optional `+` and one or more decimal digits
whose value is at most `max`. -/
theorem unsignedFromStr_eq_ok {max : ℕ} {q : String} {n : ℕ} :
    unsignedFromStr max q = .ok n ↔ IsDecimalText q n ∧ n ≤ max := by
  obtain ⟨l⟩ := q
  simp only [unsignedFromStr, IsDecimalText]
  split
  next => exact ⟨nofun, fun ⟨⟨ds, h, hne, _⟩, _⟩ => (hne (h.resolve_right nofun).symm).elim⟩
  next =>
    refine ⟨nofun, fun ⟨⟨ds, h, hne, hdig, _⟩, _⟩ => h.elim (fun h => ?_) fun h => ?_⟩
    · exact absurd (hdig '+' (by simp [← h])) (by decide)
    · exact (hne (List.cons.inj h).2.symm).elim
  next =>
    refine ⟨nofun, fun ⟨⟨ds, h, hne, hdig, _⟩, _⟩ => h.elim (fun h => ?_) fun h => ?_⟩
    · exact absurd (hdig '-' (by simp [← h])) (by decide)
    · exact absurd (List.cons.inj h).1 (by decide)
  next ds hne =>
    rw [accumulate_eq_ok (Nat.zero_le _)]
    refine ⟨fun ⟨hdig, hd, hm⟩ => ⟨⟨ds, .inr rfl, fun h => hne h, hdig, hd⟩, hm⟩, ?_⟩
    rintro ⟨⟨ds', h | h, -, hdig, hd⟩, hm⟩
    · exact absurd (hdig '+' (by simp [← h])) (by decide)
    · exact (List.cons.inj h).2 ▸ ⟨hdig, hd, hm⟩
  next _ hnil _ _ hplus =>
    rw [accumulate_eq_ok (Nat.zero_le _)]
    refine ⟨fun ⟨hdig, hd, hm⟩ => ⟨⟨l, .inl rfl, hnil, hdig, hd⟩, hm⟩, ?_⟩
    rintro ⟨⟨ds', rfl | h, -, hdig, hd⟩, hm⟩
    · exact ⟨hdig, hd, hm⟩
    · exact absurd h (hplus ds')

/-- **`u16::from_str`** accepts exactly an optional `+` and one or more decimal digits, and
reads them as their value. -/
theorem u16FromStr_eq_ok {q : String} {p : UInt16} :
    u16FromStr q = .ok p ↔ IsDecimalText q p.toNat := by
  have hp : p.toNat ≤ 65535 := Nat.le_of_lt_succ p.toBitVec.isLt
  unfold u16FromStr
  split
  next v hv =>
    obtain ⟨ht, hv⟩ := unsignedFromStr_eq_ok.mp hv
    have hn : (UInt16.ofNat v).toNat = v := UInt16.toNat_ofNat_of_lt (by show v < 65536; omega)
    refine ⟨fun h => ?_, fun h => ?_⟩
    · cases h; rwa [hn]
    · exact congrArg Except.ok (UInt16.toNat.inj (hn.trans (ht.unique h)))
  next e he =>
    refine ⟨nofun, fun h => ?_⟩
    rw [unsignedFromStr_eq_ok.mpr ⟨h, hp⟩] at he
    cases he

/-! ### The text of a number -/

/-- `Nat.toDigitsCore` at base 10, with fuel for every digit, puts the decimal digits of a
positive number, most significant first, before what is already there. -/
lemma toDigitsCore_ten {f n : ℕ} (hn : 0 < n) (hf : n ≤ f) (ds : List Char) :
    Nat.toDigitsCore 10 f n ds = ((Nat.digits 10 n).map Nat.digitChar).reverse ++ ds := by
  induction f generalizing n ds with
  | zero => omega
  | succ f ih =>
    rw [Nat.toDigitsCore, Nat.digits_def' (by norm_num) hn]
    by_cases h : n / 10 = 0
    · simp [h]
    · simp [h, ih (Nat.pos_of_ne_zero h) (by omega)]

lemma digitChar_spec : ∀ d < 10, (Nat.digitChar d).isDigit ∧ digitValue (Nat.digitChar d) = d := by
  decide

lemma decimal_map_digitChar {L : List ℕ} (h : ∀ d ∈ L, d < 10) :
    decimal (L.map Nat.digitChar).reverse = Nat.ofDigits 10 L := by
  induction L with
  | nil => rfl
  | cons d L ih =>
    simp only [List.forall_mem_cons] at h
    simp only [decimal, List.map_cons, List.reverse_cons, List.foldl_append, List.foldl_cons,
      List.foldl_nil, Nat.ofDigits_cons] at ih ⊢
    rw [ih h.2, shiftDigit, (digitChar_spec d h.1).2]
    ring

/-- The text of a positive number is its decimal digits, most significant first. -/
lemma toString_data {n : ℕ} (hn : 0 < n) :
    (toString n).data = ((Nat.digits 10 n).map Nat.digitChar).reverse :=
  (toDigitsCore_ten hn n.le_succ []).trans (List.append_nil _)

/-- Every character of a number's text is the numeral of a decimal digit. -/
lemma mem_toString {n : ℕ} {c : Char} (h : c ∈ (toString n).data) :
    ∃ d < 10, c = Nat.digitChar d := by
  rcases Nat.eq_zero_or_pos n with rfl | hn
  · exact ⟨0, by norm_num, List.mem_singleton.mp h⟩
  · rw [toString_data hn, List.mem_reverse, List.mem_map] at h
    obtain ⟨d, hd, rfl⟩ := h
    exact ⟨d, Nat.digits_lt_base (by norm_num) hd, rfl⟩

/-- **The text of a number** (`Display` of an unsigned integer) is one or more decimal digits of
its value, the first of them `0` only for zero. -/
lemma toString_decimal (n : ℕ) :
    (toString n).data ≠ [] ∧ (∀ c ∈ (toString n).data, c.isDigit) ∧
      decimal (toString n).data = n ∧ ((toString n).data.head? = some '0' → n = 0) := by
  have hdig : ∀ c ∈ (toString n).data, c.isDigit := fun c hc => by
    obtain ⟨d, hd, rfl⟩ := mem_toString hc
    exact (digitChar_spec d hd).1
  rcases Nat.eq_zero_or_pos n with rfl | hn
  · exact ⟨nofun, hdig, rfl, fun _ => rfl⟩
  have hlt : ∀ d ∈ Nat.digits 10 n, d < 10 := fun d => Nat.digits_lt_base (by norm_num)
  have hne : Nat.digits 10 n ≠ [] := Nat.digits_ne_nil_iff_ne_zero.mpr hn.ne'
  refine ⟨?_, hdig, ?_, ?_⟩ <;> rw [toString_data hn]
  · simpa using hne
  · exact (decimal_map_digitChar hlt).trans (Nat.ofDigits_digits 10 n)
  · rw [List.head?_reverse, List.getLast?_map, List.getLast?_eq_getLast _ hne]
    intro h
    have hd := (digitChar_spec _ (hlt _ (List.getLast_mem hne))).2
    simp only [Option.map_some', Option.some.injEq] at h
    rw [h] at hd
    exact absurd hd.symm (Nat.getLast_digit_ne_zero 10 hn.ne')

end HttpProxy
