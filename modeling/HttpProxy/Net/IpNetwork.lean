import HttpProxy.Text.Str

/-!
IP addresses and networks from `std::net` and the `ipnetwork` crate, as `config.rs` parses the
networks allowed to see the static content and `proxy.rs` checks a client against them.

* `IpAddr.toCanonical`: `IpAddr::to_canonical`; an IPv4-mapped IPv6 address becomes IPv4.
* `IpNetwork.contains`: the address agrees with the network's on the prefix bits
  (`Ipv4Network.contains_iff`); an address of the other family is never contained.
* `IpNetwork.fromStr`: `IpNetwork::from_str`. `cidr_parts` splits off the prefix at the one
  `/`; an IPv4 network is tried first (`std`'s address syntax, the prefix a number or a
  netmask), then an IPv6 one (`std`'s `read_ipv6_addr`, with `::` and a trailing IPv4 part).
* `IpNetwork.fromStr_display`: the text `Display` gives an IPv4 network, the CIDR form
  `a.b.c.d/p`, is parsed back to that network.
-/

namespace HttpProxy

/-- `std::net::IpAddr`. -/
inductive IpAddr where
  | v4 (a : BitVec 32)
  | v6 (a : BitVec 128)
  deriving DecidableEq

/-- `std::net::SocketAddr`. -/
structure SocketAddr where
  ip : IpAddr
  port : UInt16
  deriving DecidableEq

/-- `IpAddr::to_canonical`: the IPv6 address `::ffff:a.b.c.d` is the IPv4 address `a.b.c.d`. -/
def IpAddr.toCanonical : IpAddr → IpAddr
  | .v4 a => .v4 a
  | .v6 a => if a >>> 32 = 0xffff then .v4 (a.truncate 32) else .v6 a

/-- `Ipv4Addr::to_ipv6_mapped`: the IPv6 address `::ffff:a.b.c.d`. -/
def toIpv6Mapped (a : BitVec 32) : IpAddr := .v6 (BitVec.ofNat 128 (0xffff00000000 + a.toNat))

/-- An IPv4-mapped address is canonically the IPv4 address it maps. -/
lemma toCanonical_toIpv6Mapped (a : BitVec 32) : (toIpv6Mapped a).toCanonical = .v4 a := by
  have ha := a.isLt
  have hshift : BitVec.ofNat 128 (0xffff00000000 + a.toNat) >>> 32 = 0xffff := by
    apply BitVec.eq_of_toNat_eq
    simp only [BitVec.toNat_ushiftRight, BitVec.toNat_ofNat, Nat.shiftRight_eq_div_pow]
    show _ = 65535
    omega
  have htrunc : (BitVec.ofNat 128 (0xffff00000000 + a.toNat)).truncate 32 = a := by
    apply BitVec.eq_of_toNat_eq
    simp only [BitVec.truncate_eq_setWidth, BitVec.toNat_setWidth, BitVec.toNat_ofNat]
    omega
  simp only [toIpv6Mapped, IpAddr.toCanonical, hshift, htrunc, if_true]

/-- The mask of a prefix in a `w`-bit address, `!(MAX >> prefix)`. -/
def prefixMask (w p : ℕ) : BitVec w := ~~~(BitVec.allOnes w >>> p)

/-- `ipnetwork::Ipv4Network`. -/
structure Ipv4Network where
  addr : BitVec 32
  prefixLen : ℕ
  prefixLen_le : prefixLen ≤ 32
  deriving DecidableEq

instance : Inhabited Ipv4Network := ⟨⟨0, 32, le_rfl⟩⟩

/-- `ipnetwork::Ipv6Network`. -/
structure Ipv6Network where
  addr : BitVec 128
  prefixLen : ℕ
  prefixLen_le : prefixLen ≤ 128
  deriving DecidableEq

/-- `ipnetwork::IpNetwork`. -/
inductive IpNetwork where
  | v4 (n : Ipv4Network)
  | v6 (n : Ipv6Network)
  deriving DecidableEq, Inhabited

/-- `Ipv4Network::contains`. -/
def Ipv4Network.contains (n : Ipv4Network) (ip : BitVec 32) : Bool :=
  ip &&& prefixMask 32 n.prefixLen == n.addr &&& prefixMask 32 n.prefixLen

/-- `Ipv6Network::contains`, which compares the masked segments one by one. -/
def Ipv6Network.contains (n : Ipv6Network) (ip : BitVec 128) : Bool :=
  ip &&& prefixMask 128 n.prefixLen == n.addr &&& prefixMask 128 n.prefixLen

/-- `IpNetwork::contains`: only an address of the network's own family. -/
def IpNetwork.contains : IpNetwork → IpAddr → Bool
  | .v4 n, .v4 ip => n.contains ip
  | .v6 n, .v6 ip => n.contains ip
  | _, _ => false

/-- An address is in an IPv4 network exactly when it agrees with the network's address on the
first `prefixLen` bits. -/
lemma Ipv4Network.contains_iff (n : Ipv4Network) (ip : BitVec 32) :
    n.contains ip ↔ ip >>> (32 - n.prefixLen) = n.addr >>> (32 - n.prefixLen) := by
  have hp := n.prefixLen_le
  have hmask : ∀ i < 32, (prefixMask 32 n.prefixLen).getLsbD i = decide (32 - n.prefixLen ≤ i) := by
    intro i hi
    simp only [prefixMask, BitVec.getLsbD_not, BitVec.getLsbD_ushiftRight,
      BitVec.getLsbD_allOnes, hi, decide_True, Bool.true_and, ← decide_not, decide_eq_decide]
    omega
  simp only [contains, beq_iff_eq]
  constructor
  · intro h
    ext i
    simp only [BitVec.getLsbD_ushiftRight]
    by_cases hi : 32 - n.prefixLen + i < 32
    · have := congrArg (·.getLsbD (32 - n.prefixLen + i)) h
      simpa only [BitVec.getLsbD_and, hmask _ hi, Nat.le_add_right, decide_True, Bool.and_true]
        using this
    · simp only [BitVec.getLsbD_ge _ _ (not_lt.mp hi)]
  · intro h
    ext i
    simp only [BitVec.getLsbD_and, hmask i i.isLt]
    by_cases hi : 32 - n.prefixLen ≤ i
    · have := congrArg (·.getLsbD (i - (32 - n.prefixLen))) h
      simp only [BitVec.getLsbD_ushiftRight, Nat.add_sub_cancel' hi] at this
      simp [this]
    · simp [hi]

/-! ### Parsing -/

namespace AddrParser

/-- `char::to_digit(16)`. -/
def hexDigit? (c : Char) : Option ℕ :=
  if c.isDigit then some (c.toNat - '0'.toNat)
  else if 'a' ≤ c ∧ c ≤ 'f' then some (c.toNat - 'a'.toNat + 10)
  else if 'A' ≤ c ∧ c ≤ 'F' then some (c.toNat - 'A'.toNat + 10)
  else none

/-- `read_number(10, Some(3), false)` for a `u8`: the longest run of decimal digits, refused
past three digits, past 255, or with a leading zero. -/
def readDecOctet (s : List Char) : Option (ℕ × List Char) :=
  let ds := s.takeWhile Char.isDigit
  if ds = [] ∨ 3 < ds.length ∨ 255 < decimal ds ∨ (ds.head? = some '0' ∧ 1 < ds.length) then none
  else some (decimal ds, s.dropWhile Char.isDigit)

/-- `read_number(16, Some(4), true)` for a `u16`: the longest run of hex digits, refused past
four digits. -/
def readHexGroup (s : List Char) : Option (ℕ × List Char) :=
  let isHex := fun c => (hexDigit? c).isSome
  let ds := s.takeWhile isHex
  if ds = [] ∨ 4 < ds.length then none
  else some (ds.foldl (fun acc c => acc * 16 + (hexDigit? c).getD 0) 0, s.dropWhile isHex)

/-- `read_separator`: the separator, except before the first part. -/
def readSeparator (sep : Char) (first : Bool) (s : List Char) : Option (List Char) :=
  if first then some s
  else match s with
    | c :: r => if c = sep then some r else none
    | [] => none

/-- `read_ipv4_addr`: four decimal octets separated by `.`. -/
def readIpv4 (s : List Char) : Option (ℕ × List Char) := do
  let (a, s) ← readDecOctet s
  let (b, s) ← readSeparator '.' false s >>= readDecOctet
  let (c, s) ← readSeparator '.' false s >>= readDecOctet
  let (d, s) ← readSeparator '.' false s >>= readDecOctet
  pure (((a * 256 + b) * 256 + c) * 256 + d, s)

/-- `read_groups`: at most `n` hex groups separated by `:`, where an IPv4 address may stand
for the last two when two are left. Gives the groups, whether an IPv4 address ended them,
and the rest of the input. -/
def readGroups : ℕ → Bool → List Char → List ℕ × Bool × List Char
  | 0, _, s => ([], false, s)
  | n + 1, first, s =>
    match (if 0 < n then (readSeparator ':' first s).bind readIpv4 else none) with
    | some (a, r) => ([a / 65536, a % 65536], true, r)
    | none =>
      match (readSeparator ':' first s).bind readHexGroup with
      | some (g, r) =>
        let (gs, v4, r') := readGroups n false r
        (g :: gs, v4, r')
      | none => ([], false, s)

/-- `read_ipv6_addr`: eight groups, or fewer on each side of a `::`. -/
def readIpv6 (s : List Char) : Option (List ℕ × List Char) :=
  let (head, headIpv4, r) := readGroups 8 true s
  if head.length = 8 then some (head, r)
  else if headIpv4 then none
  else match r with
    | ':' :: ':' :: r' =>
      let (tail, _, r'') := readGroups (7 - head.length) true r'
      some (head ++ List.replicate (8 - head.length - tail.length) 0 ++ tail, r'')
    | _ => none

end AddrParser

open AddrParser

/-- `Ipv4Addr::from_str`: an address and nothing after it. -/
def ipv4FromStr (s : String) : Option (BitVec 32) :=
  match readIpv4 s.data with
  | some (a, []) => some (BitVec.ofNat 32 a)
  | _ => none

/-- `Ipv6Addr::from_str`: an address and nothing after it. -/
def ipv6FromStr (s : String) : Option (BitVec 128) :=
  match readIpv6 s.data with
  | some (gs, []) => some (BitVec.ofNat 128 (gs.foldl (fun acc g => acc * 65536 + g) 0))
  | _ => none

/-- `ipv4_mask_to_prefix`: the length of a netmask of leading ones. -/
def ipv4MaskToPrefix (m : BitVec 32) : Option ℕ :=
  (List.range 33).find? (fun p => prefixMask 32 p = m)

/-- `parse_prefix`: a `u8` no larger than the address width. -/
def parsePrefix (s : String) (max : ℕ) : Option ℕ :=
  match u8FromStr s with
  | .ok p => if p.toNat ≤ max then some p.toNat else none
  | .error _ => none

/-- `cidr_parts`: the address and, after the one `/`, the prefix. -/
def cidrParts (s : String) : Option (String × Option String) :=
  match Str.split '/' s with
  | [a] => some (a, none)
  | [a, p] => some (a, some p)
  | _ => none

/-- `Ipv4Network::from_str`: the prefix is a netmask or a number, `/32` when absent. -/
def Ipv4Network.fromStr (s : String) : Option Ipv4Network := do
  let (a, p?) ← cidrParts s
  let addr ← ipv4FromStr a
  let prefixLen ← match p? with
    | none => some 32
    | some p => match ipv4FromStr p with
      | some m => ipv4MaskToPrefix m
      | none => parsePrefix p 32
  if h : prefixLen ≤ 32 then some ⟨addr, prefixLen, h⟩ else none

/-- `Ipv6Network::from_str`: `/128` when the prefix is absent. -/
def Ipv6Network.fromStr (s : String) : Option Ipv6Network := do
  let (a, p?) ← cidrParts s
  let addr ← ipv6FromStr a
  let prefixLen ← parsePrefix (p?.getD "128") 128
  if h : prefixLen ≤ 128 then some ⟨addr, prefixLen, h⟩ else none

/-- `IpNetwork::from_str`: an IPv4 network, or else an IPv6 one. -/
def IpNetwork.fromStr (s : String) : Option IpNetwork :=
  match Ipv4Network.fromStr s with
  | some n => some (.v4 n)
  | none => (Ipv6Network.fromStr s).map .v6

/-! ### Printing -/

/-- `Ipv4Addr`'s `Display`: the four octets, most significant first, in decimal and separated
by `.`. -/
def ipv4Display (a : BitVec 32) : String :=
  toString (a.toNat / 16777216) ++ "." ++ toString (a.toNat / 65536 % 256) ++ "." ++
    toString (a.toNat / 256 % 256) ++ "." ++ toString (a.toNat % 256)

/-- `Ipv4Network`'s `Display`: the address, `/` and the prefix length. -/
def Ipv4Network.display (n : Ipv4Network) : String :=
  ipv4Display n.addr ++ "/" ++ toString n.prefixLen

/-- An octet's text is read back, up to a character that is not a digit. -/
lemma readDecOctet_toString {n : ℕ} (hn : n ≤ 255) {rest : List Char}
    (hr : ∀ c ∈ rest.head?, c.isDigit = false) :
    readDecOctet ((toString n).data ++ rest) = some (n, rest) := by
  obtain ⟨hne, hdig, hval, hhead⟩ := toString_decimal n
  have hlen : (toString n).data.length ≤ 3 :=
    Nat.repr_length n 3 (by norm_num) (by norm_num; omega)
  have htake : rest.takeWhile Char.isDigit = [] := by
    cases rest with
    | nil => rfl
    | cons c r => simp [List.takeWhile_cons, hr c rfl]
  have hdrop : rest.dropWhile Char.isDigit = rest := by
    cases rest with
    | nil => rfl
    | cons c r => simp [List.dropWhile_cons, hr c rfl]
  unfold readDecOctet
  simp only [List.takeWhile_append_of_pos hdig, List.dropWhile_append_of_pos hdig, htake, hdrop,
    List.append_nil, hval]
  rw [if_neg]
  rintro (h | h | h | ⟨h0, h1⟩)
  · exact hne h
  · omega
  · omega
  · obtain rfl := hhead h0
    exact absurd h1 (by decide)

/-- An address's text is read back as the address. -/
lemma readIpv4_ipv4Display (a : BitVec 32) {rest : List Char}
    (hr : ∀ c ∈ rest.head?, c.isDigit = false) :
    readIpv4 ((ipv4Display a).data ++ rest) = some (a.toNat, rest) := by
  have ha := a.isLt
  have hoct : ∀ n r, n ≤ 255 → readDecOctet ((toString n).data ++ '.' :: r) = some (n, '.' :: r) :=
    fun n r hn => readDecOctet_toString hn (by simp)
  simp only [ipv4Display, String.data_append, List.append_assoc, readIpv4,
    show "." = ⟨['.']⟩ from rfl, List.cons_append, List.nil_append,
    hoct (a.toNat / 16777216) _ (by omega), hoct (a.toNat / 65536 % 256) _ (by omega),
    hoct (a.toNat / 256 % 256) _ (by omega),
    readDecOctet_toString (show a.toNat % 256 ≤ 255 by omega) hr, Option.bind_eq_bind,
    Option.some_bind, readSeparator, if_true, Bool.false_eq_true, if_false, Option.pure_def,
    Option.some.injEq, Prod.mk.injEq, and_true]
  omega

lemma ipv4FromStr_ipv4Display (a : BitVec 32) : ipv4FromStr (ipv4Display a) = some a := by
  have h : readIpv4 ((ipv4Display a).data ++ []) = some (a.toNat, []) :=
    readIpv4_ipv4Display a nofun
  rw [List.append_nil] at h
  simp only [ipv4FromStr, h, BitVec.ofNat_toNat, BitVec.setWidth_eq]

/-- A prefix length is not also an address, so it is not taken for a netmask. -/
lemma ipv4FromStr_toString {p : ℕ} (hp : p ≤ 255) : ipv4FromStr (toString p) = none := by
  have h : readDecOctet ((toString p).data ++ []) = some (p, []) := readDecOctet_toString hp nofun
  rw [List.append_nil] at h
  simp only [ipv4FromStr, readIpv4, h, readSeparator, Bool.false_eq_true, if_false,
    Option.bind_eq_bind, Option.some_bind, Option.none_bind]

lemma parsePrefix_toString {p max : ℕ} (hp : p ≤ max) (hmax : max ≤ 255) :
    parsePrefix (toString p) max = some p := by
  obtain ⟨hne, hdig, hval, -⟩ := toString_decimal p
  have h : unsignedFromStr 255 (toString p) = .ok p :=
    unsignedFromStr_eq_ok.mpr ⟨⟨_, .inl rfl, hne, hdig, hval⟩, by omega⟩
  have hp8 : (UInt8.ofNat p).toNat = p := UInt8.toNat_ofNat_of_lt (by show p < 256; omega)
  simp [parsePrefix, u8FromStr, h, hp8, hp]

/-- The characters of an address's text are digits and dots. -/
lemma mem_ipv4Display {a : BitVec 32} {c : Char} (h : c ∈ (ipv4Display a).data) :
    c.isDigit ∨ c = '.' := by
  have hdig : ∀ n, ∀ c ∈ (toString n).data, c.isDigit := fun n => (toString_decimal n).2.1
  simp only [ipv4Display, String.data_append, List.mem_append] at h
  rcases h with ((((((h | h) | h) | h) | h) | h) | h) <;> first
    | exact .inl (hdig _ _ h) | exact .inr (List.mem_singleton.mp h)

lemma cidrParts_append {a p : String} (ha : '/' ∉ a.data) (hp : '/' ∉ p.data) :
    cidrParts (a ++ "/" ++ p) = some (a, some p) := by
  rw [cidrParts, show "/" = ⟨['/']⟩ from rfl, Str.split_append ha, Str.split_of_not_mem hp]

/-- Parsing an IPv4 network's text gives the network back. -/
lemma Ipv4Network.fromStr_display (n : Ipv4Network) : Ipv4Network.fromStr n.display = some n := by
  have hslash : '/' ∉ (ipv4Display n.addr).data := fun h =>
    (mem_ipv4Display h).elim (absurd · (by decide)) (absurd · (by decide))
  have hslash' : '/' ∉ (toString n.prefixLen).data := fun h =>
    absurd ((toString_decimal _).2.1 _ h) (by decide)
  have hp := n.prefixLen_le
  simp only [Ipv4Network.fromStr, display, cidrParts_append hslash hslash', Option.bind_eq_bind,
    Option.some_bind, ipv4FromStr_ipv4Display, ipv4FromStr_toString (show n.prefixLen ≤ 255 by omega),
    parsePrefix_toString hp (by norm_num), dif_pos hp]

/-- **The CIDR text of an IPv4 network** is parsed back to the network. -/
lemma IpNetwork.fromStr_display (n : Ipv4Network) :
    IpNetwork.fromStr n.display = some (.v4 n) := by
  simp [IpNetwork.fromStr, Ipv4Network.fromStr_display]

end HttpProxy
