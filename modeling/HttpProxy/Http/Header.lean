import Mathlib.Data.List.Basic

/-!
Header maps of the `http` crate, as far as `proxy.rs` reads and edits them.

* `HeaderName`: the crate keeps a name in lower case whatever case a client wrote it in;
  the invariant is a field, and `HeaderName.ofStr` lowers a `&str` key as
  `HeaderMap::remove("Proxy-Connection")` does before the lookup.
* `HeaderValue`: text whose every character `HeaderValue::from_str` admits (`fromStr`);
  `toStr` is `HeaderValue::to_str`, which passes only visible ASCII.
* `HeaderMap`: the entries in order. What the crate's `PartialEq` compares, and all that
  `proxy.rs` observes, is the sequence of values under each name (`getAll`); `remove` and
  `insert` are characterised by `getAll_remove_self`, `getAll_remove_of_ne`,
  `getAll_insert_self` and `getAll_insert_of_ne`, and `append` adds a value at the end.
-/

namespace HttpProxy

/-! ### Names -/

lemma toNat_ofNat_of_valid {n : ℕ} (h : n.isValidChar) : (Char.ofNat n).toNat = n := by
  simp [Char.ofNat, h, Char.ofNatAux, Char.toNat, UInt32.toNat]

/-- Lowering a character twice lowers it once. -/
lemma toLower_toLower (c : Char) : c.toLower.toLower = c.toLower := by
  have hlow : ∀ d : Char, ¬ (65 ≤ d.toNat ∧ d.toNat ≤ 90) → d.toLower = d := fun d h => by
    simp only [Char.toLower, ge_iff_le]; exact if_neg h
  by_cases h : 65 ≤ c.toNat ∧ c.toNat ≤ 90
  · have e : c.toLower = Char.ofNat (c.toNat + 32) := if_pos h
    rw [e]
    exact hlow _ (by rw [toNat_ofNat_of_valid (Or.inl (by omega))]; omega)
  · rw [hlow c h, hlow c h]

/-- A header name, in lower case as the `http` crate stores every name. -/
structure HeaderName where
  name : String
  lower : ∀ c ∈ name.data, c.toLower = c
  deriving DecidableEq

namespace HeaderName

/-- The name a `&str` key denotes: the crate lowers the key before it looks it up. -/
def ofStr (s : String) : HeaderName :=
  ⟨⟨s.data.map Char.toLower⟩, by simp [toLower_toLower]⟩

/-- `http::header::HOST`. -/
def host : HeaderName := ⟨"host", by decide⟩

/-- `http::header::PROXY_AUTHORIZATION`. -/
def proxyAuthorization : HeaderName := ⟨"proxy-authorization", by decide⟩

/-- `http::header::PROXY_AUTHENTICATE`. -/
def proxyAuthenticate : HeaderName := ⟨"proxy-authenticate", by decide⟩

/-- `http::header::WWW_AUTHENTICATE`. -/
def wwwAuthenticate : HeaderName := ⟨"www-authenticate", by decide⟩

/-- `http::header::SERVER`. -/
def server : HeaderName := ⟨"server", by decide⟩

/-- However a client spells a name, it denotes the lowered name. -/
lemma ofStr_eq_iff (s : String) (k : HeaderName) :
    ofStr s = k ↔ s.data.map Char.toLower = k.name.data := by
  obtain ⟨⟨n⟩, h⟩ := k
  simp only [ofStr, mk.injEq]
  exact ⟨congrArg String.data, congrArg String.mk⟩

/-- A stored name is already lower case. -/
@[simp] lemma ofStr_name (k : HeaderName) : ofStr k.name = k := by
  obtain ⟨⟨n⟩, h⟩ := k
  simp only [ofStr, mk.injEq]
  exact congrArg String.mk (List.map_congr_left h |>.trans (List.map_id n))

end HeaderName

/-! ### Values -/

/-- `HeaderValue::from_str` admits tab and every character from space up except DEL. -/
def isValidChar (c : Char) : Bool := c = '\t' || (32 ≤ c.toNat && c.toNat ≠ 127)

/-- `HeaderValue::to_str` passes tab and the visible ASCII characters, space included. -/
def isVisibleAscii (c : Char) : Bool := c = '\t' || (32 ≤ c.toNat && c.toNat < 127)

lemma isValidChar_of_isVisibleAscii {c : Char} (h : isVisibleAscii c) : isValidChar c := by
  simp only [isVisibleAscii, isValidChar, Bool.or_eq_true, decide_eq_true_eq,
    Bool.and_eq_true] at h ⊢
  exact h.imp_right fun h => ⟨h.1, by omega⟩

/-- A header value, every character of which `HeaderValue::from_str` admits. -/
structure HeaderValue where
  val : String
  valid : ∀ c ∈ val.data, isValidChar c
  deriving DecidableEq

instance : Inhabited HeaderValue := ⟨⟨"", nofun⟩⟩

namespace HeaderValue

/-- `HeaderValue::from_str`, with `InvalidHeaderValue`'s text as its error. -/
def fromStr (s : String) : Except String HeaderValue :=
  if h : ∀ c ∈ s.data, isValidChar c then .ok ⟨s, h⟩ else .error "failed to parse header value"

/-- `HeaderValue::to_str`, with `ToStrError`'s text as its error. -/
def toStr (v : HeaderValue) : Except String String :=
  if v.val.data.all isVisibleAscii then .ok v.val else .error "failed to convert header to a str"

/-- Text of visible ASCII is always a header value. -/
lemma fromStr_of_visible {s : String} (h : ∀ c ∈ s.data, isVisibleAscii c) :
    ∃ hv, fromStr s = .ok ⟨s, hv⟩ :=
  ⟨fun c hc => isValidChar_of_isVisibleAscii (h c hc),
    dif_pos fun c hc => isValidChar_of_isVisibleAscii (h c hc)⟩

lemma toStr_eq_ok {v : HeaderValue} {s : String} :
    v.toStr = .ok s ↔ (∀ c ∈ v.val.data, isVisibleAscii c) ∧ v.val = s := by
  unfold toStr
  split
  next h => exact ⟨fun e => ⟨List.all_eq_true.mp h, Except.ok.inj e⟩, fun ⟨_, e⟩ => congrArg _ e⟩
  next h => exact ⟨nofun, fun ⟨hv, _⟩ => absurd (List.all_eq_true.mpr hv) h⟩

/-- A value with a character that is not visible ASCII is not a `str`. -/
lemma toStr_of_not_visible {v : HeaderValue} (h : ¬∀ c ∈ v.val.data, isVisibleAscii c) :
    v.toStr = .error "failed to convert header to a str" := by
  unfold toStr
  rw [if_neg (by simpa using h)]

end HeaderValue

/-! ### Maps -/

/-- A `HeaderMap`: its entries in order. -/
structure HeaderMap where
  entries : List (HeaderName × HeaderValue)
  deriving DecidableEq, Inhabited

namespace HeaderMap

variable (m : HeaderMap) (k k' : HeaderName) (v : HeaderValue)

/-- `HeaderMap::get_all`: the values under a name, in order. -/
def getAll : List HeaderValue := (m.entries.filter (·.1 = k)).map Prod.snd

/-- `HeaderMap::get`: the first value under a name. -/
def get : Option HeaderValue := (m.getAll k).head?

/-- `HeaderMap::remove`: every value under the name goes. -/
def remove : HeaderMap := ⟨m.entries.filter (·.1 ≠ k)⟩

/-- The entries after `insert`: the new value takes the place of the first entry under the
name and the later ones go; a name not yet present is appended. -/
def insertEntries : List (HeaderName × HeaderValue) → List (HeaderName × HeaderValue)
  | [] => [(k, v)]
  | e :: es => if e.1 = k then (k, v) :: es.filter (·.1 ≠ k) else e :: insertEntries es

/-- `HeaderMap::insert`: the value replaces every value under the name. -/
def insert : HeaderMap := ⟨insertEntries k v m.entries⟩

/-- `HeaderMap::append`: the value joins the values already under the name. -/
def append : HeaderMap := ⟨m.entries ++ [(k, v)]⟩

@[simp] lemma getAll_remove_self : (m.remove k).getAll k = [] := by
  simp [getAll, remove, List.filter_filter]

variable {k k'}

@[simp] lemma getAll_remove_of_ne (h : k' ≠ k) : (m.remove k).getAll k' = m.getAll k' := by
  simp only [getAll, remove, List.filter_filter]
  congr 2
  funext e
  by_cases he : e.1 = k' <;> simp [he, h]

lemma remove_of_getAll_eq_nil (h : m.getAll k = []) : m.remove k = m := by
  simp only [getAll, List.map_eq_nil_iff, List.filter_eq_nil_iff, decide_eq_true_eq] at h
  simp only [remove]
  congr
  exact List.filter_eq_self.mpr fun e he => by simpa using h e he

variable (k)

lemma filter_insertEntries (p : HeaderName × HeaderValue → Bool) (hp : p (k, v) = false) :
    ∀ es : List (HeaderName × HeaderValue), (insertEntries k v es).filter p =
      (es.filter (·.1 ≠ k)).filter p
  | [] => by simp [insertEntries, hp]
  | e :: es => by
    by_cases he : e.1 = k
    · simp [insertEntries, he, hp]
    · simp [insertEntries, he, filter_insertEntries p hp es, List.filter_cons]

@[simp] lemma getAll_insert_self : (m.insert k v).getAll k = [v] := by
  simp only [getAll, insert]
  induction m.entries with
  | nil => simp [insertEntries]
  | cons e es ih =>
    by_cases he : e.1 = k
    · simp [insertEntries, he, List.filter_filter]
    · simpa [insertEntries, he] using ih

@[simp] lemma getAll_insert_of_ne (h : k' ≠ k) : (m.insert k v).getAll k' = m.getAll k' := by
  have := filter_insertEntries k v (·.1 = k') (by simpa using Ne.symm h) m.entries
  simp only [getAll, insert, this, List.filter_filter]
  congr 2
  funext e
  by_cases he : e.1 = k' <;> simp [he, h]

end HeaderMap

end HttpProxy
