import HttpProxy.Http.Message
import HttpProxy.Text.Str

/-!
`proxy.rs`: `extract_scheme_host_port`, the scheme, host and port a request is for, and the
domain its reverse-proxy locations are looked up under.

An HTTP/2 request takes its host and port from its URI, and its domain from the text of its
`Host` header before the first `:`. Any other request takes host, domain and port from its
`Host` header alone, split by `:`: the first piece is the host, and a second piece, if there is
one, must parse as a `u16`.

* `extractSchemeHostPort_of_not_mem`, `extractSchemeHostPort_of_eq_append`: the two shapes of a
  `Host` header outside HTTP/2, with and without a `:`.
* `extractSchemeHostPort_hostHeader`: for a visible `Host` header, what the function returns in
  both versions, and exactly when it succeeds.
* `extractSchemeHostPort_eq_error`: the four reasons the function fails, each with its own
  text; its `host not in header` is never returned.
* `extractSchemeHostPort_splitHost`: a header `h:p`, or `h:p:` and more, is the host `h` on
  port `p`, whatever `h` is, the empty text included.
-/

namespace HttpProxy

/-- `SchemeHostPort`. -/
structure SchemeHostPort where
  scheme : String
  host : String
  port : Option UInt16
  deriving DecidableEq, Inhabited

/-- `RequestDomain`, the key of the reverse-proxy locations. -/
structure RequestDomain where
  domain : String
  deriving DecidableEq, Inhabited

/-- `extract_scheme_host_port`. -/
def extractSchemeHostPort (req : Request) (defaultScheme : String) :
    Except IoError (SchemeHostPort × RequestDomain) :=
  let uri := req.uri
  let scheme := uri.schemeStr.getD defaultScheme
  if req.version = .http2 then
    match uri.host with
    | none => .error ⟨.invalidData, "authority is absent in HTTP/2"⟩
    | some hostInUrl =>
      let hostInHeader := ((req.headers.get .host).bind fun host => host.toStr.toOption).bind
        fun hostStr => (Str.split ':' hostStr).head?
      .ok (⟨scheme, hostInUrl, uri.port⟩, ⟨hostInHeader.getD hostInUrl⟩)
  else
    match req.headers.get .host with
    | none => .error ⟨.invalidData, "Host Header is absent in HTTP/1.1"⟩
    | some host =>
      match host.toStr with
      | .error e => .error ⟨.invalidData, e⟩
      | .ok hostStr =>
        let split := Str.split ':' hostStr
        match split.head? with
        | none => .error ⟨.invalidData, "host not in header"⟩
        | some host =>
          let port : Except IoError (Option UInt16) :=
            match split.tail.head? with
            | some port =>
              match u16FromStr port with
              | .ok p => .ok (some p)
              | .error e => .error ⟨.invalidData, e.text⟩
            | none => .ok none
          match port with
          | .error e => .error e
          | .ok port => .ok (⟨scheme, host, port⟩, ⟨host⟩)

/-! ### The `Host` header outside HTTP/2 -/

section Http1

variable {req : Request} {d : String} {v : HeaderValue}

/-- A `Host` header without `:` is the host, on no port. -/
lemma extractSchemeHostPort_of_not_mem (hv : req.version ≠ .http2)
    (hget : req.headers.get .host = some v) (hvis : ∀ c ∈ v.val.data, isVisibleAscii c)
    (hc : ':' ∉ v.val.data) :
    extractSchemeHostPort req d =
      .ok (⟨req.uri.schemeStr.getD d, v.val, none⟩, ⟨v.val⟩) := by
  simp [extractSchemeHostPort, hv, hget, HeaderValue.toStr_eq_ok.mpr ⟨hvis, rfl⟩,
    Str.split_of_not_mem hc]

/-- A `Host` header `h:t` is the host `h`, on the port that the text of `t` before its next
`:` parses to. -/
lemma extractSchemeHostPort_of_eq_append (hv : req.version ≠ .http2)
    (hget : req.headers.get .host = some v) (hvis : ∀ c ∈ v.val.data, isVisibleAscii c)
    {h t : String} (hc : ':' ∉ h.data) (he : v.val = h ++ ⟨[':']⟩ ++ t) :
    extractSchemeHostPort req d =
      match u16FromStr ⟨t.data.takeWhile (· ≠ ':')⟩ with
      | .ok p => .ok (⟨req.uri.schemeStr.getD d, h, some p⟩, ⟨h⟩)
      | .error e => .error ⟨.invalidData, e.text⟩ := by
  have hport := Str.head_split ':' t
  simp only [extractSchemeHostPort, hv, hget, if_false, HeaderValue.toStr_eq_ok.mpr ⟨hvis, rfl⟩,
    he, Str.split_append hc, List.head?_cons, List.tail_cons, hport]
  cases u16FromStr ⟨t.data.takeWhile (· ≠ ':')⟩ <;> rfl

end Http1

section Outcome

variable {req : Request} {d : String} {v : HeaderValue} {shp : SchemeHostPort} {dom : RequestDomain}

/-- Outside HTTP/2, what the function returns for a visible `Host` header. -/
lemma extractSchemeHostPort_eq_ok_of_ne_http2 (hv : req.version ≠ .http2)
    (hget : req.headers.get .host = some v) (hvis : ∀ c ∈ v.val.data, isVisibleAscii c) :
    extractSchemeHostPort req d = .ok (shp, dom) ↔
      shp.scheme = req.uri.schemeStr.getD d ∧ shp.host = dom.domain ∧
        ((':' ∉ v.val.data ∧ dom.domain = v.val ∧ shp.port = none) ∨
          ∃ t, ':' ∉ dom.domain.data ∧ v.val = dom.domain ++ ⟨[':']⟩ ++ t ∧
            ∃ p, shp.port = some p ∧ IsDecimalText ⟨t.data.takeWhile (· ≠ ':')⟩ p.toNat) := by
  obtain ⟨scheme, host, port⟩ := shp
  obtain ⟨domain⟩ := dom
  rcases Str.not_mem_or_eq_append ':' v.val with hc | ⟨h, t, hc, he⟩
  · rw [extractSchemeHostPort_of_not_mem hv hget hvis hc]
    simp only [Except.ok.injEq, Prod.mk.injEq, SchemeHostPort.mk.injEq, RequestDomain.mk.injEq]
    constructor
    · rintro ⟨⟨rfl, rfl, rfl⟩, rfl⟩
      exact ⟨rfl, rfl, .inl ⟨hc, rfl, rfl⟩⟩
    · rintro ⟨rfl, rfl, ⟨-, rfl, rfl⟩ | ⟨t, -, he, -⟩⟩
      · exact ⟨⟨rfl, rfl, rfl⟩, rfl⟩
      · exact absurd (he ▸ by simp) hc
  · rw [extractSchemeHostPort_of_eq_append hv hget hvis hc he]
    have hmem : ':' ∈ v.val.data := he ▸ by simp
    split
    next p hp =>
      simp only [Except.ok.injEq, Prod.mk.injEq, SchemeHostPort.mk.injEq, RequestDomain.mk.injEq]
      constructor
      · rintro ⟨⟨rfl, rfl, rfl⟩, rfl⟩
        exact ⟨rfl, rfl, .inr ⟨t, hc, he, p, rfl, u16FromStr_eq_ok.mp hp⟩⟩
      · rintro ⟨rfl, rfl, ⟨hc', -⟩ | ⟨t', hc', he', p', rfl, hp'⟩⟩
        · exact absurd hmem hc'
        · obtain ⟨rfl, rfl⟩ := Str.append_sep_inj hc hc' (he.symm.trans he')
          obtain rfl : p' = p := Except.ok.inj ((u16FromStr_eq_ok.mpr hp').symm.trans hp)
          exact ⟨⟨rfl, rfl, rfl⟩, rfl⟩
    next e hp =>
      refine ⟨nofun, ?_⟩
      rintro ⟨-, -, ⟨hc', -⟩ | ⟨t', hc', he', p', -, hp'⟩⟩
      · exact absurd hmem hc'
      · obtain ⟨rfl, rfl⟩ := Str.append_sep_inj hc hc' (he.symm.trans he')
        rw [u16FromStr_eq_ok.mpr hp'] at hp
        cases hp

/-- In HTTP/2, what the function returns for a visible `Host` header. -/
lemma extractSchemeHostPort_eq_ok_of_http2 (hv : req.version = .http2)
    (hget : req.headers.get .host = some v) (hvis : ∀ c ∈ v.val.data, isVisibleAscii c) :
    extractSchemeHostPort req d = .ok (shp, dom) ↔
      ∃ h, req.uri.host = some h ∧ shp = ⟨req.uri.schemeStr.getD d, h, req.uri.port⟩ ∧
        dom.domain = ⟨v.val.data.takeWhile (· ≠ ':')⟩ := by
  have hdom : ((req.headers.get .host).bind fun host => host.toStr.toOption).bind
      (fun hostStr => (Str.split ':' hostStr).head?) = some ⟨v.val.data.takeWhile (· ≠ ':')⟩ := by
    simp [hget, HeaderValue.toStr_eq_ok.mpr ⟨hvis, rfl⟩, Except.toOption, Str.head_split]
  obtain ⟨domain⟩ := dom
  simp only [extractSchemeHostPort, hv, if_true, hdom, Option.getD_some]
  split
  next hh => simp [hh]
  next h hh =>
    simp only [hh, Except.ok.injEq, Prod.mk.injEq, RequestDomain.mk.injEq, Option.some.injEq,
      exists_eq_left']
    constructor <;> rintro ⟨rfl, rfl⟩ <;> exact ⟨rfl, rfl⟩

end Outcome

/-- **The scheme, host and port of a request with a visible `Host` header.** Outside HTTP/2
the header decides: the request succeeds exactly when the header has no `:`, or its text after
the first `:` begins with a decimal `u16` (an optional `+`, then digits) that runs to the end or
to a further `:`. The host and the domain are then the text before the first `:`, which may be
empty. In HTTP/2 the request succeeds exactly when its URI has a host, which is the host; the
domain is still the text of the header before its first `:`. -/
theorem extractSchemeHostPort_hostHeader (req : Request) (d : String) {v : HeaderValue}
    (hget : req.headers.get .host = some v) (hvis : ∀ c ∈ v.val.data, isVisibleAscii c)
    (shp : SchemeHostPort) (dom : RequestDomain) :
    (req.version ≠ .http2 →
      (extractSchemeHostPort req d = .ok (shp, dom) ↔
        shp.scheme = req.uri.schemeStr.getD d ∧ shp.host = dom.domain ∧
          ((':' ∉ v.val.data ∧ dom.domain = v.val ∧ shp.port = none) ∨
            ∃ t, ':' ∉ dom.domain.data ∧ v.val = dom.domain ++ ⟨[':']⟩ ++ t ∧
              ∃ p, shp.port = some p ∧ IsDecimalText ⟨t.data.takeWhile (· ≠ ':')⟩ p.toNat))) ∧
    (req.version = .http2 →
      (extractSchemeHostPort req d = .ok (shp, dom) ↔
        ∃ h, req.uri.host = some h ∧ shp = ⟨req.uri.schemeStr.getD d, h, req.uri.port⟩ ∧
          dom.domain = ⟨v.val.data.takeWhile (· ≠ ':')⟩)) :=
  ⟨fun hv => extractSchemeHostPort_eq_ok_of_ne_http2 hv hget hvis,
    fun hv => extractSchemeHostPort_eq_ok_of_http2 hv hget hvis⟩

section Errors

variable {req : Request} {d : String} {e : IoError}

/-- In HTTP/2 the one failure is a URI without host. -/
lemma extractSchemeHostPort_eq_error_of_http2 (hv : req.version = .http2) :
    extractSchemeHostPort req d = .error e ↔
      req.uri.host = none ∧ e = ⟨.invalidData, "authority is absent in HTTP/2"⟩ := by
  simp only [extractSchemeHostPort, if_pos hv]
  split
  next hh => simp only [hh, Except.error.injEq, true_and]; exact eq_comm
  next hh => simp [hh]

/-- Outside HTTP/2, the failures of a visible `Host` header are those of its port. -/
lemma extractSchemeHostPort_eq_error_of_visible (hv : req.version ≠ .http2) {v : HeaderValue}
    (hget : req.headers.get .host = some v) (hvis : ∀ c ∈ v.val.data, isVisibleAscii c) :
    extractSchemeHostPort req d = .error e ↔
      ∃ h t k, ':' ∉ h.data ∧ v.val = h ++ ⟨[':']⟩ ++ t ∧
        u16FromStr ⟨t.data.takeWhile (· ≠ ':')⟩ = .error k ∧ e = ⟨.invalidData, k.text⟩ := by
  rcases Str.not_mem_or_eq_append ':' v.val with hc | ⟨h, t, hc, he⟩
  · rw [extractSchemeHostPort_of_not_mem hv hget hvis hc]
    simp only [reduceCtorEq, false_iff, not_exists, not_and]
    exact fun h t _ _ he => absurd (by rw [he]; simp) hc
  · rw [extractSchemeHostPort_of_eq_append hv hget hvis hc he]
    constructor
    · intro hk
      split at hk
      · cases hk
      · next k hk' => exact ⟨h, t, k, hc, he, hk', by cases hk; rfl⟩
    · rintro ⟨h', t', k, hc', he', hk, rfl⟩
      obtain ⟨rfl, rfl⟩ := Str.append_sep_inj hc hc' (he.symm.trans he')
      rw [hk]

end Errors

/-- **Why a request does not resolve.** `extract_scheme_host_port` fails, with `InvalidData`,
for exactly four reasons, each with its own text: an HTTP/2 URI without host; outside HTTP/2, no
`Host` header, a `Host` header that is not visible ASCII, or a port that is not a `u16`. Its
`host not in header` is never returned. -/
theorem extractSchemeHostPort_eq_error (req : Request) (d : String) (e : IoError) :
    extractSchemeHostPort req d = .error e ↔
      (req.version = .http2 ∧ req.uri.host = none ∧
        e = ⟨.invalidData, "authority is absent in HTTP/2"⟩) ∨
      (req.version ≠ .http2 ∧ req.headers.get .host = none ∧
        e = ⟨.invalidData, "Host Header is absent in HTTP/1.1"⟩) ∨
      (req.version ≠ .http2 ∧ ∃ v, req.headers.get .host = some v ∧
        (¬∀ c ∈ v.val.data, isVisibleAscii c) ∧
        e = ⟨.invalidData, "failed to convert header to a str"⟩) ∨
      (req.version ≠ .http2 ∧ ∃ v, req.headers.get .host = some v ∧
        (∀ c ∈ v.val.data, isVisibleAscii c) ∧ ∃ h t k, ':' ∉ h.data ∧ v.val = h ++ ⟨[':']⟩ ++ t ∧
          u16FromStr ⟨t.data.takeWhile (· ≠ ':')⟩ = .error k ∧ e = ⟨.invalidData, k.text⟩) := by
  by_cases hv : req.version = .http2
  · simp only [extractSchemeHostPort_eq_error_of_http2 hv, hv, true_and, ne_eq,
      not_true_eq_false, false_and, or_false]
  simp only [hv, false_and, ne_eq, not_false_eq_true, true_and, false_or]
  rcases hget : req.headers.get .host with _ | v
  · simp only [extractSchemeHostPort, if_neg hv, hget, Except.error.injEq, reduceCtorEq,
      false_and, exists_false, or_false, true_and]
    exact eq_comm
  simp only [Option.some.injEq, reduceCtorEq, false_and, exists_eq_left', false_or]
  by_cases hvis : ∀ c ∈ v.val.data, isVisibleAscii c
  · rw [extractSchemeHostPort_eq_error_of_visible hv hget hvis]
    exact ⟨fun h => .inr ⟨hvis, h⟩, fun h => h.elim (fun h => absurd hvis h.1) fun h => h.2⟩
  · simp only [extractSchemeHostPort, if_neg hv, hget, HeaderValue.toStr_of_not_visible hvis,
      Except.error.injEq, hvis, not_false_eq_true, true_and, false_and, or_false]
    exact eq_comm

/-- A `GET /` request of the given version whose one header is `Host`. -/
def getWithHost (version : Version) (host : HeaderValue) : Request :=
  ⟨.get, Uri.default, version, ⟨[(.host, host)]⟩⟩

/-- The `Host` header `example.com:8080`. -/
def exampleHost : HeaderValue := ⟨"example.com:8080", by decide⟩

/-- `Host: example.com:8080` is the host `example.com` on port 8080. -/
theorem extractSchemeHostPort_exampleHost :
    extractSchemeHostPort (getWithHost .http11 exampleHost) "http" =
      .ok (⟨"http", "example.com", some 8080⟩, ⟨"example.com"⟩) :=
  ((@extractSchemeHostPort_hostHeader (getWithHost .http11 exampleHost) "http" exampleHost rfl
    (by decide) _ _).1 (by decide)).mpr
    ⟨rfl, rfl, .inr ⟨"8080", by decide, rfl, 8080, rfl, ['8', '0', '8', '0'], .inl rfl,
      by decide, by decide, rfl⟩⟩

/-- **A `Host` header is split on every `:`.** Outside HTTP/2, a visible `Host` header made of
a text `h` without `:`, a `:`, the decimal text of a port `p`, and then nothing or a further `:`
and anything, is the host `h` on port `p`: the host may be empty, and what follows the port is
dropped. -/
theorem extractSchemeHostPort_splitHost (req : Request) (d : String) {v : HeaderValue}
    (hv : req.version ≠ .http2) (hget : req.headers.get .host = some v)
    (hvis : ∀ c ∈ v.val.data, isVisibleAscii c) (h rest : String) (p : UInt16)
    (hc : ':' ∉ h.data) (hrest : rest = "" ∨ rest.data.head? = some ':')
    (he : v.val = h ++ ":" ++ toString p.toNat ++ rest) :
    extractSchemeHostPort req d = .ok (⟨req.uri.schemeStr.getD d, h, some p⟩, ⟨h⟩) := by
  obtain ⟨hne, hdig, hdec, -⟩ := toString_decimal p.toNat
  have hnil : rest.data.takeWhile (· ≠ ':') = [] := by
    rcases hrest with rfl | hr
    · rfl
    · obtain ⟨_ | ⟨x, xs⟩⟩ := rest <;> simp_all
  have hport : (⟨(toString p.toNat ++ rest).data.takeWhile (· ≠ ':')⟩ : String) =
      toString p.toNat := by
    have hdigits : ∀ c ∈ (toString p.toNat).data, decide (c ≠ ':') = true := fun c hc =>
      decide_eq_true fun h => absurd (hdig c hc) (by rw [h]; decide)
    rw [String.data_append, List.takeWhile_append_of_pos hdigits, hnil, List.append_nil]
  rw [@extractSchemeHostPort_of_eq_append req d v hv hget hvis h (toString p.toNat ++ rest) hc
    (by rw [he, String.append_assoc]), hport,
    u16FromStr_eq_ok.mpr ⟨_, .inl rfl, hne, hdig, hdec⟩]

/-- In HTTP/1.1 the `Host` header `:80` is the empty host on port 80, the bracketed IPv6
literal `[1:80::1]` is the host `[1` on port 80, and `[::1]` is refused. -/
theorem extractSchemeHostPort_splitHost_ipv6 :
    extractSchemeHostPort (getWithHost .http11 ⟨":80", by decide⟩) "http" =
        .ok (⟨"http", "", some 80⟩, ⟨""⟩) ∧
      extractSchemeHostPort (getWithHost .http11 ⟨"[1:80::1]", by decide⟩) "http" =
        .ok (⟨"http", "[1", some 80⟩, ⟨"[1"⟩) ∧
      ∃ e, extractSchemeHostPort (getWithHost .http11 ⟨"[::1]", by decide⟩) "http" = .error e :=
  ⟨extractSchemeHostPort_splitHost (getWithHost .http11 ⟨":80", by decide⟩) "http" (by decide)
      rfl (by decide) "" "" 80 (by decide) (.inl rfl) rfl,
    extractSchemeHostPort_splitHost (getWithHost .http11 ⟨"[1:80::1]", by decide⟩) "http"
      (by decide) rfl (by decide) "[1" "::1]" 80 (by decide) (.inr rfl) rfl, _, rfl⟩

end HttpProxy
