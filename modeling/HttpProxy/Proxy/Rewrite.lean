import HttpProxy.Http.Message
import HttpProxy.Text.Str

/-!
`proxy.rs`: `mod_http1_proxy_req`, the rewrite of a forward-proxy request before it goes
upstream, with `is_schema_secure` and `origin_form`.

The function edits the request in place and can fail after its first edits, so the model
returns the request as the function leaves it together with the result.

* `originForm_spec`: the new URI has neither scheme nor authority, and keeps the path and
  query (`/` for a URI without a path).
* `modHttp1ProxyReq_correct`: on a request whose URI has a host, the rewrite succeeds; the proxy
  headers are gone, however a client spelt them; the one `Host` header is the host, with the
  port unless it is the scheme's default; every other header is kept; the URI is in origin
  form. Without a host it fails (`modHttp1ProxyReq_of_host_none`).
* `modHttp1ProxyReq_twice`: a second rewrite of a rewritten request fails, for the URI has
  no host any more, and leaves the request as it is.
-/

namespace HttpProxy

/-- The decimal numeral of a port is visible text. -/
lemma isVisibleAscii_toString (p : UInt16) : ∀ c ∈ (toString p).data, isVisibleAscii c := by
  intro c hc
  obtain ⟨d, hd, rfl⟩ := mem_toString hc
  have hdigit : ∀ d < 10, isVisibleAscii (Nat.digitChar d) := by decide
  exact hdigit d hd

/-- `is_schema_secure`: `https` and `wss`. -/
def isSchemaSecure (uri : Uri) : Bool :=
  match uri.schemeStr with
  | some s => s = "wss" || s = "https"
  | none => false

/-- `origin_form`: the URI becomes its path and query alone, or `/` when it has no path and
query or they are `/`. -/
def originForm (uri : Uri) : Except IoError Uri :=
  match uri.pathAndQuery? with
  | some path =>
    if path.asStr ≠ "/" then
      match Uri.fromParts { pathAndQuery := some path } with
      | .ok u => .ok u
      | .error e => .error ⟨.invalidData, e⟩
    else .ok .default
  | none => .ok .default

/-- The port a rewritten `Host` header carries: none when it is the scheme's default. -/
def hostPort (uri : Uri) : Option UInt16 :=
  if uri.port = some 443 ∧ isSchemaSecure uri then none
  else if uri.port = some 80 ∧ !isSchemaSecure uri then none
  else uri.port

/-- The first two lines of `mod_http1_proxy_req`: the headers only a proxy reads go. -/
def stripProxyHeaders (headers : HeaderMap) : HeaderMap :=
  (headers.remove (HeaderName.ofStr HeaderName.proxyAuthorization.name)).remove
    (HeaderName.ofStr "Proxy-Connection")

/-- `mod_http1_proxy_req`: the request as it leaves the function, and the function's result. -/
def modHttp1ProxyReq (req : Request) : Request × Except IoError Unit :=
  let req := { req with headers := stripProxyHeaders req.headers }
  let uri := req.uri
  match uri.host with
  | none => (req, .error ⟨.invalidData, "host is absent in HTTP/1.1"⟩)
  | some hostname =>
    let hostHeader := HeaderValue.fromStr <| match hostPort uri with
      | some port => hostname ++ ":" ++ toString port
      | none => hostname
    match hostHeader with
    | .error e => (req, .error ⟨.invalidData, e⟩)
    | .ok hostHeader =>
      let req := { req with headers := req.headers.insert .host hostHeader }
      match originForm req.uri with
      | .error e => (req, .error e)
      | .ok u => ({ req with uri := u }, .ok ())

/-- `origin_form` keeps the path and query and drops the scheme and the authority. -/
lemma originForm_spec (uri : Uri) :
    ∃ u, originForm uri = .ok u ∧ u.scheme = none ∧ u.authority = none ∧
      u.path = (if uri.path = "" then "/" else uri.path) ∧ u.query = uri.query := by
  obtain ⟨scheme, authority, pq, hsa, haf⟩ := uri
  unfold originForm Uri.pathAndQuery?
  by_cases hA : scheme.isSome ∨ authority.isNone
  · rw [if_pos hA]
    by_cases hs : pq.asStr = "/"
    · obtain ⟨hp, hq⟩ := PathAndQuery.path_query_of_asStr hs
      refine ⟨.default, by simp [hs], rfl, rfl, ?_, by rw [Uri.default_query]; exact hq.symm⟩
      rw [Uri.default_path]
      by_cases hd : pq.data ≠ "" ∨ scheme.isSome <;> simp [Uri.path, hd, hp]
    · have hne : pq.data ≠ "" := fun h => hs (by simp [PathAndQuery.asStr, h])
      refine ⟨⟨none, none, pq, by simp, by simp⟩, by simp [hs, Uri.fromParts], rfl, rfl, ?_, rfl⟩
      simp [Uri.path, hne, PathAndQuery.path_ne_empty]
  · -- the `CONNECT` form: no scheme, an authority and no path
    obtain ⟨hs, ha⟩ := not_or.mp hA
    obtain rfl : scheme = none := by simpa using hs
    obtain rfl := haf rfl (by cases authority <;> simp_all)
    refine ⟨.default, by simp [ha], rfl, rfl, ?_, ?_⟩ <;> rfl

lemma isSchemaSecure_iff (uri : Uri) :
    isSchemaSecure uri ↔ uri.schemeStr = some "https" ∨ uri.schemeStr = some "wss" := by
  unfold isSchemaSecure
  split <;> simp_all [or_comm]

/-- The text of the rewritten `Host` header: the host, and the port unless it is the scheme's
default. -/
lemma hostText_eq (uri : Uri) (h : String) :
    (match hostPort uri with
      | some port => h ++ ":" ++ toString port
      | none => h) =
    match uri.port with
      | some p =>
        if p = 443 ∧ (uri.schemeStr = some "https" ∨ uri.schemeStr = some "wss") ∨
            p = 80 ∧ ¬(uri.schemeStr = some "https" ∨ uri.schemeStr = some "wss")
        then h else h ++ ":" ++ toString p
      | none => h := by
  have hs := isSchemaSecure_iff uri
  unfold hostPort
  rcases hp : uri.port with _ | p
  · simp
  · by_cases hsec : isSchemaSecure uri <;> by_cases h443 : p = 443 <;> by_cases h80 : p = 80 <;>
      simp_all

lemma hostText_visible (uri : Uri) (a : Authority) :
    ∀ c ∈ (match hostPort uri with
      | some port => a.host ++ ":" ++ toString port
      | none => a.host).data, isVisibleAscii c := by
  split
  · simp only [String.data_append, List.mem_append]
    rintro c ((hc | hc) | hc)
    · exact a.visible c hc
    · simp only [show (":" : String).data = [':'] from rfl, List.mem_singleton] at hc
      subst hc; decide
    · exact isVisibleAscii_toString _ c hc
  · exact a.visible

lemma getAll_stripProxyHeaders (m : HeaderMap) (k : HeaderName) :
    (stripProxyHeaders m).getAll k =
    if k = .proxyAuthorization ∨ k = HeaderName.ofStr "proxy-connection" then []
    else m.getAll k := by
  have hpc : HeaderName.ofStr "Proxy-Connection" = HeaderName.ofStr "proxy-connection" := by
    decide
  rw [stripProxyHeaders, HeaderName.ofStr_name, hpc]
  by_cases h₁ : k = .proxyAuthorization
  · subst h₁
    rw [HeaderMap.getAll_remove_of_ne _ (by decide), HeaderMap.getAll_remove_self, if_pos (.inl rfl)]
  by_cases h₂ : k = HeaderName.ofStr "proxy-connection"
  · subst h₂
    rw [HeaderMap.getAll_remove_self, if_pos (.inr rfl)]
  rw [HeaderMap.getAll_remove_of_ne _ h₂, HeaderMap.getAll_remove_of_ne _ h₁,
    if_neg (not_or.mpr ⟨h₁, h₂⟩)]

/-- Without a host, the rewrite fails once the proxy headers are gone. -/
lemma modHttp1ProxyReq_of_host_none {req : Request} (hh : req.uri.host = none) :
    modHttp1ProxyReq req = ({ req with headers := stripProxyHeaders req.headers },
      .error ⟨.invalidData, "host is absent in HTTP/1.1"⟩) := by
  simp [modHttp1ProxyReq, hh]

/-- With a host, the rewrite succeeds: the headers as `getAll_stripProxyHeaders` leaves them, the
`Host` header of `hostText_eq`, and the URI of `originForm_spec`. -/
lemma modHttp1ProxyReq_of_authority {req : Request} {a : Authority}
    (ha : req.uri.authority = some a) :
    ∃ u hv, (u.scheme = none ∧ u.authority = none ∧
        u.path = (if req.uri.path = "" then "/" else req.uri.path) ∧ u.query = req.uri.query) ∧
      modHttp1ProxyReq req =
        ({ req with
            headers := (stripProxyHeaders req.headers).insert .host
              ⟨match hostPort req.uri with
                | some port => a.host ++ ":" ++ toString port
                | none => a.host, hv⟩
            uri := u }, .ok ()) := by
  obtain ⟨u, hu, hform⟩ := originForm_spec req.uri
  obtain ⟨hv, hfrom⟩ := HeaderValue.fromStr_of_visible (hostText_visible req.uri a)
  have hh : req.uri.host = some a.host := by simp [Uri.host, ha]
  exact ⟨u, hv, hform, by simp only [modHttp1ProxyReq, hh, hfrom, hu]⟩

/-- **`mod_http1_proxy_req`** fails exactly on a request whose URI has no host. Otherwise the
rewritten request has no proxy header, however the client spelt its name; one `Host` header,
the host with the port unless the port is the scheme's default; every other header as
before; and a URI in origin form with the path and query of the original. -/
theorem modHttp1ProxyReq_correct (req : Request) :
    ((∃ e, (modHttp1ProxyReq req).2 = .error e) ↔ req.uri.host = none) ∧
    ∀ h, req.uri.host = some h → ∃ req', modHttp1ProxyReq req = (req', .ok ()) ∧
      (∀ s : String, s.data.map Char.toLower = "proxy-authorization".data ∨
          s.data.map Char.toLower = "proxy-connection".data →
        req'.headers.getAll (HeaderName.ofStr s) = []) ∧
      (req'.headers.getAll .host).map HeaderValue.val =
        [match req.uri.port with
          | some p =>
            if p = 443 ∧ (req.uri.schemeStr = some "https" ∨ req.uri.schemeStr = some "wss") ∨
                p = 80 ∧ ¬(req.uri.schemeStr = some "https" ∨ req.uri.schemeStr = some "wss")
            then h else h ++ ":" ++ toString p
          | none => h] ∧
      (∀ k, k ≠ .proxyAuthorization → k ≠ HeaderName.ofStr "proxy-connection" → k ≠ .host →
        req'.headers.getAll k = req.headers.getAll k) ∧
      req'.uri.scheme = none ∧ req'.uri.authority = none ∧
      req'.uri.path = (if req.uri.path = "" then "/" else req.uri.path) ∧
      req'.uri.query = req.uri.query := by
  refine ⟨⟨fun ⟨e, he⟩ => ?_, fun hh => ⟨_, by rw [modHttp1ProxyReq_of_host_none hh]⟩⟩, ?_⟩
  · rcases ha : req.uri.authority with _ | a
    · simp [Uri.host, ha]
    · obtain ⟨u, hv, -, heq⟩ := modHttp1ProxyReq_of_authority ha
      rw [heq] at he
      cases he
  intro h hh
  obtain ⟨a, ha, rfl⟩ : ∃ a, req.uri.authority = some a ∧ a.host = h := by
    simpa [Uri.host] using hh
  obtain ⟨u, hv, ⟨hsch, hauth, hpath, hquery⟩, heq⟩ := modHttp1ProxyReq_of_authority ha
  refine ⟨_, heq, fun s hs => ?_, ?_, fun k h₁ h₂ h₃ => ?_, hsch, hauth, hpath, hquery⟩
  · have hk : HeaderName.ofStr s = .proxyAuthorization ∨
        HeaderName.ofStr s = HeaderName.ofStr "proxy-connection" :=
      hs.imp (HeaderName.ofStr_eq_iff _ _).mpr
        fun hs => (HeaderName.ofStr_eq_iff _ _).mpr (hs.trans (by decide))
    rcases hk with hk | hk <;>
      rw [hk, HeaderMap.getAll_insert_of_ne _ _ _ (by decide), getAll_stripProxyHeaders] <;> simp
  · simp only [HeaderMap.getAll_insert_self, List.map_cons, List.map_nil, hostText_eq]
  · simp only [HeaderMap.getAll_insert_of_ne _ _ _ h₃, getAll_stripProxyHeaders,
      if_neg (not_or.mpr ⟨h₁, h₂⟩)]

/-- **A failed rewrite.** `mod_http1_proxy_req` fails only on a URI without host, with
`InvalidData`, and leaves the request with its proxy headers removed and nothing else changed. -/
theorem modHttp1ProxyReq_eq_error (req r : Request) (e : IoError) :
    modHttp1ProxyReq req = (r, .error e) ↔
      req.uri.host = none ∧ r = { req with headers := stripProxyHeaders req.headers } ∧
        e = ⟨.invalidData, "host is absent in HTTP/1.1"⟩ := by
  rcases ha : req.uri.authority with _ | a
  · have hh : req.uri.host = none := by simp [Uri.host, ha]
    rw [modHttp1ProxyReq_of_host_none hh]
    simp [hh, eq_comm]
  · obtain ⟨_, _, -, hm⟩ := modHttp1ProxyReq_of_authority ha
    rw [hm]
    simp [Uri.host, ha]

/-- A request the rewrite leaves has no proxy header, so removing them again changes nothing. -/
lemma stripProxyHeaders_of_getAll {m : HeaderMap}
    (h₁ : m.getAll .proxyAuthorization = []) (h₂ : m.getAll (HeaderName.ofStr "proxy-connection") = []) :
    stripProxyHeaders m = m := by
  have hpc : HeaderName.ofStr "Proxy-Connection" = HeaderName.ofStr "proxy-connection" := by
    decide
  rw [stripProxyHeaders, HeaderName.ofStr_name, hpc, HeaderMap.remove_of_getAll_eq_nil _ h₁,
    HeaderMap.remove_of_getAll_eq_nil _ h₂]

/-- **A rewritten request is not rewritten again**: its URI has no host any more, so a second
`mod_http1_proxy_req` fails, and leaves the request as it is. -/
theorem modHttp1ProxyReq_twice {req req' : Request} (h : modHttp1ProxyReq req = (req', .ok ())) :
    modHttp1ProxyReq req' = (req', .error ⟨.invalidData, "host is absent in HTTP/1.1"⟩) := by
  rcases ha : req.uri.authority with _ | a
  · rw [modHttp1ProxyReq_of_host_none (by simp [Uri.host, ha])] at h
    cases h
  obtain ⟨u, hv, ⟨-, ha', -⟩, heq⟩ := modHttp1ProxyReq_of_authority ha
  rw [heq] at h
  cases h
  rw [modHttp1ProxyReq_of_host_none (by simp [Uri.host, ha'])]
  congr
  apply stripProxyHeaders_of_getAll <;>
    rw [HeaderMap.getAll_insert_of_ne _ _ _ (by decide), getAll_stripProxyHeaders] <;> simp

/-- The request `GET http://example.com/` with no header. -/
def absoluteGet : Request where
  method := .get
  uri := ⟨some "http", some ⟨"example.com", none, by decide⟩, ⟨"/"⟩, by simp, by simp⟩
  version := .http11
  headers := ⟨[]⟩

/-- Rewriting `GET http://example.com/` succeeds, and rewriting the result fails. -/
theorem modHttp1ProxyReq_absoluteGet_twice :
    ∃ r, modHttp1ProxyReq absoluteGet = (r, .ok ()) ∧
      (modHttp1ProxyReq r).2 = .error ⟨.invalidData, "host is absent in HTTP/1.1"⟩ :=
  ⟨_, rfl, rfl⟩

/-- The rewrite of `GET http://example.com/` is a request that a second rewrite leaves alone. -/
theorem modHttp1ProxyReq_absoluteGet_stable :
    ∃ r, modHttp1ProxyReq absoluteGet = (r, .ok ()) ∧
      modHttp1ProxyReq r = (r, .error ⟨.invalidData, "host is absent in HTTP/1.1"⟩) :=
  have h : modHttp1ProxyReq absoluteGet = ((modHttp1ProxyReq absoluteGet).1, .ok ()) := rfl
  ⟨_, h, modHttp1ProxyReq_twice h⟩

end HttpProxy
