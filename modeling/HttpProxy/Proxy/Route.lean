import HttpProxy.Config
import HttpProxy.Proxy.HostPort
import HttpProxy.Proxy.Rewrite

/-!
`proxy.rs`: the decision of `ProxyHandler::handle`, which handler a request goes to.

A request other than `CONNECT` is first resolved to a scheme, host and domain; a reverse-proxy
location of the domain whose prefix begins the path takes it; failing that, a request for this
server (HTTP/2, or a URI without host) meets the serving gate. Every other request, and every
`CONNECT`, meets the authentication gate of the proxy stage.

* `route`, with its parts `servingGate` and `proxyStage`; `Route` names the handlers.
* `checkAuth`: `axum_handler::check_auth`, modelled from the spec.
* `servingGate_eq_serveRequest`, `proxyStage_eq_ok`, `route_eq_ok`: what the gates admit, and
  everything the decision can be.
* `route_toIpv6Mapped`: a client on an IPv4-mapped IPv6 address is treated as the IPv4 client.
* `servingAllowed_cidr`: an allow list of IPv4 networks in CIDR text admits exactly the clients
  whose canonical address is IPv4 and agrees with one of the networks on its prefix bits.
* `route_serveRequest_malformedNetworks`: an allow list none of whose entries is a network
  admits every client, where `Config::try_from` does not fail on it.
* `route_forwarded_user`: a request is tunnelled or forwarded only for a configured user whose
  key is its `Proxy-Authorization` value, or when no user spec is well formed.
* `route_connect_malformedUsers`: user specs none of which is kept leave the credential table
  empty, and every `CONNECT` is then tunnelled without credentials.
-/

namespace HttpProxy

/-! ### Reverse-proxy locations -/

/-- The locations of a domain, or those of `DEFAULT_HOST` when the domain has none. -/
def ReverseProxyConfig.locationsOf (config : ReverseProxyConfig) (defaultHost domain : String) :
    Option (List LocationConfig) :=
  (config.locations.lookup domain).or (config.locations.lookup defaultHost)

/-- The first location whose prefix begins the path. `str::starts_with` compares bytes, and a
byte prefix of a UTF-8 text is the encoding of a character prefix. -/
def findLocation (path : String) (locations : List LocationConfig) : Option LocationConfig :=
  locations.find? fun ele => ele.location.data.isPrefixOf path.data

/-! ### The gates -/

/-- Modelled from the spec: `axum_handler::check_auth`, which is not part of the source. With
an empty table every request passes, as no user; otherwise the value of the header is looked
up verbatim, and a miss or a missing header fails. -/
def checkAuth (headers : HeaderMap) (headerName : HeaderName) (basicAuth : BasicAuth) :
    Except Unit (Option String) :=
  if basicAuth.entries.isEmpty then .ok none
  else
    match headers.get headerName with
    | none => .error ()
    | some v =>
      match basicAuth.lookup v.val with
      | some username => .ok (some username)
      | none => .error ()

/-- `check_auth` passes with an empty table, as no user, and otherwise exactly on a header whose
value is a key of the table, as that key's user. -/
lemma checkAuth_eq_ok {headers : HeaderMap} {headerName : HeaderName} {basicAuth : BasicAuth}
    {o : Option String} :
    checkAuth headers headerName basicAuth = .ok o ↔
      (basicAuth.entries = [] ∧ o = none) ∨
        ∃ v u, headers.get headerName = some v ∧ basicAuth.lookup v.val = some u ∧ o = some u := by
  unfold checkAuth
  by_cases he : basicAuth.entries = []
  · have hl : ∀ k, basicAuth.lookup k = none := fun k => by simp [AList.lookup, he]
    simp [he, hl, eq_comm]
  · rw [if_neg (by simpa using he)]
    split
    next hg => simp [he, hg]
    next v hg =>
      split
      next u hu => simp [he, hg, hu, eq_comm]
      next hu => simp [he, hg, hu]

/-- The handler `ProxyHandler::handle` gives a request to. -/
inductive Route where
  /-- `LocationConfig::handle`, with the original scheme, host and port. -/
  | reverseProxy (locationConfig : LocationConfig) (schemeHostPort : SchemeHostPort)
  /-- `InterceptResultAdapter::Drop`: the connection closes without a reply. -/
  | drop
  /-- `serve_request`. -/
  | serveRequest
  /-- `tunnel_proxy`, for a user. -/
  | tunnelProxy (username : String)
  /-- `simple_proxy`, for a user. -/
  | simpleProxy (username : String)
  /-- `build_authenticate_resp(true)`. -/
  | askForAuth
  deriving DecidableEq

section Route

variable (defaultHost : String) (config : Config) (req : Request) (clientSocketAddr : SocketAddr)

/-- The serving gate: serving must not be prohibited, and a non-empty list of networks must
contain the client's canonical address. -/
def servingGate : Route :=
  if config.servingControl.prohibitServing then .drop
  else
    let clientIp := clientSocketAddr.ip.toCanonical
    let allowedNetworks := config.servingControl.allowedNetworks
    if !allowedNetworks.isEmpty && !allowedNetworks.any (·.contains clientIp) then .drop
    else .serveRequest

/-- The proxy stage: `check_auth` on `Proxy-Authorization`, then the tunnel for `CONNECT` and
the simple proxy otherwise; a failed check refuses the connection when `never_ask_for_auth` is
set and asks for credentials when not. -/
def proxyStage : Except IoError Route :=
  match checkAuth req.headers .proxyAuthorization config.basicAuth with
  | .ok usernameOption =>
    let username := usernameOption.getD "unknown"
    if req.method = .connect then .ok (.tunnelProxy username) else .ok (.simpleProxy username)
  | .error () =>
    if config.neverAskForAuth then .error ⟨.permissionDenied, "wrong basic auth, closing socket..."⟩
    else .ok .askForAuth

/-- The scheme of a request whose URI names none: `https` behind TLS. -/
def defaultScheme : String := if config.overTls then "https" else "http"

/-- The location a request for the domain `reqDomain` goes to: of the locations of the domain,
or else of `DEFAULT_HOST` (`location_config_of_host`), the first whose prefix begins the path. -/
def locate (reqDomain : RequestDomain) : Option LocationConfig :=
  (config.reverseProxyConfig.locationsOf defaultHost reqDomain.domain).bind
    (findLocation req.uri.path)

/-- The decision of `ProxyHandler::handle`. -/
def route : Except IoError Route :=
  if req.method ≠ .connect then
    match extractSchemeHostPort req (defaultScheme config) with
    | .error e => .error e
    | .ok (originalSchemeHostPort, reqDomain) =>
      match locate defaultHost config req reqDomain with
      | some locationConfig => .ok (.reverseProxy locationConfig originalSchemeHostPort)
      | none =>
        if req.version = .http2 ∨ req.uri.host = none then .ok (servingGate config clientSocketAddr)
        else proxyStage config req
  else proxyStage config req

/-- The client passes the serving gate. -/
def ServingAllowed : Prop :=
  config.servingControl.prohibitServing = false ∧
    (config.servingControl.allowedNetworks = [] ∨
      ∃ n ∈ config.servingControl.allowedNetworks, n.contains clientSocketAddr.ip.toCanonical)

/-- The proxy stage's check of a request succeeds, as `username`. -/
def Authorized (username : String) : Prop :=
  ∃ o, checkAuth req.headers .proxyAuthorization config.basicAuth = .ok o ∧ username = o.getD "unknown"

end Route

/-! ### What the gates admit -/

section Gates

variable {defaultHost : String} {config : Config} {req : Request} {clientSocketAddr : SocketAddr}

/-- The serving gate admits exactly the clients it is meant to. -/
lemma servingGate_eq_serveRequest :
    servingGate config clientSocketAddr = .serveRequest ↔ ServingAllowed config clientSocketAddr := by
  unfold servingGate ServingAllowed
  cases config.servingControl.prohibitServing
  · rcases config.servingControl.allowedNetworks with _ | ⟨n, ns⟩
    · simp
    · cases h : n.contains clientSocketAddr.ip.toCanonical <;> simp [h]
  · simp

/-- The serving gate only drops or serves. -/
lemma servingGate_eq_drop_or (config : Config) (clientSocketAddr : SocketAddr) :
    servingGate config clientSocketAddr = .drop ∨ servingGate config clientSocketAddr = .serveRequest := by
  unfold servingGate
  split
  · exact .inl rfl
  · dsimp only
    split <;> simp

/-- What the proxy stage decides: a checked request goes to the tunnel or the simple proxy, by
its method, and a refused one is asked for credentials or refused. -/
lemma proxyStage_eq_ok {r : Route} :
    proxyStage config req = .ok r ↔
      (∃ u, Authorized config req u ∧
        r = if req.method = .connect then .tunnelProxy u else .simpleProxy u) ∨
      ((∀ u, ¬Authorized config req u) ∧ config.neverAskForAuth = false ∧ r = .askForAuth) := by
  unfold proxyStage Authorized
  rcases checkAuth req.headers .proxyAuthorization config.basicAuth with _ | o
  · simp only [reduceCtorEq, false_and, exists_false, not_false_eq_true, implies_true,
      true_and, false_or]
    cases config.neverAskForAuth <;> simp [eq_comm]
  · simp only [Except.ok.injEq, exists_eq_left']
    constructor
    · intro h
      refine .inl ⟨_, rfl, ?_⟩
      split at h <;> simp_all
    · rintro (⟨u, rfl, rfl⟩ | ⟨h, -⟩)
      · split <;> rfl
      · exact absurd rfl (h _)

/-- The proxy stage only tunnels, forwards or asks for credentials. -/
lemma proxyStage_eq_ok_imp {r : Route} (h : proxyStage config req = .ok r) :
    (∃ u, r = .tunnelProxy u ∨ r = .simpleProxy u) ∨ r = .askForAuth := by
  rcases proxyStage_eq_ok.mp h with ⟨u, -, rfl⟩ | ⟨-, -, rfl⟩
  · exact .inl ⟨u, by split <;> simp⟩
  · exact .inr rfl

lemma proxyStage_ne_serveRequest : proxyStage config req ≠ .ok .serveRequest := fun h => by
  rcases proxyStage_eq_ok_imp h with ⟨u, hr | hr⟩ | hr <;> cases hr

end Gates

/-! ### The decision -/

section Decision

variable {defaultHost : String} {config : Config} {req : Request} {clientSocketAddr : SocketAddr}

/-- Everything `route` can decide, and on what grounds. -/
lemma route_eq_ok {r : Route} :
    route defaultHost config req clientSocketAddr = .ok r ↔
      (∃ shp dom, req.method ≠ .connect ∧
        extractSchemeHostPort req (defaultScheme config) = .ok (shp, dom) ∧
        ((∃ l, locate defaultHost config req dom = some l ∧ r = .reverseProxy l shp) ∨
          (locate defaultHost config req dom = none ∧ (req.version = .http2 ∨ req.uri.host = none) ∧
            r = servingGate config clientSocketAddr) ∨
          (locate defaultHost config req dom = none ∧ ¬(req.version = .http2 ∨ req.uri.host = none) ∧
            proxyStage config req = .ok r))) ∨
      (req.method = .connect ∧ proxyStage config req = .ok r) := by
  unfold route
  by_cases hc : req.method = .connect
  · simp [hc]
  · rw [if_pos hc]
    rcases he : extractSchemeHostPort req (defaultScheme config) with e | ⟨shp, dom⟩
    · simp [hc]
    · rcases hl : locate defaultHost config req dom with _ | l
      · by_cases hs : req.version = .http2 ∨ req.uri.host = none
        · simp only [hl, if_pos hs, Except.ok.injEq]
          simp [hs, hc, hl, and_assoc]
          exact eq_comm
        · simp [hs, hc, hl, and_assoc]
      · simp [hc, hl, and_assoc, eq_comm]

/-- A request handed to the proxy stage's handlers was decided by the proxy stage. -/
lemma proxyStage_of_route {r : Route} (h : route defaultHost config req clientSocketAddr = .ok r)
    (hr : ∀ l shp, r ≠ .reverseProxy l shp) (hd : r ≠ .drop) (hs : r ≠ .serveRequest) :
    proxyStage config req = .ok r := by
  rcases route_eq_ok.mp h with ⟨shp, dom, -, -, ⟨l, -, rfl⟩ | ⟨-, -, rfl⟩ | ⟨-, -, hp⟩⟩ | ⟨-, hp⟩
  · exact absurd rfl (hr l shp)
  · rcases servingGate_eq_drop_or config clientSocketAddr with h | h <;> rw [h] at hd hs <;>
      contradiction
  · exact hp
  · exact hp

/-- What a request that reaches `serve_request` has passed. -/
lemma route_serveRequest_spec (h : route defaultHost config req clientSocketAddr = .ok .serveRequest) :
    req.method ≠ .connect ∧
      (∃ shp dom, extractSchemeHostPort req (defaultScheme config) = .ok (shp, dom) ∧
        locate defaultHost config req dom = none) ∧
      (req.version = .http2 ∨ req.uri.host = none) ∧ ServingAllowed config clientSocketAddr := by
  rcases route_eq_ok.mp h with ⟨shp, dom, hc, he, ⟨l, -, hr⟩ | ⟨hl, hs, hr⟩ | ⟨-, -, hp⟩⟩ | ⟨-, hp⟩
  · cases hr
  · exact ⟨hc, ⟨shp, dom, he, hl⟩, hs, servingGate_eq_serveRequest.mp hr.symm⟩
  · exact absurd hp proxyStage_ne_serveRequest
  · exact absurd hp proxyStage_ne_serveRequest

/-- A tunnelled or forwarded request passed the proxy stage's check as its user. -/
lemma authorized_of_route {u : String}
    (h : route defaultHost config req clientSocketAddr = .ok (.tunnelProxy u) ∨
      route defaultHost config req clientSocketAddr = .ok (.simpleProxy u)) :
    Authorized config req u := by
  have key : ∀ r, (r = Route.tunnelProxy u ∨ r = .simpleProxy u) → proxyStage config req = .ok r →
      Authorized config req u := by
    rintro r hr hp
    rcases proxyStage_eq_ok.mp hp with ⟨u', hu', rfl⟩ | ⟨-, -, rfl⟩
    · split at hr <;> simp_all
    · simp at hr
  rcases h with h | h
  · exact key _ (.inl rfl) (proxyStage_of_route h (fun _ _ => nofun) nofun nofun)
  · exact key _ (.inr rfl) (proxyStage_of_route h (fun _ _ => nofun) nofun nofun)

/-- A request forwarded by the simple proxy is not a `CONNECT`, is not HTTP/2, and names a host
in its URI. -/
lemma route_simpleProxy_spec {u : String}
    (h : route defaultHost config req clientSocketAddr = .ok (.simpleProxy u)) :
    req.method ≠ .connect ∧ req.version ≠ .http2 ∧ req.uri.host ≠ none := by
  rcases route_eq_ok.mp h with ⟨_, _, hc, -, ⟨l, -, hr⟩ | ⟨-, -, hr⟩ | ⟨-, hs, -⟩⟩ | ⟨hc, hp⟩
  · cases hr
  · rcases servingGate_eq_drop_or config clientSocketAddr with h | h <;> rw [h] at hr <;> cases hr
  · exact ⟨hc, not_or.mp hs⟩
  · rcases proxyStage_eq_ok.mp hp with ⟨u', -, hr⟩ | ⟨-, -, hr⟩
    · rw [if_pos hc] at hr
      cases hr
    · cases hr

/-- A request reaches `serve_request` exactly when it is not a `CONNECT`, resolves, goes to no
location, is for this server, and its client passes the serving gate. -/
lemma route_eq_serveRequest :
    route defaultHost config req clientSocketAddr = .ok .serveRequest ↔
      req.method ≠ .connect ∧
        (∃ shp dom, extractSchemeHostPort req (defaultScheme config) = .ok (shp, dom) ∧
          locate defaultHost config req dom = none) ∧
        (req.version = .http2 ∨ req.uri.host = none) ∧ ServingAllowed config clientSocketAddr :=
  ⟨route_serveRequest_spec, fun ⟨hc, ⟨shp, dom, he, hl⟩, hs, ha⟩ => route_eq_ok.mpr
    (.inl ⟨shp, dom, hc, he, .inr (.inl ⟨hl, hs, (servingGate_eq_serveRequest.mpr ha).symm⟩)⟩)⟩

end Decision

/-! ### What the decision guarantees -/

/-- **IPv4-mapped clients.** A client on the IPv6 address `::ffff:a.b.c.d` is treated as the
IPv4 client `a.b.c.d`, whatever its port. -/
theorem route_toIpv6Mapped (defaultHost : String) (config : Config) (req : Request)
    (a : BitVec 32) (p q : UInt16) :
    route defaultHost config req ⟨toIpv6Mapped a, p⟩ = route defaultHost config req ⟨.v4 a, q⟩ := by
  have hgate : servingGate config ⟨toIpv6Mapped a, p⟩ = servingGate config ⟨.v4 a, q⟩ := by
    simp only [servingGate, toCanonical_toIpv6Mapped]
    rfl
  simp only [route, hgate]

/-- The request `CONNECT example.com:443`, without credentials. -/
def connectExample : Request :=
  ⟨.connect, ⟨none, some ⟨"example.com", some 443, by decide⟩, .empty, by simp, fun _ _ => rfl⟩,
    .http11, ⟨[]⟩⟩

/-! ### The gates under a configuration built from the command line -/

section Configured

variable (parseReverseProxyConfig :
  Option String → List String → Bool → Except String ReverseProxyConfig)

/-- **The allow list as CIDR text.** When serving is not prohibited and the allow list is the
CIDR text of one or more IPv4 networks, a client passes the serving gate exactly when its
canonical address is IPv4 and agrees with one of the networks on that network's prefix bits. -/
theorem servingAllowed_cidr (param : Param) (c : Config)
    (hc : Config.tryFrom parseReverseProxyConfig param = .ok c)
    (hp : param.prohibitServing = false) (ns : List Ipv4Network) (hne : ns ≠ [])
    (hn : param.allowServingNetwork = ns.map Ipv4Network.display) (clientSocketAddr : SocketAddr) :
    ServingAllowed c clientSocketAddr ↔
      ∃ ip, clientSocketAddr.ip.toCanonical = .v4 ip ∧
        ∃ n ∈ ns, ip >>> (32 - n.prefixLen) = n.addr >>> (32 - n.prefixLen) := by
  obtain ⟨-, -, -, hs, -⟩ := tryFrom_eq_ok hc
  have hnets : allowedNetworks param.prohibitServing param.allowServingNetwork = ns.map .v4 := by
    rw [allowedNetworks, if_pos (by simpa [hp, hn] using hne), hn, List.filterMap_map]
    simp only [Function.comp_def, IpNetwork.fromStr_display]
    exact congrFun (List.filterMap_eq_map IpNetwork.v4) ns
  unfold ServingAllowed
  rw [hs, hnets]
  simp only [hp, true_and, List.map_eq_nil_iff, hne, false_or, List.mem_map,
    exists_exists_and_eq_and]
  cases clientSocketAddr.ip.toCanonical with
  | v4 ip =>
    simp only [IpNetwork.contains, Ipv4Network.contains_iff, IpAddr.v4.injEq, exists_eq_left']
  | v6 ip => simp [IpNetwork.contains]

/-- The network `10.0.0.0/8`. -/
def lanNetwork : Ipv4Network := ⟨0x0a000000, 8, by decide⟩

/-- The allow list `10.0.0.0/8` admits a client at `10.1.2.3` and not one at `192.168.1.5`. -/
theorem servingAllowed_cidr_lan :
    ∃ c, Config.tryFrom (fun _ _ _ => .ok ⟨[]⟩)
        { Param.default with allowServingNetwork := ["10.0.0.0/8"] } = .ok c ∧
      ServingAllowed c ⟨.v4 0x0a010203, 50000⟩ ∧ ¬ServingAllowed c ⟨.v4 0xc0a80105, 50000⟩ := by
  refine ⟨_, rfl, ?_⟩
  have h := servingAllowed_cidr (fun _ _ _ => .ok ⟨[]⟩)
    { Param.default with allowServingNetwork := ["10.0.0.0/8"] } _ rfl rfl [lanNetwork] (by simp) rfl
  refine ⟨(h _).mpr ⟨_, rfl, lanNetwork, List.mem_singleton_self _, by decide⟩, fun ha => ?_⟩
  obtain ⟨ip, hip, n, hn, hbits⟩ := (h _).mp ha
  cases hip
  rw [List.mem_singleton.mp hn] at hbits
  exact absurd hbits (by decide)

/-- **An allow list of malformed entries admits every client.** Under a configuration built
from a command line that does not prohibit serving and none of whose `--allow-serving-network`
entries is a network, every request for this server that resolves and goes to no location is
served, whatever its client. -/
theorem route_serveRequest_malformedNetworks (param : Param) (c : Config)
    (hc : Config.tryFrom parseReverseProxyConfig param = .ok c)
    (hp : param.prohibitServing = false)
    (hbad : ∀ s ∈ param.allowServingNetwork, IpNetwork.fromStr s = none) (defaultHost : String)
    (req : Request) (shp : SchemeHostPort) (dom : RequestDomain) (hm : req.method ≠ .connect)
    (he : extractSchemeHostPort req (defaultScheme c) = .ok (shp, dom))
    (hl : locate defaultHost c req dom = none) (hv : req.version = .http2 ∨ req.uri.host = none)
    (clientSocketAddr : SocketAddr) :
    route defaultHost c req clientSocketAddr = .ok .serveRequest := by
  obtain ⟨-, -, -, hs, -⟩ := tryFrom_eq_ok hc
  have hallowed : ServingAllowed c clientSocketAddr := by
    rw [ServingAllowed, hs]
    exact ⟨hp, .inl (allowedNetworks_eq_nil.mpr (.inr hbad))⟩
  exact route_eq_serveRequest.mpr ⟨hm, ⟨shp, dom, he, hl⟩, hv, hallowed⟩

/-- With `--allow-serving-network x`, a client at `1.2.3.4` asking this server for a page is
served. -/
theorem route_serveRequest_malformedNetworks_x :
    ∃ c, Config.tryFrom (fun _ _ _ => .ok ⟨[]⟩)
        { Param.default with allowServingNetwork := ["x"] } = .ok c ∧
      route "" c (getWithHost .http11 exampleHost) ⟨.v4 0x01020304, 50000⟩ = .ok .serveRequest :=
  ⟨_, rfl, route_serveRequest_malformedNetworks (fun _ _ _ => .ok ⟨[]⟩)
    { Param.default with allowServingNetwork := ["x"] } _ rfl rfl
    (fun s hs => by rw [List.mem_singleton.mp hs]; rfl) "" (getWithHost .http11 exampleHost) _ _
    (by decide) rfl rfl (.inr rfl) _⟩

/-- **Who is tunnelled or forwarded.** Under a configuration built from the command line, a
request goes to the tunnel or the simple proxy only as a configured user whose key is the
value of its `Proxy-Authorization` header, or as `unknown` when no user spec is well formed. -/
theorem route_forwarded_user (param : Param) (c : Config)
    (hc : Config.tryFrom parseReverseProxyConfig param = .ok c) (defaultHost : String)
    (req : Request) (clientSocketAddr : SocketAddr) (u : String)
    (h : route defaultHost c req clientSocketAddr = .ok (.tunnelProxy u) ∨
      route defaultHost c req clientSocketAddr = .ok (.simpleProxy u)) :
    ((∀ spec ∈ param.users, ∀ n, ¬IsUserSpec spec n) ∧ u = "unknown") ∨
      ∃ v, req.headers.get .proxyAuthorization = some v ∧
        ∃ spec ∈ param.users, IsUserSpec spec u ∧ v.val = basicAuthKey spec := by
  obtain ⟨o, ho, rfl⟩ := authorized_of_route h
  obtain ⟨hb, -⟩ := tryFrom_eq_ok hc
  rw [hb] at ho
  rcases checkAuth_eq_ok.mp ho with ⟨he, rfl⟩ | ⟨v, u, hv, hu, rfl⟩
  · exact .inl ⟨(buildBasicAuth_entries_eq_nil _).mp he, rfl⟩
  · exact .inr ⟨v, hv, (lookup_buildBasicAuth _ _ _).mp hu⟩

/-- `GET http://example.com/` with `Host: example.com` and the credentials `alice:pw`. -/
def aliceGet : Request :=
  { absoluteGet with headers := ⟨[(.host, ⟨"example.com", by decide⟩),
      (.proxyAuthorization, ⟨"Basic YWxpY2U6cHc=", by decide⟩)]⟩ }

/-- With the user spec `alice:pw`, a request carrying alice's key is forwarded as `alice`. -/
theorem route_forwarded_user_alice :
    ∃ c, Config.tryFrom (fun _ _ _ => .ok ⟨[]⟩) { Param.default with users := ["alice:pw"] } = .ok c ∧
      route "" c aliceGet ⟨.v4 1, 1⟩ = .ok (.simpleProxy "alice") ∧
      (((∀ spec ∈ ["alice:pw"], ∀ n, ¬IsUserSpec spec n) ∧ "alice" = "unknown") ∨
        ∃ v, aliceGet.headers.get .proxyAuthorization = some v ∧
          ∃ spec ∈ ["alice:pw"], IsUserSpec spec "alice" ∧ v.val = basicAuthKey spec) := by
  refine ⟨_, rfl, rfl, ?_⟩
  exact route_forwarded_user (fun _ _ _ => .ok ⟨[]⟩) { Param.default with users := ["alice:pw"] }
    _ rfl "" aliceGet ⟨.v4 1, 1⟩ "alice" (.inr rfl)

/-- **User specs that are all malformed authenticate no one.** Under a configuration built
from a command line none of whose `--users` specs is kept, the credential table is empty, and
every `CONNECT` is tunnelled, as `unknown`, whatever its credentials. -/
theorem route_connect_malformedUsers (param : Param)
    (hbad : ∀ u ∈ param.users, ∀ n, ¬IsUserSpec u n) (c : Config)
    (hc : Config.tryFrom parseReverseProxyConfig param = .ok c) (defaultHost : String)
    (req : Request) (clientSocketAddr : SocketAddr) (hm : req.method = .connect) :
    c.basicAuth.entries = [] ∧
      route defaultHost c req clientSocketAddr = .ok (.tunnelProxy "unknown") := by
  have he : c.basicAuth.entries = [] :=
    (tryFrom_eq_ok hc).1 ▸ (buildBasicAuth_entries_eq_nil _).mpr hbad
  exact ⟨he, by simp [route, hm, proxyStage, checkAuth, he]⟩

/-- With the user specs `alice` and `a::pw`, a `CONNECT` without credentials is tunnelled. -/
theorem route_connect_malformedUsers_alice :
    ∃ c, Config.tryFrom (fun _ _ _ => .ok ⟨[]⟩)
        { Param.default with users := ["alice", "a::pw"] } = .ok c ∧
      c.basicAuth.entries = [] ∧ route "" c connectExample ⟨.v4 1, 1⟩ = .ok (.tunnelProxy "unknown") :=
  ⟨_, rfl, route_connect_malformedUsers (fun _ _ _ => .ok ⟨[]⟩)
    { Param.default with users := ["alice", "a::pw"] } (fun u hu n h => by
      obtain ⟨-, -, hp⟩ := (isUserSpec_iff u n).mp h
      simp only [List.mem_cons, List.mem_singleton, List.not_mem_nil, or_false] at hu
      rcases hu with rfl | rfl <;> exact hp rfl)
    _ rfl "" connectExample ⟨.v4 1, 1⟩ rfl⟩

end Configured

end HttpProxy
