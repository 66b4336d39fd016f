import HttpProxy.Proxy.Route

/-!
`proxy.rs`: `ProxyHandler::handle` as a whole, the decision of `route` followed by the handler
it names, with the handlers that `proxy.rs` defines: `tunnel_proxy`'s reply, `simple_proxy`,
`serve_request` and `build_authenticate_resp`.

What `handle` relies on that is not part of the source, or does I/O, is a parameter
(`Collaborators`): the reverse proxy, the static files, the upstream client, `host_addr`,
the `Display` of addresses and URIs, `LOCAL_IP` and `DEFAULT_HOST`. The tunnel that a
`CONNECT` opens after its reply, in a task of its own, is in `Proxy.Tunnel`.

* `handle_simpleProxy`: what the simple proxy sends upstream is the request as
  `mod_http1_proxy_req` rewrites it, and the rewrite always succeeds there.
-/

namespace HttpProxy

/-- `InterceptResultAdapter`: what `handle` gives back to the connection. -/
inductive InterceptResultAdapter where
  /-- Close the connection without a reply. -/
  | drop
  /-- Reply with a response. -/
  | «return» (resp : Response)
  /-- Pass the request on to the next handler. -/
  | «continue» (req : Request)
  deriving DecidableEq

/-- `AccessLabel`, the label of a proxied connection's traffic counter. -/
structure AccessLabel where
  client : String
  target : String
  username : String
  deriving DecidableEq

/-- What `ProxyHandler::handle` relies on that is not part of the source, or does I/O. -/
structure Collaborators where
  /-- `reverse::DEFAULT_HOST`. -/
  defaultHost : String
  /-- `address::host_addr`: the target a URI names, if it names one. -/
  hostAddr : Uri → Option String
  /-- The `Display` of an `IpAddr`. -/
  displayIp : IpAddr → String
  /-- The `Display` of a `Uri`. -/
  displayUri : Uri → String
  /-- `LocationConfig::handle`, the reverse proxy. -/
  reverseProxy : LocationConfig → Request → SocketAddr → SchemeHostPort → Except IoError Response
  /-- `axum_handler::AXUM_PATHS`, the paths the application serves itself. -/
  axumPaths : List String
  /-- `raw_serve::not_found`. -/
  notFound : Except String Response
  /-- `raw_serve::serve_http_request`. -/
  serveHttpRequest : Request → SocketAddr → String → Except String Response
  /-- `ForwardProxyClient::send_request`. -/
  sendRequest : Request → AccessLabel → Except IoError Response
  /-- `LOCAL_IP`, as a header value. -/
  localIp : HeaderValue

/-! ### The handlers -/

section Handlers

variable (c : Collaborators)

/-- `build_authenticate_resp`: `auth need`, with a `Basic` challenge, 407 for the proxy and 401
otherwise. -/
def buildAuthenticateResp (forProxy : Bool) : Response :=
  let resp := Response.new "auth need"
  let resp := { resp with
    headers := resp.headers.append (if forProxy then .proxyAuthenticate else .wwwAuthenticate)
      ⟨"Basic realm=\"are you kidding me\"", by decide⟩ }
  if forProxy then { resp with status := 407 } else { resp with status := 401 }

/-- `count` rounds of `response.headers_mut().append(SERVER, LOCAL_IP)`. -/
def appendServer : ℕ → Response → Response
  | 0, response => response
  | n + 1, response =>
    appendServer n { response with headers := response.headers.append .server c.localIp }

/-- The reply of `tunnel_proxy` to a `CONNECT`, where `count` is the number drawn from
`1..2048 / LOCAL_IP.len()`. -/
def tunnelProxy (count : ℕ) (req : Request) : Except IoError Response :=
  match c.hostAddr req.uri with
  | some _ => .ok (appendServer c count (Response.new ""))
  | none => .ok { Response.new "CONNECT must be to a socket address" with status := 400 }

/-- `build_access_label`. -/
def buildAccessLabel (req : Request) (clientSocketAddr : SocketAddr) (username : String) :
    Except IoError AccessLabel :=
  match c.hostAddr req.uri with
  | none => .error ⟨.invalidData, "URI missing host: " ++ c.displayUri req.uri⟩
  | some addr => .ok ⟨c.displayIp clientSocketAddr.ip.toCanonical, addr, username⟩

/-- `simple_proxy`: label the traffic, rewrite the request, send it upstream. The errors of the
response body, which become `InvalidData` as it streams, are left out. -/
def simpleProxy (req : Request) (clientSocketAddr : SocketAddr) (username : String) :
    Except IoError Response :=
  match buildAccessLabel c req clientSocketAddr username with
  | .error e => .error e
  | .ok accessLabel =>
    match modHttp1ProxyReq req with
    | (_, .error e) => .error e
    | (req, .ok ()) => c.sendRequest req accessLabel

/-- `percent_decode_str`, on bytes: a `%` and two hex digits are the byte they spell; any other
byte, a `%` without two hex digits after it included, stays. -/
def percentDecode : List UInt8 → List UInt8
  | b :: h :: l :: rest =>
    if b = 37 then
      match AddrParser.hexDigit? (Char.ofNat h.toNat),
          AddrParser.hexDigit? (Char.ofNat l.toNat) with
      | some x, some y => UInt8.ofNat (x * 16 + y) :: percentDecode rest
      | _, _ => b :: percentDecode (h :: l :: rest)
    else b :: percentDecode (h :: l :: rest)
  | b :: rest => b :: percentDecode rest
  | [] => []

/-- `serve_request`: the path, percent-decoded when that gives UTF-8; a path the application
serves itself is answered `not_found`, any other is served from the files. -/
def serveRequest (req : Request) (clientSocketAddr : SocketAddr) : Except IoError Response :=
  let rawPath := req.uri.path
  let path := (String.fromUTF8? ⟨(percentDecode rawPath.toUTF8.data.toList).toArray⟩).getD rawPath
  if c.axumPaths.contains path then c.notFound.mapError fun e => ⟨.invalidData, e⟩
  else (c.serveHttpRequest req clientSocketAddr path).mapError fun e => ⟨.invalidData, e⟩

/-- `ProxyHandler::handle` under a configuration, with `count` the number its `CONNECT` reply
draws. -/
def handle (config : Config) (count : ℕ) (req : Request) (clientSocketAddr : SocketAddr) :
    Except IoError InterceptResultAdapter :=
  match route c.defaultHost config req clientSocketAddr with
  | .error e => .error e
  | .ok (.reverseProxy locationConfig originalSchemeHostPort) =>
    (c.reverseProxy locationConfig req clientSocketAddr originalSchemeHostPort).map .«return»
  | .ok .drop => .ok .drop
  | .ok .serveRequest =>
    match serveRequest c req clientSocketAddr with
    | .ok res => if res.status = 404 then .ok (.«continue» req) else .ok (.«return» res)
    | .error err => .error err
  | .ok (.tunnelProxy _) => (tunnelProxy c count req).map .«return»
  | .ok (.simpleProxy username) => (simpleProxy c req clientSocketAddr username).map .«return»
  | .ok .askForAuth => .ok (.«return» (buildAuthenticateResp true))

end Handlers

/-! ### What `handle` does -/

section Handle

variable (c : Collaborators) (config : Config) (count : ℕ) (req : Request)
  (clientSocketAddr : SocketAddr)

/-- **What the simple proxy sends upstream.** For a request that `handle` forwards, the rewrite
of `mod_http1_proxy_req` succeeds, and what goes upstream is the rewritten request, labelled with
the client, the target and the user. -/
theorem handle_simpleProxy (u addr : String)
    (h : route c.defaultHost config req clientSocketAddr = .ok (.simpleProxy u))
    (ha : c.hostAddr req.uri = some addr) :
    (modHttp1ProxyReq req).2 = .ok () ∧
      handle c config count req clientSocketAddr =
        (c.sendRequest (modHttp1ProxyReq req).1
          ⟨c.displayIp clientSocketAddr.ip.toCanonical, addr, u⟩).map .«return» := by
  obtain ⟨-, -, hh⟩ := route_simpleProxy_spec h
  obtain ⟨a, hau⟩ : ∃ a, req.uri.authority = some a := by
    cases hau : req.uri.authority with
    | none => simp [Uri.host, hau] at hh
    | some a => exact ⟨a, rfl⟩
  obtain ⟨_, _, -, hm⟩ := modHttp1ProxyReq_of_authority hau
  refine ⟨by rw [hm], ?_⟩
  simp only [handle, h, simpleProxy, buildAccessLabel, ha, hm]

/-- Collaborators that answer every path and every upstream request, with `host_addr` giving
the URI's host. -/
def exampleCollaborators : Collaborators where
  defaultHost := "default"
  hostAddr := Uri.host
  displayIp := fun _ => "client"
  displayUri := fun _ => "uri"
  reverseProxy := fun _ _ _ _ => .ok (Response.new "")
  axumPaths := []
  notFound := .ok ⟨404, ⟨[]⟩, ""⟩
  serveHttpRequest := fun _ _ _ => .ok ⟨404, ⟨[]⟩, ""⟩
  sendRequest := fun _ _ => .ok (Response.new "")
  localIp := ⟨"10.0.0.1", by decide⟩

/-- The configuration of the default command line with the given user specs. -/
def exampleConfig (users : List String) : Config where
  cert := "cert.pem"
  key := "privkey.pem"
  basicAuth := buildBasicAuth users
  webContentPath := "/usr/share/nginx/html"
  refererKeywordsToSelf := []
  neverAskForAuth := false
  servingControl := ⟨false, []⟩
  overTls := false
  port := [3128]
  reverseProxyConfig := ⟨[]⟩

/-- Alice's request is sent upstream rewritten. -/
theorem handle_simpleProxy_alice :
    (modHttp1ProxyReq aliceGet).2 = .ok () ∧
      handle exampleCollaborators (exampleConfig ["alice:pw"]) 1 aliceGet ⟨.v4 1, 1⟩ =
        (exampleCollaborators.sendRequest (modHttp1ProxyReq aliceGet).1
          ⟨"client", "example.com", "alice"⟩).map .«return» :=
  handle_simpleProxy exampleCollaborators (exampleConfig ["alice:pw"]) 1 aliceGet ⟨.v4 1, 1⟩
    "alice" "example.com" rfl rfl

end Handle

end HttpProxy
