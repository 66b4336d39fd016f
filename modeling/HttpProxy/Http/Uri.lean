import HttpProxy.Http.Header

/-!
URIs of the `http` crate, as far as `proxy.rs` reads and builds them.

* `Authority`, `PathAndQuery`, `Uri`: the parts the crate keeps. The invariants of a parsed
  `Uri` are fields: a scheme comes with an authority, and an authority without a scheme (the
  form a `CONNECT` target takes) comes with an empty path.
* The accessors `Uri::scheme_str`, `host`, `port_u16`, `path_and_query`, `path` and `query`,
  with the crate's special cases: `path` is `/` for an empty path under a scheme and empty
  for the `CONNECT` form; `path_and_query` is absent for the `CONNECT` form.
* `Uri.default` (`/`) and `Uri.fromParts` with the crate's three refusals.
-/

namespace HttpProxy

/-- An authority as `Uri::host` and `Uri::port` read it: the host, brackets included for an
IPv6 literal, and the port when its digits fit a `u16`. The crate's parser admits only
visible characters in an authority. -/
structure Authority where
  host : String
  port : Option UInt16
  visible : ∀ c ∈ host.data, isVisibleAscii c
  deriving DecidableEq

/-- A `PathAndQuery`: the path and, after the first `?`, the query. -/
structure PathAndQuery where
  data : String
  deriving DecidableEq

namespace PathAndQuery

/-- `PathAndQuery::empty`. -/
def empty : PathAndQuery := ⟨""⟩

/-- `PathAndQuery::as_str`: `/` for the empty one. -/
def asStr (pq : PathAndQuery) : String := if pq.data = "" then "/" else pq.data

/-- `PathAndQuery::path`: the text before the first `?`, or `/` when that is empty. -/
def path (pq : PathAndQuery) : String :=
  match pq.data.data.takeWhile (· ≠ '?') with
  | [] => "/"
  | p => ⟨p⟩

/-- `PathAndQuery::query`: the text after the first `?`, if there is one. -/
def query (pq : PathAndQuery) : Option String :=
  match pq.data.data.dropWhile (· ≠ '?') with
  | [] => none
  | _ :: q => some ⟨q⟩

lemma path_ne_empty (pq : PathAndQuery) : pq.path ≠ "" := by
  unfold path
  split
  · decide
  · rename_i p hp
    exact fun h => hp (congrArg String.data h)

/-- The path and query that `as_str` shows as `/` are the path `/` and no query. -/
lemma path_query_of_asStr {pq : PathAndQuery} (h : pq.asStr = "/") :
    pq.path = "/" ∧ pq.query = none := by
  obtain ⟨⟨d⟩⟩ := pq
  unfold asStr at h
  split at h
  · next he => obtain rfl : d = [] := congrArg String.data he; exact ⟨rfl, rfl⟩
  · obtain rfl : d = ['/'] := congrArg String.data h; exact ⟨rfl, rfl⟩

end PathAndQuery

/-- A `Uri` as the crate builds it. -/
structure Uri where
  scheme : Option String
  authority : Option Authority
  pathAndQuery : PathAndQuery
  scheme_authority : scheme.isSome → authority.isSome
  authority_form : scheme = none → authority.isSome → pathAndQuery = .empty
  deriving DecidableEq

namespace Uri

variable (u : Uri)

/-- `Uri::scheme_str`. -/
def schemeStr : Option String := u.scheme

/-- `Uri::host`. -/
def host : Option String := u.authority.map (·.host)

/-- `Uri::port_u16`, the number of `Uri::port`. -/
def port : Option UInt16 := u.authority.bind (·.port)

/-- `Uri::path_and_query`: present under a scheme or without an authority. -/
def pathAndQuery? : Option PathAndQuery :=
  if u.scheme.isSome ∨ u.authority.isNone then some u.pathAndQuery else none

/-- `Uri::path`: empty for the `CONNECT` form. -/
def path : String :=
  if u.pathAndQuery.data ≠ "" ∨ u.scheme.isSome then u.pathAndQuery.path else ""

/-- `Uri::query`. -/
def query : Option String := u.pathAndQuery.query

/-- `Uri::default`, the URI `/`. -/
def default : Uri := ⟨none, none, ⟨"/"⟩, by simp, by simp⟩

/-- `http::uri::Parts`. -/
structure Parts where
  scheme : Option String := none
  authority : Option Authority := none
  pathAndQuery : Option PathAndQuery := none

/-- `Uri::from_parts`, with the texts of the crate's `InvalidUriParts`. -/
def fromParts : Parts → Except String Uri
  | ⟨some _, none, _⟩ => .error "authority missing"
  | ⟨some _, some _, none⟩ => .error "path missing"
  | ⟨some s, some a, some pq⟩ => .ok ⟨some s, some a, pq, by simp, by simp⟩
  | ⟨none, some _, some _⟩ => .error "scheme missing"
  | ⟨none, some a, none⟩ => .ok ⟨none, some a, .empty, by simp, by simp⟩
  | ⟨none, none, pq⟩ => .ok ⟨none, none, pq.getD .empty, by simp, by simp⟩

@[simp] lemma default_scheme : default.scheme = none := rfl

@[simp] lemma default_authority : default.authority = none := rfl

@[simp] lemma default_path : default.path = "/" := by decide

@[simp] lemma default_query : default.query = none := by decide

end Uri

end HttpProxy
