import Mathlib.Data.List.AList
import HttpProxy.Text.Str
import HttpProxy.Text.Utf8
import HttpProxy.Text.Base64
import HttpProxy.Net.IpNetwork

/-!
`config.rs`: `Config::try_from`, from the command line to the configuration the proxy runs
under.

* The credential table. A user spec is kept when its first two `:`-separated fields, the
  user name and the password, are both non-empty (`isUserSpec_iff`); its key is
  `"Basic "` and the base64 of its bytes (`basicAuthKey`), which determines it
  (`basicAuthKey_injective`). `lookup_buildBasicAuth`: the table maps a key to a name exactly
  when some kept spec has that key and that name, so no credential overwrites another.
* The serving control: the allowed networks are the entries of `--allow-serving-network`
  that parse as networks; the others are dropped with a warning (`mem_allowedNetworks`).
* `Config.tryFrom` fails exactly when the reverse-proxy configuration does
  (`tryFrom_eq_error`), and `tryFrom_eq_ok` gives the configuration it builds.
* `tryFrom_basicAuth_lookup`: no user spec makes `Config::try_from` fail, and the table of the
  configuration it builds is that of the kept specs.
-/

namespace HttpProxy

/-! ### The configuration -/

/-- A reverse-proxy location: the path prefix it serves and the base of its upstream URL. -/
structure LocationConfig where
  location : String
  upstream : String
  deriving DecidableEq, Inhabited

/-- `ReverseProxyConfig`: the locations of each host, in order. -/
structure ReverseProxyConfig where
  locations : List (String × List LocationConfig)
  deriving DecidableEq

/-- `Param`, the command line, with the fields `Config::try_from` reads. -/
structure Param where
  port : List UInt16
  cert : String
  key : String
  users : List String
  webContentPath : String
  refererKeywordsToSelf : List String
  neverAskForAuth : Bool
  prohibitServing : Bool
  allowServingNetwork : List String
  overTls : Bool
  reverseProxyConfigFile : Option String
  enableGithubProxy : Bool
  appendUpstreamUrl : List String

/-- The defaults of `Param`'s options. -/
def Param.default : Param where
  port := [3128]
  cert := "cert.pem"
  key := "privkey.pem"
  users := []
  webContentPath := "/usr/share/nginx/html"
  refererKeywordsToSelf := []
  neverAskForAuth := false
  prohibitServing := false
  allowServingNetwork := []
  overTls := false
  reverseProxyConfigFile := none
  enableGithubProxy := false
  appendUpstreamUrl := []

/-- The credential table, `Proxy-Authorization` value to user name. -/
abbrev BasicAuth := AList fun _ : String => String

/-- `ServingControl`. -/
structure ServingControl where
  prohibitServing : Bool
  allowedNetworks : List IpNetwork

/-- `Config`. -/
structure Config where
  cert : String
  key : String
  basicAuth : BasicAuth
  webContentPath : String
  refererKeywordsToSelf : List String
  neverAskForAuth : Bool
  servingControl : ServingControl
  overTls : Bool
  port : List UInt16
  reverseProxyConfig : ReverseProxyConfig

/-! ### The credential table -/

/-- The key of a user spec, `format!("Basic {base64}")` of its bytes. -/
def basicAuthKey (rawUser : String) : String :=
  "Basic " ++ Base64.encode rawUser.toUTF8.data.toList

/-- Distinct user specs have distinct keys. -/
lemma basicAuthKey_injective : Function.Injective basicAuthKey := fun u v h => by
  have h₁ : Base64.encode u.toUTF8.data.toList = Base64.encode v.toUTF8.data.toList := by
    have := congrArg String.data h
    simp only [basicAuthKey, String.data_append, List.append_cancel_left_eq] at this
    exact congrArg String.mk this
  have h₂ := Base64.encode_injective h₁
  apply toUTF8_injective
  cases hu : u.toUTF8; cases hv : v.toUTF8
  simp only [hu, hv] at h₂
  rw [Array.ext' h₂]

/-- The loop body of `Config::try_from` for one user spec: the first two `:`-separated fields
are the name and the password, and the spec is kept when both are non-empty. -/
def addUser (basicAuth : BasicAuth) (rawUser : String) : BasicAuth :=
  let user := Str.split ':' rawUser
  let username := user.head?.getD ""
  let password := user.tail.head?.getD ""
  if username ≠ "" ∧ password ≠ "" then basicAuth.insert (basicAuthKey rawUser) username
  else basicAuth

/-- The table `Config::try_from` builds from the user specs. -/
def buildBasicAuth (users : List String) : BasicAuth := users.foldl addUser ∅

/-- A spec the table keeps under the name `n`: a non-empty name without `:`, a `:`, and a
password that is non-empty and does not start with `:`. -/
def IsUserSpec (u n : String) : Prop :=
  ∃ pass : String, u = n ++ ":" ++ pass ∧ n ≠ "" ∧ ':' ∉ n.data ∧ pass ≠ "" ∧
    pass.data.head? ≠ some ':'

lemma takeWhile_ne_empty {t : String} :
    (⟨t.data.takeWhile (· ≠ ':')⟩ : String) ≠ "" ↔ t ≠ "" ∧ t.data.head? ≠ some ':' := by
  obtain ⟨_ | ⟨x, xs⟩⟩ := t
  · simp
  · by_cases hx : x = ':' <;> simp [hx, List.takeWhile_cons, String.ext_iff]

/-- The test of the loop body says exactly that the spec is kept under its first field. -/
lemma isUserSpec_iff (u n : String) :
    IsUserSpec u n ↔ (Str.split ':' u).head?.getD "" = n ∧ n ≠ "" ∧
      (Str.split ':' u).tail.head?.getD "" ≠ "" := by
  rcases Str.not_mem_or_eq_append ':' u with hu | ⟨h, t, hc, rfl⟩
  · rw [Str.split_of_not_mem hu]
    refine ⟨fun ⟨pass, e, _⟩ => absurd (e ▸ by simp) hu, fun ⟨_, _, h⟩ => absurd rfl h⟩
  · rw [Str.split_append hc, List.tail_cons, Str.head_split]
    simp only [List.head?_cons, Option.getD_some, takeWhile_ne_empty]
    constructor
    · rintro ⟨pass, e, hn, hnc, hp⟩
      obtain ⟨rfl, rfl⟩ := Str.append_sep_inj hc hnc e
      exact ⟨rfl, hn, hp⟩
    · rintro ⟨rfl, hn, hp⟩
      exact ⟨t, rfl, hn, hc, hp⟩

lemma addUser_of_isUserSpec {acc : BasicAuth} {u n : String} (h : IsUserSpec u n) :
    addUser acc u = acc.insert (basicAuthKey u) n := by
  obtain ⟨rfl, hn, hp⟩ := (isUserSpec_iff u n).mp h
  simp only [addUser]
  exact if_pos ⟨hn, hp⟩

lemma addUser_of_not {acc : BasicAuth} {u : String} (h : ∀ n, ¬IsUserSpec u n) :
    addUser acc u = acc := by
  simp only [addUser]
  exact if_neg fun ⟨hn, hp⟩ => h _ ((isUserSpec_iff u _).mpr ⟨rfl, hn, hp⟩)

/-- The name a spec is kept under is its first field. -/
lemma IsUserSpec.unique {u m n : String} (hm : IsUserSpec u m) (hn : IsUserSpec u n) : m = n :=
  ((isUserSpec_iff u m).mp hm).1.symm.trans ((isUserSpec_iff u n).mp hn).1

lemma lookup_foldl_addUser_of_some {h n : String} :
    ∀ (users : List String) (acc : BasicAuth), acc.lookup h = some n →
      (∀ u ∈ users, ∀ m, IsUserSpec u m → h = basicAuthKey u → m = n) →
      (users.foldl addUser acc).lookup h = some n
  | [], _, hacc, _ => hacc
  | u :: us, acc, hacc, hall => by
    refine lookup_foldl_addUser_of_some us _ ?_ fun v hv => hall v (List.mem_cons_of_mem u hv)
    by_cases hu : ∃ m, IsUserSpec u m
    · obtain ⟨m, hm⟩ := hu
      rw [addUser_of_isUserSpec hm]
      by_cases hk : h = basicAuthKey u
      · rw [hk, AList.lookup_insert, hall u (List.mem_cons_self u us) m hm hk]
      · rwa [AList.lookup_insert_ne hk]
    · rwa [addUser_of_not (not_exists.mp hu)]

lemma lookup_foldl_addUser {h n : String} :
    ∀ (users : List String) (acc : BasicAuth), (users.foldl addUser acc).lookup h = some n →
      acc.lookup h = some n ∨ ∃ u ∈ users, IsUserSpec u n ∧ h = basicAuthKey u
  | [], _, hl => .inl hl
  | u :: us, acc, hl => by
    rcases lookup_foldl_addUser us _ hl with hacc | ⟨v, hv, hvs⟩
    · by_cases hu : ∃ m, IsUserSpec u m
      · obtain ⟨m, hm⟩ := hu
        rw [addUser_of_isUserSpec hm] at hacc
        by_cases hk : h = basicAuthKey u
        · rw [hk, AList.lookup_insert, Option.some.injEq] at hacc
          exact .inr ⟨u, List.mem_cons_self u us, hacc ▸ hm, hk⟩
        · exact .inl (by rwa [AList.lookup_insert_ne hk] at hacc)
      · exact .inl (by rwa [addUser_of_not (not_exists.mp hu)] at hacc)
    · exact .inr ⟨v, List.mem_cons_of_mem u hv, hvs⟩

/-- **The credential table**: a value is a key of the table exactly when it is the key of a
kept spec, and it maps to that spec's name. -/
theorem lookup_buildBasicAuth (users : List String) (h n : String) :
    (buildBasicAuth users).lookup h = some n ↔
      ∃ u ∈ users, IsUserSpec u n ∧ h = basicAuthKey u := by
  constructor
  · intro hl
    exact (lookup_foldl_addUser users ∅ hl).resolve_left (by simp [AList.lookup_empty])
  · rintro ⟨u, hu, hun, rfl⟩
    obtain ⟨pre, post, rfl⟩ := List.append_of_mem hu
    rw [buildBasicAuth, List.foldl_append, List.foldl_cons]
    refine lookup_foldl_addUser_of_some post _ ?_ fun v _ m hvm hk => ?_
    · rw [addUser_of_isUserSpec hun, AList.lookup_insert]
    · obtain rfl := basicAuthKey_injective hk
      exact hvm.unique hun

/-- The table is empty exactly when no user spec is kept. -/
lemma buildBasicAuth_entries_eq_nil (users : List String) :
    (buildBasicAuth users).entries = [] ↔ ∀ u ∈ users, ∀ n, ¬IsUserSpec u n := by
  constructor
  · intro h u hu n hn
    have := (lookup_buildBasicAuth users (basicAuthKey u) n).mpr ⟨u, hu, hn, rfl⟩
    simp [AList.lookup, h] at this
  · refine fun h => List.eq_nil_iff_forall_not_mem.mpr fun ⟨k, n⟩ hk => ?_
    obtain ⟨u, hu, hun, -⟩ := (lookup_buildBasicAuth users k n).mp (AList.mem_lookup_iff.mpr hk)
    exact h u hu n hun

/-! ### The serving control -/

/-- The allowed networks: parsed only when serving is not prohibited, an entry that is not a
network being dropped with a warning. -/
def allowedNetworks (prohibitServing : Bool) (allowServingNetwork : List String) :
    List IpNetwork :=
  if !prohibitServing && !allowServingNetwork.isEmpty then
    allowServingNetwork.filterMap IpNetwork.fromStr
  else []

/-- The allowed networks are the networks the entries denote, none when serving is
prohibited. -/
lemma mem_allowedNetworks {prohibit : Bool} {l : List String} {n : IpNetwork} :
    n ∈ allowedNetworks prohibit l ↔ prohibit = false ∧ ∃ s ∈ l, IpNetwork.fromStr s = some n := by
  unfold allowedNetworks
  split
  next h =>
    simp only [Bool.and_eq_true, Bool.not_eq_true', List.isEmpty_eq_false] at h
    simp [List.mem_filterMap, h.1]
  next h =>
    simp only [List.not_mem_nil, false_iff, not_and, not_exists]
    rintro rfl s hs -
    cases l
    · simp at hs
    · simp at h

/-- No network is allowed exactly when no entry denotes one, or serving is prohibited. -/
lemma allowedNetworks_eq_nil {prohibit : Bool} {l : List String} :
    allowedNetworks prohibit l = [] ↔ prohibit = true ∨ ∀ s ∈ l, IpNetwork.fromStr s = none := by
  rw [List.eq_nil_iff_forall_not_mem]
  simp only [mem_allowedNetworks, not_and, not_exists]
  cases prohibit
  · simp only [forall_const, Bool.false_eq_true, false_or]
    exact ⟨fun h s hs => Option.eq_none_iff_forall_not_mem.mpr fun n hn => h n s hs hn,
      fun h n s hs hn => by simp [h s hs] at hn⟩
  · simp

/-! ### `Config::try_from` -/

section TryFrom

/- `crate::reverse::parse_reverse_proxy_config`, which reads the reverse-proxy file, is not part
of the source: `Config::try_from` is modelled for every outcome of it. -/
variable (parseReverseProxyConfig :
  Option String → List String → Bool → Except String ReverseProxyConfig)

/-- `Config::try_from`. -/
def Config.tryFrom (param : Param) : Except String Config :=
  let basicAuth := buildBasicAuth param.users
  match parseReverseProxyConfig param.reverseProxyConfigFile param.appendUpstreamUrl
      param.enableGithubProxy with
  | .error e => .error e
  | .ok reverseProxyConfig =>
    let prohibitServing := param.prohibitServing
    .ok { cert := param.cert
          key := param.key
          basicAuth
          webContentPath := param.webContentPath
          refererKeywordsToSelf := param.refererKeywordsToSelf
          neverAskForAuth := param.neverAskForAuth
          servingControl :=
            ⟨prohibitServing, allowedNetworks prohibitServing param.allowServingNetwork⟩
          overTls := param.overTls
          port := param.port
          reverseProxyConfig }

variable {parseReverseProxyConfig} {param : Param}

/-- `Config::try_from` fails exactly when the reverse-proxy configuration does. -/
lemma tryFrom_eq_error {e : String} :
    Config.tryFrom parseReverseProxyConfig param = .error e ↔
      parseReverseProxyConfig param.reverseProxyConfigFile param.appendUpstreamUrl
        param.enableGithubProxy = .error e := by
  unfold Config.tryFrom
  split <;> simp_all

/-- What `Config::try_from` builds. -/
lemma tryFrom_eq_ok {c : Config} (h : Config.tryFrom parseReverseProxyConfig param = .ok c) :
    c.basicAuth = buildBasicAuth param.users ∧ c.neverAskForAuth = param.neverAskForAuth ∧
      c.overTls = param.overTls ∧
      c.servingControl = ⟨param.prohibitServing,
        allowedNetworks param.prohibitServing param.allowServingNetwork⟩ ∧
      parseReverseProxyConfig param.reverseProxyConfigFile param.appendUpstreamUrl
        param.enableGithubProxy = .ok c.reverseProxyConfig := by
  unfold Config.tryFrom at h
  split at h
  · cases h
  · cases h
    simp_all

/-- **The credential table of a configuration.** `Config::try_from` never fails because of a
user spec, and in the configuration it builds a value maps to a name exactly when it is the key
of a spec kept under that name. -/
theorem tryFrom_basicAuth_lookup (parseReverseProxyConfig :
      Option String → List String → Bool → Except String ReverseProxyConfig) (param : Param) :
    (∀ e, Config.tryFrom parseReverseProxyConfig param = .error e ↔
      parseReverseProxyConfig param.reverseProxyConfigFile param.appendUpstreamUrl
        param.enableGithubProxy = .error e) ∧
    ∀ c, Config.tryFrom parseReverseProxyConfig param = .ok c → ∀ h n,
      c.basicAuth.lookup h = some n ↔ ∃ u ∈ param.users, IsUserSpec u n ∧ h = basicAuthKey u :=
  ⟨fun _ => tryFrom_eq_error, fun _ hc h n => (tryFrom_eq_ok hc).1 ▸ lookup_buildBasicAuth _ h n⟩

end TryFrom

end HttpProxy
