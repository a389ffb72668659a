import Snip36.Support.Distinct
import Snip36.Support.Fallible

/-!
# Rpc — the origins a browser may call from

The origins of the configuration are parsed and put in one form, `<scheme>://<host>[:port]`, each
once; a `*` among them stands for all and the others are not looked at.  The URLs are parsed by a
crate, of which `UrlParser.Documented` is assumed.

`normalizeCorsAllowOrigins_canonical`: what is accepted is in canonical form.  Two origins have one
entry exactly when they have the same scheme, host and port; the entries are their own normal forms,
and are accepted as header values.
-/

namespace Snip36.Rpc
open Support

/-- `ConfigError`. -/
inductive ConfigError where
  | configFileError (msg : String)
  | invalidArgument (msg : String)
  | missingRequiredField (msg : String)
  | incompleteTlsConfig (msg : String)
  deriving DecidableEq

/-- `ConfigError::to_string`. -/
def ConfigError.toString : ConfigError → String
  | .configFileError msg => "Configuration file error: " ++ msg
  | .invalidArgument msg => "Invalid argument: " ++ msg
  | .missingRequiredField msg => "Missing required field: " ++ msg
  | .incompleteTlsConfig msg => "Incomplete TLS configuration: " ++ msg

/-! ### URLs -/

/-- `Url`, as far as it is read. -/
structure Url where
  scheme : String
  username : String
  password : Option String
  host : Option String
  port : Option ℕ
  path : String
  query : Option String
  fragment : Option String
  deriving DecidableEq

/-- The crate that parses URLs: `Url::parse`, with the texts of its errors. -/
structure UrlParser where
  parse : String → Except String Url

/-- `matches!(scheme, "http" | "https")`. -/
def IsWeb (scheme : String) : Prop := scheme = "http" ∨ scheme = "https"

instance (scheme : String) : Decidable (IsWeb scheme) := inferInstanceAs (Decidable (_ ∨ _))

/-- `is_default_port`. -/
def IsDefaultPort (scheme : String) (port : ℕ) : Prop :=
  (scheme = "http" ∧ port = 80) ∨ (scheme = "https" ∧ port = 443)

instance (scheme : String) (port : ℕ) : Decidable (IsDefaultPort scheme port) :=
  inferInstanceAs (Decidable (_ ∨ _))

/-- `[:port]`. -/
def portSuffix : Option ℕ → String
  | none => ""
  | some port => ":" ++ toString port

/-- `<scheme>://<host>[:port]`. -/
def originOf (scheme host : String) (port : Option ℕ) : String :=
  scheme ++ "://" ++ host ++ portSuffix port

/-- What is documented of the crate, for the schemes of the web. -/
structure UrlParser.Documented (url : UrlParser) : Prop where
  /-- A host is in visible ASCII. -/
  host_visible : ∀ {text : String} {u : Url} {host : String}, url.parse text = .ok u →
    IsWeb u.scheme → u.host = some host → ∀ c ∈ host.toList, 33 ≤ c.toNat ∧ c.toNat ≤ 126
  /-- The default port of the scheme is not given. -/
  port_ne_default : ∀ {text : String} {u : Url} {port : ℕ}, url.parse text = .ok u →
    u.port = some port → ¬ IsDefaultPort u.scheme port
  /-- A scheme, a host and a port are parsed to themselves. -/
  parse_origin : ∀ {text : String} {u : Url} {host : String}, url.parse text = .ok u →
    IsWeb u.scheme → u.host = some host →
    url.parse (originOf u.scheme host u.port) = .ok
      { scheme := u.scheme, username := "", password := none, host := some host, port := u.port,
        path := "/", query := none, fragment := none }

/-! ### Normalising -/

/-- The error for an origin. -/
def invalidOrigin (corsAllowOrigin reason : String) : ConfigError :=
  .invalidArgument ("Invalid cors_allow_origin '" ++ corsAllowOrigin ++ "': " ++ reason)

/-- The text of an origin. -/
def normalizedOrigin (parsed : Url) (host : String) : String :=
  let normalized := parsed.scheme ++ "://" ++ host
  match parsed.port with
  | none => normalized
  | some port =>
      if IsDefaultPort parsed.scheme port then normalized
      else normalized ++ ":" ++ toString port

/-- `normalize_cors_allow_origin`. -/
def normalizeCorsAllowOrigin (url : UrlParser) (corsAllowOrigin : String) :
    Except ConfigError String := do
  let parsed ← (url.parse corsAllowOrigin).mapError (invalidOrigin corsAllowOrigin)
  failIf (¬ IsWeb parsed.scheme)
    (invalidOrigin corsAllowOrigin "only http:// and https:// are supported.")
  let host ← okOr parsed.host (invalidOrigin corsAllowOrigin "host is required.")
  failIf (parsed.username ≠ "" ∨ parsed.password ≠ none)
    (invalidOrigin corsAllowOrigin "userinfo is not supported.")
  failIf (parsed.path ≠ "/" ∨ parsed.query ≠ none ∨ parsed.fragment ≠ none)
    (invalidOrigin corsAllowOrigin ("must be '*' or '<scheme>://<host>[:port]' without a path, "
      ++ "query, or fragment."))
  pure (normalizedOrigin parsed host)

/-- `normalize_cors_allow_origins`. -/
def normalizeCorsAllowOrigins (url : UrlParser) (corsAllowOrigins : List String) :
    Except ConfigError (List String) :=
  if "*" ∈ corsAllowOrigins then .ok ["*"]
  else
    corsAllowOrigins.foldlM (fun normalizedAllowOrigins corsAllowOrigin => do
      let normalizedAllowOrigin ← normalizeCorsAllowOrigin url corsAllowOrigin
      pure (pushNew normalizedAllowOrigins normalizedAllowOrigin)) []

/-! ### The layer -/

/-- A character of a header value. -/
def isHeaderChar (c : Char) : Bool := (32 ≤ c.toNat && c.toNat < 127) || c == '\t'

/-- `HeaderValue`. -/
abbrev HeaderValue := { text : String // text.toList.all isHeaderChar }

/-- `HeaderValue::from_str`. -/
def HeaderValue.fromStr (text : String) : Option HeaderValue :=
  if h : text.toList.all isHeaderChar then some ⟨text, h⟩ else none

/-- `AllowOrigin`. -/
inductive AllowOrigin where
  | any
  | list (values : List HeaderValue)

/-- `AllowOrigin::list`. -/
def AllowOrigin.ofList (values : List HeaderValue) : Fallible String AllowOrigin := do
  require ("*" ∉ values.map Subtype.val)
    ("Wildcard origin (`*`) cannot be passed to `AllowOrigin::list`. "
      ++ "Use `AllowOrigin::any()` instead")
  pure (.list values)

/-- `CorsLayer`. -/
structure CorsLayer where
  allowOrigin : AllowOrigin
  allowMethods : List String
  allowHeaders : List String

/-- The layer for some origins. -/
def corsLayer (allowOrigin : AllowOrigin) : CorsLayer where
  allowOrigin := allowOrigin
  allowMethods := ["POST"]
  allowHeaders := ["content-type"]

/-- `build_cors_layer`. -/
def buildCorsLayer (normalizedCorsAllowOrigin : List String) :
    Fallible String (Option CorsLayer) :=
  if normalizedCorsAllowOrigin = [] then .ok none
  else do
    let allowOrigin ←
      if normalizedCorsAllowOrigin = ["*"] then pure AllowOrigin.any
      else do
        let headerValues ← normalizedCorsAllowOrigin.mapM fun origin =>
          orErr id (okOr (HeaderValue.fromStr origin)
            ("Invalid cors_allow_origin header value '" ++ origin ++ "'"))
        AllowOrigin.ofList headerValues
    pure (some (corsLayer allowOrigin))

/-- `cors_mode`. -/
def corsMode : List String → String
  | [] => "disabled"
  | [single] => if single = "*" then "wildcard" else "allowlist"
  | _ => "allowlist"

/-! ### The canonical form -/

/-- `Url::port_or_known_default`. -/
def Url.effectivePort (u : Url) : Option ℕ :=
  u.port.or (if u.scheme = "http" then some 80 else if u.scheme = "https" then some 443 else none)

/-- Two texts are URLs of the same scheme, host and port. -/
def SameOrigin (url : UrlParser) (origin origin' : String) : Prop :=
  ∃ u v, url.parse origin = .ok u ∧ url.parse origin' = .ok v ∧ u.scheme = v.scheme ∧
    u.host = v.host ∧ u.effectivePort = v.effectivePort

/-- A URL with a scheme, a host and maybe a port, and nothing else. -/
structure Url.IsBare (u : Url) (host : String) : Prop where
  web : IsWeb u.scheme
  host : u.host = some host
  username : u.username = ""
  password : u.password = none
  path : u.path = "/"
  query : u.query = none
  fragment : u.fragment = none

/-- The text of a scheme, a host and maybe a port that is not the scheme's own. -/
def IsOriginText (url : UrlParser) (text : String) : Prop :=
  ∃ u host, url.parse text = .ok u ∧ u.IsBare host ∧ text = originOf u.scheme host u.port ∧
    ∀ port, u.port = some port → ¬ IsDefaultPort u.scheme port

/-- What the normalised origins are. -/
structure Canonical (url : UrlParser) (origins normalized : List String) : Prop where
  wildcard : normalized = ["*"] ↔ "*" ∈ origins
  ordered : "*" ∉ origins → ∃ entries,
    List.Forall₂ (fun origin entry => normalizeCorsAllowOrigin url origin = .ok entry)
      origins entries ∧ FirstOccurrences entries normalized
  shared : "*" ∉ origins → ∀ origin ∈ origins, ∀ origin' ∈ origins,
    ((∃ entry ∈ normalized, normalizeCorsAllowOrigin url origin = .ok entry ∧
      normalizeCorsAllowOrigin url origin' = .ok entry) ↔ SameOrigin url origin origin')
  bare : "*" ∉ origins → ∀ entry ∈ normalized, IsOriginText url entry
  again : normalizeCorsAllowOrigins url normalized = .ok normalized
  layer : ∃ layer, buildCorsLayer normalized = .ok layer
  mode : corsMode normalized = "wildcard" → "*" ∈ origins

/-! ### One origin -/

/-- What is accepted, and as what. -/
theorem normalizeCorsAllowOrigin_eq_ok {url : UrlParser} {origin entry : String} :
    normalizeCorsAllowOrigin url origin = .ok entry ↔
      ∃ u host, url.parse origin = .ok u ∧ u.IsBare host ∧ normalizedOrigin u host = entry := by
  rw [normalizeCorsAllowOrigin]
  simp only [bind_eq_ok, mapError_eq_ok, okOr_eq_ok, pure_eq_ok]
  constructor
  · rintro ⟨u, hparse, ⟨⟩, hscheme, host, hhost, ⟨⟩, huser, ⟨⟩, hrest, hentry⟩
    have huser := not_or.mp (failIf_eq_ok.mp huser)
    have hrest := not_or.mp (failIf_eq_ok.mp hrest)
    have hrest' := not_or.mp hrest.2
    exact ⟨u, host, hparse,
      { web := not_not.mp (failIf_eq_ok.mp hscheme)
        host := hhost
        username := not_not.mp huser.1
        password := not_not.mp huser.2
        path := not_not.mp hrest.1
        query := not_not.mp hrest'.1
        fragment := not_not.mp hrest'.2 }, hentry⟩
  · rintro ⟨u, host, hparse, hbare, hentry⟩
    refine ⟨u, hparse, (), failIf_eq_ok.mpr (not_not.mpr hbare.web), host, hbare.host, (),
      failIf_eq_ok.mpr ?_, (), failIf_eq_ok.mpr ?_, hentry⟩
    · simp [hbare.username, hbare.password]
    · simp [hbare.path, hbare.query, hbare.fragment]

namespace UrlParser.Documented

variable {url : UrlParser} {origin origin' entry entry' : String} {u : Url} {host : String}

theorem normalizedOrigin_eq (hurl : url.Documented) (hparse : url.parse origin = .ok u) :
    normalizedOrigin u host = originOf u.scheme host u.port := by
  cases hport : u.port with
  | none => simp [normalizedOrigin, originOf, portSuffix, hport]
  | some port =>
      simp [normalizedOrigin, originOf, portSuffix, hport, hurl.port_ne_default hparse hport,
        String.append_assoc]

/-- The URL of an entry is that of its origin. -/
theorem parse_entry (hurl : url.Documented) (hparse : url.parse origin = .ok u)
    (hbare : u.IsBare host) : url.parse (originOf u.scheme host u.port) = .ok u := by
  rw [hurl.parse_origin hparse hbare.web hbare.host]
  obtain ⟨hweb, hhost, husername, hpassword, hpath, hquery, hfragment⟩ := hbare
  cases u
  simp_all

/-- An entry is its own normal form. -/
theorem normalize_entry (hurl : url.Documented)
    (h : normalizeCorsAllowOrigin url origin = .ok entry) :
    normalizeCorsAllowOrigin url entry = .ok entry := by
  obtain ⟨u, host, hparse, hbare, rfl⟩ := normalizeCorsAllowOrigin_eq_ok.mp h
  refine normalizeCorsAllowOrigin_eq_ok.mpr ⟨u, host, ?_, hbare, rfl⟩
  rw [hurl.normalizedOrigin_eq hparse]
  exact hurl.parse_entry hparse hbare

theorem isOriginText (hurl : url.Documented) (h : normalizeCorsAllowOrigin url origin = .ok entry) :
    IsOriginText url entry := by
  obtain ⟨u, host, hparse, hbare, rfl⟩ := normalizeCorsAllowOrigin_eq_ok.mp h
  rw [hurl.normalizedOrigin_eq hparse]
  exact ⟨u, host, hurl.parse_entry hparse hbare, hbare, rfl,
    fun port hport => hurl.port_ne_default hparse hport⟩

/-- The port of a URL of the web, from its effective port. -/
theorem port_eq (hurl : url.Documented) (hparse : url.parse origin = .ok u)
    (hweb : IsWeb u.scheme) :
    u.port = u.effectivePort.filter fun port => ¬ IsDefaultPort u.scheme port := by
  cases hport : u.port with
  | none =>
      rcases hweb with hweb | hweb <;>
        simp [Url.effectivePort, hport, hweb, IsDefaultPort, Option.filter]
  | some port =>
      have hne := hurl.port_ne_default hparse hport
      simp [Url.effectivePort, hport, hne, Option.filter]

/-- **Two origins have one entry exactly when they are the same origin.** -/
theorem entry_eq_iff (hurl : url.Documented) (h : normalizeCorsAllowOrigin url origin = .ok entry)
    (h' : normalizeCorsAllowOrigin url origin' = .ok entry') :
    entry = entry' ↔ SameOrigin url origin origin' := by
  obtain ⟨u, host, hu, hbare, rfl⟩ := normalizeCorsAllowOrigin_eq_ok.mp h
  obtain ⟨v, host', hv, hbare', rfl⟩ := normalizeCorsAllowOrigin_eq_ok.mp h'
  rw [hurl.normalizedOrigin_eq hu, hurl.normalizedOrigin_eq hv]
  constructor
  · intro heq
    have hparse := hurl.parse_entry hu hbare
    rw [heq, hurl.parse_entry hv hbare'] at hparse
    obtain rfl := Except.ok.inj hparse
    exact ⟨v, v, hu, hv, rfl, rfl, rfl⟩
  · rintro ⟨u', v', hu', hv', hscheme, hhost, hport⟩
    obtain rfl := Except.ok.inj (hu.symm.trans hu')
    obtain rfl := Except.ok.inj (hv.symm.trans hv')
    have hhost' : host = host' := by
      rw [hbare.host, hbare'.host] at hhost
      exact Option.some.inj hhost
    rw [hurl.port_eq hu hbare.web, hurl.port_eq hv hbare'.web, hscheme, hhost', hport]

/-! ### Header values -/

theorem isHeaderChar_of_isDigit {c : Char} (h : c.isDigit = true) : isHeaderChar c = true := by
  have hrange : 48 ≤ c.toNat ∧ c.toNat ≤ 57 := by
    simpa [Char.isDigit, UInt32.le_iff_toNat_le] using h
  rw [isHeaderChar, Bool.or_eq_true, Bool.and_eq_true, decide_eq_true_iff, decide_eq_true_iff]
  omega

/-- An entry is accepted as a header value. -/
theorem isHeaderValue (hurl : url.Documented)
    (h : normalizeCorsAllowOrigin url origin = .ok entry) :
    entry.toList.all isHeaderChar = true := by
  obtain ⟨u, host, hparse, hbare, rfl⟩ := normalizeCorsAllowOrigin_eq_ok.mp h
  have hhost : host.toList.all isHeaderChar = true := by
    refine List.all_eq_true.mpr fun c hc => ?_
    have hvisible := hurl.host_visible hparse hbare.web hbare.host c hc
    rw [isHeaderChar, Bool.or_eq_true, Bool.and_eq_true, decide_eq_true_iff, decide_eq_true_iff]
    omega
  have hport : (portSuffix u.port).toList.all isHeaderChar = true := by
    cases u.port with
    | none => rfl
    | some port =>
        have hdigits : (toString port).toList.all isHeaderChar = true := by
          refine List.all_eq_true.mpr fun c hc => isHeaderChar_of_isDigit ?_
          rw [Nat.toString_eq_repr, Nat.toList_repr] at hc
          exact Nat.isDigit_of_mem_toDigits (by norm_num) (by norm_num) hc
        rw [portSuffix, String.toList_append, List.all_append, hdigits]
        rfl
  have hscheme : (u.scheme ++ "://").toList.all isHeaderChar = true := by
    rcases hbare.web with hweb | hweb
    · rw [hweb]
      decide +kernel
    · rw [hweb]
      decide +kernel
  rw [hurl.normalizedOrigin_eq hparse, originOf, String.toList_append, String.toList_append,
    List.all_append, List.all_append, hscheme, hhost, hport]
  rfl

/-- An entry is not a wildcard. -/
theorem entry_ne_wildcard (hurl : url.Documented)
    (h : normalizeCorsAllowOrigin url origin = .ok entry) : entry ≠ "*" := by
  obtain ⟨u, host, hparse, hbare, rfl⟩ := normalizeCorsAllowOrigin_eq_ok.mp h
  rw [hurl.normalizedOrigin_eq hparse, originOf]
  intro heq
  have hlength := congrArg String.length heq
  have hmark : ("://" : String).length = 3 := rfl
  rw [String.length_append, String.length_append, String.length_append, hmark] at hlength
  have hstar : ("*" : String).length = 1 := rfl
  omega

end UrlParser.Documented

/-! ### All origins -/

/-- What is accepted without a wildcard: the entries, each once. -/
theorem normalizeCorsAllowOrigins_eq_ok {url : UrlParser} {origins normalized : List String}
    (hstar : "*" ∉ origins) :
    normalizeCorsAllowOrigins url origins = .ok normalized ↔
      ∃ entries,
        List.Forall₂ (fun origin entry => normalizeCorsAllowOrigin url origin = .ok entry)
          origins entries ∧ distinct entries = normalized := by
  have hloop : ∀ (origins seen normalized : List String),
      origins.foldlM (fun seen origin => do
          let entry ← normalizeCorsAllowOrigin url origin
          pure (pushNew seen entry)) seen = .ok normalized ↔
        ∃ entries,
          List.Forall₂ (fun origin entry => normalizeCorsAllowOrigin url origin = .ok entry)
            origins entries ∧ entries.foldl pushNew seen = normalized := by
    intro origins
    induction origins with
    | nil =>
        intro seen normalized
        rw [List.foldlM_nil, pure_eq_ok]
        simp [List.forall₂_nil_left_iff]
    | cons origin origins ih =>
        intro seen normalized
        rw [List.foldlM_cons, bind_eq_ok]
        simp only [bind_eq_ok, pure_eq_ok, ih, List.forall₂_cons_left_iff]
        constructor
        · rintro ⟨_, ⟨entry, hentry, rfl⟩, entries, hentries, rfl⟩
          exact ⟨entry :: entries, ⟨entry, entries, hentry, hentries, rfl⟩, rfl⟩
        · rintro ⟨_, ⟨entry, entries, hentry, hentries, rfl⟩, rfl⟩
          exact ⟨_, ⟨entry, hentry, rfl⟩, entries, hentries, rfl⟩
  rw [normalizeCorsAllowOrigins, if_neg hstar]
  exact hloop origins [] normalized

/-- A list of header values makes a layer. -/
theorem exists_buildCorsLayer {origins : List String}
    (hvalues : ∀ origin ∈ origins, origin.toList.all isHeaderChar = true)
    (hstar : "*" ∉ origins) : ∃ layer, buildCorsLayer origins = .ok layer := by
  have hwild : origins ≠ ["*"] := fun heq => hstar (heq ▸ List.mem_cons_self)
  by_cases hnil : origins = []
  · exact ⟨none, if_pos hnil⟩
  obtain ⟨values, hall⟩ : ∃ values,
      List.Forall₂ (fun origin value => HeaderValue.fromStr origin = some value)
        origins values :=
    exists_forall₂ fun origin horigin =>
      ⟨⟨origin, hvalues origin horigin⟩, dif_pos (hvalues origin horigin)⟩
  have hvalue : values.map Subtype.val = origins := by
    clear hstar hvalues hwild hnil
    induction hall with
    | nil => rfl
    | cons hvalue _ ih =>
        rw [HeaderValue.fromStr] at hvalue
        split at hvalue
        · obtain rfl := Option.some.inj hvalue
          rw [List.map_cons, ih]
        · cases hvalue
  have hmap : (origins.mapM fun origin =>
      orErr id (okOr (HeaderValue.fromStr origin)
        ("Invalid cors_allow_origin header value '" ++ origin ++ "'"))) = .ok values := by
    refine mapM_eq_ok.mpr (hall.imp fun origin value hvalue => ?_)
    rw [orErr_eq_ok, okOr_eq_ok, hvalue]
  have hlist : AllowOrigin.ofList values = .ok (.list values) := by
    rw [AllowOrigin.ofList, hvalue, require_of hstar]
    rfl
  refine ⟨some (corsLayer (.list values)), ?_⟩
  rw [buildCorsLayer, if_neg hnil]
  simp only [if_neg hwild]
  rw [hmap]
  change (AllowOrigin.ofList values >>= _) = _
  rw [hlist]
  rfl

theorem corsMode_eq_wildcard {origins : List String} (h : corsMode origins = "wildcard") :
    origins = ["*"] := by
  match origins with
  | [] => exact absurd h (by decide)
  | [single] =>
      rw [corsMode] at h
      split at h
      · next hsingle => rw [hsingle]
      · exact absurd h (by decide)
  | _ :: _ :: _ =>
      have hallowlist : "allowlist" = "wildcard" := h
      exact absurd hallowlist (by decide)

/-- **What is accepted is in canonical form.** -/
theorem normalizeCorsAllowOrigins_canonical {url : UrlParser} (hurl : url.Documented)
    {origins normalized : List String}
    (h : normalizeCorsAllowOrigins url origins = .ok normalized) :
    Canonical url origins normalized := by
  by_cases hstar : "*" ∈ origins
  · rw [normalizeCorsAllowOrigins, if_pos hstar] at h
    obtain rfl := Except.ok.inj h
    exact
      { wildcard := iff_of_true rfl hstar
        ordered := fun hno => absurd hstar hno
        shared := fun hno => absurd hstar hno
        bare := fun hno => absurd hstar hno
        again := rfl
        layer := ⟨_, rfl⟩
        mode := fun _ => hstar }
  · obtain ⟨entries, hentries, rfl⟩ := (normalizeCorsAllowOrigins_eq_ok hstar).mp h
    have hfirst := firstOccurrences_distinct entries
    have hof : ∀ entry ∈ distinct entries, ∃ origin ∈ origins,
        normalizeCorsAllowOrigin url origin = .ok entry :=
      fun entry hentry => exists_left_of_forall₂ hentries ((hfirst.mem_iff entry).mp hentry)
    have hnostar : "*" ∉ distinct entries := by
      intro hmem
      obtain ⟨origin, -, horigin⟩ := hof "*" hmem
      exact hurl.entry_ne_wildcard horigin rfl
    have hnowild : distinct entries ≠ ["*"] := fun heq => hnostar (heq ▸ List.mem_cons_self)
    exact
      { wildcard := iff_of_false hnowild hstar
        ordered := fun _ => ⟨entries, hentries, hfirst⟩
        shared := by
          intro _ origin horigin origin' horigin'
          obtain ⟨entry, hentry, hnorm⟩ := exists_right_of_forall₂ hentries horigin
          obtain ⟨entry', -, hnorm'⟩ := exists_right_of_forall₂ hentries horigin'
          rw [← hurl.entry_eq_iff hnorm hnorm']
          constructor
          · rintro ⟨shared, -, hshared, hshared'⟩
            rw [hnorm] at hshared
            rw [hnorm'] at hshared'
            exact (Except.ok.inj hshared).trans (Except.ok.inj hshared').symm
          · rintro rfl
            exact ⟨entry, (hfirst.mem_iff entry).mpr hentry, hnorm, hnorm'⟩
        bare := by
          intro _ entry hentry
          obtain ⟨origin, -, horigin⟩ := hof entry hentry
          exact hurl.isOriginText horigin
        again := by
          refine (normalizeCorsAllowOrigins_eq_ok hnostar).mpr
            ⟨distinct entries, List.forall₂_same.mpr fun entry hentry => ?_,
              distinct_eq_self hfirst.nodup⟩
          obtain ⟨origin, -, horigin⟩ := hof entry hentry
          exact hurl.normalize_entry horigin
        layer := by
          refine exists_buildCorsLayer (fun entry hentry => ?_) hnostar
          obtain ⟨origin, -, horigin⟩ := hof entry hentry
          exact hurl.isHeaderValue horigin
        mode := fun hmode => absurd (corsMode_eq_wildcard hmode) hnowild }

/-! ### Three origins -/

/-- A URL of the web without a path. -/
def bareUrl (scheme host : String) (port : Option ℕ) : Url where
  scheme := scheme
  username := ""
  password := none
  host := some host
  port := port
  path := "/"
  query := none
  fragment := none

/-- A parser of the URLs of two origins. -/
def sampleParser : UrlParser where
  parse text :=
    if text = "https://example.com:443/" ∨ text = "https://example.com" then
      .ok (bareUrl "https" "example.com" none)
    else if text = "http://localhost:5173" then .ok (bareUrl "http" "localhost" (some 5173))
    else .error "relative URL without a base"

theorem sampleParser_eq_ok {text : String} {u : Url} (h : sampleParser.parse text = .ok u) :
    u = bareUrl "https" "example.com" none ∨ u = bareUrl "http" "localhost" (some 5173) := by
  rw [sampleParser] at h
  dsimp only at h
  split_ifs at h
  · exact .inl (Except.ok.inj h).symm
  · exact .inr (Except.ok.inj h).symm

theorem documented_sampleParser : sampleParser.Documented where
  host_visible := by
    intro text u host hparse _ hhost c hc
    have hall : (("example.com".toList ++ "localhost".toList).all
        fun c => 33 ≤ c.toNat && c.toNat ≤ 126) = true := by decide +kernel
    have hmem : c ∈ "example.com".toList ++ "localhost".toList := by
      rcases sampleParser_eq_ok hparse with rfl | rfl
      · obtain rfl := Option.some.inj hhost
        exact List.mem_append_left _ hc
      · obtain rfl := Option.some.inj hhost
        exact List.mem_append_right _ hc
    have := List.all_eq_true.mp hall c hmem
    rwa [Bool.and_eq_true, decide_eq_true_iff, decide_eq_true_iff] at this
  port_ne_default := by
    intro text u port hparse hport
    rcases sampleParser_eq_ok hparse with rfl | rfl
    · cases hport
    · obtain rfl := Option.some.inj hport
      decide
  parse_origin := by
    intro text u host hparse _ hhost
    rcases sampleParser_eq_ok hparse with rfl | rfl
    · obtain rfl := Option.some.inj hhost
      decide +kernel
    · obtain rfl := Option.some.inj hhost
      decide +kernel

/-- The spellings of two origins. -/
theorem normalizeCorsAllowOrigins_canonical_sample :
    Canonical sampleParser
      ["https://example.com:443/", "http://localhost:5173", "https://example.com"]
      ["https://example.com", "http://localhost:5173"] :=
  normalizeCorsAllowOrigins_canonical documented_sampleParser (by decide +kernel)

end Snip36.Rpc
