import Mathlib.Data.List.Nodup
import Woody.Chain

/-!
# `helmet.New`: which security headers a response gets

`middleware/helmet/helmet.go` sets response headers from its configuration and passes
every request on.  Eleven of the headers follow one line of the source,

> `if cfg.XSSProtection != "" { c.Set(woody.HeaderXXSSProtection, cfg.XSSProtection) }`

and are one table here (`simpleHeaders`); the other four have shapes of their own:

> `if c.Protocol() == "https" && cfg.HSTSMaxAge != 0 { … c.Set(woody.HeaderStrictTransportSecurity, fmt.Sprintf("max-age=%d%s", cfg.HSTSMaxAge, subdomains)) }`
>
> `if cfg.ContentSecurityPolicy != "" { if cfg.CSPReportOnly { c.Set(woody.HeaderContentSecurityPolicyReportOnly, …) } else { c.Set(woody.HeaderContentSecurityPolicy, …) } }`
>
> `if cfg.PermissionPolicy != "" { c.Set(woody.HeaderPermissionsPolicy, cfg.PermissionPolicy) }`

The handler is `headers` turned into `c.Set` calls, followed by `return c.Next()`.
`configDefault` lives in `helmet/config.go`, which is not among the modelled sources, so the
handler is modelled on a resolved configuration and every theorem holds for every
configuration.

## Results

* `setValues_handler_le_one` --- **every header is set at most once, and never to `""`**,
  for every configuration and request: the fifteen names the handler can write are distinct
  (`nodup_map_fst_headers`), and every value is guarded by a test for `""` or, for HSTS,
  starts with `max-age=` (`ne_empty_of_mem_headers`).
-/

namespace Woody
namespace Helmet

/-- `helmet.Config`, with Go's zero values as defaults. -/
structure Config where
  next : Option (Request → Bool) := none
  xssProtection : String := ""
  contentTypeNosniff : String := ""
  xFrameOptions : String := ""
  hstsMaxAge : Int := 0
  hstsExcludeSubdomains : Bool := false
  contentSecurityPolicy : String := ""
  cspReportOnly : Bool := false
  hstsPreloadEnabled : Bool := false
  referrerPolicy : String := ""
  permissionPolicy : String := ""
  crossOriginEmbedderPolicy : String := ""
  crossOriginOpenerPolicy : String := ""
  crossOriginResourcePolicy : String := ""
  originAgentCluster : String := ""
  xDNSPrefetchControl : String := ""
  xDownloadOptions : String := ""
  xPermittedCrossDomain : String := ""

/-- The eleven headers set by `if v != "" { c.Set(name, v) }`, as (name, field) pairs in the
order of the source. -/
def simpleHeaders (cfg : Config) : List (String × String) :=
  [(headerXXSSProtection, cfg.xssProtection),
    (headerXContentTypeOptions, cfg.contentTypeNosniff),
    (headerXFrameOptions, cfg.xFrameOptions),
    ("Cross-Origin-Embedder-Policy", cfg.crossOriginEmbedderPolicy),
    ("Cross-Origin-Opener-Policy", cfg.crossOriginOpenerPolicy),
    ("Cross-Origin-Resource-Policy", cfg.crossOriginResourcePolicy),
    ("Origin-Agent-Cluster", cfg.originAgentCluster),
    ("Referrer-Policy", cfg.referrerPolicy),
    ("X-DNS-Prefetch-Control", cfg.xDNSPrefetchControl),
    ("X-Download-Options", cfg.xDownloadOptions),
    ("X-Permitted-Cross-Domain-Policies", cfg.xPermittedCrossDomain)]

/-- `fmt.Sprintf("max-age=%d%s", cfg.HSTSMaxAge, subdomains)`, where `subdomains` is
`"; includeSubDomains"` unless `HSTSExcludeSubdomains`, with `"; preload"` appended when
`HSTSPreloadEnabled`. -/
def hstsValue (cfg : Config) : String :=
  let subdomains := if !cfg.hstsExcludeSubdomains then "; includeSubDomains" else ""
  let subdomains := if cfg.hstsPreloadEnabled then subdomains ++ "; preload" else subdomains
  "max-age=" ++ toString cfg.hstsMaxAge ++ subdomains

/-- The four headers after the table, as (name, value) pairs in the order of the source. -/
def otherHeaders (cfg : Config) (c : Request) : List (String × String) :=
  (if c.protocol = "https" ∧ cfg.hstsMaxAge ≠ 0 then
    [(headerStrictTransportSecurity, hstsValue cfg)] else []) ++
  (if cfg.contentSecurityPolicy ≠ "" then
    [(if cfg.cspReportOnly then headerContentSecurityPolicyReportOnly
      else headerContentSecurityPolicy, cfg.contentSecurityPolicy)] else []) ++
  (if cfg.permissionPolicy ≠ "" then [(headerPermissionsPolicy, cfg.permissionPolicy)] else [])

/-- The headers the handler sets, in order, as (name, value) pairs. -/
def headers (cfg : Config) (c : Request) : List (String × String) :=
  (simpleHeaders cfg).filter (·.2 ≠ "") ++ otherHeaders cfg c

/-- The handler `helmet.New` returns, for a resolved configuration. -/
def handler (cfg : Config) (c : Request) : Outcome :=
  if cfg.next.any (· c) then .passOn
  else ⟨(headers cfg c).map fun kv => .set kv.1 kv.2, .next⟩

/-! ## 1.  A run of `c.Set` calls -/

section Sets

variable {l : List (String × String)}

/-- The values a run of `c.Set` calls passes for `k`. -/
theorem setValues_map_set (l : List (String × String)) (e : Ending) (k : String) :
    (Outcome.mk (l.map fun kv => .set kv.1 kv.2) e).setValues k =
      (l.filter (·.1 = k)).map Prod.snd := by
  induction l with
  | nil => rfl
  | cons kv l ih => by_cases h : kv.1 = k <;> simp_all [List.filter_cons]

theorem filter_key_eq_nil {k : String} (hk : k ∉ l.map Prod.fst) : l.filter (·.1 = k) = [] :=
  List.filter_eq_nil_iff.mpr fun kv hkv hkey =>
    hk (List.mem_map.mpr ⟨kv, hkv, of_decide_eq_true hkey⟩)

/-- With distinct names, the pairs of one name are at most one. -/
theorem length_filter_key_le_one (hl : (l.map Prod.fst).Nodup) (k : String) :
    (l.filter (·.1 = k)).length ≤ 1 := by
  induction l with
  | nil => simp
  | cons kv l ih =>
    rw [List.map_cons, List.nodup_cons] at hl
    by_cases h : kv.1 = k
    · subst h
      simp [List.filter_cons, filter_key_eq_nil hl.1]
    · simpa [List.filter_cons, h] using ih hl.2

end Sets

/-! ## 2.  The names and values of `headers` -/

/-- The names of the table. -/
def simpleHeaderNames : List String := (simpleHeaders {}).map Prod.fst

@[simp] theorem map_fst_simpleHeaders (cfg : Config) :
    (simpleHeaders cfg).map Prod.fst = simpleHeaderNames := rfl

/-- The names of the four other headers. -/
def otherHeaderNames : List String :=
  [headerStrictTransportSecurity, headerContentSecurityPolicy,
    headerContentSecurityPolicyReportOnly, headerPermissionsPolicy]

theorem nodup_headerNames : (simpleHeaderNames ++ otherHeaderNames).Nodup := by decide

theorem map_fst_filter_simpleHeaders_sublist (cfg : Config) :
    (((simpleHeaders cfg).filter (·.2 ≠ "")).map Prod.fst).Sublist simpleHeaderNames :=
  map_fst_simpleHeaders cfg ▸ (List.filter_sublist _).map _

theorem map_fst_otherHeaders_sublist (cfg : Config) (c : Request) :
    ((otherHeaders cfg c).map Prod.fst).Sublist otherHeaderNames := by
  show List.Sublist _ ([headerStrictTransportSecurity] ++
    ([headerContentSecurityPolicy, headerContentSecurityPolicyReportOnly] ++
      [headerPermissionsPolicy]))
  simp only [otherHeaders, List.map_append, List.append_assoc]
  refine .append ?_ (.append ?_ ?_) <;> split_ifs <;> simp

/-- The handler writes no name twice. -/
theorem nodup_map_fst_headers (cfg : Config) (c : Request) :
    ((headers cfg c).map Prod.fst).Nodup := by
  rw [headers, List.map_append]
  exact ((map_fst_filter_simpleHeaders_sublist cfg).append
    (map_fst_otherHeaders_sublist cfg c)).nodup nodup_headerNames

theorem hstsValue_ne_empty (cfg : Config) : hstsValue cfg ≠ "" := fun h => by
  have hpre : "max-age=".data ≠ [] := by decide
  simpa [hstsValue, hpre] using congrArg String.data h

/-- The handler writes no empty value. -/
theorem ne_empty_of_mem_headers {cfg : Config} {c : Request} {kv : String × String}
    (h : kv ∈ headers cfg c) : kv.2 ≠ "" := by
  simp only [headers, otherHeaders, List.mem_append, List.mem_filter] at h
  rcases h with ⟨-, h⟩ | ((h | h) | h)
  · simpa using h
  all_goals split_ifs at h with hc <;> simp only [List.mem_singleton, List.not_mem_nil] at h
  · exact h ▸ hstsValue_ne_empty cfg
  all_goals exact h ▸ hc

/-- Unless `Next` skips the request, the handler's values for `k` are those of `headers`. -/
theorem setValues_handler (cfg : Config) (c : Request) (k : String) :
    (handler cfg c).setValues k =
      if cfg.next.any (· c) then [] else ((headers cfg c).filter (·.1 = k)).map Prod.snd := by
  unfold handler
  split_ifs
  · rfl
  · exact setValues_map_set _ _ _

/-! ## 3.  What the handler writes -/

/-- **Every header is set at most once, and never to `""`.** -/
theorem setValues_handler_le_one (cfg : Config) (c : Request) (k : String) :
    (handler cfg c).setValues k = [] ∨ ∃ v, v ≠ "" ∧ (handler cfg c).setValues k = [v] := by
  rw [setValues_handler]
  split_ifs
  · exact .inl rfl
  · have hle := length_filter_key_le_one (nodup_map_fst_headers cfg c) k
    have hmem : ∀ kv ∈ (headers cfg c).filter (·.1 = k), kv ∈ headers cfg c :=
      fun _ h => List.mem_of_mem_filter h
    generalize (headers cfg c).filter (·.1 = k) = l at hle hmem ⊢
    match l, hle with
    | [], _ => exact .inl rfl
    | [kv], _ => exact .inr ⟨kv.2, ne_empty_of_mem_headers (hmem kv (.head _)), rfl⟩
    | _ :: _ :: _, h => exact absurd h (by simp)

end Helmet
end Woody
