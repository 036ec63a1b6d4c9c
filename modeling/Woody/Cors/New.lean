import Woody.Core

/-!
# `cors.New`

`middleware/cors/cors.go`.  `New` resolves its configuration once, precomputes the strings
it will write, and returns a handler that, for every request `Next` does not skip:

1. decides the `Access-Control-Allow-Origin` value from the request's `Origin` header, by
   the first entry of the split `AllowOrigins` list that is `*`, equals the origin, or
   admits it through `matchSubdomain`, with `AllowOriginsFunc` as a fallback
   (`matchOrigin`, `allowOrigin`);
2. on a simple request (any method but `OPTIONS`) varies on `Origin`, writes the value and
   passes the request on;
3. on a preflight request writes the value, the allowed methods and headers, the
   credentials flag and the max age, and answers `204 No Content` itself.

`matchSubdomain` lives in `cors/utils.go`, which is not part of the modelled sources: it is
a parameter of every definition below, and every theorem holds for every such predicate.
The warning `New` logs when both `AllowOrigins` and `AllowOriginsFunc` are set writes
nothing to the response and is not modelled.
-/

namespace Woody
namespace Cors

open Go

/-- `cors.Config`.  The field defaults are Go's zero values, so `{}` is `Config{}`. -/
structure Config where
  /-- `Next`: skip the middleware when it returns true. -/
  next : Option (Request → Bool) := none
  /-- `AllowOriginsFunc`: admit an origin the list did not. -/
  allowOriginsFunc : Option (String → Bool) := none
  allowOrigins : String := ""
  allowMethods : String := ""
  allowHeaders : String := ""
  allowCredentials : Bool := false
  exposeHeaders : String := ""
  maxAge : Int := 0

/-- `ConfigDefault`. -/
def configDefault : Config where
  allowOrigins := "*"
  allowMethods := String.intercalate ","
    [methodGet, methodPost, methodHead, methodPut, methodDelete, methodPatch]

/-- The configuration `New(config...)` runs with: `ConfigDefault` without an argument,
otherwise the first argument with an empty `AllowMethods` or `AllowOrigins` replaced by the
default. -/
def resolveConfig : List Config → Config
  | [] => configDefault
  | cfg :: _ =>
    { cfg with
      allowMethods := if cfg.allowMethods = "" then configDefault.allowMethods else cfg.allowMethods
      allowOrigins := if cfg.allowOrigins = "" then configDefault.allowOrigins else cfg.allowOrigins }

/-- `allowOrigins := strings.Split(strings.ReplaceAll(cfg.AllowOrigins, " ", ""), ",")`. -/
def allowOriginsOf (cfg : Config) : List String := split (replaceAll cfg.allowOrigins ' ') ','

section Handler

variable (matchSubdomain : String → String → Bool)

/-- The `for _, o := range allowOrigins` loop: the first entry that is `*`, that equals the
origin, or that admits it as a subdomain breaks the loop and fixes the value; `""` when no
entry does. -/
def matchOrigin (origin : String) : List String → String
  | [] => ""
  | o :: os =>
    if o = "*" then "*"
    else if o = origin then o
    else if matchSubdomain origin o then origin
    else matchOrigin origin os

/-- The `Access-Control-Allow-Origin` value: the loop's, unless it is `""` or `*` and
`AllowOriginsFunc` accepts the origin, which then replaces it. -/
def allowOrigin (cfg : Config) (origin : String) : String :=
  let a := matchOrigin matchSubdomain origin (allowOriginsOf cfg)
  match cfg.allowOriginsFunc with
  | some f => if (a = "" ∨ a = configDefault.allowOrigins) ∧ f origin = true then origin else a
  | none => a

/-- The handler for a resolved configuration. -/
def handler (cfg : Config) (c : Request) : Outcome :=
  if cfg.next.any (· c) then ⟨[], .next⟩ else
  let ao := allowOrigin matchSubdomain cfg (c.get headerOrigin)
  let exposeHeaders := replaceAll cfg.exposeHeaders ' '
  let allowHeaders := replaceAll cfg.allowHeaders ' '
  let credentials : List Call :=
    if cfg.allowCredentials then [.set headerAccessControlAllowCredentials "true"] else []
  if c.method ≠ methodOptions then
    ⟨[.vary headerOrigin, .set headerAccessControlAllowOrigin ao] ++ credentials ++
      (if exposeHeaders ≠ "" then [.set headerAccessControlExposeHeaders exposeHeaders] else []),
      .next⟩
  else
    ⟨[.vary headerOrigin, .vary headerAccessControlRequestMethod,
        .vary headerAccessControlRequestHeaders, .set headerAccessControlAllowOrigin ao,
        .set headerAccessControlAllowMethods (replaceAll cfg.allowMethods ' ')] ++ credentials ++
      (if allowHeaders ≠ "" then [.set headerAccessControlAllowHeaders allowHeaders]
        else if c.get headerAccessControlRequestHeaders ≠ "" then
          [.set headerAccessControlAllowHeaders (c.get headerAccessControlRequestHeaders)]
        else []) ++
      (if 0 < cfg.maxAge then [.set headerAccessControlMaxAge (toString cfg.maxAge)] else []),
      .sendStatus statusNoContent⟩

/-- `cors.New(config...)`. -/
def new (config : List Config) : Request → Outcome := handler matchSubdomain (resolveConfig config)

end Handler

end Cors
end Woody
