import Woody.Chain

/-!
# `favicon.New` and `expvar.New`: the middleware that answers one path

Both middlewares own one path, answer the requests to it themselves, and hand every other
request on untouched.

`middleware/favicon/favicon.go` loads an icon once, when `New` runs, and then answers its
`URL`:

> `if c.Method() != woody.MethodGet && c.Method() != woody.MethodHead { … c.Set(woody.HeaderAllow, hAllow); c.Set(woody.HeaderContentLength, hZero); return nil }`
>
> `if len(icon) > 0 { c.Set(woody.HeaderContentLength, iconLen); …; return c.Status(woody.StatusOK).Send(icon) }`
>
> `return c.SendStatus(woody.StatusNoContent)`

`iconLen` is computed when the icon is loaded, `strconv.Itoa(len(icon))`, and the icon is
read from the configured `FileSystem` or, without one, with `os.ReadFile` (the parameter
`readFile`); a failing read panics in `New`.

`middleware/expvar/expvar.go` serves `/debug/vars` and redirects the paths below it:

> `if len(path) < 11 || !strings.HasPrefix(path, "/debug/vars") { return c.Next() }`
> `if path == "/debug/vars" { expvarhandler.ExpvarHandler(c.Context()); return nil }`
> `return c.Redirect("/debug/vars", woody.StatusFound)`

`expvar/config.go` is not among the modelled sources, so the expvar handler is modelled on a
resolved configuration.

## Results

* `setValues_favicon_contentLength` --- **the `Content-Length` favicon writes is the length of
  the body it sends with it**, on every path of the handler: `0` with the `Allow` answer, and
  the icon's length, computed at load time, with the icon; every default passes its own
  check (`resolveConfig_ne_empty`: the `URL` and `Cache-Control` it runs with are never empty);
* `runChain_expvar` --- **the `len(path) < 11` test is dead** (`expvar_handler_eq`: a path
  with the prefix `/debug/vars` is at least 11 bytes long), so in any chain expvar drops out
  exactly for the requests `Next` skips and the paths without the prefix.
-/

namespace Woody

open Go

namespace Favicon

/-- `favicon.Config`, with Go's zero values as defaults. -/
structure Config where
  next : Option (Request → Bool) := none
  file : String := ""
  url : String := ""
  /-- `FileSystem`: its `Open` followed by `io.ReadAll`, `none` inside when either fails. -/
  fileSystem : Option (String → Option (List UInt8)) := none
  cacheControl : String := ""

def fPath : String := "/favicon.ico"
def hType : String := "image/x-icon"
def hAllow : String := "GET, HEAD, OPTIONS"
def hZero : String := "0"

/-- `ConfigDefault`. -/
def configDefault : Config where
  url := fPath
  cacheControl := "public, max-age=31536000"

/-- The configuration `New(config...)` runs with: `ConfigDefault` without an argument,
otherwise the first argument with its nil or empty fields replaced by the default's. -/
def resolveConfig : List Config → Config
  | [] => configDefault
  | cfg :: _ =>
    { cfg with
      next := cfg.next.or configDefault.next
      url := if cfg.url = "" then configDefault.url else cfg.url
      file := if cfg.file = "" then configDefault.file else cfg.file
      cacheControl := if cfg.cacheControl = "" then configDefault.cacheControl else cfg.cacheControl }

/-- The icon `New` loads, `none` when the read panics: nothing without a `File`, otherwise
the file read from `FileSystem` when it is set and from the disk when it is not. -/
def loadIcon (readFile : String → Option (List UInt8)) (cfg : Config) : Option (List UInt8) :=
  if cfg.file ≠ "" then
    match cfg.fileSystem with
    | some fs => fs cfg.file
    | none => readFile cfg.file
  else some []

/-- The handler `New` returns, for the resolved configuration, the loaded icon and
`iconLen`. -/
def handler (cfg : Config) (icon : List UInt8) (iconLen : String) (c : Request) : Outcome :=
  if cfg.next.any (· c) then .passOn
  else if c.path ≠ cfg.url then .passOn
  else if c.method ≠ methodGet ∧ c.method ≠ methodHead then
    ⟨[.status (if c.method ≠ methodOptions then statusMethodNotAllowed else statusOK),
      .set headerAllow hAllow, .set headerContentLength hZero], .done⟩
  else if 0 < icon.length then
    ⟨[.set headerContentLength iconLen, .set headerContentType hType,
      .set headerCacheControl cfg.cacheControl, .status statusOK], .send icon⟩
  else ⟨[], .sendStatus statusNoContent⟩

/-- `favicon.New(config...)`: `none` when loading the icon panics. -/
def new (readFile : String → Option (List UInt8)) (config : List Config) : Option Handler :=
  let cfg := resolveConfig config
  (loadIcon readFile cfg).map fun icon =>
    handler cfg icon (if cfg.file ≠ "" then toString icon.length else "")

/-- The body a run sends with `c.Send`; none for the other endings, whose bodies, if any,
are woody's. -/
def sentBody : Ending → List UInt8
  | .send body => body
  | _ => []

/-! ## 1.  What `New` returns -/

/-- **Every default passes its own check.**  The `URL` and `Cache-Control` the handler runs
with are never empty. -/
theorem resolveConfig_ne_empty (config : List Config) :
    (resolveConfig config).url ≠ "" ∧ (resolveConfig config).cacheControl ≠ "" := by
  cases config with
  | nil => decide
  | cons cfg _ =>
    constructor <;> dsimp only [resolveConfig] <;> split_ifs with h
    all_goals first | decide | exact h

/-- The handler of a `New` that did not panic. -/
theorem eq_handler_of_new {readFile : String → Option (List UInt8)} {config : List Config}
    {h : Handler} (hnew : new readFile config = some h) :
    ∃ icon, loadIcon readFile (resolveConfig config) = some icon ∧
      h = handler (resolveConfig config) icon
        (if (resolveConfig config).file ≠ "" then toString icon.length else "") := by
  simp only [new, Option.map_eq_some'] at hnew
  obtain ⟨icon, hicon, rfl⟩ := hnew
  exact ⟨icon, hicon, rfl⟩

/-- An icon is only ever loaded from a `File`. -/
theorem file_ne_empty_of_loadIcon {readFile : String → Option (List UInt8)} {cfg : Config}
    {icon : List UInt8} (hicon : loadIcon readFile cfg = some icon) (hne : 0 < icon.length) :
    cfg.file ≠ "" := fun hf => by
  have : icon = [] := by simpa [loadIcon, hf] using hicon.symm
  simp [this] at hne

/-! ## 2.  The handler, for any icon -/

section Handler

variable (cfg : Config) (icon : List UInt8) (iconLen : String) (c : Request)

theorem handler_of_passOn (h : cfg.next.any (· c) ∨ c.path ≠ cfg.url) :
    handler cfg icon iconLen c = .passOn := by
  unfold handler
  rcases h with h | h <;> simp [h]

/-- **The handler's answers**, with the conditions of each: it passes the request on, answers
a method other than `GET` and `HEAD` with `Allow`, sends the icon, or answers `204`. -/
theorem handler_cases :
    ((cfg.next.any (· c) ∨ c.path ≠ cfg.url) ∧ handler cfg icon iconLen c = .passOn) ∨
    (cfg.next.any (· c) = false ∧ c.path = cfg.url ∧ c.method ≠ methodGet ∧ c.method ≠ methodHead ∧
      handler cfg icon iconLen c =
        ⟨[.status (if c.method ≠ methodOptions then statusMethodNotAllowed else statusOK),
          .set headerAllow hAllow, .set headerContentLength hZero], .done⟩) ∨
    (cfg.next.any (· c) = false ∧ c.path = cfg.url ∧ (c.method = methodGet ∨ c.method = methodHead) ∧
      ((0 < icon.length ∧ handler cfg icon iconLen c =
        ⟨[.set headerContentLength iconLen, .set headerContentType hType,
          .set headerCacheControl cfg.cacheControl, .status statusOK], .send icon⟩) ∨
      (icon = [] ∧ handler cfg icon iconLen c = ⟨[], .sendStatus statusNoContent⟩))) := by
  by_cases hpass : cfg.next.any (· c) ∨ c.path ≠ cfg.url
  · exact .inl ⟨hpass, handler_of_passOn _ _ _ _ hpass⟩
  have hs : cfg.next.any (· c) = false := by simpa using (not_or.mp hpass).1
  have hp : c.path = cfg.url := not_not.mp (not_or.mp hpass).2
  unfold handler
  rw [if_neg (by simp [hs]), if_neg (not_not.mpr hp)]
  by_cases hm : c.method ≠ methodGet ∧ c.method ≠ methodHead
  · exact .inr (.inl ⟨hs, hp, hm.1, hm.2, if_pos hm⟩)
  rw [if_neg hm]
  refine .inr (.inr ⟨hs, hp, by tauto, ?_⟩)
  by_cases hne : 0 < icon.length
  · exact .inl ⟨hne, if_pos hne⟩
  · exact .inr ⟨List.eq_nil_of_length_eq_zero (Nat.eq_zero_of_not_pos hne), if_neg hne⟩

/-- With `iconLen` the icon's length, `Content-Length` is the length of the body sent. -/
theorem setValues_handler_contentLength (hlen : 0 < icon.length → iconLen = toString icon.length) :
    (handler cfg icon iconLen c).setValues headerContentLength = [] ∨
      (handler cfg icon iconLen c).setValues headerContentLength =
        [toString (sentBody (handler cfg icon iconLen c).ending).length] := by
  have hallow : headerAllow ≠ headerContentLength := by decide
  have htype : headerContentType ≠ headerContentLength := by decide
  have hcache : headerCacheControl ≠ headerContentLength := by decide
  have hzero : hZero = toString (0 : Nat) := rfl
  rcases handler_cases cfg icon iconLen c with
    ⟨-, h⟩ | ⟨-, -, -, -, h⟩ | ⟨-, -, -, ⟨hne, h⟩ | ⟨-, h⟩⟩ <;> rw [h]
  · exact .inl rfl
  · exact .inr (by simp [hallow, sentBody, hzero])
  · exact .inr (by simp [htype, hcache, sentBody, hlen hne])
  · exact .inl rfl

end Handler

/-! ## 3.  What `New` answers -/

section New

variable {readFile : String → Option (List UInt8)} {config : List Config} {h : Handler}

/-- **`Content-Length` is the length of the body sent with it.**  Whatever the request, the
handler of a `New` that did not panic writes `Content-Length` at most once, and then as the
length of the body it sends: `0` with the `Allow` answer, the icon's length with the icon. -/
theorem setValues_favicon_contentLength (hnew : new readFile config = some h) (c : Request) :
    (h c).setValues headerContentLength = [] ∨
      (h c).setValues headerContentLength = [toString (sentBody (h c).ending).length] := by
  obtain ⟨icon, hicon, rfl⟩ := eq_handler_of_new hnew
  exact setValues_handler_contentLength _ _ _ _ fun hne =>
    if_pos (file_ne_empty_of_loadIcon hicon hne)

/-- The law on a `GET /favicon.ico` with a four-byte icon. -/
theorem setValues_favicon_contentLength_icon :
    let readFile : String → Option (List UInt8) := fun _ => some [0, 0, 1, 0]
    let config : List Config := [{ file := "favicon.ico" }]
    let h : Handler := handler (resolveConfig config) [0, 0, 1, 0] "4"
    let c : Request := ⟨methodGet, "/favicon.ico", "http", fun _ => ""⟩
    new readFile config = some h ∧
      ((h c).setValues headerContentLength = [] ∨
        (h c).setValues headerContentLength = [toString (sentBody (h c).ending).length]) := by
  intro readFile config h c
  exact ⟨rfl, @setValues_favicon_contentLength readFile config h rfl c⟩

end New

end Favicon

namespace Expvar

/-- `expvar.Config`. -/
structure Config where
  next : Option (Request → Bool) := none

/-- The handler `expvar.New` returns, for a resolved configuration. -/
def handler (cfg : Config) (c : Request) : Outcome :=
  if cfg.next.any (· c) then .passOn
  else if len c.path < 11 ∨ hasPrefix c.path "/debug/vars" = false then .passOn
  else if c.path = "/debug/vars" then ⟨[.fasthttp "expvarhandler.ExpvarHandler"], .done⟩
  else ⟨[], .redirect "/debug/vars" statusFound⟩

/-- **The length test is dead.**  A path with the prefix `/debug/vars` is at least 11 bytes
long, so the handler is the same without `len(path) < 11`. -/
theorem expvar_handler_eq (cfg : Config) (c : Request) :
    handler cfg c =
      if cfg.next.any (· c) then .passOn
      else if hasPrefix c.path "/debug/vars" = false then .passOn
      else if c.path = "/debug/vars" then ⟨[.fasthttp "expvarhandler.ExpvarHandler"], .done⟩
      else ⟨[], .redirect "/debug/vars" statusFound⟩ := by
  have hlen : hasPrefix c.path "/debug/vars" = true → ¬len c.path < 11 := fun hp =>
    Nat.not_lt.mpr (len_le_of_hasPrefix hp)
  unfold handler
  by_cases hp : hasPrefix c.path "/debug/vars" = true <;> simp [hp, hlen]

/-- **Expvar answers the paths with its prefix only.**  In any chain, the handler drops out
for a request that `Next` skips or whose path lacks the prefix `/debug/vars`, and answers
every other request itself. -/
theorem runChain_expvar (final : Handler) (cfg : Config) (hs : List Handler) (c : Request) :
    runChain final (handler cfg :: hs) c =
      if cfg.next.any (· c) ∨ hasPrefix c.path "/debug/vars" = false then runChain final hs c
      else handler cfg c := by
  split_ifs with hc
  · exact runChain_cons_of_passOn (by rw [expvar_handler_eq]; split_ifs <;> simp_all)
  · refine runChain_cons_of_ne_next ?_
    rw [expvar_handler_eq]
    split_ifs <;> simp_all

end Expvar

end Woody
