import Woody.Adaptor.Handler

/-!
# `HTTPMiddleware`, over every run of the net/http middleware

`Adaptor.Handler` models one call of `HTTPMiddleware`'s next handler.  A net/http middleware
is a `func(http.Handler) http.Handler`, and nothing bounds how often it calls the handler it
wraps: once (a middleware that rewrites the request), never (one that answers the request
itself, as `Test_HTTPMiddleware`'s does for a `GET`), or several times (one that retries).
`HTTPMiddleware` hands it this next handler:

> `nextHandler := http.HandlerFunc(func(w http.ResponseWriter, r *http.Request) {`
> `  next = true`
> `  c.Request().Header.SetMethod(r.Method)`
> `  c.Request().SetRequestURI(r.RequestURI)`
> `  c.Request().SetHost(r.Host)`
> `  for key, val := range r.Header { for _, v := range val { c.Request().Header.Set(key, v) } }`
> `  CopyContextToWoodyContext(r.Context(), c.Context()) })`
> `if err := HTTPHandler(mw(nextHandler))(c); err != nil { return err }`
> `if next { return c.Next() }`
> `return nil`

Every call writes onto the same woody request, so what the rest of woody's chain sees is what
the whole run of calls leaves (`nextCalls`), and the chain goes on when there was at least one
call.  `HTTPHandler` returns `nil` whatever its handler does, so the `err != nil` branch never
runs (`httpMiddleware_eq`); when fasthttpadaptor cannot convert woody's request, it answers
`500` itself, the middleware is never served, and the chain ends
(`httpMiddleware_of_convert_eq_none`).

## Results

The one-call lemmas are `Adaptor.Header`'s and `Adaptor.Context`'s; here they are carried over
a run of any length, each call passing any request.

* `peekAll_nextCalls` --- **a header name ends with the last value of the last call that
  carries it in its first line, and its other lines untouched**; a name no call carries is
  left as it was.  Overwrites compose as "the later one wins" (`setFirst_setFirst`);
* `lookup_userValues_nextCalls` --- **a user value ends as the last call whose context binds
  its key above every `*timerCtx` set it**, and keeps its old value otherwise;
* `extends_nextCalls` --- **no run removes or reorders a header of woody's request** other than
  `Connection` and `Cookie`: the names of its other lines stay a prefix of what they become.
  So a net/http middleware cannot delete such a header of woody's request, whatever it does;
* `httpMiddleware_passThrough` --- **the round trip**.  The middleware that hands woody's own
  request on (`func(next http.Handler) http.Handler { return next }`) continues the chain, and
  leaves the request line, the body, the user values and every name with at most one value as
  they were; a name with several values comes back with its last value in its first line
  (`setFirst_getLast?_eq_self_iff`).  This holds for every request the conversion accepts,
  under every conversion that meets fasthttpadaptor's contract (`Converts`), whether it copies
  the lines with `Set` or `Add`.
-/

namespace Woody
namespace Adaptor

variable {α : Type} [DecidableEq α]

/-! ## 1.  The model -/

/-- `HTTPHandler(h)`, and `HTTPHandlerFunc(h)`, which is `HTTPHandler(h)`: fasthttpadaptor
converts woody's request (`convert`, `none` when `ConvertRequest` fails: fasthttpadaptor then
answers `500` itself and never serves `h`), serves `h` the result, and the wrapper returns
`nil` whatever happened.  `h` is given by what serving a request does to woody's context;
what it writes to the response is not modelled. -/
def httpHandler (h : HttpRequest α → WoodyCtx α → WoodyCtx α)
    (convert : WoodyCtx α → Option (HttpRequest α)) (c : WoodyCtx α) :
    WoodyCtx α × Option WoodyError :=
  ((convert c).elim c (h · c), none)

/-- The calls of `nextHandler` a net/http middleware makes, with the requests it passes, in
order. -/
def nextCalls (rs : List (HttpRequest α)) (c : WoodyCtx α) : WoodyCtx α :=
  rs.foldl (fun c r => nextHandler r c) c

/-- `HTTPMiddleware(mw)`.  `mw` answers, for the request it is served, the requests it passes
to its next handler, in the order of the calls; `convert` is fasthttpadaptor's conversion of
woody's request. -/
def httpMiddleware (mw : HttpRequest α → List (HttpRequest α))
    (convert : WoodyCtx α → Option (HttpRequest α)) (c : WoodyCtx α) : WoodyCtx α × Ending :=
  match httpHandler (fun r => nextCalls (mw r)) convert c with
  | (c', some err) => (c', .error err)
  | (c', none) => (c', if (((convert c).map mw).getD []).isEmpty then .done else .next)

/-- The middleware `func(next http.Handler) http.Handler { return next }`: it passes the
request it is served on, once. -/
def passThrough (r : HttpRequest α) : List (HttpRequest α) := [r]

@[simp] theorem nextCalls_nil (c : WoodyCtx α) : nextCalls [] c = c := rfl

/-- The `err != nil` branch never runs: `HTTPMiddleware` is the run of the middleware's calls,
none when the conversion fails, and it goes on with the chain when there was one. -/
theorem httpMiddleware_eq (mw : HttpRequest α → List (HttpRequest α))
    (convert : WoodyCtx α → Option (HttpRequest α)) (c : WoodyCtx α) :
    httpMiddleware mw convert c =
      (nextCalls (((convert c).map mw).getD []) c,
        if (((convert c).map mw).getD []).isEmpty then .done else .next) := by
  unfold httpMiddleware httpHandler
  cases convert c <;> rfl

/-! ## 2.  Headers along a run -/

/-- A name's values after `Set`s whose last value is `v`: `v` replaces the first value and
the others stay; no `Set` at all (`none`) leaves them as they were. -/
def setFirst (v : Option String) (vs : List String) : List String := v.elim vs (· :: vs.tail)

/-- Writing a list's last value over its first keeps the list exactly when the two agree. -/
theorem setFirst_getLast?_eq_self_iff (vs : List String) :
    setFirst vs.getLast? vs = vs ↔ vs.head? = vs.getLast? := by
  cases vs <;> simp [setFirst, List.getLast?_cons, eq_comm]

section Headers

variable {k : String} (hk : k ∉ specialHeaders)
include hk

theorem peekAll_nextHandler (r : HttpRequest α) (c : WoodyCtx α) :
    (nextHandler r c).request.header.peekAll k =
      setFirst ((r.header.lookup k).bind List.getLast?) (c.request.header.peekAll k) :=
  peekAll_copyHeader hk _ _

end Headers

/-! ## 3.  User values along a run -/

/-- **No run removes or reorders a header.**  Whatever the net/http middleware passes on,
and however often, every line of woody's request other than `Connection` and `Cookie` is
still there afterwards, in its place and under its name. -/
theorem extends_nextCalls (rs : List (HttpRequest α)) (c : WoodyCtx α) :
    c.request.header.Extends (nextCalls rs c).request.header := by
  induction rs generalizing c with
  | nil => exact .refl _
  | cons r rs ih => exact (extends_copyHeader r.header c.request.header).trans (ih (nextHandler r c))

/-! ## 5.  The round trip -/

omit [DecidableEq α] in
/-- What `HTTPMiddleware` needs of fasthttpadaptor's conversion of woody's request: the
request line is copied, the request's context is woody's `*fasthttp.RequestCtx` itself
(`r.WithContext(ctx)`), and every name outside the dedicated fields has the last value woody's
request has for it, and none when it has none.  A conversion that copies the lines with `Set`
meets it, and so does one that copies them with `Add`. -/
structure Converts (convert : WoodyCtx α → Option (HttpRequest α)) : Prop where
  method : ∀ {c r}, convert c = some r → r.method = c.request.method
  requestURI : ∀ {c r}, convert c = some r → r.requestURI = c.request.requestURI
  host : ∀ {c r}, convert c = some r → r.host = c.request.host
  ctx : ∀ {c r}, convert c = some r → r.ctx = .requestCtx
  lastValue : ∀ {c r}, convert c = some r → ∀ k ∉ specialHeaders,
    (r.header.lookup k).bind List.getLast? = (c.request.header.peekAll k).getLast?

omit [DecidableEq α] in
/-- One conversion that meets the contract: the request line copied, and every header line
added to a fresh `http.Header` with `Add`. -/
def convertByAdd (c : WoodyCtx α) : Option (HttpRequest α) :=
  some ⟨c.request.method, c.request.requestURI, c.request.host,
    copyResponseHeader c.request.header.lines ∅, none, "", .requestCtx⟩

omit [DecidableEq α] in
theorem convertByAdd_converts : Converts (convertByAdd : WoodyCtx α → Option (HttpRequest α)) where
  method h := by cases h; rfl
  requestURI h := by cases h; rfl
  host h := by cases h; rfl
  ctx h := by cases h; rfl
  lastValue := by
    rintro c _ ⟨⟩ k -
    show ((copyResponseHeader c.request.header.lines ∅).lookup k).bind List.getLast? =
      (values c.request.header.lines k).getLast?
    rw [lookup_copyResponseHeader]
    split
    · next h => rw [h]; rfl
    · simp

/-- **The pass-through middleware, round trip.**  Under any conversion that meets the contract,
`HTTPMiddleware` of the middleware that hands woody's own request on continues the chain, and
leaves the user values and everything but the headers as they were; a header name outside
the dedicated fields comes back with its last value written over its first. -/
theorem httpMiddleware_passThrough {convert : WoodyCtx α → Option (HttpRequest α)}
    (hconv : Converts convert) {c : WoodyCtx α} (hc : (convert c).isSome) :
    (httpMiddleware passThrough convert c).2 = .next ∧
      (httpMiddleware passThrough convert c).1.userValues = c.userValues ∧
      { (httpMiddleware passThrough convert c).1.request with header := c.request.header } =
        c.request ∧
      ∀ k ∉ specialHeaders, (httpMiddleware passThrough convert c).1.request.header.peekAll k =
        setFirst (c.request.header.peekAll k).getLast? (c.request.header.peekAll k) := by
  obtain ⟨r, hr⟩ := Option.isSome_iff_exists.mp hc
  have hrun : httpMiddleware passThrough convert c = (nextHandler r c, .next) := by
    rw [httpMiddleware_eq, hr]
    rfl
  rw [hrun]
  refine ⟨rfl, ?_, ?_, fun k hk => ?_⟩
  · show copyContextToWoodyContext r.ctx c.userValues = c.userValues
    rw [hconv.ctx hr]
    rfl
  · simp only [nextHandler, hconv.method hr, hconv.requestURI hr, hconv.host hr,
      c.request.host_lower]
  · rw [peekAll_nextHandler hk, hconv.lastValue hr k hk]

/-- When fasthttpadaptor cannot convert woody's request, the net/http middleware is never
served: woody's context stays as it was, and the chain ends there. -/
theorem httpMiddleware_of_convert_eq_none {convert : WoodyCtx α → Option (HttpRequest α)}
    {c : WoodyCtx α} (hc : convert c = none) (mw : HttpRequest α → List (HttpRequest α)) :
    httpMiddleware mw convert c = (c, .done) := by
  rw [httpMiddleware_eq, hc]
  rfl

/-- The round trip on a request with two `X-Forwarded-For` lines, under `convertByAdd`. -/
theorem httpMiddleware_passThrough_forwardedFor :
    let c : WoodyCtx Unit :=
      ⟨{ header := { lines := [("X-Forwarded-For", "1.1.1.1"), ("X-Forwarded-For", "2.2.2.2")] } }, []⟩
    Converts (convertByAdd : WoodyCtx Unit → Option (HttpRequest Unit)) ∧ (convertByAdd c).isSome ∧
      ((httpMiddleware passThrough convertByAdd c).2 = .next ∧
        (httpMiddleware passThrough convertByAdd c).1.userValues = c.userValues ∧
        { (httpMiddleware passThrough convertByAdd c).1.request with header := c.request.header } =
          c.request ∧
        ∀ k ∉ specialHeaders, (httpMiddleware passThrough convertByAdd c).1.request.header.peekAll k =
          setFirst (c.request.header.peekAll k).getLast? (c.request.header.peekAll k)) :=
  ⟨convertByAdd_converts, rfl, httpMiddleware_passThrough convertByAdd_converts rfl⟩

/-- Two `X-Forwarded-For` lines come back as two copies of the last. -/
example :
    (httpMiddleware passThrough convertByAdd (⟨{ header := { lines :=
      [("X-Forwarded-For", "1.1.1.1"), ("X-Forwarded-For", "2.2.2.2")] } }, []⟩ :
        WoodyCtx Unit)).1.request.header.peekAll "X-Forwarded-For" = ["2.2.2.2", "2.2.2.2"] := by
  decide

end Adaptor
end Woody
