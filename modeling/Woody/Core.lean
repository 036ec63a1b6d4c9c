import Mathlib.Data.List.AList
import Mathlib.Data.List.Basic

/-!
# What every middleware of the package reads and writes

A woody middleware is a function of a `*woody.Ctx`.  It reads the request through a
handful of accessors and answers through a handful of calls, and this file fixes both ends
once, together with the few Go library functions the middleware applies to strings.

## Strings and maps

The middleware cuts strings with three functions of package `strings`, each with a
one-character separator or pattern:

> `strings.Split(strings.ReplaceAll(cfg.AllowOrigins, " ", ""), ",")`  (`cors/cors.go`)
>
> `strings.SplitN(envVal, "=", numElems)`, `numElems = 2`  (`envvar/envvar.go`)

`split`, `splitN` and `replaceAll` are these functions over the string's characters, by
structural recursion, so that the model evaluates by `decide`.  `expvar/expvar.go` adds
`len(path)`, a length in bytes (`len`), and `strings.HasPrefix` (`hasPrefix`).  A Go `map[string]β` is a
`StrMap β`, an `AList`: its keys are distinct, and a `range` over it walks `entries` in an
order that no theorem below fixes.

## The context

`Request` is what a handler reads: `c.Method()`, `c.Path()`, `c.Protocol()` and
`c.Get(key)`, which answers `""` for an absent header.  A handler's run is an `Outcome`: the
calls it made on the response, in order (`Call`), and how it returned (`Ending`).  The
meaning of `c.Set`, `c.Vary` and the rest lives in package `woody`, not in the middleware,
and is not modelled: a statement about what a handler writes is a statement about the
arguments of these calls, read off by `Outcome.setValues`.
-/

namespace Woody
namespace Go

/-- A Go `map[string]β`. -/
abbrev StrMap (β : Type) := AList (fun _ : String => β)

/-- `strings.ReplaceAll(s, old, "")` for a one-character `old`: every `old` deleted. -/
def replaceAll (s : String) (old : Char) : String := ⟨s.data.filter (· ≠ old)⟩

/-- `strings.Split(s, sep)` for a one-character `sep`: the pieces between the separators,
`[""]` for the empty string. -/
def split (s : String) (sep : Char) : List String := (s.data.splitOn sep).map String.mk

/-- The text before the first `sep`; all of `s` when `sep` does not occur. -/
def before (s : String) (sep : Char) : String := ⟨s.data.takeWhile (· ≠ sep)⟩

/-- The text after the first `sep`; empty when `sep` does not occur. -/
def after (s : String) (sep : Char) : String := ⟨(s.data.dropWhile (· ≠ sep)).drop 1⟩

/-- `strings.SplitN(s, sep, 2)` for a one-character `sep`: `Index(s, sep)` cuts `s` into the
text before and after its first `sep`, and a string without `sep` is its only piece. -/
def splitN (s : String) (sep : Char) : List String :=
  if sep ∈ s.data then [before s sep, after s sep] else [s]

theorem splitN_of_mem {s : String} {sep : Char} (h : sep ∈ s.data) :
    splitN s sep = [before s sep, after s sep] := if_pos h

theorem splitN_of_not_mem {s : String} {sep : Char} (h : sep ∉ s.data) :
    splitN s sep = [s] := if_neg h

theorem before_of_not_mem {s : String} {sep : Char} (h : sep ∉ s.data) : before s sep = s :=
  congrArg String.mk <| List.takeWhile_eq_self_iff.mpr fun _ hc =>
    decide_eq_true fun hcs => h (hcs ▸ hc)

/-- **Cutting at the first separator.**  A string holds `sep`, with `k` before its first
`sep` and `v` after it, exactly when it is `k`, then `sep`, then `v`, and `k` has no `sep`. -/
theorem before_after_eq_iff {s k v : String} {sep : Char} (hk : sep ∉ k.data) :
    (sep ∈ s.data ∧ before s sep = k ∧ after s sep = v) ↔ s = k ++ ⟨[sep]⟩ ++ v := by
  constructor
  · rintro ⟨hs, rfl, rfl⟩
    have hne : s.data.dropWhile (· ≠ sep) ≠ [] := fun h =>
      of_decide_eq_true (List.dropWhile_eq_nil_iff.mp h sep hs) rfl
    obtain ⟨c, t, ht⟩ := List.exists_cons_of_ne_nil hne
    have hc : c = sep := by
      have h := List.head_dropWhile_not (· ≠ sep) s.data hne
      simp only [ht, List.head_cons] at h
      simpa using h
    have hsplit := List.takeWhile_append_dropWhile (· ≠ sep) s.data
    rw [ht, hc] at hsplit
    apply String.ext
    simp only [before, after, String.data_append, ht, List.drop_one, List.tail_cons]
    simpa using hsplit.symm
  · rintro rfl
    have hpos : ∀ c ∈ k.data, decide (c ≠ sep) = true := fun c hc =>
      decide_eq_true fun h => hk (h ▸ hc)
    simp only [before, after, String.data_append, List.append_assoc, List.singleton_append,
      List.takeWhile_append_of_pos hpos, List.dropWhile_append_of_pos hpos]
    simp

/-- `len(s)`: the length of `s` in bytes. -/
def len (s : String) : Nat := s.utf8ByteSize

/-- `strings.HasPrefix(s, prefix)`.  On UTF-8 text a byte prefix that is itself text is a
prefix of characters, so the test is made on characters. -/
def hasPrefix (s pre : String) : Bool := pre.data.isPrefixOf s.data

theorem utf8ByteSize_go_append (l₁ l₂ : List Char) :
    String.utf8ByteSize.go (l₁ ++ l₂) = String.utf8ByteSize.go l₁ + String.utf8ByteSize.go l₂ := by
  induction l₁ with
  | nil => simp [String.utf8ByteSize.go]
  | cons a l ih => rw [List.cons_append, String.utf8ByteSize.go, String.utf8ByteSize.go, ih]; omega

/-- A string is at least as long as each of its prefixes. -/
theorem len_le_of_hasPrefix {s pre : String} (h : hasPrefix s pre = true) : len pre ≤ len s := by
  obtain ⟨t, ht⟩ := List.isPrefixOf_iff_prefix.mp h
  have hs : len s = String.utf8ByteSize.go (pre.data ++ t) := by rw [ht]; rfl
  rw [hs, utf8ByteSize_go_append]
  exact Nat.le_add_right _ _

/-- Whatever the string, the first piece is the text before the first separator. -/
@[simp] theorem getElem?_zero_splitN (s : String) (sep : Char) :
    (splitN s sep)[0]? = some (before s sep) := by
  by_cases h : sep ∈ s.data
  · simp [splitN_of_mem h]
  · simp [splitN_of_not_mem h, before_of_not_mem h]

/-- The second piece exists exactly when the separator occurs. -/
@[simp] theorem getElem?_one_splitN (s : String) (sep : Char) :
    (splitN s sep)[1]? = if sep ∈ s.data then some (after s sep) else none := by
  unfold splitN; split <;> rfl

end Go

/-! ## Header names and methods

The constants of package `woody` that the modelled middleware passes to `c.Get`, `c.Set`
and `c.Status`. -/

def methodGet : String := "GET"
def methodHead : String := "HEAD"
def methodPost : String := "POST"
def methodPut : String := "PUT"
def methodDelete : String := "DELETE"
def methodPatch : String := "PATCH"
def methodOptions : String := "OPTIONS"

def headerOrigin : String := "Origin"
def headerAccessControlAllowOrigin : String := "Access-Control-Allow-Origin"
def headerAccessControlAllowCredentials : String := "Access-Control-Allow-Credentials"
def headerAccessControlExposeHeaders : String := "Access-Control-Expose-Headers"
def headerAccessControlAllowMethods : String := "Access-Control-Allow-Methods"
def headerAccessControlAllowHeaders : String := "Access-Control-Allow-Headers"
def headerAccessControlRequestMethod : String := "Access-Control-Request-Method"
def headerAccessControlRequestHeaders : String := "Access-Control-Request-Headers"
def headerAccessControlMaxAge : String := "Access-Control-Max-Age"
def headerContentType : String := "Content-Type"
def headerContentLength : String := "Content-Length"
def headerCacheControl : String := "Cache-Control"
def headerAllow : String := "Allow"
def headerXXSSProtection : String := "X-XSS-Protection"
def headerXContentTypeOptions : String := "X-Content-Type-Options"
def headerXFrameOptions : String := "X-Frame-Options"
def headerStrictTransportSecurity : String := "Strict-Transport-Security"
def headerContentSecurityPolicy : String := "Content-Security-Policy"
def headerContentSecurityPolicyReportOnly : String := "Content-Security-Policy-Report-Only"
def headerPermissionsPolicy : String := "Permissions-Policy"

def statusOK : Nat := 200
def statusNoContent : Nat := 204
def statusFound : Nat := 302
def statusMethodNotAllowed : Nat := 405

/-- `woody.MIMEApplicationJSONCharsetUTF8`. -/
def mimeApplicationJSONCharsetUTF8 : String := "application/json; charset=utf-8"

/-! ## The context -/

/-- What a handler reads from its `*woody.Ctx`.  `get key` is `c.Get(key)`: the request
header's value, `""` when it is absent. -/
structure Request where
  method : String
  path : String
  protocol : String
  get : String → String

/-- The errors of package `woody` a middleware returns, and any other error it passes on. -/
inductive WoodyError where
  | methodNotAllowed
  | other (msg : String)
  deriving DecidableEq, Repr

/-- A call a handler makes on the response. -/
inductive Call where
  /-- `c.Set(key, val)`. -/
  | set (key val : String)
  /-- `c.Vary(field)`. -/
  | vary (field : String)
  /-- `c.Status(code)`. -/
  | status (code : Nat)
  /-- A fasthttp request handler run on `c.Context()`, which writes the response itself. -/
  | fasthttp (handler : String)
  deriving DecidableEq, Repr

/-- How a handler returns. -/
inductive Ending where
  /-- `return c.Next()`: the rest of the chain runs. -/
  | next
  /-- `return nil`. -/
  | done
  /-- `return c.SendStatus(code)`. -/
  | sendStatus (code : Nat)
  /-- `return c.Send(body)`. -/
  | send (body : List UInt8)
  /-- `return c.SendString(body)`. -/
  | sendString (body : String)
  /-- `return c.Redirect(location, code)`. -/
  | redirect (location : String) (code : Nat)
  /-- `return err`. -/
  | error (e : WoodyError)
  deriving DecidableEq, Repr

/-- One run of a handler: its calls on the response, in order, and how it returned. -/
structure Outcome where
  calls : List Call
  ending : Ending
  deriving DecidableEq, Repr

/-- The value of a `c.Set(key, _)` call, when the call sets `key`. -/
def Call.setValue (key : String) : Call → Option String
  | .set k v => if k = key then some v else none
  | _ => none

/-- The values the run passed to `c.Set(key, _)`, in order. -/
def Outcome.setValues (o : Outcome) (key : String) : List String :=
  o.calls.filterMap (Call.setValue key)

@[simp] theorem Call.setValue_set (key k v : String) :
    (Call.set k v).setValue key = if k = key then some v else none := rfl

@[simp] theorem Call.setValue_vary (key f : String) : (Call.vary f).setValue key = none := rfl

@[simp] theorem Call.setValue_status (key : String) (n : Nat) :
    (Call.status n).setValue key = none := rfl

@[simp] theorem Call.setValue_fasthttp (key h : String) :
    (Call.fasthttp h).setValue key = none := rfl

@[simp] theorem Outcome.setValues_mk (cs : List Call) (e : Ending) (key : String) :
    (Outcome.mk cs e).setValues key = cs.filterMap (Call.setValue key) := rfl

end Woody
