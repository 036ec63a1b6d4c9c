import Woody.Core

/-!
# The two header stores the adaptor copies between

`middleware/adaptor/adaptor.go` copies headers three times, twice in one direction and
once in the other:

> `for key, val := range r.Header { for _, v := range val { req.Header.Set(key, v) } }`
> (`handlerFunc`, and the same loop onto `c.Request()` in `HTTPMiddleware`)
>
> `fctx.Response.Header.VisitAll(func(k, v []byte) { w.Header().Add(string(k), string(v)) })`
> (`handlerFunc`, on the way back)

On the net/http side a header is an `http.Header`, a `map[string][]string` (`Header`).  On
the fasthttp side the request's headers are lines, in order, and a few names live in
dedicated fields instead (`RequestHeader`).  fasthttp's `Set` replaces the value of the first
line of its name or appends a line (`setArg`); net/http's `Add` appends a value to the name's
slice (`Header.add`).

That difference is the whole story of this file.  Copying with `Set`, every value of a name
overwrites the one before it, so a name with several values arrives with its last value only
(`peekAll_copyHeader`), and names the source does not have are left as they were.  Copying
with `Add`, every line arrives, in order (`lookup_copyResponseHeader`).  And `Set` deletes
lines of `Connection` and `Cookie` only, so a copy never removes or moves any other line
(`extends_copyHeader`).

Header names are taken as they come: both libraries normalize a name to the same canonical
form before storing it, and the middleware only ever sees canonical names.
-/

namespace Woody
namespace Adaptor

open Go

/-! ## 1.  `http.Header` -/

/-- `http.Header`, `map[string][]string`. -/
abbrev Header := StrMap (List String)

/-- `http.Header.Add`: append a value to the name's values. -/
def Header.add (h : Header) (key value : String) : Header :=
  h.insert key ((h.lookup key).getD [] ++ [value])

/-- The values of the lines of `key`, in order. -/
def values (lines : List (String × String)) (key : String) : List String :=
  lines.filterMap fun kv => if kv.1 = key then some kv.2 else none

@[simp] theorem values_nil (key : String) : values [] key = [] := rfl

@[simp] theorem values_cons (kv : String × String) (lines : List (String × String))
    (key : String) :
    values (kv :: lines) key = if kv.1 = key then kv.2 :: values lines key else values lines key := by
  unfold values; split <;> simp [*]

/-- `VisitAll` with `w.Header().Add`: every visited line is added to `w`'s header. -/
def copyResponseHeader (lines : List (String × String)) (w : Header) : Header :=
  lines.foldl (fun w kv => w.add kv.1 kv.2) w

/-- **Copying with `Add` keeps every value.**  After the copy, a name holds the values it
held before followed by the values of its lines, in order; a name that had neither stays
absent. -/
theorem lookup_copyResponseHeader (lines : List (String × String)) (w : Header) (k : String) :
    (copyResponseHeader lines w).lookup k =
      if values lines k = [] then w.lookup k else some ((w.lookup k).getD [] ++ values lines k) := by
  induction lines generalizing w with
  | nil => simp [copyResponseHeader]
  | cons kv lines ih =>
    simp only [copyResponseHeader, List.foldl_cons] at ih ⊢
    rw [ih]
    by_cases hk : kv.1 = k
    · subst hk
      simp [Header.add]
    · simp [Header.add, hk, AList.lookup_insert_ne (Ne.symm hk)]

/-! ## 2.  `fasthttp.RequestHeader` -/

/-- The names whose `PeekAll` is not read off the lines alone: the six that `Set` sends to
dedicated fields (or, `Transfer-Encoding`, ignores), and `Connection` and `Cookie`, whose
lines `Set` manages through a flag. -/
def specialHeaders : List String :=
  ["Host", "Content-Type", "Content-Length", "User-Agent", "Connection", "Transfer-Encoding",
    "Cookie", "Trailer"]

/-- `fasthttp.RequestHeader`: the header lines, in order, and the two flags through which `Set`
manages the `Connection` and `Cookie` lines.  The dedicated fields (`Host`, `Content-Type`,
`Content-Length`, `User-Agent`, `Trailer`) and the cookie jar are written by the adaptor
but never read by it, and are not modelled. -/
structure RequestHeader where
  lines : List (String × String) := []
  /-- Set by `Set("Connection", "close")`; `PeekAll("Connection")` then answers `close`. -/
  connectionClose : Bool := false
  /-- The `Cookie` lines have been moved into the cookie jar. -/
  cookiesCollected : Bool := false
  deriving DecidableEq, Repr

/-- fasthttp's store of pairs: the first pair of `key` gets `value`; without one, a pair is
appended.  `setArgBytes` does this to header lines, and `userData.Set` to user values. -/
def setArg {κ ν : Type} [DecidableEq κ] : List (κ × ν) → κ → ν → List (κ × ν)
  | [], key, value => [(key, value)]
  | kv :: lines, key, value =>
    if kv.1 = key then (key, value) :: lines else kv :: setArg lines key value

/-- `RequestHeader.Set`: `setSpecialHeader`, then `setArgBytes` for an ordinary name.
`Connection: close` only sets the flag; any other `Connection` value first deletes every
`Connection` line when the flag is set (`ResetConnectionClose`) and then sets the value.  A
`Cookie` goes to the jar, after the `Cookie` lines have been moved there once
(`collectCookies`).  The other special names leave the lines alone. -/
def RequestHeader.set (hdr : RequestHeader) (key value : String) : RequestHeader :=
  if key = "Connection" then
    if value = "close" then { hdr with connectionClose := true }
    else
      { hdr with connectionClose := false,
                 lines := setArg (if hdr.connectionClose then hdr.lines.filter (·.1 ≠ key)
                   else hdr.lines) key value }
  else if key = "Cookie" then
    if hdr.cookiesCollected then hdr
    else { hdr with cookiesCollected := true, lines := hdr.lines.filter (·.1 ≠ key) }
  else if key ∈ specialHeaders then hdr
  else { hdr with lines := setArg hdr.lines key value }

/-- `RequestHeader.PeekAll`: the values of the lines of `key`, in order. -/
def RequestHeader.peekAll (hdr : RequestHeader) (key : String) : List String :=
  values hdr.lines key

/-- **One `Set`.**  The first value of the name becomes `value`, the others stay; no other
name changes. -/
theorem values_setArg (lines : List (String × String)) (key value k : String) :
    values (setArg lines key value) k =
      if key = k then value :: (values lines k).tail else values lines k := by
  induction lines with
  | nil => by_cases h : key = k <;> simp [setArg, h]
  | cons kv lines ih =>
    by_cases h1 : kv.1 = key
    · by_cases h2 : key = k <;> simp [setArg, h1, h2]
    · by_cases h2 : kv.1 = k
      · have h3 : key ≠ k := fun h => h1 (h2.trans h.symm)
        simp [setArg, h1, h2, h3, Ne.symm h3, ih]
      · simp [setArg, h1, h2, ih]

/-- Deleting the lines of another name keeps the values of `k`. -/
theorem values_filter_ne {key k : String} (h : key ≠ k) (lines : List (String × String)) :
    values (lines.filter (·.1 ≠ key)) k = values lines k := by
  induction lines with
  | nil => rfl
  | cons kv lines ih =>
    rw [List.filter_cons]
    by_cases h1 : kv.1 = key
    · rw [if_neg (by simp [h1]), ih, values_cons, if_neg (h1 ▸ h)]
    · rw [if_pos (by simp [h1]), values_cons, values_cons, ih]

theorem peekAll_set {hdr : RequestHeader} {key k : String} (hk : k ∉ specialHeaders)
    (value : String) :
    (hdr.set key value).peekAll k =
      if key = k then value :: (hdr.peekAll k).tail else hdr.peekAll k := by
  unfold RequestHeader.set RequestHeader.peekAll
  by_cases hs : key ∈ specialHeaders
  · have h : key ≠ k := fun h => hk (h ▸ hs)
    rw [if_neg h]
    split_ifs <;> simp only [values_setArg, values_filter_ne h, h, if_false]
  · have hc : key ≠ "Connection" := fun h => hs (h ▸ by decide)
    have hco : key ≠ "Cookie" := fun h => hs (h ▸ by decide)
    simp only [hc, hco, hs, if_false]
    exact values_setArg _ _ _ _

/-- The copy loop: `Set(key, v)` for every value `v` of every name `key` of an
`http.Header`, in the map's order. -/
def copyHeader (src : Header) (hdr : RequestHeader) : RequestHeader :=
  src.entries.foldl (fun hdr e => e.2.foldl (fun hdr v => hdr.set e.1 v) hdr) hdr

section Copy

variable {k : String} (hk : k ∉ specialHeaders)
include hk

/-- **The inner loop.**  The `Set`s of one name leave its last value in the first line, and
touch no other name. -/
theorem peekAll_foldl_set (key : String) (vs : List String) (hdr : RequestHeader) :
    (vs.foldl (fun hdr v => hdr.set key v) hdr).peekAll k =
      if key = k then vs.getLast?.elim (hdr.peekAll k) (· :: (hdr.peekAll k).tail)
      else hdr.peekAll k := by
  induction vs generalizing hdr with
  | nil => split <;> rfl
  | cons v vs ih =>
    rw [List.foldl_cons, ih, peekAll_set hk, List.getLast?_cons]
    by_cases h : key = k
    · cases vs.getLast? <;> simp [h]
    · simp [h]

/-- **The outer loop.**  A name the map holds ends with the last of its values in its first
line, and the values of its other lines untouched; any other name is left as it was.  The
map's order does not matter: only the entry of `k` touches `k`. -/
theorem peekAll_copyHeader (src : Header) (hdr : RequestHeader) :
    (copyHeader src hdr).peekAll k =
      ((src.lookup k).bind List.getLast?).elim (hdr.peekAll k) (· :: (hdr.peekAll k).tail) := by
  unfold copyHeader AList.lookup
  obtain ⟨l, hl⟩ := src
  dsimp only
  induction l generalizing hdr with
  | nil => rfl
  | cons e l ih =>
    obtain ⟨key, vs⟩ := e
    rw [List.nodupKeys_cons] at hl
    rw [List.foldl_cons, ih _ hl.2, peekAll_foldl_set hk]
    by_cases h : key = k
    · subst h
      rw [List.dlookup_eq_none.mpr hl.1, List.dlookup_cons_eq]
      simp
    · rw [List.dlookup_cons_ne l ⟨key, vs⟩ (Ne.symm h)]
      simp [h]

end Copy

/-! ## 3.  What `Set` never does

`Set` overwrites a line or appends one, and deletes lines only of the two names it manages:
a reset `close` deletes the `Connection` lines, and `collectCookies` moves the `Cookie` lines
out.  Every other line stays, in its place.  `Extends` says so of two states of a header,
and holds along any sequence of `Set`s. -/

/-- The names `Set` deletes lines of. -/
def managedHeaders : List String := ["Connection", "Cookie"]

/-- The names of the lines, in order, leaving out the `Connection` and `Cookie` lines. -/
def RequestHeader.keptNames (hdr : RequestHeader) : List String :=
  (hdr.lines.map Prod.fst).filter (· ∉ managedHeaders)

/-- `hdr'` still has every line of `hdr` but the `Connection` and `Cookie` lines, in the same
order and under its name (its value may have changed), and any new line after them. -/
def RequestHeader.Extends (hdr hdr' : RequestHeader) : Prop := hdr.keptNames <+: hdr'.keptNames

namespace RequestHeader.Extends

theorem refl (hdr : RequestHeader) : hdr.Extends hdr := List.prefix_refl _

theorem trans {hdr₁ hdr₂ hdr₃ : RequestHeader} (h₁₂ : hdr₁.Extends hdr₂) (h₂₃ : hdr₂.Extends hdr₃) :
    hdr₁.Extends hdr₃ :=
  List.IsPrefix.trans h₁₂ h₂₃

/-- A fold whose every step extends the header extends it. -/
theorem foldl {β : Type} {f : RequestHeader → β → RequestHeader}
    (hf : ∀ (hdr : RequestHeader) b, hdr.Extends (f hdr b)) (bs : List β) (hdr : RequestHeader) :
    hdr.Extends (bs.foldl f hdr) := by
  induction bs generalizing hdr with
  | nil => exact refl hdr
  | cons b bs ih => exact (hf hdr b).trans (ih _)

end RequestHeader.Extends

theorem map_fst_prefix_setArg {κ ν : Type} [DecidableEq κ] (l : List (κ × ν)) (key : κ) (value : ν) :
    l.map Prod.fst <+: (setArg l key value).map Prod.fst := by
  induction l with
  | nil => exact List.nil_prefix
  | cons kv l ih =>
    unfold setArg
    split
    · next h => exact List.cons_prefix_cons.mpr ⟨h, List.prefix_refl _⟩
    · exact List.cons_prefix_cons.mpr ⟨rfl, ih⟩

section Managed

variable {key : String} (hkey : key ∈ managedHeaders) (l : List (String × String))
include hkey

/-- Setting a managed name changes no kept name. -/
theorem keptNames_setArg (value : String) :
    ((setArg l key value).map Prod.fst).filter (· ∉ managedHeaders) =
      (l.map Prod.fst).filter (· ∉ managedHeaders) := by
  induction l with
  | nil => simp [setArg, hkey]
  | cons kv l ih =>
    unfold setArg
    split
    · next h => rw [List.map_cons, List.map_cons, h]
    · rw [List.map_cons, List.map_cons, List.filter_cons, List.filter_cons, ih]

/-- Deleting the lines of a managed name changes no kept name. -/
theorem keptNames_filter :
    ((l.filter (·.1 ≠ key)).map Prod.fst).filter (· ∉ managedHeaders) =
      (l.map Prod.fst).filter (· ∉ managedHeaders) := by
  induction l with
  | nil => rfl
  | cons kv l ih =>
    rw [List.filter_cons]
    by_cases h : kv.1 = key
    · rw [if_neg (by simp [h]), ih, List.map_cons, List.filter_cons, if_neg (by simp [h, hkey])]
    · rw [if_pos (by simp [h]), List.map_cons, List.map_cons, List.filter_cons, List.filter_cons,
        ih]

end Managed

theorem RequestHeader.extends_set (hdr : RequestHeader) (key value : String) :
    hdr.Extends (hdr.set key value) := by
  unfold RequestHeader.set RequestHeader.Extends RequestHeader.keptNames
  have hconn : "Connection" ∈ managedHeaders := by decide
  have hcookie : "Cookie" ∈ managedHeaders := by decide
  split_ifs with h₁ h₂ h₃ h₄ h₅ h₆
  · exact List.prefix_refl _
  · simp only [h₁, keptNames_setArg hconn, keptNames_filter hconn, List.prefix_refl]
  · simp only [h₁, keptNames_setArg hconn, List.prefix_refl]
  · exact List.prefix_refl _
  · simp only [h₄, keptNames_filter hcookie, List.prefix_refl]
  · exact List.prefix_refl _
  · exact (map_fst_prefix_setArg _ _ _).filter _

/-- The copy loop removes and moves nothing. -/
theorem extends_copyHeader (src : Header) (hdr : RequestHeader) : hdr.Extends (copyHeader src hdr) :=
  .foldl (fun hdr (e : Sigma fun _ => List String) => .foldl (fun hdr v => hdr.extends_set e.1 v) e.2 hdr)
    src.entries hdr

end Adaptor
end Woody
