import Woody.Core

/-!
# The handler chain, and `skip.New`

A woody app runs a request through a stack of handlers.  A handler either answers the
request itself or returns `c.Next()`, which runs the rest of the stack; the response then
carries the calls of every handler that ran, in order.  `runChain` is that stack, with
`final` for what woody does when the stack runs out.  It is not code of the package: it is
the context every middleware below is written for, and it is what makes "the middleware
skips a request" a statement about the whole app rather than about one function.

`middleware/skip/skip.go` wraps a handler so that it is skipped on the requests `exclude`
picks out:

> `if exclude == nil { return handler }`
> `return func(c *woody.Ctx) error { if exclude(c) { return c.Next() }; return handler(c) }`

and every other middleware of the package opens with the same test on its own `Next`:

> `if cfg.Next != nil && cfg.Next(c) { return c.Next() }`

## Results

* `runChain_cons_of_passOn` --- a handler that returns `c.Next()` without a call drops out of
  the chain for that request;
* `runChain_cons_of_ne_next` --- a handler that answers the request ends the chain there.
-/

namespace Woody

/-- A middleware or route handler, as a function of the request. -/
abbrev Handler := Request → Outcome

/-- `return c.Next()` with no call on the response. -/
def Outcome.passOn : Outcome := ⟨[], .next⟩

/-- The stack `hs` run on a request: a handler that returns `c.Next()` hands the request on,
and `final` answers when the stack runs out. -/
def runChain (final : Handler) : List Handler → Handler
  | [], c => final c
  | h :: hs, c =>
    if (h c).ending = .next then
      ⟨(h c).calls ++ (runChain final hs c).calls, (runChain final hs c).ending⟩
    else h c

section Chain

variable {final h : Handler} {hs : List Handler} {c : Request}

@[simp] theorem runChain_nil (final : Handler) (c : Request) : runChain final [] c = final c :=
  rfl

/-- A handler that answers the request ends the chain there. -/
theorem runChain_cons_of_ne_next (hn : (h c).ending ≠ .next) : runChain final (h :: hs) c = h c :=
  if_neg hn

theorem runChain_cons_of_next (hn : (h c).ending = .next) :
    runChain final (h :: hs) c =
      ⟨(h c).calls ++ (runChain final hs c).calls, (runChain final hs c).ending⟩ :=
  if_pos hn

/-- A handler that passes a request on untouched drops out of the chain for it. -/
theorem runChain_cons_of_passOn (hp : h c = .passOn) : runChain final (h :: hs) c = runChain final hs c := by
  rw [runChain_cons_of_next (by rw [hp]; rfl), hp]
  rfl

end Chain

namespace Skip

/-- `skip.New(handler, exclude)`. -/
def new (handler : Handler) (exclude : Option (Request → Bool)) : Handler :=
  match exclude with
  | none => handler
  | some ex => fun c => if ex c then .passOn else handler c

end Skip

end Woody
