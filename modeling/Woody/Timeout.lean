import Woody.Core

/-!
# `timeout.New` and `timeout.NewWithContext`: what becomes of the handler's error

`middleware/timeout/timeout.go` has two wrappers.  The deprecated `New` runs the handler in
a goroutine and waits for whichever comes first, the goroutine's signal or the timer:

> `go func() { defer func() { if err := recover(); err != nil { log.Printf(…) } }()`
> `  if err := handler(ctx); err != nil { log.Printf(…) }; ch <- struct{}{} }()`
> `select { case <-ch: case <-time.After(timeout): return woody.ErrRequestTimeout }`
> `return nil`

The handler's error is logged and dropped, and a panic is recovered before `ch` is
signalled, so the `select` then waits for the timer.  Which case a `select` takes is the
scheduler's business: `handlerFirst` says whether the goroutine signalled before the timer
fired.  What the handler writes to `ctx` after the timer fired races with the error handler
(the data race the deprecation notice names) and is not modelled; the model is what the
wrapper returns.

`NewWithContext` runs the handler under a context with a deadline and translates its error:

> `if errors.Is(err, context.DeadlineExceeded) { return woody.ErrRequestTimeout }`
> `for i := range tErrs { if errors.Is(err, tErrs[i]) { return woody.ErrRequestTimeout } }`
> `return err`

Go's errors are a type `ε` with `errors.Is` as the parameter `isErr`; a handler's run under
the new deadline is the parameter `h`, so the deadline itself does not appear.

## Results

* `newWithContext_newWithContext` --- **nesting two `NewWithContext` wrappers translates every
  run's error as one wrapper with both error lists does**, for every `errors.Is`: an error
  the inner wrapper turned into `ErrRequestTimeout` stays one under the outer wrapper, and
  any other error meets the outer list unchanged.
-/

namespace Woody
namespace Timeout

/-- How a call of a handler ends: it returns an error, `none` for `nil`, or it panics. -/
inductive Return (ε : Type) where
  | ok (err : Option ε)
  | panic
  deriving DecidableEq, Repr

variable {ε : Type} (errRequestTimeout : ε)

/-! ## 1.  `New` -/

/-- `timeout.New(handler, timeout)`: the handler itself for a non-positive timeout; otherwise
`nil` when the goroutine signalled first, and `ErrRequestTimeout` when the timer fired first
or the handler panicked. -/
def new (handler : Request → Return ε) (timeout : Int) (handlerFirst : Bool) (c : Request) :
    Return ε :=
  if timeout ≤ 0 then handler c
  else
    match handler c with
    | .ok _ => if handlerFirst then .ok none else .ok (some errRequestTimeout)
    | .panic => .ok (some errRequestTimeout)

/-! ## 2.  `NewWithContext` -/

variable (isErr : ε → ε → Bool) (deadlineExceeded : ε)

/-- `timeout.NewWithContext(h, t, tErrs...)`: a `nil` return and a panic pass through; an
error that `errors.Is` `context.DeadlineExceeded` or one of `tErrs` becomes
`ErrRequestTimeout`, and any other error is returned as it is. -/
def newWithContext (h : Request → Return ε) (tErrs : List ε) (c : Request) : Return ε :=
  match h c with
  | .ok (some err) =>
    if isErr err deadlineExceeded then .ok (some errRequestTimeout)
    else if tErrs.any (isErr err) then .ok (some errRequestTimeout)
    else .ok (some err)
  | r => r

/-- The translation of one error: `ErrRequestTimeout` exactly for the errors that are
`DeadlineExceeded` or one of `tErrs`. -/
theorem newWithContext_of_ok_some {h : Request → Return ε} {c : Request} {err : ε}
    (hc : h c = .ok (some err)) (tErrs : List ε) :
    newWithContext errRequestTimeout isErr deadlineExceeded h tErrs c =
      if isErr err deadlineExceeded || tErrs.any (isErr err) then .ok (some errRequestTimeout)
      else .ok (some err) := by
  simp only [newWithContext, hc]
  cases isErr err deadlineExceeded <;> cases tErrs.any (isErr err) <;> rfl

/-- **Nested wrappers translate as one.**  Wrapping a handler in `NewWithContext` with
`tErrs₁` and the result again with `tErrs₂` translates every run of the handler as one
wrapper with `tErrs₁ ++ tErrs₂` does. -/
theorem newWithContext_newWithContext (h : Request → Return ε) (tErrs₁ tErrs₂ : List ε) :
    newWithContext errRequestTimeout isErr deadlineExceeded
        (newWithContext errRequestTimeout isErr deadlineExceeded h tErrs₁) tErrs₂ =
      newWithContext errRequestTimeout isErr deadlineExceeded h (tErrs₁ ++ tErrs₂) := by
  funext c
  rcases hc : h c with (_ | err) | _
  · simp [newWithContext, hc]
  · have hin := newWithContext_of_ok_some errRequestTimeout isErr deadlineExceeded hc tErrs₁
    rw [newWithContext_of_ok_some _ _ _ hc, List.any_append]
    by_cases h₁ : (isErr err deadlineExceeded || tErrs₁.any (isErr err)) = true
    · rw [if_pos h₁] at hin
      rw [newWithContext_of_ok_some _ _ _ hin, ite_self,
        if_pos (by rw [← Bool.or_assoc, h₁, Bool.true_or])]
    · rw [if_neg h₁] at hin
      rw [newWithContext_of_ok_some _ _ _ hin]
      simp only [Bool.not_eq_true, Bool.or_eq_false_iff] at h₁
      simp [h₁.1, h₁.2]
  · simp [newWithContext, hc]

end Timeout
end Woody
