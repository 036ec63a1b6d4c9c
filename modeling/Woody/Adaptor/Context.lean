import Woody.Adaptor.Header

/-!
# `CopyContextToWoodyContext`: which bindings reach the user values

`HTTPMiddleware`'s next handler copies the values of the request's `context.Context` into
the user values of woody's `*fasthttp.RequestCtx`, by walking the context's structs with
`reflect`:

> `if reflectField.Name == "noCopy" { break }`
> `else if reflectField.Name == "Context" { CopyContextToWoodyContext(reflectValue.Interface(), requestContext) }`
> `else if reflectField.Name == "key" { lastKey = reflectValue.Interface() }`
> `else if lastKey != nil && reflectField.Name == "val" { requestContext.SetUserValue(lastKey, reflectValue.Interface()) }`
> `else { lastKey = nil }`

The chain the net/http middleware hands on is built over the `*fasthttp.RequestCtx` itself
(fasthttpadaptor calls `r.WithContext(ctx)`), by `context.WithValue`, `WithCancel`,
`WithDeadline` and `WithTimeout` calls.  `Context` is the chain of structs those calls leave,
each a struct whose fields `reflect` lists in declaration order (`Context.fields`):

* `*valueCtx`, which `WithValue` returns, is `{Context; key, val any}`: the walk recurses
  into the parent, then sets `key` to `val`;
* `*cancelCtx`, which `WithCancel` returns, is `{Context; mu; done; children; err; cause}`:
  the walk recurses into the parent and sets nothing;
* `*timerCtx` is `{cancelCtx; timer; deadline}`: its parent sits inside the embedded
  `cancelCtx`, a field named `cancelCtx`, not `Context`, so the walk does not recurse, and
  stops there;
* `*fasthttp.RequestCtx` starts with `noCopy`, where the walk breaks.

`WithDeadline(parent, d)` does not always return a `*timerCtx`:

> `if cur, ok := parent.Deadline(); ok && cur.Before(d) { return WithCancel(parent) }`

so over a parent whose deadline is already sooner it returns a `*cancelCtx`, which the walk
passes through (`Context.withDeadline`).  `WithTimeout(parent, t)` is
`WithDeadline(parent, time.Now().Add(t))`; times are natural numbers here.

So the walk sets the bindings of the `WithValue` layers above the outermost `*timerCtx`,
innermost first (`copyContextToWoodyContext_eq`), and `Context.Value` answers with the
outermost binding of a key.  On a chain without a `*timerCtx` the two agree on every key
(`userValue_copyContextToWoodyContext`); below a `*timerCtx` the bindings are lost
(`copyContextToWoodyContext_drops_below_deadline`), and a `WithDeadline` over a parent
with a sooner deadline loses nothing (`reached_withDeadline`).

Go's `any` is the type `α`, for keys and values alike; `cancelCtx.Value` also answers its own
private key, which no caller can name, and that is left out.
-/

namespace Woody
namespace Adaptor

variable {α : Type} [DecidableEq α]

/-- A `context.Context` chain over the request's own `*fasthttp.RequestCtx`. -/
inductive Context (α : Type) where
  /-- The `*fasthttp.RequestCtx`, at the bottom of every chain. -/
  | requestCtx
  /-- `context.WithValue(parent, key, val)`. -/
  | withValue (parent : Context α) (key val : α)
  /-- `context.WithCancel(parent)`, a `*cancelCtx`. -/
  | withCancel (parent : Context α)
  /-- A `*timerCtx` with its deadline: what `context.WithDeadline(parent, d)` returns unless
  the parent's deadline is sooner than `d`. -/
  | timerCtx (parent : Context α) (deadline : Nat)
  deriving DecidableEq, Repr

/-- What a struct field holds, as the walk sees it. -/
inductive Slot (α : Type) where
  /-- The layer's parent: an interface field, or an embedded struct that holds it. -/
  | parent
  /-- A value of type `any`. -/
  | value (v : α)
  /-- Anything else. -/
  | other
  deriving DecidableEq, Repr

/-- `reflectValue.Interface()` of a field of type `any`. -/
def Slot.any : Slot α → Option α
  | .value v => some v
  | _ => none

/-- The fields of each layer's struct, in declaration order.  `RequestCtx`'s fields after
`noCopy` are never reached, and only its first three are listed. -/
def Context.fields : Context α → List (String × Slot α)
  | .requestCtx => [("noCopy", .other), ("Request", .other), ("Response", .other)]
  | .withValue _ k v => [("Context", .parent), ("key", .value k), ("val", .value v)]
  | .withCancel _ =>
    [("Context", .parent), ("mu", .other), ("done", .other), ("children", .other),
      ("err", .other), ("cause", .other)]
  | .timerCtx _ _ => [("cancelCtx", .parent), ("timer", .other), ("deadline", .other)]

/-- `RequestCtx`'s user values: key and value pairs, in the order they were first set. -/
abbrev UserData (α : Type) := List (α × α)

/-- The loop over one struct's fields.  `copyParent` is the recursive call on the field
named `Context`, and `lastKey` the value of the `key` field just passed. -/
def walkFields (copyParent : UserData α → UserData α) :
    List (String × Slot α) → Option α → UserData α → UserData α
  | [], _, d => d
  | (name, slot) :: fs, lastKey, d =>
    if name = "noCopy" then d
    else if name = "Context" then walkFields copyParent fs lastKey (copyParent d)
    else if name = "key" then walkFields copyParent fs slot.any d
    else match lastKey, slot.any with
      | some k, some v =>
        if name = "val" then walkFields copyParent fs lastKey (setArg d k v)
        else walkFields copyParent fs none d
      | _, _ => walkFields copyParent fs none d

/-- `CopyContextToWoodyContext(context, requestContext)`, on `requestContext`'s user values. -/
def copyContextToWoodyContext : Context α → UserData α → UserData α
  | .requestCtx => walkFields id (Context.requestCtx : Context α).fields none
  | .withValue p k v => walkFields (copyContextToWoodyContext p) (Context.withValue p k v).fields none
  | .withCancel p => walkFields (copyContextToWoodyContext p) (Context.withCancel p).fields none
  | .timerCtx p t => walkFields (copyContextToWoodyContext p) (Context.timerCtx p t).fields none

/-- `context.Value(key)`: the nearest `WithValue` layer of `key` answers; the other layers ask
their parent, and the `*fasthttp.RequestCtx` answers from its user values. -/
def Context.value : Context α → UserData α → α → Option α
  | .requestCtx, d, key => d.lookup key
  | .withValue p k v, d, key => if k = key then some v else p.value d key
  | .withCancel p, d, key => p.value d key
  | .timerCtx p _, d, key => p.value d key

/-- `context.Deadline()`: the `*timerCtx` nearest the top answers with its deadline, the other
layers ask their parent, and the `*fasthttp.RequestCtx` has none. -/
def Context.deadline : Context α → Option Nat
  | .requestCtx => none
  | .withValue p _ _ => p.deadline
  | .withCancel p => p.deadline
  | .timerCtx _ t => some t

/-- `context.WithDeadline(parent, d)`: a `*cancelCtx` over `parent` when `parent`'s deadline is
already before `d`, and a `*timerCtx` otherwise. -/
def Context.withDeadline (parent : Context α) (d : Nat) : Context α :=
  match parent.deadline with
  | some cur => if cur < d then .withCancel parent else .timerCtx parent d
  | none => .timerCtx parent d

/-- Every `WithValue` binding of the chain, innermost first. -/
def Context.bindings : Context α → List (α × α)
  | .requestCtx => []
  | .withValue p k v => p.bindings ++ [(k, v)]
  | .withCancel p => p.bindings
  | .timerCtx p _ => p.bindings

/-- The bindings above the outermost `*timerCtx`, innermost first. -/
def Context.reached : Context α → List (α × α)
  | .requestCtx => []
  | .withValue p k v => p.reached ++ [(k, v)]
  | .withCancel p => p.reached
  | .timerCtx _ _ => []

/-- A chain without a `*timerCtx`: of `*valueCtx` and `*cancelCtx` layers only. -/
def Context.NoDeadline : Context α → Prop
  | .requestCtx => True
  | .withValue p _ _ => p.NoDeadline
  | .withCancel p => p.NoDeadline
  | .timerCtx _ _ => False

/-! ## 1.  The walk, layer by layer

What the walk does to each layer, read off its fields by evaluation. -/

@[simp] theorem copyContextToWoodyContext_requestCtx (d : UserData α) :
    copyContextToWoodyContext .requestCtx d = d := rfl

@[simp] theorem copyContextToWoodyContext_withValue (p : Context α) (k v : α) (d : UserData α) :
    copyContextToWoodyContext (.withValue p k v) d = setArg (copyContextToWoodyContext p d) k v :=
  rfl

@[simp] theorem copyContextToWoodyContext_withCancel (p : Context α) (d : UserData α) :
    copyContextToWoodyContext (.withCancel p) d = copyContextToWoodyContext p d := rfl

@[simp] theorem copyContextToWoodyContext_timerCtx (p : Context α) (t : Nat) (d : UserData α) :
    copyContextToWoodyContext (.timerCtx p t) d = d := rfl

/-- **What the walk does.**  It sets the bindings above the outermost `*timerCtx`, innermost
first. -/
theorem copyContextToWoodyContext_eq (c : Context α) (d : UserData α) :
    copyContextToWoodyContext c d = c.reached.foldl (fun d kv => setArg d kv.1 kv.2) d := by
  induction c generalizing d with
  | requestCtx => rfl
  | withValue p k v ih => simp [Context.reached, ih]
  | withCancel p ih => simp [Context.reached, ih]
  | timerCtx p t => rfl

/-! ## 2.  The user values afterwards -/

theorem lookup_cons_pair (k k' v : α) (d : UserData α) :
    ((k', v) :: d).lookup k = if k = k' then some v else d.lookup k := by
  by_cases h : k = k'
  · subst h; simp
  · simp [List.lookup_cons, h, beq_eq_false_iff_ne.mpr h]

theorem lookup_setArg (d : UserData α) (key value k : α) :
    (setArg d key value).lookup k = if k = key then some value else d.lookup k := by
  induction d with
  | nil => simp [setArg, lookup_cons_pair]
  | cons kv d ih =>
    obtain ⟨k', v'⟩ := kv
    by_cases h1 : k' = key
    · subst h1
      by_cases h2 : k = k' <;> simp [setArg, lookup_cons_pair, h2]
    · by_cases h2 : k = k' <;> simp [setArg, lookup_cons_pair, h1, h2, ih]

/-- Setting a list of bindings leaves each key with its last binding. -/
theorem lookup_foldl_setArg (bs : List (α × α)) (d : UserData α) (k : α) :
    (bs.foldl (fun d kv => setArg d kv.1 kv.2) d).lookup k = (bs.reverse.lookup k).or (d.lookup k) := by
  induction bs using List.reverseRecOn with
  | nil => simp
  | append_singleton bs kv ih =>
    obtain ⟨k', v⟩ := kv
    by_cases h : k = k' <;> simp [lookup_setArg, ih, lookup_cons_pair, h]

/-- `Value` answers with the outermost binding of the key, and asks the user values when the
chain has none. -/
theorem Context.value_eq (c : Context α) (d : UserData α) (k : α) :
    c.value d k = (c.bindings.reverse.lookup k).or (d.lookup k) := by
  induction c with
  | requestCtx => simp [Context.value, Context.bindings]
  | withValue p k' v ih =>
    by_cases h : k' = k
    · subst h; simp [Context.value, Context.bindings]
    · simp [Context.value, Context.bindings, lookup_cons_pair, h, Ne.symm h, ih]
  | withCancel p ih => simpa [Context.value, Context.bindings] using ih
  | timerCtx p t ih => simpa [Context.value, Context.bindings] using ih

omit [DecidableEq α] in
theorem Context.reached_eq_bindings {c : Context α} (h : c.NoDeadline) : c.reached = c.bindings := by
  induction c with
  | requestCtx => rfl
  | withValue p k v ih => simp [Context.reached, Context.bindings, ih h]
  | withCancel p ih => exact ih h
  | timerCtx p t => exact h.elim

/-- **Without a deadline layer, every binding arrives.**  After the walk, the user value of
every key is what the chain's `Value` answers for it: the outermost binding of a bound key,
and the old user value of any other. -/
theorem userValue_copyContextToWoodyContext {c : Context α} (h : c.NoDeadline)
    (d : UserData α) (k : α) :
    (copyContextToWoodyContext c d).lookup k = c.value d k := by
  rw [copyContextToWoodyContext_eq, lookup_foldl_setArg, Context.value_eq,
    Context.reached_eq_bindings h]

/-- The law on `TestContextKey` under a `WithCancel` layer. -/
theorem userValue_copyContextToWoodyContext_withCancel :
    let c : Context String := .withCancel (.withValue .requestCtx "TestContextKey" "okay")
    c.NoDeadline ∧
      (copyContextToWoodyContext c []).lookup "TestContextKey" = c.value [] "TestContextKey" :=
  ⟨trivial, userValue_copyContextToWoodyContext (by exact trivial) _ _⟩

/-- **A deadline layer hides the bindings below it.**  `TestContextKey` bound to `okay` over the
request's own context, which has no deadline, and a `context.WithTimeout` on top, as
`http.TimeoutHandler` puts on every request, whatever its deadline: `Value` finds the binding,
and the walk copies nothing. -/
theorem copyContextToWoodyContext_drops_below_deadline (d : Nat) :
    let c : Context String := .withDeadline (.withValue .requestCtx "TestContextKey" "okay") d
    (copyContextToWoodyContext c []).lookup "TestContextKey" = none ∧
      c.value [] "TestContextKey" = some "okay" := ⟨rfl, rfl⟩

omit [DecidableEq α] in
/-- **A sooner deadline below keeps the bindings reachable.**  `WithDeadline` over a parent
whose deadline is before `d` is a `*cancelCtx`, and the walk reaches what the parent's walk
reaches; otherwise it is a `*timerCtx`, and the walk reaches nothing below it. -/
theorem reached_withDeadline (p : Context α) (d : Nat) :
    (p.withDeadline d).reached = if p.deadline.any (· < d) then p.reached else [] := by
  unfold Context.withDeadline
  rcases p.deadline with _ | cur
  · rfl
  · by_cases h : cur < d <;> simp [h, Context.reached]

end Adaptor
end Woody
