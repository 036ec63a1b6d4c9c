import Woody.Core

/-!
# `envvar.New` and `newEnvVar`

`middleware/envvar/envvar.go`.  On `GET` the handler builds an `EnvVar` from the process
environment and answers with its JSON; any other method is `ErrMethodNotAllowed`.
`newEnvVar` has two modes:

> `if len(cfg.ExportVars) > 0 { for key, defaultVal := range cfg.ExportVars { … } }`
> `else { for _, envVal := range os.Environ() { keyVal := strings.SplitN(envVal, "=", 2) … } }`

With `ExportVars` it sets each exported key to its default and then, when `os.LookupEnv`
finds the variable, to the variable's value.  Without it, it walks `os.Environ()`, cuts
each entry at its first `=`, skips the keys of `ExcludeVars` and sets every other key to
`keyVal[1]`.  That index is not guarded: an entry without `=` is cut into one piece, and
reading the second one panics.  A run of the model is therefore an `Option`, with `none` for
the panic.

## The environment

The process environment is the list `environ` that `os.Environ()` returns.  Go keeps the
entries of the process's `envp` that are not empty, an entry without `=` included, and
`os.LookupEnv(key)` finds the first entry whose text before its first `=` is `key` and
answers the text after that `=`; an entry without `=` is never found, and neither is the
empty key, which `syscall.Getenv` rejects before it looks (`lookupEnv`).  `os.Environ()`
never returns two entries of one key (`syscall.copyenv` blanks the later ones), so "the first
entry of a key" and "the last" name the same entry of a real environment.
-/

namespace Woody
namespace Envvar

open Go

/-- `envvar.Config`; `{}` is `Config{}`, with two nil maps. -/
structure Config where
  exportVars : StrMap String := ∅
  excludeVars : StrMap String := ∅

/-- `EnvVar`, serialized as `{"vars": …}`. -/
structure EnvVar where
  vars : StrMap String
  deriving DecidableEq

/-- `(*EnvVar).set`. -/
def EnvVar.set (envVar : EnvVar) (key val : String) : EnvVar := ⟨envVar.vars.insert key val⟩

@[simp] theorem EnvVar.lookup_set (envVar : EnvVar) (key val k : String) :
    (envVar.set key val).vars.lookup k = if k = key then some val else envVar.vars.lookup k := by
  by_cases h : k = key
  · subst h; simp [EnvVar.set]
  · simp [EnvVar.set, h, AList.lookup_insert_ne h]

/-- `os.LookupEnv(key)`, which is `syscall.Getenv(key)`: the empty key is never found;
any other key is found in the first entry whose text before its first `=` is `key`, and
answers the text after that `=`. -/
def lookupEnv (environ : List String) (key : String) : Option String :=
  if key = "" then none
  else (environ.find? fun e => '=' ∈ e.data ∧ before e '=' = key).map (after · '=')

/-- One turn of the `ExportVars` loop. -/
def exportStep (environ : List String) (vars : EnvVar) (key defaultVal : String) : EnvVar :=
  let vars := vars.set key defaultVal
  match lookupEnv environ key with
  | some envVal => vars.set key envVal
  | none => vars

/-- One turn of the `os.Environ()` loop.  `keyVal[0]` always exists; `keyVal[1]` is read only
for a key `ExcludeVars` does not hold, and it is missing, a panic, when the entry has no `=`. -/
def environStep (cfg : Config) (vars : EnvVar) (envVal : String) : Option EnvVar := do
  let keyVal := splitN envVal '='
  let key ← keyVal[0]?
  if key ∈ cfg.excludeVars then pure vars
  else
    let val ← keyVal[1]?
    pure (vars.set key val)

/-- `newEnvVar(cfg)`, for the process environment `environ`; `none` is a panic. -/
def newEnvVar (cfg : Config) (environ : List String) : Option EnvVar :=
  if 0 < cfg.exportVars.entries.length then
    some (cfg.exportVars.entries.foldl (fun vars e => exportStep environ vars e.1 e.2) ⟨∅⟩)
  else
    environ.foldlM (environStep cfg) ⟨∅⟩

/-- `envvar.New(config...)`.  `jsonEncoder` is the app's `JSONEncoder`, which may fail;
`none` is a panic. -/
def new (jsonEncoder : EnvVar → Except String (List UInt8)) (config : List Config)
    (environ : List String) (c : Request) : Option Outcome :=
  let cfg := config.headD {}
  if c.method ≠ methodGet then some ⟨[], .error .methodNotAllowed⟩ else do
    let envVar ← newEnvVar cfg environ
    match jsonEncoder envVar with
    | .error err => some ⟨[.status 500], .sendString err⟩
    | .ok varsByte => some ⟨[.set headerContentType mimeApplicationJSONCharsetUTF8], .send varsByte⟩

end Envvar
end Woody
