import Woody.Envvar.New

/-!
# What `newEnvVar` exposes, and when it panics

For every configuration and every environment whose entries all contain `=`,
`newEnvVar_exposes` gives the map `newEnvVar` returns, key by key, in terms of the
environment's entries themselves (an entry of the key `k` is a string `k ++ "=" ++ v`):

* with `ExportVars`, its keys are exactly those of `ExportVars`, each mapped to the value of
  the first entry of the key when there is one and the key is not empty (`os.LookupEnv`
  never finds the empty key), even when that value is `""`, and to its default otherwise;
* without, its keys are exactly the environment's keys that `ExcludeVars` does not hold,
  each mapped to the value of the last entry of the key.

`os.Environ()` holds one entry per key, so the first and the last entry are the same.

The `ExportVars` loop touches one key per turn, and `ExportVars` has distinct keys, so its
map is read off `foldl_exportStep` by `dlookup`.  The `os.Environ` loop is a fold in
`Option`, and the description has two halves: `foldlM_environStep_eq_none_iff` says when it
panics (exactly at an entry without `=` whose key `ExcludeVars` does not hold), and
`foldlM_environStep` gives its map when no entry can panic, by induction from the end of
the list, where the last entry of a key is the one that sticks.  `lookupEnv_eq_some_iff` and
`find?_reverse_eq_some_iff` translate the model's searches into `FirstEntry` and `LastEntry`.

The envvar handler does panic: `new_get_panics_entryWithoutEq` runs it on the environment
`["FOO"]`.
-/

namespace Woody
namespace Envvar

open Go

/-! ## 1.  The `ExportVars` loop -/

@[simp] theorem lookup_exportStep (environ : List String) (vars : EnvVar) (key d k : String) :
    (exportStep environ vars key d).vars.lookup k =
      if k = key then some ((lookupEnv environ key).getD d) else vars.vars.lookup k := by
  unfold exportStep
  cases lookupEnv environ key <;> by_cases h : k = key <;> simp [h]

/-- Over a list with distinct keys, the loop maps each of its keys to the variable's value or
its default, and leaves every other key as it found it. -/
theorem foldl_exportStep (environ : List String) (vars : EnvVar) (k : String)
    (l : List (Σ _ : String, String)) (hl : l.NodupKeys) :
    (l.foldl (fun vars e => exportStep environ vars e.1 e.2) vars).vars.lookup k =
      ((l.dlookup k).map fun d => (lookupEnv environ k).getD d).or (vars.vars.lookup k) := by
  induction l generalizing vars with
  | nil => simp
  | cons e l ih =>
    obtain ⟨key, d⟩ := e
    rw [List.nodupKeys_cons] at hl
    rw [List.foldl_cons, ih _ hl.2, lookup_exportStep]
    by_cases h : k = key
    · subst h
      simp [List.dlookup_cons_eq, List.dlookup_eq_none.mpr hl.1]
    · simp [h, List.dlookup_cons_ne l ⟨key, d⟩ h]

/-! ## 2.  The `os.Environ` loop -/

/-- On an entry with `=` the step cannot panic: it skips an excluded key and sets any other
key to the text after the first `=`. -/
theorem environStep_of_mem {cfg : Config} {vars : EnvVar} {e : String} (h : '=' ∈ e.data) :
    environStep cfg vars e = some (if before e '=' ∈ cfg.excludeVars then vars
      else vars.set (before e '=') (after e '=')) := by
  by_cases hx : before e '=' ∈ cfg.excludeVars <;> simp [environStep, h, hx]

/-- The step panics exactly on an entry without `=` (whose key is the whole entry) that
`ExcludeVars` does not hold. -/
theorem environStep_eq_none_iff {cfg : Config} {vars : EnvVar} {e : String} :
    environStep cfg vars e = none ↔ '=' ∉ e.data ∧ e ∉ cfg.excludeVars := by
  by_cases h : '=' ∈ e.data
  · simp [environStep_of_mem h, h]
  · by_cases hx : e ∈ cfg.excludeVars <;> simp [environStep, h, before_of_not_mem h, hx]

/-- **The loop panics exactly at an entry without `=` that `ExcludeVars` does not hold.**
Whether a step panics depends on its entry only, so the map built so far does not matter. -/
theorem foldlM_environStep_eq_none_iff (cfg : Config) (environ : List String) (vars : EnvVar) :
    environ.foldlM (environStep cfg) vars = none ↔
      ∃ e ∈ environ, '=' ∉ e.data ∧ e ∉ cfg.excludeVars := by
  induction environ generalizing vars with
  | nil => simp
  | cons e environ ih =>
    rw [List.foldlM_cons]
    cases hs : environStep cfg vars e with
    | none => exact iff_of_true rfl ⟨e, .head _, environStep_eq_none_iff.mp hs⟩
    | some vars' =>
      have he : ¬('=' ∉ e.data ∧ e ∉ cfg.excludeVars) := fun he' =>
        Option.some_ne_none _ (hs.symm.trans (environStep_eq_none_iff.mpr he'))
      simp [ih, he]

/-- **The loop's map, when no entry can panic.**  An excluded key keeps its value; any other
key takes the text after the first `=` of the last entry of that key, or keeps its value
when no entry has that key. -/
theorem foldlM_environStep (cfg : Config) (vars : EnvVar) (environ : List String)
    (henv : ∀ e ∈ environ, '=' ∈ e.data) :
    ∃ r, environ.foldlM (environStep cfg) vars = some r ∧ ∀ k, r.vars.lookup k =
      if k ∈ cfg.excludeVars then vars.vars.lookup k
      else ((environ.reverse.find? (before · '=' = k)).map (after · '=')).or (vars.vars.lookup k) := by
  induction environ using List.reverseRecOn with
  | nil => exact ⟨vars, rfl, fun k => by split <;> simp⟩
  | append_singleton l e ih =>
    obtain ⟨r, hr, hk⟩ := ih fun x hx => henv x (List.mem_append_left _ hx)
    have he : '=' ∈ e.data := henv e (List.mem_append_right _ (List.mem_singleton_self e))
    refine ⟨if before e '=' ∈ cfg.excludeVars then r else r.set (before e '=') (after e '='),
      by simp [List.foldlM_append, hr, environStep_of_mem he], fun k => ?_⟩
    by_cases hek : before e '=' = k
    · subst hek
      by_cases hx : before e '=' ∈ cfg.excludeVars <;> simp [hx, hk]
    · by_cases hx : before e '=' ∈ cfg.excludeVars <;> simp [hx, hk, hek, Ne.symm hek]

/-! ## 3.  The entries of a key

The law is stated from the environment list itself: the entry of a key `k` without `=` is a
string `k ++ "=" ++ v`, and `FirstEntry` and `LastEntry` pick the first and the last such
entry by the shape of the list.  `key_iff` is the bridge to the model's cut at the first `=`.
-/

/-- `k=v` is the first entry of the key `k`: `k` has no `=`, and the environment has the
entry `k ++ "=" ++ v` with no entry of the key `k` before it. -/
def FirstEntry (environ : List String) (k v : String) : Prop :=
  '=' ∉ k.data ∧ ∃ pre post, environ = pre ++ (k ++ "=" ++ v) :: post ∧ ∀ w, k ++ "=" ++ w ∉ pre

/-- `k=v` is the last entry of the key `k`: `k` has no `=`, and the environment has the
entry `k ++ "=" ++ v` with no entry of the key `k` after it. -/
def LastEntry (environ : List String) (k v : String) : Prop :=
  '=' ∉ k.data ∧ ∃ pre post, environ = pre ++ (k ++ "=" ++ v) :: post ∧ ∀ w, k ++ "=" ++ w ∉ post

theorem eq_not_mem_before (e : String) : '=' ∉ (before e '=').data := fun h => by
  simpa using List.mem_takeWhile_imp h

/-- For a key without `=`, an entry has that key exactly when it is `k ++ "=" ++ w`. -/
theorem key_iff {e k : String} (hk : '=' ∉ k.data) :
    ('=' ∈ e.data ∧ before e '=' = k) ↔ ∃ w, e = k ++ "=" ++ w :=
  ⟨fun ⟨he, hb⟩ => ⟨after e '=', (before_after_eq_iff hk).mp ⟨he, hb, rfl⟩⟩,
    fun ⟨_, hw⟩ => ((before_after_eq_iff hk).mpr hw).imp_right And.left⟩

theorem after_eq {k w : String} (hk : '=' ∉ k.data) : after (k ++ "=" ++ w) '=' = w :=
  ((before_after_eq_iff hk).mpr rfl).2.2

/-- **`os.LookupEnv` finds the first entry of a key**, and never the empty key. -/
theorem lookupEnv_eq_some_iff {environ : List String} {k v : String} :
    lookupEnv environ k = some v ↔ k ≠ "" ∧ FirstEntry environ k v := by
  unfold lookupEnv
  by_cases h0 : k = ""
  · simp [h0]
  simp only [h0, if_false, ne_eq, not_false_eq_true, true_and, Option.map_eq_some',
    List.find?_eq_some, decide_eq_true_eq, Bool.not_eq_true', decide_eq_false_iff_not]
  constructor
  · rintro ⟨e, ⟨hpe, pre, post, rfl, hpre⟩, rfl⟩
    have hk : '=' ∉ k.data := hpe.2 ▸ eq_not_mem_before e
    obtain ⟨w, rfl⟩ := (key_iff hk).mp hpe
    exact ⟨hk, pre, post, by rw [after_eq hk], fun w' hw' => hpre _ hw' ((key_iff hk).mpr ⟨w', rfl⟩)⟩
  · rintro ⟨hk, pre, post, rfl, hpre⟩
    refine ⟨_, ⟨(key_iff hk).mpr ⟨v, rfl⟩, pre, post, rfl, fun a ha hpa => ?_⟩, after_eq hk⟩
    obtain ⟨w, rfl⟩ := (key_iff hk).mp hpa
    exact hpre w ha

/-- **The `os.Environ` loop keeps the last entry of a key.**  In an environment whose entries
all contain `=`, the search from the end finds `k=v` exactly when that is the last entry of
`k`. -/
theorem find?_reverse_eq_some_iff {environ : List String} (henv : ∀ e ∈ environ, '=' ∈ e.data)
    {k v : String} :
    (environ.reverse.find? (before · '=' = k)).map (after · '=') = some v ↔ LastEntry environ k v := by
  simp only [Option.map_eq_some', List.find?_eq_some, decide_eq_true_eq, Bool.not_eq_true',
    decide_eq_false_iff_not]
  constructor
  · rintro ⟨e, ⟨hpe, as, bs, hrev, has⟩, rfl⟩
    have hk : '=' ∉ k.data := hpe ▸ eq_not_mem_before e
    have hmem : e ∈ environ := List.mem_reverse.mp (hrev ▸ List.mem_append_right _ (.head _))
    obtain ⟨w, rfl⟩ := (key_iff hk).mp ⟨henv e hmem, hpe⟩
    refine ⟨hk, bs.reverse, as.reverse, ?_, fun w' hw' => has _ (List.mem_reverse.mp hw') ?_⟩
    · rw [after_eq hk, ← List.reverse_reverse environ, hrev]
      simp
    · exact ((key_iff hk).mpr ⟨w', rfl⟩).2
  · rintro ⟨hk, pre, post, rfl, hpost⟩
    refine ⟨_, ⟨((key_iff hk).mpr ⟨v, rfl⟩).2, post.reverse, pre.reverse, by simp,
      fun a ha hpa => ?_⟩, after_eq hk⟩
    have hmem : a ∈ pre ++ (k ++ "=" ++ v) :: post :=
      List.mem_append_right _ (.tail _ (List.mem_reverse.mp ha))
    obtain ⟨w, rfl⟩ := (key_iff hk).mp ⟨henv a hmem, hpa⟩
    exact hpost w (List.mem_reverse.mp ha)

/-! ## 4.  `newEnvVar` -/

/-- The map `newEnvVar` returns, in the model's terms. -/
theorem lookup_newEnvVar (cfg : Config) (environ : List String)
    (henv : ∀ e ∈ environ, '=' ∈ e.data) :
    ∃ envVar, newEnvVar cfg environ = some envVar ∧ ∀ k, envVar.vars.lookup k =
      if 0 < cfg.exportVars.entries.length then
        (cfg.exportVars.lookup k).map fun defaultVal => (lookupEnv environ k).getD defaultVal
      else if k ∈ cfg.excludeVars then none
      else (environ.reverse.find? (before · '=' = k)).map (after · '=') := by
  unfold newEnvVar
  split_ifs with hx
  · refine ⟨_, rfl, fun k => ?_⟩
    rw [foldl_exportStep _ _ _ _ cfg.exportVars.nodupKeys]
    simp [AList.lookup]
  · obtain ⟨r, hr, hk⟩ := foldlM_environStep cfg ⟨∅⟩ environ henv
    exact ⟨r, hr, fun k => by rw [hk]; split_ifs <;> simp⟩

/-- **What `newEnvVar` exposes.**  For every configuration and every environment whose
entries all contain `=`, `newEnvVar` returns a map, and a key `k` holds `v` in it exactly
when: with `ExportVars`, `k` is a key of `ExportVars` with some default `d`, and `v` is the
value of the first entry `k=v` of a non-empty `k`, or `d` when the variable is not set; and
without `ExportVars`, `k` is not a key of `ExcludeVars` and `k=v` is the last entry of `k`. -/
theorem newEnvVar_exposes (cfg : Config) (environ : List String)
    (henv : ∀ e ∈ environ, '=' ∈ e.data) :
    ∃ envVar, newEnvVar cfg environ = some envVar ∧ ∀ k v, envVar.vars.lookup k = some v ↔
      if 0 < cfg.exportVars.entries.length then
        ∃ d, cfg.exportVars.lookup k = some d ∧
          (k ≠ "" ∧ FirstEntry environ k v ∨ v = d ∧ ∀ w, k = "" ∨ ¬FirstEntry environ k w)
      else k ∉ cfg.excludeVars ∧ LastEntry environ k v := by
  obtain ⟨envVar, hnew, hk⟩ := lookup_newEnvVar cfg environ henv
  refine ⟨envVar, hnew, fun k v => ?_⟩
  rw [hk]
  split_ifs with hx hex
  · have hunset : (∀ w, k = "" ∨ ¬FirstEntry environ k w) ↔ lookupEnv environ k = none := by
      simp only [Option.eq_none_iff_forall_not_mem, Option.mem_def, lookupEnv_eq_some_iff,
        not_and_or, ne_eq, not_not]
    simp only [hunset, ← lookupEnv_eq_some_iff, Option.map_eq_some']
    cases lookupEnv environ k <;> simp [eq_comm]
  · simp [hex]
  · rw [find?_reverse_eq_some_iff henv]
    simp [hex]

/-- The law in an environment of two variables, one with `=` in its value. -/
theorem newEnvVar_exposes_twoVars :
    let environ := ["PATH=/bin", "OPTS=a=b"]
    (∀ e ∈ environ, '=' ∈ e.data) ∧
    ∃ envVar, newEnvVar {} environ = some envVar ∧ ∀ k v, envVar.vars.lookup k = some v ↔
      if 0 < ({} : Config).exportVars.entries.length then
        ∃ d, ({} : Config).exportVars.lookup k = some d ∧
          (k ≠ "" ∧ FirstEntry environ k v ∨ v = d ∧ ∀ w, k = "" ∨ ¬FirstEntry environ k w)
      else k ∉ ({} : Config).excludeVars ∧ LastEntry environ k v :=
  ⟨by decide, newEnvVar_exposes {} _ (by decide)⟩

/-- **When `newEnvVar` panics.**  Exactly when there is no `ExportVars` and the environment
has an entry without `=` that `ExcludeVars` does not hold: the `ExportVars` loop never
indexes, and the other loop indexes `keyVal[1]` for every entry it does not skip. -/
theorem newEnvVar_eq_none_iff (cfg : Config) (environ : List String) :
    newEnvVar cfg environ = none ↔
      cfg.exportVars.entries.length = 0 ∧ ∃ e ∈ environ, '=' ∉ e.data ∧ e ∉ cfg.excludeVars := by
  unfold newEnvVar
  split_ifs with hx
  · simp [Nat.pos_iff_ne_zero.mp hx]
  · simp [Nat.eq_zero_of_not_pos hx, foldlM_environStep_eq_none_iff]

/-- **The envvar handler panics.**  A `GET` with the default configuration, in a process
whose environment holds the entry `FOO` (no `=`), indexes past the end of
`strings.SplitN("FOO", "=", 2) = ["FOO"]`, whatever the JSON encoder and the rest of the
request. -/
theorem new_get_panics_entryWithoutEq (jsonEncoder : EnvVar → Except String (List UInt8))
    (path protocol : String) (get : String → String) :
    new jsonEncoder [] ["FOO"] ⟨methodGet, path, protocol, get⟩ = none := by
  have h : newEnvVar {} ["FOO"] = none := by decide
  simp [new, h]

end Envvar
end Woody
