import Woody.Cors.New

/-!
# Which origin `cors.New` lets through

The handler writes one `Access-Control-Allow-Origin` value `v` for every request it does
not skip, and `v` depends on the configuration and the `Origin` header `o` only: the same `v`
on the simple and on the preflight path, whatever else the request carries.  This file says
what `v` can be, for every configuration, every `o` and every `matchSubdomain`:

* `v` is `""`, `*` or `o`;
* `v` is a `*` other than `o` only when `*` is an entry of the origin list `L`;
* `v` is `o` (for `o` other than `""` and `*`) only when `L` names `o`, or some entry of `L`
  admits `o` through `matchSubdomain`, or `AllowOriginsFunc` accepts `o`;
* conversely, each of these three admissions gives `o` or `*`, and an accepting
  `AllowOriginsFunc` always gives `o`.

The loop is described once, by `matchOrigin_spec`: either no entry decides and the loop
gives `""`, or some entry of `L` decides and the loop gives `*` for a `*` entry and `o`
otherwise.  Everything else is read off that disjunction, so the order of `L`, its
duplicates and empty entries, and where `*` stands in it, never enter a proof.
-/

namespace Woody
namespace Cors

open Go

variable (matchSubdomain : String → String → Bool)

/-! ## 1.  The loop -/

/-- **The loop, once.**  Either no entry of `L` decides, and the loop gives `""`, or some
entry `p` decides (it is `*`, it is the origin, or it admits the origin), and the loop gives
`*` when `p` is `*` and the origin otherwise. -/
theorem matchOrigin_spec (o : String) (L : List String) :
    (matchOrigin matchSubdomain o L = "" ∧
      ∀ p ∈ L, p ≠ "*" ∧ p ≠ o ∧ matchSubdomain o p = false) ∨
    ∃ p ∈ L, (p = "*" ∨ p = o ∨ matchSubdomain o p = true) ∧
      matchOrigin matchSubdomain o L = if p = "*" then "*" else o := by
  induction L with
  | nil => simp [matchOrigin]
  | cons q L ih =>
    by_cases hstar : q = "*"
    · exact .inr ⟨q, .head _, .inl hstar, by simp [matchOrigin, hstar]⟩
    by_cases heq : q = o
    · exact .inr ⟨q, .head _, .inr (.inl heq), by simp [matchOrigin, hstar, heq]⟩
    cases hsub : matchSubdomain o q
    · rcases ih with ⟨hr, hall⟩ | ⟨p, hp, hdec, hr⟩
      · refine .inl ⟨by simp [matchOrigin, hstar, heq, hsub, hr], ?_⟩
        simpa [hstar, heq, hsub] using hall
      · exact .inr ⟨p, .tail _ hp, hdec, by simp [matchOrigin, hstar, heq, hsub, hr]⟩
    · exact .inr ⟨q, .head _, .inr (.inr hsub), by simp [matchOrigin, hstar, heq, hsub]⟩

/-- The loop gives `""`, `*` or the origin. -/
theorem matchOrigin_cases (o : String) (L : List String) :
    matchOrigin matchSubdomain o L = "" ∨ matchOrigin matchSubdomain o L = "*" ∨
      matchOrigin matchSubdomain o L = o := by
  rcases matchOrigin_spec matchSubdomain o L with ⟨hr, -⟩ | ⟨p, -, -, hr⟩
  · exact .inl hr
  · by_cases hp : p = "*" <;> simp [hr, hp]

/-- An origin that `L` names or admits stops the loop at `*` or at itself. -/
theorem matchOrigin_of_admitted {o : String} {L : List String}
    (h : o ∈ L ∨ ∃ p ∈ L, matchSubdomain o p = true) :
    matchOrigin matchSubdomain o L = o ∨ matchOrigin matchSubdomain o L = "*" := by
  rcases matchOrigin_spec matchSubdomain o L with ⟨-, hall⟩ | ⟨p, -, -, hr⟩
  · rcases h with ho | ⟨p, hp, hsub⟩
    · exact absurd rfl (hall o ho).2.1
    · exact absurd hsub (by simp [(hall p hp).2.2])
  · by_cases hp : p = "*" <;> simp [hr, hp]

/-- A `*` that is not the origin comes from a `*` entry. -/
theorem star_mem_of_matchOrigin {o : String} {L : List String}
    (h : matchOrigin matchSubdomain o L = "*") (ho : o ≠ "*") : "*" ∈ L := by
  rcases matchOrigin_spec matchSubdomain o L with ⟨hr, -⟩ | ⟨p, hp, -, hr⟩
  · simp [hr] at h
  · by_cases hps : p = "*"
    · exact hps ▸ hp
    · simp [hr, hps] at h; exact absurd h ho

/-- An origin other than `""` and `*` that the loop returns is named by `L` or admitted by
one of its entries. -/
theorem admitted_of_matchOrigin {o : String} {L : List String}
    (h : matchOrigin matchSubdomain o L = o) (hne : o ≠ "") (hns : o ≠ "*") :
    o ∈ L ∨ ∃ p ∈ L, matchSubdomain o p = true := by
  rcases matchOrigin_spec matchSubdomain o L with ⟨hr, -⟩ | ⟨p, hp, hdec, hr⟩
  · exact absurd (hr ▸ h).symm hne
  · rcases hdec with hps | rfl | hsub
    · simp [hr, hps] at h; exact absurd h.symm hns
    · exact .inl hp
    · exact .inr ⟨p, hp, hsub⟩

/-! ## 2.  The fallback -/

/-- The value is the loop's, or it is the origin and `AllowOriginsFunc` accepted it. -/
theorem allowOrigin_cases (cfg : Config) (o : String) :
    allowOrigin matchSubdomain cfg o = matchOrigin matchSubdomain o (allowOriginsOf cfg) ∨
      (allowOrigin matchSubdomain cfg o = o ∧
        ∃ f, cfg.allowOriginsFunc = some f ∧ f o = true) := by
  unfold allowOrigin
  rcases hf : cfg.allowOriginsFunc with _ | f
  · exact .inl rfl
  · dsimp only
    split_ifs with h
    · exact .inr ⟨rfl, f, rfl, h.2⟩
    · exact .inl rfl

/-- An accepting `AllowOriginsFunc` always wins: the loop's `""` and `*` are replaced, and
any other loop value is the origin already. -/
theorem allowOrigin_of_func {cfg : Config} {o : String} {f : String → Bool}
    (hf : cfg.allowOriginsFunc = some f) (ho : f o = true) :
    allowOrigin matchSubdomain cfg o = o := by
  unfold allowOrigin
  rw [hf]
  dsimp only
  split_ifs with h
  · rfl
  · rcases matchOrigin_cases matchSubdomain o (allowOriginsOf cfg) with h' | h' | h'
    · exact absurd ⟨.inl h', ho⟩ h
    · exact absurd ⟨.inr h', ho⟩ h
    · exact h'

/-! ## 3.  The value the handler writes -/

/-- **One value, on both paths.**  A request `Next` does not skip gets exactly one
`c.Set(Access-Control-Allow-Origin, _)`, with `allowOrigin`'s value, whatever its method. -/
theorem setValues_handler_allowOrigin (cfg : Config) (c : Request)
    (hnext : cfg.next.any (· c) = false) :
    (handler matchSubdomain cfg c).setValues headerAccessControlAllowOrigin =
      [allowOrigin matchSubdomain cfg (c.get headerOrigin)] := by
  unfold handler
  rw [if_neg (by simp [hnext])]
  dsimp only
  split_ifs <;> simp [headerAccessControlAllowOrigin, headerAccessControlAllowCredentials,
    headerAccessControlExposeHeaders, headerAccessControlAllowMethods,
    headerAccessControlAllowHeaders, headerAccessControlMaxAge]

/-- **The origin law of `cors.New`.**  For every configuration, every `Origin` value `o` and
every `matchSubdomain`, with `L` the split origin list, there is one value `v` that the
handler writes, as its one `Access-Control-Allow-Origin`, to every request with that `Origin`
which `Next` does not skip, simple and preflight alike; and `v` is `""`, `*` or `o`; a `*`
other than `o` needs a `*` entry; an `o` other than `""` and `*` needs `o` to be named by
`L`, admitted by an entry, or accepted by `AllowOriginsFunc`; each of these gives `o` or
`*`; and an accepting `AllowOriginsFunc` gives `o`. -/
theorem new_allowOrigin_law (cfg : Config) (o : String) :
    let L := split (replaceAll (if cfg.allowOrigins = "" then "*" else cfg.allowOrigins) ' ') ','
    let admitted := o ∈ L ∨ (∃ p ∈ L, matchSubdomain o p = true) ∨
      ∃ f, cfg.allowOriginsFunc = some f ∧ f o = true
    ∃ v, (∀ c : Request, cfg.next.any (· c) = false → c.get headerOrigin = o →
        (new matchSubdomain [cfg] c).setValues headerAccessControlAllowOrigin = [v]) ∧
      (v = "" ∨ v = "*" ∨ v = o) ∧
      (v = "*" → v ≠ o → "*" ∈ L) ∧
      (v = o → o ≠ "" → o ≠ "*" → admitted) ∧
      (admitted → v = o ∨ v = "*") ∧
      (∀ f, cfg.allowOriginsFunc = some f → f o = true → v = o) := by
  intro L admitted
  have hv := allowOrigin_cases matchSubdomain (resolveConfig [cfg]) o
  refine ⟨allowOrigin matchSubdomain (resolveConfig [cfg]) o, fun c hnext ho =>
    ho ▸ setValues_handler_allowOrigin matchSubdomain (resolveConfig [cfg]) c hnext,
    ?_, ?_, ?_, ?_, fun f hf ho => allowOrigin_of_func matchSubdomain hf ho⟩
  · rcases hv with h | ⟨h, -⟩
    · exact h ▸ matchOrigin_cases matchSubdomain o L
    · exact .inr (.inr h)
  · intro hs hne
    rcases hv with h | ⟨h, -⟩
    · exact star_mem_of_matchOrigin matchSubdomain (h ▸ hs) (hs ▸ hne.symm)
    · exact absurd h hne
  · intro ho hne hns
    rcases hv with h | ⟨-, hf⟩
    · exact (admitted_of_matchOrigin matchSubdomain (h ▸ ho) hne hns).elim .inl (.inr ∘ .inl)
    · exact .inr (.inr hf)
  · intro had
    rcases or_assoc.mpr had with hL | ⟨f, hf, ho⟩
    · rcases hv with hv | ⟨hv, -⟩
      · exact hv ▸ matchOrigin_of_admitted matchSubdomain hL
      · exact .inl hv
    · exact .inl (allowOrigin_of_func matchSubdomain hf ho)

/-- The law at the first case of `Test_CORS_AllowOriginScheme`: origin `http://example.com`
against the list `http://example.com`. -/
theorem new_allowOrigin_law_exampleCom :
    let ms : String → String → Bool := fun _ _ => false
    let cfg : Config := { allowOrigins := "http://example.com" }
    let o := "http://example.com"
    let L := split (replaceAll (if cfg.allowOrigins = "" then "*" else cfg.allowOrigins) ' ') ','
    let admitted := o ∈ L ∨ (∃ p ∈ L, ms o p = true) ∨
      ∃ f, cfg.allowOriginsFunc = some f ∧ f o = true
    ∃ v, (∀ c : Request, cfg.next.any (· c) = false → c.get headerOrigin = o →
        (new ms [cfg] c).setValues headerAccessControlAllowOrigin = [v]) ∧
      (v = "" ∨ v = "*" ∨ v = o) ∧
      (v = "*" → v ≠ o → "*" ∈ L) ∧
      (v = o → o ≠ "" → o ≠ "*" → admitted) ∧
      (admitted → v = o ∨ v = "*") ∧
      (∀ f, cfg.allowOriginsFunc = some f → f o = true → v = o) :=
  new_allowOrigin_law _ _ _

end Cors
end Woody
