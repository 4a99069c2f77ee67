import SettingsConsole.Config.Resolve
import SettingsConsole.Proofs.Remote.Paging
import SettingsConsole.Proofs.Text.Blank
import SettingsConsole.Proofs.Text.NumeralValue
import SettingsConsole.Service.Basic

/-!
# The layers of the configuration

A flag wins over the environment, and the environment wins over the file. The layer that wins is
decided before anything else: a blank address of a flag hides a proper one of the file, and is then
dropped itself. The page size of the environment is read even if a flag says another one, so that
it has to be a number in any case.
-/

namespace SettingsConsole.Config

open Text

/-- The value of the highest layer that gives one. The highest layer comes first. -/
inductive Given {α : Type} : List (Option α) → α → Prop
  | top {a : α} {lower : List (Option α)} : Given (some a :: lower) a
  | under {a : α} {lower : List (Option α)} (h : Given lower a) : Given (none :: lower) a

/-- What becomes of a text that layers may give: a blank one is dropped, and any other one is kept
as it is. -/
inductive Kept (layers : List (Option String)) : Option String → Prop
  | absent (h : ∀ s, ¬ Given layers s) : Kept layers none
  | blank {s : String} (h : Given layers s) (hblank : isBlank s = true) : Kept layers none
  | proper {s : String} (h : Given layers s) (hblank : isBlank s = false) : Kept layers (some s)

/-- The page size that the variable of the environment gives, if it is set. -/
inductive SizeGiven : Option String → Option UInt32 → Prop
  | unset : SizeGiven none none
  | number {raw : String} {n : UInt32}
      (hwrites : Numeral.Writes false (trim raw).toList n.toNat) : SizeGiven (some raw) (some n)

/-- What the layers make of the configuration of a file. -/
structure Resolved (c : Config) (env : Environment) (o : Overrides) (final : Config) : Prop where
  endpoint : Kept [o.endpoint, env endpointVariable, c.endpoint] final.endpoint
  sessionKey : Kept [o.sessionKey, env sessionKeyVariable, c.sessionKey] final.sessionKey
  pageSize : ∃ size n, SizeGiven (env pageSizeVariable) size ∧
    Given [o.pageSize, size, some c.pageSize] n ∧ final.pageSize.toNat = min (max n.toNat 1) 500
  language : Given [o.language, some c.language] final.language
  connectTimeout : final.connectTimeout = c.connectTimeout
  requestTimeout : final.requestTimeout = c.requestTimeout

/-- Apply the environment and then flags to the configuration of a file, and bring the result into
its normal form. -/
def applyLayers (c : Config) (env : Environment) (o : Overrides) : Except Failure Config :=
  match c.applyEnvironment env with
  | (c, none) => .ok (c.applyOverrides o).normalize
  | (_, some bad) => .error (.badPageSize bad)

/-! ## The highest layer -/

section

variable {α : Type} {layers : List (Option α)} {a b : α}

/-- The highest layer is the first one that is there. -/
theorem given_iff_foldr : Given layers a ↔ layers.foldr Option.or none = some a := by
  induction layers with
  | nil => exact ⟨nofun, nofun⟩
  | cons layer lower ih =>
    rw [List.foldr_cons]
    cases layer with
    | none =>
      rw [Option.none_or, ← ih]
      constructor
      · intro h
        cases h with
        | under h => exact h
      · exact .under
    | some b =>
      rw [Option.some_or, Option.some_inj]
      constructor
      · intro h
        cases h with
        | top => rfl
      · rintro rfl
        exact .top

/-- The layers give one value at most. -/
theorem Given.unique (ha : Given layers a) (hb : Given layers b) : a = b :=
  Option.some_inj.mp ((given_iff_foldr.mp ha).symm.trans (given_iff_foldr.mp hb))

/-- One layer above a value that is there in any case. -/
theorem given_getD (upper : Option α) (a : α) : Given [upper, some a] (upper.getD a) := by
  cases upper with
  | none => exact .under .top
  | some _ => exact .top

/-- Two layers above a value that is there in any case. -/
theorem given_getD_getD (upper lower : Option α) (a : α) :
    Given [upper, lower, some a] (upper.getD (lower.getD a)) := by
  cases upper with
  | none => exact .under (given_getD lower a)
  | some _ => exact .top

end

/-- A text is kept exactly if it is the one of the highest layer, and not blank. -/
theorem kept_iff {layers : List (Option String)} {kept : Option String} :
    Kept layers kept ↔ kept = (layers.foldr Option.or none).bind unlessBlank := by
  cases hgiven : layers.foldr Option.or none with
  | none =>
    have habsent (s : String) : ¬ Given layers s := fun h => by
      rw [given_iff_foldr, hgiven] at h
      cases h
    rw [Option.bind_none]
    constructor
    · intro h
      cases h with
      | absent _ => rfl
      | blank h _ => exact absurd h (habsent _)
      | proper h _ => exact absurd h (habsent _)
    · rintro rfl
      exact .absent habsent
  | some s =>
    have hs : Given layers s := given_iff_foldr.mpr hgiven
    rw [Option.bind_some, unlessBlank]
    constructor
    · intro h
      cases h with
      | absent h => exact absurd hs (h s)
      | blank h hblank => rw [hs.unique h, if_pos hblank]
      | proper h hblank =>
        rw [hs.unique h, hblank]
        rfl
    · rintro rfl
      cases hblank : isBlank s with
      | true => exact .blank hs hblank
      | false => exact .proper hs hblank

/-- The layers leave one text at most. -/
theorem Kept.unique {layers : List (Option String)} {a b : Option String} (ha : Kept layers a)
    (hb : Kept layers b) : a = b :=
  (kept_iff.mp ha).trans (kept_iff.mp hb).symm

/-! ## The page size of the environment -/

/-- A variable gives one page size at most. -/
theorem SizeGiven.unique {value : Option String} {a b : Option UInt32}
    (ha : SizeGiven value a) (hb : SizeGiven value b) : a = b := by
  cases ha with
  | unset =>
    cases hb with
    | unset => rfl
  | number hwrites =>
    cases hb with
    | number hwrites' =>
      have hok := (Numeral.word32_eq_ok_iff.mpr hwrites).symm.trans
        (Numeral.word32_eq_ok_iff.mpr hwrites')
      rw [Except.ok.inj hok]

/-- A variable gives no page size exactly if it is set to something else than a number. -/
theorem not_exists_sizeGiven_iff {value : Option String} :
    (¬ ∃ size, SizeGiven value size) ↔
      ∃ raw, value = some raw ∧
        ¬ ∃ n : UInt32, Numeral.Writes false (trim raw).toList n.toNat := by
  constructor
  · intro h
    cases value with
    | none => exact absurd ⟨none, .unset⟩ h
    | some raw => exact ⟨raw, rfl, fun ⟨n, hwrites⟩ => h ⟨some n, .number hwrites⟩⟩
  · rintro ⟨raw, rfl, hnumeral⟩ ⟨size, hsize⟩
    cases hsize with
    | number hwrites => exact hnumeral ⟨_, hwrites⟩

section

variable {env : Environment}

/-- The environment is applied if it gives a page size or leaves it open. -/
theorem applyEnvironment_of_sizeGiven {size : Option UInt32}
    (h : SizeGiven (env pageSizeVariable) size) (c : Config) :
    c.applyEnvironment env =
      ({ c with
          endpoint := (env endpointVariable).or c.endpoint
          sessionKey := (env sessionKeyVariable).or c.sessionKey
          pageSize := size.getD c.pageSize }, none) := by
  generalize henv : env pageSizeVariable = value at h
  cases h with
  | unset => simp only [applyEnvironment, henv, Option.getD_none]
  | number hwrites =>
    simp only [applyEnvironment, henv, Numeral.word32_eq_ok_iff.mpr hwrites, Option.getD_some]

/-- A page size that is no number makes the environment fail. -/
theorem applyEnvironment_of_not_number {raw : String} (h : env pageSizeVariable = some raw)
    (hnumeral : ¬ ∃ n : UInt32, Numeral.Writes false (trim raw).toList n.toNat) (c : Config) :
    ∃ fault, (c.applyEnvironment env).2 = some ⟨raw, fault⟩ := by
  cases hread : Numeral.word32 (trim raw) with
  | ok n => exact absurd ⟨n, Numeral.word32_eq_ok_iff.mp hread⟩ hnumeral
  | error fault => exact ⟨fault, by simp only [applyEnvironment, h, hread]⟩

end

/-! ## All layers -/

/-- The layers are applied to the configuration of the file. -/
theorem resolve_eq_bind (files : Files) (env : Environment) (path : Option String)
    (o : Overrides) :
    resolve files env path o = (fromFiles files env path).bind fun c => c.applyLayers env o :=
  rfl

section

variable {c final : Config} {env : Environment} {o : Overrides} {size : Option UInt32}

/-- The result, if the page size of the environment is a number or is not set. -/
theorem applyLayers_of_sizeGiven (h : SizeGiven (env pageSizeVariable) size) :
    c.applyLayers env o = .ok
      { c with
        endpoint := (o.endpoint.or ((env endpointVariable).or c.endpoint)).bind unlessBlank
        sessionKey := (o.sessionKey.or ((env sessionKeyVariable).or c.sessionKey)).bind unlessBlank
        pageSize := Paging.clampSize (o.pageSize.getD (size.getD c.pageSize))
        language := o.language.getD c.language } := by
  rw [applyLayers, applyEnvironment_of_sizeGiven h]
  rfl

/-- A page size of the environment that is no number makes the layers fail, whatever the flags
say. -/
theorem exists_applyLayers_eq_error (h : ¬ ∃ size, SizeGiven (env pageSizeVariable) size) :
    ∃ e, c.applyLayers env o = .error e := by
  obtain ⟨raw, henv, hnumeral⟩ := not_exists_sizeGiven_iff.mp h
  obtain ⟨fault, hfault⟩ := applyEnvironment_of_not_number henv hnumeral c
  refine ⟨.badPageSize ⟨raw, fault⟩, ?_⟩
  rw [applyLayers]
  split
  · next hnone =>
    rw [hnone] at hfault
    cases hfault
  · next hsome =>
    rw [hsome, Option.some_inj] at hfault
    rw [hfault]

/-- What the layers make of a configuration is what they say. -/
theorem resolved_of_eq_ok (h : c.applyLayers env o = .ok final) : Resolved c env o final := by
  by_cases hsize : ∃ size, SizeGiven (env pageSizeVariable) size
  · obtain ⟨size, hsize⟩ := hsize
    rw [applyLayers_of_sizeGiven hsize] at h
    cases h
    exact
      { endpoint := kept_iff.mpr (by simp)
        sessionKey := kept_iff.mpr (by simp)
        pageSize := ⟨size, _, hsize, given_getD_getD o.pageSize size c.pageSize,
          Paging.toNat_clampSize _⟩
        language := given_getD o.language c.language
        connectTimeout := rfl
        requestTimeout := rfl }
  · obtain ⟨e, he⟩ := exists_applyLayers_eq_error (c := c) (o := o) hsize
    rw [he] at h
    cases h

/-- The layers make one configuration at most. -/
theorem Resolved.unique {other : Config} (h : Resolved c env o final)
    (h' : Resolved c env o other) : final = other := by
  obtain ⟨size, n, hsize, hn, hfinal⟩ := h.pageSize
  obtain ⟨size', n', hsize', hn', hother⟩ := h'.pageSize
  have hpageSize : final.pageSize = other.pageSize := by
    rw [hsize.unique hsize'] at hn
    rw [← UInt32.toNat_inj, hfinal, hother, hn.unique hn']
  cases final
  cases other
  rw [Config.mk.injEq]
  exact ⟨h.endpoint.unique h'.endpoint, h.sessionKey.unique h'.sessionKey, hpageSize,
    h.connectTimeout.trans h'.connectTimeout.symm, h.requestTimeout.trans h'.requestTimeout.symm,
    h.language.unique h'.language⟩

/-- The layers succeed with what they say, and with nothing else. -/
theorem applyLayers_eq_ok_iff : c.applyLayers env o = .ok final ↔ Resolved c env o final := by
  refine ⟨resolved_of_eq_ok, fun h => ?_⟩
  obtain ⟨size, n, hsize, -, -⟩ := h.pageSize
  have hok := applyLayers_of_sizeGiven (c := c) (o := o) hsize
  rw [hok, (resolved_of_eq_ok hok).unique h]

/-- The layers fail exactly if the environment sets a page size that is no number. -/
theorem exists_applyLayers_eq_error_iff :
    (∃ e, c.applyLayers env o = .error e) ↔
      ∃ raw, env pageSizeVariable = some raw ∧
        ¬ ∃ n : UInt32, Numeral.Writes false (trim raw).toList n.toNat := by
  rw [← not_exists_sizeGiven_iff]
  constructor
  · rintro ⟨e, he⟩ ⟨size, hsize⟩
    rw [applyLayers_of_sizeGiven hsize] at he
    cases he
  · exact exists_applyLayers_eq_error

end

/-- The normal form of a normal form is itself. -/
theorem normalize_normalize (c : Config) : c.normalize.normalize = c.normalize := by
  simp only [normalize, Paging.clampSize_clampSize, bind_unlessBlank_bind]

/-- The layers fail exactly if the environment sets a page size that is no number, whatever the
flags say. Otherwise the text of the highest layer wins and is kept unless it is blank, and the page
size of the highest layer is brought into the range from 1 to 500, where the service uses it as it
is. The language is the one of the flags or else of the file, and the timeouts are those of the
file. -/
theorem resolve_exactly (files : Files) (env : Environment) (path : Option String)
    (o : Overrides) :
    (resolve files env path o = (fromFiles files env path).bind fun c => c.applyLayers env o) ∧
      (∀ c : Config, (∃ e, c.applyLayers env o = .error e) ↔
        ∃ raw, env pageSizeVariable = some raw ∧
          ¬ ∃ n : UInt32, Numeral.Writes false (trim raw).toList n.toNat) ∧
      (∀ c final : Config, c.applyLayers env o = .ok final ↔ Resolved c env o final) ∧
      (∀ c : Config, c.normalize.normalize = c.normalize) ∧
      (∀ (m : Type → Type) (registry : Registry m) (c : Config),
        (Service.new registry c.normalize.pageSize).pageSize = c.normalize.pageSize) :=
  ⟨resolve_eq_bind files env path o, fun _ => exists_applyLayers_eq_error_iff,
    fun _ _ => applyLayers_eq_ok_iff, normalize_normalize,
    fun _ _ c => Paging.clampSize_clampSize c.pageSize⟩

/-- A blank endpoint of a flag hides the one of the file. -/
example :
    applyLayers { default with endpoint := some "http://a" } (fun _ => none)
      { endpoint := some " ", pageSize := some 900 } = .ok { default with pageSize := 500 } := by
  rfl

end SettingsConsole.Config
