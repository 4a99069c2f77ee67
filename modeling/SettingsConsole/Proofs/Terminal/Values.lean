import SettingsConsole.Proofs.Text.Blank
import SettingsConsole.Proofs.Text.Split
import SettingsConsole.Proofs.Traversal
import SettingsConsole.Terminal.Command

/-!
# Values from arguments

An argument gives a value for a key if there is something before its first equals sign. Arguments
are read exactly if all of them do, and then each key has the value of the last one that gives it;
otherwise the first one that does not is reported. So a map is read back from arguments that give
its members, in any order, whatever its values are.
-/

namespace SettingsConsole.Command

open Text

/-! ## One argument -/

/-- An argument gives a value for a key. -/
inductive Gives : String → String → String → Prop
  | intro {before : String} (value : String) (hequals : '=' ∉ before.toList)
      (hkey : isBlank before = false) : Gives (before ++ "=" ++ value) (trim before) value

/-- What is wrong with an argument that gives no value for any key. -/
inductive Faulty : String → CommandError → Prop
  | noEquals {arg : String} (hequals : '=' ∉ arg.toList) : Faulty arg (.noEquals arg)
  | noKey {before : String} (value : String) (hequals : '=' ∉ before.toList)
      (hkey : isBlank before = true) :
      Faulty (before ++ "=" ++ value) (.noKey (before ++ "=" ++ value))

/-- An argument is read at its first equals sign. -/
theorem readValue_append {before : String} (hequals : '=' ∉ before.toList) (value : String) :
    readValue (before ++ "=" ++ value) =
      if isBlank before then .error (.noKey (before ++ "=" ++ value))
      else .ok (trim before, value) := by
  have hcut : cut '=' (before ++ "=" ++ value) = some (before, value) := cut_append hequals value
  have hblank : (trim before).isEmpty = isBlank before := by
    rw [Bool.eq_iff_iff, String.isEmpty_iff, trim_eq_empty_iff]
  simp only [readValue, hcut, hblank]

/-- An argument without an equals sign is refused. -/
theorem readValue_of_not_mem {arg : String} (h : '=' ∉ arg.toList) :
    readValue arg = .error (.noEquals arg) := by
  rw [readValue, cut_eq_none h]

/-- An argument that gives a value is read. -/
theorem Gives.readValue_eq {arg key value : String} (h : Gives arg key value) :
    readValue arg = .ok (key, value) := by
  cases h with
  | intro _ hequals hkey => rw [readValue_append hequals, hkey]; rfl

/-- A faulty argument is refused. -/
theorem Faulty.readValue_eq {arg : String} {e : CommandError} (h : Faulty arg e) :
    readValue arg = .error e := by
  cases h with
  | noEquals hequals => exact readValue_of_not_mem hequals
  | noKey value hequals hkey => rw [readValue_append hequals, if_pos hkey]

/-- Every argument gives a value or is faulty. -/
theorem gives_or_faulty (arg : String) :
    (∃ key value, Gives arg key value) ∨ ∃ e, Faulty arg e := by
  by_cases hmem : '=' ∈ arg.toList
  · obtain ⟨before, value, rfl, hequals⟩ := exists_eq_append_of_mem hmem
    cases hkey : isBlank before with
    | false => exact .inl ⟨_, _, .intro value hequals hkey⟩
    | true => exact .inr ⟨_, .noKey value hequals hkey⟩
  · exact .inr ⟨_, .noEquals hmem⟩

/-- An argument is read exactly if it gives a value. -/
theorem readValue_eq_ok_iff {arg key value : String} :
    readValue arg = .ok (key, value) ↔ Gives arg key value := by
  refine ⟨fun h => ?_, Gives.readValue_eq⟩
  rcases gives_or_faulty arg with ⟨key', value', hgives⟩ | ⟨e, hfaulty⟩
  · cases h.symm.trans hgives.readValue_eq
    exact hgives
  · cases h.symm.trans hfaulty.readValue_eq

/-- An argument is refused exactly if it is faulty. -/
theorem readValue_eq_error_iff {arg : String} {e : CommandError} :
    readValue arg = .error e ↔ Faulty arg e := by
  refine ⟨fun h => ?_, Faulty.readValue_eq⟩
  rcases gives_or_faulty arg with ⟨key, value, hgives⟩ | ⟨e', hfaulty⟩
  · cases h.symm.trans hgives.readValue_eq
  · cases h.symm.trans hfaulty.readValue_eq
    exact hfaulty

/-- An argument gives one value, for one key. -/
theorem Gives.unique {arg key value key' value' : String} (h : Gives arg key value)
    (h' : Gives arg key' value') : key = key' ∧ value = value' :=
  Prod.mk.inj (Except.ok.inj (h.readValue_eq.symm.trans h'.readValue_eq))

/-! ## All arguments -/

/-- The last of some arguments that gives a value for a key gives this one. -/
def LastGives (args : List String) (key value : String) : Prop :=
  ∃ before arg after, args = before ++ arg :: after ∧ Gives arg key value ∧
    ∀ later ∈ after, ∀ other, ¬ Gives later key other

/-- Arguments are read as the map of what is read of each of them. -/
theorem readValues_eq_ok_iff {args : List String} {values : FieldValues} :
    readValues args = .ok values ↔
      ∃ ms, args.mapM readValue = .ok ms ∧ Dict.ofList ms = values := by
  rw [readValues]
  cases args.mapM readValue <;> simp [Except.map]

/-- Arguments are read exactly if every one of them gives a value. -/
theorem exists_readValues_iff (args : List String) :
    (∃ values, readValues args = .ok values) ↔ ∀ arg ∈ args, ∃ key value, Gives arg key value := by
  have hread : (∃ values, readValues args = .ok values) ↔ ∃ ms, args.mapM readValue = .ok ms := by
    simp only [readValues_eq_ok_iff, exists_comm, exists_and_left, exists_eq', and_true]
  rw [hread, Traversal.exists_mapM_eq_ok_iff]
  simp only [Prod.exists, readValue_eq_ok_iff]

/-- Arguments are refused exactly for the first one that is faulty. -/
theorem readValues_eq_error_iff (args : List String) (e : CommandError) :
    readValues args = .error e ↔ ∃ before arg after, args = before ++ arg :: after ∧
      (∀ a ∈ before, ∃ key value, Gives a key value) ∧ Faulty arg e := by
  have hread : readValues args = .error e ↔ args.mapM readValue = .error e := by
    rw [readValues]
    cases args.mapM readValue <;> simp [Except.map]
  rw [hread, Traversal.mapM_eq_error_iff]
  simp only [Prod.exists, readValue_eq_ok_iff, readValue_eq_error_iff]

/-- A key has the value that the last argument for it gives. -/
theorem get?_eq_some_iff_lastGives {args : List String} {values : FieldValues}
    (h : readValues args = .ok values) (key value : String) :
    values.get? key = some value ↔ LastGives args key value := by
  obtain ⟨ms, hread, rfl⟩ := readValues_eq_ok_iff.mp h
  have hms : args.map readValue = ms.map .ok :=
    Traversal.map_eq_map_iff_forall₂.mpr (Traversal.mapM_eq_ok_iff.mp hread)
  rw [Dict.get?_ofList_eq_some_iff]
  constructor
  · rintro ⟨before, after, rfl, hafter⟩
    rw [List.map_append, List.map_cons, List.map_eq_append_iff] at hms
    obtain ⟨before', rest, rfl, -, hrest⟩ := hms
    obtain ⟨arg, after', rfl, harg, hafter'⟩ := List.map_eq_cons_iff.mp hrest
    refine ⟨before', arg, after', rfl, readValue_eq_ok_iff.mp harg, ?_⟩
    intro later hlater other hgives
    have hread : readValue later ∈ after.map .ok := hafter' ▸ List.mem_map_of_mem hlater
    obtain ⟨m, hm, hok⟩ := List.mem_map.mp hread
    cases hok.trans hgives.readValue_eq
    exact hafter _ hm rfl
  · rintro ⟨before, arg, after, rfl, hgives, hafter⟩
    rw [List.map_append, List.map_cons, hgives.readValue_eq] at hms
    obtain ⟨before', rest, rfl, -, hrest⟩ := List.map_eq_append_iff.mp hms.symm
    obtain ⟨m, after', rfl, hm, hafter'⟩ := List.map_eq_cons_iff.mp hrest
    obtain rfl := Except.ok.inj hm
    refine ⟨before', after', rfl, fun m hm hkey => ?_⟩
    have hread : .ok m ∈ after.map readValue := hafter' ▸ List.mem_map_of_mem hm
    obtain ⟨later, hlater, hok⟩ := List.mem_map.mp hread
    exact hafter later hlater m.2 (readValue_eq_ok_iff.mp (hkey ▸ hok))

/-- The last argument for a key is one of the arguments. -/
theorem LastGives.exists_mem {args : List String} {key value : String}
    (h : LastGives args key value) : ∃ arg ∈ args, Gives arg key value := by
  obtain ⟨before, arg, after, rfl, hgives, -⟩ := h
  exact ⟨arg, List.mem_append_right before List.mem_cons_self, hgives⟩

/-- A key has a value from the last argument for it exactly if there is an argument for it. -/
theorem exists_lastGives_iff (args : List String) (key : String) :
    (∃ value, LastGives args key value) ↔ ∃ arg ∈ args, ∃ value, Gives arg key value := by
  constructor
  · rintro ⟨value, hlast⟩
    obtain ⟨arg, harg, hgives⟩ := hlast.exists_mem
    exact ⟨arg, harg, value, hgives⟩
  · induction args with
    | nil => simp
    | cons a rest ih =>
      intro h
      by_cases hrest : ∃ arg ∈ rest, ∃ value, Gives arg key value
      · obtain ⟨value, before, arg, after, rfl, hgives, hafter⟩ := ih hrest
        exact ⟨value, a :: before, arg, after, rfl, hgives, hafter⟩
      · -- Only the first argument is left to give a value.
        obtain ⟨arg, harg, value, hgives⟩ := h
        rcases List.mem_cons.mp harg with rfl | harg
        · exact ⟨value, [], arg, rest, rfl, hgives,
            fun later hlater other hother => hrest ⟨later, hlater, other, hother⟩⟩
        · exact absurd ⟨arg, harg, value, hgives⟩ hrest

/-- If there is one value that some arguments give for a key, the last one for it gives it too. -/
theorem lastGives_iff_of_forall {args : List String} {key : String}
    (hone : ∀ arg ∈ args, ∀ other ∈ args, ∀ v w, Gives arg key v → Gives other key w → v = w)
    (value : String) : LastGives args key value ↔ ∃ arg ∈ args, Gives arg key value := by
  constructor
  · exact LastGives.exists_mem
  · rintro ⟨arg, harg, hgives⟩
    obtain ⟨last, hlast⟩ := (exists_lastGives_iff args key).mpr ⟨arg, harg, value, hgives⟩
    obtain ⟨other, hother, hgives'⟩ := hlast.exists_mem
    rwa [hone arg harg other hother value last hgives hgives']

/-! ## Reading a map back -/

/-- A key as it can be given: no white space around it, not empty, and without equals signs. -/
structure Plain (key : String) : Prop where
  trim_eq : trim key = key
  ne_empty : key ≠ ""
  equals_not_mem : '=' ∉ key.toList

/-- The argument for a plain key gives the value that is written in it, and nothing else. -/
theorem Plain.gives_iff {key : String} (h : Plain key) {value key' value' : String} :
    Gives (key ++ "=" ++ value) key' value' ↔ key = key' ∧ value = value' := by
  have hblank : isBlank key = false := isBlank_eq_false (by rw [h.trim_eq]; exact h.ne_empty)
  have hgives : Gives (key ++ "=" ++ value) (trim key) value := .intro value h.equals_not_mem hblank
  rw [h.trim_eq] at hgives
  constructor
  · exact hgives.unique
  · rintro ⟨rfl, rfl⟩
    exact hgives

/-- A map with plain keys is read back from arguments that give its members, in any order. -/
theorem readValues_of_perm {m : FieldValues} {args : List String}
    (hkeys : ∀ key value, m.get? key = some value → Plain key)
    (hargs : args.Perm (m.toList.map fun (key, value) => key ++ "=" ++ value)) :
    readValues args = .ok m := by
  have hmem (arg : String) :
      arg ∈ args ↔ ∃ key value, m.get? key = some value ∧ key ++ "=" ++ value = arg := by
    simp only [hargs.mem_iff, List.mem_map, Prod.exists, m.mem_toList_iff]
  have hgives (key value : String) :
      (∃ arg ∈ args, Gives arg key value) ↔ m.get? key = some value := by
    constructor
    · rintro ⟨arg, harg, hgives⟩
      obtain ⟨key', value', hget, rfl⟩ := (hmem arg).mp harg
      obtain ⟨rfl, rfl⟩ := (hkeys key' value' hget).gives_iff.mp hgives
      exact hget
    · intro hget
      exact ⟨_, (hmem _).mpr ⟨key, value, hget, rfl⟩,
        (hkeys key value hget).gives_iff.mpr ⟨rfl, rfl⟩⟩
  have hone (key : String) : ∀ arg ∈ args, ∀ other ∈ args, ∀ v w,
      Gives arg key v → Gives other key w → v = w := by
    intro arg harg other hother v w hv hw
    have hsame := ((hgives key v).mp ⟨arg, harg, hv⟩).symm.trans
      ((hgives key w).mp ⟨other, hother, hw⟩)
    exact Option.some.inj hsame
  have hall : ∀ arg ∈ args, ∃ key value, Gives arg key value := by
    intro arg harg
    obtain ⟨key, value, hget, rfl⟩ := (hmem arg).mp harg
    exact ⟨key, value, (hkeys key value hget).gives_iff.mpr ⟨rfl, rfl⟩⟩
  obtain ⟨values, hvalues⟩ := (exists_readValues_iff args).mpr hall
  have hsame : values = m := by
    refine Dict.ext_get? fun key => Option.ext fun value => ?_
    rw [get?_eq_some_iff_lastGives hvalues, lastGives_iff_of_forall (hone key), hgives]
  rw [hvalues, hsame]

/-- Arguments are read exactly if every one of them gives a value, and refused for the first one
that is faulty. What is read has the keys that are given, each with the value of the last argument
for it. A map with plain keys is read back from arguments that give its members, in any order. -/
theorem readValues_exactly (args : List String) :
    ((∃ values, readValues args = .ok values) ↔
        ∀ arg ∈ args, ∃ key value, Gives arg key value) ∧
      (∀ e, readValues args = .error e ↔ ∃ before arg after, args = before ++ arg :: after ∧
        (∀ a ∈ before, ∃ key value, Gives a key value) ∧ Faulty arg e) ∧
      (∀ values, readValues args = .ok values → ∀ key,
        ((∃ value, values.get? key = some value) ↔ ∃ arg ∈ args, ∃ value, Gives arg key value) ∧
          ∀ value, values.get? key = some value ↔ LastGives args key value) ∧
      ∀ m : FieldValues, (∀ key value, m.get? key = some value → Plain key) →
        args.Perm (m.toList.map fun (key, value) => key ++ "=" ++ value) →
        readValues args = .ok m := by
  refine ⟨exists_readValues_iff args, readValues_eq_error_iff args, fun values h key => ?_,
    fun m => readValues_of_perm⟩
  have hget (value : String) : values.get? key = some value ↔ LastGives args key value :=
    get?_eq_some_iff_lastGives h key value
  refine ⟨?_, hget⟩
  simp only [hget, exists_lastGives_iff]

/-- White space around a key does not count. The last value of a key does, with all that is in
it. -/
example : (readValues ["a=1", " b = x=y ", "a\t=2"]).map Dict.toList =
    .ok [("a", "2"), ("b", " x=y ")] := by
  decide +kernel

end SettingsConsole.Command
