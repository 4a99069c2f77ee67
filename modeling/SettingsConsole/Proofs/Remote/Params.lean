import SettingsConsole.Proofs.Remote.Query
import SettingsConsole.Proofs.Text.Blank

/-!
# Parameters and their query string

Parameters are built step by step, and the last step that sets a key decides what it holds. Their
query string loses nothing of them: it comes apart into the keys, in their order, with the values as
they are sent. No key and no value can end a pair early or begin another one, because a query is
written in unreserved characters, escaped bytes and the separators of the pairs alone.
-/

namespace SettingsConsole

open Text

/-! ## Building parameters -/

namespace Params

/-- A step of building parameters. -/
inductive BuildStep where
  /-- Set a key, whatever its value is. -/
  | set (key : String) (value : ParamValue)
  /-- Set a key if there is a value that is no blank text. -/
  | setSome (key : String) (value : Option ParamValue)

/-- The parameters after a step. -/
def BuildStep.apply (p : Params) : BuildStep → Params
  | set key value => p.insert key value
  | setSome key value => p.insertSome key value

/-- The parameters that are built step by step. -/
def build (steps : List BuildStep) : Params := steps.foldl BuildStep.apply Dict.empty

/-- The member that a step sets, if it sets one. -/
def BuildStep.member? : BuildStep → Option (String × ParamValue)
  | set key value => some (key, value)
  | setSome _ none => none
  | setSome key (some (.number n)) => some (key, .number n)
  | setSome key (some (.text s)) => if trim s = "" then none else some (key, .text s)

/-- A step inserts the member that it sets, and changes nothing if it sets none. -/
theorem BuildStep.apply_eq (p : Params) (step : BuildStep) :
    step.apply p = step.member?.elim p fun m => p.insert m.1 m.2 := by
  cases step with
  | set key value => rfl
  | setSome key value =>
    cases value with
    | none => rfl
    | some value =>
      cases value with
      | number n => rfl
      | text s =>
        by_cases hblank : trim s = ""
        · have hs : isBlank s = true := (trim_eq_empty_iff s).mp hblank
          simp [apply, insertSome, ParamValue.isBlank, member?, hs, hblank]
        · have hs : isBlank s = false := isBlank_eq_false hblank
          simp [apply, insertSome, ParamValue.isBlank, member?, hs, hblank]

/-- What is built is the map of the members that the steps set, in their order. -/
theorem build_eq_ofList (steps : List BuildStep) :
    build steps = Dict.ofList (steps.filterMap BuildStep.member?) := by
  have hfold (p : Params) : steps.foldl BuildStep.apply p =
      (steps.filterMap BuildStep.member?).foldl (fun d m => d.insert m.1 m.2) p := by
    induction steps generalizing p with
    | nil => rfl
    | cons step steps ih =>
      rw [List.foldl_cons, ih, BuildStep.apply_eq, List.filterMap_cons]
      cases step.member? <;> rfl
  exact hfold Dict.empty

end Params

/-! ## The characters of a query -/

namespace Query

/-- A text of unreserved characters, ampersands, equals signs, and percent signs with two upper-case
hexadecimal digits after each. -/
inductive Escaped : List Char → Prop
  | nil : Escaped []
  | kept {c : Char} {cs : List Char} :
      Percent.isUnreserved c = true ∨ c = '&' ∨ c = '=' → Escaped cs → Escaped (c :: cs)
  | byte {a b : Char} {cs : List Char} : a ∈ "0123456789ABCDEF".toList →
      b ∈ "0123456789ABCDEF".toList → Escaped cs → Escaped ('%' :: a :: b :: cs)

/-- Escaped texts one after another are an escaped text. -/
theorem Escaped.append {cs ds : List Char} (hcs : Escaped cs) (hds : Escaped ds) :
    Escaped (cs ++ ds) := by
  induction hcs with
  | nil => exact hds
  | kept hc _ ih => exact .kept hc ih
  | byte ha hb _ ih => exact .byte ha hb ih

/-- The digits of a written byte are upper-case hexadecimal digits. -/
theorem hexDigitUpper_mem {n : Nat} (h : n < 16) :
    hexDigitUpper n ∈ "0123456789ABCDEF".toList := by
  have all : ∀ m ∈ List.range 16, hexDigitUpper m ∈ "0123456789ABCDEF".toList := by decide
  exact all n (List.mem_range.mpr h)

/-- Written bytes are an escaped text. -/
theorem escaped_flatMap_ofByte (bs : List UInt8) : Escaped (bs.flatMap Percent.ofByte) := by
  induction bs with
  | nil => exact .nil
  | cons b bs ih =>
    have hb : b.toNat < 256 := b.toNat_lt
    rw [List.flatMap_cons]
    refine Escaped.append ?_ ih
    exact .byte (hexDigitUpper_mem (by omega)) (hexDigitUpper_mem (by omega)) .nil

/-- An encoded component is an escaped text. -/
theorem escaped_encode (s : String) : Escaped (Percent.encode s).toList := by
  rw [Percent.encode, String.toList_ofList, Percent.escape]
  induction s.toList with
  | nil => exact .nil
  | cons c cs ih =>
    rw [List.flatMap_cons]
    refine Escaped.append ?_ ih
    by_cases hc : Percent.isUnreserved c = true
    · simp only [hc]
      exact .kept (.inl hc) .nil
    · simp only [hc]
      exact escaped_flatMap_ofByte _

/-- A written query is an escaped text. -/
theorem escaped_write (pairs : List (String × String)) : Escaped (write pairs).toList := by
  have hpair (pair : String × String) : Escaped (writePair pair).toList := by
    simp only [writePair, String.toList_append]
    have hequals : Escaped "=".toList := .kept (.inr (.inr rfl)) .nil
    exact ((escaped_encode pair.1).append hequals).append (escaped_encode pair.2)
  induction pairs with
  | nil => exact .nil
  | cons pair pairs ih =>
    by_cases hrest : pairs = []
    · subst hrest
      exact hpair pair
    · have hand : Escaped "&".toList := .kept (.inr (.inl rfl)) .nil
      have hcons : write (pair :: pairs) = writePair pair ++ "&" ++ write pairs :=
        join_cons (by simpa using hrest)
      simp only [hcons, String.toList_append]
      exact ((hpair pair).append hand).append ih

end Query

/-! ## Reading a query back -/

namespace Params

/-- The pairs of parameters are in strictly increasing order of their keys. -/
theorem pairwise_pairs (p : Params) : p.pairs.Pairwise fun a b => a.1 < b.1 := by
  rw [pairs, List.pairwise_map]
  exact p.sorted

/-- A pair of parameters is a key with its value as it is sent. -/
theorem mem_pairs_iff (p : Params) (key text : String) :
    (key, text) ∈ p.pairs ↔ p.display? key = some text := by
  simp only [pairs, display?, List.mem_map, Prod.exists, Prod.mk.injEq, p.mem_toList_iff,
    Option.map_eq_some_iff]
  constructor
  · rintro ⟨k, value, hvalue, rfl, htext⟩
    exact ⟨value, hvalue, htext⟩
  · rintro ⟨value, hvalue, htext⟩
    exact ⟨key, value, hvalue, rfl, htext⟩

/-- A text is sent as it is, and a number as its decimal numeral. -/
theorem display?_eq_some_iff (p : Params) (key text : String) :
    p.display? key = some text ↔
      p.get? key = some (.text text) ∨
        ∃ n : Int64, p.get? key = some (.number n) ∧ text = toString n.toInt := by
  rw [display?]
  cases p.get? key with
  | none => simp
  | some value =>
    cases value with
    | text s => simp [ParamValue.display]
    | number n =>
      have hdisplay : (ParamValue.number n).display = toString n.toInt := rfl
      simp [hdisplay, eq_comm]

/-- Only empty parameters have no pairs. -/
theorem pairs_eq_nil_iff (p : Params) : p.pairs = [] ↔ p = Dict.empty := by
  rw [pairs, List.map_eq_nil_iff]
  exact ⟨fun h => Dict.ext h, fun h => by rw [h]; rfl⟩

/-- The query string of parameters that are not empty splits into their pairs. -/
theorem readPair_split_toQuery {p : Params} (h : p ≠ Dict.empty) :
    (split '&' p.toQuery).map Query.readPair = p.pairs.map some := by
  rw [toQuery_eq_write, Query.split_write (mt p.pairs_eq_nil_iff.mp h),
    Query.map_readPair_map_writePair]

/-- Only empty parameters have an empty query string. -/
theorem toQuery_eq_empty_iff (p : Params) : p.toQuery = "" ↔ p = Dict.empty := by
  constructor
  · intro hquery
    by_contra hne
    have hread := readPair_split_toQuery hne
    rw [hquery] at hread
    have hfirst : (none : Option (String × String)) ∈ p.pairs.map some := by
      rw [← hread]
      exact List.mem_singleton.mpr rfl
    simp at hfirst
  · rintro rfl
    rfl

/-- Parameters with the same query string have the same pairs. -/
theorem pairs_eq_of_toQuery_eq {p q : Params} (h : p.toQuery = q.toQuery) : p.pairs = q.pairs := by
  by_cases hp : p = Dict.empty
  · have hq : q = Dict.empty := by
      rw [← toQuery_eq_empty_iff, ← h, toQuery_eq_empty_iff]
      exact hp
    rw [hp, hq]
  · have hq : q ≠ Dict.empty := by
      rw [Ne, ← toQuery_eq_empty_iff, ← h, toQuery_eq_empty_iff]
      exact hp
    have hread := readPair_split_toQuery hp
    rw [h, readPair_split_toQuery hq] at hread
    exact ((List.map_inj_right fun _ _ => Option.some.inj).mp hread).symm

/-- Parameters with the same keys and the same values as they are sent have the same pairs. -/
theorem pairs_eq_of_display?_eq {p q : Params} (h : ∀ key, p.display? key = q.display? key) :
    p.pairs = q.pairs := by
  have hsame : p.map ParamValue.display = q.map ParamValue.display := by
    refine Dict.ext_get? fun key => ?_
    rw [Dict.get?_map, Dict.get?_map]
    exact h key
  exact congrArg Dict.toList hsame

/-- Building keeps, for every key, the value of the last step that sets it. The query string of any
parameters is empty if they are, and otherwise comes apart into their keys with the values as they
are sent, each key once and in increasing order. A text is sent as it is, and a number as its
decimal numeral. The query string is an escaped text, and two maps have the same one exactly if
their keys and the values as they are sent are the same. -/
theorem query_lossless (steps : List BuildStep) (p q : Params) :
    (∀ key, (build steps).get? key = (steps.filterMap BuildStep.member?).reverse.lookup key) ∧
      (p = Dict.empty → p.toQuery = "") ∧
      (p ≠ Dict.empty → (split '&' p.toQuery).map Query.readPair = p.pairs.map some) ∧
      p.pairs.Pairwise (fun a b => a.1 < b.1) ∧
      (∀ key text, (key, text) ∈ p.pairs ↔ p.display? key = some text) ∧
      (∀ key text, p.display? key = some text ↔
        p.get? key = some (.text text) ∨
          ∃ n : Int64, p.get? key = some (.number n) ∧ text = toString n.toInt) ∧
      Query.Escaped p.toQuery.toList ∧
      (p.toQuery = q.toQuery ↔ ∀ key, p.display? key = q.display? key) := by
  refine ⟨fun key => ?_, p.toQuery_eq_empty_iff.mpr, readPair_split_toQuery, p.pairwise_pairs,
    p.mem_pairs_iff, p.display?_eq_some_iff, ?_, fun h key => ?_, fun h => ?_⟩
  · rw [build_eq_ofList, Dict.get?_ofList]
  · rw [toQuery_eq_write]
    exact Query.escaped_write _
  · refine Option.ext fun text => ?_
    rw [← mem_pairs_iff, ← mem_pairs_iff, pairs_eq_of_toQuery_eq h]
  · rw [toQuery_eq_write, toQuery_eq_write, pairs_eq_of_display?_eq h]

/-- A later value replaces an earlier one, and a blank one is passed over. -/
example : (build [.set "page" (.number 1), .set "name" (.text "a"),
    .setSome "name" (some (.text "b&c")), .setSome "page" (some (.text " "))]).toQuery =
      "name=b%26c&page=1" := by
  decide +kernel

end Params

end SettingsConsole
