import SettingsConsole.Proofs.Url.WellFormed

/-!
# The parts in the text of an address

The text of an address is taken apart at its first hash, its first question mark, its first colon
and the first slash after the authority, in this order. The text of a well-formed address comes
apart into the parts that it was made of.
-/

namespace SettingsConsole

open Text

/-- The parts of an address as they stand in its text. -/
structure Url.Parts where
  scheme : String
  /-- User name and password, host and port, with the signs between them. -/
  authority : String
  path : String
  /-- What follows the first question mark, if there is one before any hash. -/
  query : Option String
  /-- What follows the first hash. -/
  fragment : Option String
  deriving DecidableEq

namespace Url

/-- What stands before the first occurrence of a sign, and what follows it if it occurs. -/
def cutOff (sign : Char) (text : String) : String × Option String :=
  match cut sign text with
  | some (before, after) => (before, some after)
  | none => (text, none)

/-- Take the text of an address apart. -/
def Parts.ofText (text : String) : Parts :=
  let (rest, fragment) := cutOff '#' text
  let (rest, query) := cutOff '?' rest
  let (scheme, rest) := (cut ':' rest).getD ("", rest)
  let place := rest.toList.drop "//".length
  ⟨scheme, String.ofList (place.takeWhile (· ≠ '/')), String.ofList (place.dropWhile (· ≠ '/')),
    query, fragment⟩

/-- User name and password, host and port of an address. -/
def authorityText (u : Url) : String :=
  u.userinfo ++ u.host ++
    match u.port with
    | some n => ":" ++ toString n
    | none => ""

/-- The parts that an address is made of. -/
def parts (u : Url) : Parts := ⟨u.scheme.name, u.authorityText, u.path, u.query, u.fragment⟩

/-! ## Cutting -/

/-- A sign that does not occur before it is where a text is cut off. -/
theorem cutOff_append {sign : Char} {before : String} (h : sign ∉ before.toList) (after : String) :
    cutOff sign (before ++ String.singleton sign ++ after) = (before, some after) := by
  rw [cutOff, cut_append h]

/-- A text without a sign is not cut off. -/
theorem cutOff_of_not_mem {sign : Char} {text : String} (h : sign ∉ text.toList) :
    cutOff sign text = (text, none) := by
  rw [cutOff, cut_eq_none h]

/-! ## Well-formed addresses -/

variable {u : Url}

/-- What stands before the path is the scheme and the authority. -/
theorem origin_eq (u : Url) : u.origin = u.scheme.name ++ ":" ++ ("//" ++ u.authorityText) := by
  have hsigns : "://" = ":" ++ "//" := rfl
  unfold origin authorityText
  cases u.port <;> simp only [hsigns, String.append_assoc]

/-- The authority holds no sign that ends it. -/
theorem WellFormed.disjoint_authorityText (h : u.WellFormed) :
    authorityEnds.Disjoint u.authorityText.toList := by
  simp only [authorityText, String.toList_append, List.disjoint_append_right]
  refine ⟨⟨h.userinfo, h.host⟩, ?_⟩
  cases u.port with
  | none => exact List.disjoint_nil_right _
  | some n =>
    simp only [String.toList_append, List.disjoint_append_right]
    exact ⟨by decide, disjoint_toString n⟩

/-- What stands before the query holds no question mark and no hash. -/
theorem WellFormed.disjoint_base (h : u.WellFormed) :
    ['?', '#'].Disjoint (u.origin ++ u.path).toList := by
  have hauthority : ['?', '#'].Disjoint u.authorityText.toList :=
    fun _ hc => h.disjoint_authorityText (List.mem_cons_of_mem _ hc)
  have hscheme : ['?', '#'].Disjoint u.scheme.name.toList := by cases u.scheme <;> decide
  simp only [origin_eq, String.toList_append, List.disjoint_append_right]
  exact ⟨⟨⟨hscheme, by decide⟩, by decide, hauthority⟩, h.path⟩

/-- What stands before the query comes apart into the scheme and the rest. -/
theorem cut_base (u : Url) :
    cut ':' (u.origin ++ u.path) = some (u.scheme.name, "//" ++ (u.authorityText ++ u.path)) := by
  have hscheme : ':' ∉ u.scheme.name.toList := by cases u.scheme <;> decide
  rw [← cut_append hscheme]
  simp only [origin_eq, String.append_assoc]
  rfl

/-- What stands before the query is cut off at the question mark. -/
theorem WellFormed.cutOff_queryText (h : u.WellFormed) :
    cutOff '?' (u.origin ++ u.path ++ u.queryText) = (u.origin ++ u.path, u.query) := by
  have hbase : '?' ∉ (u.origin ++ u.path).toList := h.disjoint_base (by simp)
  unfold queryText
  cases u.query with
  | none => rw [String.append_empty, cutOff_of_not_mem hbase]
  | some q =>
    rw [← String.append_assoc]
    exact cutOff_append hbase q

/-- What stands before the fragment is cut off at the hash. -/
theorem WellFormed.cutOff_toText (h : u.WellFormed) :
    cutOff '#' u.toText = (u.origin ++ u.path ++ u.queryText, u.fragment) := by
  have hquery : '#' ∉ u.queryText.toList := by
    unfold queryText
    cases hq : u.query with
    | none => simp
    | some q => simpa using h.query q hq
  have hbase : '#' ∉ (u.origin ++ u.path ++ u.queryText).toList := by
    rw [String.toList_append, List.mem_append]
    exact fun hmem => hmem.elim (h.disjoint_base (by simp)) hquery
  unfold toText
  cases u.fragment with
  | none => rw [String.append_empty, cutOff_of_not_mem hbase]
  | some f =>
    rw [← String.append_assoc]
    exact cutOff_append hbase f

/-- Authority and path come apart at the slash with which the path begins. -/
theorem WellFormed.span_authority (h : u.WellFormed) :
    ((u.authorityText ++ u.path).toList.takeWhile (· ≠ '/') = u.authorityText.toList) ∧
      ((u.authorityText ++ u.path).toList.dropWhile (· ≠ '/') = u.path.toList) := by
  have hauthority : ∀ c ∈ u.authorityText.toList, decide (c ≠ '/') = true := by
    intro c hc
    refine decide_eq_true fun hslash => ?_
    exact h.disjoint_authorityText (by simp) (hslash ▸ hc)
  obtain ⟨rest, hpath⟩ := h.rooted
  have hhead : u.path.toList = '/' :: rest.toList := by rw [hpath, String.toList_append]; rfl
  rw [String.toList_append, List.takeWhile_append_of_pos hauthority,
    List.dropWhile_append_of_pos hauthority, hhead]
  simp

/-- The text of a well-formed address comes apart into the parts that it was made of. -/
theorem WellFormed.ofText_toText (h : u.WellFormed) : Parts.ofText u.toText = u.parts := by
  obtain ⟨hauthority, hpath⟩ := h.span_authority
  have hplace : ("//" ++ (u.authorityText ++ u.path)).toList.drop "//".length =
      (u.authorityText ++ u.path).toList := by
    rw [String.toList_append]
    rfl
  simp only [Parts.ofText, h.cutOff_toText, h.cutOff_queryText, cut_base, Option.getD_some, hplace,
    hauthority, hpath, String.ofList_toList, parts]

/-- A question mark in the text of a well-formed address stands before a query or in a fragment. -/
theorem WellFormed.mem_toText_iff (h : u.WellFormed) :
    '?' ∈ u.toText.toList ↔ u.query.isSome ∨ ∃ f, u.fragment = some f ∧ '?' ∈ f.toList := by
  have hbase : '?' ∉ (u.origin ++ u.path).toList := h.disjoint_base (by simp)
  rw [toText, String.toList_append, String.toList_append, List.mem_append, List.mem_append,
    or_iff_right hbase]
  unfold queryText
  cases u.query <;> cases u.fragment <;> simp

end Url

end SettingsConsole
