import SettingsConsole.Json.Printer
import SettingsConsole.Proofs.Text.NumeralValue

/-!
# The compact text of a value

Control characters in the texts of a value are escaped, and numbers, signs and words have none. So
the compact text of any value holds no control character, and with that no end of a line.
-/

namespace SettingsConsole

/-! ## Control characters -/

namespace Text

/-- No character comes before the space, where the control characters are. -/
def Graphic (cs : List Char) : Prop := ∀ c ∈ cs, 32 ≤ c.toNat

instance instDecidableGraphic (cs : List Char) : Decidable (Graphic cs) :=
  List.decidableBAll (fun c : Char => 32 ≤ c.toNat) cs

/-- Two stretches in a row have no control characters if none of them has. -/
theorem graphic_append {cs ds : List Char} : Graphic (cs ++ ds) ↔ Graphic cs ∧ Graphic ds :=
  List.forall_mem_append

/-- The end of a line is a control character. -/
theorem Graphic.newline_not_mem {cs : List Char} (h : Graphic cs) : '\n' ∉ cs :=
  fun hmem => absurd (h _ hmem) (by decide)

/-- The digits of a number are no control characters. -/
theorem graphic_toDigits (n : Nat) : Graphic (Nat.toDigits 10 n) := by
  intro c hc
  have hdigit : c.isDigit = true := Nat.isDigit_of_mem_toDigits (by decide) (by decide) hc
  have hzero : '0'.toNat ≤ c.toNat := (Char.isDigit_iff_toNat.mp hdigit).1
  exact Nat.le_trans (by decide) hzero

/-- The text of an integer has no control characters. -/
theorem graphic_toString (n : Int) : Graphic (toString n).toList := by
  cases n with
  | ofNat m =>
    rw [Numeral.toList_toString_ofNat]
    exact graphic_toDigits m
  | negSucc m =>
    rw [Numeral.toList_toString_negSucc]
    exact List.forall_mem_cons.mpr ⟨by decide, graphic_toDigits (m + 1)⟩

end Text

open Text

/-- The text of a decimal fraction has no control characters. -/
theorem Decimal.graphic_toText (d : Decimal) : Graphic d.toText.toList := by
  have hds := graphic_toDigits d.coefficient
  have htake (n : Nat) : Graphic ((Nat.toDigits 10 d.coefficient).take n) :=
    fun c hc => hds c (List.mem_of_mem_take hc)
  have hdrop (n : Nat) : Graphic ((Nat.toDigits 10 d.coefficient).drop n) :=
    fun c hc => hds c (List.mem_of_mem_drop hc)
  have hzeros (n : Nat) : Graphic (List.replicate n '0') :=
    fun c hc => List.eq_of_mem_replicate hc ▸ (by decide)
  simp only [toText, String.toList_append, graphic_append]
  refine ⟨by split <;> decide, ?_⟩
  split
  · decide
  · split
    · simp only [String.toList_append, String.toList_ofList, graphic_append]
      exact ⟨⟨hds, hzeros _⟩, by decide⟩
    · split
      · simp only [String.toList_append, String.toList_ofList, graphic_append]
        exact ⟨⟨htake _, by decide⟩, hdrop _⟩
      · split
        · simp only [String.toList_append, String.toList_ofList, graphic_append]
          exact ⟨by decide, hzeros _, hds⟩
        · simp only [String.toList_append, String.toList_ofList, graphic_append]
          refine ⟨⟨⟨htake _, ?_⟩, by decide⟩, graphic_toString _⟩
          split
          · decide
          · simp only [String.toList_append, String.toList_ofList, graphic_append]
            exact ⟨by decide, hdrop _⟩

namespace Json

/-! ## Values -/

/-- A lower-case hexadecimal digit is no control character. -/
theorem le_toNat_hexDigitLower {n : Nat} (h : n < 16) : 32 ≤ (hexDigitLower n).toNat := by
  have all : ∀ m ∈ List.range 16, 32 ≤ (hexDigitLower m).toNat := by decide
  exact all n (List.mem_range.mpr h)

/-- A character of a JSON string is written without control characters. -/
theorem graphic_escapeChar (c : Char) : Graphic (escapeChar c) := by
  unfold escapeChar
  -- All but the last two results are fixed texts.
  iterate 7
    split
    · decide
  split
  · next hlow =>
    have hhigh : c.toNat / 16 < 16 := by omega
    have hdigits : Graphic [hexDigitLower (c.toNat / 16), hexDigitLower (c.toNat % 16)] :=
      List.forall_mem_cons.mpr ⟨le_toNat_hexDigitLower hhigh,
        List.forall_mem_singleton.mpr (le_toNat_hexDigitLower (Nat.mod_lt _ (by decide)))⟩
    exact graphic_append.mpr ⟨(by decide : Graphic ['\\', 'u', '0', '0']), hdigits⟩
  · next hlow => exact List.forall_mem_singleton.mpr (Nat.not_lt.mp hlow)

/-- A JSON string has no control characters. -/
theorem graphic_renderText (s : String) : Graphic (renderText s).toList := by
  simp only [renderText, String.toList_append, String.toList_ofList, graphic_append]
  refine ⟨⟨by decide, fun c hc => ?_⟩, by decide⟩
  obtain ⟨a, -, ha⟩ := List.mem_flatMap.mp hc
  exact graphic_escapeChar a c ha

mutual

/-- The compact text of a value has no control characters. -/
theorem graphic_render (v : Json) : Graphic v.render.toList := by
  cases v with
  | null => simp only [render]; decide
  | bool b => cases b <;> simp only [render] <;> decide
  | int n => simpa only [render] using graphic_toString n
  | decimal d => simpa only [render] using d.graphic_toText
  | str s => simpa only [render] using graphic_renderText s
  | arr items =>
    simp only [render, String.toList_append, graphic_append]
    exact ⟨⟨by decide, graphic_renderItems items⟩, by decide⟩
  | obj members =>
    simp only [render, String.toList_append, graphic_append]
    exact ⟨⟨by decide, graphic_renderMembers members⟩, by decide⟩

/-- The items of an array are written without control characters. -/
theorem graphic_renderItems (items : List Json) : Graphic (renderItems items).toList := by
  match items with
  | [] => simp only [renderItems]; decide
  | [v] => simpa only [renderItems] using graphic_render v
  | v :: w :: rest =>
    simp only [renderItems, String.toList_append, graphic_append]
    exact ⟨⟨graphic_render v, by decide⟩, graphic_renderItems (w :: rest)⟩

/-- The members of an object are written without control characters. -/
theorem graphic_renderMembers (members : List (String × Json)) :
    Graphic (renderMembers members).toList := by
  match members with
  | [] => simp only [renderMembers]; decide
  | [(k, v)] =>
    simp only [renderMembers, String.toList_append, graphic_append]
    exact ⟨⟨graphic_renderText k, by decide⟩, graphic_render v⟩
  | (k, v) :: m :: rest =>
    simp only [renderMembers, String.toList_append, graphic_append]
    exact ⟨⟨⟨⟨graphic_renderText k, by decide⟩, graphic_render v⟩, by decide⟩,
      graphic_renderMembers (m :: rest)⟩

end

end Json

end SettingsConsole
