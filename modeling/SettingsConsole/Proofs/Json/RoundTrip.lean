import SettingsConsole.Json.Parser
import SettingsConsole.Json.Printer
import SettingsConsole.Proofs.Text.NumeralValue

/-!
# Values that are read back from their text

The compact text of a value is read as the value again, if there are no decimal fractions in it, its
integers have 64 bits at most, and it nests no deeper than a document may. The members of an object
may stand in any order. What is read then is the object that they make.

A value inside of another one stands before a comma or before a closing bracket or brace, so that
digits end where they should. Reading a text takes no more steps than the text has characters.
-/

namespace SettingsConsole.Json

open Text

/-! ## Before and after a value -/

/-- What may stand after a value: nothing, a comma, or a closing bracket or brace. -/
def Follows (rest : List Char) : Prop := ∀ c ∈ rest.head?, c = ',' ∨ c = ']' ∨ c = '}'

/-- A comma or a closing bracket or brace may stand after a value, whatever comes then. -/
theorem follows_cons {c : Char} (h : c = ',' ∨ c = ']' ∨ c = '}') (rest : List Char) :
    Follows (c :: rest) := by
  rintro _ ⟨⟩
  exact h

/-- Neither digits nor a fraction nor an exponent follow a value. -/
theorem Follows.ends {rest : List Char} (h : Follows rest) :
    rest.takeWhile isAsciiDigit = [] ∧ rest.dropWhile isAsciiDigit = rest ∧
      fraction rest = some (none, rest) ∧ exponent rest = some (none, rest) := by
  cases rest with
  | nil => exact ⟨rfl, rfl, rfl, rfl⟩
  | cons c rest => obtain rfl | rfl | rfl := h c rfl <;> exact ⟨rfl, rfl, rfl, rfl⟩

/-- Text that begins neither with white space nor with the end of an array or an object. -/
def Opens (cs : List Char) : Prop :=
  ∃ c ds, cs = c :: ds ∧ c ∉ [' ', '\n', '\t', '\r', ']', '}']

/-- Only the beginning of a text counts. -/
theorem Opens.append {cs : List Char} (h : Opens cs) (rest : List Char) : Opens (cs ++ rest) := by
  obtain ⟨c, ds, rfl, hc⟩ := h
  exact ⟨c, ds ++ rest, rfl, hc⟩

/-- There is no white space to skip. -/
theorem Opens.skipWhite_eq {cs : List Char} (h : Opens cs) : skipWhite cs = cs := by
  obtain ⟨c, ds, rfl, hc⟩ := h
  simp only [List.mem_cons, List.not_mem_nil, or_false, not_or] at hc
  rw [skipWhite, if_neg]
  simp only [hc, or_self, not_false_eq_true]

/-- A digit is neither white space nor an end. -/
theorem opens_of_isDigit {c : Char} (h : c.isDigit = true) (cs : List Char) : Opens (c :: cs) := by
  refine ⟨c, cs, rfl, fun hc => ?_⟩
  simp only [List.mem_cons, List.not_mem_nil, or_false] at hc
  obtain rfl | rfl | rfl | rfl | rfl | rfl := hc <;> exact absurd h (by decide)

/-! ## Strings -/

/-- A control character is read back from its code. -/
theorem stringBody_control {c : Char} (h : c.toNat < 32) (done rest : List Char) :
    stringBody done ('\\' :: 'u' :: '0' :: '0' :: hexDigitLower (c.toNat / 16) ::
      hexDigitLower (c.toNat % 16) :: rest) = stringBody (c :: done) rest := by
  have hzero : hexValue? '0' = some 0 := by decide
  have hunit : hexUnit? '0' '0' (hexDigitLower (c.toNat / 16)) (hexDigitLower (c.toNat % 16)) =
      some c.toNat := by
    rw [hexUnit?, hzero, hexValue?_hexDigitLower (by omega), hexValue?_hexDigitLower (by omega)]
    simp only [Option.some.injEq]
    omega
  have hhigh : ¬ (0xD800 ≤ c.toNat ∧ c.toNat < 0xDC00) := by omega
  have hlow : ¬ (0xDC00 ≤ c.toNat ∧ c.toNat < 0xE000) := by omega
  rw [stringBody, hunit]
  simp only [if_neg hhigh, if_neg hlow, Char.ofNat_toNat]

/-- A character is read back from what is written for it. -/
theorem stringBody_escapeChar (c : Char) (done rest : List Char) :
    stringBody done (escapeChar c ++ rest) = stringBody (c :: done) rest := by
  have hofNat {n : Nat} (h : c.toNat = n) : c = Char.ofNat n := by rw [← h, Char.ofNat_toNat]
  unfold escapeChar
  -- The escapes of one letter come first.
  iterate 5
    split
    · next hc =>
      subst hc
      rfl
  iterate 2
    split
    · next hc =>
      rw [hofNat hc]
      rfl
  split
  · next hcontrol => exact stringBody_control hcontrol done rest
  · next hquote hslash _ _ _ _ _ hplain =>
    rw [List.singleton_append, stringBody, if_neg hplain]
    all_goals grind

/-- Characters are read back up to the closing quote. -/
theorem stringBody_flatMap (cs done rest : List Char) :
    stringBody done (cs.flatMap escapeChar ++ '"' :: rest) =
      some (String.ofList (done.reverse ++ cs), rest) := by
  induction cs generalizing done with
  | nil =>
    rw [List.append_nil]
    rfl
  | cons c cs ih =>
    rw [List.flatMap_cons, List.append_assoc, stringBody_escapeChar, ih, List.reverse_cons,
      List.append_assoc, List.singleton_append]

/-- A JSON string begins with a quote, after which its text is read back. -/
theorem exists_renderText (s : String) :
    ∃ cs, (renderText s).toList = '"' :: cs ∧
      ∀ rest, stringBody [] (cs ++ rest) = some (s, rest) := by
  refine ⟨s.toList.flatMap escapeChar ++ ['"'], ?_, fun rest => ?_⟩
  · simp only [renderText, String.toList_append, String.toList_ofList]
    rfl
  · rw [List.append_assoc, List.singleton_append, stringBody_flatMap, List.reverse_nil,
      List.nil_append, String.ofList_toList]

/-- A JSON string opens a text. -/
theorem opens_renderText (s : String) : Opens (renderText s).toList := by
  obtain ⟨cs, hcs, -⟩ := exists_renderText s
  exact ⟨'"', cs, hcs, by decide⟩

/-! ## Numbers -/

/-- The digits of a number begin with a digit. -/
theorem exists_toDigits (n : Nat) : ∃ c cs, Nat.toDigits 10 n = c :: cs ∧ c.isDigit = true := by
  obtain ⟨hne, hall⟩ := Numeral.areDigits_toDigits n
  obtain ⟨c, cs, hcs⟩ := List.exists_cons_of_ne_nil hne
  exact ⟨c, cs, hcs, hall c (hcs ▸ List.mem_cons_self)⟩

/-- The digits of a positive number do not begin with zero. -/
theorem head?_toDigits_ne {n : Nat} (h : 0 < n) : (Nat.toDigits 10 n).head? ≠ some '0' := by
  induction n using Nat.strongRecOn with
  | ind n ih =>
    rw [Nat.toDigits_eq_if (by decide)]
    split
    · next hn =>
      have all : ∀ m ∈ List.range 10, 0 < m → m.digitChar ≠ '0' := by decide
      intro hhead
      exact all n (List.mem_range.mpr hn) h (Option.some.inj hhead)
    · next hn =>
      have hhigh := ih (n / 10) (by omega) (by omega)
      obtain ⟨c, cs, hcs, -⟩ := exists_toDigits (n / 10)
      rw [hcs] at hhigh ⊢
      exact hhigh

/-- The digits of a number have no zero in front of other digits. -/
theorem not_leading_toDigits (n : Nat) :
    ¬ ((Nat.toDigits 10 n).isEmpty ∨
      ((Nat.toDigits 10 n).head? = some '0' ∧ 1 < (Nat.toDigits 10 n).length)) := by
  rintro (hempty | ⟨hzero, hlength⟩)
  · exact Nat.toDigits_ne_nil (List.isEmpty_iff.mp hempty)
  · have hn : n = 0 := Nat.eq_zero_of_not_pos fun hpos => head?_toDigits_ne hpos hzero
    subst hn
    exact absurd hlength (by decide)

/-- The digits of a number have the number as their value. -/
theorem ofDigits_toDigits (n : Nat) : ofDigits (Nat.toDigits 10 n) = n := by
  have hfold (ds : List Char) (start : Nat) :
      ds.foldl (fun n d => n * 10 + digitValue d) start = Nat.ofDigitChars 10 ds start := by
    induction ds generalizing start with
    | nil => rfl
    | cons d ds ih =>
      rw [List.foldl_cons, ih, Nat.ofDigitChars_cons, Nat.mul_comm]
      rfl
  rw [ofDigits, hfold, Nat.ofDigitChars_ten_toDigits]

/-- The digits of a number are read as those of a whole number, after either sign. -/
theorem number_toDigits {rest : List Char} (h : Follows rest) (negative : Bool) (n : Nat) :
    number negative (Nat.toDigits 10 n ++ rest) =
      (wholeNumber negative (Nat.toDigits 10 n)).map (·, rest) := by
  obtain ⟨htake, hdrop, hfraction, hexponent⟩ := h.ends
  have hdigits : ∀ c ∈ Nat.toDigits 10 n, isAsciiDigit c = true :=
    (Numeral.areDigits_toDigits n).all
  simp only [number, List.takeWhile_append_of_pos hdigits, List.dropWhile_append_of_pos hdigits,
    htake, hdrop, List.append_nil, if_neg (not_leading_toDigits n), hfraction, hexponent,
    Option.bind_eq_bind, Option.bind_some]
  cases wholeNumber negative (Nat.toDigits 10 n) <;> rfl

/-- A value that begins with a digit is a number. -/
theorem value_digit {c : Char} (hc : c.isDigit = true) (fuel depth : Nat) (cs : List Char) :
    value (fuel + 1) depth (c :: cs) = number false (c :: cs) := by
  have hne {d : Char} (hd : d.isDigit = false) : c ≠ d := by
    rintro rfl
    exact Bool.false_ne_true (hd.symm.trans hc)
  rw [value, (opens_of_isDigit hc cs).skipWhite_eq]
  -- All rows but the last one are for values that begin with another character.
  split
  case h_8 => rfl
  all_goals
    next heq => exact absurd (List.cons.inj heq).1 (hne rfl)

/-! ## Arrays and objects -/

section

variable {fuel depth : Nat} {v : Json} {cs rest : List Char}

/-- After its bracket the items of an array are read. -/
theorem value_bracket (h : Opens cs) :
    value (fuel + 1) (depth + 1) ('[' :: cs) = items fuel depth [] cs := by
  rw [value, skipWhite, if_neg (by decide)]
  simp only [h.skipWhite_eq]
  split
  · obtain ⟨c, ds, heq, hc⟩ := h
    cases heq
    exact absurd hc (by decide)
  · rfl

/-- After its brace the members of an object are read. -/
theorem value_brace (h : Opens cs) :
    value (fuel + 1) (depth + 1) ('{' :: cs) = members fuel depth [] cs := by
  rw [value, skipWhite, if_neg (by decide)]
  simp only [h.skipWhite_eq]
  split
  · obtain ⟨c, ds, heq, hc⟩ := h
    cases heq
    exact absurd hc (by decide)
  · rfl

/-- A value before a closing bracket is the last item. -/
theorem items_last (h : value fuel depth cs = some (v, ']' :: rest)) (done : List Json) :
    items (fuel + 1) depth done cs = some (arr (done.reverse ++ [v]), rest) := by
  rw [items, h, ← List.reverse_cons]
  rfl

/-- A value before a comma is an item, and another one comes next. -/
theorem items_next (h : value fuel depth cs = some (v, ',' :: rest)) (done : List Json) :
    items (fuel + 1) depth done cs = items fuel depth (v :: done) rest := by
  rw [items, h]
  rfl

/-- A member before a closing brace is the last one. -/
theorem members_last (h : value fuel depth cs = some (v, '}' :: rest)) (key : String)
    (done : List (String × Json)) :
    members (fuel + 1) depth done ((renderText key).toList ++ ':' :: cs) =
      some (object (done.reverse ++ [(key, v)]), rest) := by
  obtain ⟨ks, hks, hkey⟩ := exists_renderText key
  rw [hks, List.cons_append, members, skipWhite, if_neg (by decide), ← List.reverse_cons]
  simp only [hkey, skipWhite, Char.reduceEq, or_self, if_false, h]

/-- A member before a comma is followed by another one. -/
theorem members_next (h : value fuel depth cs = some (v, ',' :: rest)) (key : String)
    (done : List (String × Json)) :
    members (fuel + 1) depth done ((renderText key).toList ++ ':' :: cs) =
      members fuel depth ((key, v) :: done) rest := by
  obtain ⟨ks, hks, hkey⟩ := exists_renderText key
  rw [hks, List.cons_append, members, skipWhite, if_neg (by decide)]
  simp only [hkey, skipWhite, Char.reduceEq, or_self, if_false, h]

end

/-! ## Values -/

/-- Wherever a value may stand, a text is read as the value. -/
def ReadsAs (depth : Nat) (text : String) (v : Json) : Prop :=
  ∀ fuel rest, text.toList.length ≤ fuel → Follows rest →
    value (fuel + 1) depth (text.toList ++ rest) = some (v, rest)

/-- A value without decimal fractions, with integers of 64 bits and with sorted members, that nests
no deeper than `depth`. -/
inductive Exact : Nat → Json → Prop
  | null {depth : Nat} : Exact depth .null
  | bool {depth : Nat} (b : Bool) : Exact depth (.bool b)
  | int {depth : Nat} {n : Int}
      (hrange : -9223372036854775808 ≤ n ∧ n ≤ 18446744073709551615) : Exact depth (.int n)
  | str {depth : Nat} (s : String) : Exact depth (.str s)
  | arr {depth : Nat} {items : List Json} (hitems : ∀ v ∈ items, Exact depth v) :
      Exact (depth + 1) (.arr items)
  | obj {depth : Nat} {members : List (String × Json)}
      (hsorted : members.Pairwise fun a b => a.1 < b.1)
      (hmembers : ∀ m ∈ members, Exact depth m.2) : Exact (depth + 1) (.obj members)

/-- A natural number of 64 bits is exact. -/
theorem exact_ofNat {n : Nat} (h : n ≤ 18446744073709551615) (depth : Nat) :
    (Json.ofNat n).Exact depth :=
  .int ⟨by omega, by omega⟩

/-- An integer is read back. -/
theorem readsAs_int {n : Int} (hrange : -9223372036854775808 ≤ n ∧ n ≤ 18446744073709551615)
    (depth : Nat) : ReadsAs depth (toString n) (.int n) := by
  intro fuel rest _ hrest
  cases n with
  | ofNat m =>
    have hm : m ≤ 18446744073709551615 := Int.ofNat_le.mp hrange.2
    have hwhole : wholeNumber false (Nat.toDigits 10 m) = some (int (Int.ofNat m)) := by
      rw [wholeNumber, ofDigits_toDigits, if_neg fun h => Bool.false_ne_true h.1, if_pos ⟨rfl, hm⟩]
      rfl
    obtain ⟨c, cs, hcs, hc⟩ := exists_toDigits m
    rw [Numeral.toList_toString_ofNat, hcs, List.cons_append, value_digit hc, ← List.cons_append,
      ← hcs, number_toDigits hrest, hwhole]
    rfl
  | negSucc m =>
    have hm : m + 1 ≤ 9223372036854775808 := by omega
    have hwhole : wholeNumber true (Nat.toDigits 10 (m + 1)) = some (int (Int.negSucc m)) := by
      rw [wholeNumber, ofDigits_toDigits, if_pos ⟨rfl, Nat.succ_pos m, hm⟩]
      rfl
    rw [Numeral.toList_toString_negSucc, List.cons_append, value, skipWhite, if_neg (by decide)]
    change number true (Nat.toDigits 10 (m + 1) ++ rest) = _
    rw [number_toDigits hrest, hwhole]
    rfl

/-- A string is read back. -/
theorem readsAs_str (s : String) (depth : Nat) : ReadsAs depth (renderText s) (.str s) := by
  intro fuel rest _ _
  obtain ⟨cs, hcs, hread⟩ := exists_renderText s
  rw [hcs, List.cons_append, value, skipWhite, if_neg (by decide)]
  change (stringBody [] (cs ++ rest)).map _ = _
  rw [hread]
  rfl

/-- The text of an exact value opens a text. -/
theorem Exact.opens {depth : Nat} {v : Json} (h : v.Exact depth) : Opens v.render.toList := by
  cases h with
  | null => exact ⟨'n', _, rfl, by decide⟩
  | bool b => cases b <;> exact ⟨_, _, rfl, by decide⟩
  | @int _ n _ =>
    rw [render]
    cases n with
    | ofNat m =>
      obtain ⟨c, cs, hcs, hc⟩ := exists_toDigits m
      rw [Numeral.toList_toString_ofNat, hcs]
      exact opens_of_isDigit hc cs
    | negSucc m => exact ⟨'-', _, Numeral.toList_toString_negSucc m, by decide⟩
  | str s => exact opens_renderText s
  | arr _ =>
    rw [render, String.toList_append, String.toList_append]
    exact ⟨'[', _, rfl, by decide⟩
  | obj _ _ =>
    rw [render, String.toList_append, String.toList_append]
    exact ⟨'{', _, rfl, by decide⟩

/-- The text of an item with others after it. -/
theorem toList_renderItems_cons (v w : Json) (vs : List Json) :
    (renderItems (v :: w :: vs)).toList =
      v.render.toList ++ ',' :: (renderItems (w :: vs)).toList := by
  simp [renderItems]

/-- The text of a single member. -/
theorem toList_renderMembers_singleton (key : String) (v : Json) :
    (renderMembers [(key, v)]).toList = (renderText key).toList ++ ':' :: v.render.toList := by
  simp [renderMembers]

/-- The text of a member with others after it. -/
theorem toList_renderMembers_cons (key : String) (v : Json) (m : String × Json)
    (ms : List (String × Json)) :
    (renderMembers ((key, v) :: m :: ms)).toList =
      (renderText key).toList ++
        ':' :: (v.render.toList ++ ',' :: (renderMembers (m :: ms)).toList) := by
  simp [renderMembers]

/-- The items of an array open a text if the first one does. -/
theorem opens_renderItems {v : Json} (h : Opens v.render.toList) (vs : List Json) :
    Opens (renderItems (v :: vs)).toList := by
  cases vs with
  | nil => exact h
  | cons w vs =>
    rw [toList_renderItems_cons]
    exact h.append _

/-- The members of an object open a text with a key. -/
theorem opens_renderMembers (m : String × Json) (ms : List (String × Json)) :
    Opens (renderMembers (m :: ms)).toList := by
  obtain ⟨key, v⟩ := m
  cases ms with
  | nil =>
    rw [toList_renderMembers_singleton]
    exact (opens_renderText key).append _
  | cons n ms =>
    rw [toList_renderMembers_cons]
    exact (opens_renderText key).append _

/-- The items of an array are read back up to the closing bracket. -/
theorem items_renderItems {depth : Nat} {v : Json} {vs : List Json}
    (h : ∀ w ∈ v :: vs, ReadsAs depth w.render w) {fuel : Nat}
    (hfuel : (renderItems (v :: vs)).toList.length ≤ fuel) (done : List Json) (rest : List Char) :
    items (fuel + 2) depth done ((renderItems (v :: vs)).toList ++ ']' :: rest) =
      some (arr (done.reverse ++ v :: vs), rest) := by
  -- The comma before each further item pays for the step that reads it.
  induction vs generalizing v fuel done with
  | nil =>
    have hv := h v List.mem_cons_self fuel (']' :: rest) hfuel (follows_cons (by decide) rest)
    exact items_last hv done
  | cons w vs ih =>
    rw [toList_renderItems_cons, List.length_append, List.length_cons] at hfuel
    obtain ⟨fuel, rfl⟩ : ∃ f, fuel = f + 1 := ⟨fuel - 1, by omega⟩
    have hv := h v List.mem_cons_self (fuel + 1)
      (',' :: ((renderItems (w :: vs)).toList ++ ']' :: rest)) (by omega)
      (follows_cons (by decide) _)
    have hrest : ∀ x ∈ w :: vs, ReadsAs depth x.render x :=
      fun x hx => h x (List.mem_cons_of_mem v hx)
    rw [toList_renderItems_cons, List.append_assoc, List.cons_append, items_next hv,
      ih hrest (by omega), List.reverse_cons, List.append_assoc, List.singleton_append]

/-- The members of an object are read back up to the closing brace. -/
theorem members_renderMembers {depth : Nat} {m : String × Json} {ms : List (String × Json)}
    (h : ∀ n ∈ m :: ms, ReadsAs depth n.2.render n.2) {fuel : Nat}
    (hfuel : (renderMembers (m :: ms)).toList.length ≤ fuel) (done : List (String × Json))
    (rest : List Char) :
    members (fuel + 2) depth done ((renderMembers (m :: ms)).toList ++ '}' :: rest) =
      some (object (done.reverse ++ m :: ms), rest) := by
  induction ms generalizing m fuel done with
  | nil =>
    obtain ⟨key, v⟩ := m
    rw [toList_renderMembers_singleton, List.length_append, List.length_cons] at hfuel
    have hv : ReadsAs depth v.render v := h (key, v) List.mem_cons_self
    have hread := hv fuel ('}' :: rest) (by omega) (follows_cons (by decide) rest)
    rw [toList_renderMembers_singleton, List.append_assoc, List.cons_append]
    exact members_last hread key done
  | cons n ms ih =>
    obtain ⟨key, v⟩ := m
    simp only [toList_renderMembers_cons, List.length_append, List.length_cons] at hfuel
    obtain ⟨fuel, rfl⟩ : ∃ f, fuel = f + 1 := ⟨fuel - 1, by omega⟩
    have hv : ReadsAs depth v.render v := h (key, v) List.mem_cons_self
    have hread := hv (fuel + 1) (',' :: ((renderMembers (n :: ms)).toList ++ '}' :: rest))
      (by omega) (follows_cons (by decide) _)
    have hrest : ∀ x ∈ n :: ms, ReadsAs depth x.2.render x.2 :=
      fun x hx => h x (List.mem_cons_of_mem _ hx)
    simp only [toList_renderMembers_cons, List.append_assoc, List.cons_append]
    rw [members_next hread, ih hrest (by omega), List.reverse_cons, List.append_assoc,
      List.singleton_append]

/-- An array is read back. -/
theorem readsAs_arr {depth : Nat} {vs : List Json}
    (h : ∀ v ∈ vs, Opens v.render.toList ∧ ReadsAs depth v.render v) :
    ReadsAs (depth + 1) (arr vs).render (arr vs) := by
  have htext : (arr vs).render.toList = '[' :: ((renderItems vs).toList ++ [']']) := by
    simp [render]
  intro fuel rest hfuel _
  rw [htext, List.length_cons, List.length_append, List.length_singleton] at hfuel
  rw [htext, List.cons_append, List.append_assoc, List.singleton_append]
  cases vs with
  | nil => rfl
  | cons v vs =>
    obtain ⟨fuel, rfl⟩ : ∃ f, fuel = f + 2 := ⟨fuel - 2, by omega⟩
    have hopens := opens_renderItems (h v List.mem_cons_self).1 vs
    rw [value_bracket (hopens.append _)]
    exact items_renderItems (fun w hw => (h w hw).2) (by omega) [] rest

/-- An object is read as the one that its members make, in whatever order they stand. -/
theorem readsAs_obj {depth : Nat} {ms : List (String × Json)}
    (h : ∀ m ∈ ms, ReadsAs depth m.2.render m.2) :
    ReadsAs (depth + 1) (obj ms).render (object ms) := by
  have htext : (obj ms).render.toList = '{' :: ((renderMembers ms).toList ++ ['}']) := by
    simp [render]
  intro fuel rest hfuel _
  rw [htext, List.length_cons, List.length_append, List.length_singleton] at hfuel
  rw [htext, List.cons_append, List.append_assoc, List.singleton_append]
  cases ms with
  | nil => rfl
  | cons m ms =>
    obtain ⟨fuel, rfl⟩ : ∃ f, fuel = f + 2 := ⟨fuel - 2, by omega⟩
    rw [value_brace ((opens_renderMembers m ms).append _)]
    exact members_renderMembers h (by omega) [] rest

/-- An exact value is read back, wherever it may stand. -/
theorem Exact.readsAs {depth : Nat} {v : Json} (h : v.Exact depth) : ReadsAs depth v.render v := by
  induction h with
  | null =>
    intro fuel rest _ _
    rfl
  | bool b =>
    intro fuel rest _ _
    cases b <;> rfl
  | int hrange => exact readsAs_int hrange _
  | str s => exact readsAs_str s _
  | arr hitems ih => exact readsAs_arr fun v hv => ⟨(hitems v hv).opens, ih v hv⟩
  | @obj depth members hsorted _ ih =>
    -- Sorted members make no other object than the one that is written.
    have hobject : Json.object members = Json.obj members :=
      congrArg ofDict (Dict.ofList_toList ⟨members, hsorted⟩)
    have hread := readsAs_obj ih
    rwa [hobject] at hread

/-! ## Documents -/

/-- A text that is read as a value is a document. -/
theorem parse?_of_readsAs {text : String} {v : Json} (h : ReadsAs maxDepth text v) :
    parse? text = some v := by
  have hread := h (2 * text.toList.length + 1) [] (by omega) nofun
  rw [List.append_nil] at hread
  simp only [parse?, hread]
  rfl

/-- An exact value is read back from its text. -/
theorem Exact.parse?_render {v : Json} (h : v.Exact maxDepth) : parse? v.render = some v :=
  parse?_of_readsAs h.readsAs

/-- Exact members in any order are read back as the object that they make. -/
theorem parse?_render_obj {ms : List (String × Json)} (h : ∀ m ∈ ms, m.2.Exact 126) :
    parse? (obj ms).render = some (object ms) :=
  parse?_of_readsAs (readsAs_obj fun m hm => (h m hm).readsAs)

end SettingsConsole.Json
