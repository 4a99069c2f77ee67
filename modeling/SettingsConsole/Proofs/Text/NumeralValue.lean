import SettingsConsole.Proofs.Text.Numeral

/-!
# What a numeral stands for

A numeral stands for the number that its digits have in base ten, or for the opposite of it after a
minus sign. The readers go from left to right and stop as soon as the value leaves the range. That
makes no difference to what they accept: the value never falls again, so a numeral is read exactly
if the number that it stands for is in the range, however many digits it has.
-/

namespace SettingsConsole.Numeral

open Text

/-- One or more ASCII digits. -/
structure AreDigits (ds : List Char) : Prop where
  ne_nil : ds ≠ []
  all : ∀ c ∈ ds, c.isDigit = true

/-- A text is a numeral that stands for an integer. A minus sign is a sign only if it may stand
there. -/
inductive Writes (minus : Bool) : List Char → Int → Prop
  | plain {ds : List Char} (hdigits : AreDigits ds) : Writes minus ds (Nat.ofDigitChars 10 ds 0)
  | plus {ds : List Char} (hdigits : AreDigits ds) :
      Writes minus ('+' :: ds) (Nat.ofDigitChars 10 ds 0)
  | minus {ds : List Char} (hminus : minus = true) (hdigits : AreDigits ds) :
      Writes minus ('-' :: ds) (-Nat.ofDigitChars 10 ds 0)

/-- What may stand in front of the digits of a numeral. -/
def signs : List (List Char) := [[], ['+'], ['-']]

/-! ## Digits -/

/-- More digits make no number less. -/
theorem le_ofDigitChars (ds : List Char) (n : Nat) : n ≤ Nat.ofDigitChars 10 ds n := by
  induction ds generalizing n with
  | nil => exact Nat.le_refl n
  | cons c ds ih =>
    rw [Nat.ofDigitChars_cons]
    have hnext : n ≤ 10 * n + (c.toNat - '0'.toNat) := by omega
    exact Nat.le_trans hnext (ih _)

/-- Digits are read exactly if they are digits, and the number is within the limit. -/
theorem digits_eq_ok_iff {limit start n : Nat} {excess : Fault} {cs : List Char}
    (hstart : start ≤ limit) :
    digits limit excess start cs = .ok n ↔
      (∀ c ∈ cs, c.isDigit = true) ∧ Nat.ofDigitChars 10 cs start = n ∧ n ≤ limit := by
  induction cs generalizing start with
  | nil =>
    rw [digits, Nat.ofDigitChars_nil]
    constructor
    · intro h
      cases h
      exact ⟨fun _ h => absurd h List.not_mem_nil, rfl, hstart⟩
    · rintro ⟨-, rfl, -⟩
      rfl
  | cons c cs ih =>
    have hdigit : isAsciiDigit c = c.isDigit := rfl
    have hnext : start * 10 + digitValue c = 10 * start + (c.toNat - '0'.toNat) := by
      rw [Nat.mul_comm]
      rfl
    rw [digits, hnext, hdigit, List.forall_mem_cons, Nat.ofDigitChars_cons]
    by_cases hc : c.isDigit = true
    · by_cases hle : 10 * start + (c.toNat - '0'.toNat) ≤ limit
      · simp only [hc, if_true, if_pos hle, ih hle, true_and]
      · -- The value has left the range, and it stays outside of it.
        simp only [hc, if_true, if_neg hle, true_and]
        constructor
        · intro h
          cases h
        · rintro ⟨-, rfl, h⟩
          exact absurd (Nat.le_trans (le_ofDigitChars cs _) h) hle
    · simp [hc]

/-- The digits of a numeral are read exactly if there are any, and the number is within the
limit. -/
theorem magnitude_eq_ok_iff {limit n : Nat} {excess : Fault} {cs : List Char} :
    magnitude limit excess cs = .ok n ↔
      AreDigits cs ∧ Nat.ofDigitChars 10 cs 0 = n ∧ n ≤ limit := by
  cases cs with
  | nil =>
    constructor
    · nofun
    · exact fun ⟨h, _⟩ => absurd rfl h.ne_nil
  | cons c cs =>
    rw [magnitude, digits_eq_ok_iff (Nat.zero_le limit)]
    exact and_congr_left fun _ => ⟨fun h => ⟨List.cons_ne_nil c cs, h⟩, AreDigits.all⟩

/-- What is made of the digits of a numeral is made of its number. -/
theorem map_magnitude_eq_ok_iff {α : Type} {f : Nat → α} {limit : Nat} {excess : Fault}
    {cs : List Char} {a : α} :
    (magnitude limit excess cs).map f = .ok a ↔
      AreDigits cs ∧ f (Nat.ofDigitChars 10 cs 0) = a ∧ Nat.ofDigitChars 10 cs 0 ≤ limit := by
  constructor
  · intro h
    cases hread : magnitude limit excess cs with
    | error e =>
      rw [hread] at h
      cases h
    | ok n =>
      rw [hread] at h
      cases h
      obtain ⟨hdigits, rfl, hle⟩ := magnitude_eq_ok_iff.mp hread
      exact ⟨hdigits, rfl, hle⟩
  · rintro ⟨hdigits, rfl, hle⟩
    rw [magnitude_eq_ok_iff.mpr ⟨hdigits, rfl, hle⟩]
    rfl

/-- A sign is no digit. -/
theorem AreDigits.head_ne {c : Char} {ds : List Char} (h : AreDigits (c :: ds)) :
    c ≠ '+' ∧ c ≠ '-' := by
  have hc : c.isDigit = true := h.all c List.mem_cons_self
  constructor <;> (rintro rfl; cases hc)

/-- Zeros in front change no number. -/
theorem ofDigitChars_zeros_append (k : Nat) (ds : List Char) :
    Nat.ofDigitChars 10 (List.replicate k '0' ++ ds) 0 = Nat.ofDigitChars 10 ds 0 := by
  have hzeros : Nat.ofDigitChars 10 (List.replicate k '0') 0 = 0 := by
    induction k with
    | zero => rfl
    | succ k ih =>
      rw [List.replicate_succ, Nat.ofDigitChars_cons]
      exact ih
  rw [Nat.ofDigitChars_append, hzeros]

/-- Digits with zeros in front are digits. -/
theorem AreDigits.zeros_append {ds : List Char} (h : AreDigits ds) (k : Nat) :
    AreDigits (List.replicate k '0' ++ ds) where
  ne_nil := List.append_ne_nil_of_right_ne_nil _ h.ne_nil
  all := by
    intro c hc
    rcases List.mem_append.mp hc with hzero | hc
    · rw [List.eq_of_mem_replicate hzero]
      rfl
    · exact h.all c hc

/-! ## Numerals -/

section

variable {minus : Bool} {c : Char} {cs : List Char} {z : Int}

/-- No numeral is empty. -/
theorem not_writes_nil : ¬ Writes minus [] z := by
  intro h
  cases h with
  | plain hdigits => exact hdigits.ne_nil rfl

/-- After a plus sign a numeral has digits. -/
theorem writes_plus_iff :
    Writes minus ('+' :: cs) z ↔ AreDigits cs ∧ (Nat.ofDigitChars 10 cs 0 : Int) = z := by
  constructor
  · intro h
    cases h with
    | plain hdigits => exact absurd rfl hdigits.head_ne.1
    | plus hdigits => exact ⟨hdigits, rfl⟩
  · rintro ⟨hdigits, rfl⟩
    exact .plus hdigits

/-- After a minus sign that may stand there a numeral has digits. -/
theorem writes_minus_iff :
    Writes minus ('-' :: cs) z ↔
      minus = true ∧ AreDigits cs ∧ -(Nat.ofDigitChars 10 cs 0 : Int) = z := by
  constructor
  · intro h
    cases h with
    | plain hdigits => exact absurd rfl hdigits.head_ne.2
    | minus hminus hdigits => exact ⟨hminus, hdigits, rfl⟩
  · rintro ⟨hminus, hdigits, rfl⟩
    exact .minus hminus hdigits

/-- Without a sign a numeral has digits. -/
theorem writes_cons_iff (hplus : c ≠ '+') (hminus : minus = true → c ≠ '-') :
    Writes minus (c :: cs) z ↔
      AreDigits (c :: cs) ∧ (Nat.ofDigitChars 10 (c :: cs) 0 : Int) = z := by
  constructor
  · intro h
    generalize hds : c :: cs = ds at h
    cases h with
    | plain hdigits => exact ⟨hdigits, rfl⟩
    | plus _ => exact absurd (List.cons.inj hds).1 hplus
    | minus hm _ => exact absurd (List.cons.inj hds).1 (hminus hm)
  · rintro ⟨hdigits, rfl⟩
    exact .plain hdigits

/-- Digits are a numeral of their number. -/
theorem writes_iff_of_areDigits (h : AreDigits cs) :
    Writes minus cs z ↔ (Nat.ofDigitChars 10 cs 0 : Int) = z := by
  cases cs with
  | nil => exact absurd rfl h.ne_nil
  | cons c cs =>
    rw [writes_cons_iff h.head_ne.1 fun _ => h.head_ne.2]
    exact and_iff_right h

/-- Zeros in front of the digits make no other numeral, after any sign. -/
theorem writes_zeros_iff {sign : List Char} (hsign : sign ∈ signs) (hdigits : AreDigits cs)
    (k : Nat) :
    Writes minus (sign ++ List.replicate k '0' ++ cs) z ↔ Writes minus (sign ++ cs) z := by
  have hzeros : AreDigits (List.replicate k '0' ++ cs) := hdigits.zeros_append k
  simp only [signs, List.mem_cons, List.not_mem_nil, or_false] at hsign
  obtain rfl | rfl | rfl := hsign
  · rw [List.nil_append, List.nil_append, writes_iff_of_areDigits hzeros,
      writes_iff_of_areDigits hdigits, ofDigitChars_zeros_append]
  · rw [List.append_assoc, List.singleton_append, List.singleton_append, writes_plus_iff,
      writes_plus_iff, ofDigitChars_zeros_append, and_iff_right hzeros, and_iff_right hdigits]
  · rw [List.append_assoc, List.singleton_append, List.singleton_append, writes_minus_iff,
      writes_minus_iff, ofDigitChars_zeros_append, and_iff_right hzeros, and_iff_right hdigits]

end

/-- An unsigned numeral is read exactly if its number is within the limit. -/
theorem natural_eq_ok_iff {limit n : Nat} {cs : List Char} :
    natural limit cs = .ok n ↔ Writes false cs n ∧ n ≤ limit := by
  cases cs with
  | nil => exact ⟨nofun, fun ⟨h, _⟩ => absurd h not_writes_nil⟩
  | cons c cs =>
    by_cases hplus : c = '+'
    · subst hplus
      rw [natural, magnitude_eq_ok_iff, writes_plus_iff, Int.natCast_inj, and_assoc]
    · have hread : natural limit (c :: cs) = magnitude limit .tooLarge (c :: cs) := by
        rw [natural]
        exact fun h => hplus h
      rw [hread, magnitude_eq_ok_iff,
        writes_cons_iff hplus fun h => absurd h Bool.false_ne_true, Int.natCast_inj, and_assoc]

/-- A signed numeral is read exactly if its number is in the range. -/
theorem signed_eq_ok_iff {low high : Nat} {z : Int} {cs : List Char} :
    signed low high cs = .ok z ↔ Writes true cs z ∧ -low ≤ z ∧ z ≤ high := by
  cases cs with
  | nil => exact ⟨nofun, fun ⟨h, _⟩ => absurd h not_writes_nil⟩
  | cons c cs =>
    by_cases hplus : c = '+'
    · subst hplus
      rw [signed, map_magnitude_eq_ok_iff, writes_plus_iff]
      grind
    by_cases hminus : c = '-'
    · subst hminus
      rw [signed, map_magnitude_eq_ok_iff, writes_minus_iff]
      simp only [true_and]
      grind
    have hread : signed low high (c :: cs) =
        (magnitude high .tooLarge (c :: cs)).map Int.ofNat := by
      rw [signed]
      · exact fun h => hplus h
      · exact fun h => hminus h
    rw [hread, map_magnitude_eq_ok_iff, writes_cons_iff hplus fun _ => hminus]
    grind

/-- A reading gives a value exactly if it succeeds with the value. -/
theorem toOption_eq_some_iff {α : Type} {x : Except Fault α} {a : α} :
    x.toOption = some a ↔ x = .ok a := by
  cases x <;> simp [Except.toOption]

/-- The integers of 16 bits without a sign. -/
theorem exists_word16_iff {z : Int} :
    (∃ a : UInt16, (a.toNat : Int) = z) ↔ 0 ≤ z ∧ z ≤ 65535 := by
  constructor
  · rintro ⟨a, rfl⟩
    have hlt : a.toNat < 65536 := a.toNat_lt
    omega
  · rintro ⟨hlow, hhigh⟩
    have hlt : z.toNat < UInt16.size := by
      change z.toNat < 65536
      omega
    exact ⟨UInt16.ofNat z.toNat, by rw [UInt16.toNat_ofNat_of_lt' hlt, Int.toNat_of_nonneg hlow]⟩

/-- The integers of 64 bits with a sign. -/
theorem exists_int64_iff {z : Int} :
    (∃ a : Int64, a.toInt = z) ↔ -9223372036854775808 ≤ z ∧ z ≤ 9223372036854775807 := by
  constructor
  · rintro ⟨a, rfl⟩
    exact ⟨a.minValue_le_toInt, a.toInt_le⟩
  · rintro ⟨hlow, hhigh⟩
    exact ⟨Int64.ofInt z, Int64.toInt_ofInt_of_le hlow (Int.lt_add_one_of_le hhigh)⟩

/-- What is made of an unsigned numeral, if the numbers within the limit are the values of it. -/
theorem map_natural_eq_ok_iff {α : Type} {limit : Nat} {make : Nat → α} {value : α → Nat}
    (hle : ∀ a, value a ≤ limit) (hmake : ∀ a, make (value a) = a)
    (hvalue : ∀ n ≤ limit, value (make n) = n) {cs : List Char} {a : α} :
    (natural limit cs).map make = .ok a ↔ Writes false cs (value a) := by
  constructor
  · intro h
    cases hread : natural limit cs with
    | error e =>
      rw [hread] at h
      cases h
    | ok n =>
      rw [hread] at h
      cases h
      obtain ⟨hwrites, hn⟩ := natural_eq_ok_iff.mp hread
      rwa [hvalue n hn]
  · intro h
    rw [natural_eq_ok_iff.mpr ⟨h, hle a⟩]
    exact congrArg Except.ok (hmake a)

/-- A text is read as an unsigned number of 16 bits exactly if it is a numeral of it. -/
theorem word16_eq_ok_iff {s : String} {a : UInt16} :
    word16 s = .ok a ↔ Writes false s.toList a.toNat :=
  map_natural_eq_ok_iff (fun a => Nat.le_of_lt_succ a.toNat_lt) (fun _ => UInt16.ofNat_toNat)
    fun _ hn => UInt16.toNat_ofNat_of_lt' (Nat.lt_succ_of_le hn)

/-- A text is read as an unsigned number of 32 bits exactly if it is a numeral of it. -/
theorem word32_eq_ok_iff {s : String} {a : UInt32} :
    word32 s = .ok a ↔ Writes false s.toList a.toNat :=
  map_natural_eq_ok_iff (fun a => Nat.le_of_lt_succ a.toNat_lt) (fun _ => UInt32.ofNat_toNat)
    fun _ hn => UInt32.toNat_ofNat_of_lt' (Nat.lt_succ_of_le hn)

/-- A text is read as a signed number of 64 bits exactly if it is a numeral of it. -/
theorem int64_eq_ok_iff {s : String} {a : Int64} :
    int64 s = .ok a ↔ Writes true s.toList a.toInt := by
  constructor
  · intro h
    unfold int64 at h
    cases hread : signed 9223372036854775808 9223372036854775807 s.toList with
    | error e =>
      rw [hread] at h
      cases h
    | ok z =>
      rw [hread] at h
      cases h
      obtain ⟨hwrites, hlow, hhigh⟩ := signed_eq_ok_iff.mp hread
      rwa [Int64.toInt_ofInt_of_le hlow (Int.lt_add_one_of_le hhigh)]
  · intro h
    have hread : signed 9223372036854775808 9223372036854775807 s.toList = .ok a.toInt :=
      signed_eq_ok_iff.mpr ⟨h, a.minValue_le_toInt, a.toInt_le⟩
    rw [int64, hread]
    exact congrArg Except.ok (Int64.ofInt_toInt a)

/-! ## The decimal text of an integer -/

/-- What is a numeral without minus signs is one with them. -/
theorem Writes.of_unsigned {cs : List Char} {z : Int} (h : Writes false cs z) :
    Writes true cs z := by
  cases h with
  | plain hdigits => exact .plain hdigits
  | plus hdigits => exact .plus hdigits
  | minus hminus _ => cases hminus

/-- A numeral stands for one integer. -/
theorem Writes.unique {cs : List Char} {z w : Int} (hz : Writes true cs z)
    (hw : Writes true cs w) : z = w := by
  cases cs with
  | nil => exact absurd hz not_writes_nil
  | cons c cs =>
    by_cases hplus : c = '+'
    · subst hplus
      exact (writes_plus_iff.mp hz).2.symm.trans (writes_plus_iff.mp hw).2
    by_cases hminus : c = '-'
    · subst hminus
      exact (writes_minus_iff.mp hz).2.2.symm.trans (writes_minus_iff.mp hw).2.2
    exact ((writes_cons_iff hplus fun _ => hminus).mp hz).2.symm.trans
      ((writes_cons_iff hplus fun _ => hminus).mp hw).2

/-- The decimal digits of a number are digits, and there are some. -/
theorem areDigits_toDigits (n : Nat) : AreDigits (Nat.toDigits 10 n) :=
  ⟨Nat.toDigits_ne_nil, fun _ hc => Nat.isDigit_of_mem_toDigits (by decide) (by decide) hc⟩

/-- The decimal digits of a number are a numeral of it. -/
theorem writes_toDigits (minus : Bool) (n : Nat) : Writes minus (Nat.toDigits 10 n) n := by
  have h : Writes minus (Nat.toDigits 10 n) (Nat.ofDigitChars 10 (Nat.toDigits 10 n) 0) :=
    .plain (areDigits_toDigits n)
  rwa [Nat.ofDigitChars_ten_toDigits] at h

/-- The decimal text of a natural number is made of its digits. -/
theorem toList_toString_ofNat (n : Nat) :
    (toString (Int.ofNat n)).toList = Nat.toDigits 10 n := by
  change (toString n).toList = _
  rw [Nat.toString_eq_ofList_toDigits, String.toList_ofList]

/-- The decimal text of a negative number is made of a minus sign and digits. -/
theorem toList_toString_negSucc (n : Nat) :
    (toString (Int.negSucc n)).toList = '-' :: Nat.toDigits 10 (n + 1) := by
  have hdigits : (toString (n + 1)).toList = Nat.toDigits 10 (n + 1) := by
    rw [Nat.toString_eq_ofList_toDigits, String.toList_ofList]
  change ("-" ++ toString (n + 1)).toList = _
  rw [String.toList_append, hdigits]
  rfl

/-- The decimal text of an integer is a numeral of it, if its sign may stand there. -/
theorem writes_toString_iff {minus : Bool} {n z : Int} :
    Writes minus (toString n).toList z ↔ z = n ∧ (minus = true ∨ 0 ≤ n) := by
  cases n with
  | ofNat m =>
    rw [toList_toString_ofNat]
    constructor
    · intro h
      refine ⟨?_, .inr (Int.natCast_nonneg m)⟩
      cases minus with
      | true => exact h.unique (writes_toDigits true m)
      | false => exact h.of_unsigned.unique (writes_toDigits true m)
    · rintro ⟨rfl, -⟩
      exact writes_toDigits minus m
  | negSucc m =>
    rw [toList_toString_negSucc]
    have hvalue : -(Nat.ofDigitChars 10 (Nat.toDigits 10 (m + 1)) 0 : Int) = Int.negSucc m := by
      rw [Nat.ofDigitChars_ten_toDigits]
      rfl
    rw [writes_minus_iff, hvalue]
    constructor
    · intro h
      obtain ⟨hminus, -, rfl⟩ := h
      exact ⟨rfl, .inl hminus⟩
    · intro h
      obtain ⟨rfl, hminus | hneg⟩ := h
      · exact ⟨hminus, areDigits_toDigits (m + 1), rfl⟩
      · exact absurd hneg (by omega)

/-- There is no white space in the decimal text of an integer. -/
theorem isWhite_of_mem_toString {n : Int} {c : Char} (h : c ∈ (toString n).toList) :
    isWhite c = false := by
  have hdigit {m : Nat} (h : c ∈ Nat.toDigits 10 m) : isWhite c = false :=
    isWhite_of_isDigit (Nat.isDigit_of_mem_toDigits (by decide) (by decide) h)
  cases n with
  | ofNat m =>
    rw [toList_toString_ofNat] at h
    exact hdigit h
  | negSucc m =>
    rw [toList_toString_negSucc] at h
    rcases List.mem_cons.mp h with rfl | h
    · decide
    · exact hdigit h

end SettingsConsole.Numeral
