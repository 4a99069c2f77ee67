import SettingsConsole.Text.Percent

/-!
# Reading percent encoding back

An encoded component holds no character that separates the parts of an address or the pairs of a
query, and decoding gives the component back, so that nothing is lost between client and server.
-/

namespace SettingsConsole.Percent

open Text

/-- The digits of a byte stand for themselves in every component. -/
theorem isUnreserved_hexDigitUpper {n : Nat} (h : n < 16) :
    isUnreserved (hexDigitUpper n) = true := by
  have all : ∀ m ∈ List.range 16, isUnreserved (hexDigitUpper m) = true := by decide
  exact all n (List.mem_range.mpr h)

/-- A byte is written with a percent sign and characters that stand for themselves. -/
theorem mem_ofByte {b : UInt8} {c : Char} (h : c ∈ ofByte b) : c = '%' ∨ isUnreserved c = true := by
  have hb : b.toNat < 256 := b.toNat_lt
  simp only [ofByte, List.mem_cons, List.not_mem_nil, or_false] at h
  rcases h with rfl | rfl | rfl
  · exact .inl rfl
  · exact .inr (isUnreserved_hexDigitUpper (by omega))
  · exact .inr (isUnreserved_hexDigitUpper (by omega))

/-- What is escaped holds percent signs, characters that stand for themselves in every component,
and of the others only those that are not escaped. -/
theorem mem_escape {escaped : Char → Bool} {cs : List Char} {c : Char} (h : c ∈ escape escaped cs) :
    escaped c = false ∨ c = '%' ∨ isUnreserved c = true := by
  obtain ⟨d, hd, hc⟩ := List.mem_flatMap.mp h
  split at hc
  · obtain ⟨b, -, hb⟩ := List.mem_flatMap.mp hc
    exact .inr (mem_ofByte hb)
  · next hkept =>
    rw [List.mem_singleton.mp hc]
    exact .inl (Bool.not_eq_true _ ▸ hkept)

/-- An escaped character that is no percent sign and not unreserved does not occur. -/
theorem not_mem_escape {escaped : Char → Bool} {c : Char} (hescaped : escaped c = true)
    (hc : c ≠ '%') (hreserved : isUnreserved c = false) (cs : List Char) :
    c ∉ escape escaped cs := by
  intro h
  rcases mem_escape h with h | h | h
  · rw [hescaped] at h
    cases h
  · exact hc h
  · rw [hreserved] at h
    cases h

/-- An encoded component holds no reserved character. -/
theorem not_mem_encode {c : Char} (hc : c ≠ '%') (hreserved : isUnreserved c = false) (s : String) :
    c ∉ (encode s).toList := by
  rw [encode, String.toList_ofList]
  exact not_mem_escape (by rw [hreserved]; rfl) hc hreserved s.toList

/-! ## Decoding -/

/-- A written byte reads back as itself. -/
theorem decodeBytes_ofByte_append (b : UInt8) (rest : List Char) :
    decodeBytes (ofByte b ++ rest) = b :: decodeBytes rest := by
  have hb : b.toNat < 256 := b.toNat_lt
  have hvalue : 16 * (b.toNat / 16) + b.toNat % 16 = b.toNat := Nat.div_add_mod b.toNat 16
  simp only [ofByte, List.cons_append, List.nil_append, decodeBytes,
    hexValue?_hexDigitUpper (show b.toNat / 16 < 16 by omega),
    hexValue?_hexDigitUpper (show b.toNat % 16 < 16 by omega), hvalue, UInt8.ofNat_toNat]

/-- Written bytes read back as themselves. -/
theorem decodeBytes_flatMap_append (bs : List UInt8) (rest : List Char) :
    decodeBytes (bs.flatMap ofByte ++ rest) = bs ++ decodeBytes rest := by
  induction bs with
  | nil => rfl
  | cons b bs ih =>
    rw [List.flatMap_cons, List.append_assoc, decodeBytes_ofByte_append, ih, List.cons_append]

/-- A character that is no percent sign reads as its own bytes. -/
theorem decodeBytes_cons {c : Char} (h : c ≠ '%') (rest : List Char) :
    decodeBytes (c :: rest) = String.utf8EncodeChar c ++ decodeBytes rest := by
  rw [decodeBytes]
  exact fun _ _ _ hc _ => h hc

/-- Escaped characters read back as their bytes if percent signs are escaped. -/
theorem decodeBytes_escape {escaped : Char → Bool} (hpercent : escaped '%' = true)
    (cs : List Char) : decodeBytes (escape escaped cs) = cs.flatMap String.utf8EncodeChar := by
  induction cs with
  | nil => rfl
  | cons c cs ih =>
    unfold escape at ih ⊢
    rw [List.flatMap_cons, List.flatMap_cons, ← ih]
    by_cases hc : escaped c = true
    · rw [if_pos hc]
      exact decodeBytes_flatMap_append _ _
    · rw [if_neg hc, List.singleton_append]
      refine decodeBytes_cons ?_ _
      rintro rfl
      exact hc hpercent

/-- An encoded component decodes to itself. -/
theorem decode?_encode (s : String) : decode? (encode s) = some s := by
  have hbytes : (⟨(decodeBytes (encode s).toList).toArray⟩ : ByteArray) = s.toByteArray := by
    rw [encode, String.toList_ofList, decodeBytes_escape (by decide), ← String.utf8Encode_toList,
      List.utf8Encode, ByteArray.ext_iff, List.data_toByteArray]
  rw [decode?, hbytes, String.fromUTF8?, dif_pos s.isValidUTF8]
  rfl

/-- Different components are encoded differently. -/
theorem encode_injective : Function.Injective encode := by
  intro s t h
  have hdecoded := decode?_encode s
  rw [h, decode?_encode] at hdecoded
  exact (Option.some.inj hdecoded).symm

end SettingsConsole.Percent
