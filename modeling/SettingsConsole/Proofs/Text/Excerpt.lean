import SettingsConsole.Text.Excerpt

/-!
# Where an excerpt is cut

The bytes of a text are cut at the last place within the limit that lies between two characters.
A character has four bytes at most, so an excerpt of a text that is too long falls short of the
limit by three bytes at most.
-/

namespace SettingsConsole.Text

/-- One text is the longest start of another one that has `limit` bytes at most. -/
structure LongestStart (limit : Nat) (whole start : String) : Prop where
  /-- Its bytes are the first ones of the text. -/
  bytes : start.toByteArray = whole.toByteArray.extract 0 start.utf8ByteSize
  /-- The place after them lies between two characters of the text, or at an end of it. -/
  boundary : start.rawEndPos.IsValid whole
  fits : start.utf8ByteSize ≤ limit
  /-- Every such place within the limit comes no later. -/
  longest : ∀ place : String.Pos.Raw, place.IsValid whole → place.byteIdx ≤ limit →
    place.byteIdx ≤ start.utf8ByteSize

/-- The first character of a text adds its bytes. -/
theorem utf8ByteSize_ofList_cons (c : Char) (cs : List Char) :
    (String.ofList (c :: cs)).utf8ByteSize = c.utf8Size + (String.ofList cs).utf8ByteSize := by
  rw [String.ofList_cons, String.utf8ByteSize_append, String.utf8ByteSize_singleton]

/-- The start that is taken fits. -/
theorem utf8ByteSize_takeBytes_le (room : Nat) (cs : List Char) :
    (String.ofList (takeBytes room cs)).utf8ByteSize ≤ room := by
  induction cs generalizing room with
  | nil => exact Nat.zero_le room
  | cons c cs ih =>
    rw [takeBytes]
    split
    · have hrest := ih (room - c.utf8Size)
      rw [utf8ByteSize_ofList_cons]
      omega
    · exact Nat.zero_le room

/-- No start that fits is longer than the one that is taken. -/
theorem utf8ByteSize_take_le {room i : Nat} {cs : List Char}
    (h : (String.ofList (cs.take i)).utf8ByteSize ≤ room) :
    (String.ofList (cs.take i)).utf8ByteSize ≤
      (String.ofList (takeBytes room cs)).utf8ByteSize := by
  induction cs generalizing room i with
  | nil =>
    rw [List.take_nil]
    exact Nat.zero_le _
  | cons c cs ih =>
    cases i with
    | zero => exact Nat.zero_le _
    | succ i =>
      rw [List.take_succ_cons, utf8ByteSize_ofList_cons] at h ⊢
      have hc : c.utf8Size ≤ room := by omega
      have hrest : (String.ofList (cs.take i)).utf8ByteSize ≤ room - c.utf8Size := by omega
      have hle := ih hrest
      rw [takeBytes, if_pos hc, utf8ByteSize_ofList_cons]
      omega

/-- Of characters that do not fit, a start is taken that leaves less room than a character can
need. -/
theorem lt_utf8ByteSize_takeBytes_add {room : Nat} {cs : List Char}
    (h : room < (String.ofList cs).utf8ByteSize) :
    room < (String.ofList (takeBytes room cs)).utf8ByteSize + 4 := by
  induction cs generalizing room with
  | nil => exact absurd h (Nat.not_lt_zero room)
  | cons c cs ih =>
    rw [utf8ByteSize_ofList_cons] at h
    rw [takeBytes]
    split
    · next hc =>
      have hrest : room - c.utf8Size < (String.ofList cs).utf8ByteSize := by omega
      have hlt := ih hrest
      rw [utf8ByteSize_ofList_cons]
      omega
    · next hc =>
      -- This is the character at the cut.
      have hsize := c.utf8Size_le_four
      omega

/-- The characters that are taken are the longest start that fits. -/
theorem longestStart_takeBytes (limit : Nat) (s : String) :
    LongestStart limit s (String.ofList (takeBytes limit s.toList)) := by
  obtain ⟨rest, hrest⟩ := takeBytes_isPrefix limit s.toList
  have hs : String.ofList (takeBytes limit s.toList) ++ String.ofList rest = s := by
    rw [← String.ofList_append, hrest, String.ofList_toList]
  generalize hstart : String.ofList (takeBytes limit s.toList) = start at hs ⊢
  constructor
  case bytes =>
    rw [← hs, String.toByteArray_append]
    exact (ByteArray.extract_append_eq_left rfl).symm
  case boundary =>
    rw [← hs]
    exact String.Pos.Raw.isValid_rawEndPos.append_right _
  case fits =>
    rw [← hstart]
    exact utf8ByteSize_takeBytes_le limit s.toList
  case longest =>
    intro place hplace hle
    -- The place is the end of some number of whole characters.
    obtain ⟨i, hi⟩ := String.Pos.Raw.isValid_iff_exists_take_toList.mp hplace
    rw [hi] at hle ⊢
    rw [← hstart]
    exact utf8ByteSize_take_le hle

/-- A text of at most 256 bytes is its own excerpt. Of a longer text the excerpt has the longest
start of at most 256 bytes, which has at least 253, and the number of bytes of the whole. -/
theorem excerpt_cuts_at_boundary (s : String) :
    (s.utf8ByteSize ≤ 256 → excerpt s = s) ∧
      (256 < s.utf8ByteSize →
        ∃ start, excerpt s = start ++ "... (" ++ toString s.utf8ByteSize ++ " bytes total)" ∧
          LongestStart 256 s start ∧ 253 ≤ start.utf8ByteSize) := by
  constructor
  · intro hshort
    exact if_pos hshort
  · intro hlong
    have hchars : 256 < (String.ofList s.toList).utf8ByteSize := by rwa [String.ofList_toList]
    have hroom := lt_utf8ByteSize_takeBytes_add hchars
    refine ⟨_, if_neg (Nat.not_le.mpr hlong), longestStart_takeBytes excerptLimit s, ?_⟩
    change 253 ≤ (String.ofList (takeBytes 256 s.toList)).utf8ByteSize
    omega

/-- Of two hundred signs of three bytes each an excerpt has 255 bytes, as byte 256 is inside of a
sign. -/
theorem excerpt_cuts_at_boundary_signs :
    256 < (String.ofList (List.replicate 200 '€')).utf8ByteSize ∧
      ∃ start, excerpt (String.ofList (List.replicate 200 '€')) =
          start ++ "... (" ++ toString 600 ++ " bytes total)" ∧ start.utf8ByteSize = 255 := by
  have hsize : (String.ofList (List.replicate 200 '€')).utf8ByteSize = 600 := by decide +kernel
  have hlong : 256 < (String.ofList (List.replicate 200 '€')).utf8ByteSize := by
    rw [hsize]
    decide
  obtain ⟨start, hexcerpt, hstart, -⟩ := (excerpt_cuts_at_boundary _).2 hlong
  rw [hsize] at hexcerpt
  refine ⟨hlong, start, hexcerpt, ?_⟩
  have hbefore : 255 ≤ start.utf8ByteSize := hstart.longest ⟨255⟩ (by decide +kernel) (by decide)
  have hinside : start.utf8ByteSize ≠ 256 := by
    intro h
    have hplace : start.rawEndPos = ⟨256⟩ := congrArg String.Pos.Raw.mk h
    exact absurd (hplace ▸ hstart.boundary) (by decide +kernel)
  have hfits := hstart.fits
  omega

end SettingsConsole.Text
