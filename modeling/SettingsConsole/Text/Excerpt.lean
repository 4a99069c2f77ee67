/-!
# Excerpts for log lines

A text that is too long for a log line is cut at a character boundary and followed by its full
length. Lengths are counted in UTF-8 bytes.
-/

namespace SettingsConsole.Text

/-- The number of UTF-8 bytes that a log line shows of a text. -/
def excerptLimit : Nat := 256

/-- The longest start of a text that fits into `room` UTF-8 bytes. -/
def takeBytes : Nat → List Char → List Char
  | _, [] => []
  | room, c :: cs => if c.utf8Size ≤ room then c :: takeBytes (room - c.utf8Size) cs else []

/-- A text as a log line shows it: whole if it is short, else its start and its length. -/
def excerpt (s : String) : String :=
  if s.utf8ByteSize ≤ excerptLimit then s
  else
    String.ofList (takeBytes excerptLimit s.toList) ++ "... (" ++ toString s.utf8ByteSize ++
      " bytes total)"

/-- The start of a text that is taken is a start of it. -/
theorem takeBytes_isPrefix (room : Nat) (cs : List Char) : takeBytes room cs <+: cs := by
  induction cs generalizing room with
  | nil => simp [takeBytes]
  | cons c cs ih =>
    simp only [takeBytes]
    split
    · exact List.cons_prefix_cons.mpr ⟨rfl, ih _⟩
    · exact List.nil_prefix

end SettingsConsole.Text
