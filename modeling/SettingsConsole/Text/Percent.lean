import SettingsConsole.Text.Ascii

/-!
# Percent encoding

A component of a query is written with unreserved characters only. Every other character is
written byte by byte, as a percent sign and two upper-case hexadecimal digits for each byte of its
UTF-8 form.
-/

namespace SettingsConsole.Percent

open Text

/-- The characters that stand for themselves in every component. -/
def isUnreserved (c : Char) : Bool :=
  isAsciiLetter c || isAsciiDigit c || c == '-' || c == '_' || c == '.' || c == '~'

/-- The three characters of a byte. -/
def ofByte (b : UInt8) : List Char :=
  ['%', hexDigitUpper (b.toNat / 16), hexDigitUpper (b.toNat % 16)]

/-- The characters of one character, byte by byte. -/
def ofChar (c : Char) : List Char := (String.utf8EncodeChar c).flatMap ofByte

/-- Write the characters that satisfy `escaped` byte by byte, and the others as they are. -/
def escape (escaped : Char → Bool) (cs : List Char) : List Char :=
  cs.flatMap fun c => if escaped c then ofChar c else [c]

/-- Write a text as one component. -/
def encode (s : String) : String := String.ofList (escape (fun c => !isUnreserved c) s.toList)

/-- The bytes of a text in which percent signs with two digits after them stand for bytes. A
percent sign without two digits stands for itself. -/
def decodeBytes : List Char → List UInt8
  | '%' :: a :: b :: rest =>
    match hexValue? a, hexValue? b with
    | some x, some y => UInt8.ofNat (16 * x + y) :: decodeBytes rest
    | _, _ => String.utf8EncodeChar '%' ++ decodeBytes (a :: b :: rest)
  | c :: rest => String.utf8EncodeChar c ++ decodeBytes rest
  | [] => []

/-- Read a component back, unless its bytes are no UTF-8. -/
def decode? (s : String) : Option String := String.fromUTF8? ⟨(decodeBytes s.toList).toArray⟩

/-- Spaces and the characters that separate parameters are escaped. -/
example : encode "a b&é" = "a%20b%26%C3%A9" := by decide +kernel

end SettingsConsole.Percent
