import SettingsConsole.Domain.Mapping
import SettingsConsole.Domain.Punycode
import SettingsConsole.Unicode.Direction
import SettingsConsole.Unicode.Joining
import SettingsConsole.Unicode.Mark

/-!
# Labels of a domain

A domain is a row of labels with full stops between them. A label with characters outside ASCII
has an encoded form in ASCII; either form may be given. Such a label must not begin with a mark,
it has joiners only where the script gives them a meaning, and if the domain holds letters that
are written from right to left, each label keeps to one direction.
-/

namespace SettingsConsole.Domain

open Unicode

/-- A label as text, and in the form that holds ASCII characters only. -/
structure Label where
  text : List Char
  ascii : List Char
  deriving DecidableEq, Repr

/-- Whether all characters are ASCII. -/
def isAscii (cs : List Char) : Bool := cs.all fun c => c.toNat < 128

/-! ## Joiners -/

/-- The sign that asks the letters beside it to join. -/
def joiner : Char := '\u200d'

/-- The sign that asks the letters beside it not to join. -/
def nonJoiner : Char := '\u200c'

/-- Whether the first character that is not transparent has a joining type of a list. -/
def meets (types : List Joining) : List Char → Bool
  | [] => false
  | c :: cs => if joining c = .transparent then meets types cs else types.contains (joining c)

/-- Whether a joiner or non-joiner has a meaning between `before`, which holds the nearest character
first, and `after`: it follows a sign that joins consonants, or keeps letters apart that join. -/
def isMeaningful (sign : Char) (before after : List Char) : Bool :=
  match before with
  | [] => false
  | c :: _ =>
    combiningClass c = viramaClass ||
      (sign == nonJoiner && meets [.left, .dual] before && meets [.right, .dual] after)

/-- Whether all joiners have a meaning; `before` holds what stands before, nearest first. -/
def joinersFit (before : List Char) : List Char → Bool
  | [] => true
  | c :: cs =>
    ((c != joiner && c != nonJoiner) || isMeaningful c before cs) && joinersFit (c :: before) cs

/-! ## One label -/

/-- What an encoded label begins with. -/
def encodedMark : List Char := ['x', 'n', '-', '-']

/-- The greatest number of characters that are decoded. -/
def maxEncoded : Nat := 2000

/-- The greatest number of characters of a label outside ASCII. -/
def maxLabel : Nat := 1000

/-- The text of an encoded label without its mark. -/
def decode? (cs : List Char) : Option (List Char) :=
  if cs.isEmpty ∨ cs.getLast? = some '-' ∨ maxEncoded < cs.length ∨ !isAscii cs then none
  else (Punycode.decode? cs).filter isSettled

/-- Whether a text outside ASCII can be a label. -/
def isLabel (cs : List Char) : Bool :=
  cs.length ≤ maxLabel && !(cs.head?.any isMark) && joinersFit [] cs

/-- Read a label of a mapped domain. -/
def Label.ofText? (cs : List Char) : Option Label :=
  if encodedMark.isPrefixOf cs then
    ((decode? (cs.drop encodedMark.length)).filter isLabel).map fun text => ⟨text, cs⟩
  else if isAscii cs then some ⟨cs, cs⟩
  else if isLabel cs then some ⟨cs, encodedMark ++ Punycode.encode cs⟩
  else none

/-! ## Directions -/

/-- Whether a character makes the direction of its domain matter. -/
def turns (c : Char) : Bool :=
  128 ≤ c.toNat && [.rightToLeft, .arabicLetter, .arabicNumber].contains (direction c)

/-- The classes that a label may hold after its first character in either direction. -/
def sharedClasses : List Direction :=
  [.europeanNumber, .europeanSeparator, .commonSeparator, .europeanTerminator, .neutral, .boundary,
    .nonspacing]

/-- Whether a label keeps to one direction. It begins with a letter; after it stand classes of the
direction of that letter, and but for marks the last one is a letter or a number. Numbers of two
kinds do not stand together in a label from right to left. -/
def keepsDirection (cs : List Char) : Bool :=
  match cs.map direction with
  | [] => true
  | first :: rest =>
    let body := (rest.reverse.dropWhile (· == .nonspacing)).reverse
    let within (classes : List Direction) := body.all fun d => (classes ++ sharedClasses).contains d
    let ends (classes : List Direction) := body.getLast?.all fun d => classes.contains d
    match first with
    | .leftToRight => within [.leftToRight] && ends [.leftToRight, .europeanNumber]
    | .rightToLeft | .arabicLetter =>
      within [.rightToLeft, .arabicLetter, .arabicNumber] &&
        ends [.rightToLeft, .arabicLetter, .europeanNumber, .arabicNumber] &&
        !(body.contains .europeanNumber && body.contains .arabicNumber)
    | _ => false

/-- A label in ASCII stays as it is unless it is an encoded one. -/
theorem Label.ofText?_of_ascii {cs : List Char} (plain : encodedMark.isPrefixOf cs = false)
    (ascii : isAscii cs = true) : Label.ofText? cs = some ⟨cs, cs⟩ := by
  simp [Label.ofText?, plain, ascii]

end SettingsConsole.Domain
