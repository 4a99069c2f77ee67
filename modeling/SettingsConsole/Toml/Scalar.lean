import SettingsConsole.Decimal
import SettingsConsole.Text.Ascii
import SettingsConsole.Text.Split
import SettingsConsole.Toml.Basic

/-!
# Simple values of a TOML document

Whole numbers of 64 bits in four bases, numbers with a fraction or an exponent, truth values, dates
and times. Digits may be grouped by single underscores.
-/

namespace SettingsConsole.Toml

open Text

/-- Digits of a number, without the underscores between them. -/
def groupedDigits? (isDigit : Char → Bool) (cs : List Char) : Option (List Char) :=
  let groups := splitChars '_' cs
  if groups.all fun g => !g.isEmpty && g.all isDigit then some groups.flatten else none

/-- The value of digits in a base. -/
def digitsValue (base : Nat) (cs : List Char) : Nat :=
  cs.foldl (fun n c => n * base + (hexValue? c).getD 0) 0

/-- Digits without a zero in front. -/
def plainDigits? (cs : List Char) : Option (List Char) := do
  let ds ← groupedDigits? isAsciiDigit cs
  if 1 < ds.length ∧ ds.head? = some '0' then none else some ds

/-- Split a sign off. -/
def sign : List Char → Bool × List Char
  | '-' :: cs => (true, cs)
  | '+' :: cs => (false, cs)
  | cs => (false, cs)

/-- A whole number of at most 64 bits. -/
def inRange? (n : Int) : Option Int :=
  if -9223372036854775808 ≤ n ∧ n ≤ 9223372036854775807 then some n else none

/-- A whole number in base 16, 8 or 2. -/
def based? (base : Nat) (cs : List Char) : Option Int := do
  let ds ← groupedDigits? (fun c => (hexValue? c).any (· < base)) cs
  inRange? (digitsValue base ds)

/-- A whole number. -/
def integer? (cs : List Char) : Option Int :=
  match cs with
  | '0' :: 'x' :: cs => based? 16 cs
  | '0' :: 'o' :: cs => based? 8 cs
  | '0' :: 'b' :: cs => based? 2 cs
  | _ => do
    let (negative, cs) := sign cs
    let ds ← plainDigits? cs
    let n : Int := digitsValue 10 ds
    inRange? (if negative then -n else n)

/-- The value of an exponent. -/
def exponent? (cs : List Char) : Option Int := do
  let (negative, cs) := sign cs
  let ds ← groupedDigits? isAsciiDigit cs
  let n : Int := digitsValue 10 ds
  some (if negative then -n else n)

/-- Whether a token is a number with a fraction or an exponent. A number too great for double
precision counts only below zero, as negative infinity. -/
def isFloat (cs : List Char) : Bool :=
  let (negative, cs) := sign cs
  if cs = ['i', 'n', 'f'] ∨ cs = ['n', 'a', 'n'] then true
  else
    let isE (c : Char) : Bool := c == 'e' || c == 'E'
    let mantissa := cs.takeWhile fun c => !isE c
    let (whole, fraction) := (cutChars '.' mantissa).elim (mantissa, none) fun (l, r) => (l, some r)
    let exponent := match cs.dropWhile fun c => !isE c with
      | _ :: e => some e
      | [] => none
    let inRange : Option Bool := do
      let ds ← plainDigits? whole
      let fs ← match fraction with
        | some f => groupedDigits? isAsciiDigit f
        | none => some []
      let e ← match exponent with
        | some e => exponent? e
        | none => some 0
      let number := Decimal.ofScientific negative (digitsValue 10 (ds ++ fs)) (e - fs.length)
      some (negative || number.isSome)
    (fraction.isSome || exponent.isSome) && inRange.any id

/-- Read `count` digits. -/
def fixedDigits? (count : Nat) (cs : List Char) : Option (Nat × List Char) :=
  let ds := cs.take count
  if ds.length = count ∧ ds.all isAsciiDigit then some (digitsValue 10 ds, cs.drop count) else none

/-- Skip a character. -/
def skip? (c : Char) : List Char → Option (List Char)
  | d :: cs => if c = d then some cs else none
  | [] => none

/-- The number of days of a month. -/
def daysIn (year month : Nat) : Nat :=
  if month = 2 then
    if year % 4 = 0 ∧ (year % 100 ≠ 0 ∨ year % 400 = 0) then 29 else 28
  else if month = 4 ∨ month = 6 ∨ month = 9 ∨ month = 11 then 30
  else 31

/-- Read a date. -/
def date? (cs : List Char) : Option (List Char) := do
  let (year, cs) ← fixedDigits? 4 cs
  let (month, cs) ← fixedDigits? 2 (← skip? '-' cs)
  let (day, cs) ← fixedDigits? 2 (← skip? '-' cs)
  if 1 ≤ month ∧ month ≤ 12 ∧ 1 ≤ day ∧ day ≤ daysIn year month then some cs else none

/-- Read hours and minutes. -/
def hourMinute? (cs : List Char) : Option (List Char) := do
  let (hour, cs) ← fixedDigits? 2 cs
  let (minute, cs) ← fixedDigits? 2 (← skip? ':' cs)
  if hour ≤ 23 ∧ minute ≤ 59 then some cs else none

/-- Read a time, whose seconds may have a fraction. -/
def time? (cs : List Char) : Option (List Char) := do
  let cs ← hourMinute? cs
  let (second, cs) ← fixedDigits? 2 (← skip? ':' cs)
  if 60 < second then none
  else
    match cs with
    | '.' :: rest =>
      if (rest.takeWhile isAsciiDigit).isEmpty then none else some (rest.dropWhile isAsciiDigit)
    | _ => some cs

/-- Read the offset of a time, if there is one. -/
def offset? (cs : List Char) : Option (List Char) :=
  match cs with
  | 'Z' :: rest | 'z' :: rest => some rest
  | '+' :: rest | '-' :: rest => hourMinute? rest
  | _ => some cs

/-- Read a date, a time, or both. -/
def moment? (cs : List Char) : Option (List Char) :=
  match date? cs with
  | some rest =>
    match rest with
    | 'T' :: t | 't' :: t => (time? t).bind offset?
    | ' ' :: t =>
      match time? t with
      | some rest => offset? rest
      | none => some rest
    | _ => some rest
  | none => time? cs

/-- Whether a character belongs to a token. -/
def isTokenChar (c : Char) : Bool :=
  isAsciiLetter c || isAsciiDigit c || c == '_' || c == '+' || c == '-' || c == '.'

/-- The value of a token. -/
def token? (cs : List Char) : Option Toml :=
  if cs = ['t', 'r', 'u', 'e'] then some (boolean true)
  else if cs = ['f', 'a', 'l', 's', 'e'] then some (boolean false)
  else
    match integer? cs with
    | some n => some (integer n)
    | none => if isFloat cs then some float else none

/-- Read a simple value that is no text. -/
def scalar? (cs : List Char) : Option (Toml × List Char) :=
  match moment? cs with
  | some rest => some (moment, rest)
  | none => (token? (cs.takeWhile isTokenChar)).map fun v => (v, cs.dropWhile isTokenChar)

end SettingsConsole.Toml
