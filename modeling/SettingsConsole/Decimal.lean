/-!
# Decimal fractions of double precision

Numbers with a fraction or an exponent are kept at the precision of a binary floating-point
number with a significand of 53 bits. Such a number is written with the fewest decimal digits
that read back as it, and of those the nearest. All arithmetic is exact, on natural numbers.
-/

namespace SettingsConsole

/-- A decimal fraction `± coefficient · 10 ^ exponent`. Its coefficient has no trailing zeros. -/
structure Decimal where
  negative : Bool
  coefficient : Nat
  exponent : Int
  deriving DecidableEq, Repr

namespace Decimal

/-- Move trailing zeros of a coefficient into its exponent. -/
def strip (n : Nat) (e : Int) : Nat × Int :=
  if n = 0 then (0, 0)
  else if n % 10 = 0 then strip (n / 10) (e + 1)
  else (n, e)
termination_by n
decreasing_by omega

/-- Zero, with either sign. -/
def zero (negative : Bool) : Decimal := ⟨negative, 0, 0⟩

/-- The number of decimal digits of a natural number. -/
def digitCount (n : Nat) : Nat := (Nat.toDigits 10 n).length

/-- The quotient of `n` and `d`, rounded to the nearest natural number, a half to the even one. -/
def roundQuotient (n d : Nat) : Nat :=
  let k := n / d
  let r := n % d
  if 2 * r < d then k
  else if d < 2 * r then k + 1
  else if k % 2 = 0 then k else k + 1

/-- The power of a base; one if the exponent is negative. -/
def power (base : Nat) (e : Int) : Nat := Nat.pow base e.toNat

/-- Two to the power of 53, which every significand is below. -/
def significandLimit : Nat := 9007199254740992

/-- Two to the power of 52, the least significand of full precision. -/
def leastFull : Nat := 4503599627370496

/-- The nearest `significand · 2 ^ exponent` to a positive quotient, unless it is too large. -/
def toBinary (num den : Nat) : Option (Nat × Int) :=
  let b : Int := (num.log2 : Int) - den.log2
  let below := num * power 2 (-b) < den * power 2 b
  let q := max ((if below then b - 1 else b) - 52) (-1074)
  let s := roundQuotient (num * power 2 (-q)) (den * power 2 q)
  let (s, q) := if s = significandLimit then (leastFull, q + 1) else (s, q)
  if 971 < q then none else some (s, q)

/-- The decimals that read back as one binary number: those from `low / den` to `high / den`,
where the ends belong to them when `closed` is set. The number itself is `mid / den`. -/
structure Neighbourhood where
  low : Nat
  mid : Nat
  high : Nat
  den : Nat
  closed : Bool

/-- The decimals that read back as `s · 2 ^ q`. Below a power of two the neighbours are half as
far apart as above it. -/
def neighbourhood (s : Nat) (q : Int) : Neighbourhood :=
  let up := power 2 (q - 2)
  let lower := if s = leastFull ∧ -1074 < q then 4 * s - 1 else 4 * s - 2
  ⟨lower * up, 4 * s * up, (4 * s + 2) * up, power 2 (2 - q), s % 2 = 0⟩

/-- Whether `c · 10 ^ p` reads back as the number of a neighbourhood. -/
def Neighbourhood.holds (b : Neighbourhood) (c : Nat) (p : Int) : Bool :=
  let up := power 10 p
  let down := power 10 (-p)
  let x := c * up * b.den
  if b.closed then b.low * down ≤ x && x ≤ b.high * down
  else b.low * down < x && x < b.high * down

/-- The point of the grid of step `10 ^ p` that is nearest to a number among those that read
back as it; only the two points beside the number can be. -/
def Neighbourhood.onGrid? (b : Neighbourhood) (p : Int) : Option Nat :=
  let num := b.mid * power 10 (-p)
  let den := b.den * power 10 p
  let c := num / den
  match b.holds c p, b.holds (c + 1) p with
  | true, true => some (roundQuotient num den)
  | true, false => some c
  | false, true => some (c + 1)
  | false, false => none

/-- Try grids that are finer by one digit each, `steps` of them at most. -/
def Neighbourhood.search (b : Neighbourhood) (p : Int) : Nat → Option (Nat × Int)
  | 0 => none
  | steps + 1 =>
    match b.onGrid? p with
    | some c => some (c, p)
    | none => b.search (p - 1) steps

/-- The decimal with the fewest digits that reads back as `s · 2 ^ q`. -/
def shortest (s : Nat) (q : Int) : Nat × Int :=
  let b := neighbourhood s q
  let p : Int := (digitCount b.mid : Int) - digitCount b.den
  match b.search p 20 with
  | some (c, p) => strip c p
  | none => (0, 0)

/-- The decimal of a binary number with a sign. -/
def ofBinary (negative : Bool) : Nat × Int → Decimal
  | (0, _) => zero negative
  | (s, q) =>
    let (c, p) := shortest s q
    ⟨negative, c, p⟩

/-- The number `± m · 10 ^ e` at double precision, or nothing if it is out of range. -/
def ofScientific (negative : Bool) (m : Nat) (e : Int) : Option Decimal :=
  let places := (digitCount m : Int) + e
  if m = 0 ∨ places < -330 then some (zero negative)
  else if 310 < places then none
  else (toBinary (m * power 10 e) (power 10 (-e))).map (ofBinary negative)

/-- The product of two binary numbers, rounded. -/
def product (a b : Nat × Int) : Option (Nat × Int) :=
  let q := a.2 + b.2
  toBinary (a.1 * b.1 * power 2 q) (power 2 (-q))

/-- The quotient of two binary numbers, rounded. -/
def quotient (a b : Nat × Int) : Option (Nat × Int) :=
  let q := a.2 - b.2
  toBinary (a.1 * power 2 q) (b.1 * power 2 (-q))

/-- A binary number times `10 ^ e`. The power is rounded before the product or the quotient is, and
never greater than `10 ^ 308`: for a smaller result the number is divided twice. -/
def scale (a : Nat × Int) (e : Int) : Option (Nat × Int) := do
  if 308 < e then
    if a.1 = 0 then some a else none
  else if 0 ≤ e then product a (← toBinary (power 10 e) 1)
  else if -308 ≤ e then quotient a (← toBinary (power 10 (-e)) 1)
  else
    let b ← quotient a (← toBinary (power 10 308) 1)
    -- A number of 64 bits that is divided twice by this power is zero.
    if -616 ≤ e then quotient b (← toBinary (power 10 (-e - 308)) 1) else some (0, 0)

/-- The number `± m · 10 ^ e` for an `m` of 64 bits, with every step of the computation rounded. So
it is not always the nearest one. -/
def ofParts (negative : Bool) (m : Nat) (e : Int) : Option Decimal := do
  let a ← toBinary m 1
  let b ← scale a e
  some (ofBinary negative b)

/-- The power `10 ^ 22` is exact, and `10 ^ 25` is not. -/
example :
    ofParts false 459 22 = some ⟨false, 459, 22⟩ ∧
      ofParts false 459 25 = some ⟨false, 45900000000000004, 11⟩ := by
  decide +kernel

/-- How decimal fractions are laid out in text. -/
structure Layout where
  /-- The point may stand after this many digits at most. -/
  wholeDigits : Int
  /-- This many zeros at most may stand between the point and the first digit. -/
  leadingZeros : Int

/-- Sixteen digits before the point, four zeros after it; beyond that an exponent is written. -/
def layout : Layout := ⟨16, 4⟩

/-- Write a decimal fraction: with a point if the layout allows it, else with an exponent. There
is always a digit after the point. -/
def toText (d : Decimal) : String :=
  let sign := if d.negative then "-" else ""
  let ds := Nat.toDigits 10 d.coefficient
  let point := (ds.length : Int) + d.exponent
  let body :=
    if d.coefficient = 0 then "0.0"
    else if 0 ≤ d.exponent ∧ point ≤ layout.wholeDigits then
      String.ofList (ds ++ List.replicate d.exponent.toNat '0') ++ ".0"
    else if 0 < point ∧ point ≤ layout.wholeDigits then
      String.ofList (ds.take point.toNat) ++ "." ++ String.ofList (ds.drop point.toNat)
    else if -layout.leadingZeros ≤ point ∧ point ≤ 0 then
      "0." ++ String.ofList (List.replicate (-point).toNat '0' ++ ds)
    else
      let fraction := if ds.length = 1 then "" else "." ++ String.ofList (ds.drop 1)
      String.ofList (ds.take 1) ++ fraction ++ "e" ++ toString (point - 1)
  sign ++ body

end Decimal

end SettingsConsole
