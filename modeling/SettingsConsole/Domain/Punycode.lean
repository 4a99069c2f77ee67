import SettingsConsole.Text.Ascii

/-!
# Punycode

Labels of a domain that are not plain ASCII are written with letters, digits and hyphens only:
first the ASCII characters of the label, then where and which the others are. A label that was
written in this way can be read back.
-/

namespace SettingsConsole.Punycode

open Text

/-! ## Writing -/

/-- The digit of a value below 36: `a` to `z`, then `0` to `9`. -/
def digit (n : Nat) : Char := if n < 26 then Char.ofNat (97 + n) else Char.ofNat (22 + n)

/-- The number of digit values that end a number at the place `k`, for a bias. -/
def threshold (bias k : Nat) : Nat := min 26 (max 1 (k - bias))

/-- Write a number in places of varying base. -/
def variableDigits (bias : Nat) (q k : Nat) : List Char :=
  let t := threshold bias k
  if q < t then [digit q]
  else digit (t + (q - t) % (36 - t)) :: variableDigits bias ((q - t) / (36 - t)) (k + 36)
termination_by q
decreasing_by
  have ht : 1 ≤ threshold bias k := by unfold threshold; omega
  have hd : (q - threshold bias k) / (36 - threshold bias k) ≤ q - threshold bias k :=
    Nat.div_le_self _ _
  omega

/-- Halve a delta until it is small, counting the places that this takes. -/
def scale (delta k : Nat) : Nat :=
  if 455 < delta then scale (delta / 35) (k + 36) else k + 36 * delta / (delta + 38)
termination_by delta
decreasing_by omega

/-- The bias for the next number after a delta. -/
def adapt (delta points : Nat) (first : Bool) : Nat :=
  let d := if first then delta / 700 else delta / 2
  scale (d + d / points) 0

/-- Where the encoding of a label stands. -/
structure State where
  delta : Nat
  bias : Nat
  handled : Nat
  out : List Char

/-- Write every occurrence of the code point `n`, counting the smaller ones passed over. -/
def occurrences (n basic : Nat) (st : State) : List Char → State
  | [] => st
  | c :: cs =>
    if c.toNat < n then occurrences n basic { st with delta := st.delta + 1 } cs
    else if c.toNat = n then
      let st : State :=
        ⟨0, adapt st.delta (st.handled + 1) (st.handled = basic), st.handled + 1,
          st.out ++ variableDigits st.bias st.delta 36⟩
      occurrences n basic st cs
    else occurrences n basic st cs

/-- Write the code points of a list, in increasing order; `n` is the next one not yet passed. -/
def codePoints (label : List Char) (basic : Nat) : List Nat → Nat → State → State
  | [], _, st => st
  | m :: ms, n, st =>
    let st := { st with delta := st.delta + (m - n) * (st.handled + 1) }
    let st := occurrences m basic st label
    codePoints label basic ms (m + 1) { st with delta := st.delta + 1 }

/-- Put a number into a sorted list, unless it is there. -/
def insertSorted (n : Nat) : List Nat → List Nat
  | [] => [n]
  | m :: ms => if n < m then n :: m :: ms else if n = m then m :: ms else m :: insertSorted n ms

/-- Write a label. -/
def encode (label : List Char) : List Char :=
  let basic := label.filter fun c => c.toNat < 128
  let others := (label.filter fun c => 128 ≤ c.toNat).foldr (fun c ns => insertSorted c.toNat ns) []
  let start := if basic.isEmpty then [] else basic ++ ['-']
  (codePoints label basic.length others 128 ⟨0, 72, basic.length, start⟩).out

/-- The well-known form of a German city. -/
example : encode "münchen".toList = "mnchen-3ya".toList := by decide +kernel

/-! ## Reading -/

/-- The value of a digit of either case. -/
def digitValue? (c : Char) : Option Nat :=
  if isAsciiDigit c then some (digitValue c + 26)
  else if isAsciiLetter c then some ((asciiLowerChar c).toNat - 97)
  else none

/-- Numbers on the way must fit 32 bits. -/
def fits? (n : Nat) : Option Nat := if n ≤ 4294967295 then some n else none

/-- Read a number that was written in places of varying base. `n` is what the places before come
to, and `weight` what the place `k` counts. -/
def readNumber? (bias : Nat) : Nat → Nat → Nat → List Char → Option (Nat × List Char)
  | _, _, _, [] => none
  | k, weight, n, c :: cs => do
    let d ← digitValue? c
    let n ← fits? (n + d * weight)
    let t := threshold bias k
    if d < t then some (n, cs) else readNumber? bias (k + 36) (← fits? (weight * (36 - t))) n cs

/-- Reading a number uses up at least one character. -/
theorem length_of_readNumber? {bias k weight n : Nat} {cs : List Char} {r : Nat × List Char}
    (h : readNumber? bias k weight n cs = some r) : r.2.length < cs.length := by
  induction cs generalizing k weight n with
  | nil => simp [readNumber?] at h
  | cons c cs ih =>
    simp only [readNumber?, Option.bind_eq_bind, Option.bind_eq_some_iff] at h
    obtain ⟨d, -, m, -, h⟩ := h
    split at h
    · obtain rfl := Option.some.inj h
      simp
    · obtain ⟨w, -, h⟩ := Option.bind_eq_some_iff.mp h
      exact Nat.lt_succ_of_lt (ih h)

/-- Put the characters that the digits tell of into a label. `n` is the last code point, and `i`
the place after it. -/
def insertions? (bias n i : Nat) (label : List Char) (cs : List Char) : Option (List Char) :=
  if cs.isEmpty then some label
  else
    match h : readNumber? bias 36 1 i cs with
    | none => none
    | some (j, rest) =>
      let points := label.length + 1
      let n := n + j / points
      if n.isValidChar then
        let label := label.insertIdx (j % points) (Char.ofNat n)
        insertions? (adapt (j - i) points (i = 0)) n (j % points + 1) label rest
      else none
termination_by cs.length
decreasing_by exact length_of_readNumber? h

/-- Read a label: the ASCII characters stand before the last hyphen, if it is not the first
character. -/
def decode? (cs : List Char) : Option (List Char) :=
  let digits := (cs.reverse.takeWhile (· != '-')).reverse
  let basic := cs.take (cs.length - digits.length - 1)
  if basic.isEmpty then insertions? 72 128 0 [] cs else insertions? 72 128 0 basic digits

/-- The label of a city reads back. -/
example : decode? "mnchen-3ya".toList = some "münchen".toList := by decide +kernel

end SettingsConsole.Punycode
