import SettingsConsole.Domain.Name
import SettingsConsole.Text.Ascii
import SettingsConsole.Text.Percent
import SettingsConsole.Text.Split

/-!
# Hosts of an address

A host is an IPv4 address, an IPv6 address in brackets, or a domain. A domain is written in ASCII,
without the signs that separate the parts of an address. A domain whose last label is a number has
to be an IPv4 address.
-/

namespace SettingsConsole.Url

open Text

/-- Why a text is no address. -/
inductive Fault where
  | relative
  | emptyHost
  | invalidPort
  | invalidIpv4
  | invalidIpv6
  | invalidDomain
  | invalidHostCharacter
  deriving DecidableEq, Repr

/-- The words for a fault. -/
def Fault.message : Fault → String
  | relative => "relative URL without a base"
  | emptyHost => "empty host"
  | invalidPort => "invalid port number"
  | invalidIpv4 => "invalid IPv4 address"
  | invalidIpv6 => "invalid IPv6 address"
  | invalidDomain => "invalid international domain name"
  | invalidHostCharacter => "invalid domain character"

/-! ## IPv4 -/

/-- The value of digits of a base, if they are digits of it. -/
def numeral? (base : Nat) (cs : List Char) : Option Nat :=
  cs.foldlM (fun n c => ((hexValue? c).filter (· < base)).map fun d => n * base + d) 0

/-- A number of an IPv4 address: hexadecimal after `0x`, octal after a zero, else decimal. -/
def ipv4Number? : List Char → Option Nat
  | [] => none
  | '0' :: 'x' :: cs | '0' :: 'X' :: cs => numeral? 16 cs
  | '0' :: c :: cs => numeral? 8 (c :: cs)
  | cs => numeral? 10 cs

/-- The labels of a domain, without an empty one at the end. -/
def significantLabels (domain : List Char) : List (List Char) :=
  let labels := splitChars '.' domain
  if labels.getLast? = some [] then labels.dropLast else labels

/-- Whether the last label of a domain is a number. -/
def endsInNumber (domain : List Char) : Bool :=
  match (significantLabels domain).getLast? with
  | some last => (!last.isEmpty && last.all isAsciiDigit) || (ipv4Number? last).isSome
  | none => false

/-- The value of an IPv4 address: the last number fills all bytes that the others leave. -/
def ipv4Value? (domain : List Char) : Option Nat := do
  let numbers ← (significantLabels domain).mapM ipv4Number?
  let last ← numbers.getLast?
  let bytes := numbers.dropLast
  if 3 < bytes.length ∨ bytes.any (255 < ·) ∨ Nat.pow 256 (4 - bytes.length) ≤ last then none
  else some (bytes.foldl (fun n b => n * 256 + b) 0 * Nat.pow 256 (4 - bytes.length) + last)

/-- An IPv4 address in dotted form. -/
def ipv4Text (n : Nat) : String :=
  join "." ([n / 16777216, n / 65536 % 256, n / 256 % 256, n % 256].map toString)

/-! ## IPv6 -/

/-- Take at most `room` hexadecimal digits: how many there are, their value, and the rest. -/
def hexRun : Nat → Nat → Nat → List Char → Nat × Nat × List Char
  | 0, count, n, cs => (count, n, cs)
  | room + 1, count, n, cs =>
    match cs with
    | c :: rest =>
      match hexValue? c with
      | some d => hexRun room (count + 1) (n * 16 + d) rest
      | none => (count, n, c :: rest)
    | [] => (count, n, [])

/-- A decimal byte without leading zeros. -/
def decimalByte? (cs : List Char) : Option Nat :=
  if cs.isEmpty ∨ (1 < cs.length ∧ cs.head? = some '0') then none
  else (numeral? 10 cs).bind fun n => if n ≤ 255 then some n else none

/-- The two pieces of an IPv4 address at the end of an IPv6 address. -/
def ipv4Pieces? (cs : List Char) : Option (List Nat) := do
  match ← (splitChars '.' cs).mapM decimalByte? with
  | [a, b, c, d] => some [a * 256 + b, c * 256 + d]
  | _ => none

/-- Read the pieces of an IPv6 address. `gap` is where zeros have been left out. Every step uses
one unit of `fuel`. -/
def ipv6Pieces? (fuel : Nat) (done : List Nat) (gap : Option Nat) (cs : List Char) :
    Option (List Nat × Option Nat) :=
  match fuel, cs with
  | 0, _ => none
  | _, [] => some (done, gap)
  | fuel + 1, c :: rest =>
    if 8 ≤ done.length then none
    else if c = ':' then
      if gap.isSome then none else ipv6Pieces? fuel (done ++ [0]) (some (done.length + 1)) rest
    else
      match hexRun 4 0 0 (c :: rest) with
      | (0, _, _) => none
      | (_, n, []) => some (done ++ [n], gap)
      | (_, n, ':' :: next) =>
        if next.isEmpty then none else ipv6Pieces? fuel (done ++ [n]) gap next
      | (_, _, '.' :: _) =>
        if 6 < done.length then none
        else (ipv4Pieces? (c :: rest)).map fun tail => (done ++ tail, gap)
      | _ => none

/-- The eight pieces of an IPv6 address. -/
def ipv6Value? (cs : List Char) : Option (List Nat) := do
  let fuel := cs.length + 1
  let (pieces, gap) ←
    match cs with
    | ':' :: ':' :: rest => ipv6Pieces? fuel [0] (some 1) rest
    | ':' :: _ => none
    | _ => if cs.length < 2 then none else ipv6Pieces? fuel [] none cs
  match gap with
  | some g => some (pieces.take g ++ List.replicate (8 - pieces.length) 0 ++ pieces.drop g)
  | none => if pieces.length = 8 then some pieces else none

/-- The first longest run of zeros among pieces, as its start and its length. -/
def zeroRun : Nat → List Nat → Nat × Nat
  | _, [] => (0, 0)
  | start, p :: ps =>
    let here := ((p :: ps).takeWhile (· == 0)).length
    let later := zeroRun (start + 1) ps
    if later.2 ≤ here then (start, here) else later

/-- An IPv6 address; the first longest run of at least two zeros is left out. -/
def ipv6Text (pieces : List Nat) : String :=
  let hex (ps : List Nat) := join ":" (ps.map fun p => String.ofList (Nat.toDigits 16 p))
  let (start, length) := zeroRun 0 pieces
  if length < 2 then hex pieces
  else hex (pieces.take start) ++ "::" ++ hex (pieces.drop (start + length))

/-! ## Domains -/

/-- The characters that no domain holds. -/
def isForbiddenInDomain (c : Char) : Bool :=
  c.toNat ≤ 32 || c.toNat == 127 || "#/:<>?@[\\]^|%".toList.contains c

/-- The characters that no host of an unknown scheme holds. -/
def isForbiddenInHost (c : Char) : Bool :=
  c.toNat == 0 || c.toNat == 9 || c.toNat == 10 || c.toNat == 13 ||
    " #/:<>?@[\\]^|".toList.contains c

/-- The normal form of a host of a known scheme. -/
def normalHost (cs : List Char) : Except Fault String :=
  match cs with
  | '[' :: rest =>
    if rest.getLast? = some ']' then
      match ipv6Value? rest.dropLast with
      | some pieces => .ok ("[" ++ ipv6Text pieces ++ "]")
      | none => .error .invalidIpv6
    else .error .invalidIpv6
  | _ =>
    let decoded := String.fromUTF8? ⟨(Percent.decodeBytes cs).toArray⟩
    match decoded.bind fun s => Domain.toAscii? s.toList with
    | none => .error .invalidDomain
    | some domain =>
      if domain.any isForbiddenInDomain then .error .invalidDomain
      else if domain.isEmpty then .error .emptyHost
      else if endsInNumber domain then
        match ipv4Value? domain with
        | some n => .ok (ipv4Text n)
        | none => .error .invalidIpv4
      else .ok (String.ofList domain)

/-- Check a host of an unknown scheme. -/
def checkForeignHost (cs : List Char) : Except Fault Unit :=
  match cs with
  | '[' :: rest =>
    if rest.getLast? = some ']' ∧ (ipv6Value? rest.dropLast).isSome then .ok ()
    else .error .invalidIpv6
  | _ => if cs.any isForbiddenInHost then .error .invalidHostCharacter else .ok ()

end SettingsConsole.Url
