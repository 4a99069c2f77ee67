import SettingsConsole.Unicode.CombiningClass
import SettingsConsole.Unicode.Composite

/-!
# Composed text

The same letter with its marks can be written in several ways: marks apart or within composites,
and marks of different classes in any order. The composed form is the same for all of them: every
character falls into its parts, the marks of a letter are sorted by class, and what can stand
together in a composite does.
-/

namespace SettingsConsole.Unicode

/-- Take a character apart, `depth` times over at most. -/
def decomposeChar : Nat → Char → List Char
  | 0, c => [c]
  | depth + 1, c =>
    match parts? c with
    | some (a, b) => decomposeChar depth a ++ decomposeChar depth b
    | none => [c]

/-- How many times over a character can be taken apart. -/
def decompositionDepth : Nat := 4

/-- Put a mark in front of the marks that do not have a lower class. -/
def insertMark (c : Char) : List Char → List Char
  | [] => [c]
  | d :: ds =>
    if combiningClass d ≠ 0 ∧ combiningClass d < combiningClass c then d :: insertMark c ds
    else c :: d :: ds

/-- Sort the marks of every letter by class; marks of one class keep their order. -/
def sortMarks (cs : List Char) : List Char :=
  cs.foldr (fun c cs => if combiningClass c = 0 then c :: cs else insertMark c cs) []

/-- Take all characters of a text apart. -/
def decompose (cs : List Char) : List Char :=
  sortMarks (cs.flatMap (decomposeChar decompositionDepth))

/-- Put marks together with the letter before them. `letter` is the letter, and `marks` holds those
of its marks that stay, last one first. A mark goes into the letter only if every mark between
them has a lower class. -/
def composeFrom (letter : Char) (marks : List Char) : List Char → List Char
  | [] => letter :: marks.reverse
  | c :: cs =>
    let free :=
      match marks with
      | [] => true
      | m :: _ => combiningClass m < combiningClass c
    match (if free then composite? letter c else none) with
    | some whole => composeFrom whole marks cs
    | none =>
      if combiningClass c = 0 then letter :: marks.reverse ++ composeFrom c [] cs
      else composeFrom letter (c :: marks) cs

/-- The composed form of a text. -/
def compose (cs : List Char) : List Char :=
  if cs.all fun c => c.toNat < 128 then cs
  else
    match decompose cs with
    | [] => []
    | c :: rest => composeFrom c [] rest

/-- Text in ASCII is composed. -/
theorem compose_of_ascii {cs : List Char} (h : cs.all (fun c => c.toNat < 128) = true) :
    compose cs = cs := by
  simp [compose, h]

end SettingsConsole.Unicode
