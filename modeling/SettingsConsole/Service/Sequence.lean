/-!
# The order of responses

Requests are numbered from one upwards, and a response carries the number of its request. Responses
may come in any order; one is taken only if none of a later request was taken before it. Numbers
have 64 bits, and zero comes after the greatest of them.
-/

namespace SettingsConsole

/-- A counter of requests. -/
structure Sequence where
  /-- The last number that was given. -/
  last : UInt64
  deriving DecidableEq, Repr

namespace Sequence

/-- No request yet. -/
def start : Sequence := ⟨0⟩

/-- Number the next request. -/
def next (s : Sequence) : UInt64 × Sequence := (s.last + 1, ⟨s.last + 1⟩)

/-- The next number is greater by one, as long as there is such a number. -/
theorem toNat_next {s : Sequence} (h : s.last.toNat + 1 < UInt64.size) :
    s.next.1.toNat = s.last.toNat + 1 := by
  rw [next, UInt64.toNat_add]
  exact Nat.mod_eq_of_lt h

end Sequence

/-- A response with the number of its request. -/
structure Numbered (α : Type) where
  number : UInt64
  value : α
  deriving Repr

/-- What has been shown so far. -/
structure Latest where
  /-- The greatest number taken, or zero. -/
  applied : UInt64
  deriving DecidableEq, Repr

namespace Latest

/-- Nothing yet. -/
def start : Latest := ⟨0⟩

/-- Take a number if it is greater than all taken before. -/
def accept (l : Latest) (number : UInt64) : Bool × Latest :=
  (l.applied < number, ⟨max l.applied number⟩)

/-- Take a response if its request is later than those of all taken before. -/
def take {α : Type} (l : Latest) (r : Numbered α) : Option α × Latest :=
  let (fresh, l) := l.accept r.number
  (if fresh then some r.value else none, l)

/-- A late response is dropped, and so is a repeated one. -/
example (shown : Latest) (h : shown = (start.take ⟨2, 'a'⟩).2) :
    (shown.take ⟨1, 'b'⟩).1 = none ∧ (shown.take ⟨2, 'a'⟩).1 = none := by
  subst h
  exact ⟨rfl, rfl⟩

/-- The greater one of two numbers of 64 bits. -/
theorem toNat_max (a b : UInt64) : (max a b).toNat = max a.toNat b.toNat := by
  change (if a ≤ b then b else a).toNat = _
  by_cases h : a ≤ b
  · rw [if_pos h, Nat.max_eq_right (UInt64.le_iff_toNat_le.mp h)]
  · have hle : b.toNat ≤ a.toNat := Nat.le_of_not_le (mt UInt64.le_iff_toNat_le.mpr h)
    rw [if_neg h, Nat.max_eq_left hle]

/-- What has been shown goes up to the number of a response that comes, if it is greater. -/
theorem toNat_applied_take {α : Type} (l : Latest) (r : Numbered α) :
    (l.take r).2.applied.toNat = max l.applied.toNat r.number.toNat :=
  toNat_max _ _

/-- A response is taken exactly if its request is later than all shown before. -/
theorem take_fst {α : Type} (l : Latest) (r : Numbered α) :
    (l.take r).1 = if l.applied < r.number then some r.value else none := by
  simp [take, accept]

end Latest

end SettingsConsole
