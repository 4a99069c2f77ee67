/-!
# Pages

Lists are asked for page by page. Pages count from one.
-/

namespace SettingsConsole

/-- Which page of a list is wanted. -/
structure Paging where
  /-- The number of the page. -/
  page : UInt32
  /-- The number of rows on a page. -/
  size : UInt32
  deriving DecidableEq, Repr

namespace Paging

/-- The usual number of rows on a page. -/
def defaultSize : UInt32 := 20

/-- The greatest number of rows that a page may be configured to have. -/
def maxSize : UInt32 := 500

/-- The first page of the usual size. -/
def default : Paging := ⟨1, defaultSize⟩

/-- Bring a page into range: the first page at least, and from one to `max` rows. -/
def validated (p : Paging) (max : UInt32) (_ : 1 ≤ max) : Paging :=
  ⟨if p.page < 1 then 1 else p.page, if p.size < 1 then 1 else if max < p.size then max else p.size⟩

/-- A page may have at least one row. -/
theorem one_le_maxSize : 1 ≤ maxSize := by decide

/-- The number of rows nearest to `size` that a page may be configured to have. -/
def clampSize (size : UInt32) : UInt32 := (validated ⟨1, size⟩ maxSize one_le_maxSize).size

/-- A page size that was brought into range is in range. -/
theorem clampSize_mem (size : UInt32) : 1 ≤ clampSize size ∧ clampSize size ≤ maxSize := by
  simp only [clampSize, validated]
  split
  · exact ⟨UInt32.le_refl _, one_le_maxSize⟩
  · next h =>
    split
    · exact ⟨one_le_maxSize, UInt32.le_refl _⟩
    · next h' => exact ⟨UInt32.not_lt.mp h, UInt32.not_lt.mp h'⟩

/-- Numbers in range stay, and others go to the nearest end of the range. -/
example : clampSize 0 = 1 ∧ clampSize 7 = 7 ∧ clampSize 501 = 500 := by decide

end Paging

/-- One page of a list. -/
structure ListPage (α : Type) where
  /-- The rows on the page. -/
  items : List α
  /-- The number of rows on all pages, if it is known. -/
  count : Option UInt32
  deriving Repr

namespace ListPage

variable {α β : Type}

/-- The page of an empty list. -/
def empty : ListPage α := ⟨[], some 0⟩

/-- Replace every row by a function of it. -/
def map (f : α → β) (p : ListPage α) : ListPage β := ⟨p.items.map f, p.count⟩

end ListPage

end SettingsConsole
