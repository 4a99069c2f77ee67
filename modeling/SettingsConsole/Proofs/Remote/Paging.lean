import SettingsConsole.Remote.Paging

/-!
# The range of a page and the rows on it

A page that was brought into range is the nearest one that is in range, and bringing a size into
range a second time changes nothing. The pages of one size share out the rows: each row is on one
page, in the order of the rows, and the pages after the last one are empty.
-/

namespace SettingsConsole.Paging

/-- The number of a page in range, as a natural number. -/
theorem toNat_page_validated (p : Paging) {limit : UInt32} (h : 1 ≤ limit) :
    (p.validated limit h).page.toNat = max p.page.toNat 1 := by
  simp only [validated]
  split
  · next hpage =>
    rw [UInt32.lt_iff_toNat_lt] at hpage
    simp only [UInt32.reduceToNat] at hpage ⊢
    omega
  · next hpage =>
    rw [UInt32.lt_iff_toNat_lt] at hpage
    simp only [UInt32.reduceToNat] at hpage
    omega

/-- The size of a page in range, as a natural number. -/
theorem toNat_size_validated (p : Paging) {limit : UInt32} (h : 1 ≤ limit) :
    (p.validated limit h).size.toNat = min (max p.size.toNat 1) limit.toNat := by
  rw [UInt32.le_iff_toNat_le] at h
  simp only [UInt32.reduceToNat] at h
  simp only [validated]
  split
  · next hsize =>
    rw [UInt32.lt_iff_toNat_lt] at hsize
    simp only [UInt32.reduceToNat] at hsize ⊢
    omega
  · next hsize =>
    rw [UInt32.lt_iff_toNat_lt] at hsize
    simp only [UInt32.reduceToNat] at hsize
    split
    · next hlimit =>
      rw [UInt32.lt_iff_toNat_lt] at hlimit
      omega
    · next hlimit =>
      rw [UInt32.lt_iff_toNat_lt] at hlimit
      omega

/-- The configured size nearest to a wanted one, as a natural number. -/
theorem toNat_clampSize (size : UInt32) : (clampSize size).toNat = min (max size.toNat 1) 500 :=
  toNat_size_validated ⟨1, size⟩ one_le_maxSize

/-- Bringing a configured size into range a second time changes nothing. -/
theorem clampSize_clampSize (size : UInt32) : clampSize (clampSize size) = clampSize size := by
  apply UInt32.toNat_inj.mp
  rw [toNat_clampSize, toNat_clampSize]
  omega

/-- A size that is in range stays when it is brought into range again. -/
theorem toNat_size_validated_clampSize (page size : UInt32) :
    ((⟨page, clampSize size⟩ : Paging).validated maxSize one_le_maxSize).size.toNat =
      min (max size.toNat 1) 500 := by
  have hmax : maxSize.toNat = 500 := rfl
  rw [toNat_size_validated, toNat_clampSize, hmax]
  omega

/-! ## The rows on a page -/

variable {α β : Type}

/-- The rows on a page, from one, where all pages but the last have `size` rows. -/
def slice (page size : Nat) (rows : List α) : List α := (rows.drop ((page - 1) * size)).take size

/-- The number of pages that hold all rows. -/
def pageCount (size rows : Nat) : Nat := (rows + size - 1) / size

/-- A function of every row on a page. -/
theorem map_slice (f : α → β) (page size : Nat) (rows : List α) :
    (slice page size rows).map f = slice page size (rows.map f) := by
  rw [slice, slice, List.map_take, List.map_drop]

/-- A page has `size` rows, or as many as are left for it. -/
theorem length_slice (page size : Nat) (rows : List α) :
    (slice page size rows).length = min size (rows.length - (page - 1) * size) := by
  rw [slice, List.length_take, List.length_drop]

/-- The pages together have room for all rows. -/
theorem le_pageCount_mul {size : Nat} (hsize : 1 ≤ size) (rows : Nat) :
    rows ≤ pageCount size rows * size := by
  have hmod := Nat.div_add_mod (rows + size - 1) size
  have hlt := Nat.mod_lt (rows + size - 1) hsize
  rw [Nat.mul_comm] at hmod
  unfold pageCount
  omega

/-- There are no more pages than rows. -/
theorem pageCount_le {size : Nat} (hsize : 1 ≤ size) (rows : Nat) : pageCount size rows ≤ rows := by
  have hrows : rows ≤ size * rows := Nat.le_mul_of_pos_left rows hsize
  have hlt : rows + size - 1 < size * (rows + 1) := by
    rw [Nat.mul_succ]
    omega
  exact Nat.lt_succ_iff.mp (Nat.div_lt_of_lt_mul hlt)

/-- Nothing is on a page after the last one. -/
theorem slice_eq_nil {page size : Nat} {rows : List α} (hsize : 1 ≤ size)
    (hpage : pageCount size rows.length < page) : slice page size rows = [] := by
  have hroom : rows.length ≤ (page - 1) * size :=
    Nat.le_trans (le_pageCount_mul hsize rows.length) (Nat.mul_le_mul_right size (by omega))
  rw [slice, List.drop_eq_nil_of_le hroom, List.take_nil]

/-- A row that is told apart by a test is on the page that the rows before it lead to, and on no
other one. -/
theorem filter_slice {page size : Nat} (hpage : 1 ≤ page) (hsize : 1 ≤ size) {p : α → Bool}
    {front back : List α} {row : α} (hrow : p row = true) (hfront : ∀ a ∈ front, p a = false)
    (hback : ∀ a ∈ back, p a = false) :
    (slice page size (front ++ row :: back)).filter p =
      if page = front.length / size + 1 then [row] else [] := by
  have hnone {part rows : List α} (hpart : part.Sublist rows) (hrows : ∀ a ∈ rows, p a = false) :
      part.filter p = [] :=
    List.filter_eq_nil_iff.mpr fun a ha => by simp [hrows a (hpart.subset ha)]
  have hthere : page = front.length / size + 1 ↔
      (page - 1) * size ≤ front.length ∧ front.length < (page - 1) * size + size := by
    rw [← Nat.sub_eq_iff_eq_add hpage, eq_comm, Nat.div_eq_iff hsize]
    omega
  rw [slice, List.drop_append, List.take_append, List.filter_append,
    hnone ((List.take_sublist _ _).trans (List.drop_sublist _ _)) hfront, List.nil_append,
    List.length_drop]
  by_cases hpast : front.length < (page - 1) * size
  · obtain ⟨j, hj⟩ := Nat.exists_eq_add_of_lt hpast
    rw [if_neg (by omega), show (page - 1) * size - front.length = j + 1 by omega,
      List.drop_succ_cons]
    exact hnone ((List.take_sublist _ _).trans (List.drop_sublist _ _)) hback
  · have hdrop : (page - 1) * size - front.length = 0 := by omega
    rw [hdrop, List.drop_zero]
    cases hroom : size - (front.length - (page - 1) * size) with
    | zero => rw [if_neg (by omega), List.take_zero, List.filter_nil]
    | succ room =>
      rw [if_pos (by omega), List.take_succ_cons, List.filter_cons_of_pos hrow,
        hnone (List.take_sublist _ _) hback]

/-- The first pages together are the first rows. -/
theorem flatMap_slice (size count : Nat) (rows : List α) :
    (List.range count).flatMap (fun i => slice (i + 1) size rows) = rows.take (count * size) := by
  induction count with
  | zero => simp
  | succ count ih =>
    rw [List.range_succ, List.flatMap_append, ih, Nat.succ_mul, List.take_add]
    simp [slice]

/-- All pages together are all rows. -/
theorem flatMap_slice_pageCount {size : Nat} (hsize : 1 ≤ size) (rows : List α) :
    (List.range (pageCount size rows.length)).flatMap (fun i => slice (i + 1) size rows) =
      rows := by
  rw [flatMap_slice, List.take_of_length_le (le_pageCount_mul hsize rows.length)]

end SettingsConsole.Paging
