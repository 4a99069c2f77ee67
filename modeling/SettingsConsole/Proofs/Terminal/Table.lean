import SettingsConsole.Proofs.Text.Split
import SettingsConsole.Proofs.Traversal
import SettingsConsole.Terminal.Layout

/-!
# The lines of a table

A table of some rows is made of its lines: the titles, a rule, one line for each row, and the page.
Every column is as wide as its longest text. Such a width has to fit into 16 bits, so there is a
table exactly if no title and no cell is too long; and there is a detail view exactly if no title
is.
-/

namespace SettingsConsole.Terminal

open Text

/-! ## Cut texts -/

/-- A text that is not too long is not cut. -/
theorem shorten_of_le {s : String} (h : s.length ≤ cutWidth) : shorten s = s :=
  if_neg (Nat.not_lt.mpr h)

/-- Of a text that is too long, all but the last character of the column are left. -/
theorem shorten_of_lt {s : String} (h : cutWidth < s.length) :
    shorten s = String.ofList (s.toList.take (cutWidth - 1) ++ ['…']) :=
  if_pos h

/-! ## The parts of a table -/

/-- The fields that have a column. -/
def columns (d : Descriptor) : List Field := d.listFields.filter visible

/-- The titles of the columns. -/
def titles (l : Language) (d : Descriptor) : List String :=
  (columns d).map fun f => Catalog.text l f.label

/-- The cells of a row, one for each column. -/
def cells (d : Descriptor) (row : Row) : List String := (columns d).map (cell row)

/-- The widths of the columns in a table of some rows. -/
def widths (l : Language) (d : Descriptor) (rows : List Row) : List Nat :=
  columnWidths (titles l d) (rows.map (cells d))

/-- Some texts, one for each column, filled up to the widths of the columns. -/
def filled (ws : List Nat) (texts : List String) : String :=
  join "  " (List.zipWith padRight ws texts)

/-- The line of some texts, without its end. -/
def lineText (ws : List Nat) (texts : List String) : String :=
  String.ofList (trimRight (filled ws texts).toList)

/-- The last line of a table, without its end. -/
def pageText (l : Language) (number : UInt32) (count : Option UInt32) : String :=
  Catalog.text l Message.page ++ " " ++ toString number ++
    (match count with
      | some n => " (" ++ toString n ++ ")"
      | none => "")

/-- The lines of a table that has rows, without their ends: the titles, a rule, one line for each
row in its order, and the page. -/
def tableLines (l : Language) (d : Descriptor) (page : ListPage Row) (number : UInt32) :
    List String :=
  let ws := widths l d page.items
  lineText ws (titles l d) :: lineText ws (ws.map fun w => String.ofList (List.replicate w '-')) ::
    (page.items.map fun row => lineText ws (cells d row)) ++ [pageText l number page.count]

/-- There is a line for each row, and three more. -/
theorem length_tableLines (l : Language) (d : Descriptor) (page : ListPage Row) (number : UInt32) :
    (tableLines l d page number).length = page.items.length + 3 := by
  simp [tableLines]

/-! ## Widths -/

/-- The greatest number of characters in some texts, which are not none. -/
def IsWidest (texts : List String) (w : Nat) : Prop :=
  (∀ s ∈ texts, s.length ≤ w) ∧ ∃ s ∈ texts, s.length = w

/-- Taking in texts one after another finds the greatest width. -/
theorem isWidest_foldl (s : String) (texts : List String) :
    IsWidest (s :: texts) (texts.foldl (fun w t => max w t.length) s.length) := by
  induction texts generalizing s with
  | nil => exact ⟨List.forall_mem_singleton.mpr (Nat.le_refl _), s, List.mem_singleton_self s, rfl⟩
  | cons t texts ih =>
    rw [List.foldl_cons]
    -- The wider one of the first two texts does for both.
    rcases Nat.le_total s.length t.length with hle | hle
    · rw [Nat.max_eq_right hle]
      obtain ⟨hall, widest, hmem, hwidest⟩ := ih t
      have ht := hall t List.mem_cons_self
      exact ⟨List.forall_mem_cons.mpr ⟨Nat.le_trans hle ht, hall⟩,
        widest, List.mem_cons_of_mem _ hmem, hwidest⟩
    · rw [Nat.max_eq_left hle]
      obtain ⟨hall, widest, hmem, hwidest⟩ := ih s
      obtain ⟨hs, htexts⟩ := List.forall_mem_cons.mp hall
      refine ⟨List.forall_mem_cons.mpr ⟨hs, List.forall_mem_cons.mpr
        ⟨Nat.le_trans hle hs, htexts⟩⟩, widest, ?_, hwidest⟩
      rcases List.mem_cons.mp hmem with rfl | hmem
      · exact List.mem_cons_self
      · exact List.mem_cons_of_mem _ (List.mem_cons_of_mem _ hmem)

/-- The width of each column is found from its title and its cells alone. -/
theorem widths_eq (l : Language) (d : Descriptor) (rows : List Row) :
    widths l d rows = (columns d).map fun f =>
      (rows.map fun row => cell row f).foldl (fun w s => max w s.length)
        (Catalog.text l f.label).length := by
  have hfold (start : Field → Nat) :
      (rows.map (cells d)).foldl (fun ws row => List.zipWith (fun w c => max w c.length) ws row)
          ((columns d).map start) =
        (columns d).map fun f =>
          (rows.map fun row => cell row f).foldl (fun w s => max w s.length) (start f) := by
    induction rows generalizing start with
    | nil => rfl
    | cons row rows ih =>
      simp only [List.map_cons, List.foldl_cons]
      rw [← ih, cells, List.zipWith_map, List.zipWith_self]
  rw [widths, columnWidths, titles, List.map_map]
  exact hfold fun f => (Catalog.text l f.label).length

/-- There is a width for each column. -/
theorem length_widths (l : Language) (d : Descriptor) (rows : List Row) :
    (widths l d rows).length = (columns d).length := by
  rw [widths_eq, List.length_map]

/-- A column is as wide as the widest of its title and its cells. -/
theorem exists_width {d : Descriptor} {f : Field} {j : Nat} (hf : (columns d)[j]? = some f)
    (l : Language) (rows : List Row) :
    ∃ w, IsWidest (Catalog.text l f.label :: rows.map fun row => cell row f) w ∧
      (widths l d rows)[j]? = some w := by
  refine ⟨_, isWidest_foldl _ _, ?_⟩
  rw [widths_eq, List.getElem?_map, hf]
  rfl

/-- The texts that are taken in keep a width below a bound exactly if all of them are shorter. -/
theorem foldl_max_lt_iff {texts : List String} {w n : Nat} :
    texts.foldl (fun w s => max w s.length) w < n ↔ w < n ∧ ∀ s ∈ texts, s.length < n := by
  induction texts generalizing w with
  | nil => simp
  | cons s texts ih => rw [List.foldl_cons, ih, Nat.max_lt, List.forall_mem_cons, and_assoc]

/-- No title and no cell of a table is too long to be laid out. -/
def Fits (l : Language) (d : Descriptor) (rows : List Row) : Prop :=
  ∀ f ∈ columns d, (Catalog.text l f.label).length < 65536 ∧
    ∀ row ∈ rows, (cell row f).length < 65536

/-- The texts of a table fit exactly if the widths of its columns do. -/
theorem fits_iff (l : Language) (d : Descriptor) (rows : List Row) :
    Fits l d rows ↔ ∀ w ∈ widths l d rows, w < 65536 := by
  rw [widths_eq, List.forall_mem_map]
  simp only [foldl_max_lt_iff, List.forall_mem_map]
  rfl

/-! ## Lines of texts that fit -/

/-- A line of columns that are not too wide is put together from its texts. -/
theorem tableLine_of_forall {ws : List Nat} (h : ∀ w ∈ ws, w < 65536) (texts : List String) :
    tableLine ws texts = some (lineText ws texts ++ "\n") := by
  have hpad : ∀ p ∈ ws.zip texts, padRight? p.1 p.2 = some (padRight p.1 p.2) :=
    fun p hp => if_pos (h p.1 (List.of_mem_zip hp).1)
  have hpadded : (ws.zip texts).mapM (fun p => padRight? p.1 p.2) =
      some (List.zipWith padRight ws texts) := by
    rw [Traversal.mapM_of_forall_some hpad, List.zip, List.map_zipWith]
  rw [tableLine, hpadded]
  rfl

/-- There is no line if one of its columns is too wide. -/
theorem tableLine_of_wide {ws : List Nat} {texts : List String} (hlength : texts.length = ws.length)
    {w : Nat} (hw : w ∈ ws) (hwide : ¬ w < 65536) : tableLine ws texts = none := by
  rw [← List.map_fst_zip (Nat.le_of_eq hlength.symm), List.mem_map] at hw
  obtain ⟨p, hp, rfl⟩ := hw
  have hpadded : (ws.zip texts).mapM (fun p => padRight? p.1 p.2) = none :=
    Traversal.mapM_of_mem_none hp (if_neg hwide)
  rw [tableLine, hpadded]
  rfl

/-- Without rows a table has one line that says so. -/
theorem table_of_nil (l : Language) (d : Descriptor) {page : ListPage Row} (number : UInt32)
    (h : page.items = []) : table l d page number = some (Catalog.text l Message.noItems ++ "\n") :=
  if_pos (List.isEmpty_iff.mpr h)

/-- A table of some rows that fit is made of its lines. -/
theorem table_of_fits {l : Language} {d : Descriptor} {page : ListPage Row}
    (hne : page.items ≠ []) (hfits : Fits l d page.items) (number : UInt32) :
    table l d page number =
      some (join "" ((tableLines l d page number).map (· ++ String.singleton '\n'))) := by
  have hws : ∀ w ∈ widths l d page.items, w < 65536 := (fits_iff l d page.items).mp hfits
  have hrows : (page.items.map (cells d)).mapM (tableLine (widths l d page.items)) =
      some ((page.items.map (cells d)).map fun texts =>
        lineText (widths l d page.items) texts ++ "\n") :=
    Traversal.mapM_of_forall_some fun texts _ => tableLine_of_forall hws texts
  have htable : table l d page number =
      (do
        let headerLine ← tableLine (widths l d page.items) (titles l d)
        let ruleLine ← tableLine (widths l d page.items)
          ((widths l d page.items).map fun w => String.ofList (List.replicate w '-'))
        let bodyLines ← (page.items.map (cells d)).mapM (tableLine (widths l d page.items))
        some (headerLine ++ ruleLine ++ join "" bodyLines ++ pageLine l number page.count)) :=
    if_neg (by simpa using hne)
  rw [htable, tableLine_of_forall hws, tableLine_of_forall hws, hrows, tableLines, List.map_append,
    join_empty_append, List.map_cons, List.map_cons, join_empty_cons, join_empty_cons,
    ← String.append_assoc, List.map_map, List.map_map]
  rfl

/-- There is no table of some rows that do not fit. -/
theorem table_of_not_fits {l : Language} {d : Descriptor} {page : ListPage Row}
    (hne : page.items ≠ []) (hfits : ¬ Fits l d page.items) (number : UInt32) :
    table l d page number = none := by
  rw [fits_iff] at hfits
  push Not at hfits
  obtain ⟨w, hw, hwide⟩ := hfits
  have hheader : tableLine (widths l d page.items) (titles l d) = none :=
    tableLine_of_wide (by rw [length_widths, titles, List.length_map]) hw (by omega)
  rw [table, if_neg (by simpa using hne)]
  change (tableLine (widths l d page.items) (titles l d)).bind _ = none
  rw [hheader]
  rfl

/-- There is a table exactly if there are no rows or they fit. -/
theorem table_eq_none_iff (l : Language) (d : Descriptor) (page : ListPage Row) (number : UInt32) :
    table l d page number = none ↔ page.items ≠ [] ∧ ¬ Fits l d page.items := by
  by_cases hne : page.items = []
  · simp [table_of_nil l d number hne, hne]
  · by_cases hfits : Fits l d page.items
    · simp [table_of_fits hne hfits, hfits]
    · simp [table_of_not_fits hne hfits, hne, hfits]

/-! ## Detail views -/

/-- No title of a detail view is too long to be laid out. -/
def TitlesFit (l : Language) (fields : List Field) : Prop :=
  ∀ f ∈ fields, visible f = true → (Catalog.text l f.label).length < 65536

/-- The width of the titles of a detail view. -/
def titleWidth (l : Language) (fields : List Field) : Nat :=
  widest ((fields.filter visible).map fun f => Catalog.text l f.label)

/-- The line of a field in a detail view. -/
def fieldLine (l : Language) (width : Nat) (row : Row) (f : Field) : String :=
  padRight width (Catalog.text l f.label) ++ "  " ++ cell row f ++ "\n"

/-- The titles of a detail view fit exactly if their width does. -/
theorem titlesFit_iff (l : Language) (fields : List Field) :
    TitlesFit l fields ↔ titleWidth l fields < 65536 := by
  have hpos : 0 < 65536 := by decide
  rw [titleWidth, widest, foldl_max_lt_iff, and_iff_right hpos, List.forall_mem_map]
  simp only [List.mem_filter, and_imp]
  rfl

/-- A detail view is made of the lines of its fields, if the width of the titles is not too
great. -/
theorem detail_eq (l : Language) (fields : List Field) (row : Row) :
    detail l fields row = ((fields.filter visible).mapM fun f =>
      if titleWidth l fields < 65536 then some (fieldLine l (titleWidth l fields) row f)
      else none).map (join "") := by
  have hline : (fun f => (padRight? (titleWidth l fields) (Catalog.text l f.label)).bind
        fun title => some (title ++ "  " ++ cell row f ++ "\n")) =
      fun f => if titleWidth l fields < 65536 then some (fieldLine l (titleWidth l fields) row f)
        else none := by
    funext f
    rw [padRight?]
    split
    · rfl
    · rfl
  rw [← hline, Option.map_eq_bind]
  rfl

/-- A detail view has a line for each field that is shown, if the titles fit. -/
theorem detail_of_titlesFit {l : Language} {fields : List Field} (h : TitlesFit l fields)
    (row : Row) :
    detail l fields row =
      some (join "" ((fields.filter visible).map (fieldLine l (titleWidth l fields) row))) := by
  have hlines (f : Field) (_ : f ∈ fields.filter visible) :
      (if titleWidth l fields < 65536 then some (fieldLine l (titleWidth l fields) row f)
        else none) = some (fieldLine l (titleWidth l fields) row f) :=
    if_pos ((titlesFit_iff l fields).mp h)
  rw [detail_eq, Traversal.mapM_of_forall_some hlines]
  rfl

/-- There is a detail view exactly if its titles fit. -/
theorem detail_eq_none_iff (l : Language) (fields : List Field) (row : Row) :
    detail l fields row = none ↔ ¬ TitlesFit l fields := by
  by_cases h : TitlesFit l fields
  · simp [detail_of_titlesFit h, h]
  · refine iff_of_true ?_ h
    have hwide : ¬ titleWidth l fields < 65536 := mt (titlesFit_iff l fields).mpr h
    unfold TitlesFit at h
    push Not at h
    obtain ⟨f, hf, hvisible, -⟩ := h
    rw [detail_eq, Traversal.mapM_of_mem_none (List.mem_filter.mpr ⟨hf, hvisible⟩) (if_neg hwide)]
    rfl

/-! ## Something is shown -/

/-- Joined texts are not empty if one of them is not. -/
theorem join_empty_ne_empty {texts : List String} {s : String} (hs : s ∈ texts) (hne : s ≠ "") :
    join "" texts ≠ "" := by
  induction texts with
  | nil => exact absurd hs List.not_mem_nil
  | cons t texts ih =>
    rw [join_empty_cons, Ne, String.append_eq_empty_iff]
    rintro ⟨ht, hrest⟩
    rcases List.mem_cons.mp hs with rfl | hs
    · exact hne ht
    · exact ih hs hrest

/-- A text that ends a line is not empty. -/
theorem append_newline_ne_empty (s : String) : s ++ "\n" ≠ "" := by
  intro h
  exact absurd (String.append_eq_empty_iff.mp h).2 (by decide)

/-- A table that is shown is never empty, also if it has no rows. -/
theorem table_ne_empty (l : Language) (d : Descriptor) (page : ListPage Row) (number : UInt32) :
    table l d page number ≠ some "" := by
  intro htable
  by_cases hne : page.items = []
  · rw [table_of_nil l d number hne] at htable
    exact append_newline_ne_empty _ (Option.some.inj htable)
  · by_cases hfits : Fits l d page.items
    · rw [table_of_fits hne hfits, tableLines, List.map_append] at htable
      revert htable
      apply mt Option.some.inj
      apply join_empty_ne_empty
      · exact List.mem_append_right _ List.mem_cons_self
      · exact append_newline_ne_empty _
    · rw [table_of_not_fits hne hfits] at htable
      cases htable

/-- A detail view with a visible field is not empty. -/
theorem detail_ne_empty (l : Language) {fields : List Field} {f : Field} (hf : f ∈ fields)
    (hvisible : visible f = true) (row : Row) : detail l fields row ≠ some "" := by
  intro hdetail
  by_cases h : TitlesFit l fields
  · rw [detail_of_titlesFit h] at hdetail
    revert hdetail
    apply mt Option.some.inj
    apply join_empty_ne_empty
    · exact List.mem_map_of_mem (List.mem_filter.mpr ⟨hf, hvisible⟩)
    · exact append_newline_ne_empty _
  · rw [(detail_eq_none_iff l fields row).mpr h] at hdetail
    cases hdetail

end SettingsConsole.Terminal
