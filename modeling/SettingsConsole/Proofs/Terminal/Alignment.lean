import SettingsConsole.Proofs.Entity.Reading
import SettingsConsole.Proofs.Json.Printer
import SettingsConsole.Proofs.Terminal.Table
import SettingsConsole.Server

/-!
# The lines and columns of a table

A table has one line more for each row than for its heading and its page. Every column is as wide as
its longest text, so the texts of a column stand one below the other in all lines. But there is no
table if a column is too wide. And a line is put together from the texts as they are: a text in a
value is not escaped, and if it has an end of a line in it, the line of its row comes to an end
there too.
-/

namespace SettingsConsole.Terminal

open Text

/-! ## Columns in a line -/

/-- The number of characters in front of a column: the columns before it, with two spaces after each
of them. -/
def offset : List Nat → Nat → Nat
  | _, 0 | [], _ => 0
  | w :: ws, j + 1 => w + 2 + offset ws j

/-- The first column stands at the front. -/
theorem offset_zero (ws : List Nat) : offset ws 0 = 0 := by
  cases ws <;> rfl

/-- A text stands in a line after a number of characters, filled up to a width; the white space at
the end of the line may be missing. -/
def Stands (line : String) (start width : Nat) (s : String) : Prop :=
  ∃ before after blank : List Char, blank.all isWhite = true ∧
    line.toList ++ blank = before ++ (padRight width s).toList ++ after ∧ before.length = start

/-- What is dropped at the end of a stretch is white space. -/
theorem exists_trimRight_append (cs : List Char) :
    ∃ blank : List Char, blank.all isWhite = true ∧ trimRight cs ++ blank = cs := by
  refine ⟨(cs.reverse.takeWhile isWhite).reverse, ?_, ?_⟩
  · rw [List.all_reverse]
    exact List.all_takeWhile
  · rw [trimRight, ← List.reverse_append, List.takeWhile_append_dropWhile, List.reverse_reverse]

/-- The first of some joined texts stands in front. -/
theorem prefix_join (sep s : String) (rest : List String) :
    s.toList <+: (join sep (s :: rest)).toList := by
  cases rest with
  | nil => exact List.prefix_refl _
  | cons t rest =>
    rw [join_cons (List.cons_ne_nil _ _), String.toList_append, String.toList_append,
      List.append_assoc]
    exact List.prefix_append _ _

/-- A line with further columns has the first one in front, and two spaces after it. -/
theorem filled_cons {ws : List Nat} {texts : List String} (hws : ws ≠ []) (htexts : texts ≠ [])
    (w : Nat) (s : String) :
    (filled (w :: ws) (s :: texts)).toList =
      (padRight w s).toList ++ [' ', ' '] ++ (filled ws texts).toList := by
  have hrest : List.zipWith padRight ws texts ≠ [] := by
    rw [Ne, List.zipWith_eq_nil_iff, not_or]
    exact ⟨hws, htexts⟩
  rw [filled, List.zipWith_cons_cons, join_cons hrest, String.toList_append, String.toList_append]
  rfl

/-- If no text is wider than its column, every text stands after the columns before its own. -/
theorem filled_eq_append {ws : List Nat} {texts : List String} {j w : Nat} {s : String}
    (hw : ws[j]? = some w) (hs : texts[j]? = some s)
    (hfit : ∀ (i v : Nat) (t : String), ws[i]? = some v → texts[i]? = some t → t.length ≤ v) :
    ∃ before after, (filled ws texts).toList = before ++ (padRight w s).toList ++ after ∧
      before.length = offset ws j := by
  induction ws generalizing texts j with
  | nil => cases hw
  | cons v ws ih =>
    cases texts with
    | nil => cases hs
    | cons t texts =>
      cases j with
      | zero =>
        obtain rfl : v = w := Option.some.inj hw
        obtain rfl : t = s := Option.some.inj hs
        obtain ⟨after, hafter⟩ := prefix_join "  " (padRight v t) (List.zipWith padRight ws texts)
        exact ⟨[], after, hafter.symm, rfl⟩
      | succ j =>
        rw [List.getElem?_cons_succ] at hw hs
        obtain ⟨before, after, hfilled, hbefore⟩ := ih hw hs fun i => hfit (i + 1)
        have hwidth : (padRight v t).toList.length = v := by
          rw [String.length_toList, length_padRight]
          exact Nat.max_eq_left (hfit 0 v t rfl rfl)
        refine ⟨(padRight v t).toList ++ [' ', ' '] ++ before, after, ?_, ?_⟩
        · rw [filled_cons (List.ne_nil_of_mem (List.mem_of_getElem? hw))
            (List.ne_nil_of_mem (List.mem_of_getElem? hs)), hfilled]
          simp only [List.append_assoc]
        · rw [List.length_append, List.length_append, hwidth, hbefore]
          rfl

/-- If no text is wider than its column, every text stands in the line after the columns before its
own. -/
theorem stands_lineText {ws : List Nat} {texts : List String} {j w : Nat} {s : String}
    (hw : ws[j]? = some w) (hs : texts[j]? = some s)
    (hfit : ∀ (i v : Nat) (t : String), ws[i]? = some v → texts[i]? = some t → t.length ≤ v) :
    Stands (lineText ws texts) (offset ws j) w s := by
  obtain ⟨before, after, hfilled, hbefore⟩ := filled_eq_append hw hs hfit
  obtain ⟨blank, hblank, htrim⟩ := exists_trimRight_append (filled ws texts).toList
  refine ⟨before, after, blank, hblank, ?_, hbefore⟩
  rw [lineText, String.toList_ofList, htrim, hfilled]

/-- In every line of a table that has one text of each column, which is its title or one of its
cells, the texts stand at the places of the columns. -/
theorem stands_of_column {l : Language} {d : Descriptor} {rows : List Row} (text : Field → String)
    (htext : ∀ f ∈ columns d,
      text f ∈ Catalog.text l f.label :: rows.map fun row => cell row f)
    {f : Field} {j w : Nat} (hf : (columns d)[j]? = some f)
    (hw : (widths l d rows)[j]? = some w) :
    Stands (lineText (widths l d rows) ((columns d).map text)) (offset (widths l d rows) j) w
      (text f) := by
  refine stands_lineText hw (by rw [List.getElem?_map, hf]; rfl) fun i v t hv ht => ?_
  rw [List.getElem?_map] at ht
  obtain ⟨g, hg, rfl⟩ := Option.map_eq_some_iff.mp ht
  obtain ⟨width, ⟨hall, -⟩, hwidth⟩ := exists_width hg l rows
  obtain rfl : v = width := Option.some.inj (hv.symm.trans hwidth)
  exact hall _ (htext g (List.mem_of_getElem? hg))

/-! ## Ends of lines -/

/-- A filled text has an end of a line in it only if the text has. -/
theorem newline_of_padRight {w : Nat} {s : String} (h : '\n' ∈ (padRight w s).toList) :
    '\n' ∈ s.toList := by
  rw [padRight, String.toList_append, String.toList_ofList] at h
  rcases List.mem_append.mp h with h | h
  · exact h
  · exact absurd (List.eq_of_mem_replicate h) (by decide)

/-- A line has another end in it only if one of its texts has. -/
theorem newline_of_lineText {ws : List Nat} {texts : List String}
    (h : '\n' ∈ (lineText ws texts).toList) : ∃ s ∈ texts, '\n' ∈ s.toList := by
  obtain ⟨blank, -, htrim⟩ := exists_trimRight_append (filled ws texts).toList
  rw [lineText, String.toList_ofList] at h
  have hfilled : '\n' ∈ (filled ws texts).toList := htrim ▸ List.mem_append_left blank h
  rcases mem_toList_join hfilled with hsep | ⟨piece, hpiece, hmem⟩
  · exact absurd hsep (by decide)
  · obtain ⟨j, hj⟩ := List.mem_iff_getElem?.mp hpiece
    obtain ⟨w, s, -, hs, rfl⟩ := List.getElem?_zipWith_eq_some.mp hj
    exact ⟨s, List.mem_of_getElem? hs, newline_of_padRight hmem⟩

/-- A text that was cut has an end of a line in it only if the text has. -/
theorem newline_of_shorten {s : String} (h : '\n' ∈ (shorten s).toList) : '\n' ∈ s.toList := by
  by_cases hlong : cutWidth < s.length
  · rw [shorten_of_lt hlong, String.toList_ofList] at h
    rcases List.mem_append.mp h with h | h
    · exact List.mem_of_mem_take h
    · exact absurd (List.mem_singleton.mp h) (by decide)
  · rwa [shorten_of_le (Nat.not_lt.mp hlong)] at h

/-- A cell has an end of a line in it only if the value is a text that has one: other values are
written in JSON. -/
theorem newline_of_cell {row : Row} {f : Field} (h : '\n' ∈ (cell row f).toList) :
    ∃ s, row.get? f.key = some (.str s) ∧ '\n' ∈ s.toList := by
  have hvalue : '\n' ∈ (valueText row f.key).toList := by
    unfold cell at h
    split at h
    · exact newline_of_shorten h
    · exact h
  unfold valueText at hvalue
  cases hget : row.get? f.key with
  | none =>
    rw [hget] at hvalue
    exact absurd hvalue (by decide)
  | some v =>
    rw [hget] at hvalue
    cases v with
    | null => exact absurd hvalue (by decide)
    | str s => exact ⟨s, rfl, hvalue⟩
    | _ => exact absurd hvalue (Json.graphic_render _).newline_not_mem

/-- The line of the page has no other end in it. -/
theorem newline_not_mem_pageText (l : Language) (number : UInt32) (count : Option UInt32) :
    '\n' ∉ (pageText l number count).toList := by
  have hnumber (n : UInt32) : Graphic (toString n).toList := graphic_toString n.toNat
  have htitle : Graphic (Catalog.text l Message.page).toList := by cases l; decide +kernel
  apply Graphic.newline_not_mem
  simp only [pageText, String.toList_append, graphic_append]
  refine ⟨⟨⟨htitle, by decide⟩, hnumber number⟩, ?_⟩
  cases count with
  | none => decide
  | some n =>
    simp only [String.toList_append, graphic_append]
    exact ⟨⟨by decide, hnumber n⟩, by decide⟩

/-- No line of a table has another end in it if no title has one, and no text in a column. -/
theorem newline_not_mem_tableLines {l : Language} {d : Descriptor} {page : ListPage Row}
    {number : UInt32} (htitles : ∀ f ∈ columns d, '\n' ∉ (Catalog.text l f.label).toList)
    (hvalues : ∀ row ∈ page.items, ∀ f ∈ columns d, ∀ s,
      row.get? f.key = some (.str s) → '\n' ∉ s.toList) :
    ∀ line ∈ tableLines l d page number, '\n' ∉ line.toList := by
  rw [tableLines, List.forall_mem_append, List.forall_mem_cons, List.forall_mem_cons,
    List.forall_mem_map, List.forall_mem_singleton]
  refine ⟨⟨fun h => ?_, fun h => ?_, fun row hrow h => ?_⟩, newline_not_mem_pageText l number _⟩
  · obtain ⟨s, hs, hmem⟩ := newline_of_lineText h
    obtain ⟨f, hf, rfl⟩ := List.mem_map.mp hs
    exact htitles f hf hmem
  · obtain ⟨s, hs, hmem⟩ := newline_of_lineText h
    obtain ⟨w, -, rfl⟩ := List.mem_map.mp hs
    rw [String.toList_ofList] at hmem
    exact absurd (List.eq_of_mem_replicate hmem) (by decide)
  · obtain ⟨s, hs, hmem⟩ := newline_of_lineText h
    obtain ⟨f, hf, rfl⟩ := List.mem_map.mp hs
    obtain ⟨t, ht, hnewline⟩ := newline_of_cell hmem
    exact hvalues row hrow f hf t ht hnewline

/-- If no title and no cell is too long, a table of some rows has a line for each row and three
more; otherwise there is no table. In the lines of the titles and of the rows each column stands at
its own place, as wide as the widest of its texts. There is a table that comes apart into just these
lines exactly if the texts fit and no line has another end of a line in it. There is none in the
lines if there is none in the titles and in the texts that are shown; other values bring none. -/
theorem table_aligned (l : Language) (d : Descriptor) (page : ListPage Row) (number : UInt32)
    (h : page.items ≠ []) :
    let ws := widths l d page.items
    let lines := tableLines l d page number
    (Fits l d page.items → table l d page number = some (join "" (lines.map (· ++ "\n")))) ∧
      (¬ Fits l d page.items → table l d page number = none) ∧
      lines.length = page.items.length + 3 ∧
      (∀ j f, (columns d)[j]? = some f → ∃ w,
        IsWidest (Catalog.text l f.label :: page.items.map fun row => cell row f) w ∧
          ws[j]? = some w ∧
          Stands (lineText ws (titles l d)) (offset ws j) w (Catalog.text l f.label) ∧
          ∀ row ∈ page.items, Stands (lineText ws (cells d row)) (offset ws j) w (cell row f)) ∧
      ((∃ text, table l d page number = some text ∧
          (split '\n' text).length = page.items.length + 4) ↔
        Fits l d page.items ∧ ∀ line ∈ lines, '\n' ∉ line.toList) ∧
      (Fits l d page.items →
        (∀ f ∈ columns d, '\n' ∉ (Catalog.text l f.label).toList) →
        (∀ row ∈ page.items, ∀ f ∈ columns d, ∀ s,
          row.get? f.key = some (.str s) → '\n' ∉ s.toList) →
        ∃ text, table l d page number = some text ∧ split '\n' text = lines ++ [""]) := by
  intro ws lines
  have htable (hfits : Fits l d page.items) :
      table l d page number = some (join "" (lines.map (· ++ String.singleton '\n'))) :=
    table_of_fits h hfits number
  have hnone (hfits : ¬ Fits l d page.items) : table l d page number = none :=
    table_of_not_fits h hfits number
  have hlength : lines.length = page.items.length + 3 := length_tableLines l d page number
  refine ⟨htable, hnone, hlength, fun j f hf => ?_, ?_, fun hfits htitles hvalues => ?_⟩
  · obtain ⟨w, hwidest, hw⟩ := exists_width hf l page.items
    refine ⟨w, hwidest, hw, ?_, fun row hrow => ?_⟩
    · exact stands_of_column (fun g => Catalog.text l g.label) (fun _ _ => List.mem_cons_self) hf hw
    · exact stands_of_column (cell row)
        (fun _ _ => List.mem_cons_of_mem _ (List.mem_map.mpr ⟨row, hrow, rfl⟩)) hf hw
  · by_cases hfits : Fits l d page.items
    · rw [htable hfits, ← length_split_terminated_iff, hlength]
      simp only [Option.some.injEq, exists_eq_left', hfits, true_and]
    · simp [hnone hfits, hfits]
  · exact ⟨_, htable hfits,
      split_terminated_of_not_mem (newline_not_mem_tableLines htitles hvalues)⟩

/-- A setting whose name fits its column. -/
def hostTag : Setting := ⟨"ha.tag", "Advanced", none, none, none, none⟩

/-- A setting with a value of one line makes a table of four lines. -/
theorem table_aligned_host_tag :
    [hostTag.toRow] ≠ [] ∧
      ∃ text, table .english Settings.descriptor ⟨[hostTag.toRow], none⟩ 1 = some text ∧
        split '\n' text =
          tableLines .english Settings.descriptor ⟨[hostTag.toRow], none⟩ 1 ++ [""] := by
  have hne : [hostTag.toRow] ≠ [] := List.cons_ne_nil _ _
  obtain ⟨-, -, -, -, -, hsplit⟩ :=
    table_aligned .english Settings.descriptor ⟨[hostTag.toRow], none⟩ 1 hne
  have hfits : Fits .english Settings.descriptor [hostTag.toRow] :=
    (fits_iff _ _ _).mpr (by decide +kernel)
  refine ⟨hne, hsplit hfits (by decide +kernel) ?_⟩
  intro row hrow f hf s hs
  obtain rfl := List.mem_singleton.mp hrow
  rw [hostTag.get?_toRow] at hs
  rcases List.mem_cons.mp hf with rfl | hf
  · cases hs
    decide +kernel
  · rcases List.mem_pair.mp hf with rfl | rfl <;> cases hs

/-- A setting whose value has two lines. -/
def twoLines : Setting := { hostTag with value := some "a\nb" }

/-- A setting with a description that is too long for a table. -/
def longDescription : Setting :=
  { hostTag with description := some (String.ofList (List.replicate 65536 'x')) }

/-- The description is one character too long. -/
theorem length_longDescription :
    65536 ≤ (String.ofList (List.replicate 65536 'x')).length := by
  have hlength : (String.ofList (List.replicate 65536 'x')).length = 65536 := by
    rw [String.length_ofList, List.length_replicate]
  exact Nat.le_of_eq hlength.symm

/-- There is no table with a setting whose description is too long. -/
theorem table_of_long_description {s : Setting} {text : String} (hs : s.description = some text)
    (hlong : 65536 ≤ text.length) (l : Language) (count : Option UInt32) (number : UInt32) :
    table l Settings.descriptor ⟨[s.toRow], count⟩ number = none := by
  apply table_of_not_fits (List.cons_ne_nil _ _)
  intro hfits
  have hcolumn : ({ key := "description", label := Message.description } : Field) ∈
      columns Settings.descriptor := by decide
  have hcell : cell s.toRow { key := "description", label := Message.description } = text := by
    have hget : s.toRow.get? "description" = some (.str text) := by
      rw [s.get?_toRow, hs]
      rfl
    simp [cell, valueText, hget]
  have hlength := (hfits _ hcolumn).2 _ (List.mem_singleton_self _)
  rw [hcell] at hlength
  exact Nat.not_lt.mpr hlong hlength

/-- The table of a setting whose value has two lines has a line too many, which begins with a part
of the value; and there is no table of a setting with a description that is too long. -/
theorem table_broken_two_lines :
    Settings.descriptor.validate = .ok () ∧
      (table .english Settings.descriptor ⟨[twoLines.toRow], none⟩ 1).map (split '\n') =
        some ["Name    Description  Value", "------  -----------  -----", "ha.tag               a",
          "b", "Page 1", ""] ∧
      table .english Settings.descriptor ⟨[longDescription.toRow], none⟩ 1 = none :=
  ⟨by decide +kernel, by decide +kernel,
    table_of_long_description rfl length_longDescription .english none 1⟩

end SettingsConsole.Terminal
