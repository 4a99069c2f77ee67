import SettingsConsole.Proofs.Panel.Registry
import SettingsConsole.Proofs.Terminal.Alignment
import SettingsConsole.Proofs.Text.Blank

/-!
# What a table shows of identifiers

In the panels of the section of global settings the first column of a table has the text that
identifies a row, also if the field is a hidden one. The column of the names of settings may be cut,
though. So the text is complete, but for white space at its end, for host names and for the
identifiers of hypervisor entries; a name of a setting is complete only if it has at most 48
characters, and two longer names are told apart only if they differ in the first 47.
-/

namespace SettingsConsole.Terminal

open Text

/-! ## The first column of a line -/

/-- The text in the first column of a line, if the column has some width. White space at its end
cannot be told from what fills the column up. -/
def firstText (w : Nat) (line : String) : List Char := trimRight (line.toList.take w)

/-- Filling a text up adds white space at its end. -/
theorem trimRight_padRight (w : Nat) (s : String) :
    trimRight (padRight w s).toList = trimRight s.toList := by
  rw [padRight, String.toList_append, String.toList_ofList]
  apply trimRight_append_white
  intro c hc
  rw [List.eq_of_mem_replicate hc]
  rfl

/-- A text that stands at the front of a line is found there. -/
theorem firstText_of_stands {line s : String} {w : Nat} (h : Stands line 0 w s)
    (hfit : s.length ≤ w) : firstText w line = trimRight s.toList := by
  obtain ⟨before, after, blank, hblank, hline, hbefore⟩ := h
  obtain rfl := List.eq_nil_of_length_eq_zero hbefore
  have hwidth : (padRight w s).toList.length = w := by
    rw [String.length_toList, length_padRight]
    exact Nat.max_eq_left hfit
  have hmissing : ∀ c ∈ blank.take (w - line.toList.length), isWhite c = true :=
    fun c hc => List.all_eq_true.mp hblank c (List.mem_of_mem_take hc)
  calc trimRight (line.toList.take w)
    _ = trimRight (line.toList.take w ++ blank.take (w - line.toList.length)) :=
        (trimRight_append_white _ hmissing).symm
    _ = trimRight ((line.toList ++ blank).take w) := by rw [List.take_append]
    _ = trimRight (padRight w s).toList := by
        rw [hline, List.nil_append, List.take_left' hwidth]
    _ = trimRight s.toList := trimRight_padRight w s

/-- The line of a row has the cell of the first column at its front. -/
theorem firstText_of_row {l : Language} {d : Descriptor} {f : Field} {rows : List Row} {w : Nat}
    (hf : (columns d)[0]? = some f) (hw : (widths l d rows)[0]? = some w) {row : Row}
    (hrow : row ∈ rows) :
    firstText w (lineText (widths l d rows) (cells d row)) = trimRight (cell row f).toList := by
  obtain ⟨width, ⟨hall, -⟩, hwidth⟩ := exists_width hf l rows
  obtain rfl : w = width := Option.some.inj (hw.symm.trans hwidth)
  have hcell : cell row f ∈ rows.map fun row => cell row f := List.mem_map.mpr ⟨row, hrow, rfl⟩
  have hstands : Stands (lineText (widths l d rows) (cells d row)) (offset (widths l d rows) 0) w
      (cell row f) :=
    stands_of_column (cell row)
      (fun g _ => List.mem_cons_of_mem _ (List.mem_map.mpr ⟨row, hrow, rfl⟩)) hf hw
  rw [offset_zero] at hstands
  exact firstText_of_stands hstands (hall _ (List.mem_cons_of_mem _ hcell))

/-- The lines of the rows follow those of the titles and of the rule. -/
theorem getElem?_tableLines (l : Language) (d : Descriptor) {page : ListPage Row} (number : UInt32)
    {i : Nat} {row : Row} (h : page.items[i]? = some row) :
    (tableLines l d page number)[i + 2]? =
      some (lineText (widths l d page.items) (cells d row)) := by
  obtain ⟨hlt, -⟩ := List.getElem?_eq_some_iff.mp h
  rw [tableLines, List.cons_append, List.cons_append, List.getElem?_cons_succ,
    List.getElem?_cons_succ, List.getElem?_append_left (by simpa using hlt), List.getElem?_map, h]
  rfl

/-! ## Identifiers -/

/-- What a table shows of an identifier: of the name of a setting with more than 48 characters the
first 47 and a sign that it was cut, and of anything else all but white space at the end. -/
def printed (r : Resource) (id : String) : List Char :=
  if r = .setting ∧ 48 < id.length then id.toList.take 47 ++ ['…'] else trimRight id.toList

/-- An identifier is shown as a whole, white space at its end apart, unless it is a name of a
setting with more than 48 characters. There is one exception: all that was cut off such a name is
white space after the very sign that it was cut. -/
theorem printed_eq_trimRight_iff (r : Resource) (id : String) :
    printed r id = trimRight id.toList ↔
      (r = .setting → id.length ≤ 48 ∨ trimRight id.toList = id.toList.take 47 ++ ['…']) := by
  unfold printed
  split
  · next hcut =>
    constructor
    · exact fun h _ => .inr h.symm
    · intro h
      rcases h hcut.1 with hshort | h
      · exact absurd hcut.2 (Nat.not_lt.mpr hshort)
      · exact h.symm
  · next hwhole =>
    refine iff_of_true rfl fun hr => .inl ?_
    exact Nat.not_lt.mp fun hlong => hwhole ⟨hr, hlong⟩

/-- A field that identifies a row and stands first has the first column, also if it is hidden. -/
theorem columns_of_identifier {d : Descriptor} {f : Field} {rest : List Field}
    (h : d.listFields = f :: rest) (hid : f.identifier = true) :
    columns d = f :: rest.filter visible := by
  rw [columns, h]
  apply List.filter_cons_of_pos
  simp [visible, hid]

/-- A cell has the whole of a text unless it may be cut. -/
theorem cell_of_text {row : Row} {f : Field} {id : String} (h : row.get? f.key = some (.str id)) :
    cell row f = if f.truncate then shorten id else id := by
  have hvalue : valueText row f.key = id := by rw [valueText, h]
  rw [cell, hvalue]

/-- In the section of global settings the identifying field is the first column, and it may be cut
exactly in the panel of settings. -/
theorem identifier_column {m : Type → Type} [Monad m] (c : Client m) {p : Panel m}
    (hp : p ∈ (Registry.standard c).panels) :
    ∃ f fs, p.descriptor.identifierField? = some f ∧ columns p.descriptor = f :: fs ∧
      (f.truncate = true ↔ p.descriptor.resource = .setting) := by
  have hd : p.descriptor = Settings.descriptor ∨ p.descriptor = Ldap.descriptor ∨
      p.descriptor = Hypervisors.descriptor := by
    simp only [Registry.standard, Registry.standardPanels, List.mem_cons, List.not_mem_nil,
      or_false] at hp
    rcases hp with rfl | rfl | rfl
    · exact .inl rfl
    · exact .inr (.inl rfl)
    · exact .inr (.inr rfl)
  rcases hd with hd | hd | hd <;> rw [hd]
  · exact ⟨_, _, rfl, columns_of_identifier rfl rfl, by decide⟩
  · exact ⟨_, _, rfl, columns_of_identifier rfl rfl, by decide⟩
  · exact ⟨_, _, rfl, columns_of_identifier rfl rfl, by decide⟩

/-- The cell of an identifier is what a table shows of it, white space at the end apart. -/
theorem trimRight_cell {row : Row} {f : Field} {r : Resource} {id : String}
    (hget : row.get? f.key = some (.str id)) (hcut : f.truncate = true ↔ r = .setting) :
    trimRight (cell row f).toList = printed r id := by
  rw [cell_of_text hget, printed]
  by_cases hr : r = .setting
  · rw [if_pos (hcut.mpr hr)]
    by_cases hlong : 48 < id.length
    · rw [if_pos ⟨hr, hlong⟩, shorten_of_lt hlong, String.toList_ofList,
        trimRight_concat _ (by decide)]
      rfl
    · rw [if_neg fun h => hlong h.2, shorten_of_le (Nat.not_lt.mp hlong)]
  · rw [if_neg (mt hcut.mp hr), if_neg fun h => hr h.1]

/-- If the first column is that of identifiers, and is cut exactly in the panel of settings, the
line of a row shows there what is shown of the identifier. -/
theorem exists_line {l : Language} {d : Descriptor} {f : Field} {page : ListPage Row} {w : Nat}
    (hf : (columns d)[0]? = some f) (hcut : f.truncate = true ↔ d.resource = .setting)
    (hw : (widths l d page.items)[0]? = some w) (number : UInt32) {i : Nat} {row : Row}
    {id : String} (hrow : page.items[i]? = some row) (hid : row.get? f.key = some (.str id)) :
    ∃ line, (tableLines l d page number)[i + 2]? = some line ∧
      firstText w line = printed d.resource id := by
  refine ⟨_, getElem?_tableLines l d number hrow, ?_⟩
  rw [firstText_of_row hf hw (List.mem_of_getElem? hrow), trimRight_cell hid hcut]

/-- If no title and no cell is too long, a page of some rows has a table; otherwise there is none.
In the first column the line of every row shows the text that identifies the row, white space at its
end apart, unless it is a name of a setting with more than 48 characters, which is cut. The lines of
two rows show the same there exactly if the same is left of the two texts. -/
theorem identifier_complete_iff {m : Type → Type} [Monad m] (c : Client m) {p : Panel m}
    (hp : p ∈ (Registry.standard c).panels) :
    let d := p.descriptor
    ∃ f, d.identifierField? = some f ∧ (columns d)[0]? = some f ∧
      ∀ (l : Language) (page : ListPage Row) (number : UInt32), page.items ≠ [] →
        let lines := tableLines l d page number
        (Fits l d page.items → table l d page number = some (join "" (lines.map (· ++ "\n")))) ∧
          (¬ Fits l d page.items → table l d page number = none) ∧
          ∃ w, (widths l d page.items)[0]? = some w ∧
            ∀ i row id, page.items[i]? = some row → row.get? f.key = some (.str id) →
              ∃ line, lines[i + 2]? = some line ∧
                firstText w line = printed d.resource id ∧
                (firstText w line = trimRight id.toList ↔
                  (d.resource = .setting →
                    id.length ≤ 48 ∨ trimRight id.toList = id.toList.take 47 ++ ['…'])) ∧
                ∀ k other otherId, page.items[k]? = some other →
                  other.get? f.key = some (.str otherId) →
                  ∃ otherLine, lines[k + 2]? = some otherLine ∧
                    (firstText w otherLine = firstText w line ↔
                      printed d.resource otherId = printed d.resource id) := by
  intro d
  obtain ⟨f, fs, hfield, hcolumns, hcut⟩ := identifier_column c hp
  have hf : (columns d)[0]? = some f := congrArg (·[0]?) hcolumns
  refine ⟨f, hfield, hf, fun l page number hne => ?_⟩
  intro lines
  refine ⟨fun h => table_of_fits hne h number, fun h => table_of_not_fits hne h number, ?_⟩
  obtain ⟨w, -, hw⟩ := exists_width hf l page.items
  refine ⟨w, hw, fun i row id hrow hid => ?_⟩
  obtain ⟨line, hline, htext⟩ := exists_line hf hcut hw number hrow hid
  refine ⟨line, hline, htext, ?_, fun k other otherId hother hotherId => ?_⟩
  · rw [htext, printed_eq_trimRight_iff]
  · obtain ⟨otherLine, hotherLine, hotherText⟩ := exists_line hf hcut hw number hother hotherId
    exact ⟨otherLine, hotherLine, by rw [hotherText, htext]⟩

/-- A setting whose name is too long for its column. -/
def capacityThreshold : Setting where
  name := "cluster.storage.allocated.capacity.notificationthreshold"
  category := "Alert"
  value := some "0.75"
  description := none
  scope := none
  dynamic := none

/-- A setting whose name differs from the one above only where that is cut. -/
def capacityInterval : Setting :=
  { capacityThreshold with name := "cluster.storage.allocated.capacity.notification.interval" }

/-- A short name above a long one is complete, and the long one is shown differently. -/
theorem identifier_complete_short_name :
    ∃ w line otherLine,
      let lines :=
        tableLines .english Settings.descriptor ⟨[hostTag.toRow, capacityThreshold.toRow], none⟩ 1
      lines[2]? = some line ∧ lines[3]? = some otherLine ∧
        firstText w line = hostTag.name.toList ∧ firstText w otherLine ≠ firstText w line := by
  obtain ⟨f, hf, -, htable⟩ :=
    identifier_complete_iff Server.client (p := Settings.panel Server.client) List.mem_cons_self
  cases hf
  obtain ⟨-, -, w, -, hrows⟩ :=
    htable .english ⟨[hostTag.toRow, capacityThreshold.toRow], none⟩ 1 (List.cons_ne_nil _ _)
  obtain ⟨line, hline, -, hcomplete, hothers⟩ :=
    hrows 0 hostTag.toRow hostTag.name rfl (hostTag.get?_toRow _)
  obtain ⟨otherLine, hotherLine, halike⟩ :=
    hothers 1 capacityThreshold.toRow capacityThreshold.name rfl (capacityThreshold.get?_toRow _)
  refine ⟨w, line, otherLine, hline, hotherLine, ?_, ?_⟩
  · rw [hcomplete.mpr fun _ => .inl (by decide)]
    decide
  · rw [Ne, halike]
    decide +kernel

/-- The table of two settings with long names shows neither name as a whole, and both alike. -/
theorem identifier_incomplete_long_names :
    let page : ListPage Row := ⟨[capacityThreshold.toRow, capacityInterval.toRow], some 2⟩
    let lines := tableLines .english Settings.descriptor page 1
    Settings.panel Server.client ∈ (Registry.standard Server.client).panels ∧
      capacityThreshold.name ≠ capacityInterval.name ∧
      table .english Settings.descriptor page 1 = some (join "" (lines.map (· ++ "\n"))) ∧
      ∃ w line otherLine, (widths .english Settings.descriptor page.items)[0]? = some w ∧
        lines[2]? = some line ∧ lines[3]? = some otherLine ∧
        firstText w line ≠ trimRight capacityThreshold.name.toList ∧
        firstText w otherLine = firstText w line := by
  intro page lines
  have hwidths : widths .english Settings.descriptor page.items = [48, 11, 5] := rfl
  have hfits : Fits .english Settings.descriptor page.items := by
    rw [fits_iff, hwidths]
    decide
  have hw : (widths .english Settings.descriptor page.items)[0]? = some 48 := by rw [hwidths]; rfl
  have hfirst : page.items[0]? = some capacityThreshold.toRow := rfl
  have hsecond : page.items[1]? = some capacityInterval.toRow := rfl
  have hcolumn : (columns Settings.descriptor)[0]? =
      some { key := "name", label := Message.name, identifier := true, truncate := true } := rfl
  have hcut : true = true ↔ Settings.descriptor.resource = .setting := by decide
  obtain ⟨line, hline, htext⟩ :=
    exists_line hcolumn hcut hw 1 hfirst (capacityThreshold.get?_toRow _)
  obtain ⟨otherLine, hotherLine, hotherText⟩ :=
    exists_line hcolumn hcut hw 1 hsecond (capacityInterval.get?_toRow _)
  have hprinted : printed .setting capacityThreshold.name ≠
        trimRight capacityThreshold.name.toList ∧
      printed .setting capacityInterval.name = printed .setting capacityThreshold.name := by
    decide +kernel
  refine ⟨List.mem_cons_self, by decide +kernel, table_of_fits (List.cons_ne_nil _ _) hfits 1,
    48, line, otherLine, hw, hline, hotherLine, ?_, ?_⟩
  · rw [htext]
    exact hprinted.1
  · rw [hotherText, htext]
    exact hprinted.2

end SettingsConsole.Terminal
