import SettingsConsole.Proofs.Terminal.Table
import SettingsConsole.Proofs.Traversal

/-!
# Hidden fields do not show

What the terminal shows of a row is decided by the values of the fields that are shown. Two rows
with the same values there look the same in a table, in a detail view and in an outcome. A hidden
value could also give itself away by the width of a column, or by a title that moves to another
value; it does not, because the widths are those of the cells that are shown, and titles and values
come from the same fields.
-/

namespace SettingsConsole.Terminal

open Text

/-- Two rows have the same values in the fields that are shown: those that are not hidden, and the
one that identifies a row. -/
def Agree (fields : List Field) (r s : Row) : Prop :=
  ∀ f ∈ fields, f.hidden = false ∨ f.identifier = true → r.get? f.key = s.get? f.key

/-- Two pages have as many rows, and the rows agree one by one. -/
structure PagesAgree (fields : List Field) (p q : ListPage Row) : Prop where
  items : List.Forall₂ (Agree fields) p.items q.items
  count : p.count = q.count

/-- Two outcomes are equal, except that their rows only agree. -/
structure OutcomesAgree (fields : List Field) (o o' : Outcome) : Prop where
  cancelled : o.cancelled = o'.cancelled
  row : Option.Rel (Agree fields) o.row o'.row
  notices : o.notices = o'.notices
  signals : o.signals = o'.signals

/-! ## Rows -/

section

variable {fields : List Field} {r s : Row}

/-- The fields that are shown are those that are not hidden, and the one that identifies a row. -/
theorem visible_iff (f : Field) : visible f = true ↔ f.hidden = false ∨ f.identifier = true := by
  rw [visible, Bool.or_eq_true, Bool.not_eq_true']

/-- A cell shows the value of its field. -/
theorem cell_congr {f : Field} (h : r.get? f.key = s.get? f.key) : cell r f = cell s f := by
  have hvalue : valueText r f.key = valueText s f.key := by rw [valueText, valueText, h]
  rw [cell, cell, hvalue]

/-- Rows that agree have the same cells. -/
theorem Agree.cell_eq (h : Agree fields r s) {f : Field} (hf : f ∈ fields.filter visible) :
    cell r f = cell s f := by
  obtain ⟨hmem, hvisible⟩ := List.mem_filter.mp hf
  exact cell_congr (h f hmem ((visible_iff f).mp hvisible))

/-- Rows that differ only at a key that no shown field names agree. One of them may lack the key. -/
theorem agree_of_forall_ne {key : String}
    (hkey : ∀ f ∈ fields, f.hidden = false ∨ f.identifier = true → f.key ≠ key)
    (hothers : ∀ other, other ≠ key → r.get? other = s.get? other) : Agree fields r s :=
  fun f hf hshown => hothers f.key (hkey f hf hshown)

/-- Rows that agree have the same detail view, or none because a title is too long. -/
theorem Agree.detail_eq (h : Agree fields r s) (l : Language) :
    detail l fields r = detail l fields s := by
  by_cases hfits : TitlesFit l fields
  · rw [detail_of_titlesFit hfits, detail_of_titlesFit hfits]
    congr 2
    apply List.map_congr_left
    intro f hf
    rw [fieldLine, fieldLine, h.cell_eq hf]
  · rw [(detail_eq_none_iff l fields r).mpr hfits, (detail_eq_none_iff l fields s).mpr hfits]

end

/-! ## Tables -/

/-- Rows that agree have the same cells in a table. -/
theorem cells_eq_of_agree {d : Descriptor} {r s : Row} (h : Agree d.listFields r s) :
    cells d r = cells d s :=
  List.map_congr_left fun _ hf => h.cell_eq hf

/-- Rows that agree one by one have the same cells. -/
theorem map_cells_eq_of_agree {d : Descriptor} {rows rows' : List Row}
    (h : List.Forall₂ (Agree d.listFields) rows rows') :
    rows.map (cells d) = rows'.map (cells d) :=
  Traversal.map_eq_map_iff_forall₂.mpr (h.imp fun _ _ => cells_eq_of_agree)

/-- The widths of the columns are those of the cells. -/
theorem widths_congr {d : Descriptor} {rows rows' : List Row}
    (h : rows.map (cells d) = rows'.map (cells d)) (l : Language) :
    widths l d rows = widths l d rows' := by
  rw [widths, widths, h]

/-- A table shows the cells of its rows, and the number of all rows; and it is decided by the cells
whether there is a table. -/
theorem table_congr {d : Descriptor} {p q : ListPage Row}
    (hcells : p.items.map (cells d) = q.items.map (cells d)) (hcount : p.count = q.count)
    (l : Language) (number : UInt32) : table l d p number = table l d q number := by
  have hnil : p.items = [] ↔ q.items = [] := by
    rw [← List.map_eq_nil_iff (f := cells d), hcells, List.map_eq_nil_iff]
  have hwidths : widths l d p.items = widths l d q.items := widths_congr hcells l
  have hfits : Fits l d p.items ↔ Fits l d q.items := by rw [fits_iff, fits_iff, hwidths]
  by_cases hp : p.items = []
  · rw [table_of_nil l d number hp, table_of_nil l d number (hnil.mp hp)]
  · have hq : q.items ≠ [] := mt hnil.mpr hp
    have hrows (ws : List Nat) : (p.items.map fun row => lineText ws (cells d row)) =
        q.items.map fun row => lineText ws (cells d row) := by
      have hlines := congrArg (List.map (lineText ws)) hcells
      rwa [List.map_map, List.map_map] at hlines
    by_cases hpfits : Fits l d p.items
    · have hlines : tableLines l d p number = tableLines l d q number := by
        rw [tableLines, tableLines, hwidths, hrows, hcount]
      rw [table_of_fits hp hpfits, table_of_fits hq (hfits.mp hpfits), hlines]
    · rw [table_of_not_fits hp hpfits, table_of_not_fits hq (mt hfits.mpr hpfits)]

/-- Pages that agree have the same table. -/
theorem PagesAgree.table_eq {d : Descriptor} {p q : ListPage Row}
    (h : PagesAgree d.listFields p q) (l : Language) (number : UInt32) :
    table l d p number = table l d q number :=
  table_congr (map_cells_eq_of_agree h.items) h.count l number

/-! ## Outcomes -/

section

variable {o o' : Outcome}

/-- Of an action that the user declined nothing else is shown. -/
theorem outcome_of_cancelled (h : o.cancelled = true) (l : Language) (d : Descriptor) :
    outcome l d o = some (Catalog.text l Message.cancelled ++ "\n") :=
  if_pos h

/-- Outcomes that agree are shown alike. -/
theorem OutcomesAgree.outcome_eq {d : Descriptor} (h : OutcomesAgree (outcomeFields d) o o')
    (l : Language) : outcome l d o = outcome l d o' := by
  obtain ⟨cancelled, row, notices, signals⟩ := o
  obtain ⟨cancelled', row', notices', signals'⟩ := o'
  obtain ⟨rfl, hrow, rfl, rfl⟩ := h
  cases hrow with
  | none => rfl
  | some hagree => simp only [outcome, hagree.detail_eq l]

end

/-- The fields of an outcome are those of the detail view, if there are any. -/
theorem outcomeFields_eq (d : Descriptor) :
    outcomeFields d = if d.detailFields = [] then d.listFields else d.detailFields := by
  rw [outcomeFields, Descriptor.hasDetail]
  cases d.detailFields <;> rfl

/-- What is shown, if anything can be, is the same for pages, rows and outcomes that agree in the
fields that are shown, and for all outcomes of actions that the user declined. Rows agree if they
differ only at a key that no shown field names, in its value or in whether it is there. -/
theorem hidden_fields_do_not_show (l : Language) (d : Descriptor) :
    (∀ p q number, PagesAgree d.listFields p q → table l d p number = table l d q number) ∧
      (∀ fields r s, Agree fields r s → detail l fields r = detail l fields s) ∧
      (∀ o o', OutcomesAgree (if d.detailFields = [] then d.listFields else d.detailFields) o o' →
        outcome l d o = outcome l d o') ∧
      (∀ o o', o.cancelled = true → o'.cancelled = true → outcome l d o = outcome l d o') ∧
      ∀ (fields : List Field) (key : String),
        (∀ f ∈ fields, f.hidden = false ∨ f.identifier = true → f.key ≠ key) →
          ∀ r s : Row, (∀ other, other ≠ key → r.get? other = s.get? other) →
            Agree fields r s := by
  refine ⟨fun _ _ number h => h.table_eq l number, fun _ _ _ h => h.detail_eq l, ?_, ?_,
    fun _ _ hkey _ _ => agree_of_forall_ne hkey⟩
  · rw [← outcomeFields_eq]
    exact fun _ _ h => h.outcome_eq l
  · intro o o' h h'
    rw [outcome_of_cancelled h, outcome_of_cancelled h']

end SettingsConsole.Terminal
