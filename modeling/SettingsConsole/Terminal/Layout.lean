import SettingsConsole.Catalog
import SettingsConsole.Json.Printer
import SettingsConsole.Panel.Registry
import SettingsConsole.Text.Blank
import SettingsConsole.Text.Split

/-!
# Plain text for the terminal

Lists are shown as tables with aligned columns, single rows as lines of titles and values. Widths
count characters. A hidden field is not shown, except the one that identifies a row: without it the
user could not name the row.

A width that is computed from the texts has to fit into 16 bits. Otherwise nothing is shown, and the
program breaks off.
-/

namespace SettingsConsole.Terminal

open Text

/-- The greatest number of characters in a column that may be cut. -/
def cutWidth : Nat := 48

/-- Whether a field is shown. -/
def visible (f : Field) : Bool := !f.hidden || f.identifier

/-- Cut a text that is too long; the last character then says so. -/
def shorten (s : String) : String :=
  if cutWidth < s.length then String.ofList (s.toList.take (cutWidth - 1) ++ ['…']) else s

/-- The value of a field as text: texts as they are, other values in JSON. -/
def valueText (row : Row) (key : String) : String :=
  match row.get? key with
  | none | some .null => ""
  | some (.str s) => s
  | some v => v.render

/-- The text of one field of a row. -/
def cell (row : Row) (f : Field) : String :=
  let s := valueText row f.key
  if f.truncate then shorten s else s

/-- Fill a text up with spaces. -/
def padRight (width : Nat) (s : String) : String :=
  s ++ String.ofList (List.replicate (width - s.length) ' ')

/-- A text that was filled up is as wide as wanted, unless it was wider. -/
theorem length_padRight (width : Nat) (s : String) :
    (padRight width s).length = max width s.length := by
  simp only [padRight, String.length_append, String.length_ofList, List.length_replicate]
  omega

/-- Fill a text up to a width that was computed, if the width fits into 16 bits. -/
def padRight? (width : Nat) (s : String) : Option String :=
  if width < 65536 then some (padRight width s) else none

/-- The greatest length of some texts. -/
def widest (texts : List String) : Nat := texts.foldl (fun w s => max w s.length) 0

/-- One line of a table: the cells filled up to their widths, without white space at the end. -/
def tableLine (widths : List Nat) (cells : List String) : Option String := do
  let padded ← (widths.zip cells).mapM fun (width, s) => padRight? width s
  some (String.ofList (trimRight (join "  " padded).toList) ++ "\n")

/-- The width of each column: that of its longest cell, or of its title. -/
def columnWidths (header : List String) (body : List (List String)) : List Nat :=
  body.foldl (fun ws cells => List.zipWith (fun w c => max w c.length) ws cells)
    (header.map String.length)

/-- The last line of a table: the number of the page, and how many rows there are. -/
def pageLine (l : Language) (number : UInt32) (count : Option UInt32) : String :=
  Catalog.text l Message.page ++ " " ++ toString number ++
    (match count with
      | some n => " (" ++ toString n ++ ")"
      | none => "") ++ "\n"

/-- One page of rows as a table, if no column is too wide. -/
def table (l : Language) (d : Descriptor) (page : ListPage Row) (number : UInt32) :
    Option String :=
  if page.items.isEmpty then some (Catalog.text l Message.noItems ++ "\n")
  else do
    let fields := d.listFields.filter visible
    let header := fields.map fun f => Catalog.text l f.label
    let body := page.items.map fun row => fields.map (cell row)
    let widths := columnWidths header body
    let rule := widths.map fun w => String.ofList (List.replicate w '-')
    let headerLine ← tableLine widths header
    let ruleLine ← tableLine widths rule
    let bodyLines ← body.mapM (tableLine widths)
    some (headerLine ++ ruleLine ++ join "" bodyLines ++ pageLine l number page.count)

/-- One row: a line for each field, with its title and its value, if no title is too wide. -/
def detail (l : Language) (fields : List Field) (row : Row) : Option String := do
  let fields := fields.filter visible
  let width := widest (fields.map fun f => Catalog.text l f.label)
  let lines ← fields.mapM fun f => do
    let title ← padRight? width (Catalog.text l f.label)
    some (title ++ "  " ++ cell row f ++ "\n")
  some (join "" lines)

/-- The fields that show the row of an outcome. -/
def outcomeFields (d : Descriptor) : List Field :=
  if d.hasDetail then d.detailFields else d.listFields

/-- The line of a notice. -/
def noticeLine (l : Language) (n : Notice) : String :=
  (match n.level with
    | .info => "note") ++ ": " ++ Catalog.text l n.message ++ "\n"

/-- The line of a signal. One panel out of date needs none, as nothing is kept. -/
def signalLine (l : Language) : Signal → String
  | .refreshPanel _ => ""
  | .fullRefresh => Catalog.text l Message.refreshAll ++ "\n"

/-- An outcome: its row, its notices, and what is out of date. -/
def outcome (l : Language) (d : Descriptor) (o : Outcome) : Option String :=
  if o.cancelled then some (Catalog.text l Message.cancelled ++ "\n")
  else do
    let row ←
      match o.row with
      | some row => detail l (outcomeFields d) row
      | none => some ""
    some (row ++ join "" (o.notices.map (noticeLine l)) ++
      join "" (o.signals.map (signalLine l)))

/-- What can be done in a panel. -/
def abilities (d : Descriptor) : List String :=
  (if d.hasDetail then ["show"] else []) ++ d.actions.map fun a => a.name.text

/-- The line of a panel in the list of panels. -/
def panelLine (l : Language) (d : Descriptor) : String :=
  "  " ++ padRight 24 d.id ++ " " ++ Catalog.text l d.label ++
    (if (abilities d).isEmpty then "" else "  [" ++ join ", " (abilities d) ++ "]") ++ "\n"

/-- The panels of a section. -/
def sections {m : Type → Type} (l : Language) (r : Registry m) : String :=
  Catalog.text l r.title ++ " (" ++ r.id ++ ")\n" ++ Catalog.text l r.selector ++ ":\n" ++
    join "" (r.panels.map fun p => panelLine l p.descriptor)

end SettingsConsole.Terminal
