import SettingsConsole.Panel.Input
import SettingsConsole.Panel.Outcome
import SettingsConsole.Remote.Paging
import SettingsConsole.Text.Blank

/-!
# Panels

A panel joins a descriptor with the operations behind it. Every panel can list rows; the other
operations are unsupported unless a panel has them. Panels keep nothing.
-/

namespace SettingsConsole

/-- Which rows of a panel are wanted. -/
structure ListQuery where
  /-- The number of the page, from one. -/
  page : UInt32
  /-- A text to search for. -/
  search : Option String
  deriving DecidableEq, Repr

/-- Search for a text. A blank one is no search. -/
def ListQuery.searching (q : ListQuery) (text : String) : ListQuery :=
  { q with search := Text.unlessBlank text }

/-- A panel, whose operations run in `m`. -/
structure Panel (m : Type → Type) where
  descriptor : Descriptor
  /-- One page of rows, of a given size. -/
  list : ListQuery → UInt32 → ExceptT PanelError m (ListPage Row)
  /-- The row with an identifier. -/
  detail : String → ExceptT PanelError m Row
  /-- Change the row with an identifier. -/
  edit : String → FieldValues → ExceptT PanelError m Outcome
  /-- Add a row. -/
  add : FieldValues → ExceptT PanelError m Outcome
  /-- Remove the row with an identifier. -/
  remove : String → ExceptT PanelError m Outcome

namespace Panel

variable {m : Type → Type} [Monad m]

/-- The panel that can only list rows. -/
def listing (d : Descriptor) (list : ListQuery → UInt32 → ExceptT PanelError m (ListPage Row)) :
    Panel m where
  descriptor := d
  list := list
  detail _ := throw (d.unsupported "detail")
  edit _ _ := throw (d.unsupported Action.Name.edit.text)
  add _ := throw (d.unsupported Action.Name.add.text)
  remove _ := throw (d.unsupported Action.Name.remove.text)

/-- Run a remote call inside an operation of a panel. -/
def remotely {α : Type} (x : ExceptT RemoteError m α) : ExceptT PanelError m α :=
  x.adapt PanelError.ofRemote

/-- Use a check or a reading that involves no call. -/
def checked {α : Type} (x : Except PanelError α) : ExceptT PanelError m α := ExceptT.mk (pure x)

end Panel

end SettingsConsole
