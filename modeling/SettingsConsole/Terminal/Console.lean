import SettingsConsole.Service.Basic
import SettingsConsole.Terminal.Command
import SettingsConsole.Terminal.Confirmation
import SettingsConsole.Terminal.Layout

/-!
# The console

The console carries out one command after another and gives the text that each one shows, or
nothing if the text cannot be laid out. It keeps the numbers of its requests and of the last
response that it showed.
-/

namespace SettingsConsole

/-- What the console needs to carry out commands. -/
structure Console (m : Type → Type) where
  service : Service m
  language : Language
  /-- Show a question and read the answer, if it can be read. -/
  ask : String → m (Option String)

/-- What the console keeps between commands. -/
structure Console.Progress where
  requests : Sequence
  shown : Latest
  deriving DecidableEq, Repr

/-- A command of the console under way. -/
abbrev ConsoleT (m : Type → Type) := ExceptT CommandError (StateT Console.Progress m)

namespace Console

/-- Nothing has been asked for yet. -/
def Progress.start : Progress := ⟨Sequence.start, Latest.start⟩

/-- Where a command for a panel goes. -/
def place (r : Resource) : Navigation := (Navigation.enter Registry.standardId).select r

variable {m : Type → Type} [Monad m]

/-- Use a result that involves no request. -/
def checked {α : Type} (x : Except CommandError α) : ConsoleT m α := ExceptT.mk (pure x)

/-- Run an action. -/
def acting {α : Type} (x : ExceptT PanelError m α) : ConsoleT m α :=
  ExceptT.mk (StateT.lift (do return (← x.run).mapError .failed))

/-- Make a numbered request. -/
def requesting {α : Type} (x : NumberedT m α) : ConsoleT m α :=
  ExceptT.mk fun p => do
    let (r, requests) ← x.run p.requests
    pure (r.mapError .failed, { p with requests := requests })

/-- Take a response unless a later one was taken. -/
def taking {α : Type} (r : Numbered α) : ConsoleT m (Option α) :=
  ExceptT.mk fun p =>
    let (a, shown) := p.shown.take r
    pure (.ok a, { p with shown := shown })

/-- The descriptor of the panel of a resource type. -/
def descriptor (c : Console m) (r : Resource) : Except CommandError Descriptor :=
  ((c.service.registry.get r).map (·.descriptor)).mapError .failed

/-- Who answers questions: the user, or yes to everything. -/
def confirmer (c : Console m) (yes : Bool) : Confirmer m :=
  if yes then Confirmer.always else Confirmation.confirmer c.language c.ask

/-- Carry out an action and show its outcome. -/
def act (c : Console m) (r : Resource) (request : Request) (yes : Bool) :
    ConsoleT m (Option String) := do
  let o ← acting (c.service.act (place r) request (c.confirmer yes))
  let d ← checked (c.descriptor r)
  pure (Terminal.outcome c.language d o)

/-- Carry out a command. A response that comes too late shows nothing. -/
def execute (c : Console m) : Command → ConsoleT m (Option String)
  | .sections => pure (some (Terminal.sections c.language c.service.registry))
  | .list panel page search => do
    let r ← checked (Command.panelNamed panel)
    let query : ListQuery :=
      match search with
      | some text => ListQuery.searching ⟨page, none⟩ text
      | none => ⟨page, none⟩
    let response ← requesting (c.service.list (place r) query)
    match ← taking response with
    | none => pure (some "")
    | some rows =>
      let d ← checked (c.descriptor r)
      pure (Terminal.table c.language d rows page)
  | .detail panel id => do
    let r ← checked (Command.panelNamed panel)
    let response ← requesting (c.service.detail (place r) id)
    match ← taking response with
    | none => pure (some "")
    | some row =>
      let d ← checked (c.descriptor r)
      pure (Terminal.detail c.language d.detailFields row)
  | .edit panel id values yes => do
    let r ← checked (Command.panelNamed panel)
    let values ← checked (Command.readValues values)
    c.act r (.edit id values) yes
  | .add panel values yes => do
    let r ← checked (Command.panelNamed panel)
    let values ← checked (Command.readValues values)
    c.act r (.add values) yes
  | .remove panel id yes => do
    let r ← checked (Command.panelNamed panel)
    c.act r (.remove id) yes

end Console

end SettingsConsole
