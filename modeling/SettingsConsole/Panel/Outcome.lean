import SettingsConsole.Entity.Row
import SettingsConsole.Panel.Resource

/-!
# Outcomes of actions

An action ends with a row, with notices for the user and with signals that tell which lists to
fetch again; or it is cancelled, and then nothing was done.
-/

namespace SettingsConsole

/-- How serious a notice is. -/
inductive Notice.Level where
  | info
  deriving DecidableEq, Repr

/-- Something the user should know after an action. -/
structure Notice where
  level : Notice.Level
  /-- The message key of the text. -/
  message : String
  deriving DecidableEq, Repr

/-- Which lists are out of date after an action. -/
inductive Signal where
  /-- The list of one panel. -/
  | refreshPanel (r : Resource)
  /-- The lists of all panels. -/
  | fullRefresh
  deriving DecidableEq, Repr

/-- How an action ended. -/
structure Outcome where
  /-- Whether the user declined. -/
  cancelled : Bool := false
  /-- The row as the server has it now, if it said so. -/
  row : Option Row := none
  notices : List Notice := []
  signals : List Signal := []

/-- The JSON form of a notice. -/
def Notice.toJson (n : Notice) : Json :=
  .object [("level", .str "info"), ("message", .str n.message)]

/-- The JSON form of a signal. -/
def Signal.toJson : Signal → Json
  | refreshPanel r => .object [("kind", .str "refreshPanel"), ("resource", .str r.name)]
  | fullRefresh => .object [("kind", .str "fullRefresh")]

namespace Outcome

/-- The outcome of an action that the user declined. -/
def declined : Outcome where
  cancelled := true

/-- The outcome with a row. -/
def ofRow (r : Row) : Outcome where
  row := some r

/-- Add a notice. -/
def notice (o : Outcome) (message : String) : Outcome :=
  { o with notices := o.notices ++ [⟨.info, message⟩] }

/-- Add a signal. -/
def signal (o : Outcome) (s : Signal) : Outcome := { o with signals := o.signals ++ [s] }

/-- The JSON form of an outcome. -/
def toJson (o : Outcome) : Json :=
  .object <|
    [("cancelled", .bool o.cancelled), ("notices", .arr (o.notices.map Notice.toJson)),
      ("signals", .arr (o.signals.map Signal.toJson))] ++ Row.optional "row" Json.ofDict o.row

end Outcome

end SettingsConsole
