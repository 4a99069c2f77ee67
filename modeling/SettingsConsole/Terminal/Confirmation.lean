import SettingsConsole.Catalog
import SettingsConsole.Service.Basic
import SettingsConsole.Text.Ascii

/-!
# Confirmation at the terminal

The user is asked a question and answers with one line. Only `y` and `yes` consent.
-/

namespace SettingsConsole.Confirmation

open Text

/-- The question for a prompt. -/
def question (l : Language) (p : Prompt) : String :=
  Catalog.text l p.action.label ++ ": " ++ Catalog.text l p.text ++
    (match p.target with
      | some id => " (" ++ id ++ ")"
      | none => "") ++ " [y/N] "

/-- Whether an answer consents. -/
def isYes (answer : String) : Bool :=
  let a := asciiLower (trim answer)
  a = "y" || a = "yes"

/-- The bytes of the first line, with its line break. -/
def firstLine : List UInt8 → List UInt8
  | [] => []
  | b :: bs => if b = 10 then [b] else b :: firstLine bs

/-- The text of the first line, unless it is no UTF-8. -/
def readLine? (input : List UInt8) : Option String := String.fromUTF8? ⟨(firstLine input).toArray⟩

/-- Ask with `ask`, which shows a question and gives the answer if it can be read. -/
def confirmer {m : Type → Type} [Monad m] (l : Language) (ask : String → m (Option String)) :
    Confirmer m := fun p => do
  match ← ask (question l p) with
  | some answer => pure (isYes answer)
  | none => pure false

end SettingsConsole.Confirmation
