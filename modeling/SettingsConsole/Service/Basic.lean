import SettingsConsole.Panel.Registry
import SettingsConsole.Service.Navigation
import SettingsConsole.Service.Sequence

/-!
# The panel service

Requests of the user go to the selected panel. An action passes several gates before it reaches the
panel: it is declared, it has a target if it needs one, its inputs are proper, and the user consents
if the declaration asks for that. The first gate that does not open decides the result, and nothing
is sent.
-/

namespace SettingsConsole

open Text

/-- What the user is asked before an action. -/
structure Prompt where
  panel : Descriptor
  action : Action
  /-- The message key of the question. -/
  text : String
  /-- The identifier of the row that the action is for. -/
  target : Option String
  deriving DecidableEq

/-- Who answers for the user. -/
abbrev Confirmer (m : Type → Type) := Prompt → m Bool

/-- Consent to everything. -/
def Confirmer.always {m : Type → Type} [Monad m] : Confirmer m := fun _ => pure true

/-- An action with what the user gave for it. -/
inductive Request where
  | edit (id : String) (values : FieldValues)
  | add (values : FieldValues)
  | remove (id : String)

namespace Request

/-- The action of a request. -/
def name : Request → Action.Name
  | edit .. => .edit
  | add _ => .add
  | remove _ => .remove

/-- The identifier of the row that a request is for. -/
def target? : Request → Option String
  | edit id _ | remove id => some id
  | add _ => none

/-- The values of a request. -/
def values : Request → FieldValues
  | edit _ values | add values => values
  | remove _ => Dict.empty

/-- The refusal of a blank identifier. -/
def blankTarget (d : Descriptor) : PanelError :=
  match d.identifierField? with
  | some f => .validation f.key f.label .required
  | none => .validation "id" "label.id" .required

/-- An identifier without white space around it, which may not be blank. -/
def targetId (d : Descriptor) (id : String) : Except PanelError String :=
  match unlessBlank (trim id) with
  | some id => .ok id
  | none => .error (blankTarget d)

/-- Drop the white space around the identifier of a request. -/
def trimmed (d : Descriptor) : Request → Except PanelError Request
  | edit id values => (targetId d id).map fun id => edit id values
  | add values => .ok (add values)
  | remove id => (targetId d id).map remove

end Request

/-- Carry out a request, without further questions. -/
def Panel.perform {m : Type → Type} (p : Panel m) : Request → ExceptT PanelError m Outcome
  | .edit id values => p.edit id values
  | .add values => p.add values
  | .remove id => p.remove id

/-- The service of one section. -/
structure Service (m : Type → Type) where
  registry : Registry m
  /-- The number of rows on a page, which is in range. -/
  pageSize : UInt32

/-- A request of the service that has a number. -/
abbrev NumberedT (m : Type → Type) := ExceptT PanelError (StateT Sequence m)

namespace Service

variable {m : Type → Type}

/-- The service of a section, with the page size nearest to the wanted one. -/
def new (registry : Registry m) (pageSize : UInt32) : Service m :=
  ⟨registry, Paging.clampSize pageSize⟩

/-- The panel that the user has selected. -/
def selected (s : Service m) (nav : Navigation) : Except PanelError (Panel m) :=
  if nav.sectionId = s.registry.id then
    match nav.selection with
    | some r => s.registry.get r
    | none => .error (.missingSelection nav.sectionId)
  else .error (.unknownPanel nav.sectionId)

/-- The declaration of an action. -/
def declared (d : Descriptor) (name : Action.Name) : Except PanelError Action :=
  match d.action? name with
  | some a => .ok a
  | none => .error (d.unsupported name.text)

/-- A request that has passed the gates before the question to the user. -/
structure Accepted (m : Type → Type) where
  panel : Panel m
  action : Action
  /-- The request, without white space around its identifier. -/
  request : Request

/-- Pass the gates before the question to the user. -/
def accept (s : Service m) (nav : Navigation) (r : Request) : Except PanelError (Accepted m) := do
  let panel ← s.selected nav
  let action ← declared panel.descriptor r.name
  let request ← r.trimmed panel.descriptor
  Input.checkAll request.values action.inputs
  pure ⟨panel, action, request⟩

/-- The question to the user, if the declaration has one. -/
def Accepted.prompt? (a : Accepted m) : Option Prompt :=
  a.action.confirmation.map fun text => ⟨a.panel.descriptor, a.action, text, a.request.target?⟩

variable [Monad m]

/-- Ask the user, if there is a question. -/
def Accepted.consent (a : Accepted m) (confirm : Confirmer m) : m Bool :=
  match a.prompt? with
  | some p => confirm p
  | none => pure true

/-- Carry out an action if all gates open. -/
def act (s : Service m) (nav : Navigation) (r : Request) (confirm : Confirmer m) :
    ExceptT PanelError m Outcome := do
  let a ← Panel.checked (s.accept nav r)
  if ← a.consent confirm then a.panel.perform a.request else pure Outcome.declined

/-- Number a request. -/
def number : NumberedT m UInt64 := ExceptT.lift (modifyGet Sequence.next)

/-- Run an operation of a panel for a numbered request. -/
def numbered {α : Type} (x : ExceptT PanelError m α) : NumberedT m α :=
  ExceptT.mk (StateT.lift x.run)

/-- One page of rows. -/
def list (s : Service m) (nav : Navigation) (q : ListQuery) :
    NumberedT m (Numbered (ListPage Row)) := do
  let panel ← numbered (Panel.checked (s.selected nav))
  let n ← number
  let paging := Paging.validated ⟨q.page, s.pageSize⟩ Paging.maxSize Paging.one_le_maxSize
  let page ← numbered (panel.list ⟨paging.page, q.search⟩ paging.size)
  pure ⟨n, page⟩

/-- The panel and the identifier of a detail view. -/
def detailTarget (s : Service m) (nav : Navigation) (id : String) :
    Except PanelError (Panel m × String) := do
  let panel ← s.selected nav
  if panel.descriptor.hasDetail then
    let id ← Request.targetId panel.descriptor id
    pure (panel, id)
  else throw (panel.descriptor.unsupported "detail")

/-- One row, fetched anew. -/
def detail (s : Service m) (nav : Navigation) (id : String) : NumberedT m (Numbered Row) := do
  let (panel, id) ← numbered (Panel.checked (s.detailTarget nav id))
  let n ← number
  let row ← numbered (panel.detail id)
  pure ⟨n, row⟩

end Service

end SettingsConsole
