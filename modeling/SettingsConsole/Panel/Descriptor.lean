import SettingsConsole.Json.Basic
import SettingsConsole.Panel.Failure
import SettingsConsole.Panel.Resource

/-!
# Descriptors of panels

A descriptor declares the fields that a panel lists, the fields of its detail view, and its
actions with their inputs. A valid descriptor has the identifier of its resource type, exactly one
identifying field, no repeated field or action, and a confirmation for removal.
-/

namespace SettingsConsole

/-- A column of a list, or a line of a detail view. -/
structure Field where
  key : String
  /-- The message key of the title. -/
  label : String
  editable : Bool := false
  /-- Whether the value identifies a row. -/
  identifier : Bool := false
  /-- Whether the value is kept but not shown. -/
  hidden : Bool := false
  /-- Whether a long value may be cut. -/
  truncate : Bool := false
  deriving DecidableEq, Repr

/-- What an input has to be. -/
inductive InputKind where
  /-- Any text. -/
  | text
  /-- A network port. -/
  | port
  /-- A natural number. -/
  | count
  deriving DecidableEq, Repr

/-- An input of an action. -/
structure Input where
  key : String
  /-- The message key of the title. -/
  label : String
  required : Bool
  kind : InputKind
  deriving DecidableEq, Repr

/-- What can be done with rows. -/
inductive Action.Name where
  | edit
  | add
  | remove
  deriving DecidableEq, Repr

/-- A declared action. -/
structure Action where
  name : Action.Name
  /-- The message key of the title. -/
  label : String
  /-- The message key of the question that has to be answered before the action is taken. -/
  confirmation : Option String
  inputs : List Input
  deriving DecidableEq, Repr

/-- The declaration of a panel. -/
structure Descriptor where
  resource : Resource
  id : String
  /-- The message key of the title. -/
  label : String
  listFields : List Field
  /-- The fields of the detail view; none if there is no such view. -/
  detailFields : List Field
  actions : List Action
  deriving DecidableEq, Repr

namespace Action

/-- The name of an action as text. -/
def Name.text : Name → String
  | edit => "edit"
  | add => "add"
  | remove => "remove"

end Action

namespace Descriptor

/-- The field that identifies a row. -/
def identifierField? (d : Descriptor) : Option Field := d.listFields.find? (·.identifier)

/-- The declaration of an action. -/
def action? (d : Descriptor) (name : Action.Name) : Option Action :=
  d.actions.find? (·.name = name)

/-- Whether there is a detail view. -/
def hasDetail (d : Descriptor) : Bool := !d.detailFields.isEmpty

/-- The failure of an action or view that is not declared. -/
def unsupported (d : Descriptor) (action : String) : PanelError := .unsupported d.id action

/-- The first element that stands in `seen` or before itself. -/
def firstRepeated? {α : Type} [DecidableEq α] (seen : List α) : List α → Option α
  | [] => none
  | a :: as => if a ∈ seen then some a else firstRepeated? (a :: seen) as

/-- Nothing is repeated exactly if the elements differ from each other and from those before. -/
theorem firstRepeated?_eq_none_iff {α : Type} [DecidableEq α] (seen as : List α) :
    firstRepeated? seen as = none ↔ as.Nodup ∧ ∀ a ∈ as, a ∉ seen := by
  induction as generalizing seen with
  | nil => simp [firstRepeated?]
  | cons a as ih =>
    by_cases h : a ∈ seen
    · simp [firstRepeated?, h]
    · simp only [firstRepeated?, if_neg h, ih, List.nodup_cons, List.mem_cons, not_or,
        forall_eq_or_imp]
      constructor
      · intro ⟨hn, hs⟩
        exact ⟨⟨fun ha => (hs a ha).1 rfl, hn⟩, h, fun b hb => (hs b hb).2⟩
      · intro ⟨⟨ha, hn⟩, _, hs⟩
        exact ⟨hn, fun b hb => ⟨fun hba => ha (hba ▸ hb), hs b hb⟩⟩

/-- What is wrong with the first bad one of some actions, if `seen` have been declared before. -/
def actionFault? (seen : List Action.Name) : List Action → Option String
  | [] => none
  | a :: as =>
    if a.name ∈ seen then some ("duplicate action '" ++ a.name.text ++ "'")
    else if a.name = .remove ∧ a.confirmation = none then some "remove action without confirmation"
    else actionFault? (a.name :: seen) as

/-- The number of fields that identify a row. -/
def identifierCount (d : Descriptor) : Nat := d.listFields.countP (·.identifier)

/-- The first rule that a descriptor breaks. -/
def fault? (d : Descriptor) : Option String :=
  if d.id ≠ d.resource.panelId then
    some ("id does not match resource type " ++ d.resource.title)
  else if d.identifierCount ≠ 1 then
    some ("expected exactly one identifier field, found " ++ toString d.identifierCount)
  else
    match firstRepeated? [] (d.listFields.map (·.key)) with
    | some key => some ("duplicate list field '" ++ key ++ "'")
    | none => actionFault? [] d.actions

/-- Insist on a valid descriptor. -/
def validate (d : Descriptor) : Except PanelError Unit :=
  match d.fault? with
  | some reason => .error (.invalidDescriptor d.id reason)
  | none => .ok ()

end Descriptor

/-! ## The JSON form -/

/-- The JSON form of a field. -/
def Field.toJson (f : Field) : Json :=
  .object
    [("key", .str f.key), ("label", .str f.label), ("editable", .bool f.editable),
      ("identifier", .bool f.identifier), ("hidden", .bool f.hidden),
      ("truncate", .bool f.truncate)]

/-- The name of a kind of input. -/
def InputKind.name : InputKind → String
  | text => "text"
  | port => "port"
  | count => "count"

/-- The JSON form of an input. -/
def Input.toJson (i : Input) : Json :=
  .object
    [("key", .str i.key), ("label", .str i.label), ("required", .bool i.required),
      ("kind", .str i.kind.name)]

/-- The JSON form of an action. -/
def Action.toJson (a : Action) : Json :=
  .object <|
    [("name", .str a.name.text), ("label", .str a.label),
      ("inputs", .arr (a.inputs.map Input.toJson))] ++
      match a.confirmation with
      | some c => [("confirmation", .str c)]
      | none => []

/-- The JSON form of a descriptor. -/
def Descriptor.toJson (d : Descriptor) : Json :=
  .object
    [("resource", .str d.resource.name), ("id", .str d.id), ("label", .str d.label),
      ("listFields", .arr (d.listFields.map Field.toJson)),
      ("detailFields", .arr (d.detailFields.map Field.toJson)),
      ("actions", .arr (d.actions.map Action.toJson))]

end SettingsConsole
