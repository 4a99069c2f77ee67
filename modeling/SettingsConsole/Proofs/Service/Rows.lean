import SettingsConsole.Proofs.Entity.Rows
import SettingsConsole.Proofs.Service.Calls

/-!
# The rows that a session gives

Whatever the server answers, every row of a list, of a detail view or of an outcome is the row of an
entity that was read from the answer. So it has the fields of the selected resource type, each with
a value of its kind, and its identifying field has a text.
-/

namespace SettingsConsole

variable {α β σ : Type}

/-! ## What an operation yields -/

/-- An operation that gives good results only, if any. -/
def Yields (good : α → Prop) (x : ExceptT PanelError (StateM σ) α) : Prop :=
  ∀ s a, (x.run.run s).1 = .ok a → good a

/-- A check yields what it gives. -/
theorem yields_checked {good : α → Prop} {r : Except PanelError α} (h : ∀ a, r = .ok a → good a) :
    Yields good (Panel.checked (m := StateM σ) r) :=
  fun _ => h

/-- An operation that fails yields nothing. -/
theorem yields_error (good : α → Prop) (e : PanelError) :
    Yields good (Panel.checked (m := StateM σ) (.error e)) :=
  yields_checked nofun

/-- What comes after an operation decides what is yielded. -/
theorem Yields.bind {good : β → Prop} {x : ExceptT PanelError (StateM σ) α}
    {f : α → ExceptT PanelError (StateM σ) β} (hf : ∀ a, Yields good (f a)) :
    Yields good (x >>= f) := by
  intro s b h
  rw [run_run_bind] at h
  rcases hx : x.run.run s with ⟨result, s'⟩
  rw [hx] at h
  cases result with
  | error e => cases h
  | ok a => exact hf a s' b h

/-- What is made of the result of an operation is yielded. -/
theorem Yields.map {good : β → Prop} {x : ExceptT PanelError (StateM σ) α} {f : α → β}
    (hf : ∀ a, good (f a)) : Yields good (do let a ← x; pure (f a)) :=
  .bind fun a => yields_checked fun _ h => Except.ok.inj h ▸ hf a

/-! ## The operations of the panels -/

namespace Registry

variable (c : Client (StateM σ))

/-- A list has rows of the resource type only. -/
theorem yields_list (resource : Resource) (q : ListQuery) (size : UInt32) :
    Yields (fun page => ∀ row ∈ page.items, row.Fits resource.columns)
      ((standardPanel c resource).list q size) := by
  cases resource with
  | setting => exact .map fun page => List.forall_mem_map.mpr fun s _ => s.fits_toRow
  | ldapServer => exact .map fun page => List.forall_mem_map.mpr fun s _ => s.fits_toRow
  | hypervisor => exact .map fun page => List.forall_mem_map.mpr fun h _ => h.fits_toRow

/-- A detail view shows a row of the resource type. -/
theorem yields_detail (resource : Resource) (id : String) :
    Yields (Row.Fits resource.columns) ((standardPanel c resource).detail id) := by
  cases resource with
  | setting => exact yields_error _ _
  | ldapServer =>
    refine .bind fun page => ?_
    cases page.items.find? (·.hostname == id) with
    | none => exact yields_error _ _
    | some s => exact yields_checked fun row hrow => Except.ok.inj hrow ▸ s.fits_toRow
  | hypervisor =>
    refine .bind fun page => ?_
    cases page.items.head? with
    | none => exact yields_error _ _
    | some h => exact yields_checked fun row hrow => Except.ok.inj hrow ▸ h.fits_toRow

/-- An action ends with a row of the resource type, if with any. -/
theorem yields_perform (resource : Resource) (r : Request) :
    Yields (fun o => ∀ row ∈ o.row, row.Fits resource.columns)
      ((standardPanel c resource).perform r) := by
  cases resource with
  | setting =>
    cases r with
    | edit id values =>
      exact .bind fun _ => .map fun s row hrow => Option.some.inj hrow ▸ s.fits_toRow
    | add values => exact yields_error _ _
    | remove id => exact yields_error _ _
  | ldapServer =>
    cases r with
    | edit id values => exact yields_error _ _
    | add values => exact .bind fun _ => .map fun s row hrow => Option.some.inj hrow ▸ s.fits_toRow
    | remove id => exact .map fun _ row hrow => by cases hrow
  | hypervisor =>
    cases r with
    | edit id values =>
      exact .bind fun _ => .map fun h row hrow => Option.some.inj hrow ▸ h.fits_toRow
    | add values => exact yields_error _ _
    | remove id => exact yields_error _ _

/-- The identifying field of a panel is a text that no row of its resource type lacks. -/
theorem exists_identifier (resource : Resource) :
    ∃ f, (standardPanel c resource).descriptor.identifierField? = some f ∧
      ⟨f.key, .text, true⟩ ∈ resource.columns := by
  cases resource <;> exact ⟨_, rfl, by decide⟩

end Registry

/-! ## Requests to the service -/

/-- The rows that a request gives. -/
def Reply.rows : Reply → List Row
  | .page p => p.value.items
  | .row r => [r.value]
  | .outcome o => o.row.toList

/-- The rows that a request of a session gives, if it succeeds. -/
def Turn.rows (t : Turn σ) : List Row :=
  match t.result with
  | .ok reply => reply.rows
  | .error _ => []

/-- A row of a request is one of a result that was good. -/
theorem Turn.exists_of_mem_rows {step : Step} {before after : σ} {result : Except PanelError α}
    {reply : α → Reply} {row : Row}
    (h : row ∈ (Turn.mk step before (result.map reply) after).rows) :
    ∃ a, result = .ok a ∧ row ∈ (reply a).rows := by
  cases result with
  | error e => cases h
  | ok a => exact ⟨a, rfl, h⟩

namespace Service

variable (c : Client (StateM σ)) (size : UInt32)

/-- A request gives no rows but such of the resource type that is selected. -/
theorem fits_turn (step : Step) (last : Sequence) (st : σ) :
    ∀ row ∈ ((Service.new (Registry.standard c) size).turn step last st).1.rows,
      ∃ resource, step.navigation = .standard resource ∧ row.Fits resource.columns := by
  intro row hrow
  cases step with
  | list nav q =>
    rw [turn_list] at hrow
    cases hp : (Service.new (Registry.standard c) size).selected nav with
    | error e =>
      rw [hp] at hrow
      cases hrow
    | ok p =>
      obtain ⟨resource, hnav, rfl⟩ := eq_standardPanel_of_selected hp
      rw [hp] at hrow
      obtain ⟨page, hpage, hmem⟩ := Turn.exists_of_mem_rows hrow
      exact ⟨resource, hnav, Registry.yields_list c resource _ _ st page hpage row hmem⟩
  | detail nav id =>
    rw [turn_detail] at hrow
    cases htarget : (Service.new (Registry.standard c) size).detailTarget nav id with
    | error e =>
      rw [htarget] at hrow
      cases hrow
    | ok target =>
      obtain ⟨p, target⟩ := target
      obtain ⟨resource, hnav, rfl⟩ :=
        eq_standardPanel_of_selected (selected_of_detailTarget htarget)
      rw [htarget] at hrow
      obtain ⟨shown, hshown, hmem⟩ := Turn.exists_of_mem_rows hrow
      cases List.mem_singleton.mp hmem
      exact ⟨resource, hnav, Registry.yields_detail c resource target st _ hshown⟩
  | act nav r agrees =>
    rw [turn_act] at hrow
    cases haccept : (Service.new (Registry.standard c) size).accept nav r with
    | error e =>
      rw [haccept] at hrow
      cases hrow
    | ok a =>
      obtain ⟨resource, hnav, hpanel⟩ := eq_standardPanel_of_selected (selected_of_accept haccept)
      rw [haccept] at hrow
      by_cases hagreed : a.prompt?.all agrees = true
      · simp only [hagreed, if_true] at hrow
        obtain ⟨o, ho, hmem⟩ := Turn.exists_of_mem_rows hrow
        rw [hpanel] at ho
        exact ⟨resource, hnav, Registry.yields_perform c resource a.request st o ho row
          (Option.mem_toList.mp hmem)⟩
      · simp only [hagreed] at hrow
        cases hrow

/-- In every session with the section of global settings, whatever the server answers, every row
that a request gives is one of the selected resource type: it has no other fields, every value is of
the kind of its field, and the identifying field has a text. There is no null in it, and nothing is
nested. -/
theorem rows_fit (steps : List Step) (last : Sequence) (st : σ) :
    let turns := (Service.new (Registry.standard c) size).turns steps last st
    turns.map Turn.step = steps ∧
      ∀ t ∈ turns, ∀ row ∈ t.rows, ∃ resource, t.step.navigation = .standard resource ∧
        row.Fits resource.columns ∧
        (∃ f s, (Registry.standardPanel c resource).descriptor.identifierField? = some f ∧
          row.get? f.key = some (.str s)) ∧
        ∀ m ∈ row.toList, m.2 ≠ .null ∧ (∀ vs, m.2 ≠ .arr vs) ∧ ∀ ms, m.2 ≠ .obj ms := by
  refine ⟨map_step_turns _ steps last st, ?_⟩
  refine forall_mem_turns (fun _ => True) (fun step last st _ => ⟨trivial, fun row hrow => ?_⟩)
    steps last trivial
  obtain ⟨resource, hnav, hfits⟩ := fits_turn c size step last st row hrow
  obtain ⟨f, hf, hcolumn⟩ := Registry.exists_identifier c resource
  obtain ⟨s, hs⟩ := hfits.exists_text hcolumn
  refine ⟨resource, hnav, hfits, ⟨f, s, hf, hs⟩, fun m hm => ?_⟩
  obtain ⟨_, -, -, hkind⟩ := hfits.exists_column hm
  exact hkind.plain

/-- A server in the form of an array, with its port as a text, is listed with a whole number as its
port. -/
theorem rows_fit_array_form :
    let listed : Json := .obj [("ldapconfigurationresponse", .obj [("LdapConfiguration",
      .arr [.arr [.str "ldap.example.com", .str " 0636 "]])])]
    let c : Client (StateM Unit) := ⟨fun _ _ => ExceptT.mk (pure (.ok listed))⟩
    let step : Step := .list (.standard .ldapServer) ⟨1, none⟩
    let t := ((Service.new (Registry.standard c) 20).turn step .start ()).1
    LdapServer.toRow ⟨"ldap.example.com", 636⟩ ∈ t.rows ∧
      ∃ resource, t.step.navigation = .standard resource ∧
        (LdapServer.toRow ⟨"ldap.example.com", 636⟩).Fits resource.columns := by
  intro listed c step t
  have hrow : LdapServer.toRow ⟨"ldap.example.com", 636⟩ ∈ t.rows := by
    have hrows : t.rows = [LdapServer.toRow ⟨"ldap.example.com", 636⟩] := by rfl
    rw [hrows]
    exact List.mem_cons_self
  obtain ⟨resource, hnav, hfits, -⟩ :=
    (rows_fit c 20 [step] .start ()).2 t List.mem_cons_self _ hrow
  exact ⟨hrow, resource, hnav, hfits⟩

end Service

end SettingsConsole
