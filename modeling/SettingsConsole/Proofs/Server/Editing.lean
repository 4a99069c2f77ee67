import SettingsConsole.Proofs.Server.Shown
import SettingsConsole.Proofs.Traversal

/-!
# Edits

A change of a setting or of a guest limit replaces one field of one entry, the first one with the
trimmed identifier, and leaves everything else that the server keeps as it is. It succeeds exactly
if there is such an entry. The row of its outcome is the one that listings and detail views of the
server show for this entry from then on. An identifier that is blank never gets that far, even if
the server keeps an entry without a name.
-/

namespace SettingsConsole

open Text

/-! ## Entries in a list -/

namespace Store

variable {α : Type} {test : α → Bool} {f : α → α}

/-- The first element that satisfies the test is replaced, and all others stay. -/
theorem updateFirst_append_cons {front back : List α} {a : α}
    (hfront : ∀ b ∈ front, test b = false) (ha : test a = true) :
    updateFirst test f (front ++ a :: back) = some (f a, front ++ f a :: back) := by
  induction front with
  | nil => simp [updateFirst, ha]
  | cons b front ih =>
    have hb : test b = false := hfront b List.mem_cons_self
    have hrest := ih fun c hc => hfront c (List.mem_cons_of_mem _ hc)
    simp [updateFirst, hb, hrest]

/-- Nothing is replaced if no element satisfies the test. -/
theorem updateFirst_eq_none {as : List α} (h : ∀ a ∈ as, test a = false) :
    updateFirst test f as = none := by
  induction as with
  | nil => rfl
  | cons a as ih =>
    have ha : test a = false := h a List.mem_cons_self
    simp [updateFirst, ha, ih fun b hb => h b (List.mem_cons_of_mem _ hb)]

end Store

/-- A list with a key in it is split at the first element with the key. -/
theorem exists_first {α : Type} {key : α → String} {name : String} {as : List α}
    (h : ∃ a ∈ as, key a = name) :
    ∃ front a back, as = front ++ a :: back ∧ (∀ b ∈ front, key b ≠ name) ∧ key a = name := by
  rcases Traversal.all_or_first (fun a => ne_or_eq (key a) name) as with hnone | hfirst
  · obtain ⟨a, ha, hname⟩ := h
    exact absurd hname (hnone a ha)
  · exact hfirst

/-! ## What the store responds -/

namespace Store

/-- The answer to a change of an entry: the entry as it is now, or a refusal if there is none. -/
def updated {α : Type} (s : Schema α) (toJson : α → Json) (put : List α → Store) (text : String) :
    Option (α × List α) → Answer
  | some (a, as) => .ok (body s.operation [(s.key, toJson a)], put as)
  | none => .error (rejected s.operation text)

/-- The store changes the value of the first setting with a name. -/
theorem respond_updateSetting (st : Store) (name value : String) :
    st.respond .updateSetting
        (Params.text (Params.text Dict.empty "name" name) "value" value) =
      updated .updateSetting Setting.toJson (fun settings => { st with settings := settings })
        "Configuration not found"
        (updateFirst (·.name == name) (fun s => { s with value := some value }) st.settings) := by
  have hname : Params.display? (Params.text (Params.text Dict.empty "name" name) "value" value)
      "name" = some name := by
    simp [Params.display?, Params.text, ParamValue.display]
  have hvalue : Params.display? (Params.text (Params.text Dict.empty "name" name) "value" value)
      "value" = some value := by
    simp [Params.display?, Params.text, ParamValue.display]
  simp only [respond, updateSetting, hname, hvalue, Option.getD_some]
  cases updateFirst _ _ st.settings <;> rfl

/-- The store changes the guest limit of the first capability entry with an identifier. -/
theorem respond_updateHypervisor (st : Store) (id : String) (limit : Int64) :
    st.respond .updateHypervisor
        (Params.number (Params.text Dict.empty "id" id) "maxguestslimit" limit) =
      updated .updateHypervisor HypervisorCapability.toJson
        (fun hypervisors => { st with hypervisors := hypervisors })
        "Hypervisor capability not found"
        (updateFirst (·.id == id) (fun h => { h with maxGuests := some limit })
          st.hypervisors) := by
  let p := Params.number (Params.text Dict.empty "id" id) "maxguestslimit" limit
  have hid : p.display? "id" = some id := by
    simp [p, Params.display?, Params.number, Params.text, ParamValue.display]
  have hlimit : number? p "maxguestslimit" = some limit.toInt := by
    simp [p, number?, Params.number, Params.text]
  change st.updateHypervisor p = _
  simp only [updateHypervisor, hid, hlimit, Option.getD_some, Option.map_some, Int64.ofInt_toInt,
    Option.some_or]
  cases updateFirst _ _ st.hypervisors <;> rfl

end Store

/-! ## The panels -/

/-- A limit that is read from the given values passes, and is the limit of the change. -/
theorem Hypervisors.newLimit_of_givesLimit {values : FieldValues} {n : Int64}
    (h : GivesLimit values n) :
    maxGuestsInput.check values = .ok () ∧ newLimit values = .ok n := by
  obtain ⟨v, hv, hread⟩ := h
  have hne : trim v ≠ "" := by
    intro hempty
    have hnone : readCount "" = none := by decide
    rw [hempty, hnone] at hread
    cases hread
  have hget : values.get? maxGuestsInput.key = some v := hv
  have hvalue : maxGuestsInput.value? values = some (trim v) := by
    rw [Input.value?, hget, Option.bind_some, unlessBlank_trim_of_ne hne]
  have hcheck : maxGuestsInput.check values = .ok () := by
    have hkind : maxGuestsInput.checkKind (trim v) = .ok () := by
      simp only [Input.checkKind, maxGuestsInput, hread]
      rfl
    rw [Input.check, hvalue]
    exact hkind
  have hall : Input.checkAll values [maxGuestsInput] = .ok () :=
    (Input.checkAll_eq_ok_iff values _).mpr (List.forall_mem_singleton.mpr hcheck)
  have hcount : maxGuestsInput.requiredCount values = .ok n := by
    simp only [Input.requiredCount, Input.requiredText, hcheck, hvalue, bind, Except.bind, pure,
      Except.pure, hread]
  exact ⟨hcheck, by simp only [newLimit, hall, bind, Except.bind, hcount]⟩

/-- The outcome of a change of a setting has its row, advice by its category, and one signal. -/
theorem Settings.changed_eq (s : Setting) :
    changed s =
      { row := some s.toRow
        notices :=
          [⟨.info, if s.category = "Usage" then Message.restartUsage
            else Message.restartManagement⟩]
        signals := [.refreshPanel .setting] } := by
  by_cases hcategory : s.category = "Usage"
  · simp [changed, advice, Setting.isUsage, Setting.usageCategory, hcategory, Outcome.notice,
      Outcome.signal, Outcome.ofRow]
  · simp [changed, advice, Setting.isUsage, Setting.usageCategory, hcategory, Outcome.notice,
      Outcome.signal, Outcome.ofRow]

namespace Server

variable {server : Server} {id : String} {values : FieldValues}

/-- The section declares the edits of its panels. -/
theorem declares_edit (resource : Resource) {a : Action}
    (ha : a ∈ (Registry.standardPanel client resource).descriptor.actions)
    (hname : a.name = .edit) (id : String) (values : FieldValues) (size : UInt32) :
    (service size).registry.Declares (.standard resource) (.edit id values)
      (Registry.standardPanel client resource) a := by
  refine ⟨⟨rfl, ?_, by cases resource <;> rfl⟩, ha, hname⟩
  change _ ∈ Registry.standardPanels client
  cases resource <;> simp [Registry.standardPanel, Registry.standardPanels]

variable (server values) in
/-- An edit that is declared is refused if its target is blank, and nothing is sent. -/
theorem turn_edit_of_blank (resource : Resource) {a : Action}
    (ha : a ∈ (Registry.standardPanel client resource).descriptor.actions)
    (hname : a.name = .edit) {f : Field}
    (hf : f ∈ (Registry.standardPanel client resource).descriptor.listFields)
    (hidentifier : f.identifier = true) (hid : trim id = "") (agrees : Prompt → Bool)
    (size : UInt32) (last : Sequence) :
    ((service size).turn (.act (.standard resource) (.edit id values) agrees) last server).1 =
      ⟨.act (.standard resource) (.edit id values) agrees, server,
        .error (.validation f.key f.label .required), server⟩ := by
  have hreg : (service size).registry.Accepted :=
    Registry.accepted_of_build (Registry.build_standardPanels client)
  have haccept := Service.accept_eq_of_refuses (s := service size) hreg
    (.blankTarget (declares_edit resource ha hname id values size) rfl hid hf hidentifier)
  rw [Service.turn_act, haccept]

/-- An edit that is declared without a question, and has a target and proper inputs, is carried out
by the panel for the trimmed target. -/
theorem turn_edit (resource : Resource) {a : Action}
    (ha : a ∈ (Registry.standardPanel client resource).descriptor.actions)
    (hname : a.name = .edit) (hprompt : a.confirmation = none) (hid : trim id ≠ "")
    (hinputs : ∀ i ∈ a.inputs, i.check values = .ok ()) (agrees : Prompt → Bool) (size : UInt32)
    (last : Sequence) :
    ((service size).turn (.act (.standard resource) (.edit id values) agrees) last server).1 =
      let (result, after) :=
        ((Registry.standardPanel client resource).edit (trim id) values).run.run server
      ⟨.act (.standard resource) (.edit id values) agrees, server, result.map .outcome,
        after⟩ := by
  have hreg : (service size).registry.Accepted :=
    Registry.accepted_of_build (Registry.build_standardPanels client)
  have htarget : (Request.edit id values).HasTarget := by
    intro target htarget
    cases htarget
    exact hid
  have haccept := Service.accept_eq_of_judges (s := service size) hreg
    (.admitted (declares_edit resource ha hname id values size) htarget hinputs)
  have hasked : Service.Accepted.prompt?
      ⟨Registry.standardPanel client resource, a, (Request.edit id values).stripped⟩ = none := by
    rw [Service.Accepted.prompt?, hprompt]
    rfl
  rw [Service.turn_act, haccept]
  simp only [hasked, Option.all_none, if_true]
  rfl

/-- An edit that replaces the first entry with a key: the outcome tells of the entry as it is then,
and the store keeps it in the place of the old one. Without such an entry the edit fails. -/
structure ReplacesFirst {α : Type} (server : Server)
    (edit : ExceptT PanelError (StateM Server) Outcome) (rows : List α) (key : α → String)
    (name : String) (change : α → α) (outcome : α → Outcome) (put : List α → Store) : Prop where
  found : ∀ front a back, rows = front ++ a :: back → (∀ b ∈ front, key b ≠ name) →
    key a = name → ∃ call, edit.run.run server =
      (.ok (outcome (change a)), server.received call (put (front ++ change a :: back)))
  missing : (∀ b ∈ rows, key b ≠ name) → ∃ call e, edit.run.run server =
    (.error e, server.received call server.store)

section Plain

variable {α : Type} {rows : List α} {key : α → String} {change : α → α} {outcome : α → Outcome}
variable {put : List α → Store}
variable (hplain : server.Plain)
include hplain

/-- A change that the server answers with the entry as it is now replaces the first entry with a
key. -/
theorem Plain.replacesFirst (s : Schema α) {toJson : α → Json}
    (hread : ∀ a, s.entity.read (toJson a) = .ok a) {text : String} {name : String} {p : Params}
    (hrespond : server.store.respond s.operation p =
      Store.updated s toJson put text (Store.updateFirst (key · == name) change rows)) :
    server.ReplacesFirst (do
        let a ← Panel.remotely do
          let v ← client.call s.operation p
          ExceptT.mk (pure (s.decodeSingle v))
        pure (outcome a))
      rows key name change outcome put := by
  constructor
  · intro front a back hrows hfront ha
    have hfirst : Store.updateFirst (key · == name) change rows =
        some (change a, front ++ change a :: back) := by
      rw [hrows]
      apply Store.updateFirst_append_cons
      · intro b hb
        simpa using hfront b hb
      · simpa using ha
    rw [hfirst] at hrespond
    exact ⟨_, hplain.run_remotely_ok hrespond (Store.decodeSingle_body s (hread _)) _⟩
  · intro hnone
    have hfirst : Store.updateFirst (key · == name) change rows = none :=
      Store.updateFirst_eq_none fun b hb => by simpa using hnone b hb
    rw [hfirst] at hrespond
    exact ⟨_, _, hplain.run_remotely_error hrespond _ _⟩

/-- The panel replaces the value of the first setting with a name. -/
theorem Plain.replacesFirst_setting {value : String} (hvalue : values.get? "value" = some value)
    (name : String) :
    server.ReplacesFirst (Settings.edit client name values) server.store.settings Setting.name name
      (fun s => { s with value := some value }) Settings.changed
      (fun settings => { server.store with settings := settings }) := by
  rw [Settings.edit, Settings.newValue_of_get? hvalue]
  exact hplain.replacesFirst .updateSetting Setting.read_toJson
    (server.store.respond_updateSetting name value)

/-- The panel replaces the guest limit of the first capability entry with an identifier. -/
theorem Plain.replacesFirst_hypervisor {limit : Int64}
    (hlimit : Hypervisors.GivesLimit values limit) (entryId : String) :
    server.ReplacesFirst (Hypervisors.edit client entryId values) server.store.hypervisors
      HypervisorCapability.id entryId (fun h => { h with maxGuests := some limit })
      Hypervisors.changed
      (fun hypervisors => { server.store with hypervisors := hypervisors }) := by
  rw [Hypervisors.edit, (Hypervisors.newLimit_of_givesLimit hlimit).2]
  exact hplain.replacesFirst .updateHypervisor HypervisorCapability.read_toJson
    (server.store.respond_updateHypervisor entryId limit)

/-- A request for an edit that replaces the first entry with the trimmed target succeeds exactly if
there is one. The server keeps the new entry then, and still has nothing fixed. -/
theorem Plain.turn_replacesFirst (resource : Resource) (hid : trim id ≠ "")
    (hedit : server.ReplacesFirst
      ((Registry.standardPanel client resource).edit (trim id) values) rows key (trim id) change
      outcome put)
    {action : Action}
    (haction : action ∈ (Registry.standardPanel client resource).descriptor.actions)
    (hname : action.name = .edit) (hprompt : action.confirmation = none)
    (hinputs : ∀ i ∈ action.inputs, i.check values = .ok ()) (agrees : Prompt → Bool)
    (size : UInt32) (last : Sequence) :
    let t := ((service size).turn (.act (.standard resource) (.edit id values) agrees) last
      server).1
    ((∃ reply, t.result = .ok reply) ↔ ∃ a ∈ rows, key a = trim id) ∧
      ∀ front a back, rows = front ++ a :: back → (∀ b ∈ front, key b ≠ trim id) →
        key a = trim id →
        t.result = .ok (.outcome (outcome (change a))) ∧ t.after.Plain ∧
          t.after.store = put (front ++ change a :: back) := by
  intro t
  have ht : t = _ := turn_edit resource haction hname hprompt hid hinputs agrees size last
  have hfound : ∀ front a back, rows = front ++ a :: back → (∀ b ∈ front, key b ≠ trim id) →
      key a = trim id →
      t.result = .ok (.outcome (outcome (change a))) ∧ t.after.Plain ∧
        t.after.store = put (front ++ change a :: back) := by
    intro front a back hrows hfront ha
    obtain ⟨call, hrun⟩ := hedit.found front a back hrows hfront ha
    rw [ht, hrun]
    exact ⟨rfl, hplain.received _ _, rfl⟩
  refine ⟨?_, hfound⟩
  constructor
  · rintro ⟨reply, hreply⟩
    by_contra hnone
    push Not at hnone
    obtain ⟨call, e, hrun⟩ := hedit.missing hnone
    rw [ht, hrun] at hreply
    cases hreply
  · intro h
    obtain ⟨front, a, back, hrows, hfront, ha⟩ := exists_first h
    exact ⟨_, (hfound front a back hrows hfront ha).1⟩

end Plain

/-- An edit with a blank target is refused, and nothing is sent. Over a server with nothing fixed,
any other edit succeeds exactly if there is an entry with the trimmed target. Then one field of the
first such entry has the given value, and nothing else is changed. The row of the outcome is the one
that the server shows for the entry from then on. A change of a setting is followed by one notice,
every edit by one signal. -/
theorem edit_changes_one_field (server : Server) (id : String) (values : FieldValues)
    (agrees : Prompt → Bool) (size : UInt32) (last : Sequence) :
    let st := server.store
    let edit (resource : Resource) :=
      ((service size).turn (.act (.standard resource) (.edit id values) agrees) last server).1
    (trim id = "" →
      (edit .setting).result = .error (.validation "name" Message.name .required) ∧
        (edit .setting).after = server ∧
        (edit .hypervisor).result = .error (.validation "id" Message.identifier .required) ∧
        (edit .hypervisor).after = server) ∧
      (server.Plain → trim id ≠ "" →
        (∀ value, values.get? "value" = some value →
          ((∃ reply, (edit .setting).result = .ok reply) ↔ ∃ s ∈ st.settings, s.name = trim id) ∧
          ∀ front s back, st.settings = front ++ s :: back →
            (∀ other ∈ front, other.name ≠ trim id) → s.name = trim id →
            let s' : Setting := { s with value := some value }
            (edit .setting).result =
                .ok (.outcome
                  { row := some s'.toRow
                    notices :=
                      [⟨.info, if s.category = "Usage" then Message.restartUsage
                        else Message.restartManagement⟩]
                    signals := [.refreshPanel .setting] }) ∧
              (edit .setting).after.store = { st with settings := front ++ s' :: back } ∧
              (edit .setting).after.ListsAt .setting front.length s'.toRow) ∧
        ∀ limit, Hypervisors.GivesLimit values limit →
          ((∃ reply, (edit .hypervisor).result = .ok reply) ↔
            ∃ h ∈ st.hypervisors, h.id = trim id) ∧
          ∀ front h back, st.hypervisors = front ++ h :: back →
            (∀ other ∈ front, other.id ≠ trim id) → h.id = trim id →
            let h' : HypervisorCapability := { h with maxGuests := some limit }
            (edit .hypervisor).result =
                .ok (.outcome { row := some h'.toRow, signals := [.refreshPanel .hypervisor] }) ∧
              (edit .hypervisor).after.store = { st with hypervisors := front ++ h' :: back } ∧
              (edit .hypervisor).after.ListsAt .hypervisor front.length h'.toRow ∧
              ∀ (size' : UInt32) (last' : Sequence),
                ((service size').turn (.detail (.standard .hypervisor) id) last'
                    (edit .hypervisor).after).1.result = .ok (.row ⟨last'.next.1, h'.toRow⟩)) := by
  intro st edit
  dsimp only [edit, st]
  refine ⟨fun hblank => ?_, fun hplain hid => ⟨?_, ?_⟩⟩
  · have hsetting := turn_edit_of_blank server values .setting
      List.mem_cons_self rfl List.mem_cons_self rfl hblank agrees size last
    have hhypervisor := turn_edit_of_blank server values .hypervisor
      List.mem_cons_self rfl List.mem_cons_self rfl hblank agrees size last
    rw [hsetting, hhypervisor]
    exact ⟨rfl, rfl, rfl, rfl⟩
  · intro value hvalue
    obtain ⟨hsucceeds, hfound⟩ := hplain.turn_replacesFirst .setting hid
      (hplain.replacesFirst_setting hvalue (trim id)) List.mem_cons_self rfl rfl
      (List.forall_mem_singleton.mpr (Settings.check_valueInput values)) agrees size last
    refine ⟨hsucceeds, ?_⟩
    intro front s back hsettings hfront hname
    obtain ⟨hresult, hafter, hstore⟩ := hfound front s back hsettings hfront hname
    refine ⟨?_, hstore, hafter.listsAt ?_⟩
    · rw [hresult, Settings.changed_eq]
    · rw [hstore]
      simp [Store.rows]
  · intro limit hlimit
    obtain ⟨hsucceeds, hfound⟩ := hplain.turn_replacesFirst .hypervisor hid
      (hplain.replacesFirst_hypervisor hlimit (trim id)) List.mem_cons_self rfl rfl
      (List.forall_mem_singleton.mpr (Hypervisors.newLimit_of_givesLimit hlimit).1) agrees size last
    refine ⟨hsucceeds, ?_⟩
    intro front h back hentries hfront hname
    obtain ⟨hresult, hafter, hstore⟩ := hfound front h back hentries hfront hname
    have hfind : (front ++ { h with maxGuests := some limit } :: back).find? (·.id == trim id) =
        some { h with maxGuests := some limit } := by
      refine List.find?_eq_some_iff_append.mpr ⟨by simp [hname], front, back, rfl, ?_⟩
      intro other hother
      simpa using hfront other hother
    refine ⟨hresult, hstore, hafter.listsAt ?_, ?_⟩
    · rw [hstore]
      simp [Store.rows]
    · -- The entries before it have other identifiers, so the detail view finds the changed one.
      apply hafter.result_turn_detail_hypervisor hid
      rw [hstore]
      exact hfind

/-- Of two settings with one name the first one is changed, to a text with white space around it;
and the second capability entry is changed by its identifier. -/
theorem edit_changes_one_field_repeated :
    let usage : Setting := ⟨"a", "Usage", none, none, none, none⟩
    let advanced : Setting := ⟨"a", "Advanced", some "1", none, none, none⟩
    let start := ofStore ⟨[usage, advanced], [], Store.defaultHypervisors⟩
    let edit (resource : Resource) (id : String) (values : FieldValues) :=
      ((service 20).turn (.act (.standard resource) (.edit id values) fun _ => false) .start
        start).1
    (edit .setting " a " (.ofList [("value", " 5 ")])).after.store =
        { start.store with settings := [{ usage with value := some " 5 " }, advanced] } ∧
      (edit .hypervisor "7c20" (.ofList [("maxguestslimit", "60")])).after.store =
        { start.store with hypervisors :=
            [⟨"1b9e", "KVM", some "default", some 50, none, none, some true, none⟩,
              ⟨"7c20", "XenServer", some "8.2.0", some 60, none, none, some true, none⟩] } := by
  intro usage advanced start edit
  have hname : trim " a " = "a" := by decide
  have hid : trim "7c20" = "7c20" := by decide
  have hname_ne : trim " a " ≠ "" := by decide
  have hid_ne : trim "7c20" ≠ "" := by decide
  have hlimit : Hypervisors.GivesLimit (.ofList [("maxguestslimit", "60")]) 60 :=
    ⟨"60", rfl, by decide⟩
  constructor
  · have hedit := (edit_changes_one_field start " a " (.ofList [("value", " 5 ")])
      (fun _ => false) 20 .start).2 (plain_ofStore start.store) hname_ne
    exact ((hedit.1 " 5 " rfl).2 [] usage [advanced] rfl nofun hname.symm).2.1
  · have hedit := (edit_changes_one_field start "7c20" (.ofList [("maxguestslimit", "60")])
      (fun _ => false) 20 .start).2 (plain_ofStore start.store) hid_ne
    refine ((hedit.2 60 hlimit).2 [_] _ [] rfl ?_ hid.symm).2.1
    rw [hid]
    exact List.forall_mem_singleton.mpr (by decide)

/-- A setting without a name cannot be changed: its name is blank, and that is refused. -/
theorem edit_refuses_blank_name :
    let unnamed : Setting := ⟨"", "Advanced", some "1", none, none, none⟩
    let start := ofStore ⟨[unnamed], [], []⟩
    let t := ((service 20).turn
      (.act (.standard .setting) (.edit " " (.ofList [("value", "2")])) fun _ => true) .start
      start).1
    unnamed.name = trim " " ∧ t.result = .error (.validation "name" "label.name" .required) ∧
      t.after = start :=
  ⟨by decide, rfl, rfl⟩

end Server

end SettingsConsole
