import SettingsConsole.Panel.Registry
import SettingsConsole.Proofs.Panel.Input
import SettingsConsole.Proofs.Text.Blank

/-!
# The one call of an operation of a panel

The server may answer as it likes: its answers are any function of the calls so far. Every operation
of the three panels makes exactly one call to it, with parameters that are known beforehand, or is
refused before any call. What follows the call reads its answer and makes no further one, and no
failure that comes of an answer looks like a refusal.
-/

namespace SettingsConsole

open Text

/-- A call of the server. -/
abbrev RemoteCall := Operation × Params

/-- The calls of the server, oldest first. -/
abbrev CallHistory := List RemoteCall

/-- What is run while the calls are kept. -/
abbrev Calling := StateM CallHistory

/-- The client of a server that answers every call as any function of the calls so far, which
include the call. -/
def Client.ofAnswers (answer : CallHistory → Except RemoteError Json) : Client Calling where
  call op p := ExceptT.mk fun calls => (answer (calls ++ [(op, p)]), calls ++ [(op, p)])

/-- Whether a failure is a refusal, which takes no answer of the server. -/
def PanelError.isRefusal : PanelError → Bool
  | unknownPanel _ | missingSelection _ | unsupported .. | validation .. => true
  | remote _ | envelopeMismatch .. | rowNotFound .. | invalidDescriptor .. => false

/-- The failure of a remote call is no refusal. -/
theorem PanelError.isRefusal_ofRemote (e : RemoteError) : (ofRemote e).isRefusal = false := by
  cases e <;> rfl

variable {α β : Type}

/-- A result that comes of an answer: a good value, or a failure other than a refusal. -/
def Answered (good : α → Prop) : Except PanelError α → Prop
  | .error e => e.isRefusal = false
  | .ok a => good a

/-- An operation that makes one call, whatever was called before, and has a result that comes of
the answer. -/
def SendsOnce (good : α → Prop) (x : ExceptT PanelError Calling α) (call : RemoteCall) : Prop :=
  ∀ calls, ∃ result, Answered good result ∧ x.run.run calls = (result, calls ++ [call])

/-- An operation that is refused and makes no call. -/
def Refuses (x : ExceptT PanelError Calling α) : Prop :=
  ∃ e : PanelError, e.isRefusal = true ∧ ∀ calls, x.run.run calls = (.error e, calls)

/-! ## Sequences of steps -/

/-- One computation after another, from a state. -/
theorem run_run_bind {ε σ : Type} (x : ExceptT ε (StateM σ) α) (f : α → ExceptT ε (StateM σ) β)
    (s : σ) :
    (x >>= f).run.run s =
      match x.run.run s with
      | (.ok a, s) => (f a).run.run s
      | (.error e, s) => (.error e, s) := by
  rw [ExceptT.run_bind, StateT.run_bind]
  change (match x.run.run s with | (result, s) => _) = _
  rcases x.run.run s with ⟨result, s⟩
  cases result <;> rfl

/-- A request of a client makes its call and reads the answer. -/
theorem Client.run_remotely {σ : Type} (c : Client (StateM σ)) (op : Operation) (p : Params)
    (decode : Json → Except RemoteError α) (s : σ) :
    (Panel.remotely do
        let v ← c.call op p
        ExceptT.mk (pure (decode v))).run.run s =
      match (c.call op p).run.run s with
      | (answer, s) => ((answer.bind decode).mapError .ofRemote, s) := by
  rw [Panel.remotely, ExceptT.run_adapt, StateT.run_map, run_run_bind]
  rcases (c.call op p).run.run s with ⟨answer, s⟩
  cases answer <;> rfl

/-- A request to a server that answers by what was called makes its call and reads the answer. -/
theorem run_remotely (answer : CallHistory → Except RemoteError Json) (op : Operation) (p : Params)
    (decode : Json → Except RemoteError α) (calls : CallHistory) :
    (Panel.remotely do
        let v ← (Client.ofAnswers answer).call op p
        ExceptT.mk (pure (decode v))).run.run calls =
      (((answer (calls ++ [(op, p)])).bind decode).mapError .ofRemote, calls ++ [(op, p)]) :=
  (Client.ofAnswers answer).run_remotely op p decode calls

/-- Every request of the client makes its one call. -/
theorem sendsOnce_remotely (answer : CallHistory → Except RemoteError Json) (op : Operation)
    (p : Params) (decode : Json → Except RemoteError α) :
    SendsOnce (fun _ => True)
      (Panel.remotely do
        let v ← (Client.ofAnswers answer).call op p
        ExceptT.mk (pure (decode v)))
      (op, p) := by
  intro calls
  refine ⟨_, ?_, run_remotely answer op p decode calls⟩
  cases (answer (calls ++ [(op, p)])).bind decode with
  | error e => exact PanelError.isRefusal_ofRemote e
  | ok a => trivial

/-- What reads the answer after the call makes no further one. -/
theorem SendsOnce.bind {x : ExceptT PanelError Calling α} {f : α → ExceptT PanelError Calling β}
    {good : β → Prop} {call : RemoteCall} (hx : SendsOnce (fun _ => True) x call)
    (hf : ∀ a, ∃ result, Answered good result ∧ f a = Panel.checked result) :
    SendsOnce good (x >>= f) call := by
  intro calls
  obtain ⟨result, hresult, hrun⟩ := hx calls
  rw [run_run_bind, hrun]
  cases result with
  | error e => exact ⟨.error e, hresult, rfl⟩
  | ok a =>
    obtain ⟨next, hnext, hfa⟩ := hf a
    refine ⟨next, hnext, ?_⟩
    change (f a).run.run _ = _
    rw [hfa]
    rfl

/-- An operation that reads its input before its one call is refused, or the input decides the
call. -/
theorem refuses_or_sends {x : Except PanelError α} {f : α → ExceptT PanelError Calling β}
    {given : α → Prop} {good : β → Prop} {call : α → RemoteCall}
    (hread : (∃ a, given a ∧ x = .ok a) ∨ ∃ i : Input, ∃ reason, x = .error (i.refuse reason))
    (hsent : ∀ a, SendsOnce good (f a) (call a)) :
    Refuses (Panel.checked x >>= f) ∨
      ∃ a, given a ∧ SendsOnce good (Panel.checked x >>= f) (call a) := by
  rcases hread with ⟨a, ha, rfl⟩ | ⟨i, reason, rfl⟩
  · refine .inr ⟨a, ha, fun calls => ?_⟩
    rw [run_run_bind]
    exact hsent a calls
  · exact .inl ⟨i.refuse reason, rfl, fun calls => run_run_bind _ f calls⟩

/-! ## The parameters of the calls -/

/-- The parameters that ask for a page, with a text to search for unless it is blank. -/
def Params.listing (page size : Nat) (key : String) (search : Option String) : Params :=
  .ofList <|
    [("page", .number (Int64.ofNat page)), ("pagesize", .number (Int64.ofNat size))] ++
      (search.toList.filter fun text => trim text ≠ "").map fun text => (key, .text text)

/-- The client asks for a page with these parameters. -/
theorem Client.paged_insertSome (p : Paging) (key : String) (search : Option String) :
    (paged p).insertSome key (search.map .text) =
      .listing p.page.toNat p.size.toNat key search := by
  cases search with
  | none => rfl
  | some text =>
    by_cases hblank : trim text = ""
    · have hb : isBlank text = true := (trim_eq_empty_iff text).mp hblank
      simp only [Option.map_some, Params.insertSome, ParamValue.isBlank, hb, if_true]
      simp [Params.listing, hblank]
      rfl
    · have hb : isBlank text = false := isBlank_eq_false hblank
      simp only [Option.map_some, Params.insertSome, ParamValue.isBlank, hb]
      simp [Params.listing, hblank]
      rfl

/-- A text that is not blank is searched for. -/
theorem Client.paged_insertSome_some {p : Paging} {key text : String} (h : trim text ≠ "") :
    (paged p).insertSome key (some (.text text)) =
      .ofList [("page", .number (Int64.ofNat p.page.toNat)),
        ("pagesize", .number (Int64.ofNat p.size.toNat)), (key, .text text)] :=
  (paged_insertSome p key (some text)).trans (by simp [Params.listing, h])

/-! ## The operations of the panels -/

variable (answer : CallHistory → Except RemoteError Json)

/-- What a panel makes of an answer that was read is a good result, whatever it is. -/
theorem SendsOnce.map {x : ExceptT PanelError Calling α} {call : RemoteCall} {f : α → β}
    {good : β → Prop} (hx : SendsOnce (fun _ => True) x call) (hf : ∀ a, good (f a)) :
    SendsOnce good (do let a ← x; pure (f a)) call :=
  hx.bind fun a => ⟨.ok (f a), hf a, rfl⟩

/-- A list of settings takes one call. -/
theorem Settings.sendsOnce_list (q : ListQuery) (size : UInt32) :
    SendsOnce (fun _ => True) (list (.ofAnswers answer) q size)
      (.listSettings, .listing q.page.toNat size.toNat "name" q.search) := by
  rw [← Client.paged_insertSome ⟨q.page, size⟩]
  exact (sendsOnce_remotely answer _ _ _).map fun _ => trivial

/-- A list of LDAP servers takes one call. -/
theorem Ldap.sendsOnce_list (q : ListQuery) (size : UInt32) :
    SendsOnce (fun _ => True) (list (.ofAnswers answer) q size)
      (.listLdapServers, .listing q.page.toNat size.toNat "hostname" q.search) := by
  rw [← Client.paged_insertSome ⟨q.page, size⟩]
  exact (sendsOnce_remotely answer _ _ _).map fun _ => trivial

/-- A list of capability entries takes one call. -/
theorem Hypervisors.sendsOnce_list (q : ListQuery) (size : UInt32) :
    SendsOnce (fun _ => True) (list (.ofAnswers answer) q size)
      (.listHypervisors, .listing q.page.toNat size.toNat "keyword" q.search) := by
  rw [← Client.paged_insertSome ⟨q.page, size⟩]
  exact (sendsOnce_remotely answer _ _ _).map fun _ => trivial

/-- A detail view of an LDAP server takes one call, whether the server is found or not. -/
theorem Ldap.sendsOnce_detail {id : String} (hid : trim id ≠ "") :
    SendsOnce (fun _ => True) (detail (.ofAnswers answer) id)
      (.listLdapServers, .ofList [("page", .number 1), ("pagesize", .number 500),
        ("hostname", .text id)]) := by
  have hparams : (Client.paged ⟨1, Paging.maxSize⟩).insertSome "hostname" (some (.text id)) =
      .ofList [("page", .number 1), ("pagesize", .number 500), ("hostname", .text id)] :=
    Client.paged_insertSome_some hid
  rw [← hparams]
  refine (sendsOnce_remotely answer _ _ _).bind fun page => ?_
  cases page.items.find? (·.hostname == id) with
  | none => exact ⟨.error (.rowNotFound descriptor.id id), rfl, rfl⟩
  | some s => exact ⟨.ok s.toRow, trivial, rfl⟩

/-- A detail view of a capability entry takes one call, whether the entry is found or not. -/
theorem Hypervisors.sendsOnce_detail {id : String} (hid : trim id ≠ "") :
    SendsOnce (fun _ => True) (detail (.ofAnswers answer) id)
      (.listHypervisors, .ofList [("page", .number 1), ("pagesize", .number 20),
        ("id", .text id)]) := by
  have hparams : (Client.paged Paging.default).insertSome "id" (some (.text id)) =
      .ofList [("page", .number 1), ("pagesize", .number 20), ("id", .text id)] :=
    Client.paged_insertSome_some hid
  rw [← hparams]
  refine (sendsOnce_remotely answer _ _ _).bind fun page => ?_
  cases page.items.head? with
  | none => exact ⟨.error (.rowNotFound descriptor.id id), rfl, rfl⟩
  | some h => exact ⟨.ok h.toRow, trivial, rfl⟩

/-- The value of a change is the given one as it stands, or the change is refused. -/
theorem Settings.newValue_cases (values : FieldValues) :
    (∃ v, values.get? "value" = some v ∧ newValue values = .ok v) ∨
      ∃ i : Input, ∃ reason, newValue values = .error (i.refuse reason) := by
  unfold newValue
  cases hcheck : Input.checkAll values [valueInput] with
  | error e =>
    obtain ⟨i, -, reason, rfl⟩ := Input.eq_refuse_of_checkAll hcheck
    exact .inr ⟨i, reason, rfl⟩
  | ok =>
    cases hv : values.get? valueInput.key with
    | none => exact .inr ⟨valueInput, .required, rfl⟩
    | some v => exact .inl ⟨v, hv, rfl⟩

/-- The input of a change of a setting always passes. -/
theorem Settings.check_valueInput (values : FieldValues) :
    valueInput.check values = .ok () := by
  unfold Input.check
  cases valueInput.value? values <;> rfl

/-- So the check of the inputs of a change of a setting always passes. -/
theorem Settings.checkAll_valueInput (values : FieldValues) :
    Input.checkAll values [valueInput] = .ok () :=
  (Input.checkAll_eq_ok_iff values _).mpr
    (List.forall_mem_singleton.mpr (check_valueInput values))

/-- The value of a change of a setting is the given one as it stands. -/
theorem Settings.newValue_of_get? {values : FieldValues} {v : String}
    (h : values.get? "value" = some v) : newValue values = .ok v := by
  have hget : values.get? valueInput.key = some v := h
  simp only [newValue, checkAll_valueInput, hget, bind, Except.bind]
  rfl

/-- A change of a setting is refused, or it takes one call with the value as it was given. -/
theorem Settings.edit_refuses_or_sends (id : String) (values : FieldValues) :
    Refuses (edit (.ofAnswers answer) id values) ∨
      ∃ v, values.get? "value" = some v ∧
        SendsOnce (·.cancelled = false) (edit (.ofAnswers answer) id values)
          (.updateSetting, .ofList [("name", .text id), ("value", .text v)]) :=
  refuses_or_sends (newValue_cases values) fun _ =>
    (sendsOnce_remotely answer _ _ _).map fun _ => rfl

/-- A limit that is read from the given values. -/
def Hypervisors.GivesLimit (values : FieldValues) (n : Int64) : Prop :=
  ∃ v, values.get? "maxguestslimit" = some v ∧ readCount (trim v) = some n

/-- The limit of a change is the count that was given, or the change is refused. -/
theorem Hypervisors.newLimit_cases (values : FieldValues) :
    (∃ n, GivesLimit values n ∧ newLimit values = .ok n) ∨
      ∃ i : Input, ∃ reason, newLimit values = .error (i.refuse reason) := by
  unfold newLimit
  cases hcheck : Input.checkAll values [maxGuestsInput] with
  | error e =>
    obtain ⟨i, -, reason, rfl⟩ := Input.eq_refuse_of_checkAll hcheck
    exact .inr ⟨i, reason, rfl⟩
  | ok =>
    rcases maxGuestsInput.requiredCount_cases values with ⟨v, n, hv, hn, hread⟩ | ⟨reason, hread⟩
    · exact .inl ⟨n, ⟨v, hv, hn⟩, hread⟩
    · exact .inr ⟨maxGuestsInput, reason, hread⟩

/-- A change of a guest limit is refused, or it takes one call with the count that was given. -/
theorem Hypervisors.edit_refuses_or_sends (id : String) (values : FieldValues) :
    Refuses (edit (.ofAnswers answer) id values) ∨
      ∃ n, GivesLimit values n ∧
        SendsOnce (·.cancelled = false) (edit (.ofAnswers answer) id values)
          (.updateHypervisor, .ofList [("id", .text id), ("maxguestslimit", .number n)]) :=
  refuses_or_sends (newLimit_cases values) fun _ =>
    (sendsOnce_remotely answer _ _ _).map fun _ => rfl

/-- A host name and a port that are read from the given values. -/
def Ldap.GivesServer (values : FieldValues) (server : String × UInt16) : Prop :=
  ∃ h v, values.get? "hostname" = some h ∧ values.get? "port" = some v ∧
    server.1 = trim h ∧ readPort (trim v) = some server.2

/-- The host name and the port of a new server are the given ones, or the addition is refused. -/
theorem Ldap.newServer_cases (values : FieldValues) :
    (∃ server, GivesServer values server ∧ newServer values = .ok server) ∨
      ∃ i : Input, ∃ reason, newServer values = .error (i.refuse reason) := by
  unfold newServer
  cases hcheck : Input.checkAll values [hostnameInput, portInput] with
  | error e =>
    obtain ⟨i, -, reason, rfl⟩ := Input.eq_refuse_of_checkAll hcheck
    exact .inr ⟨i, reason, rfl⟩
  | ok =>
    rcases hostnameInput.requiredText_cases values with ⟨h, hh, htext⟩ | ⟨reason, htext⟩
    · rw [htext]
      rcases portInput.requiredPort_cases values with ⟨v, n, hv, hn, hport⟩ | ⟨reason, hport⟩
      · rw [hport]
        exact .inl ⟨(trim h, n), ⟨h, v, hh, hv, rfl, hn⟩, rfl⟩
      · rw [hport]
        exact .inr ⟨portInput, reason, rfl⟩
    · rw [htext]
      exact .inr ⟨hostnameInput, reason, rfl⟩

/-- Values that pass the check give a host name and a port. -/
theorem Ldap.newServer_of_checkAll {values : FieldValues}
    (h : Input.checkAll values [hostnameInput, portInput] = .ok ()) :
    ∃ host port, GivesServer values (host, port) ∧ host ≠ "" ∧ 1 ≤ port.toNat ∧
      newServer values = .ok (host, port) := by
  have hchecks := (Input.checkAll_eq_ok_iff values _).mp h
  obtain ⟨host, hhost, hne, -, htext⟩ :=
    Input.requiredText_of_check (i := hostnameInput) rfl (hchecks _ List.mem_cons_self)
  obtain ⟨v, port, hv, hport, hread⟩ := Input.requiredPort_of_check (i := portInput) rfl rfl
    (hchecks _ (List.mem_cons_of_mem _ List.mem_cons_self))
  have hone := Input.one_le_of_readPort hport
  refine ⟨trim host, port, ⟨host, v, hhost, hv, rfl, hport⟩, hne, hone, ?_⟩
  simp only [newServer, h, htext, hread, bind, Except.bind]
  rfl

/-- An addition of an LDAP server is refused, or it takes one call with the host name and the port
that were given. -/
theorem Ldap.add_refuses_or_sends (values : FieldValues) :
    Refuses (add (.ofAnswers answer) values) ∨
      ∃ server, GivesServer values server ∧
        SendsOnce (·.cancelled = false) (add (.ofAnswers answer) values)
          (.addLdapServer, .ofList [("hostname", .text server.1),
            ("port", .number (Int64.ofNat server.2.toNat))]) :=
  refuses_or_sends (newServer_cases values) fun _ =>
    (sendsOnce_remotely answer _ _ _).map fun _ => rfl

/-- A removal of an LDAP server takes one call. -/
theorem Ldap.sendsOnce_remove (id : String) :
    SendsOnce (·.cancelled = false) (remove (.ofAnswers answer) id)
      (.deleteLdapServer, .ofList [("hostname", .text id)]) :=
  (sendsOnce_remotely answer _ _ _).map fun _ => rfl

end SettingsConsole
