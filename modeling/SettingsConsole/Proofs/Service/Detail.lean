import SettingsConsole.Proofs.Entity.Reading
import SettingsConsole.Proofs.Server.Answers
import SettingsConsole.Proofs.Service.Calls

/-!
# What a detail view shows

A detail view asks the server for the entries that fit an identifier. The server may answer as it
likes. The view of an LDAP server compares the host names in the answer with the wanted one, so it
shows the wanted server or none. The view of a capability entry takes the first entry of the answer,
so it shows the wanted entry only if the server puts that one first.
-/

namespace SettingsConsole

open Text

/-! ## Reading the answer -/

variable (answer : CallHistory → Except RemoteError Json)

/-- An operation that makes a call and reads the answer without a further one gives what is read. -/
theorem run_remotely_bind {α β : Type} (op : Operation) (p : Params)
    (decode : Json → Except RemoteError α) {f : α → ExceptT PanelError Calling β}
    {read : α → Except PanelError β} (hf : ∀ a, f a = Panel.checked (read a))
    (calls : CallHistory) :
    ExceptT.run (Panel.remotely (do
        let v ← (Client.ofAnswers answer).call op p
        ExceptT.mk (pure (decode v))) >>= f) calls =
      ((((answer (calls ++ [(op, p)])).bind decode).mapError .ofRemote).bind read,
        calls ++ [(op, p)]) := by
  refine (run_run_bind _ f calls).trans ?_
  rw [run_remotely]
  cases (answer (calls ++ [(op, p)])).bind decode with
  | error e => rfl
  | ok a =>
    change (f a).run.run _ = _
    rw [hf]
    rfl

/-- The call for the detail view of an LDAP server. -/
def Ldap.detailCall (id : String) : RemoteCall :=
  (.listLdapServers, .ofList [("page", .number 1), ("pagesize", .number 500),
    ("hostname", .text id)])

/-- The call for the detail view of a capability entry. -/
def Hypervisors.detailCall (id : String) : RemoteCall :=
  (.listHypervisors, .ofList [("page", .number 1), ("pagesize", .number 20), ("id", .text id)])

/-- The detail view of an LDAP server looks for the host name in the answer. -/
theorem Ldap.run_detail {id : String} (hid : trim id ≠ "") (calls : CallHistory) :
    ((detail (.ofAnswers answer) id).run.run calls).1 =
      (((answer (calls ++ [detailCall id])).bind Schema.listLdapServers.decodeList).mapError
        .ofRemote).bind fun page =>
          match page.items.find? (·.hostname == id) with
          | some s => .ok s.toRow
          | none => .error (.rowNotFound descriptor.id id) := by
  have hparams : (Client.paged ⟨1, Paging.maxSize⟩).insertSome "hostname" (some (.text id)) =
      (detailCall id).2 := Client.paged_insertSome_some hid
  have hcall : detailCall id = (.listLdapServers, (detailCall id).2) := rfl
  rw [hcall, ← hparams]
  refine congrArg Prod.fst (run_remotely_bind answer _ _ _ (fun page => ?_) calls)
  cases page.items.find? (·.hostname == id) <;> rfl

/-- The detail view of a capability entry takes the first entry of the answer. -/
theorem Hypervisors.run_detail {id : String} (hid : trim id ≠ "") (calls : CallHistory) :
    ((detail (.ofAnswers answer) id).run.run calls).1 =
      (((answer (calls ++ [detailCall id])).bind Schema.listHypervisors.decodeList).mapError
        .ofRemote).bind fun page =>
          match page.items.head? with
          | some h => .ok h.toRow
          | none => .error (.rowNotFound descriptor.id id) := by
  have hparams : (Client.paged Paging.default).insertSome "id" (some (.text id)) =
      (detailCall id).2 := Client.paged_insertSome_some hid
  have hcall : detailCall id = (.listHypervisors, (detailCall id).2) := rfl
  rw [hcall, ← hparams]
  refine congrArg Prod.fst (run_remotely_bind answer _ _ _ (fun page => ?_) calls)
  cases page.items.head? <;> rfl

/-- A result comes of an answer that was given, decoded and read without a failure. -/
theorem bind_mapError_bind_eq_ok_iff {α β : Type} {given : Except RemoteError Json}
    {decode : Json → Except RemoteError α} {read : α → Except PanelError β} {b : β} :
    ((given.bind decode).mapError .ofRemote).bind read = .ok b ↔
      ∃ v a, given = .ok v ∧ decode v = .ok a ∧ read a = .ok b := by
  constructor
  · intro h
    cases hgiven : given with
    | error e =>
      rw [hgiven] at h
      cases h
    | ok v =>
      cases hdecode : decode v with
      | error e =>
        simp only [hgiven, Except.bind, hdecode] at h
        cases h
      | ok a =>
        simp only [hgiven, Except.bind, hdecode] at h
        exact ⟨v, a, rfl, hdecode, h⟩
  · rintro ⟨v, a, rfl, hdecode, hread⟩
    simp only [Except.bind, hdecode]
    exact hread

/-- The detail view of an LDAP server gives no row but one with the wanted host name. -/
theorem Ldap.hostname_of_run_detail {id : String} (hid : trim id ≠ "") {calls : CallHistory}
    {row : Row} (h : ((detail (.ofAnswers answer) id).run.run calls).1 = .ok row) :
    row.get? "hostname" = some (.str id) := by
  rw [run_detail answer hid, bind_mapError_bind_eq_ok_iff] at h
  obtain ⟨v, page, -, -, hread⟩ := h
  cases hfind : page.items.find? (·.hostname == id) with
  | none =>
    rw [hfind] at hread
    cases hread
  | some s =>
    rw [hfind] at hread
    cases hread
    have hmatch := List.find?_some hfind
    have hname : s.hostname = id := eq_of_beq hmatch
    rw [LdapServer.get?_toRow, if_pos rfl, hname]

/-- The detail view of a capability entry gives the row of the first entry of the answer. -/
theorem Hypervisors.run_detail_eq_ok_iff {id : String} (hid : trim id ≠ "") {calls : CallHistory}
    {row : Row} :
    ((detail (.ofAnswers answer) id).run.run calls).1 = .ok row ↔
      ∃ v entry rest count, answer (calls ++ [detailCall id]) = .ok v ∧
        Schema.listHypervisors.decodeList v = .ok ⟨entry :: rest, count⟩ ∧ entry.toRow = row := by
  rw [run_detail answer hid, bind_mapError_bind_eq_ok_iff]
  constructor
  · rintro ⟨v, ⟨items, count⟩, hv, hdecode, hread⟩
    cases items with
    | nil => cases hread
    | cons entry rest => exact ⟨v, entry, rest, count, hv, hdecode, Except.ok.inj hread⟩
  · rintro ⟨v, entry, rest, count, hv, hdecode, rfl⟩
    exact ⟨v, ⟨entry :: rest, count⟩, hv, hdecode, rfl⟩

/-! ## The row that is shown -/

namespace Service

variable (size : UInt32)

/-- The result of a detail view in the section of global settings. -/
def detailResult (resource : Resource) (id : String) (last : Sequence) (calls : CallHistory) :
    Except PanelError (Numbered Row) :=
  ((((standard answer size).detail (.standard resource) id).run.run last).run calls).1.1

/-- A detail view of a panel that has one shows what the panel gives for the trimmed identifier, and
numbers it. -/
theorem detailResult_eq_ok_iff {resource : Resource} {id : String}
    (hdetail : (Registry.standardPanel (.ofAnswers answer) resource).descriptor.hasDetail = true)
    (hid : trim id ≠ "") (last : Sequence) (calls : CallHistory) (r : Numbered Row) :
    detailResult answer size resource id last calls = .ok r ↔
      (((Registry.standardPanel (.ofAnswers answer) resource).detail (trim id)).run.run calls).1 =
        .ok r.value ∧ r.number = last.next.1 := by
  have hselected : (standard answer size).selected (.standard resource) =
      .ok (Registry.standardPanel (.ofAnswers answer) resource) := by
    cases resource <;> rfl
  have htarget : (standard answer size).detailTarget (.standard resource) id =
      .ok (Registry.standardPanel (.ofAnswers answer) resource, trim id) := by
    rw [detailTarget_of_hasDetail hselected hdetail, Request.targetId, unlessBlank_trim_of_ne hid]
    rfl
  have hresult : detailResult answer size resource id last calls =
      (((Registry.standardPanel (.ofAnswers answer) resource).detail (trim id)).run.run calls).1.map
        (Numbered.mk last.next.1) := by
    rw [detailResult, Service.run_detail, htarget]
    rfl
  obtain ⟨number, row⟩ := r
  rw [hresult]
  cases (((Registry.standardPanel (.ofAnswers answer) resource).detail (trim id)).run.run
    calls).1 with
  | error e => simp [Except.map]
  | ok found => simp [Except.map, and_comm, eq_comm]

/-- Whatever the server answers, the detail view of an LDAP server shows no row but one with the
wanted host name. The detail view of a capability entry shows a row exactly if the answer has a
first entry, and then the row of that entry. It has the wanted identifier only if the entry has
it. -/
theorem detail_shows {id : String} (hid : trim id ≠ "") (last : Sequence) (calls : CallHistory)
    (r : Numbered Row) :
    (detailResult answer size .ldapServer id last calls = .ok r →
        r.value.get? "hostname" = some (.str (trim id))) ∧
      (detailResult answer size .hypervisor id last calls = .ok r ↔
        ∃ v entry rest count, answer (calls ++ [Hypervisors.detailCall (trim id)]) = .ok v ∧
          Schema.listHypervisors.decodeList v = .ok ⟨entry :: rest, count⟩ ∧
          r = ⟨last.next.1, entry.toRow⟩) ∧
      ∀ entry : HypervisorCapability,
        entry.toRow.get? "id" = some (.str (trim id)) ↔ entry.id = trim id := by
  refine ⟨fun h => ?_, ?_, fun entry => ?_⟩
  · have hshown := (detailResult_eq_ok_iff answer size rfl hid last calls r).mp h
    exact Ldap.hostname_of_run_detail answer (trim_trim_ne hid) hshown.1
  · have hdetail : (Registry.standardPanel (.ofAnswers answer) .hypervisor).detail =
        Hypervisors.detail (.ofAnswers answer) := rfl
    obtain ⟨number, row⟩ := r
    rw [detailResult_eq_ok_iff answer size rfl hid, hdetail,
      Hypervisors.run_detail_eq_ok_iff answer (trim_trim_ne hid)]
    constructor
    · rintro ⟨⟨v, entry, rest, count, hv, hdecode, hrow⟩, hnumber⟩
      exact ⟨v, entry, rest, count, hv, hdecode, by rw [hrow, ← hnumber]⟩
    · rintro ⟨v, entry, rest, count, hv, hdecode, hr⟩
      cases hr
      exact ⟨⟨v, entry, rest, count, hv, hdecode, rfl⟩, rfl⟩
  · rw [HypervisorCapability.get?_toRow, if_pos rfl]
    simp

/-- Of two servers that are listed, the one with the wanted host name is shown. -/
theorem detail_shows_exact_server :
    let listed := Store.body .listLdapServers
      [("count", .ofNat 2), ("LdapConfiguration",
        .arr ([⟨"10.0.0.10", 389⟩, ⟨"10.0.0.1", 636⟩].map LdapServer.toJson))]
    let r : Numbered Row := ⟨1, LdapServer.toRow ⟨"10.0.0.1", 636⟩⟩
    detailResult (fun _ => .ok listed) 20 .ldapServer " 10.0.0.1 " .start [] = .ok r ∧
      r.value.get? "hostname" = some (.str "10.0.0.1") := by
  intro listed r
  have htrim : trim " 10.0.0.1 " = "10.0.0.1" := by decide +kernel
  have htarget : trim "10.0.0.1" ≠ "" := by decide +kernel
  have hid : trim " 10.0.0.1 " ≠ "" := by rw [htrim]; decide
  have hdecode : Schema.listLdapServers.decodeList listed =
      .ok ⟨[⟨"10.0.0.10", 389⟩, ⟨"10.0.0.1", 636⟩], some 2⟩ :=
    Store.decodeList_body .listLdapServers (by decide) 2 (Decode.items_map LdapServer.read_toJson _)
  have hpanel : (Registry.standardPanel (.ofAnswers fun _ => .ok listed) .ldapServer).detail =
      Ldap.detail (.ofAnswers fun _ => .ok listed) := rfl
  have hresult : detailResult (fun _ => .ok listed) 20 .ldapServer " 10.0.0.1 " .start [] =
      .ok r := by
    rw [detailResult_eq_ok_iff _ _ rfl hid, htrim, hpanel, Ldap.run_detail _ htarget,
      bind_mapError_bind_eq_ok_iff]
    exact ⟨⟨listed, _, rfl, hdecode, by simp [r]⟩, rfl⟩
  have hshown := (detail_shows (fun _ => .ok listed) 20 hid .start [] r).1 hresult
  rw [htrim] at hshown
  exact ⟨hresult, hshown⟩

/-- A capability entry is shown in place of the wanted one if the server lists it first. -/
theorem detail_shows_other_entry :
    let other : HypervisorCapability := ⟨"7c20", "XenServer", none, none, none, none, none, none⟩
    let listed := Store.body .listHypervisors
      [("count", .ofNat 1), ("hypervisorCapabilities", .arr ([other].map (·.toJson)))]
    trim "1b9e" ≠ "" ∧
      detailResult (fun _ => .ok listed) 20 .hypervisor "1b9e" .start [] = .ok ⟨1, other.toRow⟩ ∧
      other.toRow.get? "id" ≠ some (.str (trim "1b9e")) := by
  intro other listed
  have htrim : trim "1b9e" = "1b9e" := by decide +kernel
  have hid : trim "1b9e" ≠ "" := by rw [htrim]; decide
  have hdecode : Schema.listHypervisors.decodeList listed = .ok ⟨[other], some 1⟩ :=
    Store.decodeList_body .listHypervisors (by decide) 1
      (Decode.items_map HypervisorCapability.read_toJson _)
  have hpanel : (Registry.standardPanel (.ofAnswers fun _ => .ok listed) .hypervisor).detail =
      Hypervisors.detail (.ofAnswers fun _ => .ok listed) := rfl
  refine ⟨hid, ?_, ?_⟩
  · rw [detailResult_eq_ok_iff _ _ rfl hid, hpanel,
      Hypervisors.run_detail_eq_ok_iff _ (trim_trim_ne hid)]
    exact ⟨⟨listed, other, [], some 1, rfl, hdecode, rfl⟩, rfl⟩
  · rw [HypervisorCapability.get?_toRow, htrim]
    simp [other]

end Service

end SettingsConsole
