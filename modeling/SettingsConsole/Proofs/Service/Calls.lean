import SettingsConsole.Proofs.Panel.Calls
import SettingsConsole.Proofs.Remote.Paging
import SettingsConsole.Proofs.Service.Gates

/-!
# The calls of a session

A session is any run of requests to the section of global settings, over a server that may answer
as it likes. Every request makes one call or none. Which call it is depends on the request alone,
and whether there is one can be told from the result: there is none exactly if the request was
refused or the user declined.
-/

namespace SettingsConsole

open Text

/-- The section of global settings, with one of its resource types selected. -/
def Navigation.standard (resource : Resource) : Navigation :=
  ⟨Registry.standardId, some resource⟩

/-- The panel of a resource type in the section of global settings. -/
def Registry.standardPanel {m : Type → Type} [Monad m] (c : Client m) : Resource → Panel m
  | .setting => Settings.panel c
  | .ldapServer => Ldap.panel c
  | .hypervisor => Hypervisors.panel c

/-- The parameters that a list asks for: the page, from one, and the number of rows that is nearest
to the wanted one between 1 and 500. -/
def ListQuery.params (q : ListQuery) (size : UInt32) (key : String) : Params :=
  .listing (max q.page.toNat 1) (min (max size.toNat 1) 500) key q.search

/-- The call that a request needs if it is not refused. -/
inductive Step.Needs (size : UInt32) : Step → RemoteCall → Prop
  | listSettings {q : ListQuery} :
      Needs size (.list (.standard .setting) q) (.listSettings, q.params size "name")
  | listLdapServers {q : ListQuery} :
      Needs size (.list (.standard .ldapServer) q) (.listLdapServers, q.params size "hostname")
  | listHypervisors {q : ListQuery} :
      Needs size (.list (.standard .hypervisor) q) (.listHypervisors, q.params size "keyword")
  | showLdapServer {id : String} :
      Needs size (.detail (.standard .ldapServer) id)
        (.listLdapServers, .ofList [("page", .number 1), ("pagesize", .number 500),
          ("hostname", .text (trim id))])
  | showHypervisor {id : String} :
      Needs size (.detail (.standard .hypervisor) id)
        (.listHypervisors, .ofList [("page", .number 1), ("pagesize", .number 20),
          ("id", .text (trim id))])
  | editSetting {id value : String} {values : FieldValues} {agrees : Prompt → Bool} :
      values.get? "value" = some value →
      Needs size (.act (.standard .setting) (.edit id values) agrees)
        (.updateSetting, .ofList [("name", .text (trim id)), ("value", .text value)])
  | editHypervisor {id limit : String} {n : Int64} {values : FieldValues}
      {agrees : Prompt → Bool} :
      values.get? "maxguestslimit" = some limit → readCount (trim limit) = some n →
      Needs size (.act (.standard .hypervisor) (.edit id values) agrees)
        (.updateHypervisor, .ofList [("id", .text (trim id)), ("maxguestslimit", .number n)])
  | addLdapServer {hostname port : String} {n : UInt16} {values : FieldValues}
      {agrees : Prompt → Bool} :
      values.get? "hostname" = some hostname → values.get? "port" = some port →
      readPort (trim port) = some n →
      Needs size (.act (.standard .ldapServer) (.add values) agrees)
        (.addLdapServer, .ofList [("hostname", .text (trim hostname)),
          ("port", .number (Int64.ofNat n.toNat))])
  | removeLdapServer {id : String} {agrees : Prompt → Bool} :
      Needs size (.act (.standard .ldapServer) (.remove id) agrees)
        (.deleteLdapServer, .ofList [("hostname", .text (trim id))])

/-- The call that a request needs is determined by the request. -/
theorem Step.Needs.unique {size : UInt32} {step : Step} {call other : RemoteCall}
    (h : step.Needs size call) (h' : step.Needs size other) : call = other := by
  cases h <;> cases h' <;> simp_all

/-- Whether the result of a request takes no answer of the server: a refusal, or the outcome of an
action that the user declined. -/
def isLocal : Except PanelError Reply → Bool
  | .error e => e.isRefusal
  | .ok (.outcome o) => o.cancelled
  | .ok (.page _) | .ok (.row _) => false

/-- A request of a session, with its result and the calls that were made for it. -/
structure Exchange where
  step : Step
  result : Except PanelError Reply
  sent : CallHistory

/-- A request makes no call if its result takes none, and otherwise the one call that it needs. -/
def Exchange.Proper (size : UInt32) (r : Exchange) : Prop :=
  (isLocal r.result = true ∧ r.sent = []) ∨
    (isLocal r.result = false ∧
      ∃ call, r.sent = [call] ∧ ∀ other, r.step.Needs size other ↔ other = call)

/-- Take requests one after another, with the counter of requests and the calls before them. -/
def Service.session (s : Service Calling) :
    List Step → Sequence → CallHistory → List Exchange × CallHistory
  | [], _, calls => ([], calls)
  | step :: rest, last, calls =>
    let ((result, next), after) := ((s.step step).run last).run calls
    let (exchanges, final) := s.session rest next after
    (⟨step, result, after.drop calls.length⟩ :: exchanges, final)

/-- The service of the section of global settings, over a server. -/
def Service.standard (answer : CallHistory → Except RemoteError Json) (size : UInt32) :
    Service Calling :=
  .new (Registry.standard (.ofAnswers answer)) size

variable (answer : CallHistory → Except RemoteError Json) (size : UInt32)

/-! ## Requests are refused, or reach a panel -/

/-- The selection leads to a panel of the section, or it is refused. -/
theorem Service.selected_new_standard {m : Type → Type} [Monad m] (c : Client m)
    (nav : Navigation) :
    (∃ resource, nav = .standard resource ∧
        (Service.new (Registry.standard c) size).selected nav =
          .ok (Registry.standardPanel c resource)) ∨
      ∃ e : PanelError, e.isRefusal = true ∧
        (Service.new (Registry.standard c) size).selected nav = .error e := by
  obtain ⟨sectionId, selection⟩ := nav
  by_cases hsection : sectionId = Registry.standardId
  · subst hsection
    cases selection with
    | none => exact .inr ⟨_, rfl, rfl⟩
    | some resource => exact .inl ⟨resource, rfl, by cases resource <;> rfl⟩
  · exact .inr ⟨.unknownPanel sectionId, rfl, if_neg hsection⟩

/-- A selected panel is one of the three of the section. -/
theorem Service.eq_standardPanel_of_selected {m : Type → Type} [Monad m] {c : Client m}
    {size : UInt32} {nav : Navigation} {p : Panel m}
    (h : (Service.new (Registry.standard c) size).selected nav = .ok p) :
    ∃ resource, nav = .standard resource ∧ p = Registry.standardPanel c resource := by
  rcases selected_new_standard size c nav with ⟨resource, hnav, hp⟩ | ⟨e, -, hp⟩
  · exact ⟨resource, hnav, Except.ok.inj (h.symm.trans hp)⟩
  · cases h.symm.trans hp

/-- The selection leads to a panel of the section over a server, or it is refused. -/
theorem Service.selected_standard (nav : Navigation) :
    (∃ resource, nav = .standard resource ∧
        (standard answer size).selected nav =
          .ok (Registry.standardPanel (.ofAnswers answer) resource)) ∨
      ∃ e : PanelError, e.isRefusal = true ∧ (standard answer size).selected nav = .error e :=
  selected_new_standard size (.ofAnswers answer) nav

/-- The target of a request is trimmed, or the request is refused. -/
theorem Request.targetId_cases (d : Descriptor) (id : String) :
    (trim id ≠ "" ∧ targetId d id = .ok (trim id)) ∨
      ∃ e : PanelError, e.isRefusal = true ∧ targetId d id = .error e := by
  unfold targetId
  by_cases hid : trim id = ""
  · refine .inr ⟨blankTarget d, ?_, by rw [unlessBlank_trim_of_eq hid]⟩
    unfold blankTarget
    split <;> rfl
  · exact .inl ⟨hid, by rw [unlessBlank_trim_of_ne hid]⟩

/-- What shuts a gate is a refusal. -/
theorem Registry.Judges.isRefusal {m : Type → Type} {reg : Registry m} {nav : Navigation}
    {r : Request} {e : PanelError} (h : reg.Judges nav r (.refused e)) : e.isRefusal = true := by
  cases h with
  | badInput _ _ _ _ hi =>
    obtain ⟨reason, rfl⟩ := Input.eq_refuse_of_check hi
    rfl
  | _ => rfl

/-- An operation of a panel that passed the gates is refused, or it makes the call that the request
needs. -/
theorem Registry.Judges.refuses_or_sends {nav : Navigation} {r : Request}
    {p : Panel Calling} {a : Action} {q : Request} (agrees : Prompt → Bool)
    (h : (standard (.ofAnswers answer)).Judges nav r (.admitted p a q)) :
    Refuses (p.perform q) ∨ ∃ call, Step.Needs size (.act nav r agrees) call ∧
      SendsOnce (·.cancelled = false) (p.perform q) call := by
  cases h with
  | admitted hdeclares htarget hinputs =>
    obtain ⟨⟨hsection, hp, hselection⟩, ha, hname⟩ := hdeclares
    obtain ⟨sectionId, selection⟩ := nav
    obtain rfl : sectionId = standardId := hsection
    obtain rfl : selection = some p.descriptor.resource := hselection
    simp only [standard, standardPanels, List.mem_cons, List.not_mem_nil, or_false] at hp
    rcases hp with rfl | rfl | rfl
    · obtain rfl := List.mem_singleton.mp ha
      cases r with
      | add values => cases hname
      | remove id => cases hname
      | edit id values =>
        rcases Settings.edit_refuses_or_sends answer (trim id) values with href | ⟨v, hv, hsent⟩
        · exact .inl href
        · exact .inr ⟨_, .editSetting hv, hsent⟩
    · have hactions : a.name = .add ∨ a.name = .remove := by
        rcases List.mem_pair.mp ha with rfl | rfl
        · exact .inl rfl
        · exact .inr rfl
      cases r with
      | edit id values =>
        rw [hname] at hactions
        rcases hactions with h | h <;> cases h
      | add values =>
        rcases Ldap.add_refuses_or_sends answer values with
          href | ⟨⟨_, n⟩, ⟨h, v, hh, hv, rfl, hn⟩, hsent⟩
        · exact .inl href
        · exact .inr ⟨_, .addLdapServer hh hv hn, hsent⟩
      | remove id => exact .inr ⟨_, .removeLdapServer, Ldap.sendsOnce_remove answer (trim id)⟩
    · obtain rfl := List.mem_singleton.mp ha
      cases r with
      | add values => cases hname
      | remove id => cases hname
      | edit id values =>
        rcases Hypervisors.edit_refuses_or_sends answer (trim id) values with
          href | ⟨n, ⟨v, hv, hn⟩, hsent⟩
        · exact .inl href
        · exact .inr ⟨_, .editHypervisor hv hn, hsent⟩

/-- A list is refused, or it makes the call that it needs. -/
theorem Registry.standardPanel_list (resource : Resource) (q : ListQuery) :
    let paging := Paging.validated ⟨q.page, Paging.clampSize size⟩ Paging.maxSize
      Paging.one_le_maxSize
    ∃ call, Step.Needs size (.list (.standard resource) q) call ∧
      SendsOnce (fun _ => True)
        ((standardPanel (.ofAnswers answer) resource).list ⟨paging.page, q.search⟩ paging.size)
        call := by
  intro paging
  have hparams (key : String) :
      Params.listing paging.page.toNat paging.size.toNat key q.search = q.params size key := by
    rw [ListQuery.params, Paging.toNat_page_validated, Paging.toNat_size_validated_clampSize]
  cases resource with
  | setting =>
    refine ⟨_, .listSettings, ?_⟩
    rw [← hparams]
    exact Settings.sendsOnce_list answer ⟨paging.page, q.search⟩ paging.size
  | ldapServer =>
    refine ⟨_, .listLdapServers, ?_⟩
    rw [← hparams]
    exact Ldap.sendsOnce_list answer ⟨paging.page, q.search⟩ paging.size
  | hypervisor =>
    refine ⟨_, .listHypervisors, ?_⟩
    rw [← hparams]
    exact Hypervisors.sendsOnce_list answer ⟨paging.page, q.search⟩ paging.size

/-- A panel without details has no detail view. -/
theorem Service.detailTarget_of_not_hasDetail {m : Type → Type} {s : Service m} {nav : Navigation}
    {p : Panel m} (hp : s.selected nav = .ok p) (hdetail : p.descriptor.hasDetail = false)
    (id : String) : s.detailTarget nav id = .error (p.descriptor.unsupported "detail") := by
  simp [detailTarget, hp, hdetail, bind, Except.bind]
  rfl

/-- A panel with details needs a target for its detail view. -/
theorem Service.detailTarget_of_hasDetail {m : Type → Type} {s : Service m} {nav : Navigation}
    {p : Panel m} (hp : s.selected nav = .ok p) (hdetail : p.descriptor.hasDetail = true)
    (id : String) :
    s.detailTarget nav id = (Request.targetId p.descriptor id).map fun id => (p, id) := by
  simp only [detailTarget, hp, hdetail, bind, Except.bind, if_true]
  cases Request.targetId p.descriptor id <;> rfl

/-- A detail view of a panel with details is refused, or it makes one call. -/
theorem Service.detailTarget_cases {s : Service Calling} {nav : Navigation} {p : Panel Calling}
    {call : String → RemoteCall} (hp : s.selected nav = .ok p)
    (hdetail : p.descriptor.hasDetail = true)
    (hsent : ∀ id, trim id ≠ "" → SendsOnce (fun _ => True) (p.detail id) (call id)) (id : String) :
    (∃ p, s.detailTarget nav id = .ok (p, trim id) ∧
        SendsOnce (fun _ => True) (p.detail (trim id)) (call (trim id))) ∨
      ∃ e : PanelError, e.isRefusal = true ∧ s.detailTarget nav id = .error e := by
  rw [detailTarget_of_hasDetail hp hdetail]
  rcases Request.targetId_cases p.descriptor id with ⟨hid, htarget⟩ | ⟨e, he, htarget⟩
  · exact .inl ⟨p, by rw [htarget]; rfl, hsent _ (trim_trim_ne hid)⟩
  · exact .inr ⟨e, he, by rw [htarget]; rfl⟩

/-- A detail view is refused, or it makes the call that it needs. -/
theorem Service.detailTarget_standard (nav : Navigation) (id : String) :
    (∃ p, (standard answer size).detailTarget nav id = .ok (p, trim id) ∧
        ∃ call, Step.Needs size (.detail nav id) call ∧
          SendsOnce (fun _ => True) (p.detail (trim id)) call) ∨
      ∃ e : PanelError, e.isRefusal = true ∧
        (standard answer size).detailTarget nav id = .error e := by
  rcases selected_standard answer size nav with ⟨resource, rfl, hp⟩ | ⟨e, he, hp⟩
  · cases resource with
    | setting => exact .inr ⟨_, rfl, detailTarget_of_not_hasDetail hp rfl id⟩
    | ldapServer =>
      exact (detailTarget_cases hp rfl (fun _ => Ldap.sendsOnce_detail answer) id).imp_left
        fun ⟨p, htarget, hsent⟩ => ⟨p, htarget, _, .showLdapServer, hsent⟩
    | hypervisor =>
      exact (detailTarget_cases hp rfl (fun _ => Hypervisors.sendsOnce_detail answer) id).imp_left
        fun ⟨p, htarget, hsent⟩ => ⟨p, htarget, _, .showHypervisor, hsent⟩
  · exact .inr ⟨e, he, by rw [detailTarget, hp]; rfl⟩

/-! ## The calls of a step and of a session -/

/-- An operation that makes the call a request needs makes a proper exchange if no success of it is
local. -/
theorem SendsOnce.proper {α : Type} {good : α → Prop} {x : ExceptT PanelError Calling α}
    {call : RemoteCall} {step : Step} (reply : α → Reply) (hx : SendsOnce good x call)
    (hcall : step.Needs size call) (hgood : ∀ a, good a → isLocal (.ok (reply a)) = false)
    (calls : CallHistory) :
    ∃ result sent, x.run.run calls = (result, calls ++ sent) ∧
      Exchange.Proper size ⟨step, result.map reply, sent⟩ := by
  obtain ⟨result, hresult, hrun⟩ := hx calls
  refine ⟨result, [call], hrun, .inr ⟨?_, call, rfl, fun other => ⟨fun h => h.unique hcall, ?_⟩⟩⟩
  · cases result with
    | error e => exact hresult
    | ok a => exact hgood a hresult
  · rintro rfl
    exact hcall

/-- What the service decides before the question to the user is a refusal, or it leads to an
operation of a panel. -/
theorem Service.accept_standard (nav : Navigation) (r : Request) (agrees : Prompt → Bool) :
    (∃ a, (standard answer size).accept nav r = .ok a ∧
        (Refuses (a.panel.perform a.request) ∨
          ∃ call, Step.Needs size (.act nav r agrees) call ∧
            SendsOnce (·.cancelled = false) (a.panel.perform a.request) call)) ∨
      ∃ e : PanelError, e.isRefusal = true ∧ (standard answer size).accept nav r = .error e := by
  have hreg : (standard answer size).registry.Accepted :=
    Registry.accepted_of_build (Registry.build_standardPanels (.ofAnswers answer))
  obtain ⟨v, hv⟩ := Registry.exists_judges hreg nav r
  have hdecides := accept_of_judges hreg hv
  cases haccept : (standard answer size).accept nav r with
  | error e =>
    rw [haccept] at hdecides
    subst hdecides
    exact .inr ⟨e, hv.isRefusal, rfl⟩
  | ok a =>
    rw [haccept] at hdecides
    subst hdecides
    exact .inl ⟨a, rfl, hv.refuses_or_sends answer size agrees⟩

/-- Every step of a session makes no call or the one that it needs, as its result tells. -/
theorem Service.step_proper (step : Step) (last : Sequence) (calls : CallHistory) :
    ∃ result next sent,
      (((standard answer size).step step).run last).run calls = ((result, next), calls ++ sent) ∧
        Exchange.Proper size ⟨step, result, sent⟩ := by
  have hlocal {e : PanelError} (he : e.isRefusal = true) :
      Exchange.Proper size ⟨step, .error e, []⟩ := .inl ⟨he, rfl⟩
  cases step with
  | list nav q =>
    simp only [Service.step, StateT.run_map, run_list]
    rcases selected_standard answer size nav with ⟨resource, rfl, hp⟩ | ⟨e, he, hp⟩
    · obtain ⟨call, hcall, hsent⟩ := Registry.standardPanel_list answer size resource q
      obtain ⟨result, sent, hrun, hproper⟩ := hsent.proper size
        (fun page => .page ⟨last.next.1, page⟩) hcall (fun _ _ => rfl) calls
      have hsize : (standard answer size).pageSize = Paging.clampSize size := rfl
      refine ⟨_, last.next.2, sent, ?_, hproper⟩
      simp only [hp, StateT.run_map, hsize]
      rw [hrun]
      cases result <;> rfl
    · simp only [hp]
      exact ⟨.error e, last, [], by rw [List.append_nil]; rfl, hlocal he⟩
  | detail nav id =>
    simp only [Service.step, StateT.run_map, run_detail]
    rcases detailTarget_standard answer size nav id with
      ⟨p, htarget, call, hcall, hsent⟩ | ⟨e, he, htarget⟩
    · obtain ⟨result, sent, hrun, hproper⟩ := hsent.proper size
        (fun row => .row ⟨last.next.1, row⟩) hcall (fun _ _ => rfl) calls
      refine ⟨_, last.next.2, sent, ?_, hproper⟩
      simp only [htarget, StateT.run_map]
      rw [hrun]
      cases result <;> rfl
    · simp only [htarget]
      exact ⟨.error e, last, [], by rw [List.append_nil]; rfl, hlocal he⟩
  | act nav r agrees =>
    simp only [Service.step, StateT.run_lift, run_act_pure, StateT.run_bind]
    rcases accept_standard answer size nav r agrees with ⟨a, haccept, hpanel⟩ | ⟨e, he, haccept⟩
    · simp only [haccept]
      by_cases hagreed : a.prompt?.all agrees = true
      · simp only [hagreed, if_true, StateT.run_map]
        rcases hpanel with ⟨e, he, hrun⟩ | ⟨call, hcall, hsent⟩
        · refine ⟨.error e, last, [], ?_, hlocal he⟩
          rw [hrun, List.append_nil]
          rfl
        · obtain ⟨result, sent, hrun, hproper⟩ := hsent.proper size
            .outcome hcall (fun _ h => h) calls
          refine ⟨_, last, sent, ?_, hproper⟩
          rw [hrun]
          rfl
      · simp only [hagreed]
        exact ⟨.ok (.outcome .declined), last, [], by rw [List.append_nil]; rfl, .inl ⟨rfl, rfl⟩⟩
    · simp only [haccept]
      exact ⟨.error e, last, [], by rw [List.append_nil]; rfl, hlocal he⟩

/-- In every session with the section of global settings, over every server and from every history,
each request has its turn, the calls of the exchanges are all that is added to the history, and each
request made no call or the one that it needs, as its result tells. -/
theorem Service.session_calls (steps : List Step) (last : Sequence) (calls : CallHistory) :
    let (exchanges, final) := (standard answer size).session steps last calls
    exchanges.map Exchange.step = steps ∧ final = calls ++ exchanges.flatMap Exchange.sent ∧
      ∀ exchange ∈ exchanges, exchange.Proper size := by
  induction steps generalizing last calls with
  | nil => simp [session]
  | cons step rest ih =>
    obtain ⟨result, next, sent, hrun, hproper⟩ := step_proper answer size step last calls
    obtain ⟨hsteps, hfinal, hrest⟩ := ih next (calls ++ sent)
    simp only [session, hrun, List.drop_left]
    refine ⟨by rw [List.map_cons, hsteps], ?_, ?_⟩
    · rw [hfinal, List.flatMap_cons, List.append_assoc]
    · intro exchange hexchange
      rcases List.mem_cons.mp hexchange with rfl | hexchange
      · exact hproper
      · exact hrest exchange hexchange

end SettingsConsole
