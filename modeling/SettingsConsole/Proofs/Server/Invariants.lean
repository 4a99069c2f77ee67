import SettingsConsole.Proofs.Server.Calls
import SettingsConsole.Proofs.Service.Calls

/-!
# What every answer keeps

A panel makes its calls with a few operations of the server. What all answers to these operations
keep is kept by every request to the panel, whether it succeeds or not.
-/

namespace SettingsConsole

variable {α β : Type} {holds : Server → Prop}

/-- The operation that a panel lists its rows with. -/
def Resource.listing : Resource → Operation
  | .setting => .listSettings
  | .ldapServer => .listLdapServers
  | .hypervisor => .listHypervisors

/-- The operations that a panel carries its actions out with. -/
def Resource.changing : Resource → List Operation
  | .setting => [.updateSetting]
  | .ldapServer => [.addLdapServer, .deleteLdapServer]
  | .hypervisor => [.updateHypervisor]

/-- Every answer to an operation keeps a property of the server. -/
def Operation.Keeps (op : Operation) (holds : Server → Prop) : Prop :=
  ∀ p s, holds s → holds (Server.answer s op p).2

/-- What every response of the store keeps, every answer does. -/
theorem Operation.keeps_of_respond {op : Operation} (holds : Store → Prop)
    (hrespond : ∀ {st v st' p}, holds st → Store.respond st op p = .ok (v, st') → holds st') :
    op.Keeps fun s => holds s.store := by
  intro p s hs
  rcases s.answer_cases op p with ⟨r, hanswer⟩ | ⟨v, st, h, hanswer⟩
  · rw [hanswer, Server.store_received]
    exact hs
  · rw [hanswer, Server.store_received]
    exact hrespond hs h

/-- A response to a listing leaves the store as it is. -/
theorem Store.respond_listing {st st' : Store} {p : Params} {v : Json} (resource : Resource)
    (h : st.respond resource.listing p = .ok (v, st')) : st' = st := by
  cases resource <;> (cases h; rfl)

/-- The answers to listings keep everything in the store. -/
theorem Resource.listing_keeps (resource : Resource) (holds : Store → Prop) :
    resource.listing.Keeps fun s => holds s.store :=
  Operation.keeps_of_respond holds fun hst h => by rwa [Store.respond_listing resource h]

/-- A computation that keeps a property of the server. -/
def Keeps (holds : Server → Prop) (x : ExceptT PanelError (StateM Server) α) : Prop :=
  ∀ s, holds s → holds (x.run.run s).2

/-- A check does nothing to the server. -/
theorem keeps_checked (r : Except PanelError α) :
    Keeps holds (Panel.checked (m := StateM Server) r) :=
  fun _ hs => hs

/-- What two computations keep, both together keep. -/
theorem Keeps.bind {x : ExceptT PanelError (StateM Server) α}
    {f : α → ExceptT PanelError (StateM Server) β} (hx : Keeps holds x)
    (hf : ∀ a, Keeps holds (f a)) : Keeps holds (x >>= f) := by
  intro s hs
  rw [run_run_bind]
  have hs' := hx s hs
  rcases hrun : x.run.run s with ⟨result, s'⟩
  rw [hrun] at hs'
  cases result with
  | error e => exact hs'
  | ok a => exact hf a s' hs'

/-- A request of the client keeps what the answer to its call keeps. -/
theorem Operation.Keeps.remotely {op : Operation} (hop : op.Keeps holds) (p : Params)
    (decode : Json → Except RemoteError α) :
    SettingsConsole.Keeps holds (Panel.remotely do
      let v ← Server.client.call op p
      ExceptT.mk (pure (decode v))) := by
  intro s hs
  rw [Server.run_remotely]
  exact hop p s hs

/-! ## Operations of the panels -/

namespace Registry

/-- A listing keeps what the answer to its call keeps. -/
theorem keeps_list {resource : Resource} (hop : resource.listing.Keeps holds) (q : ListQuery)
    (size : UInt32) : Keeps holds ((standardPanel Server.client resource).list q size) := by
  cases resource with
  | setting =>
    exact (hop.remotely _ _).bind fun page => keeps_checked (.ok (page.map Setting.toRow))
  | ldapServer =>
    exact (hop.remotely _ _).bind fun page => keeps_checked (.ok (page.map LdapServer.toRow))
  | hypervisor =>
    exact (hop.remotely _ _).bind fun page =>
      keeps_checked (.ok (page.map HypervisorCapability.toRow))

/-- A detail view keeps what the answer to a listing keeps. -/
theorem keeps_detail {resource : Resource} (hop : resource.listing.Keeps holds) (id : String) :
    Keeps holds ((standardPanel Server.client resource).detail id) := by
  cases resource with
  | setting => exact keeps_checked (.error _)
  | ldapServer =>
    refine (hop.remotely _ _).bind fun page => ?_
    cases page.items.find? (·.hostname == id) with
    | none => exact keeps_checked (.error _)
    | some s => exact keeps_checked (.ok s.toRow)
  | hypervisor =>
    refine (hop.remotely _ _).bind fun page => ?_
    cases page.items.head? with
    | none => exact keeps_checked (.error _)
    | some h => exact keeps_checked (.ok h.toRow)

/-- A computation that reads its input, makes a call and turns the answer into an outcome keeps what
the answer keeps. -/
theorem keeps_checked_remotely {r : Except PanelError α} {op : Operation} (hop : op.Keeps holds)
    (p : α → Params) (decode : Json → Except RemoteError β) (outcome : β → Outcome) :
    Keeps holds (Panel.checked r >>= fun a => do
      let b ← Panel.remotely do
        let v ← Server.client.call op (p a)
        ExceptT.mk (pure (decode v))
      pure (outcome b)) :=
  (keeps_checked r).bind fun a => (hop.remotely (p a) decode).bind fun b =>
    keeps_checked (.ok (outcome b))

/-- An action keeps what the answers to the changing operations keep. -/
theorem keeps_perform {resource : Resource} (hops : ∀ op ∈ resource.changing, op.Keeps holds)
    (r : Request) : Keeps holds ((standardPanel Server.client resource).perform r) := by
  cases resource with
  | setting =>
    have hupdate := hops .updateSetting List.mem_cons_self
    cases r with
    | edit id values => exact keeps_checked_remotely hupdate _ _ _
    | add values => exact keeps_checked (.error _)
    | remove id => exact keeps_checked (.error _)
  | ldapServer =>
    have hadd := hops .addLdapServer List.mem_cons_self
    have hdelete := hops .deleteLdapServer (List.mem_cons_of_mem _ List.mem_cons_self)
    cases r with
    | edit id values => exact keeps_checked (.error _)
    | add values => exact keeps_checked_remotely hadd _ _ _
    | remove id => exact (hdelete.remotely _ _).bind fun _ => keeps_checked (.ok _)
  | hypervisor =>
    have hupdate := hops .updateHypervisor List.mem_cons_self
    cases r with
    | edit id values => exact keeps_checked_remotely hupdate _ _ _
    | add values => exact keeps_checked (.error _)
    | remove id => exact keeps_checked (.error _)

end Registry

/-! ## Requests to the service -/

namespace Server

variable {size : UInt32} {nav : Navigation} {server : Server}

/-- A listing keeps what the answers to listings keep. -/
theorem keeps_turn_list (hops : ∀ resource : Resource, resource.listing.Keeps holds)
    (hserver : holds server) (q : ListQuery) (last : Sequence) :
    holds ((service size).turn (.list nav q) last server).1.after := by
  rw [Service.turn_list]
  cases hp : (service size).selected nav with
  | error e => exact hserver
  | ok p =>
    obtain ⟨resource, -, rfl⟩ := Service.eq_standardPanel_of_selected hp
    exact Registry.keeps_list (hops resource) _ _ server hserver

/-- A detail view keeps what the answers to listings keep. -/
theorem keeps_turn_detail (hops : ∀ resource : Resource, resource.listing.Keeps holds)
    (hserver : holds server) (id : String) (last : Sequence) :
    holds ((service size).turn (.detail nav id) last server).1.after := by
  rw [Service.turn_detail]
  cases htarget : (service size).detailTarget nav id with
  | error e => exact hserver
  | ok target =>
    obtain ⟨resource, -, hpanel⟩ :=
      Service.eq_standardPanel_of_selected (Service.selected_of_detailTarget htarget)
    have hkeeps := Registry.keeps_detail (hops resource) target.2 server hserver
    rw [← hpanel] at hkeeps
    exact hkeeps

/-- An action keeps what the answers to the changing operations of its panel keep. -/
theorem keeps_turn_act
    (hops : ∀ resource, nav = .standard resource → ∀ op ∈ resource.changing, op.Keeps holds)
    (hserver : holds server) (r : Request) (agrees : Prompt → Bool) (last : Sequence) :
    holds ((service size).turn (.act nav r agrees) last server).1.after := by
  rw [Service.turn_act]
  cases haccept : (service size).accept nav r with
  | error e => exact hserver
  | ok a =>
    by_cases hagreed : a.prompt?.all agrees = true
    · obtain ⟨resource, hnav, hpanel⟩ :=
        Service.eq_standardPanel_of_selected (Service.selected_of_accept haccept)
      have hkeeps := Registry.keeps_perform (hops resource hnav) a.request server hserver
      rw [← hpanel] at hkeeps
      simp only [hagreed, if_true]
      exact hkeeps
    · simp only [hagreed]
      exact hserver

/-- Every request keeps what all answers keep. -/
theorem keeps_turn (hops : ∀ op : Operation, op.Keeps holds) (hserver : holds server) (step : Step)
    (last : Sequence) : holds ((service size).turn step last server).1.after := by
  cases step with
  | list nav q => exact keeps_turn_list (fun _ => hops _) hserver q last
  | detail nav id => exact keeps_turn_detail (fun _ => hops _) hserver id last
  | act nav r agrees => exact keeps_turn_act (fun _ _ op _ => hops op) hserver r agrees last

/-- A request keeps a property of the store unless it is an action and an answer to a changing
operation of its panel does not. -/
theorem keeps_store_turn (holds : Store → Prop) {step : Step}
    (hops : ∀ resource r agrees, step = .act (.standard resource) r agrees →
      ∀ op ∈ resource.changing, op.Keeps fun s => holds s.store)
    (hserver : holds server.store) (last : Sequence) :
    holds ((service size).turn step last server).1.after.store := by
  cases step with
  | list nav q => exact keeps_turn_list (fun r => r.listing_keeps holds) hserver q last
  | detail nav id => exact keeps_turn_detail (fun r => r.listing_keeps holds) hserver id last
  | act nav r agrees =>
    have hchanging : ∀ resource, nav = .standard resource → ∀ op ∈ resource.changing,
        op.Keeps fun s => holds s.store :=
      fun resource hnav => hops resource r agrees (by rw [hnav])
    exact keeps_turn_act hchanging hserver r agrees last

end Server

end SettingsConsole
