import SettingsConsole.Proofs.Server.Invariants

/-!
# What leaves the store as it is

A request changes what the server keeps only if it is an action that succeeds and was not declined.
Listings and detail views change nothing. An action that fails changes nothing either, although it
may fail after its call: whatever the store responds to a change is read without fault, so a failure
comes from a refusal, from a failure by order, or from a fixed answer, and each of them leaves the
store as it is.
-/

namespace SettingsConsole

variable {α β : Type}

/-- An operation that changes the store only if it gives a good result. -/
def ChangesOnly (good : α → Prop) (x : ExceptT PanelError (StateM Server) α) : Prop :=
  ∀ s, (x.run.run s).2.store = s.store ∨ ∃ a, (x.run.run s).1 = .ok a ∧ good a

/-- A check before what may change the store changes nothing itself. -/
theorem changesOnly_checked_bind {r : Except PanelError α}
    {f : α → ExceptT PanelError (StateM Server) β} {good : β → Prop}
    (hf : ∀ a, ChangesOnly good (f a)) : ChangesOnly good (Panel.checked r >>= f) := by
  intro s
  rw [run_run_bind]
  cases r with
  | error e => exact .inl rfl
  | ok a => exact hf a s

/-- A result that is made into a good one in any case keeps the change. -/
theorem ChangesOnly.map {x : ExceptT PanelError (StateM Server) α} {f : α → β} {good : β → Prop}
    (hx : ChangesOnly (fun _ => True) x) (hf : ∀ a, good (f a)) :
    ChangesOnly good (do let a ← x; pure (f a)) := by
  intro s
  rw [run_run_bind]
  rcases hx s with hstore | ⟨a, hresult, -⟩
  · rcases hrun : x.run.run s with ⟨result, s'⟩
    rw [hrun] at hstore
    refine .inl ?_
    cases result <;> exact hstore
  · rcases hrun : x.run.run s with ⟨result, s'⟩
    rw [hrun] at hresult
    cases hresult
    exact .inr ⟨f a, rfl, hf a⟩

/-! ## Requests of the client -/

/-- A request whose response is always read changes the store only if it succeeds. -/
theorem changesOnly_remotely {op : Operation} {p : Params} (decode : Json → Except RemoteError α)
    (hreads : ∀ st v st', Store.respond st op p = .ok (v, st') → ∃ a, decode v = .ok a) :
    ChangesOnly (fun _ => True) (Panel.remotely do
      let v ← Server.client.call op p
      ExceptT.mk (pure (decode v))) := by
  intro s
  rw [Server.run_remotely]
  rcases s.answer_cases op p with ⟨r, hanswer⟩ | ⟨v, st, hrespond, hanswer⟩
  · exact .inl (by rw [hanswer, Server.store_received])
  · obtain ⟨a, ha⟩ := hreads _ _ _ hrespond
    refine .inr ⟨a, ?_, trivial⟩
    simp only [hanswer, Except.bind, ha]
    rfl

namespace Store

variable {st st' : Store} {p : Params} {v : Json}

/-- The response to a changed setting holds the setting. -/
theorem decodeSingle_of_updateSetting (h : st.respond .updateSetting p = .ok (v, st')) :
    ∃ s, Schema.updateSetting.decodeSingle v = .ok s := by
  simp only [respond, updateSetting] at h
  split at h
  · next s _ _ =>
    cases h
    exact ⟨s, decodeSingle_body .updateSetting s.read_toJson⟩
  · cases h

/-- The response to an added LDAP server holds the server. -/
theorem decodeSingle_of_addLdapServer (h : st.respond .addLdapServer p = .ok (v, st')) :
    ∃ s, Schema.addLdapServer.decodeSingle v = .ok s := by
  simp only [respond, addLdapServer] at h
  split at h
  · cases h
  · split at h
    · next hrange =>
      cases h
      exact ⟨_, decodeSingle_body .addLdapServer (read_added _ hrange)⟩
    · cases h

/-- The response to a deletion has its envelope. -/
theorem expectEnvelope_of_deleteLdapServer (h : st.respond .deleteLdapServer p = .ok (v, st')) :
    ∃ u, expectEnvelope .deleteLdapServer v = .ok u := by
  simp only [respond, deleteLdapServer] at h
  split at h
  · cases h
    exact ⟨(), by rw [expectEnvelope, envelope_body]; rfl⟩
  · cases h

/-- The response to a changed capability entry holds the entry. -/
theorem decodeSingle_of_updateHypervisor (h : st.respond .updateHypervisor p = .ok (v, st')) :
    ∃ c, Schema.updateHypervisor.decodeSingle v = .ok c := by
  simp only [respond, updateHypervisor] at h
  split at h
  · next c _ _ =>
    cases h
    exact ⟨c, decodeSingle_body .updateHypervisor c.read_toJson⟩
  · cases h

end Store

/-! ## Operations of the panels -/

/-- Actions change the store only if they succeed. -/
theorem Registry.changesOnly_perform (resource : Resource) (r : Request) :
    ChangesOnly (·.cancelled = false) ((standardPanel Server.client resource).perform r) := by
  have hunsupported (e : PanelError) :
      ChangesOnly (fun o : Outcome => o.cancelled = false)
        (Panel.checked (m := StateM Server) (.error e)) :=
    fun _ => .inl rfl
  cases resource with
  | setting =>
    cases r with
    | edit id values =>
      exact changesOnly_checked_bind fun _ =>
        (changesOnly_remotely _ fun _ _ _ => Store.decodeSingle_of_updateSetting).map fun _ => rfl
    | add values => exact hunsupported _
    | remove id => exact hunsupported _
  | ldapServer =>
    cases r with
    | edit id values => exact hunsupported _
    | add values =>
      exact changesOnly_checked_bind fun _ =>
        (changesOnly_remotely _ fun _ _ _ => Store.decodeSingle_of_addLdapServer).map fun _ => rfl
    | remove id =>
      exact (changesOnly_remotely _ fun _ _ _ => Store.expectEnvelope_of_deleteLdapServer).map
        fun _ => rfl
  | hypervisor =>
    cases r with
    | edit id values =>
      exact changesOnly_checked_bind fun _ =>
        (changesOnly_remotely _ fun _ _ _ => Store.decodeSingle_of_updateHypervisor).map
          fun _ => rfl
    | add values => exact hunsupported _
    | remove id => exact hunsupported _

/-! ## Requests to the service -/

/-- The request is an action that succeeded and was not declined. -/
def Turn.Acts {σ : Type} (t : Turn σ) : Prop :=
  ∃ nav r agrees o, t.step = .act nav r agrees ∧ t.result = .ok (.outcome o) ∧ o.cancelled = false

/-- A request leaves the store as it is, or it is an action that succeeded. -/
theorem Server.store_turn (size : UInt32) (step : Step) (last : Sequence) (server : Server) :
    let t := ((service size).turn step last server).1
    t.after.store = t.before.store ∨ t.Acts := by
  cases step with
  | list nav q => exact .inl (keeps_turn_list (·.listing_keeps (· = server.store)) rfl q last)
  | detail nav id =>
    exact .inl (keeps_turn_detail (·.listing_keeps (· = server.store)) rfl id last)
  | act nav r agrees =>
    rw [Service.turn_act]
    cases haccept : (service size).accept nav r with
    | error e => exact .inl rfl
    | ok a =>
      by_cases hagreed : a.prompt?.all agrees = true
      · obtain ⟨resource, -, hpanel⟩ :=
          Service.eq_standardPanel_of_selected (Service.selected_of_accept haccept)
        have hstore := Registry.changesOnly_perform resource a.request server
        rw [← hpanel] at hstore
        simp only [hagreed, if_true]
        rcases hrun : (a.panel.perform a.request).run.run server with ⟨result, after⟩
        rw [hrun] at hstore
        refine hstore.imp_right ?_
        rintro ⟨o, rfl, ho⟩
        exact ⟨nav, r, agrees, o, rfl, rfl, ho⟩
      · simp only [hagreed]
        exact .inl rfl

/-- In every session, over every server with any failures and fixed answers, only an action that
succeeds and was not declined changes what the server keeps. -/
theorem Server.store_unchanged (size : UInt32) (steps : List Step) (last : Sequence)
    (server : Server) :
    let turns := (service size).turns steps last server
    turns.map Turn.step = steps ∧ ∀ t ∈ turns, t.after.store ≠ t.before.store → t.Acts := by
  refine ⟨Service.map_step_turns _ steps last server, ?_⟩
  refine Service.forall_mem_turns (fun _ => True) (fun step last s _ => ?_) steps last trivial
  exact ⟨trivial, (store_turn size step last s).resolve_left⟩

/-- An addition to a new server changes what it keeps. -/
theorem Server.store_unchanged_addition :
    let values : FieldValues := .ofList [("hostname", "ldap.example.com"), ("port", "389")]
    let step : Step := .act (.standard .ldapServer) (.add values) fun _ => true
    let t := ((Server.service 20).turn step .start (Server.ofStore .initial)).1
    t.after.store ≠ t.before.store ∧ t.Acts := by
  intro values step t
  have hchanged : t.after.store ≠ t.before.store := by decide +kernel
  have hacts := (Server.store_unchanged 20 [step] .start (Server.ofStore .initial)).2
  exact ⟨hchanged, hacts t List.mem_cons_self hchanged⟩

end SettingsConsole
