import SettingsConsole.Proofs.Panel.InputGrammar
import SettingsConsole.Proofs.Service.Calls
import SettingsConsole.Proofs.Service.Consent

/-!
# Two checks of the same values

The values of an action are checked twice: by the service, against the declared inputs and before
the user is asked, and by the panel, which reads them before its call. For LDAP servers and
hypervisor capabilities the two agree in their results and in their failures. For settings they do
not: the declared input may be missing, and the panel needs it. But the change of a setting asks no
question, so a user who was asked is never told afterwards that an input was wrong.
-/

namespace SettingsConsole

variable {α β σ : Type}

/-! ## What an operation reads -/

/-- The declared inputs of an action agree with what is read of the given values: something is read
exactly if the check of the inputs passes, and otherwise the reading fails as the check does. -/
structure Input.Agrees (inputs : List Input) (read : FieldValues → Except PanelError α) : Prop where
  ok_iff (values : FieldValues) : checkAll values inputs = .ok () ↔ ∃ a, read values = .ok a
  error_iff (values : FieldValues) (e : PanelError) :
    checkAll values inputs = .error e ↔ read values = .error e

/-- A reading that begins with the check agrees with it if it succeeds after every check that
passes. -/
theorem Input.agrees_of_reads {inputs : List Input} {read : FieldValues → Except PanelError α}
    (hok : ∀ values, checkAll values inputs = .ok () → ∃ a, read values = .ok a)
    (herror : ∀ values e, checkAll values inputs = .error e → read values = .error e) :
    Agrees inputs read where
  ok_iff values := by
    refine ⟨hok values, fun ⟨a, ha⟩ => ?_⟩
    cases hcheck : checkAll values inputs with
    | ok => rfl
    | error e => cases ha.symm.trans (herror values e hcheck)
  error_iff values e := by
    refine ⟨herror values e, fun he => ?_⟩
    cases hcheck : checkAll values inputs with
    | ok =>
      obtain ⟨a, ha⟩ := hok values hcheck
      cases ha.symm.trans he
    | error f => rw [Except.error.inj ((herror values f hcheck).symm.trans he)]

/-- The inputs of an addition agree with what is read of a new server. -/
theorem Ldap.agrees_newServer : Input.Agrees [hostnameInput, portInput] newServer := by
  refine Input.agrees_of_reads (fun values h => ?_) fun values e h => ?_
  · obtain ⟨host, port, -, -, -, hread⟩ := newServer_of_checkAll h
    exact ⟨(host, port), hread⟩
  · rw [newServer, h]
    rfl

/-- The input of a change of a guest limit agrees with what is read of the limit. -/
theorem Hypervisors.agrees_newLimit : Input.Agrees [maxGuestsInput] newLimit := by
  refine Input.agrees_of_reads (fun values h => ?_) fun values e h => ?_
  · have hcheck := (Input.checkAll_eq_ok_iff values _).mp h maxGuestsInput List.mem_cons_self
    obtain ⟨n, hn⟩ := Input.exists_requiredCount rfl rfl (Input.check_eq_ok_iff.mp hcheck)
    exact ⟨n, by rw [newLimit, h, ← hn]; rfl⟩
  · rw [newLimit, h]
    rfl

/-- The value of a change of a setting is missed exactly if none is given. -/
theorem Settings.newValue_eq_error_iff {values : FieldValues} {e : PanelError} :
    newValue values = .error e ↔
      values.get? "value" = none ∧ e = valueInput.refuse .required := by
  cases hvalue : values.get? "value" with
  | some v =>
    rw [newValue_of_get? hvalue]
    simp
  | none =>
    have hread : newValue values = .error (valueInput.refuse .required) := by
      have hget : values.get? valueInput.key = none := hvalue
      rw [newValue, checkAll_valueInput, hget]
      rfl
    rw [hread]
    exact ⟨fun h => ⟨rfl, (Except.error.inj h).symm⟩, fun h => h.2 ▸ rfl⟩

/-! ## Failures that are no refusals -/

/-- An operation whose failures are no refusals, so that they come of an answer of the server. -/
def NeverRefuses (x : ExceptT PanelError (StateM σ) α) : Prop :=
  ∀ s e, (x.run.run s).1 = .error e → e.isRefusal = false

/-- A remote call fails for no refusal. -/
theorem neverRefuses_remotely (x : ExceptT RemoteError (StateM σ) α) :
    NeverRefuses (Panel.remotely x) := by
  intro s e h
  rw [Panel.remotely, ExceptT.run_adapt, StateT.run_map] at h
  rcases hx : x.run.run s with ⟨result, s'⟩
  cases result with
  | ok a =>
    rw [hx] at h
    cases h
  | error f =>
    rw [hx] at h
    cases h
    exact PanelError.isRefusal_ofRemote f

/-- What is made of the result of an operation brings no refusal. -/
theorem NeverRefuses.map {x : ExceptT PanelError (StateM σ) α} (hx : NeverRefuses x) (f : α → β) :
    NeverRefuses (do let a ← x; pure (f a)) := by
  intro s e h
  rw [run_run_bind] at h
  rcases hrun : x.run.run s with ⟨result, s'⟩
  rw [hrun] at h
  cases result with
  | ok a => cases h
  | error f =>
    cases h
    exact hx s e (congrArg Prod.fst hrun)

/-- An operation on given values that reads them first. If it can, it goes on with what it has read,
and refuses nothing any more; otherwise it fails as the reading does. -/
def ReadsFirst (read : FieldValues → Except PanelError α)
    (op : FieldValues → ExceptT PanelError (StateM σ) β) : Prop :=
  ∃ further : α → ExceptT PanelError (StateM σ) β, (∀ a, NeverRefuses (further a)) ∧
    ∀ values, op values = Panel.checked (read values) >>= further

section

variable {read : FieldValues → Except PanelError α} {values : FieldValues}
  {op : FieldValues → ExceptT PanelError (StateM σ) β}

/-- An operation that has read the given values refuses nothing. -/
theorem ReadsFirst.neverRefuses {a : α} (h : ReadsFirst read op) (ha : read values = .ok a) :
    NeverRefuses (op values) := by
  obtain ⟨further, hfurther, hop⟩ := h
  rw [hop, ha]
  exact hfurther a

/-- An operation that cannot read the given values does nothing else. -/
theorem ReadsFirst.run_of_error {e : PanelError} (h : ReadsFirst read op)
    (he : read values = .error e) (s : σ) : (op values).run.run s = (.error e, s) := by
  obtain ⟨further, -, hop⟩ := h
  rw [hop, he]
  rfl

end

section

variable (c : Client (StateM σ))

/-- An addition of an LDAP server reads the new server first. -/
theorem Ldap.readsFirst_add : ReadsFirst newServer (panel c).add :=
  ⟨_, fun _ => (neverRefuses_remotely _).map _, fun _ => rfl⟩

/-- A change of a guest limit reads the limit first. -/
theorem Hypervisors.readsFirst_edit (id : String) : ReadsFirst newLimit ((panel c).edit id) :=
  ⟨_, fun _ => (neverRefuses_remotely _).map _, fun _ => rfl⟩

/-- A change of a setting reads the value first. -/
theorem Settings.readsFirst_edit (id : String) : ReadsFirst newValue ((panel c).edit id) :=
  ⟨_, fun _ => (neverRefuses_remotely _).map _, fun _ => rfl⟩

/-- A removal of an LDAP server refuses nothing. -/
theorem Ldap.neverRefuses_remove (id : String) : NeverRefuses ((panel c).remove id) :=
  (neverRefuses_remotely _).map _

end

/-! ## Actions whose gates are open -/

/-- What comes of an admitted action: the operation of the panel is run, unless the user was asked
and declined. -/
theorem Verdict.result_course (p : Panel (StateM σ)) (a : Action) (r : Request)
    (user : Confirmer (StateM σ)) (st : σ) :
    (a.confirmation.isSome = true ∧
        (((Verdict.admitted p a r).course user).run st).1.1 = .ok .declined) ∨
      ∃ st', (((Verdict.admitted p a r).course user).run st).1.1 =
        ((p.perform r).run.run st').1 := by
  simp only [course]
  cases hprompt : a.confirmation with
  | none => exact .inr ⟨st, rfl⟩
  | some text =>
    simp only [StateT.run_bind]
    rcases (user ⟨p.descriptor, a, text, r.target?⟩).run st with ⟨agreed, st'⟩
    cases agreed with
    | false => exact .inl ⟨rfl, rfl⟩
    | true => exact .inr ⟨st', rfl⟩

/-- An admitted action on the section of global settings changes a setting without a value, and then
asks nothing, or the panel refuses nothing. -/
theorem Registry.Judges.unset_or_neverRefuses {c : Client (StateM σ)} {nav : Navigation}
    {r q : Request} {p : Panel (StateM σ)} {a : Action}
    (h : (standard c).Judges nav r (.admitted p a q)) :
    (p.descriptor = Settings.descriptor ∧ r.values.get? "value" = none ∧ a.confirmation = none ∧
        ∀ st, (p.perform q).run.run st = (.error (Settings.valueInput.refuse .required), st)) ∨
      ((p.descriptor = Settings.descriptor → r.values.get? "value" ≠ none) ∧
        NeverRefuses (p.perform q)) := by
  cases h with
  | admitted hdeclares htarget hinputs =>
    obtain ⟨⟨-, hp, -⟩, ha, hname⟩ := hdeclares
    have hchecked := (Input.checkAll_eq_ok_iff r.values a.inputs).mpr hinputs
    simp only [standard, standardPanels, List.mem_cons, List.not_mem_nil, or_false] at hp
    rcases hp with rfl | rfl | rfl
    · obtain rfl := List.mem_singleton.mp ha
      cases r with
      | add values => cases hname
      | remove id => cases hname
      | edit id values =>
        have hreads := Settings.readsFirst_edit c (Text.trim id)
        cases hvalue : values.get? "value" with
        | none =>
          have herror := Settings.newValue_eq_error_iff.mpr ⟨hvalue, rfl⟩
          exact .inl ⟨rfl, hvalue, rfl, hreads.run_of_error herror⟩
        | some v =>
          refine .inr ⟨fun _ hnone => ?_, hreads.neverRefuses (Settings.newValue_of_get? hvalue)⟩
          cases hvalue.symm.trans hnone
    · have hother : Ldap.descriptor ≠ Settings.descriptor := by decide
      refine .inr ⟨fun hp => absurd hp hother, ?_⟩
      rcases List.mem_pair.mp ha with rfl | rfl
      · cases r with
        | edit id values => cases hname
        | remove id => cases hname
        | add values =>
          obtain ⟨server, hread⟩ := (Ldap.agrees_newServer.ok_iff values).mp hchecked
          exact (Ldap.readsFirst_add c).neverRefuses hread
      · cases r with
        | edit id values => cases hname
        | add values => cases hname
        | remove id => exact Ldap.neverRefuses_remove c (Text.trim id)
    · have hother : Hypervisors.descriptor ≠ Settings.descriptor := by decide
      refine .inr ⟨fun hp => absurd hp hother, ?_⟩
      obtain rfl := List.mem_singleton.mp ha
      cases r with
      | add values => cases hname
      | remove id => cases hname
      | edit id values =>
        obtain ⟨limit, hread⟩ := (Hypervisors.agrees_newLimit.ok_iff values).mp hchecked
        exact (Hypervisors.readsFirst_edit c (Text.trim id)).neverRefuses hread

/-! ## Sessions -/

/-- A result that is the refusal of an input. -/
def IsInvalid (result : Except PanelError α) : Prop :=
  ∃ key label reason, result = .error (.validation key label reason)

/-- What is made of a result is the refusal of an input if the result is. -/
theorem isInvalid_map_iff {result : Except PanelError α} {f : α → β} :
    IsInvalid (result.map f) ↔ IsInvalid result := by
  cases result with
  | error e => simp [IsInvalid, Except.map]
  | ok a => simp [IsInvalid, Except.map]

/-- An operation that refuses nothing ends with no refusal of an input. -/
theorem NeverRefuses.not_isInvalid {x : ExceptT PanelError (StateM σ) α} (h : NeverRefuses x)
    (s : σ) : ¬ IsInvalid (x.run.run s).1 := by
  rintro ⟨key, label, reason, hx⟩
  cases h s _ hx

namespace Registry

variable (c : Client (StateM σ)) (size : UInt32)

/-- An admitted action on the section of global settings ends with the refusal of an input exactly
if a setting is changed without a value. -/
theorem isInvalid_course_iff {nav : Navigation} {r q : Request} {p : Panel (StateM σ)} {a : Action}
    (h : (standard c).Judges nav r (.admitted p a q)) (user : Confirmer (StateM σ)) (st : σ) :
    IsInvalid (((Verdict.admitted p a q).course user).run st).1.1 ↔
      p.descriptor = Settings.descriptor ∧ r.values.get? "value" = none := by
  rcases h.unset_or_neverRefuses with ⟨hp, hvalue, hprompt, hrun⟩ | ⟨hset, hnever⟩
  · refine ⟨fun _ => ⟨hp, hvalue⟩, fun _ => ?_⟩
    rcases Verdict.result_course p a q user st with ⟨hasks, -⟩ | ⟨st', hresult⟩
    · rw [hprompt] at hasks
      cases hasks
    · rw [hresult, hrun]
      exact ⟨_, _, _, rfl⟩
  · refine ⟨fun hinvalid => ?_, fun ⟨hp, hvalue⟩ => absurd hvalue (hset hp)⟩
    exfalso
    rcases Verdict.result_course p a q user st with ⟨-, hresult⟩ | ⟨st', hresult⟩
    · rw [hresult] at hinvalid
      obtain ⟨_, _, _, hdeclined⟩ := hinvalid
      cases hdeclined
    · rw [hresult] at hinvalid
      exact hnever.not_isInvalid st' hinvalid

/-- A question in the course of an action is that of an admitted one. -/
theorem exists_admitted_of_asked {v : Verdict (StateM σ)} {user : Confirmer (StateM σ)} {st : σ}
    {question : Prompt} (h : Effect.asked question ∈ ((v.course user).run st).1.2) :
    ∃ p a q, v = .admitted p a q ∧ a.confirmation ≠ none := by
  cases v with
  | refused e => exact absurd h List.not_mem_nil
  | admitted p a q =>
    refine ⟨p, a, q, rfl, fun hnone => ?_⟩
    rw [Verdict.effects_course, hnone] at h
    cases List.mem_singleton.mp h

/-- A visit whose user was asked does not end with the refusal of an input. -/
theorem not_isInvalid_of_asked (v : Visit (StateM σ)) (before : Sequence × σ) {question : Prompt}
    (h : Effect.asked question ∈ ((standard c).visited size v before).effects) :
    ¬ IsInvalid ((standard c).visited size v before).result := by
  cases v with
  | fetch f =>
    obtain ⟨_, _, hcall, -⟩ := (standard c).effects_visited_fetch size f before _ h
    cases hcall
  | act nav r user =>
    have hreg : (standard c).Accepted := accepted_of_build (build_standardPanels c)
    obtain ⟨v, hv⟩ := exists_judges hreg nav r
    obtain ⟨hresult, heffects⟩ := (standard c).visited_act size hreg hv user before
    rw [heffects] at h
    obtain ⟨p, a, q, rfl, hasks⟩ := exists_admitted_of_asked h
    rw [hresult, isInvalid_map_iff, isInvalid_course_iff c hv]
    rintro ⟨hp, hvalue⟩
    rcases hv.unset_or_neverRefuses with ⟨-, -, hprompt, -⟩ | ⟨hset, -⟩
    · exact hasks hprompt
    · exact hset hp hvalue

end Registry

/-- For LDAP servers and hypervisor capabilities, the check of the declared inputs passes exactly if
the panel can read the given values, and otherwise both fail alike; the panel reads them before
anything else. For settings the check always passes, and the panel misses exactly a value that is
not given, and takes any other as it stands. So in every session with the section of global
settings, over any server, no request whose user was asked ends with the refusal of an input; and
an action that the service admits ends so exactly if a setting is changed without a value. -/
theorem checks_agree (c : Client (StateM σ)) :
    (∃ a, (Ldap.panel c).descriptor.action? .add = some a ∧ Input.Agrees a.inputs Ldap.newServer ∧
        ReadsFirst Ldap.newServer (Ldap.panel c).add) ∧
      (∃ a, (Hypervisors.panel c).descriptor.action? .edit = some a ∧
        Input.Agrees a.inputs Hypervisors.newLimit ∧
        ∀ id, ReadsFirst Hypervisors.newLimit ((Hypervisors.panel c).edit id)) ∧
      (∃ a, (Settings.panel c).descriptor.action? .edit = some a ∧
        (∀ values, Input.checkAll values a.inputs = .ok ()) ∧
        (∀ values, (∃ e, Settings.newValue values = .error e) ↔ values.get? "value" = none) ∧
        (∀ values v, values.get? "value" = some v → Settings.newValue values = .ok v) ∧
        ∀ id, ReadsFirst Settings.newValue ((Settings.panel c).edit id)) ∧
      ∀ (size : UInt32) (visits : List (Visit (StateM σ))) (before : Sequence × σ),
        ((Registry.standard c).session size visits before).map (·.visit) = visits ∧
        ∀ x ∈ (Registry.standard c).session size visits before,
          (((Service.new (Registry.standard c) size).visit x.visit).run x.before.1).run x.before.2 =
              ((x.result, x.after.1), x.after.2) ∧
            (∀ question, Effect.asked question ∈ x.effects → ¬ IsInvalid x.result) ∧
            ∀ nav r user p a q, x.visit = .act nav r user →
              (Registry.standard c).Judges nav r (.admitted p a q) →
              (IsInvalid x.result ↔
                p.descriptor = Settings.descriptor ∧ r.values.get? "value" = none) := by
  have hreg : (Registry.standard c).Accepted :=
    Registry.accepted_of_build (Registry.build_standardPanels c)
  refine ⟨⟨_, rfl, Ldap.agrees_newServer, Ldap.readsFirst_add c⟩,
    ⟨_, rfl, Hypervisors.agrees_newLimit, Hypervisors.readsFirst_edit c⟩,
    ⟨_, rfl, Settings.checkAll_valueInput, fun values => ?_,
      fun _ _ => Settings.newValue_of_get?, Settings.readsFirst_edit c⟩,
    fun size visits before => ⟨map_stepwise (fun _ _ => rfl) visits before, ?_⟩⟩
  · simp only [Settings.newValue_eq_error_iff, exists_and_left, exists_eq, and_true]
  · refine forall_mem_stepwise (fun _ => True) (fun v before _ => ⟨trivial, ?_⟩) visits trivial
    refine ⟨Registry.run_visited _ size v before,
      fun _ => Registry.not_isInvalid_of_asked c size v before, ?_⟩
    rintro nav r user p a q hvisit hv
    obtain rfl : v = .act nav r user := hvisit
    rw [((Registry.standard c).visited_act size hreg hv user before).1, isInvalid_map_iff,
      Registry.isInvalid_course_iff c hv]

end SettingsConsole
