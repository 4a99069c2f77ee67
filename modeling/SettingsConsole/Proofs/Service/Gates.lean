import SettingsConsole.Proofs.Panel.Input
import SettingsConsole.Proofs.Panel.Registry
import SettingsConsole.Proofs.Service.Run
import SettingsConsole.Proofs.Text.Blank

/-!
# The gates before an action

An action on a section passes six gates before anything is done: the navigation is in the section,
it selects a resource type, a panel shows that type, the panel declares the action, the action has
its target, and every input is proper. A last gate, the consent of the user, is there only if the
declaration has a question. The first gate that is shut decides the result.

What the gates decide is stated by membership in the section and its declarations, without the
searches of the service. What is done, and in which order, is read off a record: every question to
the user and every operation of a panel adds one entry before it is run.
-/

namespace SettingsConsole

open Text

variable {m : Type → Type}

/-! ## The gates -/

/-- The navigation selects this panel of the section. -/
def Registry.Selects (reg : Registry m) (nav : Navigation) (p : Panel m) : Prop :=
  nav.sectionId = reg.id ∧ p ∈ reg.panels ∧ nav.selection = some p.descriptor.resource

/-- The navigation selects a panel that declares this action for a request. -/
def Registry.Declares (reg : Registry m) (nav : Navigation) (r : Request) (p : Panel m)
    (a : Action) : Prop :=
  reg.Selects nav p ∧ a ∈ p.descriptor.actions ∧ a.name = r.name

namespace Request

/-- The target of a request, if it needs one, is more than white space. -/
def HasTarget (r : Request) : Prop := ∀ id, r.target? = some id → trim id ≠ ""

/-- The request with the white space around its target dropped, and the same values. -/
def stripped : Request → Request
  | edit id values => edit (trim id) values
  | add values => add values
  | remove id => remove (trim id)

end Request

/-- What the gates before the question to the user decide. -/
inductive Verdict (m : Type → Type) where
  /-- A gate is shut. -/
  | refused (e : PanelError)
  /-- All of them are open for a panel, its declaration of the action, and the request. -/
  | admitted (p : Panel m) (a : Action) (r : Request)

/-- The verdict of a section about a request. Every rule names the gates that are open, and then
the one that is shut. -/
inductive Registry.Judges (reg : Registry m) (nav : Navigation) (r : Request) : Verdict m → Prop
  | otherSection : nav.sectionId ≠ reg.id →
      Judges reg nav r (.refused (.unknownPanel nav.sectionId))
  | noSelection : nav.sectionId = reg.id → nav.selection = none →
      Judges reg nav r (.refused (.missingSelection nav.sectionId))
  | noPanel {resource : Resource} : nav.sectionId = reg.id → nav.selection = some resource →
      (∀ p ∈ reg.panels, p.descriptor.resource ≠ resource) →
      Judges reg nav r (.refused (.unknownPanel resource.panelId))
  | undeclared {p : Panel m} : reg.Selects nav p → (∀ a ∈ p.descriptor.actions, a.name ≠ r.name) →
      Judges reg nav r (.refused (.unsupported p.descriptor.id r.name.text))
  | blankTarget {p : Panel m} {a : Action} {id : String} {f : Field} : reg.Declares nav r p a →
      r.target? = some id → trim id = "" → f ∈ p.descriptor.listFields → f.identifier = true →
      Judges reg nav r (.refused (.validation f.key f.label .required))
  | badInput {p : Panel m} {a : Action} {before after : List Input} {i : Input} {e : PanelError} :
      reg.Declares nav r p a → r.HasTarget → a.inputs = before ++ i :: after →
      (∀ j ∈ before, j.check r.values = .ok ()) → i.check r.values = .error e →
      Judges reg nav r (.refused e)
  | admitted {p : Panel m} {a : Action} : reg.Declares nav r p a → r.HasTarget →
      (∀ i ∈ a.inputs, i.check r.values = .ok ()) → Judges reg nav r (.admitted p a r.stripped)

/-! ## The record -/

/-- An operation of a panel with what it is given. -/
inductive PanelCall where
  | list (q : ListQuery) (size : UInt32)
  | detail (id : String)
  | perform (r : Request)

/-- What a service does to the world outside of it. -/
inductive Effect where
  /-- The user is asked. -/
  | asked (q : Prompt)
  /-- An operation of the panel with this descriptor is run. -/
  | ran (panel : Descriptor) (call : PanelCall)

/-- Computations with a record of effects, in their order. -/
abbrev Recorded (m : Type → Type) := StateT (List Effect) m

section Recording

variable [Monad m]

/-- Enter an effect in the record and bring it about. -/
def recording {α : Type} (e : Effect) (x : m α) : Recorded m α := do
  modify (· ++ [e])
  StateT.lift x

/-- The panel with all its operations recorded. -/
def Panel.recorded (p : Panel m) : Panel (Recorded m) where
  descriptor := p.descriptor
  list q size := ExceptT.mk (recording (.ran p.descriptor (.list q size)) (p.list q size).run)
  detail id := ExceptT.mk (recording (.ran p.descriptor (.detail id)) (p.detail id).run)
  edit id values :=
    ExceptT.mk (recording (.ran p.descriptor (.perform (.edit id values))) (p.edit id values).run)
  add values :=
    ExceptT.mk (recording (.ran p.descriptor (.perform (.add values))) (p.add values).run)
  remove id :=
    ExceptT.mk (recording (.ran p.descriptor (.perform (.remove id))) (p.remove id).run)

/-- The section with all its panels recorded. -/
def Registry.recorded (reg : Registry m) : Registry (Recorded m) :=
  ⟨reg.id, reg.title, reg.selector, reg.panels.map Panel.recorded⟩

/-- The user with all questions recorded. -/
def Confirmer.recorded (confirm : Confirmer m) : Confirmer (Recorded m) :=
  fun q => recording (.asked q) (confirm q)

/-- Carry out a request on a section: the result, and the record of what was done for it. -/
def Registry.recordedAct (reg : Registry m) (size : UInt32) (nav : Navigation) (r : Request)
    (confirm : Confirmer m) : m (Except PanelError Outcome × List Effect) :=
  ((Service.new reg.recorded size).act nav r confirm.recorded).run.run []

/-- How an action goes on after a verdict. A refusal does nothing. Otherwise the user is asked if
the declaration has a question, and the operation of the panel is run once unless the user
declines; its result is the result. -/
def Verdict.course (v : Verdict m) (confirm : Confirmer m) :
    m (Except PanelError Outcome × List Effect) :=
  match v with
  | .refused e => pure (.error e, [])
  | .admitted p a r =>
    match a.confirmation with
    | none => do
      let result ← (p.perform r).run
      pure (result, [.ran p.descriptor (.perform r)])
    | some text => do
      let question : Prompt := ⟨p.descriptor, a, text, r.target?⟩
      if ← confirm question then
        let result ← (p.perform r).run
        pure (result, [.asked question, .ran p.descriptor (.perform r)])
      else pure (.ok .declined, [.asked question])

end Recording

/-! ## The service decides as the gates do -/

/-- What the service decides before the question to the user. -/
def Verdict.ofAccept : Except PanelError (Service.Accepted m) → Verdict m
  | .error e => .refused e
  | .ok a => .admitted a.panel a.action a.request

/-- The service finds the panel that the navigation selects. -/
theorem Service.selected_of_selects {s : Service m} {nav : Navigation} {p : Panel m}
    (hreg : s.registry.Accepted) (h : s.registry.Selects nav p) : s.selected nav = .ok p := by
  obtain ⟨hsection, hp, hselection⟩ := h
  simp only [selected, hsection, if_true, hselection]
  exact hreg.get_of_mem hp

/-- The service finds the declaration of a declared action. -/
theorem Service.declared_of_mem {d : Descriptor} {a : Action} (hd : d.validate = .ok ())
    (ha : a ∈ d.actions) : declared d a.name = .ok a := by
  rw [declared, Descriptor.action?_of_mem hd ha]

/-- An action that is not declared is unsupported. -/
theorem Service.declared_of_forall_ne {d : Descriptor} {name : Action.Name}
    (h : ∀ a ∈ d.actions, a.name ≠ name) : declared d name = .error (d.unsupported name.text) := by
  have hnone : d.action? name = none := List.find?_eq_none.mpr fun a ha => by simpa using h a ha
  rw [declared, hnone]

/-- A request with a target keeps its values and has its target trimmed. -/
theorem Request.trimmed_of_hasTarget {d : Descriptor} {r : Request} (h : r.HasTarget) :
    r.trimmed d = .ok r.stripped := by
  cases r with
  | edit id values =>
    have hid : unlessBlank (trim id) = some (trim id) := unlessBlank_trim_of_ne (h id rfl)
    simp [trimmed, targetId, hid, stripped, Except.map]
  | add values => rfl
  | remove id =>
    have hid : unlessBlank (trim id) = some (trim id) := unlessBlank_trim_of_ne (h id rfl)
    simp [trimmed, targetId, hid, stripped, Except.map]

/-- A request whose target is blank is refused in the name of the identifying field. -/
theorem Request.trimmed_of_blank {d : Descriptor} {r : Request} {id : String} {f : Field}
    (hd : d.validate = .ok ()) (hr : r.target? = some id) (hid : trim id = "")
    (hf : f ∈ d.listFields) (hidentifier : f.identifier = true) :
    r.trimmed d = .error (.validation f.key f.label .required) := by
  have hblank : targetId d id = .error (.validation f.key f.label .required) := by
    rw [targetId, unlessBlank_trim_of_eq hid, blankTarget,
      Descriptor.identifierField?_of_mem hd hf hidentifier]
  cases r with
  | add values => cases hr
  | edit other values => cases hr; simp [trimmed, hblank, Except.map]
  | remove other => cases hr; simp [trimmed, hblank, Except.map]

/-- Trimming the target of a request leaves its values as they are. -/
theorem Request.values_stripped (r : Request) : r.stripped.values = r.values := by
  cases r <;> rfl

/-- The service decides as every verdict says. -/
theorem Service.accept_of_judges {s : Service m} {nav : Navigation} {r : Request} {v : Verdict m}
    (hreg : s.registry.Accepted) (h : s.registry.Judges nav r v) :
    Verdict.ofAccept (s.accept nav r) = v := by
  cases h with
  | otherSection hsection =>
    simp [accept, selected, hsection, bind, Except.bind, Verdict.ofAccept]
  | noSelection hsection hselection =>
    simp [accept, selected, hsection, hselection, bind, Except.bind, Verdict.ofAccept]
  | noPanel hsection hselection hnone =>
    simp [accept, selected, hsection, hselection, Registry.get_of_forall_ne hnone, bind,
      Except.bind, Verdict.ofAccept]
  | undeclared hp hnone =>
    simp [accept, selected_of_selects hreg hp, declared_of_forall_ne hnone, bind, Except.bind,
      Verdict.ofAccept, Descriptor.unsupported]
  | blankTarget ha hr hid hf hidentifier =>
    obtain ⟨hp, ha, hname⟩ := ha
    have hd := hreg.valid _ hp.2.1
    simp [accept, selected_of_selects hreg hp, ← hname, declared_of_mem hd ha,
      Request.trimmed_of_blank hd hr hid hf hidentifier, bind, Except.bind, Verdict.ofAccept]
  | badInput ha hr hinputs hbefore hi =>
    obtain ⟨hp, ha, hname⟩ := ha
    have hd := hreg.valid _ hp.2.1
    simp [accept, selected_of_selects hreg hp, ← hname, declared_of_mem hd ha,
      Request.trimmed_of_hasTarget hr, Request.values_stripped, hinputs,
      Input.checkAll_append_cons hbefore hi, bind, Except.bind, Verdict.ofAccept]
  | admitted ha hr hinputs =>
    obtain ⟨hp, ha, hname⟩ := ha
    have hd := hreg.valid _ hp.2.1
    simp [accept, selected_of_selects hreg hp, ← hname, declared_of_mem hd ha,
      Request.trimmed_of_hasTarget hr, Request.values_stripped,
      (Input.checkAll_eq_ok_iff _ _).mpr hinputs, bind, Except.bind, pure, Except.pure,
      Verdict.ofAccept]

/-- The service goes on with the panel, the declaration and the request that are admitted. -/
theorem Service.accept_eq_of_judges {s : Service m} {nav : Navigation} {r q : Request}
    {p : Panel m} {a : Action} (hreg : s.registry.Accepted)
    (h : s.registry.Judges nav r (.admitted p a q)) : s.accept nav r = .ok ⟨p, a, q⟩ := by
  have hdecides := accept_of_judges hreg h
  cases haccept : s.accept nav r with
  | error e =>
    rw [haccept] at hdecides
    cases hdecides
  | ok accepted =>
    rw [haccept] at hdecides
    cases hdecides
    rfl

/-- The service refuses a request as the gates do. -/
theorem Service.accept_eq_of_refuses {s : Service m} {nav : Navigation} {r : Request}
    {e : PanelError} (hreg : s.registry.Accepted) (h : s.registry.Judges nav r (.refused e)) :
    s.accept nav r = .error e := by
  have hdecides := accept_of_judges hreg h
  cases haccept : s.accept nav r with
  | error other =>
    rw [haccept] at hdecides
    cases hdecides
    rfl
  | ok accepted =>
    rw [haccept] at hdecides
    cases hdecides

/-- The gates decide about every request. -/
theorem Registry.exists_judges {reg : Registry m} (hreg : reg.Accepted) (nav : Navigation)
    (r : Request) : ∃ v, reg.Judges nav r v := by
  by_cases hsection : nav.sectionId = reg.id
  case neg => exact ⟨_, .otherSection hsection⟩
  cases hselection : nav.selection with
  | none => exact ⟨_, .noSelection hsection hselection⟩
  | some resource =>
    by_cases hnone : ∀ p ∈ reg.panels, p.descriptor.resource ≠ resource
    case pos => exact ⟨_, .noPanel hsection hselection hnone⟩
    push Not at hnone
    obtain ⟨p, hp, hresource⟩ := hnone
    have hselects : reg.Selects nav p := ⟨hsection, hp, by rw [hselection, hresource]⟩
    by_cases hundeclared : ∀ a ∈ p.descriptor.actions, a.name ≠ r.name
    case pos => exact ⟨_, .undeclared hselects hundeclared⟩
    push Not at hundeclared
    obtain ⟨a, ha, hname⟩ := hundeclared
    have hdeclares : reg.Declares nav r p a := ⟨hselects, ha, hname⟩
    by_cases htarget : r.HasTarget
    case neg =>
      unfold Request.HasTarget at htarget
      push Not at htarget
      obtain ⟨id, hid, hblank⟩ := htarget
      obtain ⟨f, hf, hidentifier⟩ := Descriptor.exists_identifierField (hreg.valid p hp)
      exact ⟨_, .blankTarget hdeclares hid hblank hf hidentifier⟩
    rcases Input.all_or_first r.values a.inputs with hall | ⟨_, _, _, _, hinputs, hbefore, hi⟩
    · exact ⟨_, .admitted hdeclares htarget hall⟩
    · exact ⟨_, .badInput hdeclares htarget hinputs hbefore hi⟩

/-! ## The record of an action -/

/-- Recording changes no descriptor. -/
@[simp] theorem Panel.descriptor_recorded [Monad m] (p : Panel m) :
    p.recorded.descriptor = p.descriptor := rfl

/-- A request that is carried out with a record adds one entry to it. -/
theorem Panel.run_perform_recorded [Monad m] [LawfulMonad m] (p : Panel m) (r : Request)
    (effects : List Effect) :
    ((p.recorded.perform r).run).run effects =
      (fun result => (result, effects ++ [.ran p.descriptor (.perform r)])) <$>
        (p.perform r).run := by
  cases r <;> simp [perform, recorded, recording]

/-- A question that is put with a record adds one entry to it. -/
theorem Confirmer.run_recorded [Monad m] [LawfulMonad m] (confirm : Confirmer m) (q : Prompt)
    (effects : List Effect) :
    (confirm.recorded q).run effects = (fun b => (b, effects ++ [.asked q])) <$> confirm q := by
  simp [recorded, recording]

/-- The recorded section finds what the section finds. -/
theorem Registry.get_recorded [Monad m] (reg : Registry m) (resource : Resource) :
    reg.recorded.get resource = (reg.get resource).map Panel.recorded := by
  simp only [get, recorded, List.find?_map]
  have hsame : ((fun p : Panel (Recorded m) => decide (p.descriptor.resource = resource)) ∘
      Panel.recorded) = fun p : Panel m => decide (p.descriptor.resource = resource) := rfl
  rw [hsame]
  cases reg.panels.find? fun p => decide (p.descriptor.resource = resource) <;> rfl

/-- The service of the recorded section selects the panel that the one of the section selects. -/
theorem Service.selected_recorded [Monad m] (reg : Registry m) (size : UInt32) (nav : Navigation) :
    (Service.new reg.recorded size).selected nav =
      ((Service.new reg size).selected nav).map Panel.recorded := by
  have hid : reg.recorded.id = reg.id := rfl
  by_cases hsection : nav.sectionId = reg.id
  · cases hselection : nav.selection with
    | none => simp [selected, Service.new, hid, hsection, hselection, Except.map]
    | some resource =>
      simp [selected, Service.new, hid, hsection, hselection, reg.get_recorded resource]
  · simp [selected, Service.new, hid, hsection, Except.map]

/-- The service of the recorded section decides as the one of the section. -/
theorem Service.accept_recorded [Monad m] (reg : Registry m) (size : UInt32) (nav : Navigation)
    (r : Request) :
    (Service.new reg.recorded size).accept nav r =
      ((Service.new reg size).accept nav r).map fun a =>
        ⟨a.panel.recorded, a.action, a.request⟩ := by
  unfold accept
  rw [selected_recorded]
  cases (Service.new reg size).selected nav with
  | error e => rfl
  | ok p =>
    simp only [Except.map, bind, Except.bind, Panel.descriptor_recorded]
    cases declared p.descriptor r.name with
    | error e => rfl
    | ok a =>
      cases r.trimmed p.descriptor with
      | error e => rfl
      | ok q =>
        dsimp only
        cases Input.checkAll q.values a.inputs <;> rfl

/-- The record of an action is the course of what the service decides. -/
theorem Registry.recordedAct_eq_course [Monad m] [LawfulMonad m] (reg : Registry m) (size : UInt32)
    (nav : Navigation) (r : Request) (confirm : Confirmer m) :
    reg.recordedAct size nav r confirm =
      (Verdict.ofAccept ((Service.new reg size).accept nav r)).course confirm := by
  rw [recordedAct, Service.run_act, Service.accept_recorded]
  cases (Service.new reg size).accept nav r with
  | error e => rfl
  | ok a =>
    obtain ⟨p, a, r⟩ := a
    simp only [Except.map, Verdict.ofAccept, Verdict.course, Service.Accepted.consent,
      Service.Accepted.prompt?]
    cases a.confirmation with
    | none => simp [Panel.run_perform_recorded]
    | some text =>
      simp only [Option.map_some, StateT.run_bind, Confirmer.run_recorded, List.nil_append,
        bind_map_left]
      refine bind_congr fun agreed => ?_
      cases agreed <;> simp [Panel.run_perform_recorded]

/-- Without its record, the course of what the service decides is what the service does. -/
theorem Registry.fst_map_recordedAct [Monad m] [LawfulMonad m] (reg : Registry m) (size : UInt32)
    (nav : Navigation) (r : Request) (confirm : Confirmer m) :
    Prod.fst <$> reg.recordedAct size nav r confirm =
      ((Service.new reg size).act nav r confirm).run := by
  rw [recordedAct_eq_course, Service.run_act]
  cases (Service.new reg size).accept nav r with
  | error e => simp [Verdict.ofAccept, Verdict.course]
  | ok a =>
    obtain ⟨p, a, r⟩ := a
    simp only [Verdict.ofAccept, Verdict.course, Service.Accepted.consent,
      Service.Accepted.prompt?]
    cases a.confirmation with
    | none => simp
    | some text =>
      simp only [map_bind, Option.map_some]
      refine bind_congr fun agreed => ?_
      cases agreed <;> simp

/-- The gates of an accepted section decide about every request in exactly one way, and the action
goes on as they decide: a refusal neither asks nor runs anything, the user is asked at most once
and only after all other gates, and the operation of the panel is run exactly once if no gate is
shut, with its own result. Keeping the record changes nothing. -/
theorem Registry.act_follows_gates [Monad m] [LawfulMonad m] {id title selector : String}
    {panels : List (Panel m)} {reg : Registry m} (h : build id title selector panels = .ok reg)
    (size : UInt32) (nav : Navigation) (r : Request) (confirm : Confirmer m) :
    (∃! v, reg.Judges nav r v) ∧
      (∀ v, reg.Judges nav r v → reg.recordedAct size nav r confirm = v.course confirm) ∧
      Prod.fst <$> reg.recordedAct size nav r confirm =
        ((Service.new reg size).act nav r confirm).run := by
  have hreg : reg.Accepted := accepted_of_build h
  have hdecides {v : Verdict m} (hv : reg.Judges nav r v) :
      Verdict.ofAccept ((Service.new reg size).accept nav r) = v :=
    Service.accept_of_judges (s := Service.new reg size) hreg hv
  obtain ⟨v, hv⟩ := exists_judges hreg nav r
  refine ⟨⟨v, hv, fun w hw => ?_⟩, fun w hw => ?_, fst_map_recordedAct reg size nav r confirm⟩
  · rw [← hdecides hv, hdecides hw]
  · rw [recordedAct_eq_course, hdecides hw]

/-- The client of a server that cannot be reached. -/
def Client.unreachable : Client Id := ⟨fun op _ => ExceptT.mk (.error (.network op.name ""))⟩

/-- A user who declines the removal of an LDAP server is asked once, about the trimmed host name,
and no operation is run. -/
theorem Registry.act_follows_gates_declined :
    build standardId Message.globalSettings Message.selectView (standardPanels .unreachable) =
        .ok (standard .unreachable) ∧
      (standard .unreachable).recordedAct 20 ⟨standardId, some .ldapServer⟩ (.remove " a ")
          (fun _ => false) =
        (.ok .declined,
          [.asked ⟨Ldap.descriptor,
            ⟨.remove, Message.removeLdap, some Message.confirmRemoveLdap, []⟩,
            Message.confirmRemoveLdap, some "a"⟩]) := by
  have hbuild := build_standardPanels Client.unreachable
  refine ⟨hbuild, ?_⟩
  have hopen : (standard .unreachable).Judges ⟨standardId, some .ldapServer⟩ (.remove " a ")
      (.admitted (Ldap.panel .unreachable)
        ⟨.remove, Message.removeLdap, some Message.confirmRemoveLdap, []⟩ (.remove "a")) := by
    refine .admitted ⟨⟨rfl, .tail _ (.head _), rfl⟩, .tail _ (.head _), rfl⟩ ?_ ?_
    · intro id hid
      cases hid
      decide
    · intro i hi
      cases hi
  rw [(act_follows_gates hbuild 20 _ _ fun _ => false).2.1 _ hopen]
  rfl

end SettingsConsole
