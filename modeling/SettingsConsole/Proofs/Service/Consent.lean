import Mathlib.Data.List.Count
import SettingsConsole.Proofs.Service.Gates
import SettingsConsole.Proofs.Service.Interleaving
import SettingsConsole.Server

/-!
# Nothing is removed without consent

Two places have to agree for that. The check of a section insists on a question for every removal
that is declared, and on one declaration of it at most; the service puts the question of the
declaration it finds. So in every run of requests to an accepted section, with any users who answer,
the removal of a row by a panel is run only in the course of a request whose user was asked about
the removal of that row in that panel, and agreed.

The panels and the users are any computations on a state of the world. A user may answer by this
state, and change it, so the answer is the one given in the state in which the user is asked.
-/

namespace SettingsConsole

open Text

/-! ## Visits -/

/-- A request to the service, with the user who answers its question. -/
inductive Visit (m : Type → Type) where
  | fetch (f : Fetch)
  | act (nav : Navigation) (r : Request) (user : Confirmer m)

/-- What a request gives if it succeeds: a numbered view, or the outcome of an action. -/
abbrev Visit.Reply := Numbered View ⊕ Outcome

section

variable {m : Type → Type} [Monad m]

/-- Carry out a request; the counter of requests is kept. -/
def Service.visit (s : Service m) : Visit m → StateT Sequence m (Except PanelError Visit.Reply)
  | .fetch f => Except.map .inl <$> (s.fetch f).run
  | .act nav r user => StateT.lift (Except.map .inr <$> (s.act nav r user).run)

/-- The request with the question to its user recorded. -/
def Visit.recorded : Visit m → Visit (Recorded m)
  | .fetch f => .fetch f
  | .act nav r user => .act nav r user.recorded

/-- Carry out a request on a section: the result, the counter, and the record of what was done. -/
def Registry.recordedVisit (reg : Registry m) (size : UInt32) (v : Visit m) (last : Sequence) :
    m ((Except PanelError Visit.Reply × Sequence) × List Effect) :=
  (((Service.new reg.recorded size).visit v.recorded).run last).run []

/-- The recorded service has the panel and the identifier of a detail view from the same place. -/
theorem Service.detailTarget_recorded (reg : Registry m) (size : UInt32) (nav : Navigation)
    (id : String) :
    (Service.new reg.recorded size).detailTarget nav id =
      ((Service.new reg size).detailTarget nav id).map fun (p, id) => (p.recorded, id) := by
  unfold detailTarget
  rw [selected_recorded]
  cases (Service.new reg size).selected nav with
  | error e => rfl
  | ok p =>
    simp only [Except.map, bind, Except.bind, Panel.descriptor_recorded]
    by_cases hdetail : p.descriptor.hasDetail = true
    · simp only [hdetail, if_true]
      cases Request.targetId p.descriptor id <;> rfl
    · simp only [hdetail]
      rfl

variable [LawfulMonad m]

/-- A listing with a record adds one entry to it. -/
theorem Panel.run_list_recorded (p : Panel m) (q : ListQuery) (size : UInt32)
    (effects : List Effect) :
    ((p.recorded.list q size).run).run effects =
      (fun result => (result, effects ++ [.ran p.descriptor (.list q size)])) <$>
        (p.list q size).run := by
  simp [recorded, recording]

/-- A detail view with a record adds one entry to it. -/
theorem Panel.run_detail_recorded (p : Panel m) (id : String) (effects : List Effect) :
    ((p.recorded.detail id).run).run effects =
      (fun result => (result, effects ++ [.ran p.descriptor (.detail id)])) <$>
        (p.detail id).run := by
  simp [recorded, recording]

/-- The recorded service refuses what the service refuses. Otherwise its operation enters one call
of a panel in the record, which is no action, and is the operation of the service. -/
theorem Service.operation_recorded (reg : Registry m) (size : UInt32) (f : Fetch) :
    (∃ e, (Service.new reg.recorded size).operation f = .error e ∧
      (Service.new reg size).operation f = .error e) ∨
    ∃ op' op d call, (Service.new reg.recorded size).operation f = .ok op' ∧
      (Service.new reg size).operation f = .ok op ∧ (∀ r, call ≠ .perform r) ∧
      (op'.run).run [] = (fun result => (result, [.ran d call])) <$> op.run := by
  cases f with
  | list nav q =>
    simp only [operation, selected_recorded]
    cases (Service.new reg size).selected nav with
    | error e => exact .inl ⟨e, rfl, rfl⟩
    | ok p =>
      let paging := Paging.validated ⟨q.page, (Service.new reg size).pageSize⟩ Paging.maxSize
        Paging.one_le_maxSize
      refine .inr ⟨_, _, p.descriptor, .list ⟨paging.page, q.search⟩ paging.size, rfl, rfl,
        fun _ h => (by cases h), ?_⟩
      rw [ExceptT.run_map, StateT.run_map, Panel.run_list_recorded, ExceptT.run_map,
        Functor.map_map, Functor.map_map]
      rfl
  | detail nav id =>
    simp only [operation, detailTarget_recorded]
    cases (Service.new reg size).detailTarget nav id with
    | error e => exact .inl ⟨e, rfl, rfl⟩
    | ok target =>
      obtain ⟨p, id⟩ := target
      refine .inr ⟨_, _, p.descriptor, .detail id, rfl, rfl, fun _ h => (by cases h), ?_⟩
      rw [ExceptT.run_map, StateT.run_map, Panel.run_detail_recorded, ExceptT.run_map,
        Functor.map_map, Functor.map_map]
      rfl

/-- Recording changes nothing of a listing or a detail view, and the only entries are calls of a
panel that are no actions. -/
theorem Service.run_fetch_recorded (reg : Registry m) (size : UInt32) (f : Fetch)
    (last : Sequence) :
    ∃ effects : List Effect,
      (∀ e ∈ effects, ∃ d call, e = .ran d call ∧ ∀ r, call ≠ .perform r) ∧
      (((Service.new reg.recorded size).fetch f).run.run last).run [] =
        (fun x => (x, effects)) <$> ((Service.new reg size).fetch f).run.run last := by
  rw [run_fetch, run_fetch]
  rcases operation_recorded reg size f with
    ⟨e, hop', hop⟩ | ⟨op', op, d, call, hop', hop, hcall, hrun⟩
  · rw [hop', hop]
    refine ⟨[], fun _ hmem => absurd hmem List.not_mem_nil, ?_⟩
    simp only [StateT.run_pure, map_pure]
  · rw [hop', hop]
    refine ⟨[.ran d call], fun e hmem => ⟨d, call, List.mem_singleton.mp hmem, hcall⟩, ?_⟩
    simp only [StateT.run_map, hrun, Functor.map_map]

/-- The record of an action that is a visit is the record of the action. -/
theorem Registry.recordedVisit_act (reg : Registry m) (size : UInt32) (nav : Navigation)
    (r : Request) (user : Confirmer m) (last : Sequence) :
    reg.recordedVisit size (.act nav r user) last =
      (fun x => ((x.1.map .inr, last), x.2)) <$> reg.recordedAct size nav r user := by
  simp [recordedVisit, Service.visit, Visit.recorded, recordedAct]

/-- Recording changes nothing of a visit. -/
theorem Registry.fst_map_recordedVisit (reg : Registry m) (size : UInt32) (v : Visit m)
    (last : Sequence) :
    Prod.fst <$> reg.recordedVisit size v last = ((Service.new reg size).visit v).run last := by
  cases v with
  | fetch f =>
    obtain ⟨effects, -, hrun⟩ := Service.run_fetch_recorded reg size f last
    simp only [recordedVisit, Visit.recorded, Service.visit, StateT.run_map, hrun,
      Functor.map_map]
  | act nav r user =>
    rw [recordedVisit_act, Functor.map_map, Service.visit, StateT.run_lift,
      ← fst_map_recordedAct reg size nav r user, bind_pure_comp, Functor.map_map, Functor.map_map]

end

/-! ## Sessions -/

/-- A visit of a session: what came of it, the record of what was done in its course, and the
counter and the state of the world before it and after it. -/
structure Visited (σ : Type) where
  visit : Visit (StateM σ)
  before : Sequence × σ
  result : Except PanelError Visit.Reply
  effects : List Effect
  after : Sequence × σ

namespace Registry

variable {σ : Type} (reg : Registry (StateM σ)) (size : UInt32)

/-- Make a visit to a section. -/
def visited (v : Visit (StateM σ)) (before : Sequence × σ) : Visited σ :=
  let (((result, next), effects), st) := (reg.recordedVisit size v before.1).run before.2
  ⟨v, before, result, effects, (next, st)⟩

/-- Make visits one after another. -/
def session : List (Visit (StateM σ)) → Sequence × σ → List (Visited σ) :=
  stepwise (reg.visited size) (·.after)

/-- A visit with a record comes to the same as the visit without it. -/
theorem run_visited (v : Visit (StateM σ)) (before : Sequence × σ) :
    let x := reg.visited size v before
    (((Service.new reg size).visit v).run before.1).run before.2 =
      ((x.result, x.after.1), x.after.2) := by
  rw [← fst_map_recordedVisit, StateT.run_map]
  rfl

/-- A listing or a detail view asks nothing and runs no action. -/
theorem effects_visited_fetch (f : Fetch) (before : Sequence × σ) :
    ∀ e ∈ (reg.visited size (.fetch f) before).effects,
      ∃ d call, e = .ran d call ∧ ∀ r, call ≠ .perform r := by
  obtain ⟨effects, hcalls, hrun⟩ := Service.run_fetch_recorded reg size f before.1
  have heffects : (reg.visited size (.fetch f) before).effects = effects := by
    simp only [visited, recordedVisit, Visit.recorded, Service.visit, StateT.run_map, hrun]
    rfl
  rw [heffects]
  exact hcalls

/-- What comes of an action and its record are those of the course of what the gates decide. -/
theorem visited_act {nav : Navigation} {r : Request} {v : Verdict (StateM σ)}
    (hreg : reg.Accepted) (hv : reg.Judges nav r v) (user : Confirmer (StateM σ))
    (before : Sequence × σ) :
    (reg.visited size (.act nav r user) before).result =
        ((v.course user).run before.2).1.1.map .inr ∧
      (reg.visited size (.act nav r user) before).effects =
        ((v.course user).run before.2).1.2 := by
  have hdecides : Verdict.ofAccept ((Service.new reg size).accept nav r) = v :=
    Service.accept_of_judges hreg hv
  rw [← hdecides, ← recordedAct_eq_course, visited, recordedVisit_act]
  exact ⟨rfl, rfl⟩

end Registry

/-! ## Consent -/

/-- What is done for an admitted request: the operation alone, if the declaration has no question,
or the question, and after it the operation if the user agrees. -/
theorem Verdict.effects_course {σ : Type} (p : Panel (StateM σ)) (a : Action) (r : Request)
    (user : Confirmer (StateM σ)) (st : σ) :
    (((Verdict.admitted p a r).course user).run st).1.2 =
      match a.confirmation with
      | none => [.ran p.descriptor (.perform r)]
      | some text =>
        let question : Prompt := ⟨p.descriptor, a, text, r.target?⟩
        if ((user question).run st).1 then [.asked question, .ran p.descriptor (.perform r)]
        else [.asked question] := by
  simp only [course]
  cases a.confirmation with
  | none => rfl
  | some text =>
    simp only [StateT.run_bind]
    rcases (user ⟨p.descriptor, a, text, r.target?⟩).run st with ⟨agreed, st'⟩
    cases agreed <;> rfl

/-- An operation in the course of an action is that of the panel and the request that the gates have
admitted. If its declaration has a question, the operation comes after this question, and the user
has agreed. -/
theorem Verdict.mem_effects_course {σ : Type} {v : Verdict (StateM σ)}
    {user : Confirmer (StateM σ)} {st : σ} {d : Descriptor} {r : Request}
    (h : Effect.ran d (.perform r) ∈ ((v.course user).run st).1.2) :
    ∃ p a, v = .admitted p a r ∧ p.descriptor = d ∧
      ∀ text, a.confirmation = some text →
        ((v.course user).run st).1.2 =
            [.asked ⟨d, a, text, r.target?⟩, .ran d (.perform r)] ∧
          ((user ⟨d, a, text, r.target?⟩).run st).1 = true := by
  cases v with
  | refused e => exact absurd h List.not_mem_nil
  | admitted p a q =>
    rw [effects_course] at h ⊢
    cases hprompt : a.confirmation with
    | none =>
      rw [hprompt] at h
      obtain ⟨rfl, hq⟩ := Effect.ran.inj (List.mem_singleton.mp h)
      cases hq
      exact ⟨p, a, rfl, rfl, fun text htext => by cases hprompt.symm.trans htext⟩
    | some text =>
      simp only [hprompt] at h ⊢
      split at h
      · next hagreed =>
        rcases List.mem_cons.mp h with h | h
        · cases h
        · obtain ⟨rfl, hq⟩ := Effect.ran.inj (List.mem_singleton.mp h)
          cases hq
          refine ⟨p, a, rfl, rfl, fun other hother => ?_⟩
          obtain rfl : text = other := Option.some.inj (hprompt.symm.trans hother)
          exact ⟨if_pos hagreed, hagreed⟩
      · exact absurd (List.mem_singleton.mp h) nofun

/-- A request that is a removal without the white space around its target was one with it. -/
theorem Request.eq_remove_of_stripped {r : Request} {id : String} (h : r.stripped = .remove id) :
    ∃ raw, r = .remove raw ∧ trim raw = id := by
  cases r with
  | edit raw values => cases h
  | add values => cases h
  | remove raw => exact ⟨raw, rfl, Request.remove.inj h⟩

namespace Registry

/-- A check of descriptors that fails names a descriptor and what is wrong with it. -/
theorem eq_invalidDescriptor_of_checkDescriptors {seen : List Resource} {ds : List Descriptor}
    {e : PanelError} (h : checkDescriptors seen ds = .error e) :
    ∃ id reason, e = .invalidDescriptor id reason := by
  induction ds generalizing seen with
  | nil => cases h
  | cons d ds ih =>
    simp only [checkDescriptors, Descriptor.validate] at h
    cases hfault : d.fault? with
    | some reason =>
      rw [hfault] at h
      cases h
      exact ⟨d.id, reason, rfl⟩
    | none =>
      rw [hfault] at h
      by_cases hseen : d.resource ∈ seen
      · rw [if_pos hseen] at h
        cases h
        exact ⟨d.id, "resource type registered twice", rfl⟩
      · rw [if_neg hseen] at h
        exact ih h

/-- A section with a panel that declares removal without a question, or twice, is not accepted. -/
theorem build_eq_error_of_remove {m : Type → Type} (id title selector : String)
    {panels : List (Panel m)} {p : Panel m} (hp : p ∈ panels)
    (h : (∃ a ∈ p.descriptor.actions, a.name = .remove ∧ a.confirmation = none) ∨
      1 < (p.descriptor.actions.map (·.name)).count .remove) :
    ∃ culprit reason, build id title selector panels =
      .error (.invalidDescriptor culprit reason) := by
  cases hbuild : build id title selector panels with
  | ok reg =>
    exfalso
    have hvalid : p.descriptor.validate = .ok () :=
      (accepted_of_build hbuild).valid p ((of_build hbuild).1 ▸ hp)
    rcases h with ⟨a, ha, hname, hnone⟩ | htwice
    · obtain ⟨text, htext⟩ := Descriptor.exists_confirmation hvalid ha hname
      cases hnone.symm.trans htext
    · have honce := List.nodup_iff_count_le_one.mp (Descriptor.unique_of_validate hvalid).2
      exact absurd (honce .remove) (Nat.not_le.mpr htwice)
  | error e =>
    unfold build at hbuild
    cases hcheck : checkDescriptors [] (panels.map (·.descriptor)) with
    | ok => rw [hcheck] at hbuild; cases hbuild
    | error e' =>
      rw [hcheck] at hbuild
      cases hbuild
      obtain ⟨culprit, reason, rfl⟩ := eq_invalidDescriptor_of_checkDescriptors hcheck
      exact ⟨culprit, reason, rfl⟩

/-- The removal of a row by a panel was consented to in the course of a visit: the visit is a
request for the removal, its user was asked the question that the panel declares for it, about this
row, and agreed; then the operation was run, and that was all. -/
def Consented {σ : Type} (reg : Registry (StateM σ)) (x : Visited σ) (d : Descriptor)
    (id : String) : Prop :=
  ∃ nav raw user p a text, x.visit = .act nav (.remove raw) user ∧ trim raw = id ∧
    reg.Selects nav p ∧ p.descriptor = d ∧ a ∈ d.actions ∧ a.name = .remove ∧
    a.confirmation = some text ∧
    x.effects = [.asked ⟨d, a, text, some id⟩, .ran d (.perform (.remove id))] ∧
    ((user ⟨d, a, text, some id⟩).run x.before.2).1 = true

/-- A visit to an accepted section removes nothing without consent. -/
theorem consented_visited {σ : Type} {reg : Registry (StateM σ)} (hreg : reg.Accepted)
    (size : UInt32) (v : Visit (StateM σ)) (before : Sequence × σ) (d : Descriptor) (id : String)
    (h : Effect.ran d (.perform (.remove id)) ∈ (reg.visited size v before).effects) :
    reg.Consented (reg.visited size v before) d id := by
  cases v with
  | fetch f =>
    obtain ⟨c, call, hcall, hnone⟩ := reg.effects_visited_fetch size f before _ h
    obtain ⟨-, rfl⟩ := Effect.ran.inj hcall
    exact absurd rfl (hnone (.remove id))
  | act nav r user =>
    obtain ⟨v, hv⟩ := exists_judges hreg nav r
    have heffects := (reg.visited_act size hreg hv user before).2
    rw [heffects] at h
    obtain ⟨p, a, rfl, rfl, hasked⟩ := Verdict.mem_effects_course h
    generalize hstripped : Request.remove id = stripped at hv
    cases hv with
    | admitted hdeclares htarget hinputs =>
      obtain ⟨hselects, ha, hname⟩ := hdeclares
      obtain ⟨raw, rfl, hid⟩ := Request.eq_remove_of_stripped hstripped.symm
      have hremove : a.name = .remove := hname
      obtain ⟨text, htext⟩ :=
        Descriptor.exists_confirmation (hreg.valid p hselects.2.1) ha hremove
      obtain ⟨hcourse, hagreed⟩ := hasked text htext
      exact ⟨nav, raw, user, p, a, text, rfl, hid, hselects, rfl, ha, hremove, htext,
        heffects.trans hcourse, hagreed⟩

/-- In every session with an accepted section, a row is removed only with consent; a section with a
panel that declares removal without a question, or twice, is not accepted. The record of a session
has every request in its order, and what the service does without the record. -/
theorem removal_consented {σ : Type} (id title selector : String)
    (panels : List (Panel (StateM σ))) :
    (∀ p ∈ panels,
      ((∃ a ∈ p.descriptor.actions, a.name = .remove ∧ a.confirmation = none) ∨
        1 < (p.descriptor.actions.map (·.name)).count .remove) →
      ∃ culprit reason, build id title selector panels =
        .error (.invalidDescriptor culprit reason)) ∧
    ∀ reg, build id title selector panels = .ok reg →
      reg.panels = panels ∧
      ∀ (size : UInt32) (visits : List (Visit (StateM σ))) (before : Sequence × σ),
        (reg.session size visits before).map (·.visit) = visits ∧
        ∀ x ∈ reg.session size visits before,
          (((Service.new reg size).visit x.visit).run x.before.1).run x.before.2 =
              ((x.result, x.after.1), x.after.2) ∧
            ∀ d rowId, Effect.ran d (.perform (.remove rowId)) ∈ x.effects →
              reg.Consented x d rowId := by
  refine ⟨fun p hp h => build_eq_error_of_remove id title selector hp h, fun reg hbuild => ?_⟩
  have hreg : reg.Accepted := accepted_of_build hbuild
  refine ⟨(of_build hbuild).1, fun size visits before => ?_⟩
  refine ⟨map_stepwise (fun _ _ => rfl) visits before, ?_⟩
  refine forall_mem_stepwise (fun _ => True) (fun v before _ => ⟨trivial, ?_⟩) visits trivial
  exact ⟨reg.run_visited size v before, consented_visited hreg size v before⟩

/-- A declaration of LDAP servers that would remove them without a question. -/
def unasked : Descriptor :=
  { Ldap.descriptor with actions := [⟨.remove, Message.removeLdap, none, []⟩] }

/-- The removal of an LDAP server, to which the user agrees. -/
def agreedRemoval : Visit (StateM Server) :=
  .act ⟨standardId, some .ldapServer⟩ (.remove " a ") .always

/-- A start with one LDAP server. -/
def oneServer : Sequence × Server := (.start, .ofStore ⟨[], [⟨"a", 389⟩], []⟩)

/-- A removal to which the user agrees is run after the question about the trimmed host name, and a
panel that would not ask is not accepted. -/
theorem removal_consented_ldap :
    (∃ culprit reason, build standardId Message.globalSettings Message.selectView
        [{ Ldap.panel Server.client with descriptor := unasked }] =
      .error (.invalidDescriptor culprit reason)) ∧
    ∃ x ∈ (standard Server.client).session 20 [agreedRemoval] oneServer,
      Effect.ran Ldap.descriptor (.perform (.remove "a")) ∈ x.effects ∧
        (standard Server.client).Consented x Ldap.descriptor "a" := by
  constructor
  · exact (removal_consented _ _ _ _).1 _ List.mem_cons_self
      (.inl ⟨_, List.mem_cons_self, rfl, rfl⟩)
  · have hbuild := build_standardPanels Server.client
    have hopen : (standard Server.client).Judges ⟨standardId, some .ldapServer⟩ (.remove " a ")
        (.admitted (Ldap.panel Server.client)
          ⟨.remove, Message.removeLdap, some Message.confirmRemoveLdap, []⟩ (.remove "a")) := by
      refine .admitted ⟨⟨rfl, .tail _ (.head _), rfl⟩, .tail _ (.head _), rfl⟩ ?_ ?_
      · intro id hid
        cases hid
        decide
      · intro i hi
        cases hi
    have hremoved : Effect.ran Ldap.descriptor (.perform (.remove "a")) ∈
        ((standard Server.client).visited 20 agreedRemoval oneServer).effects := by
      rw [agreedRemoval, (visited_act _ 20 (accepted_of_build hbuild) hopen _ _).2,
        Verdict.effects_course]
      exact List.mem_cons_of_mem _ List.mem_cons_self
    obtain ⟨-, hvisits⟩ :=
      ((removal_consented _ _ _ _).2 _ hbuild).2 20 [agreedRemoval] oneServer
    exact ⟨_, List.mem_cons_self, hremoved, (hvisits _ List.mem_cons_self).2 _ _ hremoved⟩

end Registry

end SettingsConsole
