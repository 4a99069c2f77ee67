import SettingsConsole.Proofs.Server.Shown
import SettingsConsole.Proofs.Service.Run
import SettingsConsole.Proofs.Terminal.Alignment
import SettingsConsole.Terminal.Console

/-!
# The console takes every answer that it gets

Requests take their numbers from the counter of the service, and the console remembers the greatest
number whose response it showed. Some commands take a number and fail, others fail before that, and
others take none. In every run of commands, whatever the server does, the remembered number is never
greater than the last one given, as long as there are numbers. So the response of a request is
always later than what was shown before, and is taken: a console that carries out one command after
another never takes it for one that comes too late. It is shown unless it cannot be laid out.
-/

namespace SettingsConsole

namespace Console

/-- What a listing asks for. A search that is blank is none. -/
def query (page : UInt32) : Option String → ListQuery
  | some text => .searching ⟨page, none⟩ text
  | none => ⟨page, none⟩

section

variable {m : Type → Type} [Monad m]

/-- Make a numbered request and show its response, unless it comes too late. -/
def showing {α : Type} (c : Console m) (r : Resource) (x : NumberedT m (Numbered α))
    (view : Descriptor → α → Option String) : ConsoleT m (Option String) := do
  let response ← requesting x
  match ← taking response with
  | none => pure (some "")
  | some a =>
    let d ← checked (c.descriptor r)
    pure (view d a)

/-- A listing shows the response as a table. -/
theorem execute_list (c : Console m) (panel : String) (page : UInt32) (search : Option String) :
    c.execute (.list panel page search) =
      checked (Command.panelNamed panel) >>= fun r =>
        c.showing r (c.service.list (place r) (query page search)) fun d rows =>
          Terminal.table c.language d rows page := by
  refine bind_congr fun r => ?_
  cases search with
  | none =>
    refine bind_congr fun response => bind_congr fun taken => ?_
    cases taken <;> rfl
  | some text =>
    refine bind_congr fun response => bind_congr fun taken => ?_
    cases taken <;> rfl

/-- A detail view shows the response line by line. -/
theorem execute_detail (c : Console m) (panel id : String) :
    c.execute (.detail panel id) =
      checked (Command.panelNamed panel) >>= fun r =>
        c.showing r (c.service.detail (place r) id) fun d row =>
          Terminal.detail c.language d.detailFields row := by
  refine bind_congr fun r => bind_congr fun response => bind_congr fun taken => ?_
  cases taken <;> rfl

end

/-! ## Numbers -/

variable {σ α β : Type}

/-- A request that takes no number or the next one, and the response carries the number taken. -/
def TakesNext (x : NumberedT (StateM σ) (Numbered α)) : Prop :=
  ∀ last st, ∃ result next st', (x.run.run last).run st = ((result, next), st') ∧
    (next = last ∨ next = last.next.2) ∧
    ∀ response, result = .ok response → next = last.next.2 ∧ response.number = last.next.1

/-- An operation of a panel that is run for a numbered request takes the next number. -/
theorem takesNext_of_run {x : NumberedT (StateM σ) (Numbered α)}
    (op : Sequence → Except PanelError (ExceptT PanelError (StateM σ) α))
    (hrun : ∀ last, x.run.run last =
      match op last with
      | .error e => pure (.error e, last)
      | .ok op => (fun result => (result.map (Numbered.mk last.next.1), last.next.2)) <$> op.run) :
    TakesNext x := by
  intro last st
  rw [hrun]
  cases op last with
  | error e => exact ⟨_, _, _, rfl, .inl rfl, nofun⟩
  | ok op =>
    simp only [StateT.run_map]
    rcases op.run.run st with ⟨result, st'⟩
    refine ⟨_, _, _, rfl, .inr rfl, ?_⟩
    intro response hresponse
    cases result with
    | error e => cases hresponse
    | ok a =>
      cases hresponse
      exact ⟨rfl, rfl⟩

/-- The response of a listing carries the number that it takes. -/
theorem takesNext_list (s : Service (StateM σ)) (nav : Navigation) (q : ListQuery) :
    TakesNext (s.list nav q) := by
  refine takesNext_of_run (fun _ => (s.selected nav).map fun p =>
    let paging := Paging.validated ⟨q.page, s.pageSize⟩ Paging.maxSize Paging.one_le_maxSize
    p.list ⟨paging.page, q.search⟩ paging.size) fun last => ?_
  rw [Service.run_list]
  cases s.selected nav <;> rfl

/-- The response of a detail view carries the number that it takes. -/
theorem takesNext_detail (s : Service (StateM σ)) (nav : Navigation) (id : String) :
    TakesNext (s.detail nav id) := by
  refine takesNext_of_run (fun _ => (s.detailTarget nav id).map fun (p, id) => p.detail id)
    fun last => ?_
  rw [Service.run_detail]
  cases s.detailTarget nav id <;> rfl

/-! ## Commands under way -/

/-- Nothing is remembered of a command, whatever it does. -/
def Steady (x : ConsoleT (StateM σ) α) : Prop := ∀ p st, ((x.run.run p).run st).1.2 = p

/-- A result alone leaves nothing to remember. -/
theorem steady_pure (a : α) : Steady (pure a : ConsoleT (StateM σ) α) := fun _ _ => rfl

/-- A check ends a command, or gives its value to the rest. -/
theorem run_checked_bind (x : Except CommandError α) (f : α → ConsoleT (StateM σ) β) (p : Progress)
    (st : σ) :
    ((checked x >>= f).run.run p).run st =
      match x with
      | .error e => ((.error e, p), st)
      | .ok a => ((f a).run.run p).run st := by
  cases x <;> rfl

/-- A check leaves it to the rest of a command what is remembered. -/
theorem Steady.checked_bind {x : Except CommandError α} {f : α → ConsoleT (StateM σ) β}
    (hf : ∀ a, Steady (f a)) : Steady (checked x >>= f) := by
  intro p st
  rw [run_checked_bind]
  cases x with
  | error e => rfl
  | ok a => exact hf a p st

/-- An action leaves it to the rest of a command what is remembered. -/
theorem Steady.acting_bind {x : ExceptT PanelError (StateM σ) α} {f : α → ConsoleT (StateM σ) β}
    (hf : ∀ a, Steady (f a)) : Steady (acting x >>= f) := by
  intro p st
  simp only [acting, ExceptT.run_bind, ExceptT.run_mk, StateT.run_bind, StateT.run_lift]
  rcases hx : x.run.run st with ⟨result, st'⟩
  cases result with
  | error e => rfl
  | ok a => exact hf a p st'

/-- An action is carried out and shown without a number. -/
theorem steady_act (c : Console (StateM σ)) (r : Resource) (request : Request) (yes : Bool) :
    Steady (c.act r request yes) :=
  .acting_bind fun _ => .checked_bind fun _ => steady_pure _

/-- A numbered request fails, or its response is shown unless it comes too late. -/
theorem run_showing (c : Console (StateM σ)) (r : Resource) (x : NumberedT (StateM σ) (Numbered α))
    (view : Descriptor → α → Option String) (p : Progress) (st : σ) :
    ((c.showing r x view).run.run p).run st =
      match (x.run.run p.requests).run st with
      | ((.error e, requests), st) => ((.error (.failed e), { p with requests := requests }), st)
      | ((.ok response, requests), st) =>
        ((match (p.shown.take response).1 with
          | none => .ok (some "")
          | some a => (c.descriptor r).map fun d => view d a,
          ⟨requests, (p.shown.take response).2⟩), st) := by
  rcases hx : (x.run.run p.requests).run st with ⟨⟨result, requests⟩, st'⟩
  have hrequest : ((requesting x).run.run p).run st =
      ((result.mapError .failed, { p with requests := requests }), st') := by
    refine (StateT.run_bind (x.run.run p.requests) _ st).trans ?_
    rw [hx]
    rfl
  rw [showing, ExceptT.run_bind, StateT.run_bind, StateT.run_bind, hrequest]
  cases result with
  | error e => rfl
  | ok response =>
    have hshown : ∀ (taken : Option α) (shown : Latest),
        (((match taken with
          | none => pure (some "")
          | some a => checked (c.descriptor r) >>= fun d => pure (view d a) :
            ConsoleT (StateM σ) (Option String)).run.run ⟨requests, shown⟩).run st') =
          ((match taken with
            | none => .ok (some "")
            | some a => (c.descriptor r).map fun d => view d a, ⟨requests, shown⟩), st') := by
      intro taken shown
      cases taken with
      | none => rfl
      | some a => cases c.descriptor r <;> rfl
    exact hshown (p.shown.take response).1 (p.shown.take response).2

/-! ## Runs of commands -/

/-- A command of a run, with its result, and what the console remembers and the state of the world
before it and after it. -/
structure Round (σ : Type) where
  command : Command
  before : Progress × σ
  /-- What is shown, if it can be laid out. -/
  result : Except CommandError (Option String)
  after : Progress × σ

/-- Carry out a command. -/
def round (c : Console (StateM σ)) (command : Command) (before : Progress × σ) : Round σ :=
  let ((result, progress), st) := ((c.execute command).run.run before.1).run before.2
  ⟨command, before, result, (progress, st)⟩

/-- Carry out commands one after another. -/
def rounds (c : Console (StateM σ)) : List Command → Progress × σ → List (Round σ) :=
  stepwise c.round (·.after)

/-- Nothing was shown with a greater number than the last one given. -/
def Progress.Ordered (p : Progress) : Prop := p.shown.applied ≤ p.requests.last

/-- A round with a numbered request for a panel fails with the request, or the response of the
request is taken, and the round shows it as far as it can be laid out. -/
def Round.Shows (c : Console (StateM σ)) (x : Round σ) (panel : String)
    (request : Resource → NumberedT (StateM σ) (Numbered α))
    (view : Descriptor → α → Option String) : Prop :=
  ∀ resource, Command.panelNamed panel = .ok resource →
    match (((request resource).run.run x.before.1.requests).run x.before.2).1.1 with
    | .error e => x.result = .error (.failed e)
    | .ok response => (x.before.1.shown.take response).1 = some response.value ∧
        ∃ d, c.descriptor resource = .ok d ∧ x.result = .ok (view d response.value)

/-- The response of a request that succeeds is taken, and the round shows it if it can be laid out.
-/
theorem Round.Shows.of_ok {c : Console (StateM σ)} {x : Round σ} {panel : String}
    {request : Resource → NumberedT (StateM σ) (Numbered α)}
    {view : Descriptor → α → Option String} (h : x.Shows c panel request view) {r : Resource}
    {response : Numbered α} (hpanel : Command.panelNamed panel = .ok r)
    (hresponse : (((request r).run.run x.before.1.requests).run x.before.2).1.1 = .ok response) :
    (x.before.1.shown.take response).1 = some response.value ∧
      ∃ d, c.descriptor r = .ok d ∧ x.result = .ok (view d response.value) := by
  have hshows := h r hpanel
  rwa [hresponse] at hshows

/-- A round with a numbered request for a panel drops its response as one that comes too late. -/
def Round.Drops (x : Round σ) (panel : String)
    (request : Resource → NumberedT (StateM σ) (Numbered α)) : Prop :=
  ∀ resource response, Command.panelNamed panel = .ok resource →
    (((request resource).run.run x.before.1.requests).run x.before.2).1.1 = .ok response →
    x.result = .ok (some "")

/-- What a round does: the order of numbers is kept, at most one more is given, and the response of
a listing or a detail view that succeeds is taken. If it can be laid out, something is shown then: a
listing is never empty, and a detail view is not if one of its fields is visible. -/
structure Round.Proper (c : Console (StateM σ)) (x : Round σ) : Prop where
  ordered : x.after.1.Ordered
  last_le : x.before.1.requests.last.toNat ≤ x.after.1.requests.last.toNat
  le_last : x.after.1.requests.last.toNat ≤ x.before.1.requests.last.toNat + 1
  list : ∀ panel page search, x.command = .list panel page search →
    (x.Shows c panel (fun r => c.service.list (place r) (query page search)) fun d rows =>
      Terminal.table c.language d rows page) ∧ x.result ≠ .ok (some "")
  detail : ∀ panel id, x.command = .detail panel id →
    (x.Shows c panel (fun r => c.service.detail (place r) id) fun d row =>
      Terminal.detail c.language d.detailFields row) ∧
    ∀ r d f, Command.panelNamed panel = .ok r → c.descriptor r = .ok d → f ∈ d.detailFields →
      Terminal.visible f = true → x.result ≠ .ok (some "")

variable {c : Console (StateM σ)}

/-- Where a command for a panel goes is where the console takes the descriptor from. -/
theorem descriptor_of_selected {r : Resource} {p : Panel (StateM σ)}
    (h : c.service.selected (place r) = .ok p) : c.descriptor r = .ok p.descriptor := by
  unfold Service.selected at h
  split at h
  · have hget : c.service.registry.get r = .ok p := h
    rw [descriptor, hget]
    rfl
  · cases h

/-- The panel of a listing that succeeds has a descriptor. -/
theorem exists_descriptor_of_list {r : Resource} {q : ListQuery} {last : Sequence} {st : σ}
    {response : Numbered (ListPage Row)}
    (h : (((c.service.list (place r) q).run.run last).run st).1.1 = .ok response) :
    ∃ d, c.descriptor r = .ok d := by
  rw [Service.run_list] at h
  cases hp : c.service.selected (place r) with
  | error e =>
    rw [hp] at h
    cases h
  | ok p => exact ⟨p.descriptor, descriptor_of_selected hp⟩

/-- The panel of a detail view that succeeds has a descriptor. -/
theorem exists_descriptor_of_detail {r : Resource} {id : String} {last : Sequence} {st : σ}
    {response : Numbered Row}
    (h : (((c.service.detail (place r) id).run.run last).run st).1.1 = .ok response) :
    ∃ d, c.descriptor r = .ok d := by
  rw [Service.run_detail] at h
  cases htarget : c.service.detailTarget (place r) id with
  | error e =>
    rw [htarget] at h
    cases h
  | ok target =>
    obtain ⟨p, id⟩ := target
    exact ⟨p.descriptor, descriptor_of_selected (Service.selected_of_detailTarget htarget)⟩

/-- A numbered request that is shown keeps the order of numbers if there is a next one, and it fails
or its response is taken. -/
theorem ordered_showing {r : Resource} {x : NumberedT (StateM σ) (Numbered α)} (hx : TakesNext x)
    (hdescriptor : ∀ {last st response}, ((x.run.run last).run st).1.1 = .ok response →
      ∃ d, c.descriptor r = .ok d) (view : Descriptor → α → Option String) {p : Progress}
    (hp : p.Ordered) (hlast : p.requests.last.toNat + 1 < 2 ^ 64) (st : σ) :
    let after := ((c.showing r x view).run.run p).run st
    after.1.2.Ordered ∧ p.requests.last.toNat ≤ after.1.2.requests.last.toNat ∧
      after.1.2.requests.last.toNat ≤ p.requests.last.toNat + 1 ∧
      match ((x.run.run p.requests).run st).1.1 with
      | .error e => after.1.1 = .error (.failed e)
      | .ok response => (p.shown.take response).1 = some response.value ∧
          ∃ d, c.descriptor r = .ok d ∧ after.1.1 = .ok (view d response.value) := by
  intro after
  have hafter : after = _ := run_showing c r x view p st
  obtain ⟨result, next, st', hrun, hnext, hnumber⟩ := hx p.requests st
  rw [hafter, hrun]
  have hsucc : p.requests.next.1.toNat = p.requests.last.toNat + 1 := Sequence.toNat_next hlast
  have hmark : p.shown.applied.toNat ≤ p.requests.last.toNat := UInt64.le_iff_toNat_le.mp hp
  have hgrows : p.requests.last.toNat ≤ next.last.toNat ∧
      next.last.toNat ≤ p.requests.last.toNat + 1 := by
    rcases hnext with rfl | rfl
    · exact ⟨Nat.le_refl _, Nat.le_succ _⟩
    · exact ⟨Nat.le_trans (Nat.le_succ _) (Nat.le_of_eq hsucc.symm), Nat.le_of_eq hsucc⟩
  cases result with
  | error e =>
    refine ⟨UInt64.le_iff_toNat_le.mpr ?_, hgrows.1, hgrows.2, rfl⟩
    exact Nat.le_trans hmark hgrows.1
  | ok response =>
    obtain ⟨hnextLast, hresponse⟩ := hnumber response rfl
    -- The number is the next one, so it is later than all that was shown.
    have hlater : p.shown.applied < response.number := by
      rw [UInt64.lt_iff_toNat_lt, hresponse, hsucc]
      exact Nat.lt_succ_of_le hmark
    have htaken : (p.shown.take response).1 = some response.value := by
      rw [Latest.take_fst, if_pos hlater]
    have hordered : (p.shown.take response).2.applied ≤ next.last := by
      have hnumbers : response.number.toNat = next.last.toNat := by rw [hresponse, hnextLast]; rfl
      rw [UInt64.le_iff_toNat_le, Latest.toNat_applied_take, hnumbers]
      exact Nat.max_le.mpr ⟨Nat.le_trans hmark hgrows.1, Nat.le_refl _⟩
    obtain ⟨d, hd⟩ := hdescriptor (congrArg (fun y => y.1.1) hrun)
    refine ⟨hordered, hgrows.1, hgrows.2, htaken, d, hd, ?_⟩
    simp only [htaken, hd]
    rfl

/-- After the greatest number comes zero, and a response with this number is dropped. -/
theorem showing_of_last (c : Console (StateM σ)) {r : Resource}
    {x : NumberedT (StateM σ) (Numbered α)} (hx : TakesNext x)
    (view : Descriptor → α → Option String) {p : Progress}
    (hlast : p.requests.last.toNat + 1 = 2 ^ 64) {st : σ} {response : Numbered α}
    (hresponse : ((x.run.run p.requests).run st).1.1 = .ok response) :
    (((c.showing r x view).run.run p).run st).1.1 = .ok (some "") := by
  obtain ⟨result, next, st', hrun, -, hnumber⟩ := hx p.requests st
  rw [run_showing, hrun]
  rw [hrun] at hresponse
  obtain rfl : result = .ok response := hresponse
  have hzero : response.number.toNat = 0 := by
    rw [(hnumber response rfl).2, Sequence.next, UInt64.toNat_add]
    change (p.requests.last.toNat + 1) % 2 ^ 64 = 0
    rw [hlast, Nat.mod_self]
  have hdropped : (p.shown.take response).1 = none := by
    rw [Latest.take_fst, if_neg]
    rw [UInt64.lt_iff_toNat_lt, hzero]
    exact Nat.not_lt_zero _
  simp only [hdropped]

/-- A command that remembers nothing, and is neither a listing nor a detail view, is proper. -/
theorem proper_of_steady {command : Command} (hsteady : Steady (c.execute command))
    (hlist : ∀ panel page search, command ≠ .list panel page search)
    (hdetail : ∀ panel id, command ≠ .detail panel id) {before : Progress × σ}
    (hbefore : before.1.Ordered) : (c.round command before).Proper c := by
  have hafter : (c.round command before).after.1 = before.1 := hsteady before.1 before.2
  constructor
  · rw [hafter]
    exact hbefore
  · rw [hafter]
    exact Nat.le_refl _
  · rw [hafter]
    exact Nat.le_succ _
  · exact fun panel page search h => absurd h (hlist panel page search)
  · exact fun panel id h => absurd h (hdetail panel id)

section

variable {command : Command} {panel : String}
variable {request : Resource → NumberedT (StateM σ) (Numbered α)}
variable {view : Descriptor → α → Option String}
variable (hexecute : c.execute command =
  checked (Command.panelNamed panel) >>= fun r => c.showing r (request r) view)
include hexecute

/-- A round with a numbered request for a panel ends if there is no such panel, and otherwise goes
on with the request. -/
theorem round_eq (before : Progress × σ) :
    c.round command before =
      match Command.panelNamed panel with
      | .error e => ⟨command, before, .error e, before⟩
      | .ok r =>
        let shown := ((c.showing r (request r) view).run.run before.1).run before.2
        ⟨command, before, shown.1.1, (shown.1.2, shown.2)⟩ := by
  rw [round, hexecute, run_checked_bind]
  cases Command.panelNamed panel <;> rfl

/-- A round that carries out a numbered request for a panel keeps the order of numbers, and fails or
shows the response. -/
theorem round_showing (hrequest : ∀ r, TakesNext (request r))
    (hdescriptor : ∀ {r last st response},
      (((request r).run.run last).run st).1.1 = .ok response → ∃ d, c.descriptor r = .ok d)
    {before : Progress × σ} (hbefore : before.1.Ordered)
    (hlast : before.1.requests.last.toNat + 1 < 2 ^ 64) :
    let x := c.round command before
    x.after.1.Ordered ∧ x.before.1.requests.last.toNat ≤ x.after.1.requests.last.toNat ∧
      x.after.1.requests.last.toNat ≤ x.before.1.requests.last.toNat + 1 ∧
      x.Shows c panel request view ∧
      ∀ text, x.result = .ok text → ∃ r d a, Command.panelNamed panel = .ok r ∧
        c.descriptor r = .ok d ∧ text = view d a := by
  intro x
  have hx : x = _ := round_eq hexecute before
  cases hpanel : Command.panelNamed panel with
  | error e =>
    rw [hpanel] at hx
    rw [hx]
    exact ⟨hbefore, Nat.le_refl _, Nat.le_succ _,
      fun r hr => absurd (hpanel.symm.trans hr) nofun, nofun⟩
  | ok r =>
    rw [hpanel] at hx
    obtain ⟨hordered, hle, hge, hresult⟩ :=
      ordered_showing (hrequest r) hdescriptor view hbefore hlast before.2
    rw [hx]
    refine ⟨hordered, hle, hge, ?_, ?_⟩
    · intro other hother
      obtain rfl : r = other := Except.ok.inj (hpanel.symm.trans hother)
      exact hresult
    · intro text htext
      split at hresult
      · cases hresult.symm.trans htext
      · obtain ⟨-, d, hd, hview⟩ := hresult
        exact ⟨r, d, _, rfl, hd, Except.ok.inj (htext.symm.trans hview)⟩

/-- A round with a numbered request for a panel drops the response if there is no greater number. -/
theorem drops_of_last (hrequest : ∀ r, TakesNext (request r)) {before : Progress × σ}
    (hlast : before.1.requests.last.toNat + 1 = 2 ^ 64) :
    (c.round command before).Drops panel request := by
  intro r response hpanel hresponse
  have hround : c.round command before = _ := round_eq hexecute before
  rw [hpanel] at hround
  rw [hround] at hresponse ⊢
  exact showing_of_last c (hrequest r) view hlast hresponse

end

/-- Every command is proper if the order of numbers held before it, and there is a next number. -/
theorem proper_round (c : Console (StateM σ)) (command : Command) {before : Progress × σ}
    (hbefore : before.1.Ordered) (hlast : before.1.requests.last.toNat + 1 < 2 ^ 64) :
    (c.round command before).Proper c := by
  cases command with
  | sections =>
    refine proper_of_steady ?_ (fun _ _ _ h => by cases h) (fun _ _ h => by cases h) hbefore
    exact steady_pure _
  | edit panel id values yes =>
    refine proper_of_steady ?_ (fun _ _ _ h => by cases h) (fun _ _ h => by cases h) hbefore
    exact .checked_bind fun r => .checked_bind fun values => steady_act c r _ yes
  | add panel values yes =>
    refine proper_of_steady ?_ (fun _ _ _ h => by cases h) (fun _ _ h => by cases h) hbefore
    exact .checked_bind fun r => .checked_bind fun values => steady_act c r _ yes
  | remove panel id yes =>
    refine proper_of_steady ?_ (fun _ _ _ h => by cases h) (fun _ _ h => by cases h) hbefore
    exact .checked_bind fun r => steady_act c r _ yes
  | list panel page search =>
    obtain ⟨hordered, hle, hge, hshows, htext⟩ := round_showing
      (execute_list c panel page search) (fun r => takesNext_list c.service (place r) _)
      exists_descriptor_of_list hbefore hlast
    refine ⟨hordered, hle, hge, ?_, fun _ _ => nofun⟩
    intro panel' page' search' h
    cases h
    refine ⟨hshows, fun hempty => ?_⟩
    obtain ⟨-, d, rows, -, -, htable⟩ := htext (some "") hempty
    exact Terminal.table_ne_empty _ _ _ _ htable.symm
  | detail panel id =>
    obtain ⟨hordered, hle, hge, hshows, htext⟩ := round_showing
      (execute_detail c panel id) (fun r => takesNext_detail c.service (place r) id)
      exists_descriptor_of_detail hbefore hlast
    refine ⟨hordered, hle, hge, fun _ _ _ => nofun, ?_⟩
    intro panel' id' h
    cases h
    refine ⟨hshows, fun r d f hpanel hd hf hvisible hempty => ?_⟩
    obtain ⟨r', d', row, hpanel', hd', hdetail⟩ := htext (some "") hempty
    obtain rfl : r = r' := Except.ok.inj (hpanel.symm.trans hpanel')
    obtain rfl : d = d' := Except.ok.inj (hd.symm.trans hd')
    exact Terminal.detail_ne_empty _ hf hvisible _ hdetail.symm

/-- A console never takes a response for one that comes too late, as long as there are numbers. In
every run of commands, whatever the panels and the server do, the greatest number shown is never
greater than the last one given, and the response of every listing and detail view that succeeds is
taken. It is shown, as a table or line by line, unless a title or a cell of a table is too long to
be laid out. Every command takes one number at most, so that the numbers are no more than the
commands; after the greatest number, though, the next response is dropped. -/
theorem never_stale (c : Console (StateM σ)) (commands : List Command) (start : Progress × σ)
    (hstart : start.1.shown.applied ≤ start.1.requests.last)
    (hfew : start.1.requests.last.toNat + commands.length < 2 ^ 64) :
    (c.rounds commands start).map (·.command) = commands ∧
      (∀ x ∈ c.rounds commands start, x.Proper c) ∧
      (∀ d page number, Terminal.table c.language d page number = none ↔
        page.items ≠ [] ∧ ¬ Terminal.Fits c.language d page.items) ∧
      (∀ fields row, Terminal.detail c.language fields row = none ↔
        ¬ Terminal.TitlesFit c.language fields) ∧
      ∀ before : Progress × σ, before.1.requests.last.toNat + 1 = 2 ^ 64 →
        (∀ panel page search, (c.round (.list panel page search) before).Drops panel fun r =>
          c.service.list (place r) (query page search)) ∧
        ∀ panel id, (c.round (.detail panel id) before).Drops panel fun r =>
          c.service.detail (place r) id := by
  refine ⟨map_stepwise (fun _ _ => rfl) commands start, ?_, Terminal.table_eq_none_iff c.language,
    Terminal.detail_eq_none_iff c.language, fun before hlast => ⟨?_, ?_⟩⟩
  · refine forall_mem_stepwise_of_length
      (fun n before => before.1.Ordered ∧ before.1.requests.last.toNat + n < 2 ^ 64) ?_ commands
      ⟨hstart, hfew⟩
    intro command n before hbefore
    have hproper := proper_round c command hbefore.1 (by omega)
    refine ⟨⟨hproper.ordered, ?_⟩, hproper⟩
    have hle : _ ≤ before.1.requests.last.toNat + 1 := hproper.le_last
    omega
  · intro panel page search
    exact drops_of_last (execute_list c panel page search)
      (fun r => takesNext_list c.service (place r) _) hlast
  · intro panel id
    exact drops_of_last (execute_detail c panel id)
      (fun r => takesNext_detail c.service (place r) id) hlast

/-- A console over a new in-memory server. -/
def overServer : Console (StateM Server) :=
  ⟨.new (Registry.standard Server.client) 20, .english, fun _ => pure none⟩

/-- After a listing and a command that fails, the response of the next listing is taken. -/
theorem never_stale_third :
    ∃ x ∈ overServer.rounds [.list "global" 1 none, .detail "nowhere" "a", .list "global" 1 none]
        (.start, .ofStore .initial),
      x.before.1.shown.applied = 1 ∧ x.after.1.shown.applied = 2 ∧
        x.result = .ok (Terminal.table .english Settings.descriptor .empty 1) := by
  obtain ⟨-, hproper, -⟩ := never_stale overServer
    [.list "global" 1 none, .detail "nowhere" "a", .list "global" 1 none]
    (.start, .ofStore .initial) (UInt64.le_refl 0) (by decide)
  have hlist := (hproper _ (.tail _ (.tail _ (.head _)))).list "global" 1 none rfl
  have hpanel : Command.panelNamed "global" = .ok .setting := by rfl
  obtain ⟨-, d, hd, hresult⟩ := hlist.1 .setting hpanel
  cases hd
  exact ⟨_, .tail _ (.tail _ (.head _)), rfl, rfl, hresult⟩

/-- The response of a listing with a description that is too long is taken, but nothing can be
shown. -/
theorem taken_not_shown :
    let before : Progress × Server := (.start, .ofStore ⟨[Terminal.longDescription], [], []⟩)
    let list := overServer.service.list (place .setting) (query 1 none)
    ∃ x ∈ overServer.rounds [.list "global" 1 none] before, ∃ response,
      ((list.run.run before.1.requests).run before.2).1.1 = .ok response ∧
        (before.1.shown.take response).1 = some response.value ∧ x.result = .ok none := by
  intro before list
  have hplain : before.2.Plain := Server.plain_ofStore _
  obtain ⟨call, hpage⟩ := hplain.run_list_all .setting 1 20
  have hrows : Paging.slice (max (1 : UInt32).toNat 1) (Server.perPage 20)
      (before.2.store.rows .setting) = [Terminal.longDescription.toRow] := rfl
  have hresponse : ((list.run.run before.1.requests).run before.2).1.1 =
      .ok ⟨1, ⟨[Terminal.longDescription.toRow], some 1⟩⟩ := by
    rw [hrows] at hpage
    have hrun := congrArg (fun y => (y.run before.2).1.1)
      (Service.run_list overServer.service (place .setting) (query 1 none) before.1.requests)
    refine hrun.trans ?_
    exact congrArg (fun y => Except.map (Numbered.mk 1) y.1) hpage
  have hordered : before.1.Ordered := UInt64.le_refl 0
  have hproper := proper_round overServer (.list "global" 1 none) hordered (by decide)
  obtain ⟨htaken, d, hd, hresult⟩ := (hproper.list "global" 1 none rfl).1.of_ok rfl hresponse
  cases hd
  refine ⟨_, .head _, _, hresponse, htaken, hresult.trans ?_⟩
  exact congrArg Except.ok (Terminal.table_of_long_description rfl Terminal.length_longDescription
    .english (some 1) 1)

end Console

end SettingsConsole
