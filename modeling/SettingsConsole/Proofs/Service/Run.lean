import SettingsConsole.Service.Basic

/-!
# What a request to the service comes to

The service is written with checks, remote calls and the numbering of requests in one sequence of
steps. Here each of its requests is brought into one form: what is decided beforehand, then at most
one operation of a panel, and what becomes of its result and of the counter. A step of a session is
any of these requests, and a session takes steps one after another.
-/

namespace SettingsConsole

variable {m : Type → Type} [Monad m] [LawfulMonad m]

/-- A check that fails ends an operation, and one that passes gives its value to the rest. -/
theorem Panel.run_checked_bind {α β : Type} (x : Except PanelError α)
    (f : α → ExceptT PanelError m β) :
    (checked x >>= f).run =
      match x with
      | .error e => pure (.error e)
      | .ok a => (f a).run := by
  rw [ExceptT.run_bind]
  cases x <;> exact pure_bind _ _

/-- What carrying out a request comes to once the gates have decided. -/
theorem Service.run_act (s : Service m) (nav : Navigation) (r : Request)
    (confirm : Confirmer m) :
    (s.act nav r confirm).run =
      match s.accept nav r with
      | .error e => pure (.error e)
      | .ok a => a.consent confirm >>= fun agreed =>
        if agreed then (a.panel.perform a.request).run else pure (.ok .declined) := by
  rw [act, Panel.run_checked_bind]
  cases s.accept nav r with
  | error e => rfl
  | ok a =>
    refine (ExceptT.run_bind_lift (a.consent confirm) _).trans (bind_congr ?_)
    intro agreed
    cases agreed <;> rfl

namespace Service

/-- An operation of a panel inside a numbered request leaves the counter alone; if it fails, the
request ends. -/
theorem run_numbered_bind {α β : Type} (x : ExceptT PanelError m α) (f : α → NumberedT m β)
    (last : Sequence) :
    (numbered x >>= f).run.run last = x.run >>= fun result =>
      match result with
      | .error e => pure (.error e, last)
      | .ok a => (f a).run.run last := by
  rw [ExceptT.run_bind, StateT.run_bind]
  simp only [numbered, ExceptT.run_mk, StateT.run_lift, bind_assoc, pure_bind]
  refine bind_congr fun result => ?_
  cases result <;> rfl

/-- Numbering a request takes the next number. -/
theorem run_number_bind {β : Type} (f : UInt64 → NumberedT m β) (last : Sequence) :
    (number >>= f).run.run last = (f last.next.1).run.run last.next.2 := by
  rw [number, ExceptT.run_bind_lift, StateT.run_bind, StateT.run_modifyGet]
  exact pure_bind _ _

/-- A check inside a numbered request ends it or gives its value to the rest. -/
theorem run_numbered_checked_bind {α β : Type} (x : Except PanelError α) (f : α → NumberedT m β)
    (last : Sequence) :
    (numbered (Panel.checked x) >>= f).run.run last =
      match x with
      | .error e => pure (.error e, last)
      | .ok a => (f a).run.run last := by
  rw [run_numbered_bind]
  cases x <;> exact pure_bind _ _

/-- The last operation of a panel in a numbered request gives the result of the request. -/
theorem run_numbered_last {α : Type} (x : ExceptT PanelError m α) (n : UInt64) (last : Sequence) :
    (numbered x >>= fun a => (pure ⟨n, a⟩ : NumberedT m (Numbered α))).run.run last =
      (fun result => (result.map (Numbered.mk n), last)) <$> x.run := by
  rw [run_numbered_bind, ← bind_pure_comp]
  refine bind_congr fun result => ?_
  cases result <;> rfl

/-- A listing is refused, or it takes a number and asks the selected panel for one page. -/
theorem run_list (s : Service m) (nav : Navigation) (q : ListQuery) (last : Sequence) :
    (s.list nav q).run.run last =
      match s.selected nav with
      | .error e => pure (.error e, last)
      | .ok p =>
        let paging := Paging.validated ⟨q.page, s.pageSize⟩ Paging.maxSize Paging.one_le_maxSize
        (fun result => (result.map (Numbered.mk last.next.1), last.next.2)) <$>
          (p.list ⟨paging.page, q.search⟩ paging.size).run := by
  rw [list, run_numbered_checked_bind]
  cases s.selected nav with
  | error e => rfl
  | ok p => exact (run_number_bind _ last).trans (run_numbered_last _ _ _)

/-- A detail view is refused, or it takes a number and asks the selected panel for one row. -/
theorem run_detail (s : Service m) (nav : Navigation) (id : String) (last : Sequence) :
    (s.detail nav id).run.run last =
      match s.detailTarget nav id with
      | .error e => pure (.error e, last)
      | .ok (p, id) =>
        (fun result => (result.map (Numbered.mk last.next.1), last.next.2)) <$>
          (p.detail id).run := by
  rw [detail, run_numbered_checked_bind]
  cases s.detailTarget nav id with
  | error e => rfl
  | ok target => exact (run_number_bind _ last).trans (run_numbered_last _ _ _)

/-- The detail view is one of the selected panel. -/
theorem selected_of_detailTarget {m : Type → Type} {s : Service m} {nav : Navigation}
    {id : String} {p : Panel m} {target : String} (h : s.detailTarget nav id = .ok (p, target)) :
    s.selected nav = .ok p := by
  unfold detailTarget at h
  cases hp : s.selected nav with
  | error e => rw [hp] at h; cases h
  | ok p =>
    simp only [hp, bind, Except.bind] at h
    split at h
    · split at h
      · cases h
      · cases h
        rfl
    · cases h

/-- What passes the gates reaches the selected panel. -/
theorem selected_of_accept {m : Type → Type} {s : Service m} {nav : Navigation}
    {r : Request} {a : Accepted m} (h : s.accept nav r = .ok a) : s.selected nav = .ok a.panel := by
  unfold accept at h
  cases hp : s.selected nav with
  | error e => rw [hp] at h; cases h
  | ok p =>
    simp only [hp, bind, Except.bind] at h
    split at h
    · cases h
    · split at h
      · cases h
      · split at h
        · cases h
        · cases h
          rfl

end Service

/-! ## Steps -/

/-- A request to the service, with the answers of the user to its questions. -/
inductive Step where
  | list (nav : Navigation) (q : ListQuery)
  | detail (nav : Navigation) (id : String)
  | act (nav : Navigation) (r : Request) (agrees : Prompt → Bool)

/-- Where the user is with a request. -/
def Step.navigation : Step → Navigation
  | list nav _ | detail nav _ | act nav _ _ => nav

/-- What a request to the service gives if it succeeds. -/
inductive Reply where
  | page (p : Numbered (ListPage Row))
  | row (r : Numbered Row)
  | outcome (o : Outcome)

/-- Carry out any request to the service; the counter of requests is kept. -/
def Service.step (s : Service m) : Step → StateT Sequence m (Except PanelError Reply)
  | .list nav q => Except.map .page <$> (s.list nav q).run
  | .detail nav id => Except.map .row <$> (s.detail nav id).run
  | .act nav r agrees =>
    StateT.lift (Except.map .outcome <$> (s.act nav r fun q => pure (agrees q)).run)

/-- An action whose questions are answered beforehand runs the operation of the panel unless the
user declines. -/
theorem Service.run_act_pure (s : Service m) (nav : Navigation) (r : Request)
    (agrees : Prompt → Bool) :
    (s.act nav r fun q => pure (agrees q)).run =
      match s.accept nav r with
      | .error e => pure (.error e)
      | .ok a =>
        if a.prompt?.all agrees then (a.panel.perform a.request).run
        else pure (.ok .declined) := by
  rw [run_act]
  cases s.accept nav r with
  | error e => rfl
  | ok a =>
    have hconsent : a.consent (fun q => pure (agrees q)) =
        (pure (a.prompt?.all agrees) : m Bool) := by
      unfold Accepted.consent
      cases a.prompt? <;> rfl
    exact (congrArg (· >>= _) hconsent).trans (pure_bind _ _)

/-! ## Steps one after another -/

section Stepwise

variable {ι α τ : Type} {take : ι → α → τ} {after : τ → α}

/-- Take steps one after another, each from where the one before it ended, and keep what each of
them gives. -/
def stepwise (take : ι → α → τ) (after : τ → α) : List ι → α → List τ
  | [], _ => []
  | i :: rest, a => take i a :: stepwise take after rest (after (take i a))

/-- Every step is taken, in its order. -/
theorem map_stepwise {input : τ → ι} (hinput : ∀ i a, input (take i a) = i) (is : List ι) (a : α) :
    (stepwise take after is a).map input = is := by
  induction is generalizing a with
  | nil => rfl
  | cons i is ih => rw [stepwise, List.map_cons, ih, hinput]

/-- What every step keeps for one step less holds before every step, and so does what every step
does because of it. -/
theorem forall_mem_stepwise_of_length (holds : Nat → α → Prop) {does : τ → Prop}
    (hstep : ∀ i n a, holds (n + 1) a → holds n (after (take i a)) ∧ does (take i a)) (is : List ι)
    {a : α} (ha : holds is.length a) : ∀ t ∈ stepwise take after is a, does t := by
  induction is generalizing a with
  | nil => exact fun _ ht => absurd ht List.not_mem_nil
  | cons i is ih =>
    obtain ⟨hafter, hdoes⟩ := hstep i is.length a ha
    intro t ht
    rcases List.mem_cons.mp ht with rfl | ht
    · exact hdoes
    · exact ih hafter t ht

/-- What every step keeps holds before every step, and so does what every step does because of
it. -/
theorem forall_mem_stepwise (holds : α → Prop) {does : τ → Prop}
    (hstep : ∀ i a, holds a → holds (after (take i a)) ∧ does (take i a)) (is : List ι) {a : α}
    (ha : holds a) : ∀ t ∈ stepwise take after is a, does t :=
  forall_mem_stepwise_of_length (fun _ => holds) (fun i _ => hstep i) is ha

end Stepwise

/-! ## Sessions -/

/-- A request of a session, with its result and the state before and after it. -/
structure Turn (σ : Type) where
  step : Step
  before : σ
  result : Except PanelError Reply
  after : σ

namespace Service

variable {σ : Type}

/-- Take one request, and give the counter of requests after it. -/
def turn (s : Service (StateM σ)) (step : Step) (last : Sequence) (st : σ) : Turn σ × Sequence :=
  let ((result, next), after) := ((s.step step).run last).run st
  (⟨step, st, result, after⟩, next)

/-- Take requests one after another. -/
def turns (s : Service (StateM σ)) : List Step → Sequence → σ → List (Turn σ)
  | [], _, _ => []
  | step :: rest, last, st =>
    let (t, next) := s.turn step last st
    t :: s.turns rest next t.after

/-- A listing is refused, or it takes a number and asks the selected panel for one page. -/
theorem turn_list (s : Service (StateM σ)) (nav : Navigation) (q : ListQuery) (last : Sequence)
    (st : σ) :
    s.turn (.list nav q) last st =
      match s.selected nav with
      | .error e => (⟨.list nav q, st, .error e, st⟩, last)
      | .ok p =>
        let paging := Paging.validated ⟨q.page, s.pageSize⟩ Paging.maxSize Paging.one_le_maxSize
        let (result, after) := (p.list ⟨paging.page, q.search⟩ paging.size).run.run st
        (⟨.list nav q, st, result.map fun page => .page ⟨last.next.1, page⟩, after⟩,
          last.next.2) := by
  simp only [turn, step, StateT.run_map, run_list]
  cases s.selected nav with
  | error e => rfl
  | ok p =>
    simp only [StateT.run_map]
    rcases (p.list _ _).run.run st with ⟨result, after⟩
    cases result <;> rfl

/-- A detail view is refused, or it takes a number and asks the selected panel for one row. -/
theorem turn_detail (s : Service (StateM σ)) (nav : Navigation) (id : String) (last : Sequence)
    (st : σ) :
    s.turn (.detail nav id) last st =
      match s.detailTarget nav id with
      | .error e => (⟨.detail nav id, st, .error e, st⟩, last)
      | .ok (p, target) =>
        let (result, after) := (p.detail target).run.run st
        (⟨.detail nav id, st, result.map fun row => .row ⟨last.next.1, row⟩, after⟩,
          last.next.2) := by
  simp only [turn, step, StateT.run_map, run_detail]
  rcases s.detailTarget nav id with e | ⟨p, target⟩
  · rfl
  · simp only [StateT.run_map]
    rcases (p.detail target).run.run st with ⟨result, after⟩
    cases result <;> rfl

/-- An action is refused, or it is declined, or it is carried out by the panel. -/
theorem turn_act (s : Service (StateM σ)) (nav : Navigation) (r : Request)
    (agrees : Prompt → Bool) (last : Sequence) (st : σ) :
    s.turn (.act nav r agrees) last st =
      match s.accept nav r with
      | .error e => (⟨.act nav r agrees, st, .error e, st⟩, last)
      | .ok a =>
        if a.prompt?.all agrees then
          let (result, after) := (a.panel.perform a.request).run.run st
          (⟨.act nav r agrees, st, result.map .outcome, after⟩, last)
        else (⟨.act nav r agrees, st, .ok (.outcome .declined), st⟩, last) := by
  simp only [turn, step, StateT.run_lift, run_act_pure, StateT.run_bind]
  cases s.accept nav r with
  | error e => rfl
  | ok a => by_cases hagreed : a.prompt?.all agrees = true <;> simp only [hagreed] <;> rfl

/-- Every request of a session has its turn. -/
theorem map_step_turns (s : Service (StateM σ)) (steps : List Step) (last : Sequence) (st : σ) :
    (s.turns steps last st).map Turn.step = steps := by
  induction steps generalizing last st with
  | nil => rfl
  | cons step rest ih => rw [turns, List.map_cons, ih]; rfl

/-- What every turn keeps holds before every turn of a session, and so does what every turn does
because of it. -/
theorem forall_mem_turns {s : Service (StateM σ)} (holds : σ → Prop) {does : Turn σ → Prop}
    (hturn : ∀ step last st, holds st →
      holds (s.turn step last st).1.after ∧ does (s.turn step last st).1)
    (steps : List Step) (last : Sequence) {st : σ} (hst : holds st) :
    ∀ t ∈ s.turns steps last st, does t := by
  induction steps generalizing last st with
  | nil => simp [turns]
  | cons step rest ih =>
    obtain ⟨hafter, hdoes⟩ := hturn step last st hst
    intro t ht
    rcases List.mem_cons.mp ht with rfl | ht
    · exact hdoes
    · exact ih _ hafter t ht

end Service

end SettingsConsole
