import Mathlib.Algebra.Group.Nat.Defs
import Mathlib.Data.List.Nodup
import Mathlib.Data.List.Perm.Basic
import Mathlib.Data.List.Range
import SettingsConsole.Proofs.Service.Run
import SettingsConsole.Server

/-!
# Responses in any order

Listings and detail views are issued one after another, and each takes the next number. They finish
in any order, or fail, or never finish, while the server goes its own way. The responses are
delivered in any order, some of them never and some repeatedly. Whatever the order, what is shown is
the response of the latest request among those delivered so far, and a response is refused only if
one of the same request or of a later one was delivered before.
-/

namespace SettingsConsole

/-! ## Deliveries -/

/-- The delivery of a response: what was taken of it, and the mark after it. -/
structure Delivery (α : Type) where
  response : Numbered α
  taken : Option α
  /-- The greatest number taken, or zero. -/
  applied : UInt64

/-- The delivery of a response to what has been shown so far. -/
def Latest.delivery {α : Type} (l : Latest) (r : Numbered α) : Delivery α :=
  ⟨r, (l.take r).1, (l.take r).2.applied⟩

namespace Delivery

variable {α : Type}

/-- The greatest number delivered, or zero. -/
def newest (log : List (Delivery α)) : Nat := (log.map (·.response.number.toNat)).foldl max 0

/-- The numbers of the responses that were taken. -/
def accepted (log : List (Delivery α)) : List Nat :=
  (log.filter (·.taken.isSome)).map (·.response.number.toNat)

/-- What was taken last. -/
def shown (log : List (Delivery α)) : Option α := (log.filterMap (·.taken)).getLast?

/-- Deliveries in the order of time, and what has been shown by them. -/
inductive Log : List (Delivery α) → Latest → Prop where
  /-- Nothing was delivered. -/
  | start : Log [] .start
  /-- One more response is delivered. -/
  | deliver {log : List (Delivery α)} {l : Latest} (h : Log log l) (r : Numbered α) :
      Log (log ++ [l.delivery r]) (l.take r).2

/-- One more delivery raises the greatest number to its own at least. -/
theorem newest_append_singleton (log : List (Delivery α)) (x : Delivery α) :
    newest (log ++ [x]) = max (newest log) x.response.number.toNat := by
  simp only [newest, List.map_append, List.map_cons, List.map_nil, List.foldl_append,
    List.foldl_cons, List.foldl_nil]

/-- The greatest number is less than a positive one exactly if all numbers are. -/
theorem newest_lt_iff {log : List (Delivery α)} {n : Nat} (hn : 0 < n) :
    newest log < n ↔ ∀ y ∈ log, y.response.number.toNat < n := by
  induction log using List.reverseRecOn with
  | nil => simp [newest, hn]
  | append_singleton log x ih =>
    rw [newest_append_singleton, Nat.max_lt, ih]
    simp only [List.mem_append, List.mem_singleton, or_imp, forall_and, forall_eq]

/-- The mark is the greatest number delivered. -/
theorem Log.applied_eq {log : List (Delivery α)} {l : Latest} (h : Log log l) :
    l.applied.toNat = newest log := by
  induction h with
  | start => rfl
  | deliver h r ih =>
    rw [newest_append_singleton, ← ih]
    exact Latest.toNat_applied_take _ r

/-- A number is later than the mark exactly if it is later than everything delivered. -/
theorem Log.applied_lt_iff {log : List (Delivery α)} {l : Latest} (h : Log log l) {n : UInt64}
    (hn : 0 < n.toNat) : l.applied < n ↔ ∀ y ∈ log, y.response.number < n := by
  simp only [UInt64.lt_iff_toNat_lt]
  rw [h.applied_eq]
  exact newest_lt_iff hn

/-- Every delivery was one to what had been shown by the deliveries before. -/
theorem Log.split {log before after : List (Delivery α)} {x : Delivery α} {l : Latest}
    (h : Log log l) (hsplit : log = before ++ x :: after) :
    ∃ l' : Latest, Log before l' ∧ x = l'.delivery x.response := by
  induction h generalizing after with
  | start => exact absurd hsplit (by simp)
  | @deliver log l h r ih =>
    -- The last delivery is the one in question unless something comes after that one.
    induction after using List.reverseRecOn with
    | nil =>
      obtain ⟨rfl, hx⟩ := List.append_inj' hsplit rfl
      obtain rfl := List.singleton_inj.mp hx
      exact ⟨l, h, rfl⟩
    | append_singleton after y _ =>
      have hlast : log ++ [l.delivery r] = (before ++ x :: after) ++ [y] := by
        rw [hsplit, List.append_assoc, List.cons_append]
      obtain ⟨hrest, -⟩ := List.append_inj' hlast rfl
      exact ih hrest

/-- What one more delivery adds to the numbers that were taken and to what is shown. -/
theorem append_delivery (log : List (Delivery α)) (l : Latest) (r : Numbered α) :
    accepted (log ++ [l.delivery r]) =
        (if l.applied < r.number then accepted log ++ [r.number.toNat] else accepted log) ∧
      shown (log ++ [l.delivery r]) =
        if l.applied < r.number then some r.value else shown log := by
  have htaken : (l.delivery r).taken = if l.applied < r.number then some r.value else none :=
    l.take_fst r
  have hresponse : (l.delivery r).response = r := rfl
  simp only [accepted, shown, List.filter_append, List.filterMap_append, List.map_append,
    List.filter_cons, List.filterMap_cons, List.filter_nil, List.filterMap_nil, htaken]
  by_cases hfresh : l.applied < r.number
  · simp [hfresh, hresponse]
  · simp [hfresh]

/-- The numbers that were taken increase, up to the mark. -/
theorem Log.pairwise_accepted {log : List (Delivery α)} {l : Latest} (h : Log log l) :
    (accepted log).Pairwise (· < ·) ∧ ∀ n ∈ accepted log, n ≤ l.applied.toNat := by
  induction h with
  | start => exact ⟨List.Pairwise.nil, nofun⟩
  | @deliver log l h r ih =>
    obtain ⟨hincreasing, hbound⟩ := ih
    rw [(append_delivery log l r).1, Latest.toNat_applied_take]
    split
    · next hfresh =>
      rw [UInt64.lt_iff_toNat_lt] at hfresh
      constructor
      · refine List.pairwise_append.mpr ⟨hincreasing, List.pairwise_singleton _ _, ?_⟩
        intro n hn k hk
        rw [List.mem_singleton.mp hk]
        exact Nat.lt_of_le_of_lt (hbound n hn) hfresh
      · intro n hn
        rcases List.mem_append.mp hn with hn | hn
        · exact Nat.le_trans (hbound n hn) (Nat.le_max_left _ _)
        · rw [List.mem_singleton.mp hn]
          exact Nat.le_max_right _ _
    · exact ⟨hincreasing, fun n hn => Nat.le_trans (hbound n hn) (Nat.le_max_left _ _)⟩

/-- What was taken last is the value of a response with the greatest number delivered. -/
theorem Log.exists_shown {log : List (Delivery α)} {l : Latest} (h : Log log l)
    (hpos : ∀ y ∈ log, 0 < y.response.number.toNat) (hne : log ≠ []) :
    ∃ y ∈ log, y.response.number.toNat = newest log ∧ shown log = some y.response.value := by
  induction h with
  | start => exact absurd rfl hne
  | @deliver log l h r ih =>
    rw [newest_append_singleton, (append_delivery log l r).2]
    change ∃ y ∈ log ++ [l.delivery r],
      y.response.number.toNat = max (newest log) r.number.toNat ∧ _
    have hr : 0 < r.number.toNat := hpos _ (List.mem_append_right _ List.mem_cons_self)
    have hmark : l.applied < r.number ↔ newest log < r.number.toNat := by
      rw [UInt64.lt_iff_toNat_lt, h.applied_eq]
    by_cases hfresh : l.applied < r.number
    · refine ⟨l.delivery r, List.mem_append_right _ List.mem_cons_self, ?_, if_pos hfresh⟩
      exact (Nat.max_eq_right (Nat.le_of_lt (hmark.mp hfresh))).symm
    · -- What is refused is not later than something in the log, so the log is not empty.
      rw [if_neg hfresh]
      have hlog : log ≠ [] := by
        intro hnil
        rw [hmark, hnil] at hfresh
        exact hfresh hr
      obtain ⟨y, hy, hnewest, hshown⟩ := ih (fun y hy => hpos y (List.mem_append_left _ hy)) hlog
      refine ⟨y, List.mem_append_left _ hy, ?_, hshown⟩
      rw [hnewest, Nat.max_eq_left (Nat.not_lt.mp (mt hmark.mpr hfresh))]

/-- What holds of one delivery in a log, given the deliveries before it: the mark after it is the
greatest number so far, what is shown is the response with this number, and the response is taken,
with its own value, unless one that is not earlier came before it. -/
structure Ordered (before : List (Delivery α)) (x : Delivery α) : Prop where
  applied : x.applied.toNat = newest (before ++ [x])
  shown : ∃ y ∈ before ++ [x], y.response.number = x.applied ∧
    Delivery.shown (before ++ [x]) = some y.response.value
  taken : ∀ a, x.taken = some a ↔
    a = x.response.value ∧ ∀ y ∈ before, y.response.number < x.response.number
  refused : x.taken = none ↔ ∃ y ∈ before, x.response.number ≤ y.response.number

/-- Every delivery of responses with positive numbers is ordered. -/
theorem Log.ordered {log before after : List (Delivery α)} {x : Delivery α} {l : Latest}
    (h : Log log l) (hpos : ∀ y ∈ log, 0 < y.response.number.toNat)
    (hsplit : log = before ++ x :: after) : Ordered before x := by
  obtain ⟨l', hbefore, hx⟩ := h.split hsplit
  have hlog : Log (before ++ [x]) (l'.take x.response).2 := by
    rw [hx]
    exact hbefore.deliver x.response
  have happlied : x.applied.toNat = newest (before ++ [x]) := by
    rw [← hlog.applied_eq, hx]
    rfl
  have hmem : ∀ y ∈ before ++ [x], y ∈ log := by
    intro y hy
    rw [hsplit, ← List.singleton_append, ← List.append_assoc]
    exact List.mem_append_left _ hy
  have hfresh : l'.applied < x.response.number ↔
      ∀ y ∈ before, y.response.number < x.response.number :=
    hbefore.applied_lt_iff (hpos x (hmem x (List.mem_append_right _ List.mem_cons_self)))
  have htaken : x.taken =
      if l'.applied < x.response.number then some x.response.value else none := by
    rw [hx]
    exact l'.take_fst x.response
  refine ⟨happlied, ?_, fun a => ?_, ?_⟩
  · obtain ⟨y, hy, hnewest, hshown⟩ :=
      hlog.exists_shown (fun y hy => hpos y (hmem y hy)) (by simp)
    exact ⟨y, hy, UInt64.toNat.inj (hnewest.trans happlied.symm), hshown⟩
  · rw [htaken, ← hfresh]
    by_cases hlt : l'.applied < x.response.number
    · simp [hlt, eq_comm]
    · simp [hlt]
  · have hstale : (∃ y ∈ before, x.response.number ≤ y.response.number) ↔
        ¬ l'.applied < x.response.number := by
      rw [hfresh]
      simp only [not_forall, UInt64.not_lt, exists_prop]
    rw [htaken, hstale]
    by_cases hlt : l'.applied < x.response.number
    · simp [hlt]
    · simp [hlt]

end Delivery

/-! ## Requests on the way -/

/-- A request whose response is numbered. -/
inductive Fetch where
  | list (nav : Navigation) (q : ListQuery)
  | detail (nav : Navigation) (id : String)

/-- What a numbered response shows. -/
inductive View where
  | page (p : ListPage Row)
  | row (r : Row)

namespace Service

/-- Carry out a request whose response is numbered. -/
def fetch {m : Type → Type} [Monad m] (s : Service m) : Fetch → NumberedT m (Numbered View)
  | .list nav q => (fun r => ⟨r.number, .page r.value⟩) <$> s.list nav q
  | .detail nav id => (fun r => ⟨r.number, .row r.value⟩) <$> s.detail nav id

/-- The operation of a panel that a request comes to, unless it is refused before it is numbered. -/
def operation {m : Type → Type} [Monad m] (s : Service m) :
    Fetch → Except PanelError (ExceptT PanelError m View)
  | .list nav q => (s.selected nav).map fun p =>
    let paging := Paging.validated ⟨q.page, s.pageSize⟩ Paging.maxSize Paging.one_le_maxSize
    View.page <$> p.list ⟨paging.page, q.search⟩ paging.size
  | .detail nav id => (s.detailTarget nav id).map fun (p, id) => View.row <$> p.detail id

/-- What is made of a numbered response may as well be made of it before it is numbered. -/
theorem map_numbered {m : Type → Type} [Monad m] [LawfulMonad m] {α : Type} (view : α → View)
    (op : ExceptT PanelError m α) (n : UInt64) (next : Sequence) :
    (fun p : Except PanelError (Numbered α) × Sequence =>
        (p.1.map fun r => (⟨r.number, view r.value⟩ : Numbered View), p.2)) <$>
      ((fun result => (result.map (Numbered.mk n), next)) <$> op.run) =
      (fun result => (result.map (Numbered.mk n), next)) <$> (view <$> op).run := by
  rw [ExceptT.run_map, Functor.map_map, Functor.map_map]
  refine congrArg (· <$> op.run) (funext fun result => ?_)
  cases result <;> rfl

/-- A request is refused, or it takes a number and runs its operation. -/
theorem run_fetch {m : Type → Type} [Monad m] [LawfulMonad m] (s : Service m) (f : Fetch)
    (last : Sequence) :
    (s.fetch f).run.run last =
      match s.operation f with
      | .error e => pure (.error e, last)
      | .ok op =>
        (fun result => (result.map (Numbered.mk last.next.1), last.next.2)) <$> op.run := by
  cases f with
  | list nav q =>
    simp only [fetch, operation, ExceptT.run_map, StateT.run_map, run_list]
    cases s.selected nav with
    | error e => exact map_pure _ _
    | ok p => exact map_numbered .page _ _ _
  | detail nav id =>
    simp only [fetch, operation, ExceptT.run_map, StateT.run_map, run_detail]
    cases s.detailTarget nav id with
    | error e => exact map_pure _ _
    | ok target => exact map_numbered .row _ _ _

/-- The response gives what the request of its number came to in some state of the server. -/
def Answers {σ : Type} (s : Service (StateM σ)) (issued : List (Numbered Fetch))
    (r : Numbered View) : Prop :=
  ∃ f op st, ⟨r.number, f⟩ ∈ issued ∧ s.operation f = .ok op ∧ (op.run.run st).1 = .ok r.value

end Service

/-- What can happen next. -/
inductive Event (σ : Type) where
  /-- A request is issued. -/
  | issue (f : Fetch)
  /-- A request that is in flight finishes. -/
  | finish (position : Nat)
  /-- A response is delivered, perhaps not for the first time. -/
  | deliver (position : Nat)
  /-- The server comes to another state. -/
  | change (st : σ)

/-- Whether a request is issued. -/
def Event.isIssue {σ : Type} : Event σ → Bool
  | .issue _ => true
  | _ => false

/-- The requests of one service on their way, and where their responses are shown. -/
structure Desk (σ : Type) where
  server : σ
  counter : Sequence
  /-- All requests that have a number, in the order of issue. -/
  issued : List (Numbered Fetch)
  /-- The operations that have not finished. -/
  inFlight : List (Numbered (ExceptT PanelError (StateM σ) View))
  /-- The responses of the requests that succeeded, in the order of completion. -/
  responses : List (Numbered View)
  latest : Latest
  deliveries : List (Delivery View)

namespace Desk

variable {σ : Type} (s : Service (StateM σ))

/-- No request yet. -/
def start (server : σ) : Desk σ := ⟨server, .start, [], [], [], .start, []⟩

/-- Issue a request. A request that is refused before it has a number leaves no trace. -/
def issue (d : Desk σ) (f : Fetch) : Desk σ :=
  match s.operation f with
  | .error _ => d
  | .ok op =>
    { d with
      counter := d.counter.next.2
      issued := d.issued ++ [⟨d.counter.next.1, f⟩]
      inFlight := d.inFlight ++ [⟨d.counter.next.1, op⟩] }

/-- Finish a request. There is a response unless it fails. -/
def finish (d : Desk σ) (position : Nat) : Desk σ :=
  match d.inFlight[position]? with
  | none => d
  | some r =>
    let outcome := r.value.run.run d.server
    let d := { d with server := outcome.2, inFlight := d.inFlight.eraseIdx position }
    match outcome.1 with
    | .error _ => d
    | .ok view => { d with responses := d.responses ++ [⟨r.number, view⟩] }

/-- Deliver a response. -/
def deliver (d : Desk σ) (position : Nat) : Desk σ :=
  match d.responses[position]? with
  | none => d
  | some r =>
    { d with
      latest := (d.latest.take r).2
      deliveries := d.deliveries ++ [d.latest.delivery r] }

/-- What happens by an event. Positions that are out of range stand for nothing. -/
def step (d : Desk σ) : Event σ → Desk σ
  | .issue f => d.issue s f
  | .finish position => d.finish position
  | .deliver position => d.deliver position
  | .change st => { d with server := st }

/-- What happens by one event after another. -/
def run (d : Desk σ) (events : List (Event σ)) : Desk σ := events.foldl (step s) d

/-- A request that finishes as soon as it is issued is carried out as by the service alone. -/
theorem run_issue_finish (d : Desk σ) (f : Fetch) :
    let d' := d.run s [.issue f, .finish d.inFlight.length]
    let r := ((s.fetch f).run.run d.counter).run d.server
    d'.counter = r.1.2 ∧ d'.server = r.2 ∧ d'.responses = d.responses ++ r.1.1.toOption.toList := by
  intro d' r
  have hr : r = _ := congrArg (fun x => StateT.run x d.server) (s.run_fetch f d.counter)
  have hd : d' = (d.issue s f).finish d.inFlight.length := rfl
  rw [hr, hd]
  cases hop : s.operation f with
  | error e =>
    simp only [issue, finish, hop, List.getElem?_length]
    exact ⟨rfl, rfl, (List.append_nil _).symm⟩
  | ok op =>
    simp only [issue, finish, hop, List.getElem?_concat_length, StateT.run_map]
    rcases op.run.run d.server with ⟨result, server⟩
    cases result with
    | error e => exact ⟨rfl, rfl, (List.append_nil _).symm⟩
    | ok view => exact ⟨rfl, rfl, rfl⟩

/-- What holds of the requests on their way in any order. -/
structure Orderly (d : Desk σ) : Prop where
  /-- The numbers are given from one upwards. -/
  issued : d.issued.map (·.number.toNat) = List.range' 1 d.counter.last.toNat
  /-- No two operations or responses have the same number. -/
  nodup : (d.inFlight.map (·.number) ++ d.responses.map (·.number)).Nodup
  /-- Every operation in flight is that of the request of its number. -/
  inFlight : ∀ r ∈ d.inFlight, ∃ f, ⟨r.number, f⟩ ∈ d.issued ∧ s.operation f = .ok r.value
  /-- Every response is one to the request of its number. -/
  responses : ∀ r ∈ d.responses, s.Answers d.issued r
  /-- Nothing but responses is delivered. -/
  delivered : ∀ x ∈ d.deliveries, x.response ∈ d.responses
  /-- The mark is the one that the deliveries leave. -/
  log : Delivery.Log d.deliveries d.latest

namespace Orderly

variable {s} {d : Desk σ}

/-- Nothing has happened at the start. -/
theorem start (server : σ) : Orderly s (.start server) :=
  ⟨rfl, List.nodup_nil, nofun, nofun, nofun, .start⟩

/-- The number of a request is in the range of those given. -/
theorem number_mem (h : Orderly s d) {n : UInt64} {f : Fetch} (hf : ⟨n, f⟩ ∈ d.issued) :
    1 ≤ n.toNat ∧ n.toNat ≤ d.counter.last.toNat := by
  have hn : n.toNat ∈ d.issued.map (·.number.toNat) := List.mem_map.mpr ⟨_, hf, rfl⟩
  rw [h.issued, List.mem_range'_1] at hn
  omega

/-- Operations and responses have numbers in the range of those given. -/
theorem number_mem_of_mem (h : Orderly s d) {n : UInt64}
    (hn : n ∈ d.inFlight.map (·.number) ++ d.responses.map (·.number)) :
    1 ≤ n.toNat ∧ n.toNat ≤ d.counter.last.toNat := by
  rcases List.mem_append.mp hn with hn | hn
  · obtain ⟨r, hr, rfl⟩ := List.mem_map.mp hn
    obtain ⟨f, hf, -⟩ := h.inFlight r hr
    exact h.number_mem hf
  · obtain ⟨r, hr, rfl⟩ := List.mem_map.mp hn
    obtain ⟨f, -, -, hf, -⟩ := h.responses r hr
    exact h.number_mem hf

/-- The next request has a number that no other has. -/
theorem issue (h : Orderly s d) (hlast : d.counter.last.toNat + 1 < 2 ^ 64) (f : Fetch) :
    Orderly s (d.issue s f) := by
  cases hop : s.operation f with
  | error e =>
    rw [show d.issue s f = d by simp only [Desk.issue, hop]]
    exact h
  | ok op =>
    have hnext : d.counter.next.1.toNat = d.counter.last.toNat + 1 := Sequence.toNat_next hlast
    simp only [Desk.issue, hop]
    have hnew : d.counter.next.1 ∉ d.inFlight.map (·.number) ++ d.responses.map (·.number) := by
      intro hmem
      have hle := (h.number_mem_of_mem hmem).2
      omega
    refine ⟨?_, ?_, ?_, ?_, h.delivered, h.log⟩
    · change _ = List.range' 1 d.counter.next.1.toNat
      rw [List.map_append, h.issued, hnext, List.range'_1_concat, Nat.add_comm 1,
        List.map_singleton, hnext]
    · rw [List.map_append, List.append_assoc]
      exact List.nodup_middle.mpr (List.nodup_cons.mpr ⟨hnew, h.nodup⟩)
    · intro r hr
      rcases List.mem_append.mp hr with hr | hr
      · obtain ⟨g, hg, hop⟩ := h.inFlight r hr
        exact ⟨g, List.mem_append_left _ hg, hop⟩
      · rw [List.mem_singleton.mp hr]
        exact ⟨f, List.mem_append_right _ List.mem_cons_self, hop⟩
    · intro r hr
      obtain ⟨g, op, st, hg, hanswer⟩ := h.responses r hr
      exact ⟨g, op, st, List.mem_append_left _ hg, hanswer⟩

/-- A request that finishes leaves its number to its response, if there is one. -/
theorem finish (h : Orderly s d) (position : Nat) : Orderly s (d.finish position) := by
  cases hr : d.inFlight[position]? with
  | none =>
    simp only [Desk.finish, hr]
    exact h
  | some r =>
    obtain ⟨hlt, hget⟩ := List.getElem?_eq_some_iff.mp hr
    have hperm : (r :: d.inFlight.eraseIdx position).Perm d.inFlight := by
      rw [← hget]
      exact List.getElem_cons_eraseIdx_perm hlt
    -- The number of the request that finishes is free, and only its response may take it.
    have hnodup : (r.number :: ((d.inFlight.eraseIdx position).map (·.number) ++
        d.responses.map (·.number))).Nodup :=
      ((hperm.map (·.number)).append_right _).nodup_iff.mpr h.nodup
    have hinFlight : ∀ q ∈ d.inFlight.eraseIdx position,
        ∃ f, ⟨q.number, f⟩ ∈ d.issued ∧ s.operation f = .ok q.value :=
      fun q hq => h.inFlight q (List.mem_of_mem_eraseIdx hq)
    cases hresult : (r.value.run.run d.server).1 with
    | error e =>
      simp only [Desk.finish, hr, hresult]
      exact ⟨h.issued, (List.nodup_cons.mp hnodup).2, hinFlight, h.responses, h.delivered, h.log⟩
    | ok view =>
      simp only [Desk.finish, hr, hresult]
      refine ⟨h.issued, ?_, hinFlight, fun q hq => ?_, fun x hx => ?_, h.log⟩
      · rw [List.map_append, ← List.append_assoc]
        exact (List.perm_append_singleton _ _).nodup_iff.mpr hnodup
      · rcases List.mem_append.mp hq with hq | hq
        · exact h.responses q hq
        · rw [List.mem_singleton.mp hq]
          obtain ⟨f, hf, hop⟩ := h.inFlight r (List.mem_of_getElem? hr)
          exact ⟨f, r.value, d.server, hf, hop, hresult⟩
      · exact List.mem_append_left _ (h.delivered x hx)

/-- A delivery only adds to what was delivered. -/
theorem deliver (h : Orderly s d) (position : Nat) : Orderly s (d.deliver position) := by
  unfold Desk.deliver
  split
  · exact h
  · next r hr =>
    refine ⟨h.issued, h.nodup, h.inFlight, h.responses, fun x hx => ?_, h.log.deliver r⟩
    rcases List.mem_append.mp hx with hx | hx
    · exact h.delivered x hx
    · rw [List.mem_singleton.mp hx]
      exact List.mem_of_getElem? hr

/-- Every event keeps the order, as long as there are numbers. -/
theorem step (h : Orderly s d) (e : Event σ)
    (hlast : d.counter.last.toNat + [e].countP Event.isIssue < 2 ^ 64) :
    Orderly s (d.step s e) := by
  cases e with
  | issue f => exact h.issue hlast f
  | finish position => exact h.finish position
  | deliver position => exact h.deliver position
  | change st => exact ⟨h.issued, h.nodup, h.inFlight, h.responses, h.delivered, h.log⟩

end Orderly

/-- An event gives out at most one number, and only when a request is issued. -/
theorem last_step_le (d : Desk σ) (e : Event σ) :
    (d.step s e).counter.last.toNat ≤ d.counter.last.toNat + [e].countP Event.isIssue := by
  cases e with
  | issue f =>
    cases hop : s.operation f with
    | error e => simp [step, issue, hop]
    | ok op =>
      have hnext : (d.counter.last + 1).toNat ≤ d.counter.last.toNat + 1 := by
        rw [UInt64.toNat_add]
        exact Nat.mod_le _ _
      simpa [step, issue, hop, Sequence.next, Event.isIssue] using hnext
  | finish position =>
    have hcounter : (d.finish position).counter = d.counter := by
      simp only [finish]
      split
      · rfl
      · split <;> rfl
    exact Nat.le_of_eq (congrArg (·.last.toNat) hcounter)
  | deliver position =>
    have hcounter : (d.deliver position).counter = d.counter := by
      simp only [deliver]
      split <;> rfl
    exact Nat.le_of_eq (congrArg (·.last.toNat) hcounter)
  | change st => exact Nat.le_refl _

/-- Every run keeps the order, as long as there are numbers, and gives out at most as many of them
as requests are issued. -/
theorem Orderly.run {d : Desk σ} (h : Orderly s d) (events : List (Event σ))
    (hlast : d.counter.last.toNat + events.countP Event.isIssue < 2 ^ 64) :
    Orderly s (d.run s events) ∧
      (d.run s events).counter.last.toNat ≤
        d.counter.last.toNat + events.countP Event.isIssue := by
  induction events generalizing d with
  | nil => exact ⟨h, Nat.le_refl _⟩
  | cons e events ih =>
    rw [← List.singleton_append, List.countP_append] at hlast ⊢
    have hstep : (d.step s e).counter.last.toNat ≤ _ := d.last_step_le s e
    obtain ⟨hrun, hle⟩ := ih (h.step e (by omega)) (by omega)
    exact ⟨hrun, Nat.le_trans hle (by omega)⟩

end Desk

open Delivery in
/-- A request to the service is refused, or it takes the next number and then carries out one
operation of a panel; these two parts are what issuing it and finishing it do. Whatever requests are
issued, as far as there are numbers for them, and whatever happens to them, their numbers count up
from one, and no two responses have the same number. After every delivery the mark is the greatest
number delivered, and what was taken last is the response with that number. The numbers that are
taken increase, and a response is refused exactly if one of the same request or a later one was
delivered before it. -/
theorem Service.responses_ordered {σ : Type} (s : Service (StateM σ)) (server : σ)
    (events : List (Event σ)) (hfew : events.countP Event.isIssue < 2 ^ 64) :
    let d := (Desk.start server).run s events
    (∀ f last, (s.fetch f).run.run last =
        match s.operation f with
        | .error e => pure (.error e, last)
        | .ok op =>
          (fun result => (result.map (Numbered.mk last.next.1), last.next.2)) <$> op.run) ∧
      (∀ f,
        let after := d.run s [.issue f, .finish d.inFlight.length]
        let fetched := ((s.fetch f).run.run d.counter).run d.server
        after.counter = fetched.1.2 ∧ after.server = fetched.2 ∧
          after.responses = d.responses ++ fetched.1.1.toOption.toList) ∧
      d.issued.map (·.number.toNat) = List.range' 1 d.issued.length ∧
      d.issued.length ≤ events.countP Event.isIssue ∧
      (d.responses.map (·.number)).Nodup ∧
      (∀ r ∈ d.responses, s.Answers d.issued r) ∧
      (∀ x ∈ d.deliveries, x.response ∈ d.responses) ∧
      d.latest.applied.toNat = newest d.deliveries ∧
      (accepted d.deliveries).Pairwise (· < ·) ∧
      ∀ before x after, d.deliveries = before ++ x :: after → Ordered before x := by
  intro d
  have hstart : (Desk.start (σ := σ) server).counter.last.toNat = 0 := rfl
  obtain ⟨h, hlast⟩ := (Desk.Orderly.start (s := s) server).run s events (by omega)
  change Desk.Orderly s d at h
  have hlength : d.issued.length = d.counter.last.toNat := by
    rw [← List.length_map, h.issued, List.length_range']
  have hpos : ∀ x ∈ d.deliveries, 0 < x.response.number.toNat := by
    intro x hx
    refine (h.number_mem_of_mem (List.mem_append_right _ ?_)).1
    exact List.mem_map.mpr ⟨_, h.delivered x hx, rfl⟩
  refine ⟨fun f last => ?_, d.run_issue_finish s, ?_, ?_, (List.nodup_append.mp h.nodup).2.1,
    h.responses, h.delivered, h.log.applied_eq, h.log.pairwise_accepted.1,
    fun before x after hsplit => h.log.ordered hpos hsplit⟩
  · rw [s.run_fetch]
    cases s.operation f <;> rfl
  · rw [h.issued, hlength]
  · change d.counter.last.toNat ≤ _ at hlast
    omega

/-- Of two listings the second one finishes first, and the response of the first one is refused. -/
theorem Service.responses_ordered_late_first :
    let s := Service.new (Registry.standard Server.client) 20
    let list (r : Resource) : Event Server :=
      .issue (.list ((Navigation.enter Registry.standardId).select r) ⟨1, none⟩)
    let events := [list .setting, list .ldapServer, .finish 1, .finish 0, .deliver 0, .deliver 1]
    let d := (Desk.start (.ofStore .initial)).run s events
    events.countP Event.isIssue < 2 ^ 64 ∧ ∃ first second, d.deliveries = [first, second] ∧
      first.response.number = 2 ∧ second.response.number = 1 ∧ second.taken = none := by
  intro s list events d
  have hfew : events.countP Event.isIssue < 2 ^ 64 := by decide
  obtain ⟨first, second, hdeliveries, hfirst, hsecond⟩ : ∃ first second,
      d.deliveries = [first, second] ∧ first.response.number = 2 ∧ second.response.number = 1 :=
    ⟨_, _, rfl, rfl, rfl⟩
  refine ⟨hfew, first, second, hdeliveries, hfirst, hsecond, ?_⟩
  obtain ⟨-, -, -, -, -, -, -, -, -, hordered⟩ :=
    s.responses_ordered (.ofStore .initial) events hfew
  apply (hordered [first] second [] hdeliveries).refused.mpr
  refine ⟨first, List.mem_singleton_self first, ?_⟩
  rw [hfirst, hsecond]
  decide

end SettingsConsole
