import SettingsConsole.Proofs.Panel.Calls
import SettingsConsole.Proofs.Server.Answers
import SettingsConsole.Service.Basic

/-!
# Calls of the in-memory server

Every call is recorded. Its answer is the failure of the operation, its fixed answer, or what the
store responds; only a response can change the store. A server with nothing fixed always responds.
-/

namespace SettingsConsole.Server

/-- The service of the section of global settings, over the in-memory server. -/
def service (size : UInt32) : Service (StateM Server) := .new (Registry.standard client) size

/-- No operation has a fixed answer, and none fails by order. -/
structure Plain (s : Server) : Prop where
  canned : ∀ op, s.canned op = none
  failing : ∀ op, s.failing op = none

/-- The server after a call, with what it keeps then. -/
def received (s : Server) (call : RemoteCall) (st : Store) : Server :=
  { s with store := st, calls := s.calls ++ [call] }

@[simp] theorem store_received (s : Server) (call : RemoteCall) (st : Store) :
    (s.received call st).store = st := rfl

/-- A call fixes nothing. -/
theorem Plain.received {s : Server} (h : s.Plain) (call : RemoteCall) (st : Store) :
    (s.received call st).Plain := ⟨h.canned, h.failing⟩

/-- A new server has nothing fixed. -/
theorem plain_ofStore (st : Store) : (ofStore st).Plain := ⟨fun _ => rfl, fun _ => rfl⟩

/-- A call leaves the store as it is, or its answer is the response of the store. -/
theorem answer_cases (s : Server) (op : Operation) (p : Params) :
    (∃ r, s.answer op p = (r, s.received (op, p) s.store)) ∨
      ∃ v st, s.store.respond op p = .ok (v, st) ∧
        s.answer op p = (.ok v, s.received (op, p) st) := by
  unfold answer
  cases hfailing : s.failing op with
  | some e => exact .inl ⟨.error e, by simp [hfailing, Server.received]⟩
  | none =>
    cases hcanned : s.canned op with
    | some v => exact .inl ⟨.ok v, by simp [hfailing, hcanned, Server.received]⟩
    | none =>
      cases hrespond : s.store.respond op p with
      | error e => exact .inl ⟨.error e, by simp [hfailing, hcanned, hrespond, Server.received]⟩
      | ok response =>
        obtain ⟨v, st⟩ := response
        exact .inr ⟨v, st, rfl, by simp [hfailing, hcanned, hrespond, Server.received]⟩

/-- A server with nothing fixed answers with the response of the store. -/
theorem Plain.answer {s : Server} (h : s.Plain) (op : Operation) (p : Params) :
    s.answer op p =
      match s.store.respond op p with
      | .ok (v, st) => (.ok v, s.received (op, p) st)
      | .error e => (.error e, s.received (op, p) s.store) := by
  simp only [Server.answer, h.failing, h.canned]
  rfl

/-- A request of the client makes its call and reads the answer. -/
theorem run_remotely {α : Type} (op : Operation) (p : Params)
    (decode : Json → Except RemoteError α) (s : Server) :
    (Panel.remotely do
        let v ← client.call op p
        ExceptT.mk (pure (decode v))).run.run s =
      (((s.answer op p).1.bind decode).mapError .ofRemote, (s.answer op p).2) :=
  client.run_remotely op p decode s

/-- If the store responds, a request of the client reads the response and goes on. -/
theorem Plain.run_remotely_ok {α β : Type} {s : Server} (h : s.Plain) {op : Operation} {p : Params}
    {v : Json} {st : Store} (hrespond : s.store.respond op p = .ok (v, st))
    {decode : Json → Except RemoteError α} {a : α} (hdecode : decode v = .ok a)
    (f : α → ExceptT PanelError (StateM Server) β) :
    ExceptT.run (Panel.remotely (do
        let v ← client.call op p
        ExceptT.mk (pure (decode v))) >>= f) s =
      (f a).run.run (s.received (op, p) st) := by
  refine (run_run_bind _ f s).trans ?_
  rw [run_remotely, h.answer, hrespond]
  simp only [Except.bind, hdecode]
  rfl

/-- If the store refuses, a request of the client fails with the refusal. -/
theorem Plain.run_remotely_error {α β : Type} {s : Server} (h : s.Plain) {op : Operation}
    {p : Params} {e : RemoteError} (hrespond : s.store.respond op p = .error e)
    (decode : Json → Except RemoteError α) (f : α → ExceptT PanelError (StateM Server) β) :
    ExceptT.run (Panel.remotely (do
        let v ← client.call op p
        ExceptT.mk (pure (decode v))) >>= f) s =
      (.error (.ofRemote e), s.received (op, p) s.store) := by
  refine (run_run_bind _ f s).trans ?_
  rw [run_remotely, h.answer, hrespond]
  rfl

end SettingsConsole.Server
