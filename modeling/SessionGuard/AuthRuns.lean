-- `AuthProxy` and its message queue as one machine, over the two threads of
-- the queue, and over a bag that may lose and reorder messages. Every run over
-- the threads is a run over the bag.
import SessionGuard.Machine
import SessionGuard.AuthProxy

open machine

namespace session_guard.auth_runs

open auth_msg_queue auth_proxy

/-! ## What the laws remember -/

/-- Whose signal appended a message, and how many calls of `authenticate` and
`cancelAuthentication` came before. -/
structure Note where
  issuer : PromptFrom
  call : Nat
  deriving DecidableEq

/-- The past of a proxy. -/
structure History where
  /-- Who issued the prompt that was emitted last since the latest
  `authenticate`. -/
  prompted : Option PromptFrom := none
  /-- Who issued the prompt that was emitted last, in whatever attempt. -/
  lastPrompt : Option PromptFrom := none
  /-- The ids that `CreateAuth` returned. -/
  created : List String := []
  /-- The ids that were passed to `StopAuth`. -/
  stopped : List String := []
  /-- The sessions that were created since the latest `authenticate` and are
  not stopped. -/
  current : List String := []
  deriving DecidableEq

/-- The past after one more effect, of a handler that serves `issuer`. -/
def History.after (issuer : PromptFrom) (h : History) : Effect → History
  | .showPrompt _ _ => { h with prompted := some issuer, lastPrompt := some issuer }
  | .authAuthenticate _ => { h with prompted := none, current := [] }
  | .createAuth (some (sid, _)) =>
    { h with created := h.created ++ [sid], current := h.current ++ [sid] }
  | .stopAuth sid =>
    { h with stopped := h.stopped ++ [sid], current := h.current.filter (· ≠ sid) }
  | _ => h

/-! ## The events -/

/-- A proxy with its queue, whatever stands for the queue. -/
structure Sys (Q : Type) where
  proxy : AuthProxy
  queue : Q
  /-- How often `authenticate` and `cancelAuthentication` were called. -/
  calls : Nat := 0
  history : History := {}
  alive : Bool := true

/-- A call of a public function, or a signal of the PAM interface or of the
authentication service. -/
inductive Event
  | authenticate (username : String)
  | cancelAuthentication
  | destroy
  | respond (response : String)
  | pamComplete (isAuthenticated : Bool)
  | pamPrompt (user : String) (reply : Option (String × String)) (text : String)
    (type : PromptType)
  | pamMessage (text : String) (type : MessageType)
  | serviceMessages (msg : String) (type : Int) (sid : String)
  | serviceMethod (authType : AuthType) (method : BitVec 32) (sid : String)

/-- What the effects of a handler do on the queue. -/
def mainOps {ν : Type} (note : ν) : List Effect → List (MainOp ν)
  | [] => []
  | .stopDispatcher :: effects => .stop :: mainOps note effects
  | .startDispatcher :: effects => .start :: mainOps note effects
  | .append msg :: effects => append ⟨msg, note⟩ ++ mainOps note effects
  | _ :: effects => mainOps note effects

/-- The messages that the effects of a handler append. -/
theorem mem_pending_mainOps {ν : Type} {note : ν} {effects : List Effect} {x : Entry ν} :
    x ∈ pending (mainOps note effects) ↔ ∃ m, .append m ∈ effects ∧ x = ⟨m, note⟩ := by
  induction effects with
  | nil => simp [mainOps, pending]
  | cons e effects ih => cases e <;> simp [mainOps, pending, append, ih]

variable {Q : Type} (call : Q → List (MainOp Note) → Q) (env : Env)

/-- The state after a handler, where `call` is how the queue takes the steps
of the main thread. -/
def Sys.after (s : Sys Q) (note : Note) (r : AuthProxy × List Effect) : Sys Q :=
  { s with
    proxy := r.1
    queue := call s.queue (mainOps note r.2)
    history := r.2.foldl (History.after note.issuer) s.history }

/-- The handler that an event calls. -/
def Event.handler (p : AuthProxy) : Event → AuthProxy × List Effect
  | .authenticate username => p.authenticate username
  | .cancelAuthentication => p.cancelAuthentication
  | .destroy => (p, AuthProxy.destroy)
  | .respond response => (p, p.respond env response)
  | .pamComplete isAuthenticated => p.handlePamAuthComplete isAuthenticated
  | .pamPrompt user reply text type => p.handlePamAuthShowPrompt env user reply text type
  | .pamMessage text type => (p, p.handlePamAuthShowMessage text type)
  | .serviceMessages msg type sid => p.handleAuthServiceAuthMessages env msg type sid
  | .serviceMethod authType method sid =>
    (p, p.handleAuthServiceAuthMethodChanged env authType method sid)

/-- Who sends the prompt or the message that an event is about. -/
def Event.issuer : Event → PromptFrom
  | .serviceMessages _ _ _ => .AUTH_SERVICE
  | _ => .PAM

/-- Is the event one more call of `authenticate` or `cancelAuthentication`? -/
def Event.isCall : Event → Bool
  | .authenticate _ => true
  | .cancelAuthentication => true
  | _ => false

def Event.isDestroy : Event → Bool
  | .destroy => true
  | _ => false

/-- One event of the main thread. -/
def handle (s : Sys Q) (e : Event) : Option (Sys Q × List Effect) :=
  if s.alive then
    let r := e.handler env s.proxy
    let s1 := s.after call ⟨e.issuer, s.calls⟩ r
    some ({ s1 with
      calls := if e.isCall then s.calls + 1 else s.calls
      alive := !e.isDestroy }, r.2)
  else none

/-- A message of the queue reaches the proxy. -/
def receive (s : Sys Q) (e : Entry Note) : Option (Sys Q × List Effect) :=
  if s.alive then
    let r := s.proxy.handleAuthQueue e.msg
    some (s.after call e.note r, r.2)
  else none

theorem handle_eq_some {call : Q → List (MainOp Note) → Q} {s s1 : Sys Q} {e : Event}
    {o : List Effect} (h : handle call env s e = some (s1, o)) :
    s.alive = true ∧ o = (e.handler env s.proxy).2 ∧
      s1 = { s.after call ⟨e.issuer, s.calls⟩ (e.handler env s.proxy) with
        calls := if e.isCall then s.calls + 1 else s.calls
        alive := !e.isDestroy } := by
  by_cases ha : s.alive = true
  · simp only [handle, ha, if_true, Option.some.injEq, Prod.mk.injEq] at h
    exact ⟨ha, h.2.symm, h.1.symm⟩
  · simp [handle, ha] at h

theorem receive_eq_some {call : Q → List (MainOp Note) → Q} {s s1 : Sys Q} {e : Entry Note}
    {o : List Effect} (h : receive call s e = some (s1, o)) :
    s.alive = true ∧ o = (s.proxy.handleAuthQueue e.msg).2 ∧
      s1 = s.after call e.note (s.proxy.handleAuthQueue e.msg) := by
  by_cases ha : s.alive = true
  · simp only [receive, ha, if_true, Option.some.injEq, Prod.mk.injEq] at h
    exact ⟨ha, h.2.symm, h.1.symm⟩
  · simp [receive, ha] at h

/-! ## The machine with the two threads -/

inductive ThreadEvent
  | main (e : Event)
  | deliver
  | thread (t : Thread)

/-- The main thread takes events only in its event loop. -/
def threadStep : Step (Sys (Dispatch Note)) ThreadEvent Effect
  | s, .main e => if s.queue.AtLoop then handle Dispatch.call env s e else none
  | s, .deliver =>
    match s.queue.deliver with
    | none => none
    | some (e, d) => receive Dispatch.call { s with queue := d } e
  | s, .thread t => (s.queue.step t).map fun d => ({ s with queue := d }, [])

/-- What a step over the threads is: an event in the event loop, a delivery, or a step of
either thread. -/
theorem threadStep_cases {s s1 : Sys (Dispatch Note)} {e : ThreadEvent} {o : List Effect}
    (h : threadStep env s e = some (s1, o)) :
    (∃ x, e = .main x ∧ s.queue.AtLoop ∧ handle Dispatch.call env s x = some (s1, o)) ∨
    (∃ x d, e = .deliver ∧ s.queue.deliver = some (x, d) ∧
      receive Dispatch.call { s with queue := d } x = some (s1, o)) ∨
    ∃ t d, e = .thread t ∧ s.queue.step t = some d ∧ s1 = { s with queue := d } ∧ o = [] := by
  cases e with
  | main x =>
    simp only [threadStep] at h
    split_ifs at h with hloop
    exact Or.inl ⟨x, rfl, hloop, h⟩
  | deliver =>
    simp only [threadStep] at h
    split at h
    · cases h
    · rename_i x d hd
      exact Or.inr (Or.inl ⟨x, d, rfl, hd, h⟩)
  | thread t =>
    obtain ⟨d, hd, heq⟩ := Option.map_eq_some_iff.mp h
    cases heq
    exact Or.inr (Or.inr ⟨t, d, rfl, hd, rfl, rfl⟩)

/-- A new proxy with a queue, where `setMsgQueue` is about to start the
dispatcher. -/
def Sys.queued : Sys (Dispatch Note) where
  proxy := .fresh env true
  queue := { ops := [.start] }

/-! ## The machine with a bag -/

inductive BagEvent
  | main (e : Event)
  | deliver (i : Nat)
  | lose (i : Nat)

/-- The bag keeps what is appended. -/
def put (bag : List (Entry Note)) (ops : List (MainOp Note)) : List (Entry Note) :=
  bag ++ pending ops

def bagStep : Step (Sys (List (Entry Note))) BagEvent Effect
  | s, .main e => handle put env s e
  | s, .deliver i =>
    match s.queue[i]? with
    | none => none
    | some e => receive put { s with queue := s.queue.eraseIdx i } e
  | s, .lose i => some ({ s with queue := s.queue.eraseIdx i }, [])

/-- A new proxy, with or without a queue. -/
def Sys.bagged (msgQueue : Bool) : Sys (List (Entry Note)) where
  proxy := .fresh env msgQueue
  queue := []

/-! ## Every run over the threads is a run over the bag -/

/-- The same state with another queue. -/
def Sys.map {R : Type} (f : Q → R) (s : Sys Q) : Sys R :=
  { proxy := s.proxy, queue := f s.queue, calls := s.calls, history := s.history, alive := s.alive }

theorem handle_map {R : Type} {call : Q → List (MainOp Note) → Q}
    {call' : R → List (MainOp Note) → R} {f : Q → R}
    (hf : ∀ q ops, f (call q ops) = call' (f q) ops) {s s1 : Sys Q} {e : Event} {o : List Effect}
    (h : handle call env s e = some (s1, o)) :
    handle call' env (s.map f) e = some (s1.map f, o) := by
  obtain ⟨ha, rfl, rfl⟩ := handle_eq_some env h
  simp [handle, Sys.map, ha, Sys.after, hf]

theorem receive_map {R : Type} {call : Q → List (MainOp Note) → Q}
    {call' : R → List (MainOp Note) → R} {f : Q → R}
    (hf : ∀ q ops, f (call q ops) = call' (f q) ops) {s s1 : Sys Q} {e : Entry Note}
    {o : List Effect} (h : receive call s e = some (s1, o)) :
    receive call' (s.map f) e = some (s1.map f, o) := by
  obtain ⟨ha, rfl, rfl⟩ := receive_eq_some h
  simp [receive, Sys.map, ha, Sys.after, hf]

/-- The bag may lose its messages down to any sublist. -/
theorem lose_sublist {xs ys : List (Entry Note)} (h : List.Sublist xs ys)
    (s : Sys (List (Entry Note))) (pre : List (Entry Note)) :
    ∃ es, run (bagStep env) { s with queue := pre ++ ys } es =
      some ({ s with queue := pre ++ xs }, []) := by
  induction h generalizing pre with
  | slnil => exact ⟨[], rfl⟩
  | @cons xs ys a hs ih =>
    obtain ⟨es, hes⟩ := ih pre
    refine ⟨.lose pre.length :: es, run_cons_iff.mpr ⟨_, [], [], rfl, ?_, rfl⟩⟩
    simpa [List.eraseIdx_append_of_length_le] using hes
  | @cons_cons xs ys a hs ih =>
    obtain ⟨es, hes⟩ := ih (pre ++ [a])
    exact ⟨es, by simpa using hes⟩

/-- One step over the threads is a run over the bag of the messages in
flight, with the same effects. -/
theorem bag_of_threadStep {s s1 : Sys (Dispatch Note)} {e : ThreadEvent} {o : List Effect}
    (h : threadStep env s e = some (s1, o)) :
    ∃ es, run (bagStep env) (s.map Dispatch.flight) es = some (s1.map Dispatch.flight, o) := by
  have hone : ∀ (b b1 : Sys (List (Entry Note))) be, bagStep env b be = some (b1, o) →
      ∃ es, run (bagStep env) b es = some (b1, o) :=
    fun b b1 be hb => ⟨[be], run_cons_iff.mpr ⟨_, o, [], hb, rfl, by simp⟩⟩
  have hcall : ∀ (d : Dispatch Note) ops, (d.call ops).flight = put d.flight ops := by simp [put]
  obtain ⟨x, rfl, -, h⟩ | ⟨x, d, rfl, hd, h⟩ | ⟨t, d, rfl, hd, rfl, rfl⟩ := threadStep_cases env h
  · exact hone _ _ (.main x) (handle_map env hcall h)
  · refine hone _ _ (.deliver 0) ?_
    have := receive_map hcall h
    simpa [bagStep, Sys.map, Dispatch.flight_deliver hd] using this
  · exact lose_sublist env (Dispatch.step_flight hd) (s.map Dispatch.flight) []

/-- Every run over the threads is a run over the bag, with the same effects. -/
theorem bag_of_threads {s t : Sys (Dispatch Note)} {es : List ThreadEvent} {o : List Effect}
    (h : run (threadStep env) s es = some (t, o)) :
    ∃ bs, run (bagStep env) (s.map Dispatch.flight) bs = some (t.map Dispatch.flight, o) := by
  induction es generalizing s o with
  | nil =>
    simp only [run_nil, Option.some.injEq, Prod.mk.injEq] at h
    obtain ⟨rfl, rfl⟩ := h
    exact ⟨[], rfl⟩
  | cons e es ih =>
    obtain ⟨s1, o1, o2, h1, h2, rfl⟩ := run_cons_iff.mp h
    obtain ⟨b1, hb1⟩ := bag_of_threadStep env h1
    obtain ⟨b2, hb2⟩ := ih h2
    exact ⟨b1 ++ b2, run_append_iff.mpr ⟨_, _, _, hb1, hb2, rfl⟩⟩

end session_guard.auth_runs
