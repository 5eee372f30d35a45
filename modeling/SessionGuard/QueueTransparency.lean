-- What the user of a proxy sees with a queue and without one. A queue delays the
-- signals of an attempt. It drops and adds none as long as it is empty when the attempt
-- begins, and no completion that waits in it ends a later session.
import SessionGuard.AttemptIsolation

open machine

namespace session_guard.auth_msg_queue

variable {ν : Type}

/-! ## The messages that will be delivered -/

/-- The messages that wait for their delivery. While the main thread is in `stopDispatcher`,
those in flight are about to be dropped. -/
def Dispatch.waiting (d : Dispatch ν) : List (Entry ν) := if d.stopping then [] else d.flight

/-- While the main thread is in `stopDispatcher`, nothing is posted, and what is left of the
function drops the rest. -/
def Dispatch.Emptied (d : Dispatch ν) : Prop :=
  d.stopping = true → d.q.posted = [] ∧ pending d.ops = [] ∧
    (d.Flushed ∨ d.q.worker.held ++ d.q.m_queue = [])

/-- Outside `stopDispatcher`, a flushed queue is empty. -/
theorem Flushes.empty {ops : List (MainOp ν)} {a b : Prop} (h : Flushes a b ops)
    (hstop : ops.any MainOp.stops = false) (hpending : pending ops = []) : b := by
  induction ops generalizing a b with
  | nil => exact h.2
  | cons op ops ih =>
    simp only [List.any_cons, Bool.or_eq_false_iff] at hstop
    cases op with
    | start => exact h.2
    | enqueue e => cases hpending
    | release => exact ih h hstop.2 hpending
    | _ => simp [MainOp.stops] at hstop

/-- A function that does not stop the dispatcher keeps all messages. -/
theorem mainStep_keeps {q q1 : AuthMsgQueue ν} {op : MainOp ν} {more : List (MainOp ν)}
    (hs : Sane q) (hop : op.stops = false) (h : mainStep q op = some (q1, more)) :
    more = [] ∧ q1.posted = q.posted ∧
      q1.worker.held ++ q1.m_queue = q.worker.held ++ (q.m_queue ++ pending [op]) := by
  cases op with
  | enqueue e =>
    cases h
    exact ⟨rfl, rfl, rfl⟩
  | release =>
    cases h
    exact ⟨rfl, rfl, by simp [pending]⟩
  | start =>
    simp only [mainStep] at h
    split_ifs at h with hrun <;> cases h
    · exact ⟨rfl, rfl, by simp [pending]⟩
    · -- the thread did not run, so the worker holds nothing
      have hidle := hs (Bool.eq_false_iff.mpr hrun)
      exact ⟨rfl, rfl, by simp [hidle, Worker.held, pending]⟩
  | _ => cases hop

namespace Dispatch

/-- Outside `stopDispatcher`, either thread keeps all messages and their order. -/
theorem step_keeps {d d1 : Dispatch ν} {t : Thread} (hs : Sane d.q) (hstop : d.stopping = false)
    (h : d.step t = some d1) : d1.stopping = false ∧ d1.flight = d.flight := by
  obtain ⟨act, q1, -, hq, rfl⟩ | ⟨op, rest, q1, more, -, hops, hm, rfl⟩ := step_cases h
  · refine ⟨hstop, ?_⟩
    have := doDispatcher_flight hq
    simp only [flight, ← List.append_assoc] at this ⊢
    rw [this]
  · unfold stopping at hstop
    rw [hops, List.any_cons, Bool.or_eq_false_iff] at hstop
    obtain ⟨rfl, hposted, hkeep⟩ := mainStep_keeps hs hstop.1 hm
    refine ⟨hstop.2, ?_⟩
    have hrest : pending (op :: rest) = pending [op] ++ pending rest := pending_append [op] rest
    unfold flight
    dsimp only [List.nil_append]
    rw [hops, hrest, hposted, ← List.append_assoc q1.worker.held, hkeep]
    simp only [List.append_assoc]

/-- Either thread delivers nothing, and keeps what waits, as long as the worker emits nothing
while the main thread is in `stopDispatcher`. -/
theorem step_waiting {d d1 : Dispatch ν} {t : Thread} (hs : Sane d.q) (hd : d.Emptied)
    (hg : t = .worker .emit → d.stopping = false) (h : d.step t = some d1) :
    d1.Emptied ∧ d1.waiting = d.waiting := by
  by_cases hstop : d.stopping = true
  · obtain ⟨hposted, hpending, hrest⟩ := hd hstop
    have hposted1 : d1.q.posted = [] := by
      rcases step_posted h with hp | ⟨e, rfl, -, -⟩
      · exact hp.trans hposted
      · exact absurd ((hg rfl).symm.trans hstop) (by simp)
    have hpending1 : pending d1.ops = [] :=
      List.eq_nil_iff_forall_not_mem.mpr fun e he => by
        have := pending_step h e he
        simp [hpending] at this
    have hrest1 : d1.Flushed ∨ d1.q.worker.held ++ d1.q.m_queue = [] := by
      rcases hrest with hf | hnil
      · exact flushed_step hs hf h
      · right
        have hsub := step_flight h
        unfold flight at hsub
        rw [hposted, hpending, hposted1, hpending1] at hsub
        simpa [hnil] using hsub
    refine ⟨fun _ => ⟨hposted1, hpending1, hrest1⟩, ?_⟩
    unfold waiting
    rw [if_pos hstop]
    split_ifs with hstop1
    · rfl
    · -- `stopDispatcher` has returned
      have hnone : d1.q.worker.held ++ d1.q.m_queue = [] := by
        rcases hrest1 with hf | hnil
        · have hno : d1.ops.any MainOp.stops = false := Bool.eq_false_iff.mpr hstop1
          simp [Flushes.idle hf hno, Flushes.empty hf hno hpending1, Worker.held]
        · exact hnil
      unfold flight
      rw [hposted1, hpending1, List.append_nil, hnone]
      rfl
  · have hno := Bool.eq_false_iff.mpr hstop
    obtain ⟨hstop1, hflight⟩ := step_keeps hs hno h
    refine ⟨fun h => absurd (hstop1.symm.trans h) (by simp), ?_⟩
    unfold waiting
    rw [hno, hstop1, hflight]

/-- When nothing is posted, `stopDispatcher` leaves nothing to deliver. -/
theorem stop_emptied {d : Dispatch ν} {ops : List (MainOp ν)} (hloop : d.AtLoop)
    (hposted : d.q.posted = []) (hflush : Flushes True True ops) (hpending : pending ops = []) :
    (d.call (.stop :: ops)).Emptied ∧ (d.call (.stop :: ops)).waiting = [] := by
  obtain ⟨q, dops⟩ := d
  obtain rfl : dops = [] := hloop
  exact ⟨fun _ => ⟨hposted, hpending, Or.inl hflush⟩, rfl⟩

end Dispatch

end session_guard.auth_msg_queue

namespace session_guard.auth_runs

open auth_msg_queue auth_proxy

variable (env : Env)

/-! ## What the user sees -/

/-- A signal of the proxy about the attempt, with `m_promptFrom` at each prompt. -/
inductive Signal
  | showMessage (text : String) (type : MessageType)
  | showPrompt (text : String) (type : PromptType) (m_promptFrom : PromptFrom)
  | authenticationComplete (authRes : Bool)
  deriving DecidableEq

def signal (m_promptFrom : PromptFrom) : Effect → Option Signal
  | .showMessage text type => some (.showMessage text type)
  | .showPrompt text type => some (.showPrompt text type m_promptFrom)
  | .authenticationComplete authRes => some (.authenticationComplete authRes)
  | _ => none

/-- The signals of a function, from the proxy after it and its effects. -/
def signals (r : AuthProxy × List Effect) : List Signal := r.2.filterMap (signal r.1.m_promptFrom)

/-- A step of the proxy with a queue, with its signals. -/
def signalStep : Step (Sys (Dispatch Note)) ThreadEvent Signal
  | s, e => (threadStep env s e).map fun (s1, o) => (s1, signals (s1.proxy, o))

/-- The signals of the functions one after the other. -/
def allSignals : AuthProxy → List Event → List Signal
  | _, [] => []
  | p, e :: es => signals (e.handler env p) ++ allSignals (e.handler env p).1 es

/-- The calls and signals that reach the proxy in a run. -/
def mainEvents : List ThreadEvent → List Event
  | [] => []
  | .main e :: es => e :: mainEvents es
  | _ :: es => mainEvents es

/-- The signal that a message of the queue becomes. -/
def messageSignal (e : Entry Note) : Signal :=
  match e.msg with
  | .prompt promptFrom type msg => .showPrompt msg type promptFrom
  | .message type msg => .showMessage msg type
  | .complete authRes => .authenticationComplete authRes

/-- No old signal is left when the attempt begins, and `handleAuthQueueComplete` finds no
session to stop. -/
def Transparent (s : Sys (Dispatch Note)) : ThreadEvent → Prop
  | .deliver =>
    match s.queue.deliver with
    | some (⟨.complete _, _⟩, _) => s.proxy.m_authSessionID = ""
    | _ => True
  | e => Undisturbed s e

/-! ## A proxy with a queue and one without -/

/-- The two proxies have seen the same events. What `m_promptFrom` says may differ while
prompts wait in the queue. -/
structure Twins (p q : AuthProxy) : Prop where
  hasQueue : p.m_authMessageQueue = true
  noQueue : q.m_authMessageQueue = false
  sid : q.m_authSessionID = p.m_authSessionID
  haveErrorMsg : q.m_haveErrorMsg = p.m_haveErrorMsg

/-- What an event makes of the two: with a queue there is no signal, and the messages
that it appends are the signals of the proxy without one. -/
structure Mirrors (note : Note) (r q : AuthProxy × List Effect) : Prop where
  twins : Twins r.1 q.1
  silent : signals r = []
  appended : (pending (mainOps note r.2)).map messageSignal = signals q
  goesOn : (mainOps note r.2).any MainOp.stops = false

theorem stopAuthSession_signals (p : AuthProxy) (m_promptFrom : PromptFrom) :
    p.stopAuthSession.2.filterMap (signal m_promptFrom) = [] := by
  rcases stopAuthSession_cases p with h | h <;> rw [h] <;> rfl

theorem stopAuthSession_pending (p : AuthProxy) (note : Note) (effects : List Effect) :
    mainOps note (p.stopAuthSession.2 ++ effects) = mainOps note effects := by
  rcases stopAuthSession_cases p with h | h <;> rw [h] <;> rfl

theorem stopAuthSession_twins {p q : AuthProxy} (h : Twins p q) :
    Twins p.stopAuthSession.1 q.stopAuthSession.1 := by
  unfold AuthProxy.stopAuthSession
  rw [h.sid]
  split_ifs
  · exact h
  · exact ⟨h.hasQueue, h.noQueue, rfl, h.haveErrorMsg⟩

theorem handlePamAuthComplete_mirrors (note : Note) {p q : AuthProxy} (h : Twins p q)
    (isAuthenticated : Bool) :
    Mirrors note (p.handlePamAuthComplete isAuthenticated)
      (q.handlePamAuthComplete isAuthenticated) := by
  have htwins := stopAuthSession_twins h
  unfold AuthProxy.handlePamAuthComplete
  simp only [h.haveErrorMsg, h.hasQueue, h.noQueue, stopAuthSession_twice, if_true, if_false,
    Bool.false_eq_true, List.append_nil, List.append_assoc]
  generalize (if (!isAuthenticated && !p.m_haveErrorMsg) = true then "Failed to authenticate"
    else "") = authResultDesc
  split_ifs
  · refine ⟨htwins, ?_, ?_, ?_⟩
    · simp [signals, stopAuthSession_signals, signal]
    · simp [signals, stopAuthSession_signals, stopAuthSession_pending, signal, mainOps, append,
        pending, messageSignal]
    · rw [stopAuthSession_pending]
      rfl
  · refine ⟨htwins, ?_, ?_, ?_⟩
    · simp [signals, stopAuthSession_signals, signal]
    · simp [signals, stopAuthSession_signals, stopAuthSession_pending, signal, mainOps, append,
        pending, messageSignal]
    · rw [stopAuthSession_pending]
      rfl

theorem handlePamAuthShowPrompt_mirrors (note : Note) {p q : AuthProxy} (h : Twins p q)
    (user : String) (reply : Option (String × String)) (text : String) (type : PromptType) :
    Mirrors note (p.handlePamAuthShowPrompt env user reply text type)
      (q.handlePamAuthShowPrompt env user reply text type) := by
  unfold AuthProxy.handlePamAuthShowPrompt
  simp only [h.hasQueue, h.noQueue, if_true, if_false, Bool.false_eq_true]
  split_ifs
  · rcases reply with _ | ⟨sid, key⟩
    · exact ⟨h, rfl, rfl, rfl⟩
    · exact ⟨⟨rfl, rfl, rfl, h.haveErrorMsg⟩, rfl, rfl, rfl⟩
  · exact ⟨h, rfl, rfl, rfl⟩
  · exact ⟨h, rfl, rfl, rfl⟩
  · exact ⟨⟨h.hasQueue, rfl, h.sid, h.haveErrorMsg⟩, rfl, rfl, rfl⟩

theorem handleAuthServiceAuthMessages_mirrors (note : Note) {p q : AuthProxy} (h : Twins p q)
    (msg : String) (type : Int) (sid : String) :
    Mirrors note (p.handleAuthServiceAuthMessages env msg type sid)
      (q.handleAuthServiceAuthMessages env msg type sid) := by
  unfold AuthProxy.handleAuthServiceAuthMessages
  simp only [h.hasQueue, h.noQueue, h.sid, if_true, if_false, Bool.false_eq_true]
  split_ifs
  · exact ⟨h, rfl, rfl, rfl⟩
  · exact ⟨⟨h.hasQueue, rfl, rfl, h.haveErrorMsg⟩, rfl, rfl, rfl⟩
  · exact ⟨⟨h.hasQueue, rfl, rfl, h.haveErrorMsg⟩, rfl, rfl, rfl⟩
  · exact ⟨h, rfl, rfl, rfl⟩
  · exact ⟨h, rfl, rfl, rfl⟩
  · exact ⟨h, rfl, rfl, rfl⟩

/-- Effects that neither are signals nor reach the queue. -/
theorem mirrors_of_quiet (note : Note) {p q : AuthProxy} (h : Twins p q) {ps qs : List Effect}
    (hp : ∀ f, ps.filterMap (signal f) = []) (hq : ∀ f, qs.filterMap (signal f) = [])
    (hops : mainOps note ps = []) : Mirrors note (p, ps) (q, qs) :=
  ⟨h, hp _, by rw [hops]; exact (hq _).symm, by rw [hops]; rfl⟩

theorem handler_mirrors (note : Note) {p q : AuthProxy} (h : Twins p q) {e : Event}
    (he : e.isCall = false) : Mirrors note (e.handler env p) (e.handler env q) := by
  cases e with
  | authenticate username => cases he
  | cancelAuthentication => cases he
  | destroy => exact ⟨h, rfl, rfl, rfl⟩
  | respond response =>
    have hquiet : ∀ (p : AuthProxy) f, (p.respond env response).filterMap (signal f) = [] := by
      intro p f
      unfold AuthProxy.respond
      split_ifs <;> rfl
    apply mirrors_of_quiet note h (hquiet p) (hquiet q)
    unfold AuthProxy.respond
    split_ifs <;> rfl
  | pamComplete isAuthenticated => exact handlePamAuthComplete_mirrors note h isAuthenticated
  | pamPrompt user reply text type =>
    exact handlePamAuthShowPrompt_mirrors env note h user reply text type
  | pamMessage text type =>
    simp only [Event.handler, AuthProxy.handlePamAuthShowMessage, h.hasQueue, h.noQueue]
    exact ⟨h, rfl, rfl, rfl⟩
  | serviceMessages msg type sid =>
    exact handleAuthServiceAuthMessages_mirrors env note h msg type sid
  | serviceMethod authType method sid =>
    have hquiet : ∀ (p : AuthProxy) f,
        (p.handleAuthServiceAuthMethodChanged env authType method sid).filterMap (signal f) =
          [] := by
      intro p f
      unfold AuthProxy.handleAuthServiceAuthMethodChanged
      split_ifs <;> rfl
    apply mirrors_of_quiet note h (hquiet p) (hquiet q)
    unfold AuthProxy.handleAuthServiceAuthMethodChanged
    split_ifs <;> rfl

/-- A message that is delivered becomes its signal. -/
theorem handleAuthQueue_signals {p q : AuthProxy} (h : Twins p q) {x : Entry Note}
    (hcomplete : ∀ authRes, x.msg = .complete authRes → p.m_authSessionID = "") :
    Twins (p.handleAuthQueue x.msg).1 q ∧ signals (p.handleAuthQueue x.msg) = [messageSignal x] ∧
      mainOps x.note (p.handleAuthQueue x.msg).2 = [] := by
  unfold messageSignal
  rcases hmsg : x.msg with ⟨promptFrom, type, msg⟩ | ⟨type, msg⟩ | authRes
  · exact ⟨⟨h.hasQueue, h.noQueue, h.sid, h.haveErrorMsg⟩, rfl, rfl⟩
  · exact ⟨h, rfl, rfl⟩
  · have hstop : p.stopAuthSession = (p, []) := by
      unfold AuthProxy.stopAuthSession
      rw [hcomplete authRes hmsg]
      rfl
    simp only [AuthProxy.handleAuthQueue, AuthProxy.handleAuthQueueComplete, hstop]
    exact ⟨h, rfl, rfl⟩

/-! ## Each step -/

/-- The signals that the proxy owes to the messages of its queue. -/
def owed (s : Sys (Dispatch Note)) : List Signal := s.queue.waiting.map messageSignal

/-- The proxy without a queue, after the event. -/
def shadow (q : AuthProxy) : ThreadEvent → AuthProxy × List Effect
  | .main e => e.handler env q
  | _ => (q, [])

structure Shadowed (s : Sys (Dispatch Note)) (q : AuthProxy) : Prop where
  twins : Twins s.proxy q
  sane : Sane s.queue.q
  emptied : s.queue.Emptied

theorem main_shadowed {s s1 : Sys (Dispatch Note)} {q : AuthProxy} {e : Event} {o : List Effect}
    (h : Shadowed s q) (hloop : s.queue.AtLoop) (he : e.isCall = false)
    (hstep : handle Dispatch.call env s e = some (s1, o)) :
    Shadowed s1 (e.handler env q).1 ∧
      signals (s1.proxy, o) ++ owed s1 = owed s ++ signals (e.handler env q) := by
  obtain ⟨-, rfl, rfl⟩ := handle_eq_some env hstep
  obtain ⟨htwins, hsilent, happended, hgoesOn⟩ :=
    handler_mirrors env ⟨e.issuer, s.calls⟩ h.twins he
  have hops : s.queue.ops = [] := hloop
  have hstop : s.queue.stopping = false := by simp [Dispatch.stopping, hops]
  have hstop1 : (s.queue.call (mainOps ⟨e.issuer, s.calls⟩ (e.handler env s.proxy).2)).stopping =
      false := by
    simpa [Dispatch.stopping, Dispatch.call, hops] using hgoesOn
  refine ⟨⟨htwins, h.sane, fun hcontra => absurd (hstop1.symm.trans hcontra) (by simp)⟩, ?_⟩
  have howed : owed s = s.queue.flight.map messageSignal := by
    simp [owed, Dispatch.waiting, hstop]
  show signals (e.handler env s.proxy) ++ List.map messageSignal (Dispatch.waiting _) = _
  rw [hsilent, howed, ← happended, List.nil_append, ← List.map_append]
  simp [Dispatch.waiting, Sys.after, hstop1]

theorem deliver_shadowed {s s1 : Sys (Dispatch Note)} {q : AuthProxy} {x : Entry Note}
    {d : Dispatch Note} {o : List Effect} (h : Shadowed s q) (hd : s.queue.deliver = some (x, d))
    (hcomplete : ∀ authRes, x.msg = .complete authRes → s.proxy.m_authSessionID = "")
    (hstep : receive Dispatch.call { s with queue := d } x = some (s1, o)) :
    Shadowed s1 q ∧ signals (s1.proxy, o) ++ owed s1 = owed s := by
  obtain ⟨-, rfl, rfl⟩ := receive_eq_some hstep
  obtain ⟨htwins, hsignals, hmain⟩ := handleAuthQueue_signals h.twins hcomplete
  obtain ⟨hops, hops1, hposted, hq⟩ := Dispatch.deliver_eq_some hd
  have hflight := Dispatch.flight_deliver hd
  have hcall : d.call (mainOps x.note (s.proxy.handleAuthQueue x.msg).2) = d := by
    simp [Dispatch.call, hmain]
  have hstop : s.queue.stopping = false := by simp [Dispatch.stopping, hops]
  have hstop1 : d.stopping = false := by simp [Dispatch.stopping, hops1]
  have hsane : Sane d.q := by
    rw [hq]
    exact h.sane
  refine ⟨⟨htwins, ?_, ?_⟩, ?_⟩
  · simpa [Sys.after, hcall] using hsane
  · simp [Sys.after, hcall, Dispatch.Emptied, hstop1]
  · show signals (s.proxy.handleAuthQueue x.msg) ++ _ = _
    rw [hsignals]
    simp [owed, Sys.after, hcall, Dispatch.waiting, hstop, hstop1, hflight]

/-- What is signalled and what is owed after an event is what was owed before it, and what
the proxy without a queue signals at it. -/
theorem signalStep_shadowed {s s1 : Sys (Dispatch Note)} {q : AuthProxy} {e : ThreadEvent}
    {o : List Signal} (h : Shadowed s q) (hG : Transparent s e)
    (he : ∀ x, e = .main x → x.isCall = false) (hstep : signalStep env s e = some (s1, o)) :
    Shadowed s1 (shadow env q e).1 ∧ o ++ owed s1 = owed s ++ signals (shadow env q e) := by
  obtain ⟨⟨s2, effects⟩, hthread, heq⟩ := Option.map_eq_some_iff.mp hstep
  cases heq
  obtain ⟨x, rfl, hloop, h1⟩ | ⟨x, d, rfl, hd, h1⟩ | ⟨t, d, rfl, hd, rfl, rfl⟩ :=
    threadStep_cases env hthread
  · exact main_shadowed env h hloop (he x rfl) h1
  · rw [show signals (shadow env q .deliver) = [] from rfl, List.append_nil]
    refine deliver_shadowed h hd (fun authRes hmsg => ?_) h1
    obtain ⟨msg, note⟩ := x
    obtain rfl : msg = .complete authRes := hmsg
    simpa only [Transparent, hd] using hG
  · have hemit : t = .worker .emit → s.queue.stopping = false := by
      rintro rfl
      exact hG
    obtain ⟨hemptied, hwaiting⟩ := Dispatch.step_waiting h.sane h.emptied hemit hd
    refine ⟨⟨h.twins, sane_step h.sane hd, hemptied⟩, ?_⟩
    show [] ++ List.map messageSignal d.waiting = List.map messageSignal s.queue.waiting ++ []
    rw [hwaiting, List.append_nil, List.nil_append]

/-! ## The start of an attempt -/

/-- In every run, the worker runs only with its thread, and the proxy keeps its queue. -/
theorem queued_sane {es : List ThreadEvent} {s : Sys (Dispatch Note)} {o : List Effect}
    (h : run (threadStep env) (.queued env) es = some (s, o)) :
    Sane s.queue.q ∧ s.proxy.m_authMessageQueue = true := by
  refine run_inv (I := fun s => Sane s.queue.q ∧ s.proxy.m_authMessageQueue = true) ?_
    ⟨fun _ => rfl, rfl⟩ h
  rintro s e s1 o1 ⟨hsane, hqueue⟩ hstep
  obtain ⟨x, rfl, -, h1⟩ | ⟨x, d, rfl, hd, h1⟩ | ⟨t, d, rfl, hd, rfl, -⟩ :=
    threadStep_cases env hstep
  · obtain ⟨-, -, rfl⟩ := handle_eq_some env h1
    exact ⟨hsane, (handler_hasQueue env s.proxy x).trans hqueue⟩
  · obtain ⟨-, -, rfl⟩ := receive_eq_some h1
    obtain ⟨-, -, -, hq⟩ := Dispatch.deliver_eq_some hd
    constructor
    · show Sane d.q
      rw [hq]
      exact hsane
    · rcases hmsg : x.msg with ⟨promptFrom, type, msg⟩ | ⟨type, msg⟩ | authRes
      · exact hqueue
      · exact hqueue
      · exact (stopAuthSession_hasQueue s.proxy).trans hqueue
  · exact ⟨sane_step hsane hd, hqueue⟩

/-- `authenticate` signals nothing itself, and leaves no old message to deliver when none is
posted. -/
theorem authenticate_shadowed {s s1 : Sys (Dispatch Note)} {username : String} {o : List Signal}
    (hsane : Sane s.queue.q) (hqueue : s.proxy.m_authMessageQueue = true)
    (hposted : s.queue.q.posted = [])
    (hstep : signalStep env s (.main (.authenticate username)) = some (s1, o)) :
    Shadowed s1
        (({ s.proxy with m_authMessageQueue := false } : AuthProxy).authenticate username).1 ∧
      o = [] ∧ owed s1 = [] := by
  obtain ⟨⟨s2, effects⟩, hthread, heq⟩ := Option.map_eq_some_iff.mp hstep
  cases heq
  simp only [threadStep] at hthread
  split_ifs at hthread with hloop
  obtain ⟨-, rfl, rfl⟩ := handle_eq_some env hthread
  obtain ⟨ops, hmain, hflush, hpending⟩ := call_ops env s.proxy
    ⟨Event.issuer (.authenticate username), s.calls⟩ (e := .authenticate username) hqueue rfl
  obtain ⟨hemptied, hwaiting⟩ := Dispatch.stop_emptied hloop hposted hflush hpending
  rw [← hmain] at hemptied hwaiting
  refine ⟨⟨⟨hqueue, rfl, rfl, rfl⟩, hsane, hemptied⟩, ?_, ?_⟩
  · simp only [signals, Event.handler, AuthProxy.authenticate, hqueue]
    rfl
  · show List.map messageSignal (Dispatch.waiting _) = []
    simp only [Sys.after]
    rw [hwaiting]
    rfl

/-! ## Every attempt -/

theorem run_shadowed {s t : Sys (Dispatch Note)} {q : AuthProxy} {es : List ThreadEvent}
    {o : List Signal} (h : Shadowed s q) (hmid : ∀ e ∈ mainEvents es, e.isCall = false)
    (hG : Meets (signalStep env) Transparent s es)
    (hrun : run (signalStep env) s es = some (t, o)) :
    o ++ owed t = owed s ++ allSignals env q (mainEvents es) := by
  induction es generalizing s q o with
  | nil =>
    simp only [run_nil, Option.some.injEq, Prod.mk.injEq] at hrun
    obtain ⟨rfl, rfl⟩ := hrun
    simp [mainEvents, allSignals]
  | cons e es ih =>
    obtain ⟨s1, o1, o2, hstep, hrest, rfl⟩ := run_cons_iff.mp hrun
    obtain ⟨hg, hG1⟩ := hG s1 o1 hstep
    have hcall : ∀ x, e = .main x → x.isCall = false := by
      rintro x rfl
      exact hmid x List.mem_cons_self
    have hmid1 : ∀ e ∈ mainEvents es, e.isCall = false := by
      intro x hx
      apply hmid
      cases e with
      | main e => exact List.mem_cons_of_mem _ hx
      | deliver => exact hx
      | thread t => exact hx
    obtain ⟨h1, hsignals⟩ := signalStep_shadowed env h hg hcall hstep
    have hall : allSignals env q (mainEvents (e :: es)) =
        signals (shadow env q e) ++ allSignals env (shadow env q e).1 (mainEvents es) := by
      cases e <;> rfl
    calc o1 ++ o2 ++ owed t
        = o1 ++ (owed s1 ++ allSignals env (shadow env q e).1 (mainEvents es)) := by
          rw [List.append_assoc, ih h1 hmid1 hG1 hrest]
      _ = owed s ++ (signals (shadow env q e) ++
            allSignals env (shadow env q e).1 (mainEvents es)) := by
          rw [← List.append_assoc, hsignals, List.append_assoc]
      _ = owed s ++ allSignals env q (mainEvents (e :: es)) := by rw [hall]

/-- In every attempt of every run, once the queue is drained the proxy has signalled what it
signals for the same events without a queue, as long as the attempt begins with no signal
posted, the worker emits nothing while it begins, and a completion that is delivered finds
no session. -/
theorem the_queue_is_transparent (before es : List ThreadEvent) (s t : Sys (Dispatch Note))
    (o : List Effect) (o1 : List Signal) (username : String)
    (hbefore : run (threadStep env) (.queued env) before = some (s, o))
    (hmid : ∀ e ∈ mainEvents es, e.isCall = false)
    (hG : Meets (signalStep env) Transparent s (.main (.authenticate username) :: es))
    (h : run (signalStep env) s (.main (.authenticate username) :: es) = some (t, o1))
    (hdrained : t.queue.flight = []) :
    o1 = allSignals env { s.proxy with m_authMessageQueue := false }
      (.authenticate username :: mainEvents es) := by
  obtain ⟨s1, out1, out2, hstep, hrest, rfl⟩ := run_cons_iff.mp h
  obtain ⟨hg, hG1⟩ := hG s1 out1 hstep
  obtain ⟨hsane, hqueue⟩ := queued_sane env hbefore
  obtain ⟨hshadowed, rfl, howed⟩ := authenticate_shadowed env hsane hqueue (hg rfl) hstep
  have hnone : owed t = [] := by
    unfold owed Dispatch.waiting
    rw [hdrained, ite_self]
    rfl
  have hrun := run_shadowed env hshadowed hmid hG1 hrest
  rw [hnone, howed, List.append_nil, List.nil_append] at hrun
  rw [List.nil_append, hrun]
  rfl

instance (s : Sys (Dispatch Note)) : ∀ e, Decidable (Undisturbed s e)
  | .main e => inferInstanceAs (Decidable (e.isCall = true → s.queue.q.posted = []))
  | .deliver => .isTrue trivial
  | .thread .main => .isTrue trivial
  | .thread (.worker act) =>
    match act with
    | .emit => inferInstanceAs (Decidable (s.queue.stopping = false))
    | .check => .isTrue trivial
    | .acquire => .isTrue trivial
    | .acquireTimeout => .isTrue trivial
    | .dequeue => .isTrue trivial
    | .readClock _ => .isTrue trivial
    | .waitTimeout => .isTrue trivial

instance (s : Sys (Dispatch Note)) : ∀ e, Decidable (Transparent s e)
  | .deliver =>
    match h : s.queue.deliver with
    | some (⟨.complete _, _⟩, _) =>
      decidable_of_iff (s.proxy.m_authSessionID = "") (by simp only [Transparent, h])
    | some (⟨.message _ _, _⟩, _) => .isTrue (by simp only [Transparent, h])
    | some (⟨.prompt _ _ _, _⟩, _) => .isTrue (by simp only [Transparent, h])
    | none => .isTrue (by simp only [Transparent, h])
  | .main e => inferInstanceAs (Decidable (Undisturbed s (.main e)))
  | .thread t => inferInstanceAs (Decidable (Undisturbed s (.thread t)))

/-- The rest of `authenticate`, until it has started the worker again. -/
def beginQuietly : List ThreadEvent := stopQuietly ++ [.thread .main]

/-- A message and a prompt are delivered one after the other. -/
def welcomeAndAsk : List ThreadEvent :=
  beginQuietly ++ [.main (.pamMessage "Welcome" .Info)] ++ emitOne ++ [.deliver] ++
    [.main (.pamPrompt "alice" none "Password: " .Secret)] ++ emitOne ++ [.deliver]

theorem welcomeAndAsk_is_transparent :
    ∃ s t o1, run (signalStep sampleEnv) (.queued sampleEnv) [.thread .main] = some (s, []) ∧
      run (signalStep sampleEnv) s (.main (.authenticate "alice") :: welcomeAndAsk) =
        some (t, o1) ∧
      o1 = allSignals sampleEnv { s.proxy with m_authMessageQueue := false }
        (.authenticate "alice" :: mainEvents welcomeAndAsk) :=
  ⟨_, _, _, rfl, rfl, the_queue_is_transparent sampleEnv [.thread .main] welcomeAndAsk _ _ []
    _ "alice" rfl (by decide) (by decide) rfl rfl⟩

/-- A message that is posted before the attempt is delivered in it. And a completion that
waits in the queue ends the session that was created after it, whose messages are then not
heard. -/
theorem old_signals_and_late_completions_show :
    (∃ s o t o1, run (threadStep sampleEnv) (.queued sampleEnv)
        ([.thread .main, .main (.pamMessage "Welcome" .Info)] ++ emitOne) = some (s, o) ∧
      run (signalStep sampleEnv) s
        ([.main (.authenticate "alice")] ++ beginQuietly ++ [.deliver]) = some (t, o1) ∧
      t.queue.flight = [] ∧
      o1 ≠ allSignals sampleEnv { s.proxy with m_authMessageQueue := false }
        [.authenticate "alice"]) ∧
    ∃ s o t o1, run (threadStep sampleEnv) (.queued sampleEnv) [.thread .main] = some (s, o) ∧
      run (signalStep sampleEnv) s
        ([.main (.authenticate "alice")] ++ beginQuietly ++
          [.main (.pamComplete true), .thread .main, .thread .main,
            .main (.pamPrompt "alice" (some ("s1", "key")) "ReqAuthSid" .Secret)] ++
          emitOne.drop 2 ++
          [.deliver, .main (.serviceMessages "Touch the sensor" 4 "s1")]) = some (t, o1) ∧
      t.queue.flight = [] ∧
      o1 ≠ allSignals sampleEnv { s.proxy with m_authMessageQueue := false }
        [.authenticate "alice", .pamComplete true,
          .pamPrompt "alice" (some ("s1", "key")) "ReqAuthSid" .Secret,
          .serviceMessages "Touch the sensor" 4 "s1"] :=
  ⟨⟨_, _, _, _, rfl, rfl, rfl, by decide⟩, ⟨_, _, _, _, rfl, rfl, rfl, by decide⟩⟩

end session_guard.auth_runs
