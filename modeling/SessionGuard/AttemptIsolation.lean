-- What `stopDispatcher` clears: every message that the worker has not posted.
-- A call of `authenticate` or `cancelAuthentication` isolates the attempts
-- only when nothing is posted before it and nothing is emitted during it.
import SessionGuard.AuthProxyLaws

open machine

namespace session_guard.auth_msg_queue

/-! ## Programs that flush the queue -/

/-- The rest of the main thread's steps leaves the worker idle and the queue
empty before it starts the worker again or ends. `idle` and `empty` say
what holds already. -/
def Flushes {ν : Type} : Prop → Prop → List (MainOp ν) → Prop
  | idle, empty, [] => idle ∧ empty
  | idle, empty, .start :: _ => idle ∧ empty
  | _, _, .stop :: ops => Flushes True True ops
  | _, empty, .join :: ops => Flushes True empty ops
  | idle, _, .clear :: ops => Flushes idle idle ops
  | idle, _, .enqueue _ :: ops => Flushes idle False ops
  | idle, empty, _ :: ops => Flushes idle empty ops

theorem Flushes.mono {ν : Type} {ops : List (MainOp ν)} {a b a' b' : Prop} (ha : a → a')
    (hb : b → b') (h : Flushes a b ops) : Flushes a' b' ops := by
  induction ops generalizing a b a' b' with
  | nil => exact ⟨ha h.1, hb h.2⟩
  | cons op ops ih =>
    cases op with
    | start => exact ⟨ha h.1, hb h.2⟩
    | stop => exact h
    | join => exact ih id hb h
    | clear => exact ih ha ha h
    | enqueue e => exact ih ha id h
    | _ => exact ih ha hb h

/-- The worker is in `doDispatcher` only while the thread runs. -/
def Sane {ν : Type} (q : AuthMsgQueue ν) : Prop := q.isRunning = false → q.worker = .idle

/-- What the main thread still has to do flushes the queue. -/
def Dispatch.Flushed {ν : Type} (d : Dispatch ν) : Prop :=
  Flushes (d.q.worker = .idle) (d.q.m_queue = []) d.ops

theorem sane_step {ν : Type} {d d1 : Dispatch ν} {t : Thread} (hs : Sane d.q)
    (h : d.step t = some d1) : Sane d1.q := by
  obtain ⟨act, q1, -, hq, rfl⟩ | ⟨op, rest, q1, more, -, -, hm, rfl⟩ := Dispatch.step_cases h
  · -- the worker moves only when it is not idle, so the thread runs
    obtain ⟨w, n, x, hw, -, rfl⟩ | ⟨e, rest, hw, -, rfl⟩ | ⟨e, b, -, hw, rfl⟩ :=
      doDispatcher_cases hq <;> intro hrun
    · exact absurd (hs hrun) hw
    · exact absurd (hs hrun) (by simp [hw])
    · exact absurd (hs hrun) (by simp [hw])
  · cases op with
    | start =>
      simp only [mainStep] at hm
      split_ifs at hm <;> cases hm
      · exact hs
      · simp [Sane]
    | acquire n =>
      simp only [mainStep] at hm
      split_ifs at hm
      cases hm
      exact hs
    | wakeAll =>
      simp only [mainStep] at hm
      split at hm <;> cases hm
      · rename_i e ms hw
        intro hrun
        exact absurd (hs hrun) (by simp [hw])
      · exact hs
    | join =>
      simp only [mainStep] at hm
      split at hm <;> cases hm
      rename_i hw
      exact fun _ => hw
    | _ => cases hm; exact hs

/-- The messages that the worker or the queue holds are gone, or the rest of
the main thread's steps still flushes them. -/
theorem flushed_step {ν : Type} {d d1 : Dispatch ν} {t : Thread} (hs : Sane d.q)
    (hf : d.Flushed) (h : d.step t = some d1) :
    d1.Flushed ∨ d1.q.worker.held ++ d1.q.m_queue = [] := by
  unfold Dispatch.Flushed at hf ⊢
  obtain ⟨act, q1, -, hq, rfl⟩ | ⟨op, rest, q1, more, -, hops, hm, rfl⟩ := Dispatch.step_cases h
  · refine Or.inl ?_
    obtain ⟨w, n, x, hw, -, rfl⟩ | ⟨e, rest, hw, hm, rfl⟩ | ⟨e, b, -, hw, rfl⟩ :=
      doDispatcher_cases hq
    · exact hf.mono (fun hi => absurd hi hw) id
    · exact hf.mono (fun hi => by simp [hw] at hi) (fun he => by simp [hm] at he)
    · exact hf.mono (fun hi => by simp [hw] at hi) id
  · rw [hops] at hf
    cases op with
    | start =>
      refine Or.inr ?_
      simp only [mainStep] at hm
      split_ifs at hm <;> cases hm
      · simp [hf.1, hf.2, Worker.held]
      · simp [hf.2, Worker.held]
    | stop =>
      refine Or.inl ?_
      cases hm
      have hrest : Flushes True True rest := hf
      by_cases hrun : d.q.isRunning = true
      · -- the second `cancelAndStop` comes after the join
        simpa [hrun, stopRunning, cancelAndStop, Flushes] using hrest
      · -- the thread does not run, so the worker is idle already
        have hidle := hs (by simpa using hrun)
        simpa [hrun, cancelAndStop, Flushes, hidle] using hrest
    | acquire n =>
      simp only [mainStep] at hm
      split_ifs at hm
      cases hm
      exact Or.inl hf
    | clear =>
      cases hm
      exact Or.inl (Flushes.mono id (fun _ => rfl) hf)
    | enqueue e =>
      cases hm
      exact Or.inl (Flushes.mono id False.elim hf)
    | wakeAll =>
      refine Or.inl ?_
      simp only [mainStep] at hm
      split at hm <;> cases hm
      · rename_i e ms hw
        exact Flushes.mono (fun hi => by simp [hw] at hi) id hf
      · exact hf
    | join =>
      refine Or.inl ?_
      simp only [mainStep] at hm
      split at hm <;> cases hm
      rename_i hw
      exact Flushes.mono (fun _ => hw) id hf
    | _ => cases hm; exact Or.inl hf

/-- Outside `stopDispatcher`, a flushed worker is idle. -/
theorem Flushes.idle {ν : Type} {ops : List (MainOp ν)} {a b : Prop} (h : Flushes a b ops)
    (hstop : ops.any MainOp.stops = false) : a := by
  induction ops generalizing b with
  | nil => exact h.1
  | cons op ops ih =>
    simp only [List.any_cons, Bool.or_eq_false_iff] at hstop
    cases op with
    | start => exact h.1
    | enqueue e => exact ih h hstop.2
    | release => exact ih h hstop.2
    | _ => simp [MainOp.stops] at hstop

/-- The steps of either thread put no new message in. -/
theorem pending_step {ν : Type} {d d1 : Dispatch ν} {t : Thread} (h : d.step t = some d1) :
    ∀ e ∈ pending d1.ops, e ∈ pending d.ops := by
  obtain ⟨act, q1, -, -, rfl⟩ | ⟨op, rest, q1, more, -, hops, hm, rfl⟩ := Dispatch.step_cases h
  · exact fun e he => he
  · intro e he
    have hrest : pending (op :: rest) = pending [op] ++ pending rest := pending_append [op] rest
    rw [mainStep_pending hm, List.nil_append] at he
    rw [hops, hrest]
    exact List.mem_append_right _ he

end session_guard.auth_msg_queue

namespace session_guard.auth_runs

open auth_msg_queue auth_proxy

variable (env : Env)

/-! ## The attempts -/

/-- Whatever the main thread's event loop delivers next was appended after the
latest call of `authenticate` or `cancelAuthentication`. -/
def Isolated (s : Sys (Dispatch Note)) : Prop :=
  ∀ e d, s.queue.deliver = some (e, d) → e.note.call = s.calls

/-- `authenticate` and `cancelAuthentication` are called when no signal is
posted, and the worker emits nothing while the main thread is inside
`stopDispatcher`. -/
def Undisturbed (s : Sys (Dispatch Note)) : ThreadEvent → Prop
  | .main e => e.isCall = true → s.queue.q.posted = []
  | .thread (.worker .emit) => s.queue.stopping = false
  | _ => True

instance (s : Sys (Dispatch Note)) : (e : ThreadEvent) → Decidable (Undisturbed s e)
  | .main _ => inferInstanceAs (Decidable (_ → _))
  | .deliver => .isTrue trivial
  | .thread .main => .isTrue trivial
  | .thread (.worker act) =>
    match act with
    | .emit => inferInstanceAs (Decidable (_ = _))
    | .check => .isTrue trivial
    | .acquire => .isTrue trivial
    | .acquireTimeout => .isTrue trivial
    | .dequeue => .isTrue trivial
    | .readClock _ => .isTrue trivial
    | .waitTimeout => .isTrue trivial

/-- What holds between the steps of such a run. -/
structure IsolationInv (s : Sys (Dispatch Note)) : Prop where
  hasQueue : s.proxy.m_authMessageQueue = true
  sane : Sane s.queue.q
  posted : ∀ e ∈ s.queue.q.posted, e.note.call = s.calls
  pending : ∀ e ∈ pending s.queue.ops, e.note.call = s.calls
  inside : s.queue.Flushed ∨
    ∀ e ∈ s.queue.q.worker.held ++ s.queue.q.m_queue, e.note.call = s.calls

theorem handler_hasQueue (p : AuthProxy) (e : Event) :
    (e.handler env p).1.m_authMessageQueue = p.m_authMessageQueue := by
  cases e with
  | cancelAuthentication => exact stopAuthSession_hasQueue p
  | pamComplete b =>
    obtain ⟨rest, -, -, heq⟩ := handlePamAuthComplete_eq p b
    simp only [Event.handler, heq, stopAuthSession_hasQueue]
  | pamPrompt user reply text type =>
    simp only [Event.handler, AuthProxy.handlePamAuthShowPrompt]
    split_ifs <;> try rfl
    rcases reply with _ | ⟨sid, key⟩ <;> rfl
  | serviceMessages msg type sid =>
    simp only [Event.handler, AuthProxy.handleAuthServiceAuthMessages]
    split_ifs <;> rfl
  | _ => rfl

/-- The two calls stop the dispatcher first, and append nothing. -/
theorem call_ops (p : AuthProxy) {e : Event} (note : Note) (hq : p.m_authMessageQueue = true)
    (hcall : e.isCall = true) :
    ∃ ops, mainOps note (e.handler env p).2 = .stop :: ops ∧ Flushes True True ops ∧
      pending ops = [] := by
  cases e with
  | authenticate u =>
    exact ⟨[.start], by simp [Event.handler, AuthProxy.authenticate, hq, mainOps],
      ⟨trivial, trivial⟩, rfl⟩
  | cancelAuthentication =>
    refine ⟨[], ?_, ⟨trivial, trivial⟩, rfl⟩
    simp only [Event.handler, AuthProxy.cancelAuthentication, AuthProxy.stopAuthSession, hq,
      if_true]
    split_ifs <;> rfl
  | _ => simp [Event.isCall] at hcall

theorem isolation_main {s s1 : Sys (Dispatch Note)} {e : Event} {o : List Effect}
    (hs : IsolationInv s) (hops : s.queue.ops = []) (hg : e.isCall = true → s.queue.q.posted = [])
    (h : handle Dispatch.call env s e = some (s1, o)) : IsolationInv s1 := by
  obtain ⟨-, -, rfl⟩ := handle_eq_some env h
  have hqueue := (handler_hasQueue env s.proxy e).trans hs.hasQueue
  by_cases hcall : e.isCall = true
  · obtain ⟨ops, hmain, hflush, hpend⟩ := call_ops env s.proxy ⟨e.issuer, s.calls⟩ hs.hasQueue hcall
    refine ⟨hqueue, hs.sane, ?_, ?_, Or.inl ?_⟩
    · simp [Sys.after, Dispatch.call, hg hcall]
    · simp [Sys.after, Dispatch.call, hops, hmain, pending, hpend]
    · simpa [Sys.after, Dispatch.call, Dispatch.Flushed, hops, hmain, Flushes] using hflush
  · simp only [Bool.not_eq_true] at hcall
    refine ⟨hqueue, hs.sane, ?_, ?_, Or.inr ?_⟩
    · simpa [Sys.after, Dispatch.call, hcall] using hs.posted
    · simp only [Sys.after, Dispatch.call, hops, List.nil_append, hcall]
      intro x hx
      obtain ⟨m, -, rfl⟩ := mem_pending_mainOps.mp hx
      rfl
    · -- in the event loop, flushed means empty
      simp only [Sys.after, Dispatch.call, hcall]
      rcases hs.inside with hf | hin
      · rw [Dispatch.Flushed, hops] at hf
        simp [hf.1, hf.2, Worker.held]
      · exact hin

theorem isolation_deliver {s s1 : Sys (Dispatch Note)} {x : Entry Note} {d : Dispatch Note}
    {o : List Effect} (hs : IsolationInv s) (hd : s.queue.deliver = some (x, d))
    (h : receive Dispatch.call { s with queue := d } x = some (s1, o)) : IsolationInv s1 := by
  obtain ⟨-, -, rfl⟩ := receive_eq_some h
  obtain ⟨hops, hops1, hposted, hq⟩ := Dispatch.deliver_eq_some hd
  have hmain : mainOps x.note (s.proxy.handleAuthQueue x.msg).2 = [] := by
    rcases x.msg with ⟨f, t, m⟩ | ⟨t, m⟩ | r
    · rfl
    · rfl
    · simp only [AuthProxy.handleAuthQueue, AuthProxy.handleAuthQueueComplete,
        AuthProxy.stopAuthSession]
      split_ifs <;> rfl
  have hkeep : (s.proxy.handleAuthQueue x.msg).1.m_authMessageQueue = true := by
    rcases x.msg with ⟨f, t, m⟩ | ⟨t, m⟩ | r
    · exact hs.hasQueue
    · exact hs.hasQueue
    · exact (stopAuthSession_hasQueue s.proxy).trans hs.hasQueue
  have hinside := hs.inside
  have hsane := hs.sane
  simp only [Dispatch.Flushed, hops] at hinside
  refine ⟨hkeep, ?_, ?_, ?_, ?_⟩
  · simp only [Sys.after, Dispatch.call]
    rw [hq]
    exact hsane
  · simp only [Sys.after, Dispatch.call]
    exact fun e he => hs.posted e (hposted ▸ List.mem_cons_of_mem _ he)
  · simp [Sys.after, Dispatch.call, hops1, hmain, pending]
  · simp only [Sys.after, Dispatch.call, Dispatch.Flushed, hops1, hmain, List.append_nil]
    rw [hq]
    exact hinside

theorem isolation_thread {s : Sys (Dispatch Note)} {t : Thread} {d : Dispatch Note}
    (hs : IsolationInv s) (hg : t = .worker .emit → s.queue.stopping = false)
    (hd : s.queue.step t = some d) : IsolationInv { s with queue := d } := by
  refine ⟨hs.hasQueue, sane_step hs.sane hd, ?_,
    fun e he => hs.pending e (pending_step hd e he), ?_⟩
  · intro e he
    rcases Dispatch.step_posted hd with hp | ⟨x, rfl, hx, hp⟩
    · exact hs.posted e (hp ▸ he)
    · rw [hp] at he
      rcases List.mem_append.mp he with he | he
      · exact hs.posted e he
      · obtain rfl := List.mem_singleton.mp he
        rcases hs.inside with hf | hin
        · -- a flushed worker is idle here, and holds nothing to emit
          have hidle := Flushes.idle hf (hg rfl)
          simp [hidle, Worker.held] at hx
        · exact hin e (List.mem_append_left _ hx)
  · rcases hs.inside with hf | hin
    · rcases flushed_step hs.sane hf hd with hf | hnil
      · exact Or.inl hf
      · exact Or.inr (by simp [hnil])
    · refine Or.inr fun e he => ?_
      have hmem : e ∈ s.queue.flight := by
        refine (Dispatch.step_flight hd).subset ?_
        simp only [Dispatch.flight, List.mem_append] at he ⊢
        tauto
      simp only [Dispatch.flight, List.mem_append] at hmem
      rcases hmem with hp | hh | hq | hp
      · exact hs.posted e hp
      · exact hin e (List.mem_append_left _ hh)
      · exact hin e (List.mem_append_right _ hq)
      · exact hs.pending e hp

theorem isolation_step {s s1 : Sys (Dispatch Note)} {e : ThreadEvent} {o : List Effect}
    (hs : IsolationInv s) (hg : Undisturbed s e) (h : threadStep env s e = some (s1, o)) :
    IsolationInv s1 := by
  obtain ⟨x, rfl, hloop, h⟩ | ⟨x, d, rfl, hd, h⟩ | ⟨t, d, rfl, hd, rfl, -⟩ := threadStep_cases env h
  · exact isolation_main env hs hloop hg h
  · exact isolation_deliver hs hd h
  · exact isolation_thread hs (fun ht => by subst ht; exact hg) hd

/-- In every run where each call of `authenticate` or `cancelAuthentication`
finds no posted signal, and where the worker emits nothing during a call, no
message of before a call is delivered after it. -/
theorem no_message_crosses_a_call {es : List ThreadEvent} {t : Sys (Dispatch Note)}
    {o : List Effect} (hG : Meets (threadStep env) Undisturbed (.queued env) es)
    (h : run (threadStep env) (.queued env) es = some (t, o)) : Isolated t := by
  have hinit : IsolationInv (.queued env) :=
    ⟨rfl, fun _ => rfl, by simp [Sys.queued], by simp [Sys.queued, pending], Or.inl ⟨rfl, rfl⟩⟩
  have hinv : IsolationInv t :=
    run_inv_of_meets (fun s e s1 o1 hs hg hstep => isolation_step env hs hg hstep) hinit hG h
  intro e d hd
  exact hinv.posted e (by simp [(Dispatch.deliver_eq_some hd).2.2.1])

/-- The worker takes a message as soon as it is appended, and emits it. -/
def emitOne : List ThreadEvent :=
  [.thread .main, .thread .main, .thread (.worker .check), .thread (.worker .acquire),
    .thread (.worker .dequeue), .thread (.worker (.readClock 100)),
    .thread (.worker (.readClock 100)), .thread (.worker .emit)]

/-- `stopDispatcher` of a running thread, from the event loop to the event
loop, where the worker sees the interruption at its next check. -/
def stopQuietly : List ThreadEvent :=
  [.thread .main, .thread .main, .thread (.worker .check)] ++
    (List.replicate 11 (.thread .main))

/-- A signal that is posted before `cancelAuthentication` is delivered after
it. -/
theorem a_posted_message_crosses_a_cancel :
    ¬ ∀ es t o, run (threadStep sampleEnv) (.queued sampleEnv) es = some (t, o) → Isolated t := by
  intro h
  have := h ([.thread .main, .main (.pamMessage "Welcome" .Info)] ++ emitOne ++
    [.main .cancelAuthentication] ++ stopQuietly) _ _ rfl _ _ rfl
  exact absurd this (by decide)

/-- A message that is shown before the cancel, and one that the worker has not taken when the cancel
begins. -/
def quietCancel : List ThreadEvent :=
  [.thread .main, .main (.pamMessage "Welcome" .Info)] ++ emitOne ++
    [.deliver, .main (.pamMessage "Last login: today" .Info), .thread .main, .thread .main,
      .main .cancelAuthentication] ++ stopQuietly

/-- A cancel with nothing posted, and with a worker that sees the interruption,
isolates: the message that was on its way is gone. -/
theorem a_quiet_cancel_isolates :
    ∃ t o, run (threadStep sampleEnv) (.queued sampleEnv) quietCancel = some (t, o) ∧
      t.queue.flight = [] ∧ Isolated t := by
  have hrun : ∃ t o, run (threadStep sampleEnv) (.queued sampleEnv) quietCancel = some (t, o) ∧
      t.queue.flight = [] := ⟨_, _, rfl, rfl⟩
  obtain ⟨t, o, h, hempty⟩ := hrun
  refine ⟨t, o, h, hempty, no_message_crosses_a_call sampleEnv ?_ h⟩
  decide

end session_guard.auth_runs
