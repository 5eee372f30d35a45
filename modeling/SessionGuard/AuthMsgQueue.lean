-- `AuthMsgQueue`: the queue of authentication messages between the main
-- thread and the dispatcher thread. Each operation on the semaphore, each
-- section under `m_queueLock` and each access to a field is one step, so that
-- the two threads may interleave between any two of them.
import SessionGuard.AuthDefine

namespace session_guard.auth_msg_queue

/-! ## Messages -/

/-- `AuthMsg`: the type, and what the union holds for it. -/
inductive AuthMsg
  | prompt (promptFrom : PromptFrom) (promptType : PromptType) (msg : String)
  | message (messageType : MessageType) (msg : String)
  | complete (authRes : Bool)
  deriving DecidableEq

def AuthMsg.isPrompt : AuthMsg → Bool
  | .prompt _ _ _ => true
  | _ => false

/-- A message in the queue. The code carries only `msg`; `note` is what the
laws remember about where the message came from. -/
structure Entry (ν : Type) where
  msg : AuthMsg
  note : ν
  deriving DecidableEq

/-! ## The two threads -/

/-- Where `doDispatcher` stands in the dispatcher thread. -/
inductive Worker (ν : Type)
  | idle
  | check
  /-- In `tryAcquire`. -/
  | fetch
  /-- `tryAcquire` gave a permit. -/
  | dequeue
  | fetched (e : Entry ν)
  /-- In the wait for the time to show the message, for `ms` milliseconds. -/
  | waiting (e : Entry ν) (ms : UInt64)
  /-- Before the show time is written down. -/
  | ready (e : Entry ν)
  | emitting (e : Entry ν)

/-- The message that the worker has taken out of the queue. -/
def Worker.held {ν : Type} : Worker ν → List (Entry ν)
  | .fetched e => [e]
  | .waiting e _ => [e]
  | .ready e => [e]
  | .emitting e => [e]
  | _ => []

/-- The queue, its thread, and the events that the worker's signals have
posted to the main thread. -/
structure AuthMsgQueue (ν : Type) where
  m_queue : List (Entry ν) := []
  m_queueSem : Nat := 0
  m_interval : Int := 2
  m_msgShowTime : UInt64 := 0
  m_havePrompted : Bool := false
  isRunning : Bool := false
  isInterruptionRequested : Bool := false
  worker : Worker ν := .idle
  posted : List (Entry ν) := []

variable {ν : Type}

/-! ## The dispatcher thread -/

/-- What the dispatcher thread does next. `upTime` is what `getUpTime` gives. -/
inductive WorkerAct
  | check
  | acquire
  | acquireTimeout
  | dequeue
  | readClock (upTime : UInt64)
  | waitTimeout
  | emit

namespace AuthMsgQueue

/-- `doDispatcher`, one step at a time. -/
def doDispatcher (q : AuthMsgQueue ν) (act : WorkerAct) : Option (AuthMsgQueue ν) :=
  match q.worker, act with
  | .check, .check =>
    some { q with worker := if q.isInterruptionRequested then .idle else .fetch }
  | .fetch, .acquire =>
    if 0 < q.m_queueSem then
      some { q with m_queueSem := q.m_queueSem - 1, worker := .dequeue }
    else none
  | .fetch, .acquireTimeout =>
    if q.m_queueSem = 0 then some { q with worker := .check } else none
  | .dequeue, .dequeue =>
    match q.m_queue with
    | [] => some { q with worker := .check }
    | e :: rest => some { q with m_queue := rest, worker := .fetched e }
  | .fetched e, .readClock upTime =>
    let msgShowTime := q.m_msgShowTime + UInt64.ofInt q.m_interval
    -- the first prompt does not wait
    if !(e.msg.isPrompt && !q.m_havePrompted) && msgShowTime > upTime then
      some { q with worker := .waiting e ((msgShowTime - upTime) * 1000) }
    else some { q with worker := .ready e }
  | .waiting e _, .waitTimeout => some { q with worker := .ready e }
  | .ready e, .readClock upTime =>
    some { q with m_msgShowTime := upTime, worker := .emitting e }
  | .emitting e, .emit =>
    some { q with
      m_havePrompted := q.m_havePrompted || e.msg.isPrompt
      posted := q.posted ++ [e]
      worker := .check }
  | _, _ => none

end AuthMsgQueue

/-! ## The main thread -/

/-- A step of the main thread in a function of the queue. What is done under `m_queueLock` is one
step. -/
inductive MainOp (ν : Type)
  | enqueue (e : Entry ν)
  | release
  /-- The whole of `startDispatcher`. -/
  | start
  /-- The test of `isRunning` in `stopDispatcher`. -/
  | stop
  | requestInterruption
  | available
  | acquire (n : Nat)
  | clear
  | wakeAll
  /-- `m_msgShowTime = 0`. -/
  | reset
  /-- `quit` and `wait`. -/
  | join

/-- The step belongs to `stopDispatcher`. -/
def MainOp.stops {ν : Type} : MainOp ν → Bool
  | .enqueue _ => false
  | .release => false
  | .start => false
  | _ => true

/-- `append`. -/
def append (e : Entry ν) : List (MainOp ν) := [.enqueue e, .release]

/-- `cancelAndStop`. -/
def cancelAndStop : List (MainOp ν) := [.available, .clear, .wakeAll, .reset]

/-- `stopDispatcher`, when the thread is running. -/
def stopRunning : List (MainOp ν) :=
  [.requestInterruption] ++ cancelAndStop ++ [.join] ++ cancelAndStop

/-- One step of the main thread, with the steps that it puts in front of the
rest. `acquire` blocks for permits, and `join` until `doDispatcher` returns. -/
def mainStep (q : AuthMsgQueue ν) : MainOp ν → Option (AuthMsgQueue ν × List (MainOp ν))
  | .enqueue e => some ({ q with m_queue := q.m_queue ++ [e] }, [])
  | .release => some ({ q with m_queueSem := q.m_queueSem + 1 }, [])
  | .start =>
    if q.isRunning then some (q, [])
    else some ({ q with isRunning := true, isInterruptionRequested := false, worker := .check }, [])
  | .stop => some (q, if q.isRunning then stopRunning else cancelAndStop)
  | .requestInterruption => some ({ q with isInterruptionRequested := true }, [])
  | .available => some (q, [.acquire q.m_queueSem])
  | .acquire n =>
    if n ≤ q.m_queueSem then some ({ q with m_queueSem := q.m_queueSem - n }, []) else none
  | .clear => some ({ q with m_queue := [] }, [])
  | .wakeAll =>
    match q.worker with
    | .waiting _ _ => some ({ q with worker := .check }, [])
    | _ => some (q, [])
  | .reset => some ({ q with m_msgShowTime := 0 }, [])
  | .join =>
    match q.worker with
    | .idle => some ({ q with isRunning := false }, [])
    | _ => none

/-! ## The two threads together -/

/-- The queue, and what the main thread still has to do on it before it is
back in its event loop. -/
structure Dispatch (ν : Type) where
  q : AuthMsgQueue ν := {}
  ops : List (MainOp ν) := []

/-- A step of either thread. -/
inductive Thread
  | main
  | worker (act : WorkerAct)

namespace Dispatch

/-- The main thread has returned from every function of the queue. -/
def AtLoop (d : Dispatch ν) : Prop := d.ops = []

instance (d : Dispatch ν) : Decidable d.AtLoop :=
  match h : d.ops with
  | [] => .isTrue h
  | _ :: _ => .isFalse (by simp [AtLoop, h])

/-- The main thread is inside `stopDispatcher`. -/
def stopping (d : Dispatch ν) : Bool := d.ops.any MainOp.stops

/-- The main thread goes on to more functions of the queue. -/
def call (d : Dispatch ν) (ops : List (MainOp ν)) : Dispatch ν := { d with ops := d.ops ++ ops }

def step (d : Dispatch ν) : Thread → Option (Dispatch ν)
  | .main =>
    match d.ops with
    | [] => none
    | op :: rest => (mainStep d.q op).map fun (q, more) => ⟨q, more ++ rest⟩
  | .worker act => (d.q.doDispatcher act).map fun q => { d with q := q }

/-- The main thread's event loop takes the oldest posted signal. -/
def deliver (d : Dispatch ν) : Option (Entry ν × Dispatch ν) :=
  match d.ops, d.q.posted with
  | [], e :: rest => some (e, { d with q := { d.q with posted := rest } })
  | _, _ => none

end Dispatch

/-! ## Where the messages are -/

/-- The messages that the steps of the main thread will still put in. -/
def pending : List (MainOp ν) → List (Entry ν)
  | [] => []
  | .enqueue e :: ops => e :: pending ops
  | _ :: ops => pending ops

theorem pending_append (xs ys : List (MainOp ν)) :
    pending (xs ++ ys) = pending xs ++ pending ys := by
  induction xs with
  | nil => rfl
  | cons op xs ih => cases op <;> simp [pending, ih]

namespace Dispatch

/-- The messages that are neither delivered nor dropped, oldest first. -/
def flight (d : Dispatch ν) : List (Entry ν) :=
  d.q.posted ++ (d.q.worker.held ++ (d.q.m_queue ++ pending d.ops))

@[simp] theorem flight_call (d : Dispatch ν) (ops : List (MainOp ν)) :
    (d.call ops).flight = d.flight ++ pending ops := by
  simp [flight, call, pending_append]

theorem deliver_eq_some {d d1 : Dispatch ν} {e : Entry ν} (h : d.deliver = some (e, d1)) :
    d.ops = [] ∧ d1.ops = [] ∧ d.q.posted = e :: d1.q.posted ∧
      d1.q = { d.q with posted := d1.q.posted } := by
  unfold deliver at h
  rcases hops : d.ops with _ | ⟨op, ops⟩ <;> rcases hp : d.q.posted with _ | ⟨e1, rest⟩ <;>
    simp only [hops, hp, reduceCtorEq, Option.some.injEq, Prod.mk.injEq] at h
  obtain ⟨rfl, rfl⟩ := h
  exact ⟨rfl, rfl, rfl, rfl⟩

/-- A delivery takes the oldest message. -/
theorem flight_deliver {d d1 : Dispatch ν} {e : Entry ν} (h : d.deliver = some (e, d1)) :
    d.flight = e :: d1.flight := by
  obtain ⟨h1, h2, h3, h4⟩ := deliver_eq_some h
  simp only [flight, h1, h2, h3]
  rw [h4]
  simp

end Dispatch

/-! ## What a step of either thread does to the messages -/

/-- The message is not the first prompt, and its time to be shown has not come. -/
def AuthMsgQueue.mustWait (q : AuthMsgQueue ν) (e : Entry ν) (upTime : UInt64) : Bool :=
  !(e.msg.isPrompt && !q.m_havePrompted) && q.m_msgShowTime + UInt64.ofInt q.m_interval > upTime

/-- The steps of the worker. -/
inductive Moves (q : AuthMsgQueue ν) : WorkerAct → AuthMsgQueue ν → Prop
  | check (hw : q.worker = .check) :
    Moves q .check { q with worker := if q.isInterruptionRequested then .idle else .fetch }
  | acquire (hw : q.worker = .fetch) (hs : 0 < q.m_queueSem) :
    Moves q .acquire { q with m_queueSem := q.m_queueSem - 1, worker := .dequeue }
  | timeout (hw : q.worker = .fetch) (hs : q.m_queueSem = 0) :
    Moves q .acquireTimeout { q with worker := .check }
  | empty (hw : q.worker = .dequeue) (hq : q.m_queue = []) :
    Moves q .dequeue { q with worker := .check }
  | dequeue {e : Entry ν} {rest : List (Entry ν)} (hw : q.worker = .dequeue)
    (hq : q.m_queue = e :: rest) : Moves q .dequeue { q with m_queue := rest, worker := .fetched e }
  | wait {e : Entry ν} {upTime : UInt64} (hw : q.worker = .fetched e)
    (hm : q.mustWait e upTime = true) :
    Moves q (.readClock upTime) { q with
      worker := .waiting e ((q.m_msgShowTime + UInt64.ofInt q.m_interval - upTime) * 1000) }
  | pass {e : Entry ν} {upTime : UInt64} (hw : q.worker = .fetched e)
    (hm : q.mustWait e upTime = false) : Moves q (.readClock upTime) { q with worker := .ready e }
  | waited {e : Entry ν} {ms : UInt64} (hw : q.worker = .waiting e ms) :
    Moves q .waitTimeout { q with worker := .ready e }
  | record {e : Entry ν} {upTime : UInt64} (hw : q.worker = .ready e) :
    Moves q (.readClock upTime) { q with m_msgShowTime := upTime, worker := .emitting e }
  | emit {e : Entry ν} (hw : q.worker = .emitting e) :
    Moves q .emit { q with
      m_havePrompted := q.m_havePrompted || e.msg.isPrompt
      posted := q.posted ++ [e]
      worker := .check }

theorem moves_of_doDispatcher {q q1 : AuthMsgQueue ν} {act : WorkerAct}
    (h : q.doDispatcher act = some q1) : Moves q act q1 := by
  unfold AuthMsgQueue.doDispatcher at h
  split at h
  · cases h
    exact .check (by assumption)
  · split_ifs at h
    cases h
    exact .acquire (by assumption) (by assumption)
  · split_ifs at h
    cases h
    exact .timeout (by assumption) (by assumption)
  · split at h <;> cases h
    · exact .empty (by assumption) (by assumption)
    · exact .dequeue (by assumption) (by assumption)
  · rename_i e upTime hw
    rcases hm : q.mustWait e upTime with _ | _
    · rw [AuthMsgQueue.mustWait] at hm
      simp only [hm, Bool.false_eq_true, if_false] at h
      cases h
      exact .pass hw hm
    · rw [AuthMsgQueue.mustWait] at hm
      simp only [hm, if_true] at h
      cases h
      exact .wait hw hm
  · cases h
    exact .waited (by assumption)
  · cases h
    exact .record (by assumption)
  · cases h
    exact .emit (by assumption)
  · cases h

theorem doDispatcher_of_moves {q q1 : AuthMsgQueue ν} {act : WorkerAct} (h : Moves q act q1) :
    q.doDispatcher act = some q1 := by
  cases h with
  | wait hw hm =>
    rw [AuthMsgQueue.mustWait] at hm
    simp only [AuthMsgQueue.doDispatcher, hw, hm, if_true]
  | pass hw hm =>
    rw [AuthMsgQueue.mustWait] at hm
    simp only [AuthMsgQueue.doDispatcher, hw, hm, Bool.false_eq_true, if_false]
  | _ => simp_all [AuthMsgQueue.doDispatcher]

/-- What a step of the worker can do with messages: nothing, take the oldest
one out of the queue, or post the one that it holds. -/
theorem doDispatcher_cases {q q1 : AuthMsgQueue ν} {act : WorkerAct}
    (h : q.doDispatcher act = some q1) :
    (∃ w n t, q.worker ≠ .idle ∧ w.held = q.worker.held ∧
      q1 = { q with worker := w, m_queueSem := n, m_msgShowTime := t }) ∨
    (∃ e rest, q.worker = .dequeue ∧ q.m_queue = e :: rest ∧
      q1 = { q with m_queue := rest, worker := .fetched e }) ∨
    (∃ e b, act = .emit ∧ q.worker = .emitting e ∧
      q1 = { q with m_havePrompted := b, posted := q.posted ++ [e], worker := .check }) := by
  cases moves_of_doDispatcher h with
  | dequeue hw hq => exact Or.inr (Or.inl ⟨_, _, hw, hq, rfl⟩)
  | emit hw => exact Or.inr (Or.inr ⟨_, _, rfl, hw, rfl⟩)
  | check hw =>
    refine Or.inl ⟨_, _, _, by simp [hw], ?_, rfl⟩
    split_ifs <;> simp [hw, Worker.held]
  | acquire hw => exact Or.inl ⟨_, _, _, by simp [hw], by simp [hw, Worker.held], rfl⟩
  | timeout hw => exact Or.inl ⟨_, _, _, by simp [hw], by simp [hw, Worker.held], rfl⟩
  | empty hw => exact Or.inl ⟨_, _, _, by simp [hw], by simp [hw, Worker.held], rfl⟩
  | wait hw => exact Or.inl ⟨_, _, _, by simp [hw], by simp [hw, Worker.held], rfl⟩
  | pass hw => exact Or.inl ⟨_, _, _, by simp [hw], by simp [hw, Worker.held], rfl⟩
  | waited hw => exact Or.inl ⟨_, _, _, by simp [hw], by simp [hw, Worker.held], rfl⟩
  | record hw => exact Or.inl ⟨_, _, _, by simp [hw], by simp [hw, Worker.held], rfl⟩

/-- The worker keeps all messages and their order. -/
theorem doDispatcher_flight {q q1 : AuthMsgQueue ν} {act : WorkerAct}
    (h : q.doDispatcher act = some q1) :
    q1.posted ++ (q1.worker.held ++ q1.m_queue) = q.posted ++ (q.worker.held ++ q.m_queue) := by
  obtain ⟨w, n, t, -, hw, rfl⟩ | ⟨e, rest, hw, hq, rfl⟩ | ⟨e, b, -, hw, rfl⟩ := doDispatcher_cases h
  · simp [hw]
  · simp [hw, hq, Worker.held]
  · simp [hw, Worker.held]

/-- A step of the main thread puts no message in but its own, and drops some
only from behind the posted ones. -/
theorem mainStep_flight {q q1 : AuthMsgQueue ν} {op : MainOp ν} {more : List (MainOp ν)}
    (h : mainStep q op = some (q1, more)) :
    q1.posted = q.posted ∧
      List.Sublist (q1.worker.held ++ (q1.m_queue ++ pending more))
        (q.worker.held ++ (q.m_queue ++ pending [op])) := by
  have hpend : pending (stopRunning : List (MainOp ν)) = [] := rfl
  have hpend' : pending (cancelAndStop : List (MainOp ν)) = [] := rfl
  cases op with
  | enqueue e =>
    cases h
    exact ⟨rfl, by simp [pending]⟩
  | release => cases h; exact ⟨rfl, List.Sublist.refl _⟩
  | start =>
    simp only [mainStep] at h
    split_ifs at h <;> cases h
    · exact ⟨rfl, List.Sublist.refl _⟩
    · exact ⟨rfl, by simp [pending, Worker.held]⟩
  | stop =>
    cases h
    refine ⟨rfl, ?_⟩
    split_ifs
    · simp [hpend, pending]
    · simp [hpend', pending]
  | requestInterruption => cases h; exact ⟨rfl, List.Sublist.refl _⟩
  | available => cases h; exact ⟨rfl, by simp [pending]⟩
  | acquire n =>
    simp only [mainStep] at h
    split_ifs at h
    cases h
    exact ⟨rfl, List.Sublist.refl _⟩
  | clear => cases h; exact ⟨rfl, by simp [pending]⟩
  | wakeAll =>
    simp only [mainStep] at h
    split at h <;> cases h
    · exact ⟨rfl, by simp [pending, Worker.held]⟩
    · exact ⟨rfl, List.Sublist.refl _⟩
  | reset => cases h; exact ⟨rfl, List.Sublist.refl _⟩
  | join =>
    simp only [mainStep] at h
    split at h <;> cases h
    exact ⟨rfl, by simp [pending]⟩

/-- The steps that a step puts in front of the rest put no message in. -/
theorem mainStep_pending {q q1 : AuthMsgQueue ν} {op : MainOp ν} {more rest : List (MainOp ν)}
    (h : mainStep q op = some (q1, more)) : pending (more ++ rest) = [] ++ pending rest := by
  rw [pending_append]
  congr 1
  cases op with
  | stop =>
    cases h
    split_ifs <;> rfl
  | start =>
    simp only [mainStep] at h
    split_ifs at h <;> cases h <;> rfl
  | acquire n =>
    simp only [mainStep] at h
    split_ifs at h
    cases h
    rfl
  | wakeAll =>
    simp only [mainStep] at h
    split at h <;> cases h <;> rfl
  | join =>
    simp only [mainStep] at h
    split at h <;> cases h
    rfl
  | _ => cases h; rfl

namespace Dispatch

/-- A step is one of the worker, or the first one that the main thread has to
do. -/
theorem step_cases {d d1 : Dispatch ν} {t : Thread} (h : d.step t = some d1) :
    (∃ act q1, t = .worker act ∧ d.q.doDispatcher act = some q1 ∧ d1 = { d with q := q1 }) ∨
      ∃ op rest q1 more, t = .main ∧ d.ops = op :: rest ∧ mainStep d.q op = some (q1, more) ∧
        d1 = ⟨q1, more ++ rest⟩ := by
  cases t with
  | worker act =>
    obtain ⟨q1, hq, rfl⟩ := Option.map_eq_some_iff.mp h
    exact Or.inl ⟨act, q1, rfl, hq, rfl⟩
  | main =>
    unfold step at h
    rcases hops : d.ops with _ | ⟨op, rest⟩
    · simp [hops] at h
    · simp only [hops, Option.map_eq_some_iff, Prod.exists] at h
      obtain ⟨q1, more, hm, rfl⟩ := h
      exact Or.inr ⟨op, rest, q1, more, rfl, rfl, hm, rfl⟩

/-- Inside the functions of the queue, either thread only drops messages. -/
theorem step_flight {d d1 : Dispatch ν} {t : Thread} (h : d.step t = some d1) :
    List.Sublist d1.flight d.flight := by
  obtain ⟨act, q1, -, hq, rfl⟩ | ⟨op, rest, q1, more, -, hops, hm, rfl⟩ := step_cases h
  · have := doDispatcher_flight hq
    simp only [flight, ← List.append_assoc] at this ⊢
    exact this ▸ List.Sublist.refl _
  · obtain ⟨hp, hs⟩ := mainStep_flight hm
    have hrest : pending (op :: rest) = pending [op] ++ pending rest := pending_append [op] rest
    simp only [flight, hops, hp, hrest, pending_append]
    refine (List.Sublist.refl _).append ?_
    simpa only [List.append_assoc] using hs.append_right (pending rest)

/-- Only the worker's signal posts a message, and it posts one that it holds. -/
theorem step_posted {d d1 : Dispatch ν} {t : Thread} (h : d.step t = some d1) :
    d1.q.posted = d.q.posted ∨
      ∃ e, t = .worker .emit ∧ e ∈ d.q.worker.held ∧ d1.q.posted = d.q.posted ++ [e] := by
  obtain ⟨act, q1, rfl, hq, rfl⟩ | ⟨op, rest, q1, more, -, -, hm, rfl⟩ := step_cases h
  · obtain ⟨w, n, t, -, -, rfl⟩ | ⟨e, rest, -, -, rfl⟩ | ⟨e, b, rfl, hw, rfl⟩ :=
      doDispatcher_cases hq
    · exact Or.inl rfl
    · exact Or.inl rfl
    · exact Or.inr ⟨e, rfl, by simp [hw, Worker.held], rfl⟩
  · exact Or.inl (mainStep_flight hm).1

end Dispatch

end session_guard.auth_msg_queue
