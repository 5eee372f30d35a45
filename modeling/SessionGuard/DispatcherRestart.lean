-- A dispatcher that was stopped and started again, and a new one. `cancelAndStop` puts back the
-- queue, the permits and the show time, but not `m_havePrompted`: the first prompt after a
-- restart waits like any other message when a prompt was emitted before.
import SessionGuard.Machine
import SessionGuard.AttemptIsolation

open machine

namespace session_guard.dispatcher_restart

open auth_msg_queue

variable {ν : Type}

/-! ## The dispatcher and its decisions -/

/-- The calls of the main thread and the steps of both threads. No function of the queue reads
the signals that are posted, so that their delivery is left out. -/
inductive Event (ν : Type)
  | append (e : Entry ν)
  | startDispatcher
  | stopDispatcher
  | thread (t : Thread)

inductive Decision (ν : Type)
  /-- The message waits for so many milliseconds. -/
  | waits (e : Entry ν) (ms : UInt64)
  /-- The message does not wait. -/
  | passes (e : Entry ν)
  | emits (e : Entry ν)
  deriving DecidableEq

/-- What the worker decides in a step that leaves it at `worker`. -/
def decision (q : AuthMsgQueue ν) (worker : Worker ν) : List (Decision ν) :=
  match q.worker, worker with
  | .fetched e, .waiting _ ms => [.waits e ms]
  | .fetched e, .ready _ => [.passes e]
  | .emitting e, .check => [.emits e]
  | _, _ => []

/-- The main thread calls a function of the queue when it is in none. -/
def callAtLoop (d : Dispatch ν) (ops : List (MainOp ν)) :
    Option (Dispatch ν × List (Decision ν)) :=
  if d.AtLoop then some (d.call ops, []) else none

def step : Step (Dispatch ν) (Event ν) (Decision ν)
  | d, .append e => callAtLoop d (append e)
  | d, .startDispatcher => callAtLoop d [.start]
  | d, .stopDispatcher => callAtLoop d [.stop]
  | d, .thread .main => (d.step .main).map fun d1 => (d1, [])
  | d, .thread (.worker act) =>
    (d.step (.worker act)).map fun d1 => (d1, decision d.q d1.q.worker)

/-- A new queue. -/
def new (interval : Int) : Dispatch ν := { q := { m_interval := interval } }

/-- A dispatcher that waits for messages, where a prompt was emitted before or not. -/
def started (interval : Int) (m_havePrompted : Bool) : Dispatch ν where
  q := { m_interval := interval
         m_havePrompted := m_havePrompted
         isRunning := true
         worker := .check }

/-- `stopDispatcher` until it has returned, and `startDispatcher`. -/
def restart (ts : List Thread) : List (Event ν) :=
  .stopDispatcher :: ts.map .thread ++ [.startDispatcher, .thread .main]

/-! ## The law -/

def Decision.isPrompt : Decision ν → Bool
  | .emits e => e.msg.isPrompt
  | _ => false

/-- No prompt waits before one is emitted, where `prompted` says whether one was before. -/
def AtOnce : Bool → List (Decision ν) → Prop
  | _, [] => True
  | prompted, .waits e _ :: o => (e.msg.isPrompt = true → prompted = true) ∧ AtOnce prompted o
  | prompted, .passes _ :: o => AtOnce prompted o
  | prompted, .emits e :: o => AtOnce (prompted || e.msg.isPrompt) o

/-- Whatever is appended and whatever the clock says, the dispatcher decides and emits what a
new one does, and its first prompt does not wait. -/
structure LikeNew (interval : Int) (d : Dispatch ν) : Prop where
  same : ∀ es, outputs step d es = outputs step (new interval) (.startDispatcher ::
    .thread .main :: es)
  atOnce : ∀ es o, outputs step d es = some o → AtOnce false o

/-! ## What a restart leaves -/

/-- The thread has ended. -/
def Ended (q : AuthMsgQueue ν) : Prop := q.worker = .idle ∧ q.isRunning = false

/-- What `stopDispatcher` has cleared when so much of it is left. What it does before it waits
for the thread does not count. -/
inductive Clears : AuthMsgQueue ν → List (MainOp ν) → Prop
  | stop {q} : Clears q [.stop]
  | join {q} (before : List (MainOp ν)) : Clears q (before ++ .join :: cancelAndStop)
  | available {q} (h : Ended q) : Clears q cancelAndStop
  | acquire {q} (h : Ended q) : Clears q [.acquire q.m_queueSem, .clear, .wakeAll, .reset]
  | clear {q} (h : Ended q) (hsem : q.m_queueSem = 0) : Clears q [.clear, .wakeAll, .reset]
  | wakeAll {q} (h : Ended q) (hsem : q.m_queueSem = 0) (hqueue : q.m_queue = []) :
    Clears q [.wakeAll, .reset]
  | reset {q} (h : Ended q) (hsem : q.m_queueSem = 0) (hqueue : q.m_queue = []) :
    Clears q [.reset]
  | done {q} (h : Ended q) (hsem : q.m_queueSem = 0) (hqueue : q.m_queue = [])
    (htime : q.m_msgShowTime = 0) : Clears q []

/-- A worker that moves has not ended, so that it is still waited for. -/
theorem Clears.worker {q q1 : AuthMsgQueue ν} {act : WorkerAct} {ops : List (MainOp ν)}
    (h : Clears q ops) (hq : q.doDispatcher act = some q1) : Clears q1 ops := by
  have hbusy : q.worker ≠ .idle := by
    obtain ⟨w, n, t, hw, -, -⟩ | ⟨e, rest, hw, -, -⟩ | ⟨e, b, -, hw, -⟩ := doDispatcher_cases hq
    · exact hw
    · simp [hw]
    · simp [hw]
  cases h with
  | stop => exact .stop
  | join before => exact .join before
  | available h => exact absurd h.1 hbusy
  | acquire h => exact absurd h.1 hbusy
  | clear h => exact absurd h.1 hbusy
  | wakeAll h => exact absurd h.1 hbusy
  | reset h => exact absurd h.1 hbusy
  | done h => exact absurd h.1 hbusy

theorem Clears.main {q q1 : AuthMsgQueue ν} {op : MainOp ν} {rest more : List (MainOp ν)}
    (hs : Sane q) (h : Clears q (op :: rest)) (hm : mainStep q op = some (q1, more)) :
    Clears q1 (more ++ rest) := by
  generalize hops : op :: rest = ops at h
  cases h with
  | stop =>
    cases hops
    cases hm
    rw [List.append_nil]
    split_ifs with hrun
    · exact .join (.requestInterruption :: cancelAndStop)
    · have hstopped := Bool.eq_false_iff.mpr hrun
      exact .available ⟨hs hstopped, hstopped⟩
  | join before =>
    cases before with
    | nil =>
      cases hops
      simp only [mainStep] at hm
      split at hm <;> cases hm
      rename_i hw
      exact .available ⟨hw, rfl⟩
    | cons op before =>
      cases hops
      show Clears q1 (more ++ (before ++ .join :: cancelAndStop))
      rw [← List.append_assoc]
      exact .join (more ++ before)
  | available h =>
    cases hops
    cases hm
    exact .acquire h
  | acquire h =>
    cases hops
    simp only [mainStep, Nat.le_refl, if_true] at hm
    cases hm
    exact .clear h (Nat.sub_self _)
  | clear h hsem =>
    cases hops
    cases hm
    exact .wakeAll h hsem rfl
  | wakeAll h hsem hqueue =>
    cases hops
    simp only [mainStep, h.1] at hm
    cases hm
    exact .reset h hsem hqueue
  | reset h hsem hqueue =>
    cases hops
    cases hm
    exact .done h hsem hqueue rfl
  | done => cases hops

/-- When `stopDispatcher` has returned, all is cleared. -/
theorem Clears.returned {q : AuthMsgQueue ν} (h : Clears q []) :
    Ended q ∧ q.m_queueSem = 0 ∧ q.m_queue = [] ∧ q.m_msgShowTime = 0 := by
  generalize hops : ([] : List (MainOp ν)) = ops at h
  cases h with
  | done hended hsem hqueue htime => exact ⟨hended, hsem, hqueue, htime⟩
  | join before => simp at hops
  | _ => cases hops

/-- The queue and what it was started with. -/
def Known (interval : Int) (d : Dispatch ν) : Prop := Sane d.q ∧ d.q.m_interval = interval

/-- No function changes the interval. -/
theorem dispatch_known {interval : Int} {d d1 : Dispatch ν} {t : Thread} (hd : Known interval d)
    (h : d.step t = some d1) : Known interval d1 := by
  refine ⟨sane_step hd.1 h, ?_⟩
  have hinterval := hd.2
  obtain ⟨act, q1, -, hq, rfl⟩ | ⟨op, rest, q1, more, -, -, hm, rfl⟩ := Dispatch.step_cases h
  · obtain ⟨w, n, t, -, -, rfl⟩ | ⟨e, rest, -, -, rfl⟩ | ⟨e, b, -, -, rfl⟩ :=
      doDispatcher_cases hq <;> exact hinterval
  · unfold mainStep at hm
    split at hm
    all_goals first
      | (cases hm; exact hinterval)
      | (split_ifs at hm <;> cases hm <;> exact hinterval)
      | (split at hm <;> cases hm <;> exact hinterval)

/-- What an event does: a call, or a step of a thread. -/
theorem step_cases {d d1 : Dispatch ν} {e : Event ν} {o : List (Decision ν)}
    (h : step d e = some (d1, o)) :
    (∃ ops, d.AtLoop ∧ d1 = d.call ops ∧ o = []) ∨
      ∃ t, d.step t = some d1 ∧
        o = match t with
          | .main => []
          | .worker _ => decision d.q d1.q.worker := by
  have hcall : ∀ {ops}, callAtLoop d ops = some (d1, o) →
      ∃ ops, d.AtLoop ∧ d1 = d.call ops ∧ o = [] := by
    intro ops h
    unfold callAtLoop at h
    split_ifs at h with hloop
    cases h
    exact ⟨ops, hloop, rfl, rfl⟩
  cases e with
  | append e => exact Or.inl (hcall h)
  | startDispatcher => exact Or.inl (hcall h)
  | stopDispatcher => exact Or.inl (hcall h)
  | thread t =>
    cases t with
    | main =>
      obtain ⟨d2, hd2, heq⟩ := Option.map_eq_some_iff.mp h
      cases heq
      exact Or.inr ⟨.main, hd2, rfl⟩
    | worker act =>
      obtain ⟨d2, hd2, heq⟩ := Option.map_eq_some_iff.mp h
      cases heq
      exact Or.inr ⟨.worker act, hd2, rfl⟩

theorem step_known {interval : Int} {d d1 : Dispatch ν} {e : Event ν} {o : List (Decision ν)}
    (hd : Known interval d) (h : step d e = some (d1, o)) : Known interval d1 := by
  obtain ⟨ops, -, rfl, -⟩ | ⟨t, ht, -⟩ := step_cases h
  · exact hd
  · exact dispatch_known hd ht

/-- The two differ in the signals that are posted, at most. -/
def SameButPosted (d f : Dispatch ν) : Prop :=
  d.ops = f.ops ∧ ∃ posted, d.q = { f.q with posted := posted }

/-- After a restart, only `m_havePrompted` and the posted signals can tell what was before. -/
theorem restart_leaves {interval : Int} {hs : List (Event ν)} {ts : List Thread} {d : Dispatch ν}
    {o : List (Decision ν)} (h : run step (new interval) (hs ++ restart ts) = some (d, o)) :
    SameButPosted d (started interval d.q.m_havePrompted) := by
  obtain ⟨d1, o1, o2, hd1, h2, -⟩ := run_append_iff.mp h
  have hknown : Known interval d1 :=
    run_inv (fun _ _ _ _ hk h => step_known hk h) ⟨fun _ => rfl, rfl⟩ hd1
  obtain ⟨d2, o2', o3, hstop, h3, -⟩ := run_cons_iff.mp h2
  obtain ⟨d3, o3', o4, hthreads, h4, -⟩ := run_append_iff.mp h3
  -- `stopDispatcher` is called, and returns
  have hstopped : Known interval d2 ∧ Clears d2.q d2.ops := by
    simp only [step, callAtLoop] at hstop
    split_ifs at hstop with hloop
    cases hstop
    have hnil : d1.ops = [] := hloop
    exact ⟨hknown, by simpa [Dispatch.call, hnil] using Clears.stop⟩
  obtain ⟨hknown3, hclears⟩ : Known interval d3 ∧ Clears d3.q d3.ops := by
    refine run_inv_of_meets (I := fun d => Known interval d ∧ Clears d.q d.ops)
      (G := fun _ e => ∃ t, e = Event.thread t) ?_ hstopped ?_ hthreads
    · rintro d e d' o ⟨hk, hc⟩ ⟨t, rfl⟩ hstep
      refine ⟨step_known hk hstep, ?_⟩
      obtain ⟨d'', hd'', rfl⟩ : ∃ d'', d.step t = some d'' ∧ d'' = d' := by
        cases t <;> obtain ⟨d'', hd'', heq⟩ := Option.map_eq_some_iff.mp hstep <;> cases heq <;>
          exact ⟨_, hd'', rfl⟩
      obtain ⟨act, q1, -, hq, rfl⟩ | ⟨op, rest, q1, more, -, hops, hm, rfl⟩ :=
        Dispatch.step_cases hd''
      · exact hc.worker hq
      · exact (hops ▸ hc).main hk.1 hm
    · apply meets_of_forall
      intro e he d
      obtain ⟨t, -, rfl⟩ := List.mem_map.mp he
      exact ⟨t, rfl⟩
  -- `startDispatcher` is called in the event loop
  obtain ⟨d4, o4', o5, hstart, h5, -⟩ := run_cons_iff.mp h4
  obtain ⟨d5, o5', o6, hmain, h6, -⟩ := run_cons_iff.mp h5
  cases h6
  simp only [step, callAtLoop] at hstart
  split_ifs at hstart with hloop
  cases hstart
  have hnil : d3.ops = [] := hloop
  obtain ⟨q, ops⟩ := d3
  subst hnil
  obtain ⟨hended, hsem, hqueue, htime⟩ := hclears.returned
  have hmain' : mainStep q .start = some ({ q with
      isRunning := true, isInterruptionRequested := false, worker := .check }, []) := by
    have hrun : q.isRunning = false := hended.2
    simp [mainStep, hrun]
  simp only [step, Dispatch.call, List.nil_append, Dispatch.step, hmain', Option.map_some] at hmain
  cases hmain
  have hinterval := hknown3.2
  dsimp only at hsem hqueue htime hinterval
  exact ⟨rfl, q.posted, by simp [started, hsem, hqueue, htime, hinterval]⟩

/-! ## The prompts -/

theorem step_prompted {d d1 : Dispatch ν} {e : Event ν} {o : List (Decision ν)}
    (h : step d e = some (d1, o)) :
    d1.q.m_havePrompted = (d.q.m_havePrompted || o.any Decision.isPrompt) := by
  obtain ⟨ops, -, rfl, rfl⟩ | ⟨t, ht, rfl⟩ := step_cases h
  · simp [Dispatch.call]
  · obtain ⟨act, q1, rfl, hq, rfl⟩ | ⟨op, rest, q1, more, rfl, -, hm, rfl⟩ :=
      Dispatch.step_cases ht
    · cases moves_of_doDispatcher hq with
      | check hw => split_ifs <;> simp [decision, hw]
      | emit hw => simp [decision, hw, Decision.isPrompt]
      | acquire hw => simp [decision, hw]
      | timeout hw => simp [decision, hw]
      | empty hw => simp [decision, hw]
      | dequeue hw => simp [decision, hw]
      | wait hw => simp [decision, hw, Decision.isPrompt]
      | pass hw => simp [decision, hw, Decision.isPrompt]
      | waited hw => simp [decision, hw]
      | record hw => simp [decision, hw]
    · have hmain : q1.m_havePrompted = d.q.m_havePrompted := by
        unfold mainStep at hm
        split at hm
        all_goals first
          | (cases hm; rfl)
          | (split_ifs at hm <;> cases hm <;> rfl)
          | (split at hm <;> cases hm <;> rfl)
      simp [hmain]

theorem atOnce_append (prompted : Bool) (o1 o2 : List (Decision ν)) :
    AtOnce prompted (o1 ++ o2) ↔
      AtOnce prompted o1 ∧ AtOnce (prompted || o1.any Decision.isPrompt) o2 := by
  induction o1 generalizing prompted with
  | nil => simp [AtOnce]
  | cons x o1 ih =>
    cases x with
    | waits e ms => simp [AtOnce, ih, Decision.isPrompt, and_assoc]
    | passes e => simp [AtOnce, ih, Decision.isPrompt]
    | emits e => simp [AtOnce, ih, Decision.isPrompt, Bool.or_assoc]

/-- A prompt that waits is not the first. -/
theorem step_atOnce {d d1 : Dispatch ν} {e : Event ν} {o : List (Decision ν)}
    (h : step d e = some (d1, o)) : AtOnce d.q.m_havePrompted o := by
  obtain ⟨ops, -, rfl, rfl⟩ | ⟨t, ht, rfl⟩ := step_cases h
  · trivial
  · obtain ⟨act, q1, rfl, hq, rfl⟩ | ⟨op, rest, q1, more, rfl, -, hm, rfl⟩ :=
      Dispatch.step_cases ht
    · cases moves_of_doDispatcher hq with
      | wait hw hm =>
        simp only [decision, hw]
        refine ⟨fun hprompt => ?_, trivial⟩
        simp only [AuthMsgQueue.mustWait, hprompt, Bool.true_and, Bool.not_not,
          Bool.and_eq_true] at hm
        exact hm.1
      | check hw => split_ifs <;> simp [decision, hw, AtOnce]
      | emit hw => simp [decision, hw, AtOnce]
      | acquire hw => simp [decision, hw, AtOnce]
      | timeout hw => simp [decision, hw, AtOnce]
      | empty hw => simp [decision, hw, AtOnce]
      | dequeue hw => simp [decision, hw, AtOnce]
      | pass hw => simp [decision, hw, AtOnce]
      | waited hw => simp [decision, hw, AtOnce]
      | record hw => simp [decision, hw, AtOnce]
    · trivial

theorem run_atOnce {d t : Dispatch ν} {es : List (Event ν)} {o : List (Decision ν)}
    (h : run step d es = some (t, o)) : AtOnce d.q.m_havePrompted o := by
  induction es generalizing d o with
  | nil =>
    cases h
    trivial
  | cons e es ih =>
    obtain ⟨d1, o1, o2, h1, h2, rfl⟩ := run_cons_iff.mp h
    rw [atOnce_append, ← step_prompted h1]
    exact ⟨step_atOnce h1, ih h2⟩

/-! ## The posted signals -/

theorem moves_posted {q q1 : AuthMsgQueue ν} {posted : List (Entry ν)} {act : WorkerAct}
    (h : Moves { q with posted := posted } act q1) :
    ∃ q2, Moves q act q2 ∧ q2.worker = q1.worker ∧ ∃ posted, q1 = { q2 with posted := posted } := by
  cases h with
  | check hw => exact ⟨_, .check hw, rfl, _, rfl⟩
  | acquire hw hs => exact ⟨_, .acquire hw hs, rfl, _, rfl⟩
  | timeout hw hs => exact ⟨_, .timeout hw hs, rfl, _, rfl⟩
  | empty hw hq => exact ⟨_, .empty hw hq, rfl, _, rfl⟩
  | dequeue hw hq => exact ⟨_, .dequeue hw hq, rfl, _, rfl⟩
  | wait hw hm => exact ⟨_, .wait hw hm, rfl, _, rfl⟩
  | pass hw hm => exact ⟨_, .pass hw hm, rfl, _, rfl⟩
  | waited hw => exact ⟨_, .waited hw, rfl, _, rfl⟩
  | record hw => exact ⟨_, .record hw, rfl, _, rfl⟩
  | emit hw => exact ⟨_, .emit hw, rfl, _, rfl⟩

theorem mainStep_posted {q q1 : AuthMsgQueue ν} {posted : List (Entry ν)} {op : MainOp ν}
    {more : List (MainOp ν)} (h : mainStep { q with posted := posted } op = some (q1, more)) :
    ∃ q2, mainStep q op = some (q2, more) ∧ q1 = { q2 with posted := posted } := by
  cases op with
  | start =>
    simp only [mainStep] at h
    split_ifs at h with hrun <;> cases h
    · exact ⟨_, if_pos hrun, rfl⟩
    · exact ⟨_, if_neg hrun, rfl⟩
  | acquire n =>
    simp only [mainStep] at h
    split_ifs at h with hn
    cases h
    exact ⟨_, if_pos hn, rfl⟩
  | wakeAll =>
    obtain ⟨_, _, _, _, _, _, _, worker, _⟩ := q
    cases worker <;> cases h <;> exact ⟨_, rfl, rfl⟩
  | join =>
    obtain ⟨_, _, _, _, _, _, _, worker, _⟩ := q
    cases worker <;> cases h
    exact ⟨_, rfl, rfl⟩
  | _ =>
    cases h
    exact ⟨_, rfl, rfl⟩

theorem step_sameButPosted {d f d1 : Dispatch ν} {e : Event ν} {o : List (Decision ν)}
    (hr : SameButPosted d f) (h : step d e = some (d1, o)) :
    ∃ f1, step f e = some (f1, o) ∧ SameButPosted d1 f1 := by
  obtain ⟨q, ops⟩ := d
  obtain ⟨q', ops'⟩ := f
  obtain ⟨hops, posted, hq⟩ := hr
  dsimp only at hops hq
  subst hops hq
  have hcall : ∀ {new}, callAtLoop ⟨{ q' with posted := posted }, ops⟩ new = some (d1, o) →
      ∃ f1, callAtLoop ⟨q', ops⟩ new = some (f1, o) ∧ SameButPosted d1 f1 := by
    intro new h
    unfold callAtLoop at *
    split_ifs at h with hloop
    cases h
    exact ⟨_, if_pos hloop, rfl, posted, rfl⟩
  cases e with
  | append e => exact hcall h
  | startDispatcher => exact hcall h
  | stopDispatcher => exact hcall h
  | thread t =>
    cases t with
    | main =>
      obtain ⟨d2, hd2, heq⟩ := Option.map_eq_some_iff.mp h
      cases heq
      obtain ⟨act, q1, ht, -, -⟩ | ⟨op, rest, q1, more, -, rfl, hm, rfl⟩ :=
        Dispatch.step_cases hd2
      · cases ht
      · obtain ⟨q2, hm2, rfl⟩ := mainStep_posted hm
        exact ⟨⟨q2, more ++ rest⟩, by simp [step, Dispatch.step, hm2], rfl, posted, rfl⟩
    | worker act =>
      obtain ⟨d2, hd2, heq⟩ := Option.map_eq_some_iff.mp h
      cases heq
      obtain ⟨q1, hq1, rfl⟩ := Option.map_eq_some_iff.mp hd2
      obtain ⟨q2, hmoves, hworker, posted2, rfl⟩ := moves_posted (moves_of_doDispatcher hq1)
      refine ⟨⟨q2, ops⟩, ?_, rfl, posted2, rfl⟩
      simp [step, Dispatch.step, doDispatcher_of_moves hmoves, decision]

/-- What is posted changes nothing. -/
theorem outputs_posted {d f : Dispatch ν} (hr : SameButPosted d f) (es : List (Event ν)) :
    outputs step d es = outputs step f es := by
  refine outputs_eq_of_bisim (R := SameButPosted) ?_ ?_ hr es
  · rintro d f ⟨hops, posted, hq⟩
    exact ⟨hops.symm, f.q.posted, by rw [hq]⟩
  · exact fun d f e d1 o hr h => step_sameButPosted hr h

theorem outputs_new (interval : Int) (es : List (Event ν)) :
    outputs step (new interval) (.startDispatcher :: .thread .main :: es) =
      outputs step (started interval false) es := by
  simp [outputs, run, step, callAtLoop, new, started, Dispatch.AtLoop, Dispatch.call,
    Dispatch.step, mainStep]

/-! ## The first prompt after a restart -/

/-- A message `m` is shown, and the prompt `e` comes one second too early. -/
def messageThenPrompt (interval : Int) (m e : Entry ν) : List (Event ν) :=
  [.append m, .thread .main, .thread .main, .thread (.worker .check), .thread (.worker .acquire),
    .thread (.worker .dequeue), .thread (.worker (.readClock 0xFFFFFFFFFFFFFFFF)),
    .thread (.worker (.readClock (1 - UInt64.ofInt interval))), .thread (.worker .emit),
    .append e, .thread .main, .thread .main, .thread (.worker .check), .thread (.worker .acquire),
    .thread (.worker .dequeue), .thread (.worker (.readClock 0))]

/-- After a prompt that was emitted earlier, the prompt `e` waits. -/
theorem the_prompt_waits (interval : Int) {m e : Entry ν} (hm : m.msg.isPrompt = false)
    (he : e.msg.isPrompt = true) :
    outputs step (started interval true) (messageThenPrompt interval m e) =
      some [.passes m, .emits m, .waits e 1000] := by
  have hmax : ∀ x : UInt64, ¬ x > 0xFFFFFFFFFFFFFFFF := fun x h => by
    have hlt : (0xFFFFFFFFFFFFFFFF : UInt64).toNat < x.toNat := UInt64.lt_iff_toNat_lt.mp h
    have := x.toNat_lt
    simp at hlt
    omega
  have htime : 1 - UInt64.ofInt interval + UInt64.ofInt interval = 1 := UInt64.sub_add_cancel 1 _
  simp [outputs, run, step, messageThenPrompt, callAtLoop, started, Dispatch.AtLoop,
    Dispatch.call, Dispatch.step, mainStep, append, AuthMsgQueue.doDispatcher, decision, hmax,
    htime, hm, he]

/-- A prompt that was emitted is one of an entry. -/
theorem any_isPrompt_iff {o : List (Decision ν)} :
    o.any Decision.isPrompt = false ↔ ∀ e, .emits e ∈ o → e.msg.isPrompt = false := by
  rw [List.any_eq_false]
  constructor
  · intro h e he
    exact Bool.eq_false_iff.mpr (h _ he)
  · intro h x hx
    cases x with
    | emits e => exact Bool.eq_false_iff.mp (h e hx)
    | _ => exact Bool.false_ne_true

/-- A dispatcher that was stopped and started again is like a new one exactly when no prompt was
emitted before. -/
theorem a_restart_is_new_iff {interval : Int} {hs : List (Event ν)} {ts : List Thread}
    {d : Dispatch ν} {o : List (Decision ν)}
    (h : run step (new interval) (hs ++ restart ts) = some (d, o)) :
    LikeNew interval d ↔ ∀ e, .emits e ∈ o → e.msg.isPrompt = false := by
  have hprompted : d.q.m_havePrompted = o.any Decision.isPrompt := by
    have := run_flag (f := fun d => d.q.m_havePrompted) (fun _ _ _ _ h => step_prompted h) h
    simpa [new] using this
  have hsame := restart_leaves h
  rw [← any_isPrompt_iff, ← hprompted]
  constructor
  · intro hnew
    by_contra hyes
    rw [Bool.not_eq_false] at hyes
    -- some prompt was emitted, and it comes again
    obtain ⟨x, hx, hprompt⟩ := List.any_eq_true.mp (hprompted ▸ hyes)
    obtain ⟨e, rfl⟩ : ∃ e, x = .emits e := by cases x <;> simp_all [Decision.isPrompt]
    have hwaits := the_prompt_waits interval (m := ⟨.message .Info "", e.note⟩) rfl hprompt
    rw [← hyes, ← outputs_posted hsame] at hwaits
    obtain ⟨hfirst, -⟩ := hnew.atOnce _ _ hwaits
    exact absurd (hfirst hprompt) (by simp [AuthMsg.isPrompt])
  · intro hno
    refine ⟨fun es => ?_, fun es o hes => ?_⟩
    · rw [outputs_posted hsame es, outputs_new, hno]
    · obtain ⟨t, ht⟩ := outputs_eq_some.mp hes
      exact hno ▸ run_atOnce ht

/-- One message on its way through the queue, at an uptime. -/
def dispatch (msg : AuthMsg) (upTime : UInt64) : List (Event Unit) :=
  [.append ⟨msg, ()⟩, .thread .main, .thread .main, .thread (.worker .check),
    .thread (.worker .acquire), .thread (.worker .dequeue), .thread (.worker (.readClock upTime)),
    .thread (.worker (.readClock upTime)), .thread (.worker .emit)]

/-- The steps of both threads in a `stopDispatcher`, where the worker is at its next check. -/
def stopThreads : List Thread :=
  [.main, .main, .main, .main, .main, .main, .main, .worker .check, .main, .main, .main, .main,
    .main, .main]

/-- Two messages, the second of which waits. -/
def twoMessages : List (Event Unit) :=
  [.startDispatcher, .thread .main] ++ dispatch (.message .Info "Welcome") 100 ++
    (dispatch (.message .Info "Last login: today") 101).take 7 ++
    [.thread (.worker .waitTimeout), .thread (.worker (.readClock 102)), .thread (.worker .emit)]

/-- Messages were emitted before `stopDispatcher`, and no prompt. -/
theorem a_dispatcher_of_messages_restarts_as_new :
    ∃ d o, run step (new 2) (twoMessages ++ restart stopThreads) = some (d, o) ∧
      d.q.posted.length = 2 ∧ LikeNew 2 d := by
  have hrun : ∃ d, run step (new 2) (twoMessages ++ restart stopThreads) =
      some (d, [.passes ⟨.message .Info "Welcome", ()⟩, .emits ⟨.message .Info "Welcome", ()⟩,
        .waits ⟨.message .Info "Last login: today", ()⟩ 1000,
        .emits ⟨.message .Info "Last login: today", ()⟩]) ∧ d.q.posted.length = 2 :=
    ⟨_, rfl, rfl⟩
  obtain ⟨d, h, hposted⟩ := hrun
  refine ⟨d, _, h, hposted, (a_restart_is_new_iff h).mpr fun e he => ?_⟩
  simp only [List.mem_cons, reduceCtorEq, Decision.emits.injEq, List.not_mem_nil, or_false,
    false_or] at he
  rcases he with rfl | rfl <;> rfl

/-- An attempt with a prompt, and a restart. -/
def firstAttempt : List (Event Unit) :=
  [.startDispatcher, .thread .main] ++ dispatch (.prompt .PAM .Secret "Password: ") 100 ++
    restart stopThreads

/-- In the next attempt, a message is shown, and the prompt behind it waits. -/
theorem the_next_first_prompt_waits :
    ∃ d o, run step (new 2) firstAttempt = some (d, o) ∧
      outputs step d (dispatch (.message .Info "Welcome") 200 ++
        (dispatch (.prompt .PAM .Secret "Password: ") 201).take 7) =
          some [.passes ⟨.message .Info "Welcome", ()⟩, .emits ⟨.message .Info "Welcome", ()⟩,
            .waits ⟨.prompt .PAM .Secret "Password: ", ()⟩ 1000] ∧
      ¬ LikeNew 2 d := by
  refine ⟨_, _, rfl, rfl, fun h => ?_⟩
  obtain ⟨hfirst, -⟩ := h.atOnce (dispatch (.message .Info "Welcome") 200 ++
    (dispatch (.prompt .PAM .Secret "Password: ") 201).take 7) _ rfl
  exact absurd (hfirst rfl) (by decide)

end session_guard.dispatcher_restart
