-- Where the threads of the dispatcher get to by themselves. A main thread that is not blocked gets
-- back to its event loop, and there the worker posts the next message.
import SessionGuard.QueueLiveness

open machine

namespace session_guard.queue_liveness

open auth_msg_queue dispatcher_fifo
open queue_deadlock hiding step

variable {ν : Type}

/-! ## What the main thread has still to do -/

/-- Does the thread run when the main thread has done this? -/
def runs : Bool → List (MainOp ν) → Bool
  | b, [] => b
  | _, .start :: ops => runs true ops
  | _, .stop :: ops => runs false ops
  | _, .join :: ops => runs false ops
  | b, _ :: ops => runs b ops

/-- Has the worker been asked to leave wherever the main thread waits for its end? -/
def asked : Bool → List (MainOp ν) → Bool
  | _, [] => true
  | _, .requestInterruption :: ops => asked true ops
  | _, .start :: ops => asked false ops
  | b, .join :: ops => b && asked b ops
  | b, _ :: ops => asked b ops

/-- Only the first thing to do can take permits. -/
def Counted (ops : List (MainOp ν)) : Prop :=
  NoAcquire ops ∨ ∃ n rest, ops = .acquire n :: rest ∧ NoAcquire rest

/-- Calls of functions of the queue that leave a running thread. -/
structure Lasting (ops : List (MainOp ν)) : Prop where
  calls : ∃ calls : List (List (MainOp ν)), ops = calls.flatten ∧ ∀ c ∈ calls, IsCall c
  lasts : runs true ops = true

/-- What holds of every dispatcher that its owner only calls. -/
structure Orderly (d : Dispatch ν) : Prop where
  tidy : Tidy d
  counted : Counted d.ops
  asks : asked d.q.isInterruptionRequested d.ops = true

/-- What holds of a dispatcher that its owner starts again whenever it stops it. -/
structure Kept (d : Dispatch ν) : Prop extends Orderly d where
  lasts : runs d.q.isRunning d.ops = true

theorem runs_append (b : Bool) (xs ys : List (MainOp ν)) :
    runs b (xs ++ ys) = runs (runs b xs) ys := by
  induction xs generalizing b with
  | nil => rfl
  | cons op xs ih => cases op <;> simp [runs, ih]

theorem asked_mono {b : Bool} {ops : List (MainOp ν)} (h : asked false ops = true) :
    asked b ops = true := by
  induction ops with
  | nil => rfl
  | cons op ops ih => cases op <;> simp_all [asked]

theorem asked_append {b : Bool} {xs ys : List (MainOp ν)} (hx : asked b xs = true)
    (hy : asked false ys = true) : asked b (xs ++ ys) = true := by
  induction xs generalizing b with
  | nil => exact asked_mono hy
  | cons op xs ih =>
    cases op with
    | join =>
      simp only [asked, Bool.and_eq_true] at hx
      simp [asked, hx.1, ih (hx.1 ▸ hx.2)]
    | _ => exact ih hx

theorem asked_true {b : Bool} {ops : List (MainOp ν)} (h : asked b ops = true) :
    asked true ops = true := by
  cases b with
  | true => exact h
  | false => exact asked_mono h

theorem IsCall.asked {ops : List (MainOp ν)} (h : IsCall ops) : asked false ops = true := by
  obtain ⟨e, rfl⟩ | rfl | rfl := h <;> rfl

theorem IsCall.noAcquire {ops : List (MainOp ν)} (h : IsCall ops) : NoAcquire ops := by
  intro op hop n hn
  subst hn
  obtain ⟨e, rfl⟩ | rfl | rfl := h <;> simp [append] at hop

theorem calls_asked {calls : List (List (MainOp ν))} (h : ∀ c ∈ calls, IsCall c) :
    asked false calls.flatten = true := by
  induction calls with
  | nil => rfl
  | cons c calls ih =>
    rw [List.flatten_cons]
    exact asked_append (h c List.mem_cons_self).asked
      (ih fun c hc => h c (List.mem_cons_of_mem _ hc))

theorem calls_noAcquire {calls : List (List (MainOp ν))} (h : ∀ c ∈ calls, IsCall c) :
    NoAcquire calls.flatten := by
  induction calls with
  | nil => exact fun op hop => by cases hop
  | cons c calls ih =>
    rw [List.flatten_cons]
    exact noAcquire_append (h c List.mem_cons_self).noAcquire
      (ih fun c hc => h c (List.mem_cons_of_mem _ hc))

theorem Lasting.noAcquire {ops : List (MainOp ν)} (h : Lasting ops) : NoAcquire ops := by
  obtain ⟨calls, rfl, hcalls⟩ := h.calls
  exact calls_noAcquire hcalls

theorem Counted.rest {op : MainOp ν} {rest : List (MainOp ν)} (h : Counted (op :: rest)) :
    NoAcquire rest := by
  rcases h with h | ⟨n, rest', hops, hrest⟩
  · exact fun o ho => h o (List.mem_cons_of_mem _ ho)
  · cases hops
    exact hrest

/-! ## What every step keeps -/

theorem orderly_new (interval : Int) :
    Orderly ({ q := { m_interval := interval }, ops := [.start] } : Dispatch ν) where
  tidy := by
    have hcall : ∀ c ∈ [[MainOp.start (ν := ν)]], IsCall c := by simp [IsCall]
    exact (tidy_new interval).call hcall
  counted := by
    apply Or.inl
    intro op hop n hn
    simp [hn] at hop
  asks := rfl

theorem kept_new (interval : Int) :
    Kept ({ q := { m_interval := interval }, ops := [.start] } : Dispatch ν) :=
  ⟨orderly_new interval, rfl⟩

theorem Orderly.call {d : Dispatch ν} (h : Orderly d) {calls : List (List (MainOp ν))}
    (hcalls : ∀ c ∈ calls, IsCall c) : Orderly (d.call calls.flatten) := by
  refine ⟨h.tidy.call hcalls, ?_, asked_append h.asks (calls_asked hcalls)⟩
  rcases h.counted with hno | ⟨n, rest, heq, hno⟩
  · exact Or.inl (noAcquire_append hno (calls_noAcquire hcalls))
  · refine Or.inr ⟨n, rest ++ calls.flatten, ?_, noAcquire_append hno (calls_noAcquire hcalls)⟩
    rw [Dispatch.call, heq]
    rfl

theorem Kept.call {d : Dispatch ν} (h : Kept d) {ops : List (MainOp ν)} (hops : Lasting ops) :
    Kept (d.call ops) := by
  obtain ⟨calls, rfl, hcalls⟩ := hops.calls
  refine ⟨h.toOrderly.call hcalls, ?_⟩
  show runs d.q.isRunning (d.ops ++ calls.flatten) = true
  rw [runs_append, h.lasts, hops.lasts]

theorem Orderly.deliver {d d1 : Dispatch ν} {e : Entry ν} (h : Orderly d)
    (hd : d.deliver = some (e, d1)) : Orderly d1 := by
  obtain ⟨-, hops1, -, -⟩ := Dispatch.deliver_eq_some hd
  refine ⟨h.tidy.deliver hd, ?_, ?_⟩
  · rw [hops1]
    exact Or.inl fun op hop => by cases hop
  · rw [hops1]
    rfl

theorem deliver_runs {d d1 : Dispatch ν} {e : Entry ν} (hd : d.deliver = some (e, d1)) :
    runs d1.q.isRunning d1.ops = runs d.q.isRunning d.ops := by
  obtain ⟨hops, hops1, -, hq⟩ := Dispatch.deliver_eq_some hd
  rw [hops, hops1, hq]

theorem Kept.deliver {d d1 : Dispatch ν} {e : Entry ν} (h : Kept d)
    (hd : d.deliver = some (e, d1)) : Kept d1 :=
  ⟨h.toOrderly.deliver hd, (deliver_runs hd).trans h.lasts⟩

theorem worker_isInterruptionRequested {q q1 : AuthMsgQueue ν} {act : WorkerAct}
    (h : q.doDispatcher act = some q1) :
    q1.isInterruptionRequested = q.isInterruptionRequested := by
  cases moves_of_doDispatcher h <;> rfl

theorem Orderly.worker {d : Dispatch ν} {q1 : AuthMsgQueue ν} {act : WorkerAct} (h : Orderly d)
    (hmove : d.q.doDispatcher act = some q1) : Orderly { d with q := q1 } where
  tidy := h.tidy.worker hmove
  counted := h.counted
  asks := by
    rw [worker_isInterruptionRequested hmove]
    exact h.asks

theorem mainStep_asked {q q1 : AuthMsgQueue ν} {op : MainOp ν} {rest more : List (MainOp ν)}
    (h : mainStep q op = some (q1, more))
    (ha : asked q.isInterruptionRequested (op :: rest) = true) :
    asked q1.isInterruptionRequested (more ++ rest) = true := by
  cases op with
  | stop =>
    cases h
    split_ifs
    · have hrest : asked q.isInterruptionRequested rest = true := ha
      have htrue : asked true rest = true := asked_true hrest
      exact htrue
    · exact ha
  | start =>
    simp only [mainStep] at h
    split_ifs at h <;> cases h
    · exact asked_mono ha
    · exact ha
  | acquire n =>
    simp only [mainStep] at h
    split_ifs at h
    cases h
    exact ha
  | wakeAll =>
    simp only [mainStep] at h
    split at h <;> cases h <;> exact ha
  | join =>
    simp only [mainStep] at h
    split at h <;> cases h
    exact (Bool.and_eq_true_iff.mp ha).2
  | _ => cases h; exact ha

theorem mainStep_runs {q q1 : AuthMsgQueue ν} {op : MainOp ν} {rest more : List (MainOp ν)}
    (h : mainStep q op = some (q1, more)) :
    runs q1.isRunning (more ++ rest) = runs q.isRunning (op :: rest) := by
  cases op with
  | stop =>
    cases h
    by_cases hrun : q.isRunning = true
    · rw [if_pos hrun]
      rfl
    · rw [if_neg hrun, Bool.eq_false_iff.mpr hrun]
      rfl
  | start =>
    simp only [mainStep] at h
    split_ifs at h with hrun <;> cases h
    · rw [hrun]
      rfl
    · rfl
  | acquire n =>
    simp only [mainStep] at h
    split_ifs at h
    cases h
    rfl
  | wakeAll =>
    simp only [mainStep] at h
    split at h <;> cases h <;> rfl
  | join =>
    simp only [mainStep] at h
    split at h <;> cases h
    rfl
  | _ => cases h; rfl

theorem Orderly.main {d : Dispatch ν} {q1 : AuthMsgQueue ν} {op : MainOp ν}
    {rest more : List (MainOp ν)} (h : Orderly d) (hops : d.ops = op :: rest)
    (hm : mainStep d.q op = some (q1, more)) : Orderly ⟨q1, more ++ rest⟩ := by
  have hcounted := h.counted
  have hasked := h.asks
  rw [hops] at hcounted hasked
  refine ⟨h.tidy.main hops hm, ?_, mainStep_asked hm hasked⟩
  rcases mainStep_acquire hm with hmore | rfl
  · exact Or.inl (noAcquire_append hmore hcounted.rest)
  · exact Or.inr ⟨q1.m_queueSem, rest, rfl, hcounted.rest⟩

theorem Orderly.step {d d1 : Dispatch ν} {t : Thread} (h : Orderly d)
    (hstep : d.step t = some d1) : Orderly d1 := by
  obtain ⟨act, q1, -, hq, rfl⟩ | ⟨op, rest, q1, more, -, hops, hm, rfl⟩ :=
    Dispatch.step_cases hstep
  · exact h.worker hq
  · exact h.main hops hm

/-- Neither thread changes what the calls have decided. -/
theorem step_runs {d d1 : Dispatch ν} {t : Thread} (hstep : d.step t = some d1) :
    runs d1.q.isRunning d1.ops = runs d.q.isRunning d.ops := by
  obtain ⟨act, q1, -, hq, rfl⟩ | ⟨op, rest, q1, more, -, hops, hm, rfl⟩ :=
    Dispatch.step_cases hstep
  · rw [worker_isRunning hq]
  · rw [hops]
    exact mainStep_runs hm

theorem Kept.step {d d1 : Dispatch ν} {t : Thread} (h : Kept d) (hstep : d.step t = some d1) :
    Kept d1 :=
  ⟨h.toOrderly.step hstep, (step_runs hstep).trans h.lasts⟩

/-! ## Back to the event loop -/

/-- How many operations are left, when none waits. `stopDispatcher` does ten, and `available`
two. -/
def toDo : List (MainOp ν) → Nat
  | [] => 0
  | .stop :: ops => 13 + toDo ops
  | .available :: ops => 2 + toDo ops
  | _ :: ops => 1 + toDo ops

/-- How many steps the worker takes to its end when it has been asked to leave. -/
def toIdle : Worker ν → Nat
  | .idle => 0
  | .check => 1
  | .emitting _ => 2
  | .ready _ => 3
  | .waiting _ _ => 4
  | .fetched _ => 5
  | .dequeue => 6
  | .fetch => 7

/-- What is left until the main thread is back in its event loop. -/
def toLoop (d : Dispatch ν) : Nat := 8 * toDo d.ops + toIdle d.q.worker

theorem toDo_append (xs ys : List (MainOp ν)) : toDo (xs ++ ys) = toDo xs + toDo ys := by
  induction xs with
  | nil => simp [toDo]
  | cons op xs ih => cases op <;> simp [toDo, ih, Nat.add_assoc]

theorem toIdle_le (w : Worker ν) : toIdle w ≤ 7 := by
  cases w <;> simp [toIdle]

/-- Each operation makes what is to do less. -/
theorem mainStep_toDo {q q1 : AuthMsgQueue ν} {op : MainOp ν} {rest more : List (MainOp ν)}
    (h : mainStep q op = some (q1, more)) : toDo (more ++ rest) < toDo (op :: rest) := by
  cases op with
  | stop =>
    cases h
    rw [toDo_append]
    split_ifs <;> simp [toDo, stopRunning, cancelAndStop]
  | start =>
    simp only [mainStep] at h
    split_ifs at h <;> cases h <;> simp [toDo]
  | acquire n =>
    simp only [mainStep] at h
    split_ifs at h
    cases h
    simp [toDo]
  | wakeAll =>
    simp only [mainStep] at h
    split at h <;> cases h <;> simp [toDo]
  | join =>
    simp only [mainStep] at h
    split at h <;> cases h
    simp [toDo]
  | _ => cases h; simp [toDo]

/-- A worker that has been asked to leave comes nearer to its end. -/
theorem worker_toIdle {q q1 : AuthMsgQueue ν} {act : WorkerAct}
    (hint : q.isInterruptionRequested = true) (h : q.doDispatcher act = some q1) :
    toIdle q1.worker < toIdle q.worker := by
  cases moves_of_doDispatcher h with
  | check hw => simp [hint, hw, toIdle]
  | acquire hw => simp [hw, toIdle]
  | timeout hw => simp [hw, toIdle]
  | empty hw => simp [hw, toIdle]
  | dequeue hw => simp [hw, toIdle]
  | wait hw => simp [hw, toIdle]
  | pass hw => simp [hw, toIdle]
  | waited hw => simp [hw, toIdle]
  | record hw => simp [hw, toIdle]
  | emit hw => simp [hw, toIdle]

theorem not_blocked_of_noAcquire {d : Dispatch ν} (h : NoAcquire d.ops) : ¬ Blocked d :=
  not_blocked_of_permitted (Or.inl h)

/-- An operation never blocks the next one: only the worker takes a permit that was counted. -/
theorem main_not_blocked {d : Dispatch ν} {q1 : AuthMsgQueue ν} {op : MainOp ν}
    {rest more : List (MainOp ν)} (h : Orderly d) (hops : d.ops = op :: rest)
    (hm : mainStep d.q op = some (q1, more)) : ¬ Blocked (⟨q1, more ++ rest⟩ : Dispatch ν) := by
  have hcounted := h.counted
  rw [hops] at hcounted
  apply not_blocked_of_permitted
  rcases mainStep_acquire hm with hmore | rfl
  · exact Or.inl (noAcquire_append hmore hcounted.rest)
  · exact Or.inr ⟨q1.m_queueSem, rest, rfl, hcounted.rest, Nat.le_refl _⟩

/-- A main thread that is inside of a call, and not blocked, can go on, or the worker that it waits
for can. -/
theorem Orderly.toLoop_lt {d : Dispatch ν} (h : Orderly d) (hfree : ¬ Blocked d)
    (hloop : ¬ d.AtLoop) :
    ∃ t d1, d.step t = some d1 ∧ ¬ Blocked d1 ∧ toLoop d1 < toLoop d := by
  obtain ⟨op, rest, hops⟩ := List.exists_cons_of_ne_nil hloop
  -- the main thread goes on
  have hmain : ∀ q1 more, mainStep d.q op = some (q1, more) →
      ∃ t d1, d.step t = some d1 ∧ ¬ Blocked d1 ∧ toLoop d1 < toLoop d := by
    intro q1 more hm
    refine ⟨.main, ⟨q1, more ++ rest⟩, by simp [Dispatch.step, hops, hm],
      main_not_blocked h hops hm, ?_⟩
    have hlt : toDo (more ++ rest) < toDo (op :: rest) := mainStep_toDo hm
    have hle := toIdle_le q1.worker
    unfold toLoop
    rw [hops]
    dsimp only
    omega
  by_cases hm : mainStep d.q op = none
  · -- it waits for the worker
    cases op with
    | join =>
      have hbusy : d.q.worker ≠ .idle := by
        intro hidle
        simp [mainStep, hidle] at hm
      have hint : d.q.isInterruptionRequested = true := by
        have hasked := h.asks
        rw [hops] at hasked
        exact (Bool.and_eq_true_iff.mp hasked).1
      obtain ⟨act, q1, hmove⟩ := worker_moves hbusy
      refine ⟨.worker act, { d with q := q1 }, by simp [Dispatch.step, hmove], ?_, ?_⟩
      · rintro ⟨n, rest', hops', -⟩
        cases hops.symm.trans hops'
      · have hlt := worker_toIdle hint hmove
        unfold toLoop
        dsimp only
        omega
    | acquire n =>
      refine absurd ⟨n, rest, hops, ?_⟩ hfree
      by_contra hle
      simp [mainStep, Nat.not_lt.mp hle] at hm
    | start =>
      simp only [mainStep] at hm
      split_ifs at hm
    | wakeAll =>
      simp only [mainStep] at hm
      split at hm <;> cases hm
    | _ => cases hm
  · obtain ⟨⟨q1, more⟩, hm⟩ := Option.ne_none_iff_exists'.mp hm
    exact hmain q1 more hm

/-! ## In the event loop -/

/-- What is left until the worker has posted and the main thread has taken all messages. -/
def toDeliver (d : Dispatch ν) : Nat := 2 * work d.q + d.q.posted.length

theorem Kept.awake {d : Dispatch ν} (h : Kept d) (hloop : d.AtLoop) :
    Owes d.q 0 ∧ Awake d.q := by
  obtain ⟨howes, hawake⟩ := h.tidy.atLoop hloop
  have hruns := h.lasts
  rw [hloop] at hruns
  exact ⟨howes, hawake hruns⟩

/-- When a message is on its way and none is posted, the worker has work, and can do it. -/
theorem Kept.toDeliver_lt {d : Dispatch ν} (h : Kept d) (hloop : d.AtLoop)
    (hflight : d.flight ≠ []) (hposted : d.q.posted = []) :
    ∃ act d1, d.step (.worker act) = some d1 ∧ d1.AtLoop ∧ toDeliver d1 < toDeliver d := by
  obtain ⟨howes, hawake⟩ := h.awake hloop
  obtain ⟨act, q1, hmove⟩ := worker_moves hawake.1
  refine ⟨act, { d with q := q1 }, by simp [Dispatch.step, hmove], hloop, ?_⟩
  have hpos : 0 < work d.q := by
    by_contra hzero
    obtain ⟨hheld, hqueue⟩ := delivered_of_work hawake howes (by omega)
    apply hflight
    unfold Dispatch.flight
    rw [hposted, hheld, hqueue, show d.ops = [] from hloop]
    rfl
  have hle := work_le hawake howes hmove
  have hlen : q1.posted.length ≤ d.q.posted.length + 1 := by
    have hstep : d.step (.worker act) = some { d with q := q1 } := by simp [Dispatch.step, hmove]
    rcases Dispatch.step_posted hstep with hp | ⟨e, -, -, hp⟩
    · exact hp ▸ Nat.le_succ _
    · simp only at hp
      rw [hp, List.length_append]
      rfl
  unfold toDeliver
  dsimp only
  omega

/-- In the event loop, a posted message can be delivered. -/
theorem deliver_of_posted {d : Dispatch ν} {e : Entry ν} {rest : List (Entry ν)}
    (hloop : d.AtLoop) (hp : d.q.posted = e :: rest) : ∃ d1, d.deliver = some (e, d1) := by
  refine ⟨{ d with q := { d.q with posted := rest } }, ?_⟩
  unfold Dispatch.deliver
  rw [show d.ops = [] from hloop, hp]

theorem deliver_lt {d d1 : Dispatch ν} {e : Entry ν} (hd : d.deliver = some (e, d1)) :
    toDeliver d1 < toDeliver d := by
  obtain ⟨-, -, hp, hq⟩ := Dispatch.deliver_eq_some hd
  have hwork : work d1.q = work d.q := by
    rw [hq]
    rfl
  unfold toDeliver
  rw [hwork, hp, List.length_cons]
  omega

end session_guard.queue_liveness
