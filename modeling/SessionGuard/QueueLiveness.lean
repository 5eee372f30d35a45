-- The dispatcher delivers. When the main thread is back in its event loop and the thread runs,
-- the worker can always go on, a bounded number of its steps, however they fall, emits all that is
-- in the queue, and the event loop gives it to the receiver.
import SessionGuard.DispatcherFifo
import SessionGuard.Progress

open machine

namespace session_guard.queue_liveness

open auth_msg_queue dispatcher_fifo
open queue_deadlock hiding step

variable {ν : Type}

/-! ## What holds between the calls -/

/-- The worker is in its loop, and nobody has asked it to leave. -/
def Awake (q : AuthMsgQueue ν) : Prop := q.worker ≠ .idle ∧ q.isInterruptionRequested = false

/-- Who asks the worker to leave waits for it afterwards. -/
def Joined : List (MainOp ν) → Prop
  | [] => True
  | .requestInterruption :: ops => .join ∈ ops ∧ Joined ops
  | _ :: ops => Joined ops

/-- A call of a function of the queue. -/
def IsCall (ops : List (MainOp ν)) : Prop := (∃ e, ops = append e) ∨ ops = [.start] ∨ ops = [.stop]

/-- The main thread stands in one call, and others are to follow. -/
def StandsIn (q : AuthMsgQueue ν) (ops : List (MainOp ν)) : Prop :=
  ∃ (current : List (MainOp ν)) (calls : List (List (MainOp ν))),
    ops = current ++ calls.flatten ∧ Stands q current ∧ ∀ c ∈ calls, IsCall c

/-- The permits are in order where the main thread stands, and a running thread is awake unless
the main thread is about to wait for its end. -/
structure Tidy (d : Dispatch ν) : Prop where
  sane : Sane d.q
  stands : StandsIn d.q d.ops
  joined : Joined d.ops
  awake : d.q.isRunning = true → .join ∈ d.ops ∨ Awake d.q

theorem joined_append {xs ys : List (MainOp ν)} (hx : Joined xs) (hy : Joined ys) :
    Joined (xs ++ ys) := by
  induction xs with
  | nil => exact hy
  | cons op xs ih =>
    cases op with
    | requestInterruption => exact ⟨List.mem_append_left ys hx.1, ih hx.2⟩
    | _ => exact ih hx

theorem IsCall.joined {ops : List (MainOp ν)} (h : IsCall ops) : Joined ops := by
  obtain ⟨e, rfl⟩ | rfl | rfl := h <;> trivial

theorem joined_calls {calls : List (List (MainOp ν))} (h : ∀ c ∈ calls, IsCall c) :
    Joined calls.flatten := by
  induction calls with
  | nil => trivial
  | cons c calls ih =>
    rw [List.flatten_cons]
    exact joined_append (h c List.mem_cons_self).joined
      (ih fun c hc => h c (List.mem_cons_of_mem _ hc))

theorem tidy_new (interval : Int) : Tidy ({ q := { m_interval := interval } } : Dispatch ν) where
  sane _ := rfl
  stands := ⟨[], [], rfl, .atLoop rfl, by simp⟩
  joined := trivial
  awake h := by cases h

/-- In the event loop, the permits are as many as the messages, and a running thread is awake. -/
theorem Tidy.atLoop {d : Dispatch ν} (h : Tidy d) (hloop : d.ops = []) :
    Owes d.q 0 ∧ (d.q.isRunning = true → Awake d.q) := by
  constructor
  · obtain ⟨current, calls, hops, hstands, -⟩ := h.stands
    rw [hloop] at hops
    rw [(List.append_eq_nil_iff.mp hops.symm).1] at hstands
    cases hstands with
    | atLoop h => exact h
  · intro hrun
    rcases h.awake hrun with hjoin | hawake
    · rw [hloop] at hjoin
      cases hjoin
    · exact hawake

theorem Tidy.call {d : Dispatch ν} (h : Tidy d) {calls : List (List (MainOp ν))}
    (hcalls : ∀ c ∈ calls, IsCall c) : Tidy (d.call calls.flatten) := by
  obtain ⟨current, before, hops, hstands, hbefore⟩ := h.stands
  refine ⟨h.sane, ⟨current, before ++ calls, ?_, hstands, ?_⟩, ?_, fun hrun => ?_⟩
  · rw [Dispatch.call, hops, List.flatten_append, List.append_assoc]
  · intro c hc
    exact (List.mem_append.mp hc).elim (hbefore c) (hcalls c)
  · exact joined_append h.joined (joined_calls hcalls)
  · exact (h.awake hrun).imp_left (List.mem_append_left _)

/-- A call that has begun stands where it begins. -/
theorem IsCall.stands {q : AuthMsgQueue ν} {ops : List (MainOp ν)} (h : IsCall ops)
    (howes : Owes q 0) : Stands q ops := by
  obtain ⟨e, rfl⟩ | rfl | rfl := h
  · exact .append e howes
  · exact .start howes
  · exact .stop howes

theorem Awake.worker {q q1 : AuthMsgQueue ν} {act : WorkerAct} (h : Awake q)
    (hmove : q.doDispatcher act = some q1) : Awake q1 := by
  obtain ⟨-, hint⟩ := h
  cases moves_of_doDispatcher hmove with
  | check hw => exact ⟨by simp [hint], hint⟩
  | _ => exact ⟨by simp, hint⟩

theorem worker_isRunning {q q1 : AuthMsgQueue ν} {act : WorkerAct}
    (h : q.doDispatcher act = some q1) : q1.isRunning = q.isRunning := by
  cases moves_of_doDispatcher h <;> rfl

theorem Tidy.worker {d : Dispatch ν} {q1 : AuthMsgQueue ν} {act : WorkerAct} (h : Tidy d)
    (hmove : d.q.doDispatcher act = some q1) : Tidy { d with q := q1 } := by
  have hstep : d.step (.worker act) = some { d with q := q1 } := by simp [Dispatch.step, hmove]
  obtain ⟨current, calls, hops, hstands, hcalls⟩ := h.stands
  refine ⟨sane_step h.sane hstep, ⟨current, calls, hops, ?_, hcalls⟩, h.joined, fun hrun => ?_⟩
  · exact hstands.fetches (doDispatcher_fetches hmove)
  · rw [worker_isRunning hmove] at hrun
    exact (h.awake hrun).imp_right fun hawake => hawake.worker hmove

/-- A step of the main thread in its first operation goes on in the current call or begins the
next one. -/
theorem StandsIn.mainStep {q q1 : AuthMsgQueue ν} {op : MainOp ν} {rest more : List (MainOp ν)}
    (hs : Sane q) (h : StandsIn q (op :: rest)) (hm : mainStep q op = some (q1, more)) :
    StandsIn q1 (more ++ rest) := by
  obtain ⟨current, calls, hops, hstands, hcalls⟩ := h
  induction calls generalizing current with
  | nil =>
    rw [List.flatten_nil, List.append_nil] at hops
    subst hops
    exact ⟨more ++ rest, [], by simp, hstands.mainStep hs hm, by simp⟩
  | cons c calls ih =>
    rcases current with _ | ⟨op1, rest1⟩
    · cases hstands with
      | atLoop howes =>
        refine ih c ?_ ((hcalls c List.mem_cons_self).stands howes)
          fun c hc => hcalls c (List.mem_cons_of_mem _ hc)
        rw [hops, List.flatten_cons, List.nil_append]
    · rw [List.cons_append] at hops
      obtain ⟨rfl, rfl⟩ := List.cons.inj hops
      exact ⟨more ++ rest1, c :: calls, by rw [List.append_assoc], hstands.mainStep hs hm, hcalls⟩

theorem Tidy.main {d : Dispatch ν} {q1 : AuthMsgQueue ν} {op : MainOp ν}
    {rest more : List (MainOp ν)} (h : Tidy d) (hops : d.ops = op :: rest)
    (hm : mainStep d.q op = some (q1, more)) : Tidy ⟨q1, more ++ rest⟩ := by
  have hstep : d.step .main = some ⟨q1, more ++ rest⟩ := by simp [Dispatch.step, hops, hm]
  have hstands := h.stands
  have hjoined := h.joined
  have hawake := h.awake
  rw [hops] at hstands hjoined hawake
  refine ⟨sane_step h.sane hstep, hstands.mainStep h.sane hm, ?_, ?_⟩
  · cases op with
    | requestInterruption => cases hm; exact hjoined.2
    | stop =>
      cases hm
      refine joined_append ?_ hjoined
      split_ifs
      · exact ⟨by simp [cancelAndStop], trivial⟩
      · trivial
    | start => simp only [mainStep] at hm; split_ifs at hm <;> cases hm <;> exact hjoined
    | acquire n => simp only [mainStep] at hm; split_ifs at hm; cases hm; exact hjoined
    | wakeAll => simp only [mainStep] at hm; split at hm <;> cases hm <;> exact hjoined
    | join => simp only [mainStep] at hm; split at hm <;> cases hm; exact hjoined
    | _ => cases hm; exact hjoined
  · intro hrun
    -- the operations that do not touch the worker leave it awake or waited for
    have hsame : q1.isRunning = d.q.isRunning → (Awake d.q → Awake q1) → op ≠ .join →
        .join ∈ more ++ rest ∨ Awake q1 := by
      intro hr ha hop
      rcases hawake (hr ▸ hrun) with hmem | hq
      · rcases List.mem_cons.mp hmem with heq | hmem
        · exact absurd heq.symm hop
        · exact Or.inl (List.mem_append_right more hmem)
      · exact Or.inr (ha hq)
    cases op with
    | requestInterruption => cases hm; exact Or.inl hjoined.1
    | start =>
      simp only [mainStep] at hm
      split_ifs at hm with hr <;> cases hm
      · exact hsame rfl id (by simp)
      · exact Or.inr ⟨by simp, rfl⟩
    | acquire n =>
      simp only [mainStep] at hm
      split_ifs at hm
      cases hm
      exact hsame rfl id (by simp)
    | wakeAll =>
      simp only [mainStep] at hm
      split at hm <;> cases hm
      · exact hsame rfl (fun ha => ⟨by simp, ha.2⟩) (by simp)
      · exact hsame rfl id (by simp)
    | join =>
      simp only [mainStep] at hm
      split at hm <;> cases hm
      cases hrun
    | _ => cases hm; exact hsame rfl id (by simp)

/-- Either thread keeps the queue tidy. -/
theorem Tidy.step {d d1 : Dispatch ν} {t : Thread} (h : Tidy d) (hstep : d.step t = some d1) :
    Tidy d1 := by
  obtain ⟨act, q1, -, hq, rfl⟩ | ⟨op, rest, q1, more, -, hops, hm, rfl⟩ :=
    Dispatch.step_cases hstep
  · exact h.worker hq
  · exact h.main hops hm

theorem Tidy.deliver {d d1 : Dispatch ν} {e : Entry ν} (h : Tidy d)
    (hd : d.deliver = some (e, d1)) : Tidy d1 := by
  obtain ⟨hops, hops1, -, hq⟩ := Dispatch.deliver_eq_some hd
  obtain ⟨howes, hawake⟩ := h.atLoop hops
  have hsane := h.sane
  rw [Sane] at hsane
  refine ⟨?_, ⟨[], [], by simpa using hops1, .atLoop ?_, by simp⟩, hops1 ▸ trivial, fun hrun => ?_⟩
  · rw [hq]
    exact hsane
  · rw [hq]
    exact howes
  · rw [hq] at hrun ⊢
    exact Or.inr (hawake hrun)

/-! ## The work of the worker -/

/-- How many steps the worker needs until it has emitted all that it holds and that is in the
queue. A message takes seven. -/
def work (q : AuthMsgQueue ν) : Nat :=
  match q.worker with
  | .idle => 0
  | .check => 7 * q.m_queue.length
  | .fetch => 7 * q.m_queue.length - 1
  | .dequeue => 7 * q.m_queue.length - 2
  | .fetched _ => 7 * q.m_queue.length + 4
  | .waiting _ _ => 7 * q.m_queue.length + 3
  | .ready _ => 7 * q.m_queue.length + 2
  | .emitting _ => 7 * q.m_queue.length + 1

/-- A worker in its loop can go on: a wait and a poll may time out, and there is a permit where
there is a message. -/
theorem worker_moves {q : AuthMsgQueue ν} (h : q.worker ≠ .idle) :
    ∃ act q1, q.doDispatcher act = some q1 := by
  rcases hw : q.worker with _ | _ | _ | _ | e | ⟨e, ms⟩ | e | e
  · exact absurd hw h
  · exact ⟨_, _, doDispatcher_of_moves (.check hw)⟩
  · rcases Nat.eq_zero_or_pos q.m_queueSem with hs | hs
    · exact ⟨_, _, doDispatcher_of_moves (.timeout hw hs)⟩
    · exact ⟨_, _, doDispatcher_of_moves (.acquire hw hs)⟩
  · rcases hq : q.m_queue with _ | ⟨e, rest⟩
    · exact ⟨_, _, doDispatcher_of_moves (.empty hw hq)⟩
    · exact ⟨_, _, doDispatcher_of_moves (.dequeue hw hq)⟩
  · rcases hm : q.mustWait e 0 with _ | _
    · exact ⟨_, _, doDispatcher_of_moves (.pass hw hm)⟩
    · exact ⟨_, _, doDispatcher_of_moves (.wait hw hm)⟩
  · exact ⟨_, _, doDispatcher_of_moves (.waited hw)⟩
  · exact ⟨.readClock 0, _, doDispatcher_of_moves (.record hw)⟩
  · exact ⟨_, _, doDispatcher_of_moves (.emit hw)⟩

/-- Each step of an awake worker takes one off the work. It polls in vain only when there is
nothing to do. -/
theorem work_le {q q1 : AuthMsgQueue ν} {act : WorkerAct} (hawake : Awake q) (howes : Owes q 0)
    (h : q.doDispatcher act = some q1) : work q1 ≤ work q - 1 := by
  unfold Owes at howes
  cases moves_of_doDispatcher h with
  | check hw => simp [work, hw, hawake.2]
  | acquire hw hs =>
    simp only [work, hw]
    omega
  | timeout hw hs =>
    -- no permit, so no message
    simp only [hw, taken] at howes
    simp only [work, hw]
    omega
  | empty hw hq => simp [work, hw, hq]
  | dequeue hw hq =>
    simp only [work, hw, hq, List.length_cons]
    omega
  | wait hw hm => simp [work, hw]
  | pass hw hm =>
    simp only [work, hw]
    omega
  | waited hw => simp [work, hw]
  | record hw => simp [work, hw]
  | emit hw => simp [work, hw]

/-- With no work left, nothing is held and the queue is empty. -/
theorem delivered_of_work {q : AuthMsgQueue ν} (hawake : Awake q) (howes : Owes q 0)
    (h : work q = 0) : q.worker.held = [] ∧ q.m_queue = [] := by
  unfold Owes at howes
  have hnil : 7 * q.m_queue.length < 7 → q.m_queue = [] := by
    intro hlt
    exact List.eq_nil_of_length_eq_zero (by omega)
  rcases hw : q.worker with _ | _ | _ | _ | e | ⟨e, ms⟩ | e | e
  · exact absurd hw hawake.1
  · simp only [work, hw] at h
    exact ⟨rfl, hnil (by omega)⟩
  · simp only [work, hw] at h
    exact ⟨rfl, hnil (by omega)⟩
  · simp only [work, hw] at h
    exact ⟨rfl, hnil (by omega)⟩
  all_goals simp [work, hw] at h

/-! ## Every message is delivered -/

theorem tidy_step {s s1 : Fifo ν} {e : Event ν} {o : List (Entry ν)} (hs : Tidy s.d)
    (h : step s e = some (s1, o)) : Tidy s1.d := by
  obtain ⟨⟨d, o1⟩, hd, heq⟩ := Option.map_eq_some_iff.mp h
  cases heq
  have hcall : ∀ {ops}, IsCall ops → callAtLoop s.d ops = some (d, o) → Tidy d := by
    intro ops hops hcall
    unfold callAtLoop at hcall
    split_ifs at hcall
    cases hcall
    have hcalls : ∀ c ∈ [ops], IsCall c := by simpa using hops
    simpa using hs.call hcalls
  cases e with
  | append e => exact hcall (Or.inl ⟨e, rfl⟩) hd
  | startDispatcher => exact hcall (Or.inr (Or.inl rfl)) hd
  | stopDispatcher => exact hcall (Or.inr (Or.inr rfl)) hd
  | deliver =>
    obtain ⟨⟨e, d1⟩, hd1, heq⟩ := Option.map_eq_some_iff.mp hd
    cases heq
    exact hs.deliver hd1
  | thread t =>
    obtain ⟨d1, hd1, heq⟩ := Option.map_eq_some_iff.mp hd
    cases heq
    exact hs.step hd1

/-- The worker goes on, and nobody calls. -/
def workerEvents (acts : List WorkerAct) : List (Event ν) :=
  acts.map fun act => .thread (.worker act)

/-- A step of the worker leaves the messages on their way, and the receiver gets none of them. -/
theorem worker_step {s s1 : Fifo ν} {act : WorkerAct} {o : List (Entry ν)}
    (h : step s (.thread (.worker act)) = some (s1, o)) :
    ∃ q1, s.d.q.doDispatcher act = some q1 ∧ s1.d = { s.d with q := q1 } ∧
      s1.d.flight = s.d.flight ∧ s1.received = s.received := by
  obtain ⟨⟨d, o1⟩, hd, heq⟩ := Option.map_eq_some_iff.mp h
  cases heq
  obtain ⟨d1, hd1, heq⟩ := Option.map_eq_some_iff.mp hd
  cases heq
  obtain ⟨q1, hq1, heq⟩ := Option.map_eq_some_iff.mp hd1
  cases heq
  refine ⟨q1, hq1, rfl, ?_, by simp⟩
  have hflight := doDispatcher_flight hq1
  simp only [Dispatch.flight, ← List.append_assoc] at hflight ⊢
  rw [hflight]

/-- The event loop gives all posted signals to the receiver. -/
theorem deliver_all {s : Fifo ν} (hloop : s.d.ops = []) :
    ∃ u, run step s (List.replicate s.d.q.posted.length .deliver) = some (u, s.d.q.posted) ∧
      u.received = s.received ++ s.d.q.posted.map emission ∧
      u.d = { s.d with q := { s.d.q with posted := [] } } := by
  induction hposted : s.d.q.posted generalizing s with
  | nil =>
    refine ⟨s, rfl, by simp, ?_⟩
    rw [← hposted]
  | cons x rest ih =>
    have hdeliver : s.d.deliver = some (x, { s.d with q := { s.d.q with posted := rest } }) := by
      simp [Dispatch.deliver, hloop, hposted]
    have hstep : ∃ s1, step s .deliver = some (s1, [x]) ∧
        s1.d = { s.d with q := { s.d.q with posted := rest } } ∧
        s1.received = s.received ++ [emission x] := by
      simp [step, queue_deadlock.step, hdeliver]
    obtain ⟨s1, h1, hd, hreceived⟩ := hstep
    obtain ⟨u, hu, hall, hud⟩ := ih (s := s1) (hd ▸ hloop) (hd ▸ rfl)
    refine ⟨u, ?_, ?_, ?_⟩
    · rw [List.length_cons, List.replicate_succ]
      exact run_cons_iff.mpr ⟨s1, [x], rest, h1, hu, rfl⟩
    · rw [hall, hreceived]
      simp
    · rw [hud, hd]

/-- After every history of calls and interleaving, when the main thread is in its event loop and
the dispatcher's thread runs, the worker is not blocked. However it goes on, after `work` steps all
messages on their way are posted, and the event loop gives the receiver the signals of these, in
their order, and of no others. -/
theorem the_worker_delivers_everything (interval : Int) (es : List (Event ν)) {s : Fifo ν}
    {o : List (Entry ν)} (h : run step (Fifo.new interval) es = some (s, o))
    (hloop : s.d.AtLoop) (hrun : s.d.q.isRunning = true) :
    (∃ act q1, s.d.q.doDispatcher act = some q1) ∧
      ∀ acts t o1, run step s (workerEvents acts) = some (t, o1) → work s.d.q ≤ acts.length →
        ∃ u, run step t (List.replicate t.d.q.posted.length .deliver) =
            some (u, t.d.q.posted) ∧
          u.received = s.received ++ s.d.flight.map emission ∧ u.d.flight = [] := by
  have htidy : Tidy s.d := run_inv (I := fun s : Fifo ν => Tidy s.d)
    (fun _ _ _ _ hs hstep => tidy_step hs hstep) (tidy_new interval) h
  obtain ⟨howes, hawake⟩ := htidy.atLoop hloop
  refine ⟨worker_moves (hawake hrun).1, fun acts t o1 hw hlen => ?_⟩
  have hstep : ∀ s1, ∀ e ∈ workerEvents acts, ∀ s2 o2,
      Awake s1.d.q ∧ Owes s1.d.q 0 ∧ s1.d.ops = [] ∧ s1.d.flight = s.d.flight ∧
        s1.received = s.received → step s1 e = some (s2, o2) →
        (Awake s2.d.q ∧ Owes s2.d.q 0 ∧ s2.d.ops = [] ∧ s2.d.flight = s.d.flight ∧
          s2.received = s.received) ∧ work s2.d.q ≤ work s1.d.q - 1 := by
    rintro s1 e he s2 o2 ⟨ha, ho, hnil, hf, hr⟩ hstep
    obtain ⟨act, -, rfl⟩ := List.mem_map.mp he
    obtain ⟨q1, hq1, hd, hflight, hreceived⟩ := worker_step hstep
    refine ⟨⟨?_, ?_, ?_, hflight.trans hf, hreceived.trans hr⟩, ?_⟩ <;> rw [hd]
    · exact ha.worker hq1
    · exact (doDispatcher_fetches hq1).owes 0 ho
    · exact hnil
    · exact work_le ha ho hq1
  obtain ⟨⟨hawake1, howes1, hnil, hflight, hreceived⟩, hwork⟩ :=
    run_work_le hstep ⟨hawake hrun, howes, hloop, rfl, rfl⟩ hw
  have hzero : work t.d.q = 0 := by
    rw [workerEvents, List.length_map] at hwork
    omega
  -- the worker holds nothing and the queue is empty, so that all is posted
  obtain ⟨hheld, hqueue⟩ := delivered_of_work hawake1 howes1 hzero
  have hposted : t.d.flight = t.d.q.posted := by
    simp [Dispatch.flight, hheld, hqueue, hnil, pending]
  obtain ⟨u, hu, hall, hud⟩ := deliver_all hnil
  refine ⟨u, hu, ?_, ?_⟩
  · rw [hall, hreceived, ← hposted, hflight]
  · simp [hud, Dispatch.flight, hheld, hqueue, hnil, pending]

/-- A message that is appended to a running queue is emitted within seven steps of the worker, and
the next event of the main thread brings it. -/
theorem a_message_is_delivered :
    let e : Entry Unit := ⟨.message .Info "Welcome", ()⟩
    ∃ s t u o o1 o2 acts, run step (Fifo.new 2)
        [.startDispatcher, .thread .main, .append e, .thread .main, .thread .main] = some (s, o) ∧
      run step s (workerEvents acts) = some (t, o1) ∧ acts.length = 7 ∧
      run step t [.deliver] = some (u, o2) ∧
      u.received = [(.showMessage "Welcome" .Info, ())] := by
  have h := the_worker_delivers_everything 2
    [.startDispatcher, .thread .main, .append (⟨.message .Info "Welcome", ()⟩ : Entry Unit),
      .thread .main, .thread .main] rfl rfl rfl
  obtain ⟨u, hu, hall, -⟩ := h.2 [.check, .acquire, .dequeue, .readClock 100, .readClock 100,
    .emit, .check] _ _ rfl (Nat.le_refl 7)
  refine ⟨_, _, u, _, _, _, [.check, .acquire, .dequeue, .readClock 100, .readClock 100, .emit,
    .check], rfl, rfl, rfl, hu, hall⟩

end session_guard.queue_liveness
