-- Can `stopDispatcher` wait forever for permits? `cancelAndStop` counts them with
-- `available` and takes as many with `acquire`, and only the worker may have taken
-- one in between.
import SessionGuard.Machine
import SessionGuard.AuthMsgQueue

open machine

namespace session_guard.queue_deadlock

open auth_msg_queue

variable {ν : Type}

/-! ## The calls and the two threads -/

inductive Event (ν : Type)
  | append (e : Entry ν)
  | startDispatcher
  | stopDispatcher
  /-- A posted signal reaches the main thread. -/
  | deliver
  | thread (t : Thread)

/-- The main thread calls a function of the queue when it is in none. -/
def callAtLoop (d : Dispatch ν) (ops : List (MainOp ν)) :
    Option (Dispatch ν × List (Entry ν)) :=
  if d.AtLoop then some (d.call ops, []) else none

/-- One step, with the message that it delivers. -/
def step : Step (Dispatch ν) (Event ν) (Entry ν)
  | d, .append e => callAtLoop d (append e)
  | d, .startDispatcher => callAtLoop d [.start]
  | d, .stopDispatcher => callAtLoop d [.stop]
  | d, .deliver => d.deliver.map fun (e, d1) => (d1, [e])
  | d, .thread t => (d.step t).map fun d1 => (d1, [])

/-- The main thread waits in `acquire` for more permits than there are. -/
def Blocked (d : Dispatch ν) : Prop :=
  ∃ n rest, d.ops = .acquire n :: rest ∧ d.q.m_queueSem < n

/-- The worker takes no permit between `available` and `acquire`. -/
def Unraced (d : Dispatch ν) : Event ν → Prop
  | .thread (.worker .acquire) => ∀ n rest, d.ops ≠ .acquire n :: rest
  | _ => True

/-! ## The permits -/

/-- The worker gives no permit back, and takes one only in `tryAcquire`. -/
theorem doDispatcher_queueSem {q q1 : AuthMsgQueue ν} {act : WorkerAct}
    (h : q.doDispatcher act = some q1) :
    q1.m_queueSem ≤ q.m_queueSem ∧ (act ≠ .acquire → q1.m_queueSem = q.m_queueSem) := by
  cases moves_of_doDispatcher h with
  | acquire => exact ⟨Nat.sub_le _ _, fun hne => absurd rfl hne⟩
  | _ => exact ⟨Nat.le_refl _, fun _ => rfl⟩

/-- No step of these takes permits. -/
def NoAcquire (ops : List (MainOp ν)) : Prop := ∀ op ∈ ops, ∀ n, op ≠ .acquire n

theorem noAcquire_append {xs ys : List (MainOp ν)} (hx : NoAcquire xs) (hy : NoAcquire ys) :
    NoAcquire (xs ++ ys) := by
  intro op hop
  rcases List.mem_append.mp hop with h | h
  · exact hx op h
  · exact hy op h

theorem noAcquire_cancelAndStop : NoAcquire (cancelAndStop : List (MainOp ν)) := by
  intro op hop n hn
  subst hn
  simp [cancelAndStop] at hop

theorem noAcquire_stopRunning : NoAcquire (stopRunning : List (MainOp ν)) := by
  intro op hop n hn
  subst hn
  simp [stopRunning, cancelAndStop] at hop

/-- Only `available` is followed by `acquire`, of as many permits as there are. -/
theorem mainStep_acquire {q q1 : AuthMsgQueue ν} {op : MainOp ν} {more : List (MainOp ν)}
    (h : mainStep q op = some (q1, more)) : NoAcquire more ∨ more = [.acquire q1.m_queueSem] := by
  have hnil : NoAcquire ([] : List (MainOp ν)) := fun op hop => by simp at hop
  unfold mainStep at h
  split at h
  · cases h; exact Or.inl hnil
  · cases h; exact Or.inl hnil
  · split_ifs at h <;> cases h <;> exact Or.inl hnil
  · cases h
    split_ifs
    · exact Or.inl noAcquire_stopRunning
    · exact Or.inl noAcquire_cancelAndStop
  · cases h; exact Or.inl hnil
  · cases h; exact Or.inr rfl
  · split_ifs at h
    cases h; exact Or.inl hnil
  · cases h; exact Or.inl hnil
  · split at h <;> cases h <;> exact Or.inl hnil
  · cases h; exact Or.inl hnil
  · split at h <;> cases h
    exact Or.inl hnil

/-! ## The invariant -/

/-- Only the first thing to do can be an `acquire`, and then the permits are there. -/
def Permitted (d : Dispatch ν) : Prop :=
  NoAcquire d.ops ∨ ∃ n rest, d.ops = .acquire n :: rest ∧ NoAcquire rest ∧ n ≤ d.q.m_queueSem

theorem not_blocked_of_permitted {d : Dispatch ν} (h : Permitted d) : ¬ Blocked d := by
  rintro ⟨n, rest, hops, hlt⟩
  rcases h with h | ⟨m, rest', hops', -, hle⟩
  · exact h (.acquire n) (by simp [hops]) n rfl
  · rw [hops] at hops'
    cases hops'
    omega

theorem permitted_call {d d1 : Dispatch ν} {ops : List (MainOp ν)} {o : List (Entry ν)}
    (hops : NoAcquire ops) (h : callAtLoop d ops = some (d1, o)) : Permitted d1 := by
  unfold callAtLoop at h
  split_ifs at h with hloop
  cases h
  apply Or.inl
  have hnil : d.ops = [] := hloop
  simpa [Dispatch.call, hnil] using hops

/-- What is left to do after an `acquire`, or behind any other step, takes no permits. -/
theorem noAcquire_rest {d : Dispatch ν} (h : Permitted d) {op : MainOp ν} {rest : List (MainOp ν)}
    (hops : d.ops = op :: rest) : NoAcquire rest := by
  rcases h with h | ⟨n, rest', hops', hrest, -⟩
  · exact fun o ho => h o (by simp [hops, ho])
  · rw [hops] at hops'
    cases hops'
    exact hrest

theorem step_permitted {d d1 : Dispatch ν} {e : Event ν} {o : List (Entry ν)} (hd : Permitted d)
    (hG : Unraced d e) (h : step d e = some (d1, o)) : Permitted d1 := by
  cases e with
  | append e =>
    refine permitted_call ?_ h
    intro op hop n hn
    subst hn
    simp [append] at hop
  | startDispatcher => exact permitted_call (fun op hop n hn => by simp [hn] at hop) h
  | stopDispatcher => exact permitted_call (fun op hop n hn => by simp [hn] at hop) h
  | deliver =>
    obtain ⟨⟨e, d2⟩, hd2, heq⟩ := Option.map_eq_some_iff.mp h
    cases heq
    obtain ⟨-, hops, -, -⟩ := Dispatch.deliver_eq_some hd2
    exact Or.inl fun op hop => by simp [hops] at hop
  | thread t =>
    obtain ⟨d2, hd2, heq⟩ := Option.map_eq_some_iff.mp h
    cases heq
    obtain ⟨act, q1, rfl, hq, rfl⟩ | ⟨op, rest, q1, more, rfl, hops, hm, rfl⟩ :=
      Dispatch.step_cases hd2
    · rcases hd with hd | ⟨n, rest, hops, hrest, hle⟩
      · exact Or.inl hd
      · -- the worker leaves the permits that were counted
        have hact : act ≠ .acquire := by
          rintro rfl
          exact hG n rest hops
        have hsem := (doDispatcher_queueSem hq).2 hact
        exact Or.inr ⟨n, rest, hops, hrest, hsem ▸ hle⟩
    · have hrest := noAcquire_rest hd hops
      rcases mainStep_acquire hm with hmore | rfl
      · exact Or.inl (noAcquire_append hmore hrest)
      · exact Or.inr ⟨q1.m_queueSem, rest, rfl, hrest, Nat.le_refl _⟩

/-! ## The deadlock -/

/-- When the worker takes no permit between `available` and `acquire`, the main thread
never waits in `acquire` for a permit that is not there. -/
theorem stopDispatcher_never_blocks (es : List (Event ν)) (hG : Meets step Unraced {} es)
    (t : Dispatch ν) (o : List (Entry ν)) (h : run step {} es = some (t, o)) : ¬ Blocked t := by
  have hstart : Permitted ({} : Dispatch ν) := Or.inl fun op hop => by simp at hop
  apply not_blocked_of_permitted
  exact run_inv_of_meets (fun _ _ _ _ hd hg h => step_permitted hd hg h) hstart hG h

/-- Two messages are appended to a running queue. The worker takes one of them while
`stopDispatcher` asks it to leave, and `stopDispatcher` counts the permit of the other and takes
it. -/
def stopBesideTheWorker : List (Event Unit) :=
  [.startDispatcher, .thread .main, .append ⟨.message .Info "Welcome", ()⟩, .thread .main,
    .thread .main, .append ⟨.message .Info "Last login: today", ()⟩, .thread .main, .thread .main,
    .thread (.worker .check), .stopDispatcher, .thread .main, .thread .main,
    .thread (.worker .acquire), .thread (.worker .dequeue), .thread .main,
    .thread (.worker (.readClock 100)), .thread .main]

theorem stop_beside_the_worker_is_not_blocked :
    ∃ t o, run step {} stopBesideTheWorker = some (t, o) ∧ t.q.m_queueSem = 0 ∧ ¬ Blocked t := by
  refine ⟨_, _, rfl, rfl, stopDispatcher_never_blocks stopBesideTheWorker ?_ _ _ rfl⟩
  -- the worker takes its permit before the other one is counted
  have hfirst : Meets step Unraced {} (stopBesideTheWorker.take 12) := by
    refine meets_of_forall fun e he d => ?_
    simp only [stopBesideTheWorker, List.take_succ_cons, List.take_zero, List.mem_cons,
      List.not_mem_nil, or_false] at he
    rcases he with rfl | rfl | rfl | rfl | rfl | rfl | rfl | rfl | rfl | rfl | rfl | rfl <;> trivial
  rw [← List.take_append_drop 12 stopBesideTheWorker]
  refine meets_append rfl hfirst <| meets_cons rfl (fun n rest h => by cases h) ?_
  refine meets_of_forall fun e he d => ?_
  simp only [List.mem_cons, List.not_mem_nil, or_false] at he
  rcases he with rfl | rfl | rfl | rfl <;> trivial

/-- The worker takes the permit between `available` and `acquire`, and the main thread
waits for it. -/
theorem the_worker_takes_the_counted_permit :
    ∃ t o, run step ({} : Dispatch Unit)
        [.startDispatcher, .thread .main, .append ⟨.message .Info "Welcome", ()⟩, .thread .main,
          .thread .main, .thread (.worker .check), .stopDispatcher, .thread .main, .thread .main,
          .thread .main, .thread (.worker .acquire)] = some (t, o) ∧ Blocked t :=
  ⟨_, _, rfl, 1, _, rfl, by decide⟩

/-- A main thread that waits in `acquire` for a missing permit waits forever. -/
theorem blocked_forever {d d1 : Dispatch ν} {e : Event ν} {o : List (Entry ν)} (hd : Blocked d)
    (h : step d e = some (d1, o)) : Blocked d1 := by
  obtain ⟨n, rest, hops, hlt⟩ := hd
  have hloop : ¬ d.AtLoop := by simp [Dispatch.AtLoop, hops]
  cases e with
  | append e => simp [step, callAtLoop, hloop] at h
  | startDispatcher => simp [step, callAtLoop, hloop] at h
  | stopDispatcher => simp [step, callAtLoop, hloop] at h
  | deliver =>
    obtain ⟨⟨e, d2⟩, hd2, -⟩ := Option.map_eq_some_iff.mp h
    obtain ⟨hnil, -, -, -⟩ := Dispatch.deliver_eq_some hd2
    simp [hops] at hnil
  | thread t =>
    obtain ⟨d2, hd2, heq⟩ := Option.map_eq_some_iff.mp h
    cases heq
    obtain ⟨act, q1, rfl, hq, rfl⟩ | ⟨op, rest', q1, more, rfl, hops', hm, rfl⟩ :=
      Dispatch.step_cases hd2
    · have hsem := (doDispatcher_queueSem hq).1
      exact ⟨n, rest, hops, by dsimp only; omega⟩
    · rw [hops] at hops'
      cases hops'
      simp only [mainStep] at hm
      rw [if_neg (by omega)] at hm
      cases hm

end session_guard.queue_deadlock
