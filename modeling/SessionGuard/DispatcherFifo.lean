-- The dispatcher is a FIFO. Messages and permits are counted apart: `append` puts a message in
-- before it releases the permit, the worker takes the permit before the message, and
-- `cancelAndStop` takes the permits before it clears the queue. Outside of these they agree.
import SessionGuard.QueueDeadlock
import SessionGuard.QueueTransparency

open machine

namespace session_guard.dispatcher_fifo

open auth_msg_queue queue_deadlock

variable {ν : Type}

/-! ## The signals -/

/-- A signal of the worker. -/
inductive Signal
  | showMessage (msg : String) (messageType : MessageType)
  | showPrompt (msg : String) (promptType : PromptType) (promptFrom : PromptFrom)
  | authenticationComplete (authRes : Bool)

/-- The `switch` of `doDispatcher`: the signal that is posted for a message. -/
def dispatch : AuthMsg → Signal
  | .message messageType msg => .showMessage msg messageType
  | .prompt promptFrom promptType msg => .showPrompt msg promptType promptFrom
  | .complete authRes => .authenticationComplete authRes

/-- The kind and the payload that a signal tells. -/
def Signal.tells : Signal → AuthMsg
  | .showMessage msg messageType => .message messageType msg
  | .showPrompt msg promptType promptFrom => .prompt promptFrom promptType msg
  | .authenticationComplete authRes => .complete authRes

theorem tells_dispatch (msg : AuthMsg) : (dispatch msg).tells = msg := by
  cases msg <;> rfl

/-- The signal for an entry of the queue, with its note. -/
def emission (e : Entry ν) : Signal × ν := (dispatch e.msg, e.note)

/-- The entry that a signal tells of. -/
def told (s : Signal × ν) : Entry ν := ⟨s.1.tells, s.2⟩

theorem told_emission (e : Entry ν) : told (emission e) = e := by
  rw [told, emission, tells_dispatch]

@[simp] theorem told_comp_emission : (told ∘ emission : Entry ν → Entry ν) = id :=
  funext told_emission

/-! ## What was appended and emitted -/

/-- The dispatcher with its past. -/
structure Fifo (ν : Type) where
  d : Dispatch ν
  /-- What `append` was called with. -/
  appended : List (Entry ν) := []
  /-- The signals that have reached the main thread. -/
  received : List (Signal × ν) := []
  /-- What `append` was called with since a `startDispatcher` that no `stopDispatcher` has
  followed, if there is one. -/
  sinceStart : Option (List (Entry ν)) := none

/-- A new queue. -/
def Fifo.new (interval : Int) : Fifo ν := { d := { q := { m_interval := interval } } }

def appends : Event ν → List (Entry ν)
  | .append e => [e]
  | _ => []

def sinceStart (since : Option (List (Entry ν))) : Event ν → Option (List (Entry ν))
  | .startDispatcher => some (since.getD [])
  | .stopDispatcher => none
  | e => since.map (· ++ appends e)

def step : Step (Fifo ν) (Event ν) (Entry ν)
  | s, e => (queue_deadlock.step s.d e).map fun (d, o) =>
    ({ d := d
       appended := s.appended ++ appends e
       received := s.received ++ o.map emission
       sinceStart := sinceStart s.sinceStart e }, o)

/-- The signals that the worker has emitted: they have reached the main thread, or are posted to
it. -/
def Fifo.emitted (s : Fifo ν) : List (Signal × ν) := s.received ++ s.d.q.posted.map emission

/-- What is told by an emitted signal, held by the worker, in the queue, or about to be put there
by an `append` that has not returned. -/
def Fifo.carried (s : Fifo ν) : List (Entry ν) :=
  s.emitted.map told ++ (s.d.q.worker.held ++ (s.d.q.m_queue ++ pending s.d.ops))

theorem Fifo.carried_eq (s : Fifo ν) : s.carried = s.received.map told ++ s.d.flight := by
  simp [carried, emitted, Dispatch.flight]

/-! ## The law -/

/-- The main thread is between the two halves of `append` or of `cancelAndStop`. -/
def midway : List (MainOp ν) → Bool
  | .release :: _ => true
  | .acquire _ :: _ => true
  | .clear :: _ => true
  | _ => false

/-- Neither thread is inside `append`, `fetchMsgFromQueue` or `cancelAndStop`. -/
def Outside (d : Dispatch ν) : Prop := d.q.worker ≠ .dequeue ∧ midway d.ops = false

/-- The emitted signals tell of some of the messages that were appended, of each at most once and
in their order; what was appended since `startDispatcher` is all there; and each message in the
queue has its permit. -/
structure IsFifo (s : Fifo ν) : Prop where
  inOrder : (s.emitted.map told).Sublist s.appended
  kept : ∀ since, s.sinceStart = some since → since <:+ s.carried
  permits : Outside s.d → s.d.q.m_queueSem = s.d.q.m_queue.length

/-! ## The permits -/

/-- The permits that the worker has taken for a message that is still in the queue. -/
def taken : Worker ν → Nat
  | .dequeue => 1
  | _ => 0

/-- All messages in the queue but `k` have a permit. -/
def Owes (q : AuthMsgQueue ν) (k : Nat) : Prop :=
  q.m_queue.length = q.m_queueSem + taken q.worker + k

def Drained (q : AuthMsgQueue ν) : Prop := q.m_queue = [] ∧ q.m_queueSem = 0

/-- What the worker does to messages and permits. -/
structure Fetches (q q1 : AuthMsgQueue ν) : Prop where
  owes : ∀ k, Owes q k → Owes q1 k
  drained : Drained q → Drained q1
  sem_le : q1.m_queueSem ≤ q.m_queueSem
  busy : q.worker ≠ .idle

theorem doDispatcher_fetches {q q1 : AuthMsgQueue ν} {act : WorkerAct}
    (h : q.doDispatcher act = some q1) : Fetches q q1 := by
  cases moves_of_doDispatcher h with
  | check hw =>
    refine ⟨fun k hk => ?_, id, Nat.le_refl _, by simp [hw]⟩
    unfold Owes at *
    split_ifs <;> simpa [hw, taken] using hk
  | acquire hw hs =>
    refine ⟨fun k hk => ?_, fun hd => absurd hd.2 (by omega), Nat.sub_le _ _, by simp [hw]⟩
    simp only [Owes, hw, taken] at *
    omega
  | empty hw hq =>
    -- the worker has a permit for a message that is not there: the queue was cleared
    refine ⟨fun k hk => ?_, id, Nat.le_refl _, by simp [hw]⟩
    simp only [Owes, hw, hq, taken, List.length_nil] at hk
    omega
  | @dequeue e rest hw hq =>
    refine ⟨fun k hk => ?_, fun hd => absurd hd.1 (by simp [hq]), Nat.le_refl _, by simp [hw]⟩
    simp only [Owes, hw, hq, taken, List.length_cons] at *
    omega
  | timeout hw => exact ⟨fun k hk => by simpa [Owes, hw, taken] using hk, id, le_rfl, by simp [hw]⟩
  | wait hw => exact ⟨fun k hk => by simpa [Owes, hw, taken] using hk, id, le_rfl, by simp [hw]⟩
  | pass hw => exact ⟨fun k hk => by simpa [Owes, hw, taken] using hk, id, le_rfl, by simp [hw]⟩
  | waited hw => exact ⟨fun k hk => by simpa [Owes, hw, taken] using hk, id, le_rfl, by simp [hw]⟩
  | record hw => exact ⟨fun k hk => by simpa [Owes, hw, taken] using hk, id, le_rfl, by simp [hw]⟩
  | emit hw => exact ⟨fun k hk => by simpa [Owes, hw, taken] using hk, id, le_rfl, by simp [hw]⟩

/-- After a `cancelAndStop`, the function is over and the worker has ended, or it is still to
be waited for. -/
def Ends (q : AuthMsgQueue ν) (rest : List (MainOp ν)) : Prop :=
  q.worker = .idle ∧ rest = [] ∨ rest = .join :: cancelAndStop

/-- Where the main thread stands, and what holds of the permits there. -/
inductive Stands : AuthMsgQueue ν → List (MainOp ν) → Prop
  | atLoop {q} (h : Owes q 0) : Stands q []
  | start {q} (h : Owes q 0) : Stands q [.start]
  | append {q} (e : Entry ν) (h : Owes q 0) : Stands q (append e)
  | release {q} (h : Owes q 1) : Stands q [.release]
  | stop {q} (h : Owes q 0) : Stands q [.stop]
  | interrupt {q} (h : Owes q 0) : Stands q stopRunning
  | available {q rest} (h : Owes q 0) (hrest : Ends q rest) : Stands q (cancelAndStop ++ rest)
  | acquire {q rest n} (h : Owes q 0) (hn : q.m_queueSem ≤ n) (hrest : Ends q rest) :
    Stands q (.acquire n :: .clear :: .wakeAll :: .reset :: rest)
  | clear {q rest} (h : q.m_queueSem = 0) (hrest : Ends q rest) :
    Stands q (.clear :: .wakeAll :: .reset :: rest)
  | wakeAll {q rest} (h : Drained q) (hrest : Ends q rest) : Stands q (.wakeAll :: .reset :: rest)
  | reset {q rest} (h : Drained q) (hrest : Ends q rest) : Stands q (.reset :: rest)
  | join {q} (h : Drained q) : Stands q (.join :: cancelAndStop)

/-- When the worker moves, it has not ended. -/
theorem Ends.fetches {q q1 : AuthMsgQueue ν} {rest : List (MainOp ν)} (h : Ends q rest)
    (hf : Fetches q q1) : Ends q1 rest := by
  rcases h with ⟨hidle, -⟩ | h
  · exact absurd hidle hf.busy
  · exact Or.inr h

/-- The worker leaves the main thread where it stands. -/
theorem Stands.fetches {q q1 : AuthMsgQueue ν} {ops : List (MainOp ν)} (h : Stands q ops)
    (hf : Fetches q q1) : Stands q1 ops := by
  cases h with
  | atLoop h => exact .atLoop (hf.owes 0 h)
  | start h => exact .start (hf.owes 0 h)
  | append e h => exact .append e (hf.owes 0 h)
  | release h => exact .release (hf.owes 1 h)
  | stop h => exact .stop (hf.owes 0 h)
  | interrupt h => exact .interrupt (hf.owes 0 h)
  | available h hrest => exact .available (hf.owes 0 h) (hrest.fetches hf)
  | acquire h hn hrest =>
    exact .acquire (hf.owes 0 h) (hf.sem_le.trans hn) (hrest.fetches hf)
  | clear h hrest => exact .clear (Nat.le_zero.mp (h ▸ hf.sem_le)) (hrest.fetches hf)
  | wakeAll h hrest => exact .wakeAll (hf.drained h) (hrest.fetches hf)
  | reset h hrest => exact .reset (hf.drained h) (hrest.fetches hf)
  | join h => exact .join (hf.drained h)

theorem owes_of_drained {q : AuthMsgQueue ν} (h : Drained q) (hidle : q.worker = .idle) :
    Owes q 0 := by
  unfold Owes
  rw [h.1, h.2, hidle]
  rfl

/-- The main thread goes on to the next place where it can stand. -/
theorem Stands.mainStep {q q1 : AuthMsgQueue ν} {op : MainOp ν} {rest more : List (MainOp ν)}
    (hs : Sane q) (h : Stands q (op :: rest)) (hm : mainStep q op = some (q1, more)) :
    Stands q1 (more ++ rest) := by
  cases h with
  | start h =>
    simp only [auth_msg_queue.mainStep] at hm
    split_ifs at hm with hrun <;> cases hm
    · exact .atLoop h
    · -- the worker was idle, and has taken no permit
      have hidle := hs (Bool.eq_false_iff.mpr hrun)
      apply Stands.atLoop
      simpa [Owes, hidle, taken] using h
  | append e h =>
    cases hm
    apply Stands.release
    simp only [Owes, List.length_append, List.length_singleton] at *
    omega
  | release h =>
    cases hm
    apply Stands.atLoop
    simp only [Owes] at *
    omega
  | stop h =>
    cases hm
    rw [List.append_nil]
    split_ifs with hrun
    · exact .interrupt h
    · have hidle := hs (Bool.eq_false_iff.mpr hrun)
      show Stands q (cancelAndStop ++ [])
      exact .available h (Or.inl ⟨hidle, rfl⟩)
  | interrupt h =>
    cases hm
    show Stands _ (cancelAndStop ++ .join :: cancelAndStop)
    exact .available h (Or.inr rfl)
  | available h hrest =>
    cases hm
    exact .acquire h (Nat.le_refl _) hrest
  | acquire h hn hrest =>
    simp only [auth_msg_queue.mainStep] at hm
    split_ifs at hm
    cases hm
    exact .clear (Nat.sub_eq_zero_of_le hn) hrest
  | clear h hrest =>
    cases hm
    exact .wakeAll ⟨rfl, h⟩ hrest
  | wakeAll h hrest =>
    simp only [auth_msg_queue.mainStep] at hm
    split at hm <;> cases hm
    · rename_i e ms hw
      refine .reset h (hrest.imp_left fun hidle => ?_)
      exact absurd (hw.symm.trans hidle.1) (by simp)
    · exact .reset h hrest
  | reset h hrest =>
    cases hm
    rcases hrest with ⟨hidle, rfl⟩ | rfl
    · exact .atLoop (owes_of_drained h hidle)
    · exact .join h
  | join h =>
    simp only [auth_msg_queue.mainStep] at hm
    split at hm <;> cases hm
    rename_i hw
    show Stands _ (cancelAndStop ++ [])
    exact .available (owes_of_drained h hw) (Or.inl ⟨hw, rfl⟩)

/-- Outside of the three functions, the permits are as many as the messages. -/
theorem Stands.permits {d : Dispatch ν} (h : Stands d.q d.ops) (ho : Outside d) :
    d.q.m_queueSem = d.q.m_queue.length := by
  obtain ⟨q, ops⟩ := d
  obtain ⟨hworker, hmid⟩ := ho
  have htaken : taken q.worker = 0 := by
    rcases hw : q.worker <;> first | rfl | exact absurd hw hworker
  have howes : Owes q 0 → q.m_queueSem = q.m_queue.length := by
    intro howes
    simp only [Owes, htaken] at howes
    omega
  have hdrained : Drained q → q.m_queueSem = q.m_queue.length := by
    rintro ⟨hq, hsem⟩
    rw [hq, hsem]
    rfl
  cases h with
  | release h => cases hmid
  | acquire h hn hrest => cases hmid
  | clear h hrest => cases hmid
  | wakeAll h hrest => exact hdrained h
  | reset h hrest => exact hdrained h
  | join h => exact hdrained h
  | atLoop h => exact howes h
  | start h => exact howes h
  | append e h => exact howes h
  | stop h => exact howes h
  | interrupt h => exact howes h
  | available h hrest => exact howes h

/-! ## The invariant -/

structure Inv (s : Fifo ν) : Prop where
  sane : Sane s.d.q
  stands : Stands s.d.q s.d.ops
  inOrder : s.carried.Sublist s.appended
  kept : ∀ since, s.sinceStart = some since → s.d.stopping = false ∧ since <:+ s.carried

theorem Inv.isFifo {s : Fifo ν} (h : Inv s) : IsFifo s where
  inOrder := (List.sublist_append_left _ _).trans h.inOrder
  kept since hsince := (h.kept since hsince).2
  permits := h.stands.permits

theorem new_inv (interval : Int) : Inv (Fifo.new interval : Fifo ν) where
  sane _ := rfl
  stands := .atLoop rfl
  inOrder := List.Sublist.refl _
  kept since h := by cases h

theorem owes_atLoop {s : Fifo ν} (hs : Inv s) (hloop : s.d.ops = []) : Owes s.d.q 0 := by
  have h := hs.stands
  rw [hloop] at h
  cases h with
  | atLoop h => exact h

/-- A call in the event loop. What it appends is carried from now on. -/
theorem call_inv {s : Fifo ν} {d : Dispatch ν} {ops : List (MainOp ν)} {o : List (Entry ν)}
    (hs : Inv s) (hd : callAtLoop s.d ops = some (d, o)) (hops : Owes s.d.q 0 → Stands s.d.q ops)
    {since : Option (List (Entry ν))}
    (hsince : ∀ l, since = some l →
      ops.any MainOp.stops = false ∧ l <:+ s.carried ++ pending ops) :
    Inv { d := d
          appended := s.appended ++ pending ops
          received := s.received ++ o.map emission
          sinceStart := since } := by
  unfold callAtLoop at hd
  split_ifs at hd with hloop
  cases hd
  have hnil : s.d.ops = [] := hloop
  have hcarried : Fifo.carried { s with
      d := s.d.call ops
      received := s.received ++ ([] : List (Entry ν)).map emission } =
        s.carried ++ pending ops := by
    simp [Fifo.carried_eq]
  refine ⟨hs.sane, ?_, ?_, fun l hl => ⟨?_, ?_⟩⟩
  · simpa [Dispatch.call, hnil] using hops (owes_atLoop hs hnil)
  · exact hcarried.symm ▸ hs.inOrder.append_right (pending ops)
  · simpa [Dispatch.stopping, Dispatch.call, hnil] using (hsince l hl).1
  · exact hcarried.symm ▸ (hsince l hl).2

/-- A step of either thread drops messages at most, and outside of `stopDispatcher` none. -/
theorem thread_inv {s : Fifo ν} {d : Dispatch ν} {t : Thread} (hs : Inv s)
    (h : s.d.step t = some d) : Inv { s with d := d } := by
  have hflight := Dispatch.step_flight h
  refine ⟨sane_step hs.sane h, ?_, ?_, fun since hsince => ?_⟩
  · obtain ⟨act, q1, rfl, hq, rfl⟩ | ⟨op, rest, q1, more, rfl, hops, hm, rfl⟩ :=
      Dispatch.step_cases h
    · exact hs.stands.fetches (doDispatcher_fetches hq)
    · have hstands := hs.stands
      rw [hops] at hstands
      exact hstands.mainStep hs.sane hm
  · have hinOrder := hs.inOrder
    rw [Fifo.carried_eq] at hinOrder ⊢
    exact (hflight.append_left _).trans hinOrder
  · obtain ⟨hstop, hkept⟩ := hs.kept since hsince
    obtain ⟨hstop1, heq⟩ := Dispatch.step_keeps hs.sane hstop h
    refine ⟨hstop1, ?_⟩
    rw [Fifo.carried_eq] at hkept ⊢
    rw [heq]
    exact hkept

/-- The event loop takes the oldest signal, and tells of it. -/
theorem deliver_inv {s : Fifo ν} {x : Entry ν} {d : Dispatch ν} (hs : Inv s)
    (h : s.d.deliver = some (x, d)) :
    Inv { s with d := d, received := s.received ++ [emission x] } := by
  obtain ⟨hops, hops1, -, hq⟩ := Dispatch.deliver_eq_some h
  have hcarried : Fifo.carried { s with d := d, received := s.received ++ [emission x] } =
      s.carried := by
    simp [Fifo.carried_eq, Dispatch.flight_deliver h, told_emission]
  have howes : Owes s.d.q 0 := owes_atLoop hs hops
  refine ⟨?_, ?_, hcarried.symm ▸ hs.inOrder, fun since hsince => ⟨?_, ?_⟩⟩
  · rw [hq]
    exact hs.sane
  · dsimp only
    rw [hops1, hq]
    exact .atLoop howes
  · simp [Dispatch.stopping, hops1]
  · exact hcarried.symm ▸ (hs.kept since hsince).2

theorem step_inv {s s1 : Fifo ν} {e : Event ν} {o : List (Entry ν)} (hs : Inv s)
    (h : step s e = some (s1, o)) : Inv s1 := by
  obtain ⟨⟨d, o1⟩, hd, heq⟩ := Option.map_eq_some_iff.mp h
  cases heq
  have hsame : s.sinceStart.map (· ++ []) = s.sinceStart := by
    cases s.sinceStart <;> simp
  cases e with
  | append e =>
    refine call_inv hs hd (.append e) fun l hl => ?_
    obtain ⟨since, hold, rfl⟩ := Option.map_eq_some_iff.mp hl
    obtain ⟨before, hbefore⟩ := (hs.kept since hold).2
    refine ⟨rfl, before, ?_⟩
    rw [← List.append_assoc, hbefore]
    rfl
  | startDispatcher =>
    refine call_inv hs hd .start fun l hl => ?_
    cases hl
    refine ⟨rfl, ?_⟩
    rcases hold : s.sinceStart with _ | since
    · exact List.nil_suffix
    · exact (List.append_nil s.carried).symm ▸ (hs.kept since hold).2
  | stopDispatcher => exact call_inv hs hd .stop fun l hl => by cases hl
  | deliver =>
    obtain ⟨⟨x, d1⟩, hd1, heq⟩ := Option.map_eq_some_iff.mp hd
    cases heq
    simpa [appends, sinceStart, hsame] using deliver_inv hs hd1
  | thread t =>
    obtain ⟨d1, hd1, heq⟩ := Option.map_eq_some_iff.mp hd
    cases heq
    simpa [appends, sinceStart, hsame] using thread_inv hs hd1

/-- In every run of the two threads, the dispatcher is a FIFO. -/
theorem the_dispatcher_is_fifo (interval : Int) (es : List (Event ν)) :
    Always step (fun _ _ _ s => IsFifo s) (.new interval) es := by
  refine always_of_inv (I := Inv) (G := fun _ _ => True) ?_ (new_inv interval) meets_true
  intro s e s1 o hs _ h
  exact ⟨step_inv hs h, (step_inv hs h).isFifo⟩

end session_guard.dispatcher_fifo
