-- The time between two messages. The worker reads the uptime in whole seconds, waits in
-- milliseconds and reads the uptime again, and each message but the first prompt comes
-- `m_interval` seconds after the one before.
import SessionGuard.Machine
import SessionGuard.AttemptIsolation
import Mathlib.Order.Monotone.Basic

open machine

namespace session_guard.message_spacing

open auth_msg_queue

variable {ν : Type}

/-! ## The clock -/

/-- The uptime in seconds, as `sysinfo` gives it, at each nanosecond. It never goes back, and
each second adds one. -/
structure UptimeClock where
  upTime : Nat → Nat
  mono : Monotone upTime
  seconds : ∀ t n, upTime (t + n * 1000000000) = upTime t + n

/-- The whole seconds. -/
def UptimeClock.truncated : UptimeClock where
  upTime t := t / 1000000000
  mono _ _ h := Nat.div_le_div_right h
  seconds t n := Nat.add_mul_div_right t n (by decide)

/-! ## The dispatcher in time -/

structure Timed (ν : Type) where
  d : Dispatch ν
  now : Nat := 0
  /-- When the wait of the worker times out. -/
  wakesAt : Nat := 0
  /-- The uptime that the worker has read last: where it emits, at its second reading. -/
  readAt : Nat := 0
  /-- The uptime at the last reading before the message that was emitted last. -/
  lastShown : Option Nat := none
  /-- Was a prompt emitted? -/
  prompted : Bool := false

/-- No message is cancelled: there is no `stopDispatcher`. -/
inductive TimedEvent (ν : Type)
  | append (e : Entry ν)
  | startDispatcher
  | main
  | worker (act : WorkerAct)
  /-- Time passes. -/
  | pass (nanoseconds : Nat)

/-- What the clock lets the worker do. `sysinfo` gives the uptime as a `long`. -/
def Allows (clock : UptimeClock) (s : Timed ν) : WorkerAct → Prop
  | .readClock upTime => upTime.toNat = clock.upTime s.now ∧ clock.upTime s.now < 2 ^ 63
  | .waitTimeout => s.wakesAt ≤ s.now
  | _ => True

instance (clock : UptimeClock) (s : Timed ν) : (act : WorkerAct) → Decidable (Allows clock s act)
  | .readClock _ => inferInstanceAs (Decidable (_ ∧ _))
  | .waitTimeout => inferInstanceAs (Decidable (_ ≤ _))
  | .check => .isTrue trivial
  | .acquire => .isTrue trivial
  | .acquireTimeout => .isTrue trivial
  | .dequeue => .isTrue trivial
  | .emit => .isTrue trivial

/-- The state after a step of the worker. -/
def Timed.after (clock : UptimeClock) (s : Timed ν) (act : WorkerAct) (q : AuthMsgQueue ν) :
    Timed ν :=
  { s with
    d := { s.d with q := q }
    wakesAt :=
      match q.worker with
      | .waiting _ ms => s.now + ms.toNat * 1000000
      | _ => s.wakesAt
    readAt :=
      match act with
      | .readClock _ => clock.upTime s.now
      | _ => s.readAt
    lastShown :=
      match act with
      | .emit => some s.readAt
      | _ => s.lastShown
    prompted :=
      match act with
      | .emit => s.prompted || s.d.q.worker.held.any (·.msg.isPrompt)
      | _ => s.prompted }

def step (clock : UptimeClock) : Step (Timed ν) (TimedEvent ν) Unit
  | s, .append e =>
    if s.d.AtLoop then some ({ s with d := s.d.call (append e) }, []) else none
  | s, .startDispatcher =>
    if s.d.AtLoop then some ({ s with d := s.d.call [.start] }, []) else none
  | s, .main => (s.d.step .main).map fun d => ({ s with d := d }, [])
  | s, .worker act =>
    if Allows clock s act then (s.d.q.doDispatcher act).map fun q => (s.after clock act q, [])
    else none
  | s, .pass nanoseconds => some ({ s with now := s.now + nanoseconds }, [])

/-- A new queue, at any time. -/
def Timed.new (interval : Nat) (now : Nat) : Timed ν where
  d := { q := { m_interval := interval } }
  now := now

/-! ## The law -/

/-- The first prompt. -/
def Timed.isFirst (s : Timed ν) (e : Entry ν) : Bool := e.msg.isPrompt && !s.prompted

/-- A message that is emitted comes `interval` seconds after the one before, and the time of a
wait is the number of seconds that are missing, with no underflow. -/
def Spaced (clock : UptimeClock) (interval : Nat) (s : Timed ν) (e : TimedEvent ν)
    (_ : List Unit) (s1 : Timed ν) : Prop :=
  match e with
  | .worker .emit => ∀ x last, s.d.q.worker = .emitting x → s.isFirst x = false →
      s.lastShown = some last → last + interval ≤ clock.upTime s.now
  | .worker (.readClock upTime) => ∀ x ms, s1.d.q.worker = .waiting x ms →
      upTime.toNat < s.d.q.m_msgShowTime.toNat + interval ∧
        ms.toNat = (s.d.q.m_msgShowTime.toNat + interval - upTime.toNat) * 1000
  | _ => True

/-! ## The arithmetic -/

theorem ofInt_toNat {n : Nat} (h : n < 2 ^ 31) : (UInt64.ofInt n).toNat = n := by
  unfold UInt64.ofInt
  rw [UInt64.toNat_ofNat']
  omega

theorem showTime_toNat {shown : UInt64} {interval : Nat} (hshown : shown.toNat < 2 ^ 63)
    (h : interval < 2 ^ 31) :
    (shown + UInt64.ofInt interval).toNat = shown.toNat + interval := by
  rw [UInt64.toNat_add, ofInt_toNat h]
  omega

/-- The milliseconds are those of the missing seconds. -/
theorem waitTime_toNat {shown upTime : UInt64} {interval : Nat} (hshown : shown.toNat < 2 ^ 63)
    (h : interval < 2 ^ 31) (hle : shown.toNat ≤ upTime.toNat)
    (hlt : upTime < shown + UInt64.ofInt interval) :
    upTime.toNat < shown.toNat + interval ∧
      ((shown + UInt64.ofInt interval - upTime) * 1000).toNat =
        (shown.toNat + interval - upTime.toNat) * 1000 := by
  have hsum := showTime_toNat hshown h
  have hlt' : upTime.toNat < shown.toNat + interval := by
    rw [← hsum]
    exact UInt64.lt_iff_toNat_lt.mp hlt
  refine ⟨hlt', ?_⟩
  rw [UInt64.toNat_mul, UInt64.toNat_sub_of_le _ _ (UInt64.le_of_lt hlt), hsum]
  have hthousand : (1000 : UInt64).toNat = 1000 := rfl
  rw [hthousand, Nat.mod_eq_of_lt]
  omega

/-- After the wait, the missing seconds have passed. -/
theorem upTime_after_wait (clock : UptimeClock) (now seconds : Nat) :
    clock.upTime (now + seconds * 1000 * 1000000) = clock.upTime now + seconds := by
  rw [Nat.mul_assoc]
  exact clock.seconds now seconds

/-! ## The invariant -/

/-- What holds of the message that the worker has. -/
def Timely (clock : UptimeClock) (interval : Nat) (s : Timed ν) : Worker ν → Prop
  | .waiting e _ => s.isFirst e = false ∧
      s.d.q.m_msgShowTime.toNat + interval ≤ clock.upTime s.wakesAt
  | .ready e => s.isFirst e = false →
      s.d.q.m_msgShowTime.toNat + interval ≤ clock.upTime s.now
  | .emitting e => s.isFirst e = false →
      ∀ last, s.lastShown = some last → last + interval ≤ s.d.q.m_msgShowTime.toNat
  | _ => True

structure Inv (clock : UptimeClock) (interval : Nat) (s : Timed ν) : Prop where
  sane : Sane s.d.q
  goesOn : s.d.stopping = false
  hasInterval : s.d.q.m_interval = interval
  prompted : s.prompted = s.d.q.m_havePrompted
  inPast : s.d.q.m_msgShowTime.toNat ≤ clock.upTime s.now
  small : s.d.q.m_msgShowTime.toNat < 2 ^ 63
  shown : (∀ e, s.d.q.worker ≠ .emitting e) → ∀ last, s.lastShown = some last →
    last = s.d.q.m_msgShowTime.toNat
  timely : Timely clock interval s s.d.q.worker
  /-- What the worker has written down is what it has read. -/
  recorded : ∀ e, s.d.q.worker = .emitting e → s.readAt = s.d.q.m_msgShowTime.toNat

theorem new_inv (clock : UptimeClock) (interval now : Nat) :
    Inv clock interval (Timed.new interval now : Timed ν) where
  sane _ := rfl
  goesOn := rfl
  hasInterval := rfl
  prompted := rfl
  inPast := Nat.zero_le _
  small := by
    show (0 : UInt64).toNat < 2 ^ 63
    decide
  shown _ last h := by cases h
  timely := trivial
  recorded e h := by cases h

/-! ## The main thread and the time -/

/-- What the main thread does to the worker, when it does not stop it. -/
structure Leaves (q q1 : AuthMsgQueue ν) : Prop where
  interval : q1.m_interval = q.m_interval
  showTime : q1.m_msgShowTime = q.m_msgShowTime
  prompted : q1.m_havePrompted = q.m_havePrompted
  worker : q1.worker = q.worker ∨ q.worker = .idle ∧ q1.worker = .check

theorem mainStep_leaves {q q1 : AuthMsgQueue ν} {op : MainOp ν} {more : List (MainOp ν)}
    (hs : Sane q) (hop : op.stops = false) (h : mainStep q op = some (q1, more)) :
    Leaves q q1 ∧ more = [] := by
  cases op with
  | enqueue e =>
    cases h
    exact ⟨⟨rfl, rfl, rfl, Or.inl rfl⟩, rfl⟩
  | release =>
    cases h
    exact ⟨⟨rfl, rfl, rfl, Or.inl rfl⟩, rfl⟩
  | start =>
    simp only [mainStep] at h
    split_ifs at h with hrun <;> cases h
    · exact ⟨⟨rfl, rfl, rfl, Or.inl rfl⟩, rfl⟩
    · exact ⟨⟨rfl, rfl, rfl, Or.inr ⟨hs (Bool.eq_false_iff.mpr hrun), rfl⟩⟩, rfl⟩
  | _ => cases hop

theorem main_inv {clock : UptimeClock} {interval : Nat} {s : Timed ν} {d : Dispatch ν}
    (hs : Inv clock interval s) (h : s.d.step .main = some d) :
    Inv clock interval { s with d := d } := by
  have hsane := sane_step hs.sane h
  obtain ⟨act, q1, ht, -, -⟩ | ⟨op, rest, q1, more, -, hops, hm, rfl⟩ := Dispatch.step_cases h
  · cases ht
  have hstop := hs.goesOn
  unfold Dispatch.stopping at hstop
  rw [hops, List.any_cons, Bool.or_eq_false_iff] at hstop
  obtain ⟨hq, rfl⟩ := mainStep_leaves hs.sane hstop.1 hm
  refine ⟨hsane, hstop.2, hq.interval.trans hs.hasInterval, ?_, ?_, ?_, ?_, ?_, ?_⟩
  · exact hs.prompted.trans hq.prompted.symm
  · exact hq.showTime ▸ hs.inPast
  · exact hq.showTime ▸ hs.small
  · intro hne last hlast
    refine (hs.shown ?_ last hlast).trans (congrArg UInt64.toNat hq.showTime.symm)
    rcases hq.worker with hw | ⟨hw, -⟩
    · exact hw ▸ hne
    · simp [hw]
  · have htimely := hs.timely
    rcases hq.worker with hw | ⟨-, hw⟩
    · -- the message of the worker is the same, and so are all times
      dsimp only
      rw [hw]
      rcases hworker : s.d.q.worker <;> rw [hworker] at htimely
      case waiting e ms => simpa only [Timely, Timed.isFirst, hq.showTime] using htimely
      case ready e => simpa only [Timely, Timed.isFirst, hq.showTime] using htimely
      case emitting e => simpa only [Timely, Timed.isFirst, hq.showTime] using htimely
      all_goals trivial
    · dsimp only
      rw [hw]
      trivial
  · intro e he
    dsimp only at he ⊢
    rw [hq.showTime]
    rcases hq.worker with hw | ⟨-, hw⟩
    · exact hs.recorded e (hw ▸ he)
    · rw [hw] at he
      cases he

theorem pass_inv {clock : UptimeClock} {interval : Nat} {s : Timed ν} (hs : Inv clock interval s)
    (nanoseconds : Nat) : Inv clock interval { s with now := s.now + nanoseconds } := by
  have hlater := clock.mono (Nat.le_add_right s.now nanoseconds)
  refine ⟨hs.sane, hs.goesOn, hs.hasInterval, hs.prompted, hs.inPast.trans hlater, hs.small,
    hs.shown, ?_, hs.recorded⟩
  have htimely := hs.timely
  dsimp only
  rcases hw : s.d.q.worker <;> rw [hw] at htimely
  case ready e => exact fun hfirst => (htimely hfirst).trans hlater
  all_goals exact htimely

theorem call_inv {clock : UptimeClock} {interval : Nat} {s : Timed ν} (hs : Inv clock interval s)
    {ops : List (MainOp ν)} (hops : ops.any MainOp.stops = false) :
    Inv clock interval { s with d := s.d.call ops } := by
  refine ⟨hs.sane, ?_, hs.hasInterval, hs.prompted, hs.inPast, hs.small, hs.shown, hs.timely,
    hs.recorded⟩
  have hstop := hs.goesOn
  unfold Dispatch.stopping at *
  rw [Dispatch.call, List.any_append, hstop, hops]
  rfl

/-! ## The worker -/

/-- A message that does not wait is the first prompt, or it is time for it. -/
theorem passes_in_time {clock : UptimeClock} {interval : Nat} (h : interval < 2 ^ 31)
    {s : Timed ν} (hs : Inv clock interval s) {e : Entry ν} {upTime : UInt64}
    (hup : upTime.toNat = clock.upTime s.now) (hm : s.d.q.mustWait e upTime = false)
    (hfirst : s.isFirst e = false) :
    s.d.q.m_msgShowTime.toNat + interval ≤ clock.upTime s.now := by
  unfold Timed.isFirst at hfirst
  rw [hs.prompted] at hfirst
  unfold AuthMsgQueue.mustWait at hm
  rw [hfirst, Bool.not_false, Bool.true_and, hs.hasInterval, decide_eq_false_iff_not,
    UInt64.not_lt, UInt64.le_iff_toNat_le, showTime_toNat hs.small h] at hm
  omega

/-- A message that waits is not the first prompt, and after its wait it is time for it. -/
theorem waits_in_time {clock : UptimeClock} {interval : Nat} (h : interval < 2 ^ 31)
    {s : Timed ν} (hs : Inv clock interval s) {e : Entry ν} {upTime : UInt64}
    (hup : upTime.toNat = clock.upTime s.now) (hm : s.d.q.mustWait e upTime = true) :
    let ms := (s.d.q.m_msgShowTime + UInt64.ofInt s.d.q.m_interval - upTime) * 1000
    s.isFirst e = false ∧ upTime.toNat < s.d.q.m_msgShowTime.toNat + interval ∧
      ms.toNat = (s.d.q.m_msgShowTime.toNat + interval - upTime.toNat) * 1000 ∧
      clock.upTime (s.now + ms.toNat * 1000000) = s.d.q.m_msgShowTime.toNat + interval := by
  unfold AuthMsgQueue.mustWait at hm
  rw [Bool.and_eq_true, Bool.not_eq_true', decide_eq_true_eq, hs.hasInterval] at hm
  obtain ⟨hfirst, hlt⟩ := hm
  obtain ⟨hless, hms⟩ := waitTime_toNat hs.small h (hup ▸ hs.inPast) hlt
  dsimp only
  rw [hs.hasInterval, hms, upTime_after_wait, Timed.isFirst, hs.prompted]
  exact ⟨hfirst, hless, rfl, by omega⟩

theorem worker_inv {clock : UptimeClock} {interval : Nat} (h : interval < 2 ^ 31) {s : Timed ν}
    (hs : Inv clock interval s) {act : WorkerAct} {q : AuthMsgQueue ν}
    (hallows : Allows clock s act) (hq : s.d.q.doDispatcher act = some q) :
    Inv clock interval (s.after clock act q) := by
  have hsane : Sane q := by
    have hstep : s.d.step (.worker act) = some { s.d with q := q } := by
      simp [Dispatch.step, hq]
    exact sane_step hs.sane hstep
  have htimely := hs.timely
  have hshown := hs.shown
  cases moves_of_doDispatcher hq with
  | check hw =>
    refine ⟨hsane, hs.goesOn, hs.hasInterval, hs.prompted, hs.inPast, hs.small, ?_, ?_, ?_⟩
    · exact fun _ => hshown (by simp [hw])
    · show Timely clock interval _ (if _ then _ else _)
      split_ifs <;> trivial
    · intro e he
      dsimp only [Timed.after] at he
      split_ifs at he
  | acquire hw hsem =>
    exact ⟨hsane, hs.goesOn, hs.hasInterval, hs.prompted, hs.inPast, hs.small,
      fun _ => hshown (by simp [hw]), trivial, fun e he => by cases he⟩
  | timeout hw hsem =>
    exact ⟨hsane, hs.goesOn, hs.hasInterval, hs.prompted, hs.inPast, hs.small,
      fun _ => hshown (by simp [hw]), trivial, fun e he => by cases he⟩
  | empty hw hqueue =>
    exact ⟨hsane, hs.goesOn, hs.hasInterval, hs.prompted, hs.inPast, hs.small,
      fun _ => hshown (by simp [hw]), trivial, fun e he => by cases he⟩
  | dequeue hw hqueue =>
    exact ⟨hsane, hs.goesOn, hs.hasInterval, hs.prompted, hs.inPast, hs.small,
      fun _ => hshown (by simp [hw]), trivial, fun e he => by cases he⟩
  | wait hw hm =>
    obtain ⟨hfirst, -, -, htime⟩ := waits_in_time h hs hallows.1 hm
    exact ⟨hsane, hs.goesOn, hs.hasInterval, hs.prompted, hs.inPast, hs.small,
      fun _ => hshown (by simp [hw]), ⟨hfirst, htime.ge⟩, fun e he => by cases he⟩
  | pass hw hm =>
    exact ⟨hsane, hs.goesOn, hs.hasInterval, hs.prompted, hs.inPast, hs.small,
      fun _ => hshown (by simp [hw]), passes_in_time h hs hallows.1 hm, fun e he => by cases he⟩
  | waited hw =>
    rw [hw] at htimely
    exact ⟨hsane, hs.goesOn, hs.hasInterval, hs.prompted, hs.inPast, hs.small,
      fun _ => hshown (by simp [hw]), fun _ => htimely.2.trans (clock.mono hallows),
      fun e he => by cases he⟩
  | @record e upTime hw =>
    obtain ⟨hup, hsmall⟩ := hallows
    rw [hw] at htimely
    refine ⟨hsane, hs.goesOn, hs.hasInterval, hs.prompted, hup.le, hup ▸ hsmall, ?_, ?_, ?_⟩
    · exact fun hne => absurd rfl (hne e)
    · -- the time that was written down before is that of the message that was shown last
      intro hfirst last hlast
      show last + interval ≤ upTime.toNat
      rw [hshown (by simp [hw]) last hlast, hup]
      exact htimely hfirst
    · intro _ _
      exact hup.symm
  | @emit e hw =>
    refine ⟨hsane, hs.goesOn, hs.hasInterval, ?_, hs.inPast, hs.small, ?_, trivial,
      fun e he => by cases he⟩
    · simp [Timed.after, hw, Worker.held, hs.prompted]
    · intro _ last hlast
      exact (Option.some.inj hlast).symm.trans (hs.recorded e hw)

/-! ## The spacing -/

theorem step_inv {clock : UptimeClock} {interval : Nat} (h : interval < 2 ^ 31) {s s1 : Timed ν}
    {e : TimedEvent ν} {o : List Unit} (hs : Inv clock interval s)
    (hstep : step clock s e = some (s1, o)) : Inv clock interval s1 := by
  cases e with
  | append e =>
    simp only [step] at hstep
    split_ifs at hstep
    cases hstep
    exact call_inv hs rfl
  | startDispatcher =>
    simp only [step] at hstep
    split_ifs at hstep
    cases hstep
    exact call_inv hs rfl
  | main =>
    obtain ⟨d, hd, heq⟩ := Option.map_eq_some_iff.mp hstep
    cases heq
    exact main_inv hs hd
  | worker act =>
    simp only [step] at hstep
    split_ifs at hstep with hallows
    obtain ⟨q, hq, heq⟩ := Option.map_eq_some_iff.mp hstep
    cases heq
    exact worker_inv h hs hallows hq
  | pass nanoseconds =>
    cases hstep
    exact pass_inv hs nanoseconds

theorem step_spaced {clock : UptimeClock} {interval : Nat} (h : interval < 2 ^ 31) {s s1 : Timed ν}
    {e : TimedEvent ν} {o : List Unit} (hs : Inv clock interval s)
    (hstep : step clock s e = some (s1, o)) : Spaced clock interval s e o s1 := by
  cases e with
  | worker act =>
    simp only [step] at hstep
    split_ifs at hstep with hallows
    obtain ⟨q, hq, heq⟩ := Option.map_eq_some_iff.mp hstep
    cases heq
    cases moves_of_doDispatcher hq with
    | emit hw =>
      intro x last hx hfirst hlast
      have htimely := hs.timely
      rw [hx] at htimely
      exact (htimely hfirst last hlast).trans hs.inPast
    | wait hw hm =>
      obtain ⟨-, hless, hms, -⟩ := waits_in_time h hs hallows.1 hm
      intro x ms hx
      cases hx
      exact ⟨hless, hms⟩
    | pass hw hm =>
      intro x ms hx
      cases hx
    | record hw =>
      intro x ms hx
      cases hx
    | _ => trivial
  | _ => trivial

/-- In every run with no `stopDispatcher`, the messages are spaced, and no waiting time
underflows. -/
theorem messages_are_spaced (clock : UptimeClock) {interval : Nat} (h : interval < 2 ^ 31)
    (now : Nat) (es : List (TimedEvent ν)) :
    Always (step clock) (Spaced clock interval) (.new interval now) es := by
  refine always_of_inv (I := Inv clock interval) (G := fun _ _ => True) ?_
    (new_inv clock interval now) meets_true
  intro s e s1 o hs _ hstep
  exact ⟨step_inv h hs hstep, step_spaced h hs hstep⟩

/-- Two messages come at once, and the second waits for two seconds. -/
def twoMessages : List (TimedEvent Unit) :=
  [.startDispatcher, .main, .append ⟨.message .Info "Welcome", ()⟩, .main, .main, .worker .check,
    .worker .acquire, .worker .dequeue, .worker (.readClock 100), .worker (.readClock 100),
    .worker .emit, .append ⟨.message .Info "Last login: today", ()⟩, .main, .main, .worker .check,
    .worker .acquire, .worker .dequeue, .worker (.readClock 100), .pass 2000000000,
    .worker .waitTimeout, .worker (.readClock 102), .worker .emit]

theorem two_messages_are_spaced :
    (run (step .truncated) (.new 2 100000000000) twoMessages).isSome = true ∧
      Always (step .truncated) (Spaced .truncated 2) (.new 2 100000000000) twoMessages :=
  ⟨rfl, messages_are_spaced .truncated (by decide) 100000000000 twoMessages⟩

end session_guard.message_spacing
