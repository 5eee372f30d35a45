-- When the greeter hears of a success by itself. A success that is on its way comes to the window
-- when its signal is posted, or the dispatcher thread runs to post it, and in no other case.
import SessionGuard.AuthProgress
import SessionGuard.SessionChoice

open machine

namespace session_guard.greeter_login

open auth_msg_queue auth_proxy auth_runs queue_liveness
open greeter_login_window (Prefs EditInputMode KeepsSession does_session)
open user_list_widget (UserInfo)

variable {env : Env}

/-! ## What stays in order -/

/-- The queue is in order, and nobody destroys the proxy. -/
structure Ready (s : Sys) : Prop where
  fromWindow : FromWindow s
  orderly : Orderly s.auth.queue
  alive : s.auth.alive = true

theorem Asks.alive {s s1 : Sys} {e : Event} {call : Nat} {x : ThreadEvent}
    {auth : auth_runs.Sys (Dispatch Note)} {effects : List Effect} (hs : Ready s)
    (hask : Asks s e s1 call x) (h : threadStep env s.auth x = some (auth, effects)) :
    auth.alive = true := by
  have hmain : ∀ {y : auth_runs.Event}, x = .main y → y.isDestroy = false →
      auth.alive = true := by
    rintro y rfl hy
    simp only [threadStep] at h
    split_ifs at h
    obtain ⟨-, -, rfl⟩ := handle_eq_some env h
    simp [hy]
  cases hask with
  | thread t =>
    obtain ⟨d, -, heq⟩ := Option.map_eq_some_iff.mp h
    cases heq
    exact hs.alive
  | @proceed y rest htodo =>
    obtain ⟨o, ho⟩ := hs.fromWindow y (htodo ▸ List.mem_cons_self)
    exact hmain rfl (callOf_spec ho).1
  | deliver hd =>
    simp only [threadStep, hd] at h
    obtain ⟨halive, -, rfl⟩ := receive_eq_some h
    exact halive
  | _ => exact hmain rfl rfl

theorem step_ready {s t : Sys} {e : Event} {o : List Output} (hs : Ready s)
    (h : step env s e = some (t, o)) : Ready t := by
  obtain ⟨hkeeps, -⟩ := step_calls hs.fromWindow h
  have hmoves := step_moves h
  generalize hr : (t, o) = r at hmoves
  cases hmoves with
  | window hout hw =>
    cases hr
    exact ⟨hkeeps, hs.orderly, hs.alive⟩
  | @proxy _ s1 call x auth effects hask hx =>
    obtain ⟨hauth, -⟩ := dispatch_proxy { s1 with auth := auth } call effects
    rw [← hr] at hauth
    refine ⟨hkeeps, ?_, ?_⟩
    · rw [hauth]
      exact threadStep_orderly hs.orderly hx
    · rw [hauth]
      exact hask.alive hs hx

variable (env)

theorem init_ready (authType : Int) (prefs : Prefs) (users : List UserInfo)
    (autologinUserHint : String) (m_inputMode : EditInputMode) :
    Ready (Sys.init env authType prefs users autologinUserHint m_inputMode).1 := by
  refine ⟨?_, orderly_new 2, rfl⟩
  exact takes_keeps (s := { window := unset prefs users autologinUserHint m_inputMode
                            auth := proxied env authType }) (List.forall_mem_nil _) 0 _

/-! ## The greeter by itself -/

/-- The event is a step of the threads of the greeter. -/
def isOwn : Event → Bool
  | .deliver => true
  | .proceed => true
  | .thread _ => true
  | _ => false

/-- The greeter, where neither the user nor LightDM nor the authentication service does
anything. -/
def alone : Step Sys Event Output := fun s e => if isOwn e then step env s e else none

/-- The message completes an attempt. -/
def Completes (x : Entry Note) : Prop := ∃ b, x.msg = .complete b

/-- A success is on its way, and no other completion comes before it. -/
structure Coming (x : Entry Note) (s : Sys) : Prop where
  success : x.msg = .complete true
  flight : ∃ xs ys, s.auth.queue.flight = xs ++ x :: ys ∧ ∀ y ∈ xs, ¬ Completes y

/-- The signal of the message is posted, or the worker runs to post it. -/
def Carried (x : Entry Note) (s : Sys) : Prop :=
  s.auth.queue.q.isRunning = true ∨ x ∈ s.auth.queue.q.posted

theorem step_deliver {s : Sys} {x : Entry Note} {d : Dispatch Note} (halive : s.auth.alive = true)
    (hloop : s.AtLoop) (hd : s.auth.queue.deliver = some (x, d)) :
    alone env s .deliver = some (Sys.dispatch { s with
        auth := ({ s.auth with queue := d }).after Dispatch.call x.note
          (s.auth.proxy.handleAuthQueue x.msg) }
      x.note.call (s.auth.proxy.handleAuthQueue x.msg).2) := by
  have hown : alone env s .deliver = s.mainStep env .deliver := if_pos hloop
  rw [hown]
  simp only [Sys.mainStep, hd, Sys.proxyStep, threadStep, receive, halive, if_true,
    Option.map_some]

theorem dispatch_one (s : Sys) (call : Nat) {e : Effect} {event : greeter_login_window.Event}
    (h : signal e = some event) (hnothing : (s.window.does event).2 = []) :
    s.dispatch call [e] = ({ s with window := (s.window.does event).1 }, [.proxy e]) := by
  simp [Sys.dispatch, h, Sys.takes, hnothing]

/-- A message that completes nothing is one signal, and its slot calls nothing. -/
theorem handleAuthQueue_shows (p : AuthProxy) {x : Entry Note} (hx : ¬ Completes x) :
    ∃ e, (p.handleAuthQueue x.msg).2 = [e] ∧ signal e = some (slotFor x.msg) ∧
      mainOps x.note [e] = [] ∧
      ∀ w : greeter_login_window.Sys, (w.does (slotFor x.msg)).2 = [] := by
  rcases hm : x.msg with ⟨f, type, text⟩ | ⟨type, text⟩ | b
  · exact ⟨.showPrompt text type, rfl, rfl, rfl, fun _ => rfl⟩
  · exact ⟨.showMessage text type, rfl, rfl, rfl, fun _ => rfl⟩
  · exact absurd ⟨b, hm⟩ hx

/-- What the delivery of a message that completes nothing does. -/
structure Shows (s : Sys) (d : Dispatch Note) (t : Sys) : Prop where
  loop : t.AtLoop
  queue : t.auth.queue = d
  session : t.window.window.m_session = s.window.window.m_session

theorem deliver_shows {s : Sys} {x : Entry Note} {d : Dispatch Note} (halive : s.auth.alive = true)
    (hloop : s.AtLoop) (hd : s.auth.queue.deliver = some (x, d)) (hx : ¬ Completes x) :
    ∃ t e, alone env s .deliver = some (t, [.proxy e]) ∧ Shows s d t := by
  obtain ⟨e, heffects, hsignal, hops, hnothing⟩ := handleAuthQueue_shows s.auth.proxy hx
  have hstep := step_deliver env halive hloop hd
  rw [heffects, dispatch_one _ _ hsignal (hnothing _)] at hstep
  have hqueue : d.call (mainOps x.note (s.auth.proxy.handleAuthQueue x.msg).2) = d := by
    rw [heffects, hops]
    simp [Dispatch.call]
  have hempty : d.AtLoop := (Dispatch.deliver_eq_some hd).2.1
  have hsession : KeepsSession s.window (s.window.does (slotFor x.msg)) :=
    does_session s.window (signal_keeps hsignal)
  refine ⟨_, e, hstep, ⟨hloop.1, ?_⟩, hqueue, hsession⟩
  show (d.call (mainOps x.note (s.auth.proxy.handleAuthQueue x.msg).2)).AtLoop
  rw [hqueue]
  exact hempty

/-- A success that is delivered starts the session. -/
theorem deliver_asks {s : Sys} {x : Entry Note} {d : Dispatch Note} (halive : s.auth.alive = true)
    (hloop : s.AtLoop) (hd : s.auth.queue.deliver = some (x, d)) (hx : x.msg = .complete true) :
    Offers (alone env) (.window (.startSessionSync s.window.window.m_session)) s := by
  have hstep := step_deliver env halive hloop hd
  generalize hs1 : ({ s with
    auth := ({ s.auth with queue := d }).after Dispatch.call x.note
      (s.auth.proxy.handleAuthQueue x.msg) } : Sys) = s1 at hstep
  have hwindow : s1.window = s.window := by rw [← hs1]
  have hrun := dispatch_window s1 x.note.call (s.auth.proxy.handleAuthQueue x.msg).2
  rw [handleAuthQueue_signal, hx] at hrun
  obtain ⟨w, o1, o2, hw, hrest, ho⟩ := run_cons_iff.mp hrun
  cases hrest
  obtain ⟨-, -, rfl⟩ := greeter_login_window.step_does hw
  have hmem : greeter_login_window.Output.startSessionSync s.window.window.m_session ∈
      (s1.dispatch x.note.call (s.auth.proxy.handleAuthQueue x.msg).2).2.filterMap
        Output.window? := by
    rw [hx, ho, hwindow]
    exact List.mem_singleton.mpr rfl
  obtain ⟨y, hy, heq⟩ := List.mem_filterMap.mp hmem
  cases y with
  | window output =>
    cases heq
    exact ⟨[.deliver], _, _, run_cons_iff.mpr ⟨_, _, [], hstep, rfl, rfl⟩,
      List.mem_append_left _ hy⟩
  | proxy effect => cases heq

/-! ## A success comes through -/

/-- What holds while the greeter is alone with a success that comes. -/
structure Waiting (x : Entry Note) (session : String) (s : Sys) : Prop where
  ready : Ready s
  loop : s.AtLoop
  coming : Coming x s
  carried : Carried x s
  session : s.window.window.m_session = session

/-- In the event loop, a running dispatcher is kept. -/
theorem Ready.kept {s : Sys} (hs : Ready s) (hloop : s.AtLoop)
    (hrun : s.auth.queue.q.isRunning = true) : Kept s.auth.queue := by
  refine ⟨hs.orderly, ?_⟩
  rw [hloop.2]
  exact hrun

/-- What the worker does of itself while nothing is posted. -/
structure Works (s : Sys) (d : Dispatch Note) : Prop where
  loop : d.AtLoop
  flight : d.flight = s.auth.queue.flight
  running : d.q.isRunning = true
  less : toDeliver d < toDeliver s.auth.queue

theorem step_thread {s : Sys} {thread : Thread} {d : Dispatch Note}
    (hd : s.auth.queue.step thread = some d) :
    step env s (.thread thread) = some ({ s with auth := { s.auth with queue := d } }, []) := by
  simp [step, Sys.proxyStep, threadStep, hd, Sys.dispatch]

/-- The worker goes on when nothing is posted. -/
theorem Ready.works {s : Sys} (hs : Ready s) (hloop : s.AtLoop)
    (hrun : s.auth.queue.q.isRunning = true) (hne : s.auth.queue.flight ≠ [])
    (hp : s.auth.queue.q.posted = []) :
    ∃ act d, s.auth.queue.step (.worker act) = some d ∧ Works s d := by
  have hkept := hs.kept hloop hrun
  obtain ⟨act, d, hd, hloop1, hlt⟩ := hkept.toDeliver_lt hloop.2 hne hp
  have hnostop : s.auth.queue.stopping = false := by
    rw [Dispatch.stopping, hloop.2]
    rfl
  obtain ⟨-, hkeeps⟩ := Dispatch.step_keeps hs.orderly.tidy.sane hnostop hd
  have hlasts := (hkept.step hd).lasts
  rw [hloop1] at hlasts
  exact ⟨act, d, hd, hloop1, hkeeps, hlasts, hlt⟩

theorem Waiting.works {x : Entry Note} {session : String} {s : Sys} (hs : Waiting x session s)
    (hp : s.auth.queue.q.posted = []) :
    ∃ e t o, alone env s e = some (t, o) ∧ Waiting x session t ∧
      toDeliver t.auth.queue < toDeliver s.auth.queue := by
  obtain ⟨xs, ys, hflight, hfirst⟩ := hs.coming.flight
  have hrun : s.auth.queue.q.isRunning = true := by
    rcases hs.carried with hrun | hposted
    · exact hrun
    · rw [hp] at hposted
      cases hposted
  have hne : s.auth.queue.flight ≠ [] := by simp [hflight]
  obtain ⟨act, d, hd, hworks⟩ := hs.ready.works hs.loop hrun hne hp
  have hstep := step_thread env hd
  refine ⟨.thread (.worker act), _, [], hstep, ?_, hworks.less⟩
  exact ⟨step_ready hs.ready hstep, ⟨hs.loop.1, hworks.loop⟩,
    ⟨hs.coming.success, xs, ys, hworks.flight.trans hflight, hfirst⟩, Or.inl hworks.running,
    hs.session⟩

/-- A posted message is delivered, when it is not the success. -/
theorem Waiting.delivers {x y : Entry Note} {session : String} {s : Sys} {d : Dispatch Note}
    (hs : Waiting x session s) (hd : s.auth.queue.deliver = some (y, d)) (hy : y ≠ x) :
    ∃ e t o, alone env s e = some (t, o) ∧ Waiting x session t ∧
      toDeliver t.auth.queue < toDeliver s.auth.queue := by
  obtain ⟨xs, ys, hflight, hfirst⟩ := hs.coming.flight
  obtain ⟨hops, -, hposted, hq⟩ := Dispatch.deliver_eq_some hd
  -- it comes before the success
  obtain ⟨xs1, rfl⟩ : ∃ xs1, xs = y :: xs1 := by
    rw [Dispatch.flight_deliver hd] at hflight
    cases xs with
    | nil => exact absurd (List.cons.inj hflight).1 hy
    | cons z xs1 => exact ⟨xs1, by rw [(List.cons.inj hflight).1]⟩
  rw [Dispatch.flight_deliver hd] at hflight
  have hplain : ¬ Completes y := hfirst y List.mem_cons_self
  obtain ⟨t, effect, hstep, hshows⟩ := deliver_shows env hs.ready.alive hs.loop hd hplain
  have hready : step env s .deliver = some (t, [.proxy effect]) := hstep
  refine ⟨.deliver, t, _, hstep, ⟨step_ready hs.ready hready, hshows.loop, ?_, ?_, ?_⟩, ?_⟩
  · refine ⟨hs.coming.success, xs1, ys, ?_, fun z hz => hfirst z (List.mem_cons_of_mem y hz)⟩
    rw [hshows.queue]
    exact (List.cons.inj hflight).2
  · unfold Carried
    rw [hshows.queue]
    rcases hs.carried with hrun | hmem
    · left
      rw [hq]
      exact hrun
    · right
      rw [hposted] at hmem
      rcases List.mem_cons.mp hmem with heq | hmem
      · exact absurd heq.symm hy
      · exact hmem
  · rw [hshows.session, hs.session]
  · rw [hshows.queue]
    exact deliver_lt hd

/-- The success is delivered in the end. -/
theorem Waiting.reaches {x : Entry Note} {session : String} {s : Sys} (hs : Waiting x session s) :
    Reaches (alone env) (fun t => Waiting x session t ∧
      ∃ d, t.auth.queue.deliver = some (x, d)) s := by
  apply reaches_of_progress fun t : Sys => toDeliver t.auth.queue
  · intro t ht hno
    rcases hp : t.auth.queue.q.posted with _ | ⟨y, rest⟩
    · exact ht.works env hp
    · obtain ⟨d, hd⟩ := deliver_of_posted ht.loop.2 hp
      have hy : y ≠ x := by
        rintro rfl
        exact hno ⟨d, hd⟩
      exact ht.delivers env hd hy
  · exact hs

/-! ## A success is lost -/

/-- The thread has ended, and no completion is posted. -/
structure Deserted (s : Sys) : Prop where
  ready : Ready s
  loop : s.AtLoop
  idle : s.auth.queue.q.worker = .idle
  posted : ∀ y ∈ s.auth.queue.q.posted, ¬ Completes y

theorem Deserted.keeps {s t : Sys} {e : Event} {o : List Output} (hs : Deserted s)
    (h : alone env s e = some (t, o)) :
    Deserted t ∧ ∀ session, .window (.startSessionSync session) ∉ o := by
  have hown : isOwn e = true ∧ step env s e = some (t, o) := by
    simp only [alone] at h
    split_ifs at h with hown
    exact ⟨hown, h⟩
  have hready := step_ready hs.ready hown.2
  cases e with
  | deliver =>
    rcases hd : s.auth.queue.deliver with _ | ⟨y, d⟩
    · have hstep := hown.2
      simp [step, Sys.mainStep, hd] at hstep
    · obtain ⟨-, -, hposted, hq⟩ := Dispatch.deliver_eq_some hd
      have hplain : ¬ Completes y := hs.posted y (by simp [hposted])
      obtain ⟨t1, effect, hstep, hshows⟩ :=
        deliver_shows env hs.ready.alive hs.loop hd hplain
      cases hstep.symm.trans h
      refine ⟨⟨hready, hshows.loop, ?_, ?_⟩, fun session hmem => ?_⟩
      · rw [hshows.queue, hq]
        exact hs.idle
      · rw [hshows.queue]
        intro z hz
        exact hs.posted z (by simp [hposted, hz])
      · cases List.mem_singleton.mp hmem
  | proceed =>
    have htodo : s.todo = [] := List.isEmpty_iff.mp hs.loop.1
    have hstep := hown.2
    simp [step, htodo] at hstep
  | thread thread =>
    have hops : s.auth.queue.ops = [] := hs.loop.2
    have hnone : s.auth.queue.step thread = none := by
      cases thread with
      | main => simp [Dispatch.step, hops]
      | worker act => simp [Dispatch.step, AuthMsgQueue.doDispatcher, hs.idle]
    have hstep := hown.2
    simp [step, Sys.proxyStep, threadStep, hnone] at hstep
  | _ => cases hown.1

/-- When nothing carries it, the success and what is behind it stay in the queue. -/
theorem Coming.deserted {x : Entry Note} {s : Sys} (hx : Coming x s) (hs : Ready s)
    (hloop : s.AtLoop) (hno : ¬ Carried x s) : Deserted s := by
  obtain ⟨xs, ys, hflight, hfirst⟩ := hx.flight
  obtain ⟨hstopped, hposted⟩ := not_or.mp hno
  refine ⟨hs, hloop, hs.orderly.tidy.sane (by simpa using hstopped), fun y hy => ?_⟩
  apply hfirst
  -- what is posted comes first, and the success is not in it
  rw [Dispatch.flight] at hflight
  obtain ⟨zs, hxs, -⟩ | ⟨zs, hp, heq⟩ := List.append_eq_append_iff.mp hflight
  · rw [hxs]
    exact List.mem_append_left zs hy
  · cases zs with
    | nil =>
      rw [List.append_nil] at hp
      rwa [hp] at hy
    | cons z zs =>
      obtain ⟨rfl, -⟩ := List.cons.inj heq
      exact absurd (hp ▸ List.mem_append_right xs List.mem_cons_self) hposted

/-- In every state that the greeter reaches, in its event loop, a success that is on its way can
come to the window, with nobody doing anything more, exactly when its signal is posted or the
dispatcher thread runs. -/
theorem a_success_arrives_iff_it_is_carried (authType : Int) (prefs : Prefs)
    (users : List UserInfo) (autologinUserHint : String) (m_inputMode : EditInputMode)
    {es : List Event} {s : Sys} {o : List Output} {x : Entry Note}
    (h : run (step env)
      (Sys.init env authType prefs users autologinUserHint m_inputMode).1 es = some (s, o))
    (hloop : s.AtLoop) (hx : Coming x s) :
    Offers (alone env) (.window (.startSessionSync s.window.window.m_session)) s ↔
      Carried x s := by
  have hready : Ready s := run_inv (fun _ _ _ _ hs hstep => step_ready hs hstep)
    (init_ready env authType prefs users autologinUserHint m_inputMode) h
  constructor
  · intro hoffers
    by_contra hno
    refine not_offers (I := Deserted) ?_ (hx.deserted hready hloop hno) hoffers
    intro s1 e t o hs1 hstep
    obtain ⟨ht, hnothing⟩ := hs1.keeps env hstep
    exact ⟨ht, hnothing _⟩
  · intro hcarried
    have hwaiting : Waiting x s.window.window.m_session s := ⟨hready, hloop, hx, hcarried, rfl⟩
    refine (hwaiting.reaches env).offers ?_
    rintro t ⟨ht, d, hd⟩
    rw [← ht.session]
    exact deliver_asks env ht.ready.alive ht.loop hd ht.coming.success

/-- The first user logs in, up to where the success is in the queue. -/
def passes : List Event := logIn.take 34

/-- The user leaves for the other page, and then LightDM ends the attempt. -/
def leaves : List Event :=
  logIn.take 31 ++ [.window .clickNotListAndCancel, .proceed, .thread .main, .thread .main,
    .thread (.worker .check)] ++ List.replicate 11 (.thread .main) ++
    [.greeterComplete true, .thread .main, .thread .main]

theorem a_success_arrives_and_a_late_one_stays :
    (∃ s o, run (step sampleEnv) greeter passes = some (s, o) ∧
      Offers (alone sampleEnv) (.window (.startSessionSync s.window.window.m_session)) s) ∧
    ∃ s o, run (step sampleEnv) greeter leaves = some (s, o) ∧
      Coming ⟨.complete true, ⟨.PAM, 2⟩⟩ s ∧
      ¬ Offers (alone sampleEnv) (.window (.startSessionSync s.window.window.m_session)) s := by
  have hpasses : ∃ s o, run (step sampleEnv) greeter passes = some (s, o) ∧ s.AtLoop ∧
      s.auth.queue.flight = [⟨.complete true, ⟨.PAM, 1⟩⟩] ∧
      s.auth.queue.q.isRunning = true := ⟨_, _, rfl, by decide, rfl, rfl⟩
  have hleaves : ∃ s o, run (step sampleEnv) greeter leaves = some (s, o) ∧ s.AtLoop ∧
      s.auth.queue.flight = [⟨.complete true, ⟨.PAM, 2⟩⟩] ∧
      s.auth.queue.q.isRunning = false ∧ s.auth.queue.q.posted = [] :=
    ⟨_, _, rfl, by decide, rfl, rfl, rfl⟩
  obtain ⟨s, o, h, hloop, hflight, hrun⟩ := hpasses
  obtain ⟨t, o1, h1, hloop1, hflight1, hstopped, hposted⟩ := hleaves
  have hcoming : Coming ⟨.complete true, ⟨.PAM, 1⟩⟩ s :=
    ⟨rfl, [], [], hflight, List.forall_mem_nil _⟩
  have hcoming1 : Coming ⟨.complete true, ⟨.PAM, 2⟩⟩ t :=
    ⟨rfl, [], [], hflight1, List.forall_mem_nil _⟩
  refine ⟨⟨s, o, h, ?_⟩, t, o1, h1, hcoming1, ?_⟩
  · exact (a_success_arrives_iff_it_is_carried sampleEnv 1 greeter_login_window.samplePrefs
      aliceAndBob "" .EDIT_INPUT_USER_NAME h hloop hcoming).mpr (Or.inl hrun)
  · intro hoffers
    rcases (a_success_arrives_iff_it_is_carried sampleEnv 1 greeter_login_window.samplePrefs
      aliceAndBob "" .EDIT_INPUT_USER_NAME h1 hloop1 hcoming1).mp hoffers with hrun1 | hmem
    · rw [hstopped] at hrun1
      cases hrun1
    · rw [hposted] at hmem
      cases hmem

end session_guard.greeter_login
