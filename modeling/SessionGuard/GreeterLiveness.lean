-- Somebody can always log in at the greeter, unless its main thread waits in vain inside of
-- `stopDispatcher`: the user begins an attempt with a control of the window, LightDM ends it with a
-- success, and this comes to the window.
import SessionGuard.GreeterControls
import SessionGuard.GreeterDelivery

open machine

namespace session_guard.greeter_login

open auth_msg_queue auth_proxy auth_runs queue_liveness
open queue_deadlock (Blocked)
open greeter_login_window (Prefs EditInputMode HasWay AsksName Clickable KeepsWay begun)
open user_list_widget (UserInfo UserListWidget)

/-! ## Does an attempt run? -/

/-- Does the dispatcher run when the slot has made its calls? -/
def called : Bool → List auth_runs.Event → Bool
  | b, [] => b
  | _, .authenticate _ :: es => called true es
  | _, .cancelAuthentication :: es => called false es
  | b, _ :: es => called b es

/-- Does the dispatcher run when the main thread is back in its event loop? -/
def Sys.running (s : Sys) : Bool :=
  called (runs s.auth.queue.q.isRunning s.auth.queue.ops) s.todo

theorem called_append (b : Bool) (xs ys : List auth_runs.Event) :
    called b (xs ++ ys) = called (called b xs) ys := by
  induction xs generalizing b with
  | nil => rfl
  | cons x xs ih => cases x <;> exact ih _

theorem called_callOf (b : Bool) (o : List greeter_login_window.Output) :
    called b (o.filterMap callOf) = begun b o := by
  induction o generalizing b with
  | nil => rfl
  | cons x o ih => cases x <;> exact ih _

theorem running_atLoop {s : Sys} (h : s.AtLoop) : s.running = s.auth.queue.q.isRunning := by
  obtain ⟨htodo, hops⟩ := h
  rw [Sys.running, List.isEmpty_iff.mp htodo, hops]
  rfl

theorem takes_running (s : Sys) (call : Nat)
    (r : greeter_login_window.Sys × List greeter_login_window.Output) :
    (s.takes call r).1.running = begun s.running r.2 := by
  show called _ (s.todo ++ r.2.filterMap callOf) = _
  rw [called_append, called_callOf]
  rfl

variable {env : Env}

/-! ## What the proxy does on the queue -/

theorem stopAuthSession_ops (p : AuthProxy) (note : Note) (rest : List Effect) :
    mainOps note (p.stopAuthSession.2 ++ rest) = mainOps note rest := by
  rcases stopAuthSession_cases p with hp | hp <;> rw [hp] <;> rfl

/-- Only `authenticate` and `cancelAuthentication` start and stop the dispatcher. -/
theorem handler_runs {p : AuthProxy} (hq : p.m_authMessageQueue = true) {e : auth_runs.Event}
    (he : e.isDestroy = false) (note : Note) (b : Bool) :
    runs b (mainOps note (e.handler env p).2) = called b [e] := by
  cases e with
  | authenticate username =>
    simp only [auth_runs.Event.handler, AuthProxy.authenticate, hq, if_true]
    rfl
  | cancelAuthentication =>
    simp only [auth_runs.Event.handler, AuthProxy.cancelAuthentication, hq, if_true]
    have hops := stopAuthSession_ops p note []
    rw [List.append_nil] at hops
    show runs b (.stop :: mainOps note p.stopAuthSession.2) = _
    rw [hops]
    rfl
  | destroy => cases he
  | respond response =>
    simp only [auth_runs.Event.handler, AuthProxy.respond]
    split_ifs <;> rfl
  | pamComplete c =>
    simp only [auth_runs.Event.handler, AuthProxy.handlePamAuthComplete, hq, if_true,
      List.append_assoc, stopAuthSession_ops]
    cases c <;> split_ifs <;> rfl
  | pamPrompt user reply text type =>
    simp only [auth_runs.Event.handler, AuthProxy.handlePamAuthShowPrompt, hq, if_true]
    rcases reply with _ | ⟨sid, key⟩ <;> split_ifs <;> rfl
  | pamMessage text type =>
    simp only [auth_runs.Event.handler, AuthProxy.handlePamAuthShowMessage, hq, if_true]
    rfl
  | serviceMessages msg type sid =>
    simp only [auth_runs.Event.handler, AuthProxy.handleAuthServiceAuthMessages, hq, if_true]
    split_ifs <;> rfl
  | serviceMethod authType method sid =>
    simp only [auth_runs.Event.handler, AuthProxy.handleAuthServiceAuthMethodChanged]
    split_ifs <;> rfl

/-- A call of the window takes a few operations, and appends nothing. -/
theorem callOf_ops {p : AuthProxy} (hq : p.m_authMessageQueue = true)
    {o : greeter_login_window.Output} {e : auth_runs.Event} (ho : callOf o = some e)
    (note : Note) :
    toDo (mainOps note (e.handler env p).2) ≤ 14 ∧
      pending (mainOps note (e.handler env p).2) = [] := by
  cases o with
  | authenticate username =>
    cases ho
    simp only [auth_runs.Event.handler, AuthProxy.authenticate, hq, if_true]
    exact ⟨Nat.le_refl _, rfl⟩
  | cancelAuthentication =>
    cases ho
    simp only [auth_runs.Event.handler, AuthProxy.cancelAuthentication, hq, if_true]
    have hops := stopAuthSession_ops p note []
    rw [List.append_nil] at hops
    show toDo (.stop :: mainOps note p.stopAuthSession.2) ≤ 14 ∧
      pending (.stop :: mainOps note p.stopAuthSession.2) = []
    rw [hops]
    exact ⟨Nat.le_succ 13, rfl⟩
  | respond text =>
    cases ho
    simp only [auth_runs.Event.handler, AuthProxy.respond]
    split_ifs <;> exact ⟨Nat.zero_le _, rfl⟩
  | startSessionSync session => cases ho

theorem handleAuthQueue_ops (p : AuthProxy) (m : AuthMsg) (note : Note) :
    mainOps note (p.handleAuthQueue m).2 = [] := by
  cases m with
  | complete b => exact stopAuthSession_ops p note [.authenticationComplete b]
  | _ => rfl

/-- One signal among the effects reaches one slot. -/
theorem dispatch_signal {effects : List Effect} {event : greeter_login_window.Event}
    (h : effects.filterMap signal = [event]) (s : Sys) (call : Nat) :
    (s.dispatch call effects).1 = (s.takes call (s.window.does event)).1 := by
  induction effects with
  | nil => cases h
  | cons e effects ih =>
    rw [List.filterMap_cons] at h
    rcases hsignal : signal e with _ | event1
    · rw [hsignal] at h
      simp only [Sys.dispatch, hsignal]
      exact ih h
    · rw [hsignal] at h
      obtain ⟨rfl, hrest⟩ := List.cons.inj h
      simp only [Sys.dispatch, hsignal]
      rw [dispatch_silent hrest]

/-! ## The invariant -/

/-- An attempt runs, or the window has a control that leads to one. -/
structure Sound (s : Sys) : Prop where
  ready : Ready s
  hasQueue : s.auth.proxy.m_authMessageQueue = true
  guided : s.window.modes.Guided
  lively : s.running = true ∨ HasWay s.window.window

/-- The users of the display manager stay, or a login by name is allowed. -/
def Event.bearable (s : Sys) : Event → Prop
  | .window e => s.window.window.m_noListButotnVisiable = true ∨ e.isModelSignal = false
  | _ => True

/-- A slot of the window. -/
theorem takes_lively {s : Sys} {call : Nat} {e : greeter_login_window.Event}
    (hs : s.running = true ∨ HasWay s.window.window)
    (hstays : KeepsWay s.window (s.window.does e)) :
    (s.takes call (s.window.does e)).1.running = true ∨
      HasWay (s.takes call (s.window.does e)).1.window.window := by
  rw [takes_running]
  exact hstays s.running hs

/-- A handler of the proxy is called in the event loop of the queue, where the window is as
before. -/
theorem main_sound {s s1 : Sys} {y : auth_runs.Event} {call : Nat}
    {auth : auth_runs.Sys (Dispatch Note)} {effects : List Effect}
    (hq : s.auth.proxy.m_authMessageQueue = true) (hy : y.isDestroy = false)
    (h : threadStep env s.auth (.main y) = some (auth, effects)) :
    Sys.dispatch { s1 with auth := auth } call effects =
        ({ s1 with auth := auth }, effects.map .proxy) ∧
      auth.proxy.m_authMessageQueue = true ∧
      runs auth.queue.q.isRunning auth.queue.ops =
        called (runs s.auth.queue.q.isRunning s.auth.queue.ops) [y] := by
  simp only [threadStep] at h
  split_ifs at h with hloop
  obtain ⟨-, rfl, rfl⟩ := handle_eq_some env h
  obtain ⟨hsilent, -⟩ := @handler_posts env s.auth.proxy hq y ⟨y.issuer, s.auth.calls⟩
  refine ⟨dispatch_silent hsilent _ _, (handler_hasQueue env s.auth.proxy y).trans hq, ?_⟩
  show runs s.auth.queue.q.isRunning (s.auth.queue.ops ++ mainOps _ _) = _
  rw [runs_append]
  exact handler_runs hq hy _ _

/-- The slot of a message is one of the three for the proxy, at any time. -/
theorem slotFor_spec (m : AuthMsg) (w : greeter_login_window.Sys) :
    greeter_login_window.step w (slotFor m) = some (w.does (slotFor m)) ∧
      w.takes (slotFor m) ∧ (slotFor m).isModelSignal = false := by
  cases m <;> exact ⟨rfl, trivial, rfl⟩

/-- The window takes a message. -/
theorem deliver_sound {s : Sys} {x : Entry Note} {d : Dispatch Note}
    {auth : auth_runs.Sys (Dispatch Note)} {effects : List Effect} (hs : Sound s)
    (hd : s.auth.queue.deliver = some (x, d))
    (h : threadStep env s.auth .deliver = some (auth, effects))
    (hready : Ready (Sys.dispatch { s with auth := auth } x.note.call effects).1) :
    Sound (Sys.dispatch { s with auth := auth } x.note.call effects).1 := by
  obtain ⟨heffects, hqueue, -⟩ := deliver_spec hd h
  have hsignal := handleAuthQueue_signal s.auth.proxy x.msg
  rw [← heffects] at hsignal
  have hdispatch := dispatch_signal hsignal { s with auth := auth } x.note.call
  obtain ⟨hstep, htakes, husers⟩ := slotFor_spec x.msg s.window
  have hruns : runs auth.queue.q.isRunning auth.queue.ops =
      runs s.auth.queue.q.isRunning s.auth.queue.ops := by
    simp only [threadStep, hd] at h
    obtain ⟨-, -, rfl⟩ := receive_eq_some h
    show runs d.q.isRunning (d.ops ++ mainOps _ _) = _
    rw [handleAuthQueue_ops, List.append_nil]
    exact deliver_runs hd
  have hlively : Sys.running { s with auth := auth } = true ∨ HasWay s.window.window := by
    show called (runs auth.queue.q.isRunning auth.queue.ops) s.todo = true ∨ _
    rw [hruns]
    exact hs.lively
  rw [hdispatch] at hready ⊢
  exact ⟨hready, hqueue.trans hs.hasQueue,
    greeter_login_window.step_guided hs.guided (Or.inr husers) hstep,
    takes_lively (s := { s with auth := auth }) hlively
      (greeter_login_window.does_keepsWay hs.guided htakes (Or.inr husers))⟩

theorem step_sound {s t : Sys} {e : Event} {o : List Output} (hs : Sound s) (he : e.bearable s)
    (h : step env s e = some (t, o)) : Sound t := by
  have hready := step_ready hs.ready h
  have hmoves := step_moves h
  generalize hr : (t, o) = r at hmoves
  cases hmoves with
  | @window e w o1 hout hw =>
    have hguided := greeter_login_window.step_guided hs.guided he hw
    obtain ⟨htakes, rfl, rfl⟩ := greeter_login_window.step_does hw
    have hlively := @takes_lively s s.auth.calls e hs.lively
      (greeter_login_window.does_keepsWay hs.guided htakes he)
    cases hr
    exact ⟨hready, hs.hasQueue, hguided, hlively⟩
  | @proxy _ s1 call x auth effects hask hx =>
    have hmain : ∀ {y : auth_runs.Event}, x = .main y → y.isDestroy = false →
        (∀ b, called (called b [y]) s1.todo = called b s.todo) →
        s1.window.window = s.window.window → Sound t := by
      rintro y rfl hy htodo hwindow
      obtain ⟨hdispatch, hqueue, hruns⟩ :=
        @main_sound env s s1 y call auth effects hs.hasQueue hy hx
      rw [hdispatch] at hr
      cases hr
      refine ⟨hready, hqueue, ?_, ?_⟩
      · have hguided := hs.guided
        unfold greeter_login_window.Sys.modes at hguided ⊢
        rwa [hwindow]
      · show called (runs auth.queue.q.isRunning auth.queue.ops) s1.todo = true ∨
          HasWay s1.window.window
        rw [hruns, htodo, hwindow]
        exact hs.lively
    cases hask with
    | thread thread =>
      obtain ⟨d, hd, heq⟩ := Option.map_eq_some_iff.mp hx
      cases heq
      cases hr
      refine ⟨hready, hs.hasQueue, hs.guided, ?_⟩
      show called (runs d.q.isRunning d.ops) s.todo = true ∨ HasWay s.window.window
      rw [step_runs hd]
      exact hs.lively
    | @proceed y rest htodo =>
      obtain ⟨o1, ho⟩ := hs.ready.fromWindow y (htodo ▸ List.mem_cons_self)
      refine hmain rfl (callOf_spec ho).1 (fun b => ?_) rfl
      show called (called b [y]) rest = called b s.todo
      rw [htodo, ← called_append]
      rfl
    | complete b => exact hmain rfl rfl (fun _ => rfl) rfl
    | deliver hd =>
      have hsound := deliver_sound hs hd hx
      rw [← hr] at hsound
      exact hsound hready
    | _ => exact hmain rfl rfl (fun _ => rfl) rfl

variable (env)

/-- The window of the constructor, where `initSettings` begins. -/
theorem initSettings_spec {w : greeter_login_window.Sys} (prefs : Prefs)
    (hitems : w.window.m_filterModel_rowCount = w.window.userlist.userCount) :
    (w.initSettings prefs).1.modes.Guided ∧ greeter_login_window.Leads (w.initSettings prefs) ∧
      (w.initSettings prefs).1.modes.noListButotnVisiable = prefs.noListButotnVisiable := by
  unfold greeter_login_window.Sys.initSettings
  dsimp only
  split_ifs with hlist
  · have hcount : 0 < w.window.userlist.userCount := by
      rw [← hitems]
      exact of_decide_eq_true (Bool.and_eq_true_iff.mp hlist).2
    refine ⟨?_, greeter_login_window.resetUIForUserListLogin_leads (Or.inr hcount), ?_⟩
    · rw [greeter_login_window.Sys.resetUIForUserListLogin_modes]
      exact greeter_login_window.userListLogin_guided hcount
    · rw [greeter_login_window.Sys.resetUIForUserListLogin_modes]
      rfl
  · refine ⟨?_, greeter_login_window.resetUIForManualLogin_leads _, ?_⟩
    · rw [greeter_login_window.Sys.resetUIForManualLogin_modes]
      exact greeter_login_window.manualLogin_guided _
    · rw [greeter_login_window.Sys.resetUIForManualLogin_modes]
      rfl

theorem init_sound (authType : Int) (prefs : Prefs) (users : List UserInfo)
    (autologinUserHint : String) (m_inputMode : EditInputMode) :
    Sound (Sys.init env authType prefs users autologinUserHint m_inputMode).1 ∧
      (Sys.init env authType prefs users autologinUserHint
        m_inputMode).1.window.window.m_noListButotnVisiable = prefs.noListButotnVisiable := by
  have hitems := UserListWidget.loadUserList_whole users prefs.hiddenUsers
  obtain ⟨hguided, hleads, hlist⟩ := initSettings_spec
    (w := unset prefs users autologinUserHint m_inputMode) prefs (congrArg List.length hitems).symm
  refine ⟨⟨init_ready env authType prefs users autologinUserHint m_inputMode, rfl, hguided, ?_⟩,
    hlist⟩
  rw [Sys.init, takes_running]
  exact hleads _

/-! ## Back to the event loop -/

/-- What the user does to log in, what LightDM says of an attempt, and what the threads of the
greeter do. -/
def isLogin : Event → Bool
  | .window (.type _) => true
  | .window .pressReturn => true
  | .window .clickNotListAndCancel => true
  | .window .clickReAuth => true
  | .window .clickAutologin => true
  | .greeterComplete _ => true
  | e => isOwn e

/-- The greeter with somebody who logs in. -/
def attended : Step Sys Event Output := fun s e => if isLogin e then step env s e else none

/-- How much is left to do of the calls of the slot. -/
def toSettle (s : Sys) : Nat := 113 * s.todo.length + toLoop s.auth.queue

/-- Between the two states the main thread has gone on with its calls. -/
structure Settles (s t : Sys) : Prop where
  sound : Sound t
  free : ¬ Blocked t.auth.queue
  window : t.window = s.window
  running : t.running = s.running
  flight : t.auth.queue.flight.length ≤ s.auth.queue.flight.length

theorem Settles.trans {s t u : Sys} (h1 : Settles s t) (h2 : Settles t u) : Settles s u where
  sound := h2.sound
  free := h2.free
  window := h2.window.trans h1.window
  running := h2.running.trans h1.running
  flight := h2.flight.trans h1.flight

theorem not_blocked_of_atLoop {d : Dispatch Note} (h : d.AtLoop) : ¬ Blocked d := by
  apply not_blocked_of_noAcquire
  rw [h]
  exact List.forall_mem_nil _

/-- The main thread makes the next call of the slot. -/
theorem proceed_settles {s : Sys} (hs : Sound s) (hloop : s.auth.queue.AtLoop)
    {y : auth_runs.Event} {rest : List auth_runs.Event} (htodo : s.todo = y :: rest) :
    ∃ t o, step env s .proceed = some (t, o) ∧ Settles s t ∧ toSettle t < toSettle s := by
  obtain ⟨o, ho⟩ := hs.ready.fromWindow y (htodo ▸ List.mem_cons_self)
  obtain ⟨hy, -⟩ := callOf_spec ho
  obtain ⟨⟨auth, effects⟩, hx⟩ : ∃ r, threadStep env s.auth (.main y) = some r := by
    simp only [threadStep, hloop, if_true, handle, hs.ready.alive]
    exact ⟨_, rfl⟩
  obtain ⟨hdispatch, -, hruns⟩ :=
    @main_sound env s { s with todo := rest } y s.auth.calls auth effects hs.hasQueue hy hx
  have hstep : step env s .proceed =
      some ({ s with todo := rest, auth := auth }, effects.map .proxy) := by
    simp only [step, htodo, Sys.proxyStep, hx, Option.map_some]
    rw [hdispatch]
  obtain ⟨ops, hcalls, hqueue⟩ : ∃ ops,
      ops = mainOps (⟨y.issuer, s.auth.calls⟩ : Note) (y.handler env s.auth.proxy).2 ∧
        auth.queue = s.auth.queue.call ops := by
    simp only [threadStep, hloop, if_true] at hx
    obtain ⟨-, -, rfl⟩ := handle_eq_some env hx
    exact ⟨_, rfl, rfl⟩
  obtain ⟨hbound, hpending⟩ : toDo ops ≤ 14 ∧ pending ops = [] :=
    hcalls ▸ callOf_ops hs.hasQueue ho _
  have hnil : s.auth.queue.ops = [] := hloop
  refine ⟨_, _, hstep, ⟨step_sound (e := .proceed) hs trivial hstep, ?_, rfl, ?_, ?_⟩, ?_⟩
  · obtain ⟨calls, hflat, hcall⟩ := mainOps_calls (⟨y.issuer, s.auth.calls⟩ : Note)
      (y.handler env s.auth.proxy).2
    apply not_blocked_of_noAcquire
    show queue_deadlock.NoAcquire auth.queue.ops
    rw [hqueue, Dispatch.call, hnil, List.nil_append, hcalls, hflat]
    exact calls_noAcquire hcall
  · show called (runs auth.queue.q.isRunning auth.queue.ops) rest = s.running
    rw [hruns, ← called_append, Sys.running, htodo]
    rfl
  · show auth.queue.flight.length ≤ _
    rw [hqueue, Dispatch.flight_call, hpending, List.append_nil]
  · show 113 * rest.length + toLoop auth.queue < 113 * s.todo.length + toLoop s.auth.queue
    have hlen : s.todo.length = rest.length + 1 := by rw [htodo, List.length_cons]
    have hleft : toLoop auth.queue = 8 * toDo ops + toIdle s.auth.queue.q.worker := by
      rw [hqueue, toLoop, Dispatch.call, hnil, List.nil_append]
    have hidle : toLoop s.auth.queue = toIdle s.auth.queue.q.worker := by
      rw [toLoop, hnil]
      exact Nat.zero_add _
    omega

/-- The main thread, or the worker that it waits for, goes on. -/
theorem thread_settles {s : Sys} (hs : Sound s) (hfree : ¬ Blocked s.auth.queue)
    (hno : ¬ s.auth.queue.AtLoop) :
    ∃ thread t o, step env s (.thread thread) = some (t, o) ∧ Settles s t ∧
      toSettle t < toSettle s := by
  obtain ⟨thread, d, hd, hfree1, hlt⟩ := hs.ready.orderly.toLoop_lt hfree hno
  have hstep := step_thread env hd
  have hsound := step_sound (e := .thread thread) hs trivial hstep
  refine ⟨thread, _, _, hstep, ⟨hsound, hfree1, rfl, ?_, ?_⟩, ?_⟩
  · show called (runs d.q.isRunning d.ops) s.todo = s.running
    rw [step_runs hd]
    rfl
  · exact (Dispatch.step_flight hd).length_le
  · exact Nat.add_lt_add_left hlt _

/-- The main thread makes all its calls, and gets back to the event loop. -/
theorem settles {s : Sys} (hs : Sound s) (hfree : ¬ Blocked s.auth.queue) :
    Reaches (attended env) (fun t => Settles s t ∧ t.AtLoop) s := by
  apply reaches_of_progress toSettle
  · intro t ht hno
    by_cases hloop : t.auth.queue.AtLoop
    · rcases htodo : t.todo with _ | ⟨y, rest⟩
      · exact absurd ⟨List.isEmpty_iff.mpr htodo, hloop⟩ hno
      · obtain ⟨u, o, hstep, hu, hlt⟩ := proceed_settles env ht.sound hloop htodo
        exact ⟨.proceed, u, o, hstep, ht.trans hu, hlt⟩
    · obtain ⟨thread, u, o, hstep, hu, hlt⟩ := thread_settles env ht.sound ht.free hloop
      exact ⟨.thread thread, u, o, hstep, ht.trans hu, hlt⟩
  · exact ⟨hs, hfree, rfl, rfl, Nat.le_refl _⟩

/-! ## An attempt begins -/

/-- In the event loop, after the calls of a slot. -/
structure Comes (s : Sys) (w : greeter_login_window.Sys) (b : Bool) (t : Sys) : Prop where
  sound : Sound t
  loop : t.AtLoop
  window : t.window = w
  running : t.running = b
  flight : t.auth.queue.flight.length ≤ s.auth.queue.flight.length

/-- The user does something, and the greeter makes the calls of the slot. -/
theorem press {s : Sys} (hs : Sound s) (hloop : s.AtLoop) {e : greeter_login_window.Event}
    {w : greeter_login_window.Sys} {o : List greeter_login_window.Output}
    (he : isLogin (.window e) = true) (h : greeter_login_window.step s.window e = some (w, o)) :
    Reaches (attended env) (Comes s w (begun s.running o)) s := by
  have hout : isOutside e = true ∧ e.isModelSignal = false := by
    cases e with
    | type text => exact ⟨rfl, rfl⟩
    | pressReturn => exact ⟨rfl, rfl⟩
    | clickNotListAndCancel => exact ⟨rfl, rfl⟩
    | clickReAuth => exact ⟨rfl, rfl⟩
    | clickAutologin => exact ⟨rfl, rfl⟩
    | _ => cases he
  have hstep : step env s (.window e) = some (s.takes s.auth.calls (w, o)) := by
    simp only [step, hloop, if_true, Sys.mainStep, hout.1, h, Option.map_some]
  have hattended : attended env s (.window e) = some (s.takes s.auth.calls (w, o)) := by
    rw [attended, if_pos he, hstep]
  have hsound := step_sound (e := .window e) hs (Or.inr hout.2) hstep
  have hfree : ¬ Blocked (s.takes s.auth.calls (w, o)).1.auth.queue := not_blocked_of_atLoop hloop.2
  refine .next hattended ((settles env hsound hfree).mono fun t ht => ?_)
  exact ⟨ht.1.sound, ht.2, ht.1.window, ht.1.running.trans (takes_running s _ _), ht.1.flight⟩

/-- An attempt runs, in the event loop. -/
structure Running (s t : Sys) : Prop where
  sound : Sound t
  loop : t.AtLoop
  running : t.running = true
  flight : t.auth.queue.flight.length ≤ s.auth.queue.flight.length

/-- Somebody can begin an attempt. -/
def CanBegin (s : Sys) : Prop := Reaches (attended env) (Running s) s

/-- The user does something, and can begin an attempt then. -/
theorem CanBegin.press {s : Sys} (hs : Sound s) (hloop : s.AtLoop)
    {e : greeter_login_window.Event} {w : greeter_login_window.Sys}
    {o : List greeter_login_window.Output} (he : isLogin (.window e) = true)
    (h : greeter_login_window.step s.window e = some (w, o))
    (hrest : ∀ t, Comes s w (begun s.running o) t → CanBegin env t) : CanBegin env s := by
  refine (greeter_login.press env hs hloop he h).trans fun t ht => ?_
  refine (hrest t ht).mono fun u hu => ?_
  exact ⟨hu.sound, hu.loop, hu.running, hu.flight.trans ht.flight⟩

theorem canBegin_of_running {s : Sys} (hs : Sound s) (hloop : s.AtLoop)
    (hrun : s.running = true) : CanBegin env s := .now ⟨hs, hloop, hrun, Nat.le_refl _⟩

/-- The button of the autologin begins an attempt. -/
theorem canBegin_of_autologin {s : Sys} (hs : Sound s) (hloop : s.AtLoop)
    (h : s.window.window.btn_autologin_visible = true) : CanBegin env s := by
  have hstep : greeter_login_window.step s.window .clickAutologin =
      some s.window.slotAutologinClicked := if_pos h
  refine .press env hs hloop rfl hstep fun t ht => ?_
  exact canBegin_of_running env ht.sound ht.loop ht.running

/-- A name begins an attempt. -/
theorem canBegin_of_asksName {s : Sys} (hs : Sound s) (hloop : s.AtLoop)
    (h : AsksName s.window.window) : CanBegin env s := by
  obtain ⟨name, w1, w2, o, htype, hreturn, hbegins⟩ := h.begins
  refine .press env hs hloop rfl htype fun t ht => ?_
  refine .press env ht.sound ht.loop rfl (ht.window ▸ hreturn) fun u hu => ?_
  exact canBegin_of_running env hu.sound hu.loop (hu.running.trans (hbegins _))

/-- The page of a login by name. -/
theorem canBegin_of_manual {s t : Sys} {b : Bool}
    (ht : Comes s s.window.resetUIForManualLogin.1 b t) : CanBegin env t := by
  apply canBegin_of_asksName env ht.sound ht.loop
  rw [ht.window]
  exact greeter_login_window.resetUIForManualLogin_asksName s.window

/-- The page with the list of users, where there are users or there is a way to the other page. -/
theorem canBegin_of_list {s t : Sys}
    (hlist : s.window.modes.noListButotnVisiable = true ∨ 0 < s.window.modes.userCount)
    (ht : Comes s s.window.resetUIForUserListLogin.1
      (begun s.running s.window.resetUIForUserListLogin.2) t) : CanBegin env t := by
  by_cases hitems : s.window.window.userlist.items = []
  · -- no user can be chosen, and the user goes to the other page
    have hallowed : s.window.modes.noListButotnVisiable = true := by
      refine hlist.resolve_right fun hcount => ?_
      exact absurd hitems (List.length_pos_iff.mp hcount)
    obtain ⟨⟨hvisible, henabled⟩, hbutton⟩ :=
      greeter_login_window.resetUIForUserListLogin_clickable hallowed
    rw [← ht.window] at hvisible henabled hbutton
    have hstep : greeter_login_window.step t.window .clickNotListAndCancel =
        some t.window.resetUIForManualLogin := by
      have hclick : greeter_login_window.step t.window .clickNotListAndCancel =
          some t.window.slotButtonClicked := if_pos (by rw [hvisible, henabled]; rfl)
      rw [hclick, greeter_login_window.Sys.slotButtonClicked, hbutton]
    refine .press env ht.sound ht.loop rfl hstep fun u hu => ?_
    exact canBegin_of_manual env hu
  · rcases greeter_login_window.resetUIForUserListLogin_starts hitems s.running with hrun | hauto
    · exact canBegin_of_running env ht.sound ht.loop (ht.running.trans hrun)
    · rw [← ht.window] at hauto
      exact canBegin_of_autologin env ht.sound ht.loop hauto

theorem canBegin_of_reAuth {s : Sys} (hs : Sound s) (hloop : s.AtLoop)
    (h : s.window.window.btn_reAuth_visible = true) : CanBegin env s := by
  have hstep : greeter_login_window.step s.window .clickReAuth =
      some s.window.slotReAuthClicked := if_pos h
  unfold greeter_login_window.Sys.slotReAuthClicked at hstep
  split_ifs at hstep with hmode
  · refine .press env hs hloop rfl hstep fun t ht => ?_
    exact canBegin_of_list env (hs.guided.imp id fun hguided => hguided.1 hmode) ht
  · refine .press env hs hloop rfl hstep fun t ht => ?_
    exact canBegin_of_manual env ht

theorem canBegin_of_clickable {s : Sys} (hs : Sound s) (hloop : s.AtLoop)
    (h : Clickable s.window.window) : CanBegin env s := by
  have hstep : greeter_login_window.step s.window .clickNotListAndCancel =
      some s.window.slotButtonClicked := if_pos (by rw [h.1, h.2]; rfl)
  unfold greeter_login_window.Sys.slotButtonClicked at hstep
  rcases hbutton : s.window.window.m_buttonType
  · rw [hbutton] at hstep
    refine .press env hs hloop rfl hstep fun t ht => ?_
    exact canBegin_of_manual env ht
  · rw [hbutton] at hstep
    rcases hinput : s.window.window.m_inputMode
    · rw [hinput] at hstep
      refine .press env hs hloop rfl hstep fun t ht => ?_
      exact canBegin_of_list env
        (hs.guided.imp id fun hguided => hguided.2 hbutton hinput h.1) ht
    · rw [hinput] at hstep
      refine .press env hs hloop rfl hstep fun t ht => ?_
      exact canBegin_of_manual env ht

/-- In the event loop, somebody can begin an attempt, or one runs already. -/
theorem Sound.canBegin {s : Sys} (hs : Sound s) (hloop : s.AtLoop) : CanBegin env s := by
  rcases hs.lively with hrun | hauto | hreauth | hclick | hname
  · exact canBegin_of_running env hs hloop hrun
  · exact canBegin_of_autologin env hs hloop hauto
  · exact canBegin_of_reAuth env hs hloop hreauth
  · exact canBegin_of_clickable env hs hloop hclick
  · exact canBegin_of_asksName env hs hloop hname

/-! ## The queue runs empty -/

theorem attended_of_step {s : Sys} {e : Event} {r : Sys × List Output} (he : isLogin e = true)
    (h : step env s e = some r) : attended env s e = some r := (if_pos he).trans h

/-- What has been posted, and the message in front, is delivered. -/
theorem Running.delivers {s t : Sys} (ht : Running s t) {e : Entry Note} {rest : List (Entry Note)}
    (hp : t.auth.queue.q.posted = e :: rest) :
    ∃ u o, attended env t .deliver = some (u, o) ∧ Sound u ∧ ¬ Blocked u.auth.queue ∧
      u.auth.queue.flight.length < t.auth.queue.flight.length := by
  obtain ⟨d, hd⟩ := deliver_of_posted ht.loop.2 hp
  have hstep := step_deliver env ht.sound.ready.alive ht.loop hd
  obtain ⟨hauth, -⟩ := dispatch_proxy { t with
    auth := ({ t.auth with queue := d }).after Dispatch.call e.note
      (t.auth.proxy.handleAuthQueue e.msg) } e.note.call (t.auth.proxy.handleAuthQueue e.msg).2
  generalize hr : Sys.dispatch _ _ _ = r at hstep hauth
  have hqueue : r.1.auth.queue = d := by
    rw [hauth]
    show d.call (mainOps e.note (t.auth.proxy.handleAuthQueue e.msg).2) = d
    rw [handleAuthQueue_ops]
    simp [Dispatch.call]
  have hfull : step env t .deliver = some r := hstep
  refine ⟨r.1, r.2, hstep, step_sound (e := .deliver) ht.sound trivial hfull, ?_, ?_⟩
  · rw [hqueue]
    exact not_blocked_of_atLoop (Dispatch.deliver_eq_some hd).2.1
  · rw [hqueue, Dispatch.flight_deliver hd]
    exact Nat.lt_succ_self _

/-- When an attempt runs, a message that is on its way is delivered. -/
theorem Running.shrinks {s t : Sys} (ht : Running s t) (hne : t.auth.queue.flight ≠ []) :
    Reaches (attended env) (fun u => Sound u ∧ ¬ Blocked u.auth.queue ∧
      u.auth.queue.flight.length < t.auth.queue.flight.length) t := by
  have hposts : Reaches (attended env) (fun u => (Running t u ∧
      u.auth.queue.flight = t.auth.queue.flight) ∧ u.auth.queue.q.posted ≠ []) t := by
    apply reaches_of_progress fun u : Sys => toDeliver u.auth.queue
    · rintro u ⟨hu, hflight⟩ hno
      have hrun : u.auth.queue.q.isRunning = true := running_atLoop hu.loop ▸ hu.running
      obtain ⟨act, d, hd, hworks⟩ :=
        hu.sound.ready.works hu.loop hrun (hflight ▸ hne) (not_not.mp hno)
      have hstep := step_thread env hd
      have hloop : Sys.AtLoop { u with auth := { u.auth with queue := d } } :=
        ⟨hu.loop.1, hworks.loop⟩
      refine ⟨.thread (.worker act), _, [], hstep, ⟨⟨?_, hloop, ?_, ?_⟩, ?_⟩, hworks.less⟩
      · exact step_sound (e := .thread (.worker act)) hu.sound trivial hstep
      · exact (running_atLoop hloop).trans hworks.running
      · rw [← hflight]
        exact hworks.flight ▸ Nat.le_refl _
      · exact hworks.flight.trans hflight
    · exact ⟨⟨ht.sound, ht.loop, ht.running, Nat.le_refl _⟩, rfl⟩
  refine hposts.trans fun u ⟨⟨hu, hflight⟩, hp⟩ => ?_
  obtain ⟨e, rest, hposted⟩ := List.exists_cons_of_ne_nil hp
  obtain ⟨v, o, hstep, hv, hfree, hlt⟩ := hu.delivers env hposted
  exact .next hstep (.now ⟨hv, hfree, hflight ▸ hlt⟩)

/-- An attempt runs, and nothing else is on its way. -/
theorem quiets {s : Sys} (hs : Sound s) (hfree : ¬ Blocked s.auth.queue) :
    Reaches (attended env) (fun t => Running t t ∧ t.auth.queue.flight = []) s := by
  induction hn : s.auth.queue.flight.length using Nat.strongRecOn generalizing s with
  | ind n ih =>
    refine (settles env hs hfree).trans fun t ht => ?_
    refine (ht.1.sound.canBegin env ht.2).trans fun u hu => ?_
    by_cases hflight : u.auth.queue.flight = []
    · exact .now ⟨⟨hu.sound, hu.loop, hu.running, Nat.le_refl _⟩, hflight⟩
    · refine (hu.shrinks env hflight).trans fun v ⟨hv, hfreev, hlt⟩ => ?_
      have hless : v.auth.queue.flight.length < n := by
        have h1 := hu.flight
        have h2 := ht.1.flight
        omega
      exact ih _ hless hv hfreev rfl

/-! ## The success -/

/-- The success that LightDM signals in the event loop. -/
theorem greeterComplete_appends {s : Sys} (hs : Sound s) (hloop : s.AtLoop) :
    ∃ t o, step env s (.greeterComplete true) = some (t, o) ∧ t.todo = s.todo ∧
      t.window.window = s.window.window ∧
      t.auth.queue =
        s.auth.queue.call (append ⟨.complete true, ⟨.PAM, s.auth.calls⟩⟩) := by
  obtain ⟨⟨auth, effects⟩, hx⟩ :
      ∃ r, threadStep env s.auth (.main (.pamComplete true)) = some r := by
    simp only [threadStep, hloop.2, if_true, handle, hs.ready.alive]
    exact ⟨_, rfl⟩
  obtain ⟨hdispatch, -, -⟩ :=
    @main_sound env s (s.ends true) _ s.auth.calls auth effects hs.hasQueue rfl hx
  have hends : (s.ends true).auth = s.auth := rfl
  have hstep : step env s (.greeterComplete true) =
      some ({ s.ends true with auth := auth }, effects.map .proxy) := by
    have hmain : step env s (.greeterComplete true) = s.mainStep env (.greeterComplete true) :=
      if_pos hloop
    rw [hmain]
    simp only [Sys.mainStep, Sys.proxyStep, hends, hx, Option.map_some]
    rw [hdispatch]
  refine ⟨_, _, hstep, rfl, rfl, ?_⟩
  simp only [threadStep, hloop.2, if_true] at hx
  obtain ⟨-, -, rfl⟩ := handle_eq_some env hx
  show s.auth.queue.call (mainOps _ (s.auth.proxy.handlePamAuthComplete true).2) = _
  simp only [AuthProxy.handlePamAuthComplete, hs.hasQueue, if_true, List.append_assoc,
    stopAuthSession_ops]
  rfl

/-- LightDM ends the attempt that runs with a success, and the window hears of it. -/
theorem Running.logsIn {s : Sys} (hs : Running s s) (hflight : s.auth.queue.flight = []) :
    Offers (attended env) (.window (.startSessionSync s.window.window.m_session)) s := by
  obtain ⟨x, hx⟩ : ∃ x : Entry Note, x = ⟨.complete true, ⟨.PAM, s.auth.calls⟩⟩ := ⟨_, rfl⟩
  obtain ⟨t, o, hcomplete, htodo, hwindow, hqueue⟩ :=
    greeterComplete_appends env hs.sound hs.loop
  rw [← hx] at hqueue
  have hnil : s.auth.queue.ops = [] := hs.loop.2
  have hops : t.auth.queue = ⟨s.auth.queue.q, append x⟩ := by
    rw [hqueue, Dispatch.call, hnil]
    rfl
  -- the main thread puts the message into the queue
  have henqueue : t.auth.queue.step .main = some
      ⟨{ s.auth.queue.q with m_queue := s.auth.queue.q.m_queue ++ [x] }, [.release]⟩ := by
    rw [hops]
    rfl
  have hfirst := step_thread env henqueue
  obtain ⟨u, hu⟩ : ∃ u : Sys, u = { t with auth := { t.auth with queue :=
      ⟨{ s.auth.queue.q with m_queue := s.auth.queue.q.m_queue ++ [x] }, [.release]⟩ } } := ⟨_, rfl⟩
  rw [← hu] at hfirst
  have hrelease : u.auth.queue.step .main = some
      ⟨{ s.auth.queue.q with
        m_queue := s.auth.queue.q.m_queue ++ [x]
        m_queueSem := s.auth.queue.q.m_queueSem + 1 }, []⟩ := by
    rw [hu]
    rfl
  have hsecond := step_thread env hrelease
  have hready := step_ready (step_ready (step_ready hs.sound.ready hcomplete) hfirst) hsecond
  refine .next (attended_of_step env rfl hcomplete) (.next (attended_of_step env rfl hfirst)
    (.next (attended_of_step env rfl hsecond) ?_))
  generalize hv : ({ u with auth := { u.auth with queue := _ } } : Sys) = v at hready
  have hwaiting : Waiting x s.window.window.m_session v := by
    have hrun : s.auth.queue.q.isRunning = true := running_atLoop hs.loop ▸ hs.running
    have hway : s.auth.queue.q.posted = [] ∧ s.auth.queue.q.worker.held = [] ∧
        s.auth.queue.q.m_queue = [] := by
      simp only [Dispatch.flight, List.append_eq_nil_iff] at hflight
      exact ⟨hflight.1, hflight.2.1, hflight.2.2.1⟩
    obtain ⟨hposted, hheld, hempty⟩ := hway
    subst hv
    subst hu
    refine ⟨hready, ⟨htodo ▸ hs.loop.1, rfl⟩, ⟨by rw [hx], [], [], ?_, List.forall_mem_nil _⟩,
      Or.inl hrun, congrArg _ hwindow⟩
    simp [Dispatch.flight, hposted, hheld, hempty, pending]
  have halone : ∀ w e r, alone env w e = some r → attended env w e = some r := by
    intro w e r hstep
    obtain ⟨hown, hstep⟩ := Option.ite_none_right_eq_some.mp hstep
    refine attended_of_step env ?_ hstep
    cases e <;> first | rfl | cases hown
  refine .of_steps halone ((hwaiting.reaches env).offers ?_)
  rintro w ⟨hw, d, hd⟩
  rw [← hw.session]
  exact deliver_asks env hw.ready.alive hw.loop hd hw.coming.success

variable {env}

/-- A main thread that waits in vain goes on waiting. -/
theorem blocked_step {s t : Sys} {e : Event} {o : List Output} (hs : Blocked s.auth.queue)
    (h : step env s e = some (t, o)) : Blocked t.auth.queue ∧ o = [] := by
  obtain ⟨n, rest, hops, hlt⟩ := hs
  have hloop : ¬ s.auth.queue.AtLoop := by
    intro hnil
    cases hops.symm.trans hnil
  have hmain : ¬ s.AtLoop := fun hs => hloop hs.2
  cases e with
  | thread thread =>
    obtain ⟨⟨auth, effects⟩, hx, heq⟩ := Option.map_eq_some_iff.mp h
    obtain ⟨d, hd, heq1⟩ := Option.map_eq_some_iff.mp hx
    cases heq1
    cases heq
    refine ⟨?_, rfl⟩
    obtain ⟨act, q1, -, hq, rfl⟩ | ⟨op, rest1, q1, more, -, hops1, hm, rfl⟩ :=
      Dispatch.step_cases hd
    · exact ⟨n, rest, hops, Nat.lt_of_le_of_lt (queue_deadlock.doDispatcher_queueSem hq).1 hlt⟩
    · cases hops.symm.trans hops1
      simp [mainStep, Nat.not_le.mpr hlt] at hm
  | proceed =>
    rcases htodo : s.todo with _ | ⟨y, rest1⟩
    · simp [step, htodo] at h
    · simp [step, htodo, Sys.proxyStep, threadStep, hloop] at h
  | _ => cases (if_neg hmain).symm.trans h

variable (env)

/-- The prefs are read once. -/
theorem step_noList {s t : Sys} {e : Event} {o : List Output} (h : step env s e = some (t, o)) :
    t.window.window.m_noListButotnVisiable = s.window.window.m_noListButotnVisiable := by
  obtain ⟨ws, hws⟩ := step_window h
  refine run_inv (I := fun w : greeter_login_window.Sys =>
    w.window.m_noListButotnVisiable = s.window.window.m_noListButotnVisiable) ?_ rfl hws
  intro w e1 w1 o1 hw hstep
  have hmodes := congrArg greeter_login_window.Modes.noListButotnVisiable
    (greeter_login_window.step_modes hstep)
  rw [greeter_login_window.modesAfter_noList] at hmodes
  exact hmodes.trans hw

theorem run_sound (authType : Int) (prefs : Prefs) (users : List UserInfo)
    (autologinUserHint : String) (m_inputMode : EditInputMode) {es : List Event} {s : Sys}
    {o : List Output}
    (husers : prefs.noListButotnVisiable = true ∨
      ∀ e, .window e ∈ es → e.isModelSignal = false)
    (h : run (step env)
      (Sys.init env authType prefs users autologinUserHint m_inputMode).1 es = some (s, o)) :
    Sound s := by
  obtain ⟨hinit, hprefs⟩ := init_sound env authType prefs users autologinUserHint m_inputMode
  have hmeets : Meets (step env) (fun _ e => prefs.noListButotnVisiable = true ∨
      ∀ w, e = .window w → w.isModelSignal = false)
      (Sys.init env authType prefs users autologinUserHint m_inputMode).1 es := by
    apply meets_of_forall
    intro e he t
    exact husers.imp id fun hstay w hw => hstay w (hw ▸ he)
  have hstep : ∀ (t : Sys) (e : Event) (u : Sys) (o1 : List Output),
      (Sound t ∧ t.window.window.m_noListButotnVisiable = prefs.noListButotnVisiable) →
      (prefs.noListButotnVisiable = true ∨ ∀ w, e = .window w → w.isModelSignal = false) →
      step env t e = some (u, o1) →
      Sound u ∧ u.window.window.m_noListButotnVisiable = prefs.noListButotnVisiable := by
    rintro t e u o1 ⟨ht, hlist⟩ hg hstep
    refine ⟨step_sound ht ?_ hstep, (step_noList env hstep).trans hlist⟩
    cases e with
    | window w => exact hg.imp hlist.trans fun hstay => hstay w rfl
    | _ => trivial
  exact (run_inv_of_meets hstep ⟨hinit, hprefs⟩ hmeets h).1

/-- In every state that the greeter reaches, as long as its users stay or a login by name is
allowed, somebody can log in: the user begins an attempt, and LightDM ends it with a success. Only a
main thread that waits in vain in `stopDispatcher` stands against it, and then no run asks for a
session. -/
theorem somebody_can_log_in_unless_blocked (authType : Int) (prefs : Prefs)
    (users : List UserInfo) (autologinUserHint : String) (m_inputMode : EditInputMode)
    {es : List Event} {s : Sys} {o : List Output}
    (husers : prefs.noListButotnVisiable = true ∨
      ∀ e, .window e ∈ es → e.isModelSignal = false)
    (h : run (step env)
      (Sys.init env authType prefs users autologinUserHint m_inputMode).1 es = some (s, o)) :
    (¬ Blocked s.auth.queue →
      ∃ session, Offers (attended env) (.window (.startSessionSync session)) s) ∧
    (Blocked s.auth.queue →
      ∀ session, ¬ Offers (step env) (.window (.startSessionSync session)) s) := by
  have hsound := run_sound env authType prefs users autologinUserHint m_inputMode husers h
  constructor
  · intro hfree
    obtain ⟨xs, t, o1, hxs, ht, hflight⟩ := quiets env hsound hfree
    refine ⟨t.window.window.m_session, ?_⟩
    exact Reaches.offers ⟨xs, t, o1, hxs, rfl⟩ fun u hu => hu ▸ ht.logsIn env hflight
  · intro hblocked session
    refine not_offers (I := fun t : Sys => Blocked t.auth.queue) ?_ hblocked
    intro t e u o1 ht hstep
    obtain ⟨hu, rfl⟩ := blocked_step ht hstep
    exact ⟨hu, List.not_mem_nil⟩

/-- The user leaves for the other page while the worker takes the permit of the prompt. -/
def waitsInVain : List Event :=
  logIn.take 19 ++ [.thread .main, .thread .main, .thread (.worker .check),
    .window .clickNotListAndCancel, .proceed, .thread .main, .thread .main, .thread .main,
    .thread (.worker .acquire)]

theorem alice_can_log_in_until_the_greeter_waits_in_vain :
    (∃ s o, run (step sampleEnv) greeter leaves = some (s, o) ∧
      ∃ session, Offers (attended sampleEnv) (.window (.startSessionSync session)) s) ∧
    ∃ s o, run (step sampleEnv) greeter waitsInVain = some (s, o) ∧
      ∀ session, ¬ Offers (step sampleEnv) (.window (.startSessionSync session)) s := by
  have hleaves : ∃ s o, run (step sampleEnv) greeter leaves = some (s, o) ∧
      s.auth.queue.AtLoop := ⟨_, _, rfl, rfl⟩
  have hwaits : ∃ s o rest, run (step sampleEnv) greeter waitsInVain = some (s, o) ∧
      s.auth.queue.ops = .acquire 1 :: rest ∧ s.auth.queue.q.m_queueSem = 0 :=
    ⟨_, _, _, rfl, rfl, rfl⟩
  obtain ⟨s, o, h, hloop⟩ := hleaves
  obtain ⟨t, o1, rest, h1, hops, hsem⟩ := hwaits
  refine ⟨⟨s, o, h, ?_⟩, t, o1, h1, ?_⟩
  · exact (somebody_can_log_in_unless_blocked sampleEnv 1 greeter_login_window.samplePrefs
      aliceAndBob "" .EDIT_INPUT_USER_NAME (Or.inl rfl) h).1 (not_blocked_of_atLoop hloop)
  · refine (somebody_can_log_in_unless_blocked sampleEnv 1 greeter_login_window.samplePrefs
      aliceAndBob "" .EDIT_INPUT_USER_NAME (Or.inl rfl) h1).2 ⟨1, rest, hops, ?_⟩
    rw [hsem]
    exact Nat.zero_lt_one

end session_guard.greeter_login
