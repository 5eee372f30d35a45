-- The sessions that the greeter asks for: each answers a success of LightDM, and when no signal
-- crosses a call the success is that of the attempt that is on.
import SessionGuard.AttemptIsolation
import SessionGuard.GreeterLoginLaws

open machine

namespace session_guard.greeter_login_window

open prompt_edit user_list_widget
open greeter_login (isStart)

/-! ## Slots that ask for no session -/

/-- None of the calls asks for a session. -/
def NoSession (o : List Output) : Prop := ∀ x ∈ o, isStart x = false

theorem NoSession.nil : NoSession [] := List.forall_mem_nil _

theorem NoSession.andThen {r : Sys × List Output} {f : Sys → Sys × List Output}
    (h : NoSession r.2) (hf : ∀ s, NoSession (f s).2) : NoSession (andThen r f).2 := by
  intro x hx
  rcases List.mem_append.mp hx with hx | hx
  · exact h x hx
  · exact hf r.1 x hx

theorem NoSession.filter_eq {o : List Output} (h : NoSession o) : o.filter isStart = [] := by
  rw [List.filter_eq_nil_iff]
  intro x hx
  simp [h x hx]

theorem authenticate_noSession (s : Sys) (username : String) :
    NoSession (s.authenticate username).2 := by
  simp [NoSession, Sys.authenticate, isStart]

theorem cancelRunning_noSession (s : Sys) : NoSession s.cancelRunning.2 := by
  unfold Sys.cancelRunning
  split_ifs
  · simp [NoSession, isStart]
  · exact .nil

theorem startAuthUser_noSession (s : Sys) (username userIcon : String) :
    NoSession (s.startAuthUser username userIcon).2 := by
  unfold Sys.startAuthUser
  apply (cancelRunning_noSession s).andThen
  intro s1
  dsimp only
  split_ifs
  · exact .nil
  · exact authenticate_noSession _ username

theorem selected_noSession (s : Sys) (r : UserListWidget × Option UserInfo) :
    NoSession (s.selected r).2 := by
  unfold Sys.selected
  rcases r.2 with _ | info
  · exact .nil
  · exact startAuthUser_noSession _ info.name info.imagePath

theorem resetUIForUserListLogin_noSession (s : Sys) :
    NoSession s.resetUIForUserListLogin.2 := by
  unfold Sys.resetUIForUserListLogin
  apply (cancelRunning_noSession s).andThen
  intro s1
  dsimp only
  split
  · exact startAuthUser_noSession _ _ _
  · exact selected_noSession _ _

theorem resetUIForManualLogin_noSession (s : Sys) : NoSession s.resetUIForManualLogin.2 := by
  unfold Sys.resetUIForManualLogin
  apply (cancelRunning_noSession s).andThen
  intro s1
  exact .nil

theorem confirm_noSession (s : Sys) (r : PromptEdit × Option String) :
    NoSession (s.confirm r).2 := by
  unfold Sys.confirm Sys.slotTextConfirmed
  rcases r.2 with _ | text
  · exact .nil
  · dsimp only
    split_ifs
    · simp [NoSession, isStart]
    · exact startAuthUser_noSession _ _ _

theorem slotRowsInserted_noSession (s : Sys) (rows : List UserInfo) (first last : Nat) :
    NoSession (s.slotRowsInserted rows first last).2 := by
  unfold Sys.slotRowsInserted
  dsimp only
  split_ifs
  · exact selected_noSession _ _
  · exact .nil

theorem slotRowsRemoved_noSession (s : Sys) (rows : List UserInfo) (first last : Nat) :
    NoSession (s.slotRowsRemoved rows first last).2 := by
  unfold Sys.slotRowsRemoved Sys.reselect
  apply NoSession.andThen
  · split_ifs
    · exact .nil
    · exact selected_noSession _ _
    · exact resetUIForUserListLogin_noSession _
  · intro s1
    exact .nil

/-- The window asks for a session only on a success. -/
theorem does_noSession (s : Sys) {e : Event} (he : e ≠ .authenticationComplete true) :
    NoSession (s.does e).2 := by
  cases e with
  | selectUser row => exact selected_noSession s _
  | pressReturn => exact confirm_noSession s _
  | clickButton => exact confirm_noSession s _
  | clickNotListAndCancel =>
    show NoSession s.slotButtonClicked.2
    unfold Sys.slotButtonClicked
    split
    · exact resetUIForManualLogin_noSession s
    · split
      · exact resetUIForUserListLogin_noSession s
      · exact resetUIForManualLogin_noSession s
  | clickReAuth =>
    show NoSession s.slotReAuthClicked.2
    unfold Sys.slotReAuthClicked
    split_ifs
    · exact resetUIForUserListLogin_noSession s
    · exact resetUIForManualLogin_noSession s
  | clickAutologin => exact authenticate_noSession s _
  | autologinTimerExpired =>
    show NoSession s.slotAutologinTimerExpired.2
    unfold Sys.slotAutologinTimerExpired
    split_ifs
    · exact .nil
    · exact authenticate_noSession s _
  | authenticationComplete success =>
    show NoSession (s.slotAuthenticationComplete success).2
    unfold Sys.slotAuthenticationComplete
    split_ifs with hsuccess
    · exact absurd (congrArg Event.authenticationComplete hsuccess) he
    · exact startAuthUser_noSession _ _ _
    · exact .nil
  | modelRowsRemoved n =>
    show NoSession (s.slotModelRowsRemoved n).2
    unfold Sys.slotModelRowsRemoved
    dsimp only
    split_ifs
    · exact resetUIForManualLogin_noSession _
    · exact .nil
  | rowsInserted rows first last => exact slotRowsInserted_noSession s rows first last
  | rowsRemoved rows first last => exact slotRowsRemoved_noSession s rows first last
  | _ => exact .nil

theorem initSettings_noSession (s : Sys) (prefs : Prefs) :
    NoSession (s.initSettings prefs).2 := by
  unfold Sys.initSettings
  dsimp only
  split_ifs
  · exact resetUIForUserListLogin_noSession _
  · exact resetUIForManualLogin_noSession _

end session_guard.greeter_login_window

namespace session_guard.greeter_login

open auth_msg_queue auth_proxy auth_runs
open greeter_login_window (Prefs EditInputMode)
open user_list_widget (UserInfo)

variable {env : Env}

/-! ## The sessions -/

/-- The output asks LightDM for a session. -/
def starts : Output → Bool
  | .window output => isStart output
  | .proxy _ => false

/-- LightDM says that the attempt has succeeded. -/
def succeeds : Event → Bool
  | .greeterComplete isAuthenticated => isAuthenticated
  | _ => false

/-- The attempt whose success the message is. -/
def successOf (e : Entry Note) : Option Nat :=
  match e.msg with
  | .complete true => some e.note.call
  | _ => none

theorem takes_started (s : Sys) (call : Nat)
    (r : greeter_login_window.Sys × List greeter_login_window.Output) :
    (s.takes call r).1.history.started = s.history.started ++
        List.replicate ((s.takes call r).2.countP starts) call ∧
      (s.takes call r).1.history.passed = s.history.passed := by
  refine ⟨?_, rfl⟩
  have hcount : (r.2.map Output.window).countP starts = (r.2.filter isStart).length := by
    rw [List.countP_map, List.countP_eq_length_filter]
    rfl
  simp only [Sys.takes, hcount, List.map_const']

theorem dispatch_started (s : Sys) (call : Nat) (effects : List Effect) :
    (s.dispatch call effects).1.history.started = s.history.started ++
        List.replicate ((s.dispatch call effects).2.countP starts) call ∧
      (s.dispatch call effects).1.history.passed = s.history.passed := by
  induction effects generalizing s with
  | nil => simp [Sys.dispatch]
  | cons e effects ih =>
    have hproxy : starts (.proxy e) = false := rfl
    simp only [Sys.dispatch, List.countP_cons, hproxy, List.countP_append]
    rcases signal e with _ | event
    · simpa using ih s
    · obtain ⟨hstarted, hpassed⟩ := ih (s.takes call (s.window.does event)).1
      obtain ⟨hone, hsame⟩ := takes_started s call (s.window.does event)
      refine ⟨?_, hpassed.trans hsame⟩
      dsimp only
      rw [hstarted, hone, List.append_assoc, List.replicate_append_replicate]
      rfl

/-- A proxy with a queue only appends what it hears of the greeter and of the service. -/
theorem handler_posts (p : AuthProxy) (hq : p.m_authMessageQueue = true) (e : auth_runs.Event)
    (note : Note) :
    (e.handler env p).2.filterMap signal = [] ∧
      (pending (mainOps note (e.handler env p).2)).filterMap successOf =
        passedBy note.call e := by
  have hstop : p.stopAuthSession.2.filterMap signal = [] ∧
      ∀ rest, mainOps note (p.stopAuthSession.2 ++ rest) = mainOps note rest := by
    rcases stopAuthSession_cases p with hp | hp <;> rw [hp] <;> exact ⟨rfl, fun _ => rfl⟩
  cases e with
  | authenticate username =>
    simp only [auth_runs.Event.handler, AuthProxy.authenticate, hq, if_true]
    exact ⟨rfl, rfl⟩
  | cancelAuthentication =>
    simp only [auth_runs.Event.handler, AuthProxy.cancelAuthentication, hq, if_true,
      List.filterMap_append, hstop.1]
    refine ⟨rfl, ?_⟩
    have hops := hstop.2 []
    rw [List.append_nil] at hops
    show (pending (.stop :: mainOps note p.stopAuthSession.2)).filterMap successOf = _
    rw [hops]
    rfl
  | destroy => exact ⟨rfl, rfl⟩
  | respond response =>
    simp only [auth_runs.Event.handler, AuthProxy.respond]
    split_ifs <;> exact ⟨rfl, rfl⟩
  | pamComplete b =>
    simp only [auth_runs.Event.handler, AuthProxy.handlePamAuthComplete, hq, if_true,
      List.filterMap_append, hstop.1, List.append_assoc, hstop.2]
    cases b <;> split_ifs <;> exact ⟨rfl, rfl⟩
  | pamPrompt user reply text type =>
    simp only [auth_runs.Event.handler, AuthProxy.handlePamAuthShowPrompt, hq, if_true]
    rcases reply with _ | ⟨sid, key⟩ <;> split_ifs <;> exact ⟨rfl, rfl⟩
  | pamMessage text type =>
    simp only [auth_runs.Event.handler, AuthProxy.handlePamAuthShowMessage, hq, if_true]
    exact ⟨rfl, rfl⟩
  | serviceMessages msg type sid =>
    simp only [auth_runs.Event.handler, AuthProxy.handleAuthServiceAuthMessages, hq, if_true]
    split_ifs <;> exact ⟨rfl, rfl⟩
  | serviceMethod authType method sid =>
    simp only [auth_runs.Event.handler, AuthProxy.handleAuthServiceAuthMethodChanged]
    split_ifs <;> exact ⟨rfl, rfl⟩

/-- Effects with no signal reach no slot. -/
theorem dispatch_silent {effects : List Effect} (h : effects.filterMap signal = []) (s : Sys)
    (call : Nat) : s.dispatch call effects = (s, effects.map .proxy) := by
  induction effects with
  | nil => rfl
  | cons e effects ih =>
    rw [List.filterMap_cons] at h
    rcases hs : signal e with _ | event
    · rw [hs] at h
      simp only [Sys.dispatch, hs, ih h]
      rfl
    · simp [hs] at h

theorem countP_starts (o : List Output) :
    o.countP starts = (o.filterMap Output.window?).countP isStart := by
  induction o with
  | nil => rfl
  | cons x o ih =>
    rw [List.countP_cons, ih]
    cases x with
    | window output => exact (List.countP_cons (p := isStart)).symm
    | proxy effect => rfl

/-- The slot of the window for a message of the queue. -/
def slotFor : AuthMsg → greeter_login_window.Event
  | .prompt _ promptType msg => .showPrompt msg promptType
  | .message messageType msg => .showMessage msg messageType
  | .complete authRes => .authenticationComplete authRes

theorem handleAuthQueue_signal (p : AuthProxy) (m : AuthMsg) :
    (p.handleAuthQueue m).2.filterMap signal = [slotFor m] := by
  cases m with
  | prompt f t msg => rfl
  | message t msg => rfl
  | complete b =>
    simp only [AuthProxy.handleAuthQueue, AuthProxy.handleAuthQueueComplete]
    rcases stopAuthSession_cases p with hp | hp <;> rw [hp] <;> rfl

/-- A session is asked for when the message is a success, and only then. -/
theorem deliver_starts (s : Sys) (p : AuthProxy) (x : Entry Note) :
    (s.dispatch x.note.call (p.handleAuthQueue x.msg).2).2.countP starts =
      (successOf x).toList.length := by
  have hrun := dispatch_window s x.note.call (p.handleAuthQueue x.msg).2
  rw [handleAuthQueue_signal] at hrun
  obtain ⟨w, o1, o2, hw, hrest, ho⟩ := run_cons_iff.mp hrun
  cases hrest
  rw [countP_starts, ho, List.append_nil]
  obtain ⟨-, -, rfl⟩ := greeter_login_window.step_does hw
  by_cases hx : x.msg = .complete true
  · rw [hx]
    simp only [successOf, hx]
    rfl
  · have hslot : slotFor x.msg ≠ .authenticationComplete true := by
      intro heq
      apply hx
      rcases hm : x.msg with ⟨f, t, m⟩ | ⟨t, m⟩ | b <;> rw [hm] at heq <;> cases heq
      rfl
    have hnone : successOf x = none := by
      unfold successOf
      split
      · exact absurd (by assumption) hx
      · rfl
    rw [List.countP_eq_length_filter,
      (greeter_login_window.does_noSession s.window hslot).filter_eq, hnone]
    rfl

/-! ## The account -/

/-- The attempt that LightDM ends with a success in a step. -/
def passedIn (s : Sys) : Event → List Nat
  | .greeterComplete isAuthenticated => if isAuthenticated then [s.auth.calls] else []
  | _ => []

/-- The successes that are on their way to the window. -/
def underWay (d : Dispatch Note) : List Nat := d.flight.filterMap successOf

/-- What a step does about sessions, where it asks for those of the attempts `new`. -/
structure Books (s : Sys) (e : Event) (o : List Output) (t : Sys) (new : List Nat) : Prop where
  hasQueue : t.auth.proxy.m_authMessageQueue = true
  started : t.history.started = s.history.started ++ new
  passed : t.history.passed = s.history.passed ++ passedIn s e
  asked : o.countP starts = new.length
  underWay : (new ++ underWay t.auth.queue).Sublist (underWay s.auth.queue ++ passedIn s e)
  delivered : ∀ call ∈ new, e = .deliver ∧
    ∃ x d, s.auth.queue.deliver = some (x, d) ∧ x.note.call = call

theorem window_books {s : Sys} (hq : s.auth.proxy.m_authMessageQueue = true)
    {e : greeter_login_window.Event} (hout : isOutside e = true) :
    Books s (.window e) (s.takes s.auth.calls (s.window.does e)).2
      (s.takes s.auth.calls (s.window.does e)).1 [] := by
  have hno : greeter_login_window.NoSession (s.window.does e).2 := by
    apply greeter_login_window.does_noSession
    rintro rfl
    cases hout
  have hnone : (s.takes s.auth.calls (s.window.does e)).2.countP starts = 0 := by
    rw [countP_starts, takes_window?, List.countP_eq_length_filter, hno.filter_eq]
    rfl
  obtain ⟨hstarted, hpassed⟩ := takes_started s s.auth.calls (s.window.does e)
  rw [hnone] at hstarted
  exact ⟨hq, hstarted, hpassed.trans (List.append_nil _).symm, hnone,
    by simp [passedIn], List.forall_mem_nil _⟩

theorem thread_books {s : Sys} (hq : s.auth.proxy.m_authMessageQueue = true) {t : Thread}
    {d : Dispatch Note} (hd : s.auth.queue.step t = some d) :
    Books s (.thread t) [] { s with auth := { s.auth with queue := d } } [] :=
  ⟨hq, (List.append_nil _).symm, (List.append_nil _).symm, rfl,
    by simpa [passedIn, underWay] using (Dispatch.step_flight hd).filterMap successOf,
    List.forall_mem_nil _⟩

/-- A handler of the proxy, called in a state in which the window may have changed. -/
theorem main_books {s s1 : Sys} {e : Event} {y : auth_runs.Event}
    {auth : auth_runs.Sys (Dispatch Note)} {effects : List Effect}
    (hq : s.auth.proxy.m_authMessageQueue = true)
    (h : threadStep env s.auth (.main y) = some (auth, effects))
    (hpassedBy : passedBy s.auth.calls y = passedIn s e)
    (hstarted : s1.history.started = s.history.started)
    (hpassed : s1.history.passed = s.history.passed ++ passedIn s e) :
    Books s e (Sys.dispatch { s1 with auth := auth } s.auth.calls effects).2
      (Sys.dispatch { s1 with auth := auth } s.auth.calls effects).1 [] := by
  simp only [threadStep] at h
  split_ifs at h
  obtain ⟨-, rfl, rfl⟩ := handle_eq_some env h
  obtain ⟨hsilent, hposts⟩ := @handler_posts env s.auth.proxy hq y ⟨y.issuer, s.auth.calls⟩
  rw [dispatch_silent hsilent]
  refine ⟨(handler_hasQueue env s.auth.proxy y).trans hq, ?_, hpassed, ?_, ?_,
    List.forall_mem_nil _⟩
  · rw [List.append_nil]
    exact hstarted
  · rw [List.countP_map]
    exact List.countP_eq_zero.mpr fun _ _ => Bool.false_ne_true
  · have hflight : ∀ ops, (pending ops).filterMap successOf = passedIn s e →
        underWay (s.auth.queue.call ops) = underWay s.auth.queue ++ passedIn s e := by
      intro ops hops
      rw [underWay, Dispatch.flight_call, List.filterMap_append, hops, underWay]
    rw [List.nil_append]
    exact (hflight _ (hposts.trans hpassedBy)) ▸ List.Sublist.refl _

theorem handleAuthQueue_pending (p : AuthProxy) (m : AuthMsg) (note : Note) :
    pending (mainOps note (p.handleAuthQueue m).2) = [] := by
  cases m with
  | prompt f t msg => rfl
  | message t msg => rfl
  | complete b =>
    simp only [AuthProxy.handleAuthQueue, AuthProxy.handleAuthQueueComplete]
    rcases stopAuthSession_cases p with hp | hp <;> rw [hp] <;> rfl

theorem handleAuthQueue_hasQueue (p : AuthProxy) (m : AuthMsg) :
    (p.handleAuthQueue m).1.m_authMessageQueue = p.m_authMessageQueue := by
  cases m with
  | complete b => exact stopAuthSession_hasQueue p
  | _ => rfl

theorem successOf_toList (x : Entry Note) :
    List.replicate (successOf x).toList.length x.note.call = (successOf x).toList := by
  unfold successOf
  split <;> rfl

theorem deliver_spec {a auth : auth_runs.Sys (Dispatch Note)} {x : Entry Note} {d : Dispatch Note}
    {effects : List Effect} (hd : a.queue.deliver = some (x, d))
    (h : threadStep env a .deliver = some (auth, effects)) :
    effects = (a.proxy.handleAuthQueue x.msg).2 ∧
      auth.proxy.m_authMessageQueue = a.proxy.m_authMessageQueue ∧
      underWay auth.queue = underWay d := by
  simp only [threadStep, hd] at h
  obtain ⟨-, rfl, rfl⟩ := receive_eq_some h
  refine ⟨rfl, handleAuthQueue_hasQueue a.proxy x.msg, ?_⟩
  simp only [auth_runs.Sys.after, underWay, Dispatch.flight_call, handleAuthQueue_pending,
    List.append_nil]

/-- A delivery asks for a session when the message is a success. -/
theorem deliver_books {s : Sys} {x : Entry Note} {d : Dispatch Note}
    {auth : auth_runs.Sys (Dispatch Note)} {effects : List Effect}
    (hq : s.auth.proxy.m_authMessageQueue = true) (hd : s.auth.queue.deliver = some (x, d))
    (h : threadStep env s.auth .deliver = some (auth, effects)) :
    Books s .deliver (Sys.dispatch { s with auth := auth } x.note.call effects).2
      (Sys.dispatch { s with auth := auth } x.note.call effects).1 (successOf x).toList := by
  obtain ⟨rfl, hqueue, hunderWay⟩ := deliver_spec hd h
  have hcount := deliver_starts { s with auth := auth } s.auth.proxy x
  obtain ⟨hstarted, hpassed⟩ :=
    dispatch_started { s with auth := auth } x.note.call (s.auth.proxy.handleAuthQueue x.msg).2
  obtain ⟨hauth, -⟩ :=
    dispatch_proxy { s with auth := auth } x.note.call (s.auth.proxy.handleAuthQueue x.msg).2
  rw [hcount, successOf_toList] at hstarted
  refine ⟨?_, hstarted, hpassed.trans (List.append_nil _).symm, hcount, ?_, ?_⟩
  · rw [hauth]
    exact hqueue.trans hq
  · have hhead : underWay s.auth.queue = (successOf x).toList ++ underWay d := by
      rw [underWay, Dispatch.flight_deliver hd, List.filterMap_cons, underWay]
      rcases successOf x with _ | call <;> rfl
    rw [hauth, hhead, hunderWay]
    exact (List.append_nil _).symm ▸ List.Sublist.refl _
  · intro call hcall
    refine ⟨rfl, x, d, hd, ?_⟩
    rw [← successOf_toList] at hcall
    exact (List.eq_of_mem_replicate hcall).symm

theorem step_books {s t : Sys} {e : Event} {o : List Output} (hs : FromWindow s)
    (hq : s.auth.proxy.m_authMessageQueue = true) (h : step env s e = some (t, o)) :
    ∃ new, Books s e o t new := by
  have hmoves := step_moves h
  generalize hr : (t, o) = r at hmoves
  cases hmoves with
  | @window e w o1 hout hw =>
    obtain ⟨-, rfl, rfl⟩ := greeter_login_window.step_does hw
    have hbooks := window_books hq hout
    rw [← hr] at hbooks
    exact ⟨[], hbooks⟩
  | @proxy _ s1 call x auth effects hask hx =>
    have hmain : ∀ {y}, x = .main y → call = s.auth.calls →
        passedBy s.auth.calls y = passedIn s e → s1.history.started = s.history.started →
        s1.history.passed = s.history.passed ++ passedIn s e → ∃ new, Books s e o t new := by
      rintro y rfl rfl hby hstarted hpassed
      have hbooks := main_books hq hx hby hstarted hpassed
      rw [← hr] at hbooks
      exact ⟨[], hbooks⟩
    cases hask with
    | thread thread =>
      obtain ⟨d, hd, heq⟩ := Option.map_eq_some_iff.mp hx
      cases heq
      cases hr
      exact ⟨[], thread_books hq hd⟩
    | @proceed y rest htodo =>
      obtain ⟨o1, ho⟩ := hs y (htodo ▸ List.mem_cons_self)
      exact hmain rfl rfl ((callOf_spec ho).2 s.auth.calls) rfl (List.append_nil _).symm
    | complete b => exact hmain rfl rfl (by cases b <;> rfl) rfl rfl
    | deliver hd =>
      have hbooks := deliver_books hq hd hx
      rw [← hr] at hbooks
      exact ⟨_, hbooks⟩
    | _ => exact hmain rfl rfl rfl rfl (List.append_nil _).symm

/-- The sessions, with the successes that are on their way, answer successes of LightDM in order,
and each of them once. -/
structure Account (s : Sys) : Prop where
  fromWindow : FromWindow s
  hasQueue : s.auth.proxy.m_authMessageQueue = true
  answered : (s.history.started ++ underWay s.auth.queue).Sublist s.history.passed

theorem step_account {s t : Sys} {e : Event} {o : List Output} (hs : Account s)
    (h : step env s e = some (t, o)) : Account t := by
  obtain ⟨new, hbooks⟩ := step_books hs.fromWindow hs.hasQueue h
  refine ⟨(step_calls hs.fromWindow h).1, hbooks.hasQueue, ?_⟩
  rw [hbooks.started, hbooks.passed, List.append_assoc]
  refine (hbooks.underWay.append_left s.history.started).trans ?_
  rw [← List.append_assoc]
  exact hs.answered.append_right _

/-- The sessions and the successes, counted. -/
theorem step_counts {s t : Sys} {e : Event} {o : List Output} (hs : Account s)
    (h : step env s e = some (t, o)) :
    t.history.started.length = s.history.started.length + o.countP starts ∧
      t.history.passed.length = s.history.passed.length + [e].countP succeeds := by
  obtain ⟨new, hbooks⟩ := step_books hs.fromWindow hs.hasQueue h
  constructor
  · rw [hbooks.started, hbooks.asked, List.length_append]
  · rw [hbooks.passed, List.length_append, List.countP_singleton]
    cases e with
    | greeterComplete b => cases b <;> rfl
    | _ => rfl

variable (env)

theorem init_account (authType : Int) (prefs : Prefs) (users : List UserInfo)
    (autologinUserHint : String) (m_inputMode : EditInputMode) :
    (Sys.init env authType prefs users autologinUserHint m_inputMode).1.history = {} ∧
      Account (Sys.init env authType prefs users autologinUserHint m_inputMode).1 := by
  have hempty :
      (Sys.init env authType prefs users autologinUserHint m_inputMode).1.history = {} := by
    simp only [Sys.init, Sys.takes,
      (greeter_login_window.initSettings_noSession _ prefs).filter_eq]
    rfl
  refine ⟨hempty, takes_keeps (s := { window := unset prefs users autologinUserHint m_inputMode
                                      auth := proxied env authType })
    (List.forall_mem_nil _) 0 _, rfl, ?_⟩
  rw [hempty]
  exact List.Sublist.refl _

/-- In every run the window asks for no more sessions than LightDM has signalled successes, and the
sessions are those of the successes, in their order and each once. -/
theorem every_session_answers_a_success (authType : Int) (prefs : Prefs) (users : List UserInfo)
    (autologinUserHint : String) (m_inputMode : EditInputMode) {es : List Event} {t : Sys}
    {o : List Output}
    (h : run (step env)
      (Sys.init env authType prefs users autologinUserHint m_inputMode).1 es = some (t, o)) :
    t.history.started.length = o.countP starts ∧
      t.history.passed.length = es.countP succeeds ∧
      t.history.started.Sublist t.history.passed := by
  obtain ⟨hempty, haccount⟩ := init_account env authType prefs users autologinUserHint m_inputMode
  have hend : Account t := run_inv (fun _ _ _ _ hs hstep => step_account hs hstep) haccount h
  refine ⟨?_, ?_, (List.sublist_append_left _ _).trans hend.answered⟩
  · have hcount := run_count (I := Account) (f := fun s => s.history.started.length)
      (p := fun _ => false) (q := starts) (fun s e t o hs hstep =>
        ⟨step_account hs hstep, by simpa using (step_counts hs hstep).1⟩) haccount h
    simpa [hempty] using hcount
  · have hcount := run_count (I := Account) (f := fun s => s.history.passed.length)
      (p := succeeds) (q := fun _ => false) (fun s e t o hs hstep =>
        ⟨step_account hs hstep, by simpa using (step_counts hs hstep).2⟩) haccount h
    simpa [hempty] using hcount

/-! ## Whose success it is -/

/-- `authenticate` and `cancelAuthentication` are called when no signal is posted, and the worker
emits nothing while the main thread is inside `stopDispatcher`. -/
def uncrossed (s : Sys) : Event → Bool
  | .proceed => !s.todo.head?.any auth_runs.Event.isCall || s.auth.queue.q.posted.isEmpty
  | .thread (.worker .emit) => !s.auth.queue.stopping
  | _ => true

variable {env}

theorem Asks.undisturbed {s s1 : Sys} {e : Event} {call : Nat} {x : ThreadEvent}
    (hask : Asks s e s1 call x) (hg : uncrossed s e = true) : Undisturbed s.auth x := by
  cases hask with
  | thread t =>
    cases t with
    | main => trivial
    | worker act =>
      cases act with
      | emit =>
        simp only [uncrossed, Bool.not_eq_true'] at hg
        exact hg
      | _ => trivial
  | @proceed y rest htodo =>
    intro hcall
    simp only [uncrossed, htodo, List.head?_cons, Option.any_some, hcall, Bool.not_true,
      Bool.false_or] at hg
    exact List.isEmpty_iff.mp hg
  | deliver hd => trivial
  | _ => exact fun hcall => Bool.noConfusion hcall

theorem step_isolation {s t : Sys} {e : Event} {o : List Output} (hs : IsolationInv s.auth)
    (hg : uncrossed s e = true) (h : step env s e = some (t, o)) : IsolationInv t.auth := by
  have hmoves := step_moves h
  generalize hr : (t, o) = r at hmoves
  cases hmoves with
  | window hout hw =>
    cases hr
    exact hs
  | @proxy _ s1 call x auth effects hask hx =>
    obtain ⟨hauth, -⟩ := dispatch_proxy { s1 with auth := auth } call effects
    rw [← hr] at hauth
    rw [hauth]
    exact isolation_step env hs (hask.undisturbed hg) hx

/-- The window asks for a session when LightDM has signalled a success since the latest call of
`authenticate` or `cancelAuthentication`. -/
def OfThisAttempt (s : Sys) (_ : Event) (o : List Output) (_ : Sys) : Prop :=
  o.any starts = true → s.auth.calls ∈ s.history.passed

theorem step_ofThisAttempt {s t : Sys} {e : Event} {o : List Output} (hs : Account s)
    (hi : IsolationInv s.auth) (h : step env s e = some (t, o)) : OfThisAttempt s e o t := by
  intro hstarts
  obtain ⟨new, hbooks⟩ := step_books hs.fromWindow hs.hasQueue h
  obtain ⟨x, hx, hsession⟩ := List.any_eq_true.mp hstarts
  have hcount : 0 < o.countP starts := List.countP_pos_iff.mpr ⟨x, hx, hsession⟩
  rw [hbooks.asked] at hcount
  obtain ⟨call, hcall⟩ := List.exists_mem_of_length_pos hcount
  obtain ⟨rfl, x, d, hd, rfl⟩ := hbooks.delivered call hcall
  -- what is delivered was posted in the attempt that is on
  have hnow : x.note.call = s.auth.calls :=
    hi.posted x (by simp [(Dispatch.deliver_eq_some hd).2.2.1])
  have hway : x.note.call ∈ underWay s.auth.queue := by
    have hmem := hbooks.underWay.subset (List.mem_append_left _ hcall)
    simpa [passedIn] using hmem
  rw [← hnow]
  exact hs.answered.subset (List.mem_append_right _ hway)

variable (env)

/-- In every run in which no signal crosses a call, each session is asked for by a success of the
attempt that is on. -/
theorem a_session_is_of_this_attempt (authType : Int) (prefs : Prefs) (users : List UserInfo)
    (autologinUserHint : String) (m_inputMode : EditInputMode) (es : List Event)
    (hG : Meets (step env) (fun s e => uncrossed s e = true)
      (Sys.init env authType prefs users autologinUserHint m_inputMode).1 es) :
    Always (step env) OfThisAttempt
      (Sys.init env authType prefs users autologinUserHint m_inputMode).1 es := by
  obtain ⟨-, haccount⟩ := init_account env authType prefs users autologinUserHint m_inputMode
  have hnew : IsolationInv (proxied env authType) :=
    ⟨rfl, fun _ => rfl, List.forall_mem_nil _, List.forall_mem_nil _, Or.inl ⟨rfl, rfl⟩⟩
  refine always_of_inv (I := fun s => Account s ∧ IsolationInv s.auth) ?_ ⟨haccount, hnew⟩ hG
  rintro s e t o ⟨hs, hi⟩ hg hstep
  exact ⟨⟨step_account hs hstep, step_isolation hi hg hstep⟩, step_ofThisAttempt hs hi hstep⟩

theorem one_session_for_one_success :
    ∃ t o, run (step sampleEnv) greeter (logIn ++ [.deliver]) = some (t, o) ∧
      o.countP starts = 1 ∧ t.history.passed = [1] ∧
      t.history.started.Sublist t.history.passed := by
  have hrun : ∃ t o, run (step sampleEnv) greeter (logIn ++ [.deliver]) = some (t, o) ∧
      o.countP starts = 1 ∧ t.history.passed = [1] := ⟨_, _, rfl, rfl, rfl⟩
  obtain ⟨t, o, h, hone, hpassed⟩ := hrun
  exact ⟨t, o, h, hone, hpassed, (every_session_answers_a_success sampleEnv 1
    greeter_login_window.samplePrefs aliceAndBob "" .EDIT_INPUT_USER_NAME h).2.2⟩

/-- Alice's success is posted when the user goes on to Bob, and it is delivered in Bob's attempt. -/
theorem a_posted_success_starts_a_session_in_the_next_attempt :
    ¬ ∀ es, Always (step sampleEnv) OfThisAttempt greeter es := by
  intro h
  have hlast := always_rest (logIn ++ [.window (.selectUser 1)] ++ begins) [.deliver] rfl
    (h (logIn ++ [.window (.selectUser 1)] ++ begins ++ [.deliver]))
  exact absurd ((hlast _ _ rfl).1 rfl) (by decide)

theorem alice_gets_her_session :
    ∃ t o, run (step sampleEnv) greeter (logIn ++ [.deliver]) = some (t, o) ∧
      o.countP starts = 1 ∧ Always (step sampleEnv) OfThisAttempt greeter (logIn ++ [.deliver]) := by
  refine ⟨_, _, rfl, rfl, ?_⟩
  exact a_session_is_of_this_attempt sampleEnv 1 greeter_login_window.samplePrefs aliceAndBob ""
    .EDIT_INPUT_USER_NAME (logIn ++ [.deliver]) (by decide)

end session_guard.greeter_login
