-- The greeter follows its two parts: a run of it is a run of the window and a run of the proxy, and
-- the calls of the window come through to LightDM.
import SessionGuard.GreeterLogin

open machine

namespace session_guard.greeter_login

open auth_msg_queue auth_proxy auth_runs
open greeter_login_window (Prefs EditInputMode)
open user_list_widget (UserInfo)

variable {env : Env}

/-! ## What a step is -/

/-- What a step of the greeter makes of the proxy: it hands on the calls of the window, it takes the
signals of the greeter and of the service, and it delivers those of the queue. -/
inductive Asks (s : Sys) : Event → Sys → Nat → ThreadEvent → Prop
  | thread (t : Thread) : Asks s (.thread t) s s.auth.calls (.thread t)
  | proceed {e : auth_runs.Event} {rest : List auth_runs.Event} (h : s.todo = e :: rest) :
    Asks s .proceed { s with todo := rest } s.auth.calls (.main e)
  | prompt (reply : Option (String × String)) (text : String) (type : PromptType) :
    Asks s (.greeterPrompt reply text type) s s.auth.calls
      (.main (.pamPrompt s.window.greeter.authenticationUser reply text type))
  | message (text : String) (type : MessageType) :
    Asks s (.greeterMessage text type) s s.auth.calls (.main (.pamMessage text type))
  | complete (b : Bool) :
    Asks s (.greeterComplete b) (s.ends b) s.auth.calls (.main (.pamComplete b))
  | messages (msg : String) (type : Int) (sid : String) :
    Asks s (.serviceMessages msg type sid) s s.auth.calls (.main (.serviceMessages msg type sid))
  | method (authType : AuthType) (method : BitVec 32) (sid : String) :
    Asks s (.serviceMethod authType method sid) s s.auth.calls
      (.main (.serviceMethod authType method sid))
  | deliver {x : Entry Note} {d : Dispatch Note} (h : s.auth.queue.deliver = some (x, d)) :
    Asks s .deliver s x.note.call .deliver

/-- A step is a slot of the window, or a step of the proxy with the slots for its signals. -/
inductive Moves (env : Env) (s : Sys) : Event → Sys × List Output → Prop
  | window {e : greeter_login_window.Event} {w : greeter_login_window.Sys}
    {o : List greeter_login_window.Output} (hout : isOutside e = true)
    (h : greeter_login_window.step s.window e = some (w, o)) :
    Moves env s (.window e) (s.takes s.auth.calls (w, o))
  | proxy {e : Event} {s1 : Sys} {call : Nat} {x : ThreadEvent}
    {auth : auth_runs.Sys (Dispatch Note)} {effects : List Effect} (hask : Asks s e s1 call x)
    (h : threadStep env s.auth x = some (auth, effects)) :
    Moves env s e (Sys.dispatch { s1 with auth := auth } call effects)

theorem step_moves {s : Sys} {e : Event} {r : Sys × List Output} (h : step env s e = some r) :
    Moves env s e r := by
  have hproxy : ∀ {e s1 call x}, Asks s e s1 call x → s1.auth = s.auth →
      s1.proxyStep env call x = some r → Moves env s e r := by
    intro e s1 call x hask hauth h
    obtain ⟨⟨auth, effects⟩, hx, rfl⟩ := Option.map_eq_some_iff.mp h
    exact .proxy hask (hauth ▸ hx)
  have hmain : ∀ {e}, (if s.AtLoop then s.mainStep env e else none) = some r →
      s.mainStep env e = some r := by
    intro e h
    split_ifs at h
    exact h
  cases e with
  | thread t => exact hproxy (.thread t) rfl h
  | proceed =>
    simp only [step] at h
    split at h
    · cases h
    · rename_i e rest htodo
      exact hproxy (.proceed htodo) rfl h
  | window e =>
    have h1 := hmain h
    simp only [Sys.mainStep] at h1
    split_ifs at h1 with hout
    obtain ⟨⟨w, o⟩, hw, rfl⟩ := Option.map_eq_some_iff.mp h1
    exact .window hout hw
  | greeterPrompt reply text type => exact hproxy (.prompt reply text type) rfl (hmain h)
  | greeterMessage text type => exact hproxy (.message text type) rfl (hmain h)
  | greeterComplete b => exact hproxy (.complete b) rfl (hmain h)
  | serviceMessages msg type sid => exact hproxy (.messages msg type sid) rfl (hmain h)
  | serviceMethod authType method sid =>
    exact hproxy (.method authType method sid) rfl (hmain h)
  | deliver =>
    have h1 := hmain h
    simp only [Sys.mainStep] at h1
    split at h1
    · cases h1
    · rename_i x d hd
      exact hproxy (.deliver hd) rfl h1

/-! ## The greeter follows the window and the proxy -/

@[simp] theorem takes_auth (s : Sys) (call : Nat)
    (r : greeter_login_window.Sys × List greeter_login_window.Output) :
    (s.takes call r).1.auth = s.auth := rfl

@[simp] theorem takes_window? (s : Sys) (call : Nat)
    (r : greeter_login_window.Sys × List greeter_login_window.Output) :
    (s.takes call r).2.filterMap Output.window? = r.2 := by
  simp [Sys.takes, Output.window?, List.filterMap_map, Function.comp_def]

@[simp] theorem takes_proxy? (s : Sys) (call : Nat)
    (r : greeter_login_window.Sys × List greeter_login_window.Output) :
    (s.takes call r).2.filterMap Output.proxy? = [] := by
  simp [Sys.takes, Output.proxy?, List.filterMap_map, Function.comp_def]

theorem dispatch_proxy (s : Sys) (call : Nat) (effects : List Effect) :
    (s.dispatch call effects).1.auth = s.auth ∧
      (s.dispatch call effects).2.filterMap Output.proxy? = effects := by
  induction effects generalizing s with
  | nil => exact ⟨rfl, rfl⟩
  | cons e effects ih =>
    simp only [Sys.dispatch, Output.proxy?, List.filterMap_cons, List.filterMap_append]
    rcases signal e with _ | event
    · exact ⟨(ih s).1, by simp [(ih s).2]⟩
    · obtain ⟨hauth, hout⟩ := ih (s.takes call (s.window.does event)).1
      exact ⟨hauth, by rw [takes_proxy?, hout]; rfl⟩

/-- The window takes the signals of the proxy at any time. -/
theorem step_signal {e : Effect} {event : greeter_login_window.Event} (h : signal e = some event)
    (w : greeter_login_window.Sys) :
    greeter_login_window.step w event = some (w.does event) := by
  cases e <;> simp only [signal, reduceCtorEq, Option.some.injEq] at h <;> subst h <;> rfl

theorem dispatch_window (s : Sys) (call : Nat) (effects : List Effect) :
    run greeter_login_window.step s.window (effects.filterMap signal) =
      some ((s.dispatch call effects).1.window,
        (s.dispatch call effects).2.filterMap Output.window?) := by
  induction effects generalizing s with
  | nil => rfl
  | cons e effects ih =>
    simp only [Sys.dispatch, Output.window?, List.filterMap_cons, List.filterMap_append]
    rcases hs : signal e with _ | event
    · simpa using ih s
    · apply run_cons_iff.mpr
      refine ⟨_, _, _, step_signal hs s.window, ih (s.takes call (s.window.does event)).1, ?_⟩
      exact congrArg (· ++ _) (takes_window? s call (s.window.does event))

/-- Before the step of the proxy, the window takes the end of the attempt at most. -/
theorem Asks.window {s s1 : Sys} {e : Event} {call : Nat} {x : ThreadEvent}
    (h : Asks s e s1 call x) :
    ∃ ws, run greeter_login_window.step s.window ws = some (s1.window, []) := by
  cases h with
  | complete b => exact ⟨[.greeterEnds b], rfl⟩
  | _ => exact ⟨[], rfl⟩

theorem step_window {s : Sys} {e : Event} {r : Sys × List Output} (h : step env s e = some r) :
    ∃ ws, run greeter_login_window.step s.window ws =
      some (r.1.window, r.2.filterMap Output.window?) := by
  cases step_moves h with
  | @window e w o hout hw =>
    exact ⟨[e], run_cons_iff.mpr ⟨w, o, [], hw, rfl, by rw [takes_window?, List.append_nil]⟩⟩
  | @proxy _ s1 call x auth effects hask hx =>
    obtain ⟨ws, hws⟩ := hask.window
    refine ⟨ws ++ effects.filterMap signal, run_append_iff.mpr ⟨_, _, _, hws, ?_, rfl⟩⟩
    exact dispatch_window { s1 with auth := auth } call effects

theorem step_proxy {s : Sys} {e : Event} {r : Sys × List Output} (h : step env s e = some r) :
    ∃ fs, run (threadStep env) s.auth fs = some (r.1.auth, r.2.filterMap Output.proxy?) := by
  cases step_moves h with
  | window hout hw => exact ⟨[], by simp⟩
  | @proxy _ s1 call x auth effects hask hx =>
    obtain ⟨hauth, hout⟩ := dispatch_proxy { s1 with auth := auth } call effects
    rw [hauth, hout]
    exact ⟨[x], run_cons_iff.mpr ⟨auth, effects, [], hx, rfl, by simp⟩⟩

theorem follows_window : Follows (viewed Output.window? (step env)) greeter_login_window.step
    (fun _ _ => True) (fun s w => w = s.window) := by
  rintro s w e t o rfl - h
  obtain ⟨r, hstep, heq⟩ := Option.map_eq_some_iff.mp h
  obtain ⟨ws, hws⟩ := step_window hstep
  cases heq
  exact ⟨ws, _, hws, rfl⟩

theorem follows_proxy : Follows (viewed Output.proxy? (step env)) (threadStep env)
    (fun _ _ => True) (fun s a => a = s.auth) := by
  rintro s a e t o rfl - h
  obtain ⟨r, hstep, heq⟩ := Option.map_eq_some_iff.mp h
  obtain ⟨fs, hfs⟩ := step_proxy hstep
  cases heq
  exact ⟨fs, _, hfs, rfl⟩

/-! ## The calls come through -/

/-- What a call of the proxy on `AuthLightdm` begins or ends. -/
def lightdmCall : Effect → Option auth_runs.Event
  | .authAuthenticate username => some (.authenticate username)
  | .authCancel => some .cancelAuthentication
  | _ => none

/-- The call of the window begins an attempt, or ends one. -/
def attemptCall (o : Output) : Option auth_runs.Event :=
  (o.window?.bind callOf).filter auth_runs.Event.isCall

/-- The attempt that a signal of LightDM ends with a success. -/
def passedBy (call : Nat) : auth_runs.Event → List Nat
  | .pamComplete true => [call]
  | _ => []

/-- What is to be done are calls of the window. -/
def FromWindow (s : Sys) : Prop := ∀ e ∈ s.todo, ∃ o, callOf o = some e

theorem callOf_spec {o : greeter_login_window.Output} {e : auth_runs.Event}
    (h : callOf o = some e) : e.isDestroy = false ∧ ∀ call, passedBy call e = [] := by
  cases o <;> simp only [callOf, reduceCtorEq, Option.some.injEq] at h <;> subst h <;>
    exact ⟨rfl, fun _ => rfl⟩

theorem handler_calls (p : AuthProxy) {e : auth_runs.Event} (h : e.isDestroy = false) :
    (e.handler env p).2.filterMap lightdmCall = [e].filter auth_runs.Event.isCall := by
  have hstop : p.stopAuthSession.2.filterMap lightdmCall = [] := by
    rcases stopAuthSession_cases p with hp | hp <;> rw [hp] <;> rfl
  cases e with
  | authenticate username =>
    simp only [auth_runs.Event.handler, AuthProxy.authenticate]
    split_ifs <;> rfl
  | cancelAuthentication =>
    simp only [auth_runs.Event.handler, AuthProxy.cancelAuthentication, List.filterMap_append,
      hstop]
    split_ifs <;> rfl
  | destroy => cases h
  | respond response =>
    simp only [auth_runs.Event.handler, AuthProxy.respond]
    split_ifs <;> rfl
  | pamComplete b =>
    simp only [auth_runs.Event.handler, AuthProxy.handlePamAuthComplete, stopAuthSession_twice]
    split_ifs <;> simp [hstop, lightdmCall, auth_runs.Event.isCall]
  | pamPrompt user reply text type =>
    simp only [auth_runs.Event.handler, AuthProxy.handlePamAuthShowPrompt]
    rcases reply with _ | ⟨sid, key⟩ <;> split_ifs <;> rfl
  | pamMessage text type =>
    simp only [auth_runs.Event.handler, AuthProxy.handlePamAuthShowMessage]
    split_ifs <;> rfl
  | serviceMessages msg type sid =>
    simp only [auth_runs.Event.handler, AuthProxy.handleAuthServiceAuthMessages]
    split_ifs <;> rfl
  | serviceMethod authType method sid =>
    simp only [auth_runs.Event.handler, AuthProxy.handleAuthServiceAuthMethodChanged]
    split_ifs <;> rfl

theorem handleAuthQueue_calls (p : AuthProxy) (m : AuthMsg) :
    (p.handleAuthQueue m).2.filterMap lightdmCall = [] := by
  cases m with
  | prompt f t msg => rfl
  | message t msg => rfl
  | complete b =>
    simp only [AuthProxy.handleAuthQueue, AuthProxy.handleAuthQueueComplete]
    rcases stopAuthSession_cases p with hp | hp <;> rw [hp] <;> rfl

/-- What LightDM is asked for. -/
def askedCall (o : Output) : Option auth_runs.Event := o.proxy?.bind lightdmCall

theorem takes_calls (s : Sys) (call : Nat)
    (r : greeter_login_window.Sys × List greeter_login_window.Output) :
    (s.takes call r).1.todo.filter auth_runs.Event.isCall =
        s.todo.filter auth_runs.Event.isCall ++ (s.takes call r).2.filterMap attemptCall ∧
      (s.takes call r).2.filterMap askedCall = [] := by
  constructor
  · simp [Sys.takes, List.filter_append, List.filterMap_map, List.filter_filterMap,
      Function.comp_def, attemptCall, Output.window?]
  · simp [Sys.takes, List.filterMap_map, Function.comp_def, askedCall, Output.proxy?]

theorem dispatch_calls (s : Sys) (call : Nat) (effects : List Effect) :
    (s.dispatch call effects).1.todo.filter auth_runs.Event.isCall =
        s.todo.filter auth_runs.Event.isCall ++
          (s.dispatch call effects).2.filterMap attemptCall ∧
      (s.dispatch call effects).2.filterMap askedCall = effects.filterMap lightdmCall := by
  induction effects generalizing s with
  | nil => simp [Sys.dispatch]
  | cons e effects ih =>
    have hnone : attemptCall (.proxy e) = none := rfl
    have hasked : askedCall (.proxy e) = lightdmCall e := rfl
    simp only [Sys.dispatch, List.filterMap_cons, List.filterMap_append, hnone, hasked]
    rcases signal e with _ | event
    · obtain ⟨hcalls, hask⟩ := ih s
      simp [hcalls, hask]
    · obtain ⟨hcalls, hask⟩ := ih (s.takes call (s.window.does event)).1
      obtain ⟨htakes, hnothing⟩ := takes_calls s call (s.window.does event)
      dsimp only
      rw [hcalls, hask, htakes, hnothing, List.append_assoc]
      exact ⟨rfl, rfl⟩

theorem takes_keeps {s : Sys} (h : FromWindow s) (call : Nat)
    (r : greeter_login_window.Sys × List greeter_login_window.Output) :
    FromWindow (s.takes call r).1 := by
  intro e he
  rcases List.mem_append.mp he with he | he
  · exact h e he
  · obtain ⟨o, -, ho⟩ := List.mem_filterMap.mp he
    exact ⟨o, ho⟩

theorem dispatch_keeps {s : Sys} (h : FromWindow s) (call : Nat) (effects : List Effect) :
    FromWindow (s.dispatch call effects).1 := by
  induction effects generalizing s with
  | nil => exact h
  | cons e effects ih =>
    simp only [Sys.dispatch]
    rcases signal e with _ | event
    · exact ih h
    · exact ih (takes_keeps h call _)

/-- The step of the proxy hands on the call that the window has asked for. -/
theorem Asks.calls {s s1 : Sys} {e : Event} {call : Nat} {x : ThreadEvent}
    {auth : auth_runs.Sys (Dispatch Note)} {effects : List Effect} (hs : FromWindow s)
    (hask : Asks s e s1 call x) (h : threadStep env s.auth x = some (auth, effects)) :
    FromWindow s1 ∧ s.todo.filter auth_runs.Event.isCall =
      effects.filterMap lightdmCall ++ s1.todo.filter auth_runs.Event.isCall := by
  have hmain : ∀ {y : auth_runs.Event}, x = .main y → y.isDestroy = false →
      effects.filterMap lightdmCall = [y].filter auth_runs.Event.isCall := by
    rintro y rfl hy
    simp only [threadStep] at h
    split_ifs at h
    obtain ⟨-, rfl, -⟩ := handle_eq_some env h
    exact handler_calls s.auth.proxy hy
  cases hask with
  | thread t =>
    obtain ⟨d, -, heq⟩ := Option.map_eq_some_iff.mp h
    cases heq
    exact ⟨hs, rfl⟩
  | @proceed y rest htodo =>
    obtain ⟨o, ho⟩ := hs y (htodo ▸ List.mem_cons_self)
    refine ⟨fun e he => hs e (htodo ▸ List.mem_cons_of_mem y he), ?_⟩
    rw [hmain rfl (callOf_spec ho).1, htodo, ← List.filter_append]
    rfl
  | complete b => exact ⟨hs, by rw [hmain rfl rfl]; rfl⟩
  | deliver hd =>
    simp only [threadStep, hd] at h
    obtain ⟨-, rfl, -⟩ := receive_eq_some h
    exact ⟨hs, by rw [handleAuthQueue_calls]; rfl⟩
  | _ => exact ⟨hs, by rw [hmain rfl rfl]; rfl⟩

theorem step_calls {s t : Sys} {e : Event} {o : List Output} (hs : FromWindow s)
    (h : step env s e = some (t, o)) :
    FromWindow t ∧ s.todo.filter auth_runs.Event.isCall ++ o.filterMap attemptCall =
      o.filterMap askedCall ++ t.todo.filter auth_runs.Event.isCall := by
  have hmoves := step_moves h
  generalize hr : (t, o) = r at hmoves
  cases hmoves with
  | @window e w o hout hw =>
    obtain ⟨hcalls, hnothing⟩ := takes_calls s s.auth.calls (w, o)
    have hkeeps := takes_keeps hs s.auth.calls (w, o)
    rw [← hr] at hcalls hnothing hkeeps
    exact ⟨hkeeps, by rw [hnothing, hcalls]; rfl⟩
  | @proxy _ s1 call x auth effects hask hx =>
    obtain ⟨hkeeps1, heq⟩ := hask.calls hs hx
    obtain ⟨hcalls, hasked⟩ := dispatch_calls { s1 with auth := auth } call effects
    have hkeeps := dispatch_keeps (s := { s1 with auth := auth }) hkeeps1 call effects
    rw [← hr] at hcalls hasked hkeeps
    refine ⟨hkeeps, ?_⟩
    rw [hasked, hcalls, heq, List.append_assoc]

/-- The greeter is the window and the proxy together: a run of it is a run of each, and LightDM is
asked, in order, to begin and to end the attempts that the window asks for, but for those of the
slot that the main thread is in. -/
theorem the_greeter_follows_its_parts (authType : Int) (prefs : Prefs) (users : List UserInfo)
    (autologinUserHint : String) (m_inputMode : EditInputMode) {es : List Event} {t : Sys}
    {o : List Output}
    (h : run (step env)
      (Sys.init env authType prefs users autologinUserHint m_inputMode).1 es = some (t, o)) :
    (∃ ws, run greeter_login_window.step (.init prefs users autologinUserHint m_inputMode) ws =
        some (t.window, o.filterMap Output.window?)) ∧
      (∃ fs, run (threadStep env) (proxied env authType) fs =
        some (t.auth, o.filterMap Output.proxy?)) ∧
      ((Sys.init env authType prefs users autologinUserHint m_inputMode).2 ++ o).filterMap
          attemptCall =
        o.filterMap askedCall ++ t.todo.filter auth_runs.Event.isCall := by
  refine ⟨?_, ?_, ?_⟩
  · obtain ⟨ws, w, hws, rfl⟩ := run_follows follows_window rfl meets_true (run_viewed h)
    exact ⟨ws, hws⟩
  · obtain ⟨fs, a, hfs, rfl⟩ := run_follows follows_proxy rfl meets_true (run_viewed h)
    exact ⟨fs, hfs⟩
  · have hnew : FromWindow
        { window := unset prefs users autologinUserHint m_inputMode
          auth := proxied env authType } := List.forall_mem_nil _
    have hkeeps := takes_keeps hnew 0
      ((unset prefs users autologinUserHint m_inputMode).initSettings prefs)
    obtain ⟨-, heq⟩ := run_hands_on (I := FromWindow)
      (fun _ _ _ _ hs hstep => step_calls hs hstep) hkeeps h
    obtain ⟨hcalls, -⟩ := takes_calls
      { window := unset prefs users autologinUserHint m_inputMode, auth := proxied env authType } 0
      ((unset prefs users autologinUserHint m_inputMode).initSettings prefs)
    rw [List.filterMap_append, ← heq]
    exact congrArg (· ++ _) hcalls.symm

theorem a_login_follows_its_parts :
    ∃ t o, run (step sampleEnv) greeter logIn = some (t, o) ∧
      (∃ ws, run greeter_login_window.step
        (.init greeter_login_window.samplePrefs aliceAndBob "" .EDIT_INPUT_USER_NAME) ws =
          some (t.window, o.filterMap Output.window?)) ∧
      o.filterMap askedCall = [.authenticate "alice"] := by
  have hrun : ∃ t o, run (step sampleEnv) greeter logIn = some (t, o) ∧
      o.filterMap askedCall = [.authenticate "alice"] := ⟨_, _, rfl, rfl⟩
  obtain ⟨t, o, h, hasked⟩ := hrun
  exact ⟨t, o, h, (the_greeter_follows_its_parts 1 greeter_login_window.samplePrefs aliceAndBob ""
    .EDIT_INPUT_USER_NAME h).1, hasked⟩

end session_guard.greeter_login
