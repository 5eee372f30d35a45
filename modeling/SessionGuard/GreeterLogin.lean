-- The greeter as one system: the login window, `AuthProxy` with its message queue and dispatcher
-- thread, and the greeter of LightDM behind `AuthLightdm`. The window asks for a session when it
-- hears of a success, and this comes through the queue.
import SessionGuard.Simulation
import SessionGuard.AuthRuns
import SessionGuard.GreeterLoginWindow

open machine

namespace session_guard.greeter_login

open auth_msg_queue auth_proxy auth_runs
open greeter_login_window (Prefs EditInputMode)
open user_list_widget (UserInfo)

/-! ## The system -/

/-- What the window calls, and what the proxy does. `AuthLightdm` hands the calls of the proxy on
to the greeter of LightDM. -/
inductive Output
  | window (output : greeter_login_window.Output)
  | proxy (effect : Effect)

def Output.window? : Output → Option greeter_login_window.Output
  | .window output => some output
  | .proxy _ => none

def Output.proxy? : Output → Option Effect
  | .window _ => none
  | .proxy effect => some effect

/-- The past of the greeter, in the numbers of the calls: how often `authenticate` and
`cancelAuthentication` had been called when an attempt was on. -/
structure History where
  /-- The attempts that LightDM ended with a success. -/
  passed : List Nat := []
  /-- The attempts for whose success the window asked for a session. -/
  started : List Nat := []

structure Sys where
  window : greeter_login_window.Sys
  auth : auth_runs.Sys (Dispatch Note)
  /-- The calls of the proxy that the slot of the window is still to make. -/
  todo : List auth_runs.Event := []
  history : History := {}

/-- `AuthProxy::setSessionAuthType`. -/
def setSessionAuthType (p : AuthProxy) (authType : Int) : AuthProxy :=
  { p with m_sessionAuthType := authType }

/-- The call of the proxy that an output of the window is. -/
def callOf : greeter_login_window.Output → Option auth_runs.Event
  | .authenticate username => some (.authenticate username)
  | .cancelAuthentication => some .cancelAuthentication
  | .respond text => some (.respond text)
  | .startSessionSync _ => none

def isStart : greeter_login_window.Output → Bool
  | .startSessionSync _ => true
  | _ => false

/-- A slot of the window has run, for a signal about the attempt `call`. Nothing reads what it
changes before its calls are made. -/
def Sys.takes (s : Sys) (call : Nat)
    (r : greeter_login_window.Sys × List greeter_login_window.Output) : Sys × List Output :=
  ({ s with
      window := r.1
      todo := s.todo ++ r.2.filterMap callOf
      history := { s.history with
        started := s.history.started ++ (r.2.filter isStart).map fun _ => call } },
    r.2.map .window)

/-- The signals of the proxy that `initLightdmGreeter` connects. -/
def signal : Effect → Option greeter_login_window.Event
  | .showPrompt text type => some (.showPrompt text type)
  | .showMessage text type => some (.showMessage text type)
  | .authenticationComplete authRes => some (.authenticationComplete authRes)
  | _ => none

/-- The effects of the proxy, with the slots of the window for its signals. -/
def Sys.dispatch (s : Sys) (call : Nat) : List Effect → Sys × List Output
  | [] => (s, [])
  | e :: es =>
    let r :=
      match signal e with
      | none => (s, [])
      | some event => s.takes call (s.window.does event)
    let rest := r.1.dispatch call es
    (rest.1, .proxy e :: (r.2 ++ rest.2))

/-! ## The events -/

inductive Event
  /-- An event of the user, of the timer, or of the user models. -/
  | window (e : greeter_login_window.Event)
  /-- The signals of the greeter of LightDM. `reply` is what `CreateAuth` returns if it is
  called. -/
  | greeterPrompt (reply : Option (String × String)) (text : String) (type : PromptType)
  | greeterMessage (text : String) (type : MessageType)
  | greeterComplete (isAuthenticated : Bool)
  | serviceMessages (msg : String) (type : Int) (sid : String)
  | serviceMethod (authType : AuthType) (method : BitVec 32) (sid : String)
  /-- The event loop delivers a signal of the queue. -/
  | deliver
  /-- The main thread makes the next call of the slot that it is in. -/
  | proceed
  | thread (t : Thread)

/-- The event comes from neither the proxy nor the greeter of LightDM. -/
def isOutside : greeter_login_window.Event → Bool
  | .showPrompt _ _ => false
  | .showMessage _ _ => false
  | .authenticationComplete _ => false
  | .greeterEnds _ => false
  | _ => true

/-- LightDM ends the attempt. -/
def Sys.ends (s : Sys) (isAuthenticated : Bool) : Sys :=
  { s with
    window := (s.window.does (.greeterEnds isAuthenticated)).1
    history := { s.history with
      passed := s.history.passed ++ if isAuthenticated then [s.auth.calls] else [] } }

variable (env : Env)

/-- A step of the proxy, for the attempt `call`. -/
def Sys.proxyStep (s : Sys) (call : Nat) (e : ThreadEvent) : Option (Sys × List Output) :=
  (threadStep env s.auth e).map fun r => Sys.dispatch { s with auth := r.1 } call r.2

/-- The slot of the window has made its calls. -/
def Sys.AtLoop (s : Sys) : Prop := s.todo.isEmpty = true ∧ s.auth.queue.AtLoop

instance (s : Sys) : Decidable s.AtLoop := inferInstanceAs (Decidable (_ ∧ _))

/-- The main thread takes an event only in its event loop. -/
def Sys.mainStep (s : Sys) : Event → Option (Sys × List Output)
  | .window e =>
    if isOutside e then (greeter_login_window.step s.window e).map (s.takes s.auth.calls) else none
  | .greeterPrompt reply text type =>
    s.proxyStep env s.auth.calls
      (.main (.pamPrompt s.window.greeter.authenticationUser reply text type))
  | .greeterMessage text type => s.proxyStep env s.auth.calls (.main (.pamMessage text type))
  | .greeterComplete isAuthenticated =>
    (s.ends isAuthenticated).proxyStep env s.auth.calls (.main (.pamComplete isAuthenticated))
  | .serviceMessages msg type sid =>
    s.proxyStep env s.auth.calls (.main (.serviceMessages msg type sid))
  | .serviceMethod authType method sid =>
    s.proxyStep env s.auth.calls (.main (.serviceMethod authType method sid))
  | .deliver =>
    match s.auth.queue.deliver with
    | none => none
    | some (e, _) => s.proxyStep env e.note.call .deliver
  | _ => none

def step : Step Sys Event Output
  | s, .thread t => s.proxyStep env s.auth.calls (.thread t)
  | s, .proceed =>
    match s.todo with
    | [] => none
    | e :: rest => Sys.proxyStep env { s with todo := rest } s.auth.calls (.main e)
  | s, e => if s.AtLoop then s.mainStep env e else none

/-! ## The start -/

/-- The window before `initSettings`. -/
def unset (prefs : Prefs) (users : List UserInfo) (autologinUserHint : String)
    (m_inputMode : EditInputMode) : greeter_login_window.Sys :=
  let rows := users.filter fun info => !prefs.hiddenUsers.contains info.name
  { window :=
      { m_filterModel_rowCount := rows.length
        m_inputMode := m_inputMode
        userlist :=
          { m_filterModel := rows : user_list_widget.UserListWidget }.loadUserList
            prefs.hiddenUsers }
    greeter := { autologinUserHint := autologinUserHint } }

/-- The proxy after `initLightdmGreeter`. -/
def proxied (SESSION_AUTH_TYPE_TOGETHER : Int) : auth_runs.Sys (Dispatch Note) where
  proxy := setSessionAuthType (.fresh env true) SESSION_AUTH_TYPE_TOGETHER
  queue := { ops := [.start] }

/-- The greeter, where `initSettings` has shown the window for its first login. -/
def Sys.init (SESSION_AUTH_TYPE_TOGETHER : Int) (prefs : Prefs) (users : List UserInfo)
    (autologinUserHint : String) (m_inputMode : EditInputMode) : Sys × List Output :=
  Sys.takes { window := unset prefs users autologinUserHint m_inputMode
              auth := proxied env SESSION_AUTH_TYPE_TOGETHER } 0
    ((unset prefs users autologinUserHint m_inputMode).initSettings prefs)

/-! ## Pieces of runs -/

/-- The worker takes a message as soon as it is appended, and emits it. -/
def emits (clock : UInt64) : List Event :=
  [.thread .main, .thread .main, .thread (.worker .check), .thread (.worker .acquire),
    .thread (.worker .dequeue), .thread (.worker (.readClock clock)),
    .thread (.worker (.readClock clock)), .thread (.worker .emit)]

/-- The main thread makes a call of `authenticate`, where the worker sees the interruption at its
next check. -/
def begins : List Event :=
  [.proceed, .thread .main, .thread .main, .thread (.worker .check)] ++
    List.replicate 12 (.thread .main)

/-- The first user of the list logs in with a password. -/
def logIn : List Event :=
  [.thread .main] ++ begins ++ [.window .shown, .greeterPrompt none "Password: " .Secret] ++
    emits 100 ++
    [.deliver, .window (.type "secret"), .window .pressReturn, .proceed, .greeterComplete true] ++
    emits 200

def aliceAndBob : List UserInfo := [{ name := "alice" }, { name := "bob" }]

def greeter : Sys :=
  (Sys.init sampleEnv 1 greeter_login_window.samplePrefs aliceAndBob "" .EDIT_INPUT_USER_NAME).1

end session_guard.greeter_login
