-- The lock screen as one system: `ScreenSaverDialog` with its prompt edit,
-- `AuthProxy` with its message queue and dispatcher thread, `AuthPam`, the
-- checkpass child, and the two pipes between them.
import SessionGuard.AuthRuns
import SessionGuard.AuthPam
import SessionGuard.Checkpass
import SessionGuard.PromptEdit

open machine

namespace session_guard.lock_screen

open pam_message auth_pam auth_msg_queue auth_proxy checkpass prompt_edit

/-! ## The dialog -/

/-- The fields of `ScreenSaverDialog` that the authentication reads or sets. -/
structure ScreenSaverDialog where
  m_userName : String
  m_havePrompt : Bool := false
  m_authType : AuthType := AUTH_TYPE_PASSWD
  promptEdit : PromptEdit
  btn_reAuth_visible : Bool
  label_tips : String := ""
  deriving DecidableEq

namespace ScreenSaverDialog

variable (d : ScreenSaverDialog)

def slotShowPrompt (text : String) (promptType : PromptType) : ScreenSaverDialog :=
  { d with
    m_havePrompt := true
    promptEdit := (d.promptEdit.reset.setPlaceHolderText text).setEchoMode
      (if promptType = .Question then .Normal else .Password) }

def slotShowMessage (text : String) : ScreenSaverDialog :=
  { d with label_tips := "<font color=white>" ++ text ++ "</font>" }

/-- `updateCurrentAuthType(AUTH_TYPE_PASSWD)`, the one call of it. -/
def updateCurrentAuthType : ScreenSaverDialog :=
  { d with promptEdit := d.promptEdit.setVisible true, m_authType := AUTH_TYPE_PASSWD }

def switchToReauthentication : ScreenSaverDialog :=
  { d with promptEdit := d.promptEdit.setVisible false, btn_reAuth_visible := true }

def switchToPromptEdit : ScreenSaverDialog :=
  { d with btn_reAuth_visible := false, promptEdit := d.promptEdit.setVisible true }

/-- The user has done it: `slotAuthenticationComplete(true)`. -/
def succeed : ScreenSaverDialog :=
  { d with promptEdit := d.promptEdit.reset.setHasError false }

end ScreenSaverDialog

/-! ## The system -/

/-- What the laws remember about a message in the queue: the attempt in which
it was appended, and the number of the PAM prompt that it shows. -/
structure Note where
  attempt : Nat
  index : Nat
  deriving DecidableEq

/-- Where a reply in the pipe comes from: `AuthProxy` answered the PAM prompt
of this number itself, or the user answered when the PAM prompt of this number
was the last one shown. -/
inductive Origin
  | auto (index : Nat)
  | user (shown : Nat)
  deriving DecidableEq

/-- The past of the current attempt: the time since the latest `authenticate`. -/
structure History where
  attempt : Nat := 0
  /-- How many prompts the child has sent. -/
  sent : Nat := 0
  /-- How many of them the parent has read. -/
  heard : Nat := 0
  /-- The number of the last PAM prompt that was shown. -/
  shown : Nat := 0
  /-- `AuthPam` has emitted its completion. -/
  ended : Bool := false
  /-- What `pam_authenticate` returned in the child. -/
  pamResult : Option Int := none
  /-- The `auth_result` of the Complete frame that the child sent. -/
  completeSent : Option Bool := none
  deriving DecidableEq

/-- A frame in the pipe to the parent, or `none` for one that the receive
turns away. -/
abbrev Frame := Option PamEvent

structure Sys where
  dialog : ScreenSaverDialog
  proxy : AuthProxy
  queue : Dispatch Note
  pam : AuthPam := {}
  child : Child := {}
  childAlive : Bool := false
  toParent : List Frame := []
  toChild : List (PamEvent × Origin) := []
  history : History := {}

/-- What the dialog calls on the screensaver. -/
inductive Output
  | authenticationPassed
  deriving DecidableEq

variable (env : Env)

/-! ## What the effects do -/

/-- A system call of `AuthPam`: `fork` starts a new child on new pipes. -/
def Sys.system (s : Sys) : auth_pam.Effect → Sys
  | .fork _ => { s with child := {}, childAlive := true, toParent := [], toChild := [] }
  | .kill _ => { s with childAlive := false }
  | _ => s

/-- `AuthPam::authenticate`, which begins a new attempt. -/
def Sys.pamAuthenticate (s : Sys) (userName : String) (k : ForkAnswer) : Sys :=
  let r := s.pam.authenticate userName k
  r.2.1.foldl Sys.system
    { s with
      pam := r.1
      childAlive := false
      toParent := []
      toChild := []
      history := { attempt := s.history.attempt + 1 } }

/-- `AuthPam::cancelAuthentication`. -/
def Sys.pamCancel (s : Sys) : Sys :=
  s.pam.cancelAuthentication.2.foldl Sys.system { s with pam := s.pam.cancelAuthentication.1 }

/-- `AuthPam::respond`. -/
def Sys.pamRespond (s : Sys) (response : String) (origin : Origin) : Sys :=
  { s with
    toChild := s.toChild ++ (s.pam.respond response).filterMap fun
      | .sendEvent _ event => some (event, origin)
      | _ => none }

/-- An effect of `AuthProxy`. Its completion is left to `Sys.dispatch`. -/
def Sys.effect (k : ForkAnswer) (origin : Origin) (note : Note) (s : Sys) :
    auth_proxy.Effect → Sys
  | .authAuthenticate username => s.pamAuthenticate username k
  | .authRespond response => s.pamRespond response origin
  | .authCancel => s.pamCancel
  | .stopDispatcher => { s with queue := s.queue.call [.stop] }
  | .startDispatcher => { s with queue := s.queue.call [.start] }
  | .append msg => { s with queue := s.queue.call (append ⟨msg, note⟩) }
  | .showPrompt text type => { s with dialog := s.dialog.slotShowPrompt text type }
  | .showMessage text _ => { s with dialog := s.dialog.slotShowMessage text }
  | _ => s

/-- What a function of `AuthProxy` does to the system. -/
def Sys.proxyCall (s : Sys) (k : ForkAnswer) (origin : Origin) (note : Note)
    (r : AuthProxy × List auth_proxy.Effect) : Sys :=
  r.2.foldl (Sys.effect k origin note) { s with proxy := r.1 }

/-- What `respond` and `append` are told about the attempt. -/
def Sys.userOrigin (s : Sys) : Origin := .user s.history.shown

def Sys.note (s : Sys) : Note := ⟨s.history.attempt, s.history.heard⟩

/-- `AuthProxy::authenticate` and `AuthProxy::cancelAuthentication`, as the
dialog calls them. -/
def Sys.authenticate (s : Sys) (username : String) (k : ForkAnswer) : Sys :=
  s.proxyCall k s.userOrigin s.note (s.proxy.authenticate username)

def Sys.cancelAuthentication (s : Sys) (k : ForkAnswer) : Sys :=
  s.proxyCall k s.userOrigin s.note s.proxy.cancelAuthentication

/-- `startAuth`. -/
def Sys.startAuth (s : Sys) (k : ForkAnswer) : Sys :=
  let s1 := { s with dialog := { s.dialog.updateCurrentAuthType with m_havePrompt := false } }
  let s2 := if s1.pam.inAuthentication then s1.cancelAuthentication k else s1
  let s3 := s2.authenticate s2.dialog.m_userName k
  { s3 with dialog := s3.dialog.switchToPromptEdit }

/-- `slotAuthenticationComplete`. -/
def Sys.slotAuthenticationComplete (s : Sys) (k : ForkAnswer) (authRes : Bool) :
    Sys × List Output :=
  if !authRes then
    if !s.dialog.m_havePrompt then
      ({ s with dialog := s.dialog.switchToReauthentication }, [])
    else (s.startAuth k, [])
  else ({ s with dialog := s.dialog.succeed }, [.authenticationPassed])

def completion : auth_proxy.Effect → Option Bool
  | .authenticationComplete authRes => some authRes
  | _ => none

/-- What a signal handler of `AuthProxy` does to the system, with the slot of
the dialog when it ends with a completion. -/
def Sys.dispatch (s : Sys) (k : ForkAnswer) (origin : Origin) (note : Note)
    (r : AuthProxy × List auth_proxy.Effect) : Sys × List Output :=
  let s1 := s.proxyCall k origin note r
  match r.2.findSome? completion with
  | none => (s1, [])
  | some authRes => s1.slotAuthenticationComplete k authRes

/-! ## The events -/

/-- A step of the child. -/
inductive ChildEvent
  /-- A step that reads nothing. -/
  | act (act : Act)
  /-- The receive of a reply, or the end of the pipe. -/
  | recv
  /-- The child dies. -/
  | die
  /-- A broken frame gets into the pipe. -/
  | garbage

inductive Event
  | type (text : String)
  | pressReturn
  | clickButton
  | clickReAuth (k : ForkAnswer)
  /-- The notifier of the pipe fires, and `reply` is what `CreateAuth` returns if
  it is called. -/
  | pipeActivated (k : ForkAnswer) (reply : Option (String × String))
  | serviceMessages (k : ForkAnswer) (msg : String) (type : Int) (sid : String)
  | serviceMethod (k : ForkAnswer) (authType : AuthType) (method : BitVec 32) (sid : String)
  /-- The event loop delivers a signal of the queue. -/
  | deliver (k : ForkAnswer)
  | cancelAuthentication (k : ForkAnswer)
  | thread (t : Thread)
  | child (e : ChildEvent)

/-- The user confirms: the dialog responds with the text. -/
def Sys.confirm (s : Sys) (r : PromptEdit × Option String) : Sys :=
  let s1 := { s with dialog := { s.dialog with promptEdit := r.1 } }
  match r.2 with
  | none => s1
  | some text =>
    -- the fork answer is not asked for
    s1.proxyCall ⟨none, none, none⟩ s1.userOrigin s1.note
      (s1.proxy, s1.proxy.respond env text)

/-- The prompt of the child that the parent reads is the next one. -/
def Sys.hear (s : Sys) : Frame → Sys
  | some (.PromptRequestEvent _ _) =>
    { s with history := { s.history with heard := s.history.heard + 1 } }
  | _ => s

/-- The user is about to see the message. -/
def Sys.see (s : Sys) (e : Entry Note) : Sys :=
  match e.msg with
  | .prompt .PAM _ _ =>
    if e.note.attempt = s.history.attempt then
      { s with history := { s.history with shown := e.note.index } }
    else s
  | _ => s

def emittedSignal : auth_pam.Effect → Option Signal
  | .emit signal => some signal
  | _ => none

/-- `AuthPam::handlePipeActivated` with the slot of `AuthProxy` for its
signal. -/
def Sys.handleFrame (env : Env) (s : Sys) (k : ForkAnswer) (reply : Option (String × String))
    (f : Frame) : Sys × List Output :=
  let r := s.pam.handlePipeActivated f
  let s1 := { s.hear f with pam := r.1 }
  match r.2.findSome? emittedSignal with
  | none => (s1, [])
  | some (.showMessage text type) =>
    s1.dispatch k (.auto s1.history.heard) s1.note
      (s1.proxy, s1.proxy.handlePamAuthShowMessage text type)
  | some (.showPrompt text type) =>
    s1.dispatch k (.auto s1.history.heard) s1.note
      (s1.proxy.handlePamAuthShowPrompt env s1.pam.authenticationUser reply text type)
  | some .authenticationComplete =>
    let s2 := { s1 with history := { s1.history with ended := true } }
    s2.dispatch k (.auto s2.history.heard) s2.note
      (s2.proxy.handlePamAuthComplete s2.pam.isAuthenticated)

/-- What `kiran_pam_message_recv_event` takes from the pipe: a frame, or the
end when the child is gone and the pipe is empty. -/
def Sys.readPipe (s : Sys) : Option (Frame × Sys) :=
  match s.pam.m_socketNotifier, s.toParent with
  | none, _ => none
  | some _, f :: fs => some (f, { s with toParent := fs })
  | some _, [] => if s.childAlive then none else some (none, s)

/-- The child has sent these events. -/
def History.sends (h : History) (events : List PamEvent) : History :=
  events.foldl (fun h event =>
    match event with
    | .PromptRequestEvent _ _ => { h with sent := h.sent + 1 }
    | .CompleteEvent _ authResult _ => { h with completeSent := some authResult }
    | _ => h) h

/-- The child has done this. -/
def History.acts (h : History) : Act → History
  | .finish authRes _ _ => { h with pamResult := some authRes }
  | _ => h

/-- The child has not exited. -/
def lives (c : Child) : Bool :=
  match c.pc with
  | .exit => false
  | _ => true

/-- The child takes a step, and goes away when it exits. -/
def Sys.childAct (s : Sys) (act : Act) : Option Sys :=
  (s.child.step act).map fun (child, events) =>
    { s with
      child := child
      childAlive := lives child
      toParent := s.toParent ++ events.map some
      history := (s.history.acts act).sends events }

/-- A step of the child. The end of the pipe to the child comes when the
parent has closed it. -/
def Sys.childStep (s : Sys) : ChildEvent → Option Sys
  | .act act =>
    match act with
    | .recv _ => none
    | act => s.childAct act
  | .recv =>
    match s.toChild with
    | (event, _) :: rest => { s with toChild := rest }.childAct (.recv (some event))
    | [] => if s.pam.inAuthentication then none else s.childAct (.recv none)
  | .die => some { s with childAlive := false }
  | .garbage => some { s with toParent := s.toParent ++ [none] }

/-- An event of the main thread. -/
def Sys.mainStep (s : Sys) : Event → Option (Sys × List Output)
  | .type text =>
    (s.dialog.promptEdit.type text).map fun e =>
      ({ s with dialog := { s.dialog with promptEdit := e } }, [])
  | .pressReturn => s.dialog.promptEdit.pressReturn.map fun r => (s.confirm env r, [])
  | .clickButton => s.dialog.promptEdit.click.map fun r => (s.confirm env r, [])
  | .clickReAuth k => if s.dialog.btn_reAuth_visible then some (s.startAuth k, []) else none
  | .pipeActivated k reply => s.readPipe.map fun (f, s1) => s1.handleFrame env k reply f
  | .serviceMessages k msg type sid =>
    some (s.dispatch k s.userOrigin s.note
      (s.proxy.handleAuthServiceAuthMessages env msg type sid))
  | .serviceMethod k authType method sid =>
    some (s.dispatch k s.userOrigin s.note
      (s.proxy, s.proxy.handleAuthServiceAuthMethodChanged env authType method sid))
  | .deliver k =>
    s.queue.deliver.map fun (e, queue) =>
      let s1 := Sys.see { s with queue := queue } e
      s1.dispatch k s1.userOrigin s1.note (s1.proxy.handleAuthQueue e.msg)
  | .cancelAuthentication k => some (s.cancelAuthentication k, [])
  | _ => none

/-- The main thread takes an event only in its event loop. The threads of the
queue and the child go on at any time. -/
def step : Step Sys Event Output
  | s, .thread t => (s.queue.step t).map fun queue => ({ s with queue := queue }, [])
  | s, .child e => if s.childAlive then (s.childStep e).map (·, []) else none
  | s, e => if s.queue.AtLoop then s.mainStep env e else none

/-- The dialog after `initAuth` and `initUI`. -/
def Sys.fresh (m_userName : String) : Sys where
  dialog :=
    { m_userName := m_userName
      promptEdit := ({} : PromptEdit).setEnabled false
      btn_reAuth_visible := true }
  proxy := .fresh env true
  queue := { ops := [.start] }

/-- The dialog after its constructor. -/
def Sys.init (m_userName : String) (k : ForkAnswer) : Sys := (Sys.fresh env m_userName).startAuth k

/-! ## Pieces of runs -/

/-- The main thread gets through the functions of the queue that the constructor
calls, back to its event loop. -/
def startUp : List Event :=
  [.thread .main, .thread .main, .thread .main, .thread (.worker .check)] ++
    List.replicate 12 (.thread .main)

/-- The child asks PAM for these messages. -/
def asks (msgs : List Msg) : List Event :=
  [.child (.act (.pamStart true)), .child (.act (.call msgs))]

/-- The child sends its message, and the user is shown it. -/
def showsNext : List Event :=
  [.child (.act (.send true)), .pipeActivated forked none, .thread .main, .thread .main,
    .thread (.worker .check), .thread (.worker .acquire), .thread (.worker .dequeue),
    .thread (.worker (.readClock 100)), .thread (.worker (.readClock 100)),
    .thread (.worker .emit), .deliver forked]

def askPassword : Msg := ⟨.PAM_PROMPT_ECHO_OFF, "Password: "⟩

def askCode : Msg := ⟨.PAM_PROMPT_ECHO_OFF, "Code: "⟩

end session_guard.lock_screen
