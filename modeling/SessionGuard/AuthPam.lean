-- `AuthPam`: PAM authentication in a forked checkpass child. Each function
-- gives the object after the call, and what the call asks of the system and
-- emits, in order.
import SessionGuard.Machine
import SessionGuard.PamMessage

namespace session_guard.auth_pam

open pam_message

/-! ## The object -/

/-- A signal of `AuthBase`. -/
inductive Signal
  | showMessage (text : String) (type : MessageType)
  | showPrompt (text : String) (type : PromptType)
  | authenticationComplete
  deriving DecidableEq

/-- A system call that worked, or a signal. -/
inductive Effect
  | pipe (fds : Nat × Nat)
  | fork (pid : Nat)
  | close (fd : Nat)
  | sendEvent (fd : Nat) (event : PamEvent)
  | kill (pid : Nat)
  | waitpid (pid : Nat)
  | waitpidAny
  | emit (signal : Signal)
  deriving DecidableEq

/-- The fields of `AuthPam`. A pipe is the pair of its read and its write
end, and 0 stands for an end that the object does not own. -/
structure AuthPam where
  m_userName : String := ""
  m_isAuthenticated : Bool := false
  m_inAuthenticating : Bool := false
  /-- Did this authentication emit its completion? -/
  m_hasSendCompleteSignal : Bool := false
  m_authPid : Nat := 0
  m_toParentPipe : Nat × Nat := (0, 0)
  m_toChildPipe : Nat × Nat := (0, 0)
  /-- The descriptor that the socket notifier watches. -/
  m_socketNotifier : Option Nat := none
  deriving DecidableEq

/-- What the kernel answers to `authenticate`: the two pipes, and the pid of
the child. `none` is a call that fails. -/
structure ForkAnswer where
  toParentPipe : Option (Nat × Nat)
  toChildPipe : Option (Nat × Nat)
  forkPid : Option Nat

/-- A kernel that gives two pipes and a child. -/
def forked : ForkAnswer := ⟨some (10, 11), some (12, 13), some 100⟩

namespace AuthPam

def inAuthentication (a : AuthPam) : Bool := a.m_inAuthenticating

def isAuthenticated (a : AuthPam) : Bool := a.m_isAuthenticated

def authenticationUser (a : AuthPam) : String := a.m_userName

/-! ## The functions -/

def cancelAuthentication (a : AuthPam) : AuthPam × List Effect :=
  ({ a with
      m_authPid := 0
      m_isAuthenticated := false
      m_inAuthenticating := false
      m_hasSendCompleteSignal := false
      m_socketNotifier := none
      m_userName := "" },
    (if a.m_authPid ≠ 0 then [.kill a.m_authPid, .waitpid a.m_authPid] else []) ++
    (if a.m_toChildPipe.2 ≠ 0 then [.close a.m_toChildPipe.2] else []) ++
    (if a.m_toParentPipe.1 ≠ 0 then [.close a.m_toParentPipe.1] else []))

/-- The part of `authenticate` after the cancel of a running attempt. -/
def forkChild (a : AuthPam) (userName : String) (k : ForkAnswer) :
    AuthPam × List Effect × Bool :=
  match k.toParentPipe with
  | none => (a, [], false)
  | some toParent =>
    match k.toChildPipe with
    | none => ({ a with m_toParentPipe := toParent }, [.pipe toParent], false)
    | some toChild =>
      match k.forkPid with
      | none =>
        ({ a with m_toParentPipe := toParent, m_toChildPipe := toChild, m_userName := "" },
          [.pipe toParent, .pipe toChild, .close toParent.2, .close toParent.1,
            .close toChild.2, .close toChild.1], false)
      | some pid =>
        ({ a with
            m_userName := userName
            m_inAuthenticating := true
            m_authPid := pid
            m_toParentPipe := (toParent.1, 0)
            m_toChildPipe := (0, toChild.2)
            m_socketNotifier := some toParent.1 },
          [.pipe toParent, .pipe toChild, .fork pid, .close toParent.2, .close toChild.1], true)

/-- The object, the effects and the result of `authenticate`. Only the
cancel of a running attempt resets the flags of the attempt before. -/
def authenticate (a : AuthPam) (userName : String) (k : ForkAnswer) :
    AuthPam × List Effect × Bool :=
  let cancelled := if a.inAuthentication then a.cancelAuthentication else (a, [])
  let forked := cancelled.1.forkChild userName k
  (forked.1, cancelled.2 ++ forked.2.1, forked.2.2)

def respond (a : AuthPam) (response : String) : List Effect :=
  if a.inAuthentication then
    [.sendEvent a.m_toChildPipe.2 (.PromptReplyEvent true response)]
  else []

/-- `waitpid(-1)` may reap any child, and the descriptors keep their numbers
after the close. -/
def handleChildExit (a : AuthPam) : AuthPam × List Effect :=
  ({ a with m_inAuthenticating := false, m_socketNotifier := none },
    [.waitpidAny] ++
    (if a.m_toParentPipe.1 ≠ 0 then [.close a.m_toParentPipe.1] else []) ++
    (if a.m_toChildPipe.2 ≠ 0 then [.close a.m_toChildPipe.2] else []) ++
    (if !a.m_hasSendCompleteSignal then [.emit .authenticationComplete] else []))

/-- `handlePipeActivated`, with the event that
`kiran_pam_message_recv_event` gave, or `none` when it failed. -/
def handlePipeActivated (a : AuthPam) (pamEvent : Option PamEvent) : AuthPam × List Effect :=
  match pamEvent with
  | none => a.handleChildExit
  | some (.ErrorEvent _) => (a, [])
  | some (.PromptRequestEvent secret text) =>
    (a, [.emit (.showPrompt text (if secret then .Secret else .Question))])
  | some (.MessageEvent isError text) =>
    (a, [.emit (.showMessage text (if isError then .Error else .Info))])
  | some (.CompleteEvent _ authResult _) =>
    ({ a with m_hasSendCompleteSignal := true, m_isAuthenticated := authResult },
      [.emit .authenticationComplete])
  | some (.PromptReplyEvent _ _) => (a, [])

/-! ## What `authenticate` leaves -/

theorem forkChild_flags (a : AuthPam) (u : String) (k : ForkAnswer) :
    (a.forkChild u k).1.m_hasSendCompleteSignal = a.m_hasSendCompleteSignal ∧
      (a.forkChild u k).1.m_isAuthenticated = a.m_isAuthenticated := by
  unfold forkChild
  rcases k.toParentPipe with _ | p
  · exact ⟨rfl, rfl⟩
  · rcases k.toChildPipe with _ | c
    · exact ⟨rfl, rfl⟩
    · rcases k.forkPid with _ | pid <;> exact ⟨rfl, rfl⟩

theorem forkChild_notifier (a : AuthPam) (u : String) (k : ForkAnswer)
    (h : (a.forkChild u k).2.2 = true) :
    ∃ fd, (a.forkChild u k).1.m_socketNotifier = some fd := by
  revert h
  unfold forkChild
  rcases k.toParentPipe with _ | p
  · simp
  · rcases k.toChildPipe with _ | c
    · simp
    · rcases k.forkPid with _ | pid
      · simp
      · exact fun _ => ⟨p.1, rfl⟩

/-- `authenticate` clears the flag exactly when it cancels a running attempt. -/
theorem authenticate_hasSendCompleteSignal (a : AuthPam) (u : String) (k : ForkAnswer) :
    (a.authenticate u k).1.m_hasSendCompleteSignal =
      (!a.inAuthentication && a.m_hasSendCompleteSignal) := by
  unfold authenticate
  simp only [(forkChild_flags _ u k).1]
  cases a.inAuthentication <;> rfl

/-- And the same for the result of the attempt before. -/
theorem authenticate_isAuthenticated (a : AuthPam) (u : String) (k : ForkAnswer) :
    (a.authenticate u k).1.m_isAuthenticated = (!a.inAuthentication && a.m_isAuthenticated) := by
  unfold authenticate
  simp only [(forkChild_flags _ u k).2]
  cases a.inAuthentication <;> rfl

theorem authenticate_notifier {a : AuthPam} {u : String} {k : ForkAnswer}
    (h : (a.authenticate u k).2.2 = true) :
    ∃ fd, (a.authenticate u k).1.m_socketNotifier = some fd :=
  forkChild_notifier _ u k h

theorem authenticate_inAuthenticating {a : AuthPam} {u : String} {k : ForkAnswer}
    (h : (a.authenticate u k).2.2 = true) : (a.authenticate u k).1.m_inAuthenticating = true := by
  revert h
  unfold authenticate forkChild
  rcases k.toParentPipe with _ | p
  · simp
  · rcases k.toChildPipe with _ | c
    · simp
    · rcases k.forkPid with _ | pid <;> simp

end AuthPam

/-! ## The object as a machine -/

inductive Event
  | authenticate (userName : String) (k : ForkAnswer)
  | respond (response : String)
  | cancelAuthentication
  /-- The notifier fires, and the read gives an event or fails. -/
  | pipeActivated (pamEvent : Option PamEvent)

/-- One call of a public function, or one activation of the notifier. With
no notifier, the pipe activates nothing. -/
def step : machine.Step AuthPam Event Effect
  | a, .authenticate userName k =>
    some ((a.authenticate userName k).1, (a.authenticate userName k).2.1)
  | a, .respond response => some (a, a.respond response)
  | a, .cancelAuthentication => some a.cancelAuthentication
  | a, .pipeActivated pamEvent =>
    match a.m_socketNotifier with
    | none => none
    | some _ => some (a.handlePipeActivated pamEvent)

/-- The pipe activates an object with a notifier. -/
theorem step_pipeActivated {a : AuthPam} {pamEvent : Option PamEvent} {r : AuthPam × List Effect}
    (h : step a (.pipeActivated pamEvent) = some r) :
    (∃ fd, a.m_socketNotifier = some fd) ∧ a.handlePipeActivated pamEvent = r := by
  unfold step at h
  rcases hn : a.m_socketNotifier with _ | fd
  · simp [hn] at h
  · simp only [hn, Option.some.injEq] at h
    exact ⟨⟨fd, rfl⟩, h⟩

/-- A new object. -/
def fresh : AuthPam := {}

end session_guard.auth_pam
