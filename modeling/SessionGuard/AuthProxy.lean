-- `AuthProxy`: PAM authentication and the authentication service behind one
-- interface. Each function gives the object after the call, and what it
-- calls and emits, in order.
import SessionGuard.AuthMsgQueue
import SessionGuard.Unicode
import Mathlib.Data.List.TakeDrop

namespace session_guard.auth_proxy

open auth_msg_queue unicode

/-! ## The object -/

/-- What other packages fix: the constants of `kiran-pam-msg.h` and
`authentication_i.h`, the encryption, and Base64. -/
structure Env where
  ASK_AUTH_SID : String
  ASK_FACE : String
  ASK_FPINT : String
  REP_FACE : String
  REP_FPINT : String
  AUTH_SERVICE_PROMPT_ECHO_OFF : Int
  AUTH_SERVICE_PROMPT_ECHO_ON : Int
  AUTH_SERVICE_TEXT_INFO : Int
  AUTH_SERVICE_ERROR_MSG : Int
  SESSION_AUTH_METHOD_NONE : BitVec 32
  SESSION_AUTH_METHOD_PASSWORD : BitVec 32
  SESSION_AUTH_METHOD_FINGERPRINT : BitVec 32
  SESSION_AUTH_METHOD_FACE : BitVec 32
  SESSION_AUTH_TYPE_TOGETHER_WITH_USER : Int
  /-- `kiran_authentication_rsa_public_encrypt`, of the text and the key. -/
  rsaPublicEncrypt : List UInt8 → List UInt8 → List UInt8
  toBase64 : List UInt8 → String
  fromBase64 : String → List UInt8

/-- Constants and functions that tell all cases apart. -/
def sampleEnv : Env where
  ASK_AUTH_SID := "ReqAuthSid"
  ASK_FACE := "ReqFace"
  ASK_FPINT := "ReqFingerPrint"
  REP_FACE := "RepFace"
  REP_FPINT := "RepFingerPrint"
  AUTH_SERVICE_PROMPT_ECHO_OFF := 1
  AUTH_SERVICE_PROMPT_ECHO_ON := 2
  AUTH_SERVICE_ERROR_MSG := 3
  AUTH_SERVICE_TEXT_INFO := 4
  SESSION_AUTH_METHOD_NONE := 0
  SESSION_AUTH_METHOD_PASSWORD := 1
  SESSION_AUTH_METHOD_FINGERPRINT := 2
  SESSION_AUTH_METHOD_FACE := 4
  SESSION_AUTH_TYPE_TOGETHER_WITH_USER := 2
  rsaPublicEncrypt := fun text _ => text
  toBase64 := fun _ => "Base64"
  fromBase64 := fun _ => []

/-- A call on the authentication interface, on the message queue or on the
authentication service, or a signal. -/
inductive Effect
  | authAuthenticate (username : String)
  | authRespond (response : String)
  | authCancel
  | stopDispatcher
  | startDispatcher
  | append (msg : AuthMsg)
  /-- `CreateAuth`, with the session id and the Base64 key that it returns,
  or `none` for an error. -/
  | createAuth (reply : Option (String × String))
  | startAuth (userName authSessionID : String) (authType : Int)
  | stopAuth (authSessionID : String)
  | rsaPublicEncrypt (text key : List UInt8)
  | responseMessage (text authSessionID : String)
  | authTypeChanged (authType : AuthType)
  | showMessage (text : String) (type : MessageType)
  | showPrompt (text : String) (type : PromptType)
  | authenticationComplete (authRes : Bool)
  deriving DecidableEq

/-- The fields of `AuthProxy`. Of the queue it keeps only whether it has one. -/
structure AuthProxy where
  m_authMessageQueue : Bool
  m_promptFrom : PromptFrom := .PAM
  m_haveErrorMsg : Bool := false
  m_authSessionID : String := ""
  m_authPublicKey : List UInt8 := []
  m_sessionAuthType : Int
  deriving DecidableEq

/-- A new object, with or without a queue. -/
def AuthProxy.fresh (env : Env) (msgQueue : Bool) : AuthProxy where
  m_authMessageQueue := msgQueue
  m_sessionAuthType := env.SESSION_AUTH_TYPE_TOGETHER_WITH_USER

namespace AuthProxy

variable (env : Env) (p : AuthProxy)

/-! ## The public functions -/

def authenticate (username : String) : AuthProxy × List Effect :=
  ({ p with m_haveErrorMsg := false },
    (if p.m_authMessageQueue then [.stopDispatcher, .startDispatcher] else []) ++
      [.authAuthenticate username])

/-- The plaintext that `respond` hands to the encryption: `length()` bytes of
the UTF-8 text. -/
def plaintext (response : String) : List UInt8 := (utf8 response).take (utf16Length response)

def respond (response : String) : List Effect :=
  if p.m_promptFrom = .AUTH_SERVICE then
    [.rsaPublicEncrypt (plaintext response) p.m_authPublicKey,
      .responseMessage (env.toBase64 (env.rsaPublicEncrypt (plaintext response) p.m_authPublicKey))
        p.m_authSessionID]
  else [.authRespond response]

/-- `stopAuthSession(m_authSessionID)`. A `StopAuth` that fails is only
logged. -/
def stopAuthSession : AuthProxy × List Effect :=
  if p.m_authSessionID.isEmpty then (p, [])
  else ({ p with m_authSessionID := "" }, [.stopAuth p.m_authSessionID])

def cancelAuthentication : AuthProxy × List Effect :=
  let stopped := p.stopAuthSession
  (stopped.1,
    [.authCancel] ++ (if p.m_authMessageQueue then [.stopDispatcher] else []) ++ stopped.2)

/-- `~AuthProxy`. -/
def destroy : List Effect := [.authCancel]

/-! ## The signals of the PAM interface -/

/-- `handlePamAuthComplete`, where `isAuthenticated` is what the PAM
interface says. -/
def handlePamAuthComplete (isAuthenticated : Bool) : AuthProxy × List Effect :=
  let stopped := p.stopAuthSession
  let authResultDesc :=
    if !isAuthenticated && !p.m_haveErrorMsg then "Failed to authenticate" else ""
  if p.m_authMessageQueue then
    (stopped.1, stopped.2 ++
      (if authResultDesc.isEmpty then [] else [.append (.message .Error authResultDesc)]) ++
      [.append (.complete isAuthenticated)])
  else
    let again := stopped.1.stopAuthSession
    (again.1, stopped.2 ++ again.2 ++
      (if authResultDesc.isEmpty then [] else [.showMessage authResultDesc .Error]) ++
      [.authenticationComplete isAuthenticated])

/-- `handlePamAuthShowPrompt`, where `user` is what `authenticationUser`
gives and `reply` is what `CreateAuth` returns, if it is called. A `StartAuth`
that fails is only logged. -/
def handlePamAuthShowPrompt (user : String) (reply : Option (String × String)) (text : String)
    (type : PromptType) : AuthProxy × List Effect :=
  if text = env.ASK_AUTH_SID then
    match reply with
    | none => (p, [.createAuth none, .authRespond ""])
    | some (authSessionID, authPublicKey) =>
      ({ p with
          m_authSessionID := authSessionID
          m_authPublicKey := env.fromBase64 authPublicKey },
        [.createAuth reply, .authRespond authSessionID,
          .startAuth user authSessionID p.m_sessionAuthType])
  else if text = env.ASK_FACE then
    (p, [.authTypeChanged AUTH_TYPE_FACE, .authRespond env.REP_FACE])
  else if text = env.ASK_FPINT then
    (p, [.authTypeChanged AUTH_TYPE_FINGER, .authRespond env.REP_FPINT])
  else if p.m_authMessageQueue then (p, [.append (.prompt .PAM type text)])
  else ({ p with m_promptFrom := .PAM }, [.showPrompt text type])

def handlePamAuthShowMessage (text : String) (type : MessageType) : List Effect :=
  if p.m_authMessageQueue then [.append (.message type text)] else [.showMessage text type]

/-! ## The signals of the authentication service -/

def handleAuthServiceAuthMessages (msg : String) (type : Int) (sid : String) :
    AuthProxy × List Effect :=
  if sid ≠ p.m_authSessionID then (p, [])
  else if type = env.AUTH_SERVICE_PROMPT_ECHO_OFF ∨ type = env.AUTH_SERVICE_PROMPT_ECHO_ON then
    let promptType : PromptType :=
      if type = env.AUTH_SERVICE_PROMPT_ECHO_ON then .Question else .Secret
    if p.m_authMessageQueue then (p, [.append (.prompt .AUTH_SERVICE promptType msg)])
    else ({ p with m_promptFrom := .AUTH_SERVICE }, [.showPrompt msg promptType])
  else if type = env.AUTH_SERVICE_TEXT_INFO ∨ type = env.AUTH_SERVICE_ERROR_MSG then
    let messageType : MessageType := if type = env.AUTH_SERVICE_TEXT_INFO then .Info else .Error
    if p.m_authMessageQueue then (p, [.append (.message messageType msg)])
    else (p, [.showMessage msg messageType])
  else (p, [])

/-- `AuthTypeTransMap`, with no descriptions. -/
def AuthTypeTransMap : List (BitVec 32 × AuthType) :=
  [(env.SESSION_AUTH_METHOD_PASSWORD, AUTH_TYPE_PASSWD),
    (env.SESSION_AUTH_METHOD_FINGERPRINT, AUTH_TYPE_FINGER),
    (env.SESSION_AUTH_METHOD_FACE, AUTH_TYPE_FACE)]

/-- `handleAuthServiceAuthMethodChanged`, where `authType` is what its local
variable, which nothing initialises, holds at first. -/
def handleAuthServiceAuthMethodChanged (authType : AuthType) (method : BitVec 32)
    (sid : String) : List Effect :=
  if sid ≠ p.m_authSessionID then []
  else if method = env.SESSION_AUTH_METHOD_NONE then []
  else
    [.authTypeChanged ((AuthTypeTransMap env).foldl
      (fun authType iter => if method &&& iter.1 ≠ 0 then iter.2 ||| authType else authType)
      authType)]

/-! ## The signals of the queue -/

def handleAuthQueueShowMessage (text : String) (type : MessageType) : List Effect :=
  [.showMessage text type]

def handleAuthQueueShowPrompt (text : String) (type : PromptType) (promptFrom : PromptFrom) :
    AuthProxy × List Effect :=
  ({ p with m_promptFrom := promptFrom }, [.showPrompt text type])

def handleAuthQueueComplete (authRes : Bool) : AuthProxy × List Effect :=
  let stopped := p.stopAuthSession
  (stopped.1, stopped.2 ++ [.authenticationComplete authRes])

/-- The slot that the signal for a message of the queue calls. -/
def handleAuthQueue : AuthMsg → AuthProxy × List Effect
  | .prompt promptFrom promptType msg => p.handleAuthQueueShowPrompt msg promptType promptFrom
  | .message messageType msg => (p, handleAuthQueueShowMessage msg messageType)
  | .complete authRes => p.handleAuthQueueComplete authRes

end AuthProxy

/-! ## What is encrypted -/

/-- All bytes of an ASCII text are encrypted, and of any other text a part of them. -/
theorem plaintext_eq_iff (response : String) :
    AuthProxy.plaintext response = utf8 response ↔ IsAscii response := by
  rw [AuthProxy.plaintext, List.take_eq_self_iff, utf8_length_le_iff]

/-! ## The end of a session -/

theorem stopAuthSession_cases (p : AuthProxy) :
    p.stopAuthSession = (p, []) ∨
      p.stopAuthSession = ({ p with m_authSessionID := "" }, [.stopAuth p.m_authSessionID]) := by
  unfold AuthProxy.stopAuthSession
  split_ifs
  · exact Or.inl rfl
  · exact Or.inr rfl

theorem stopAuthSession_sid (p : AuthProxy) : p.stopAuthSession.1.m_authSessionID = "" := by
  unfold AuthProxy.stopAuthSession
  split_ifs with hsid
  · simpa using hsid
  · rfl

@[simp] theorem stopAuthSession_hasQueue (p : AuthProxy) :
    p.stopAuthSession.1.m_authMessageQueue = p.m_authMessageQueue := by
  rcases stopAuthSession_cases p with h | h <;> rw [h]

@[simp] theorem stopAuthSession_promptFrom (p : AuthProxy) :
    p.stopAuthSession.1.m_promptFrom = p.m_promptFrom := by
  rcases stopAuthSession_cases p with h | h <;> rw [h]

/-- A second `stopAuthSession` does nothing. -/
theorem stopAuthSession_twice (p : AuthProxy) :
    p.stopAuthSession.1.stopAuthSession = (p.stopAuthSession.1, []) := by
  rw [AuthProxy.stopAuthSession, if_pos (by simp [stopAuthSession_sid p])]

end session_guard.auth_proxy
