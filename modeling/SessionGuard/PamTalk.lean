-- `AuthPam` and its checkpass child, over the two pipes between them. PAM
-- makes the calls of a script, and the user answers each prompt once. When the
-- talk has come to its end, the parent has seen what PAM said, and PAM has
-- got what the user said.
import SessionGuard.AuthPam
import SessionGuard.Checkpass

open machine

namespace session_guard.pam_talk

open pam_message auth_pam checkpass unicode

/-! ## The talk -/

/-- The calls of `conversation` that the PAM stack makes, what
`pam_authenticate` then returns, and the reply to each prompt. -/
structure Script where
  calls : List (List Msg)
  authRes : Int
  authResultString : String
  replies : Nat → String

/-- The two processes, the frames in the pipes, the calls that PAM has still to
make, the signals of the parent, and how many prompts were answered. -/
structure Talk where
  pam : AuthPam
  child : Child := {}
  calls : List (List Msg)
  toParent : List JsonDocument := []
  toChild : List JsonDocument := []
  signals : List Signal := []
  answered : Nat := 0

inductive TalkEvent
  /-- The child goes on. -/
  | child
  /-- The parent reads a frame. -/
  | frame
  /-- The parent reads the end of the pipe. -/
  | eof
  /-- The user answers the first prompt that has no answer. -/
  | respond

/-- The frames that the effects write to the child. -/
def written : List auth_pam.Effect → List JsonDocument :=
  List.filterMap fun
    | .sendEvent _ event => some (kiranPamMessageSendEvent event)
    | _ => none

/-- The signals that the effects emit. -/
def emitted : List auth_pam.Effect → List Signal :=
  List.filterMap fun
    | .emit signal => some signal
    | _ => none

def isPrompt : Signal → Bool
  | .showPrompt _ _ => true
  | _ => false

def hasExited : Pc → Bool
  | .exit => true
  | _ => false

variable (k : Script)

/-- What the child does next, with the frames that it takes from the pipe and
the calls that PAM takes from the script. -/
def childAct (t : Talk) : Option (Act × List JsonDocument × List (List Msg)) :=
  match t.child.pc with
  | .start => some (.pamStart true, t.toChild, t.calls)
  | .stack =>
    match t.calls with
    | [] => some (.finish k.authRes true k.authResultString, t.toChild, [])
    | msgs :: calls => some (.call msgs, t.toChild, calls)
  | .conv v =>
    match v.rest with
    | [] => some (.ret, t.toChild, t.calls)
    | m :: _ => some (if m.event.isSome then .send true else .skip, t.toChild, t.calls)
  | .waiting _ =>
    match t.toChild with
    | [] => none
    | doc :: docs => some (.recv (kiranPamMessageRecvEvent doc), docs, t.calls)
  | .exit => none

/-- The parent handles what it read. -/
def hear (t : Talk) (pamEvent : Option PamEvent) : Talk × List Signal :=
  let r := t.pam.handlePipeActivated pamEvent
  ({ t with pam := r.1, signals := t.signals ++ emitted r.2 }, emitted r.2)

def talkStep : Step Talk TalkEvent Signal
  | t, .child =>
    match childAct k t with
    | none => none
    | some (act, toChild, calls) =>
      (t.child.step act).map fun (child, events) =>
        ({ t with
          child := child
          calls := calls
          toChild := toChild
          toParent := t.toParent ++ events.map kiranPamMessageSendEvent }, [])
  | t, .frame =>
    match t.pam.m_socketNotifier, t.toParent with
    | some _, doc :: docs => some (hear { t with toParent := docs } (kiranPamMessageRecvEvent doc))
    | _, _ => none
  | t, .eof =>
    match t.pam.m_socketNotifier, t.toParent with
    | some _, [] => if hasExited t.child.pc then some (hear t none) else none
    | _, _ => none
  | t, .respond =>
    if t.answered < t.signals.countP isPrompt then
      some ({ t with
        toChild := t.toChild ++ written (t.pam.respond (k.replies t.answered))
        answered := t.answered + 1 }, [])
    else none

/-- The start of the talk, right after `authenticate`. -/
def Talk.start (a : AuthPam) : Talk where
  pam := a
  calls := k.calls

/-! ## What the talk is for -/

/-- The signal that a PAM message is to cause. -/
def said (m : Msg) : Option Signal :=
  match m.msg_style with
  | .PAM_PROMPT_ECHO_OFF => some (.showPrompt m.msg .Secret)
  | .PAM_PROMPT_ECHO_ON => some (.showPrompt m.msg .Question)
  | .PAM_ERROR_MSG => some (.showMessage m.msg .Error)
  | .PAM_TEXT_INFO => some (.showMessage m.msg .Info)
  | .other => none

/-- How many of the messages are prompts. -/
def prompts (msgs : List Msg) : Nat := msgs.countP Msg.isPrompt

/-- The bytes and the NUL after them stand in the block. -/
def Holds (b : Block) (bytes : List UInt8) : Prop :=
  b.bytes = bytes ++ [0] ∧ b.bytes.length ≤ b.size

/-- The responses to the messages of one call, where `n` prompts came before:
each prompt has got its reply, and no other message has a response. -/
def Answered (n : Nat) : List Msg → List PamResponse → Prop
  | [], [] => True
  | m :: ms, r :: rs =>
    if m.isPrompt then
      (∃ b, r.resp = some b ∧ Holds b (utf8 (k.replies n))) ∧ Answered (n + 1) ms rs
    else r.resp = none ∧ Answered n ms rs
  | _, _ => False

/-- Each call returned `PAM_SUCCESS` with the replies. -/
def AllAnswered (n : Nat) : List (List Msg) → List Return → Prop
  | [], [] => True
  | c :: cs, r :: rs =>
    r.ret = PAM_SUCCESS ∧ Answered k n c r.resp ∧ AllAnswered (n + prompts c) cs rs
  | _, _ => False

/-- The parent has emitted what PAM said and one completion, PAM has got what
the user said, and the result is the result of `pam_authenticate`. -/
def Transparent (t : Talk) : Prop :=
  t.signals = k.calls.flatten.filterMap said ++ [.authenticationComplete] ∧
    AllAnswered k 0 k.calls t.child.returns ∧
    t.pam.isAuthenticated = decide (k.authRes = PAM_SUCCESS)

end session_guard.pam_talk
