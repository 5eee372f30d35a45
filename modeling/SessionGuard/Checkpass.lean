-- The checkpass child (`session-guard-checkpass/main.cpp`): it runs the PAM
-- stack, and its conversation function sends each PAM message to the parent
-- and waits for the reply to each prompt.
import SessionGuard.PamMessage
import SessionGuard.Unicode

namespace session_guard.checkpass

open pam_message unicode

/-! ## What PAM passes -/

def PAM_SUCCESS : Int := 0

def PAM_CONV_ERR : Int := 19

inductive MsgStyle
  | PAM_PROMPT_ECHO_OFF
  | PAM_PROMPT_ECHO_ON
  | PAM_ERROR_MSG
  | PAM_TEXT_INFO
  | other
  deriving DecidableEq

/-- A `pam_message`. -/
structure Msg where
  msg_style : MsgStyle
  msg : String
  deriving DecidableEq

def Msg.isPrompt (m : Msg) : Bool :=
  m.msg_style = .PAM_PROMPT_ECHO_OFF || m.msg_style = .PAM_PROMPT_ECHO_ON

/-- The event that `conversation` sends for a message. -/
def Msg.event (m : Msg) : Option PamEvent :=
  match m.msg_style with
  | .PAM_PROMPT_ECHO_OFF => some (.PromptRequestEvent true m.msg)
  | .PAM_PROMPT_ECHO_ON => some (.PromptRequestEvent false m.msg)
  | .PAM_ERROR_MSG => some (.MessageEvent true m.msg)
  | .PAM_TEXT_INFO => some (.MessageEvent false m.msg)
  | .other => none

/-- A block on the heap: its size, and the bytes that `strcpy` put at its
start, which may be more than fit in. -/
structure Block where
  size : Nat
  bytes : List UInt8
  deriving DecidableEq

/-- A `pam_response`. -/
structure PamResponse where
  resp : Option Block
  resp_retcode : Int
  deriving DecidableEq

/-- An entry as `calloc` leaves it. -/
def PamResponse.zero : PamResponse := ⟨none, 0⟩

/-- A block that a call of `conversation` allocates: `reply`, or `reply[i].resp`. -/
inductive HeapBlock
  | reply
  | resp (i : Nat)
  deriving DecidableEq

/-- What the call of `conversation` does on the heap. A reply's string goes by
the index of its message. -/
inductive HeapOp
  | callocReply (num_msg : Nat)
  | callocResp (i size : Nat)
  | freeResp (i : Nat)
  | freeReply
  deriving DecidableEq

/-! ## The conversation function -/

/-- A running call of `conversation`: the entries of `reply` before the
current message, and the messages from the current one on. The other entries
are as `calloc` left them. -/
structure Conv where
  done : List PamResponse := []
  rest : List Msg
  heap : List HeapOp

/-- What a call of `conversation` returned: its result, where `*resp` points (`none` for a null
pointer), the entries of `reply`, and what it did on the heap. -/
structure Return where
  ret : Int
  target : Option HeapBlock
  resp : List PamResponse
  heap : List HeapOp
  deriving DecidableEq

namespace Conv

/-- The whole of `reply`. -/
def reply (c : Conv) : List PamResponse := c.done ++ c.rest.map fun _ => .zero

/-- The loop ends with no error, and then `*resp = reply`. -/
def success (c : Conv) : Return := ⟨PAM_SUCCESS, some .reply, c.reply, c.heap⟩

/-- The current message fails. The loop over `j` looks at `reply[i]`, the
entry of the current message, each time. After `free(reply)` the pointer is as
before, and the call gets to the same `*resp = reply`. -/
def failure (c : Conv) : Return :=
  let i := c.done.length
  let frees := (List.range (i + 1)).flatMap fun _ =>
    if PamResponse.zero.resp.isSome then [HeapOp.freeResp i] else []
  ⟨PAM_CONV_ERR, some .reply, c.reply, c.heap ++ frees ++ [.freeReply]⟩

/-- The current message needs no response. -/
def next (c : Conv) : Conv :=
  { c with done := c.done ++ [⟨none, PAM_SUCCESS⟩], rest := c.rest.tail }

/-- The block that holds a reply: `length() + 1` bytes, and the UTF-8 text. -/
def respBlock (text : String) : Block := ⟨utf16Length text + 1, cString (utf8 text)⟩

/-- The reply to the current message. -/
def answer (c : Conv) (text : String) : Conv :=
  { done := c.done ++ [⟨some (respBlock text), PAM_SUCCESS⟩]
    rest := c.rest.tail
    heap := c.heap ++ [.callocResp c.done.length (utf16Length text + 1)] }

end Conv

/-! ## The process -/

/-- Where the child stands. -/
inductive Pc
  | start
  /-- In the PAM stack, between two calls of `conversation`. -/
  | stack
  | conv (c : Conv)
  /-- In the receive of the reply to the current message. -/
  | waiting (c : Conv)
  | exit

structure Child where
  pc : Pc := .start
  /-- What the calls of `conversation` have returned, oldest first. -/
  returns : List Return := []

/-- What the child does next, with the outcomes of its calls. -/
inductive Act
  | pamStart (ok : Bool)
  | call (msgs : List Msg)
  | send (ok : Bool)
  /-- The current message is of another style. -/
  | skip
  | recv (recvReply : Option PamEvent)
  | ret
  /-- `pam_authenticate` returns, and `pam_get_item` works or fails. -/
  | finish (authRes : Int) (getItem : Bool) (authResultString : String)

namespace Child

/-- The call of `conversation` returns to the PAM stack. -/
def returnWith (c : Child) (r : Return) : Child := { pc := .stack, returns := c.returns ++ [r] }

/-- One step of the child, and the events that it sends to the parent. -/
def step (c : Child) (act : Act) : Option (Child × List PamEvent) :=
  match c.pc, act with
  | .start, .pamStart ok => some ({ c with pc := if ok then .stack else .exit }, [])
  | .stack, .call msgs =>
    some ({ c with pc := .conv { rest := msgs, heap := [.callocReply msgs.length] } }, [])
  | .conv v, .send ok =>
    match v.rest with
    | [] => none
    | m :: _ =>
      match m.event with
      | none => none
      | some event =>
        if !ok then some (c.returnWith v.failure, [])
        else some ({ c with pc := if m.isPrompt then .waiting v else .conv v.next }, [event])
  | .conv v, .skip =>
    match v.rest with
    | [] => none
    | m :: _ => if m.event.isNone then some ({ c with pc := .conv v.next }, []) else none
  | .conv v, .ret => if v.rest = [] then some (c.returnWith v.success, []) else none
  | .waiting v, .recv recvReply =>
    match recvReply with
    | some (.PromptReplyEvent true text) => some ({ c with pc := .conv (v.answer text) }, [])
    | _ => some (c.returnWith v.failure, [])
  | .stack, .finish authRes getItem authResultString =>
    some ({ c with pc := .exit },
      if getItem then [.CompleteEvent true (authRes = PAM_SUCCESS) authResultString] else [])
  | _, _ => none

/-- What a step can do, one case for each way. -/
inductive Steps (c : Child) : Act → Child → List PamEvent → Prop
  | starts (ok : Bool) (hpc : c.pc = .start) :
    Steps c (.pamStart ok) { c with pc := if ok then .stack else .exit } []
  | calls (msgs : List Msg) (hpc : c.pc = .stack) :
    Steps c (.call msgs) { c with pc := .conv { rest := msgs, heap := [.callocReply msgs.length] } }
      []
  | sendFails {v : Conv} {m : Msg} {ms : List Msg} {event : PamEvent} (hpc : c.pc = .conv v)
    (hrest : v.rest = m :: ms) (hevent : m.event = some event) :
    Steps c (.send false) (c.returnWith v.failure) []
  | sends {v : Conv} {m : Msg} {ms : List Msg} {event : PamEvent} (hpc : c.pc = .conv v)
    (hrest : v.rest = m :: ms) (hevent : m.event = some event) :
    Steps c (.send true) { c with pc := if m.isPrompt then .waiting v else .conv v.next } [event]
  | skips {v : Conv} {m : Msg} {ms : List Msg} (hpc : c.pc = .conv v) (hrest : v.rest = m :: ms)
    (hevent : m.event = none) : Steps c .skip { c with pc := .conv v.next } []
  | returns {v : Conv} (hpc : c.pc = .conv v) (hrest : v.rest = []) :
    Steps c .ret (c.returnWith v.success) []
  | receives {v : Conv} (text : String) (hpc : c.pc = .waiting v) :
    Steps c (.recv (some (.PromptReplyEvent true text))) { c with pc := .conv (v.answer text) } []
  | recvFails {v : Conv} {recvReply : Option PamEvent} (hpc : c.pc = .waiting v)
    (hno : ∀ text, recvReply ≠ some (.PromptReplyEvent true text)) :
    Steps c (.recv recvReply) (c.returnWith v.failure) []
  | finishes (authRes : Int) (getItem : Bool) (authResultString : String) (hpc : c.pc = .stack) :
    Steps c (.finish authRes getItem authResultString) { c with pc := .exit }
      (if getItem then [.CompleteEvent true (authRes = PAM_SUCCESS) authResultString] else [])

theorem steps_of_step {c c1 : Child} {act : Act} {events : List PamEvent}
    (h : c.step act = some (c1, events)) : c.Steps act c1 events := by
  unfold step at h
  split at h
  · cases h
    exact .starts _ ‹_›
  · cases h
    exact .calls _ ‹_›
  · rename_i v ok hpc
    rcases hrest : v.rest with _ | ⟨m, ms⟩ <;> simp only [hrest, reduceCtorEq] at h
    rcases hevent : m.event with _ | event <;> simp only [hevent, reduceCtorEq] at h
    cases ok with
    | false =>
      cases h
      exact .sendFails hpc hrest hevent
    | true =>
      cases h
      exact .sends hpc hrest hevent
  · rename_i v hpc
    rcases hrest : v.rest with _ | ⟨m, ms⟩ <;> simp only [hrest, reduceCtorEq] at h
    split_ifs at h with hnone
    cases h
    exact .skips hpc hrest (Option.isNone_iff_eq_none.mp hnone)
  · rename_i v hpc
    split_ifs at h with hrest
    cases h
    exact .returns hpc hrest
  · rename_i v recvReply hpc
    split at h
    · cases h
      exact .receives _ hpc
    · rename_i hno
      cases h
      exact .recvFails hpc hno
  · cases h
    exact .finishes _ _ _ ‹_›
  · cases h

end Child

end session_guard.checkpass
