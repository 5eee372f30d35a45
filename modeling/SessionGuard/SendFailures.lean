-- The writes of the checkpass child. `kiran_pam_message_send` compares what `write` gives with
-- the length of the frame, but `kiran_pam_message_send_event` does not look at its result, so
-- that `conversation` waits for the reply to a prompt that nobody has got.
import SessionGuard.Machine
import SessionGuard.PamFrame
import SessionGuard.Checkpass

open machine

namespace session_guard.send_failures

open pam_message pam_frame checkpass

variable (json : JsonText JsonDocument)

/-! ## The child and its writes -/

/-- What the child does next, with what its `write` gives: how many bytes it took, or `none`
for an error. -/
inductive WriteAct
  /-- An act that writes nothing. -/
  | act (act : Act)
  | send (written : Option Nat)
  | finish (authRes : Int) (getItem : Bool) (authResultString : String) (written : Option Nat)

/-- The event of the current message. -/
def currentEvent (c : Child) : Option PamEvent :=
  match c.pc with
  | .conv v => v.rest.head?.bind Msg.event
  | _ => none

/-- One step of the child, and the bytes that it puts on the channel. -/
def step : Step Child WriteAct UInt8
  | _, .act (.send _) => none
  | _, .act (.finish _ _ _) => none
  | c, .act act => (c.step act).map fun r => (r.1, [])
  | c, .send written =>
    (currentEvent c).bind fun event =>
      (c.step (.send (kiranPamMessageSendEventBytes json event written).1)).map fun r =>
        (r.1, (kiranPamMessageSendEventBytes json event written).2)
  | c, .finish authRes getItem authResultString written =>
    (c.step (.finish authRes getItem authResultString)).map fun r =>
      (r.1, r.2.flatMap fun event => (kiranPamMessageSendEventBytes json event written).2)

/-! ## What is reported -/

/-- `write` took the whole frame of the event. -/
def WritesFrame (event : PamEvent) (written : Option Nat) : Prop :=
  written = some (frame json (kiranPamMessageSendEvent event)).length

/-- `kiran_pam_message_send_event` returns true only for a whole frame. -/
def ReportsWrite (event : PamEvent) (written : Option Nat) : Prop :=
  (kiranPamMessageSendEventBytes json event written).1 = true → WritesFrame json event written

/-- The call of `conversation` has returned `PAM_CONV_ERR`. -/
def ReturnsError (c c1 : Child) : Prop :=
  c1.pc = .stack ∧ ∃ r, c1.returns = c.returns ++ [r] ∧ r.ret = PAM_CONV_ERR

/-- A message whose frame is not written whole ends the call of `conversation`. -/
def EndsOnFailure (c : Child) (a : WriteAct) (_ : List UInt8) (c1 : Child) : Prop :=
  match a with
  | .send written => ∀ event, currentEvent c = some event →
      ¬ WritesFrame json event written → ReturnsError c c1
  | _ => True

/-- A message is written whole. -/
def WritesWhole (c : Child) : WriteAct → Prop
  | .send written => ∀ event, currentEvent c = some event → WritesFrame json event written
  | _ => True

/-! ## The law -/

/-- The send returns true whatever `write` gives. -/
theorem reportsWrite_iff (event : PamEvent) (written : Option Nat) :
    ReportsWrite json event written ↔ WritesFrame json event written :=
  ⟨fun h => h rfl, fun h _ => h⟩

/-- Whatever `write` gives, the child waits for the reply to a prompt, and goes on after any
other message. -/
theorem send_goes_on {c c1 : Child} {written : Option Nat} {o : List UInt8}
    (h : step json c (.send written) = some (c1, o)) :
    c1.returns = c.returns ∧ ∃ v m ms, c.pc = .conv v ∧ v.rest = m :: ms ∧
      c1.pc = if m.isPrompt then .waiting v else .conv v.next := by
  obtain ⟨event, hevent, hmap⟩ := Option.bind_eq_some_iff.mp h
  obtain ⟨⟨c2, events⟩, hsend, heq⟩ := Option.map_eq_some_iff.mp hmap
  cases heq
  -- the result of the send is true
  cases Child.steps_of_step hsend with
  | @sends v m ms _ hpc hrest => exact ⟨rfl, v, m, ms, hpc, hrest, rfl⟩

/-- A step ends the call on a failure exactly when there is none. -/
theorem step_endsOnFailure_iff {c c1 : Child} {a : WriteAct} {o : List UInt8}
    (h : step json c a = some (c1, o)) : EndsOnFailure json c a o c1 ↔ WritesWhole json c a := by
  cases a with
  | act act => exact Iff.rfl
  | send written =>
    obtain ⟨hreturns, -⟩ := send_goes_on json h
    refine forall_congr' fun event => forall_congr' fun _ => ⟨?_, fun hw hnot => absurd hw hnot⟩
    intro hends
    by_contra hnot
    obtain ⟨-, r, hr, -⟩ := hends hnot
    rw [hreturns] at hr
    simp at hr
  | finish authRes getItem authResultString written => exact Iff.rfl

/-- The failures of `write` are reported exactly where there are none: by the send of an event,
and by `conversation` along every run of the child. -/
theorem failures_are_reported_iff :
    (∀ event written, ReportsWrite json event written ↔ WritesFrame json event written) ∧
      ∀ acts, Always (step json) (EndsOnFailure json) {} acts ↔
        Meets (step json) (WritesWhole json) {} acts := by
  refine ⟨reportsWrite_iff json, fun acts => ?_⟩
  apply always_iff_meets (I := fun _ => True)
  · intro c a c1 o _ h
    exact step_endsOnFailure_iff json h
  · intros
    trivial
  · trivial

/-- Qt, as far as one prompt goes. -/
def promptText : JsonText JsonDocument where
  toJson doc :=
    if doc = kiranPamMessageSendEvent (.PromptRequestEvent true "Code: ") then
      ascii "\x7b\n    \"event\": 1,\n    \"secret\": true,\n    \"text\": \"Code: \"\n\x7d\n"
    else []
  fromJson _ := none

/-- The prompt is not written, and the child waits for its reply. -/
def writeFails : List WriteAct :=
  [.act (.pamStart true), .act (.call [⟨.PAM_PROMPT_ECHO_OFF, "Code: "⟩]), .send none]

theorem a_lost_prompt_is_waited_for :
    (∃ c v, run (step promptText) {} writeFails = some (c, []) ∧ c.pc = .waiting v ∧
        c.returns = []) ∧
      ¬ ReportsWrite promptText (.PromptRequestEvent true "Code: ") none ∧
      ¬ Always (step promptText) (EndsOnFailure promptText) {} writeFails := by
  refine ⟨⟨_, _, rfl, rfl, rfl⟩, ?_, ?_⟩
  · intro h
    cases h rfl
  · intro h
    obtain ⟨-, h1⟩ := h _ _ rfl
    obtain ⟨-, h2⟩ := h1 _ _ rfl
    obtain ⟨h3, -⟩ := h2 _ _ rfl
    have hnot : ¬ WritesFrame promptText (.PromptRequestEvent true "Code: ") none := fun hw => by
      cases hw
    obtain ⟨hpc, -⟩ := h3 _ rfl hnot
    cases hpc

end session_guard.send_failures
