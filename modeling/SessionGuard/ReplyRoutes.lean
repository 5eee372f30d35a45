-- The two routes of a reply: over the pipe into the child, where `conversation` stores it for
-- PAM, and through the encryption to the authentication service. PAM gets every byte of the
-- text, and the service only as many bytes as the text has UTF-16 units.
import SessionGuard.AuthPam
import SessionGuard.AuthProxy
import SessionGuard.Checkpass

namespace session_guard.reply_routes

open pam_message auth_pam auth_proxy checkpass unicode

/-! ## The routes -/

/-- The text that the effect encrypts. -/
def encrypts : auth_proxy.Effect → Option (List UInt8)
  | .rsaPublicEncrypt text _ => some text
  | _ => none

/-- The route to the authentication service: the effects encrypt the bytes, and no others. -/
def HandsOver (effects : List auth_proxy.Effect) (bytes : List UInt8) : Prop :=
  effects.filterMap encrypts = [bytes]

/-- The route to PAM: an attempt that is running sends the response, the child that waits
takes it, and the bytes with a NUL behind them are the string of its `pam_response`. -/
def ReachesPam (response : String) (bytes : List UInt8) : Prop :=
  ∀ (a : AuthPam) (v : Conv) (returns : List Return), a.inAuthentication = true →
    ∃ fd event v' b, a.respond response = [.sendEvent fd event] ∧
      Child.step ⟨.waiting v, returns⟩
          (.recv (kiranPamMessageRecvEvent (kiranPamMessageSendEvent event))) =
        some (⟨.conv v', returns⟩, []) ∧
      v'.done = v.done ++ [⟨some b, PAM_SUCCESS⟩] ∧ b.bytes = bytes ++ [0]

/-- `respond` hands over the full UTF-8 encoding, and these are the bytes that the other route
brings to PAM. -/
def SameSecret (env : Env) (p : AuthProxy) (response : String) : Prop :=
  HandsOver (p.respond env response) (utf8 response) ∧ ReachesPam response (utf8 response)

/-! ## What each route carries -/

/-- All bytes of a text with no NUL reach PAM. -/
theorem reaches_pam {response : String} (h : NoNul response) :
    ReachesPam response (utf8 response) := by
  intro a v returns hin
  refine ⟨a.m_toChildPipe.2, .PromptReplyEvent true response, v.answer response,
    Conv.respBlock response, if_pos hin, ?_, rfl, cString_utf8 h⟩
  rw [recvEvent_sendEvent _ fun t => by simp]
  rfl

theorem hands_over {env : Env} {p : AuthProxy} (hp : p.m_promptFrom = .AUTH_SERVICE)
    (response : String) : HandsOver (p.respond env response) (AuthProxy.plaintext response) := by
  unfold HandsOver AuthProxy.respond
  rw [if_pos hp]
  rfl

/-- The two routes carry the same secret exactly when it is ASCII. -/
theorem the_routes_agree_iff (env : Env) {p : AuthProxy} (hp : p.m_promptFrom = .AUTH_SERVICE)
    {response : String} (h : NoNul response) :
    SameSecret env p response ↔ IsAscii response := by
  rw [← plaintext_eq_iff]
  constructor
  · rintro ⟨hservice, -⟩
    have heq := (hands_over hp response).symm.trans hservice
    exact (List.cons.inj heq).1
  · intro heq
    refine ⟨?_, reaches_pam h⟩
    rw [← heq]
    exact hands_over hp response

/-- A proxy that shows a prompt of the service. -/
def atService : AuthProxy := { AuthProxy.fresh sampleEnv true with m_promptFrom := .AUTH_SERVICE }

theorem an_ascii_secret_is_the_same : SameSecret sampleEnv atService "secret" :=
  (the_routes_agree_iff sampleEnv (p := atService) rfl (by decide)).mpr (by decide)

/-- The service gets the first of the two bytes of "é". -/
theorem an_accent_is_cut :
    NoNul "é" ∧ HandsOver (atService.respond sampleEnv "é") [0xc3] ∧ utf8 "é" = [0xc3, 0xa9] ∧
      ¬ SameSecret sampleEnv atService "é" := by
  refine ⟨by decide, ?_, by decide, ?_⟩
  · unfold HandsOver
    decide
  · rintro ⟨hservice, -⟩
    unfold HandsOver at hservice
    revert hservice
    decide

end session_guard.reply_routes
