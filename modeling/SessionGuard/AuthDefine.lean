-- The kinds of prompts and messages that every part of the session guard
-- shares (`auth-define.h`).
import Mathlib.Tactic.Common

namespace session_guard

inductive PromptType
  | Question
  | Secret
  deriving DecidableEq, Repr

inductive MessageType
  | Info
  | Error
  deriving DecidableEq, Repr

/-- Who issued a prompt: the PAM interface or the authentication service. -/
inductive PromptFrom
  | PAM
  | AUTH_SERVICE
  deriving DecidableEq, Repr

/-- The set of authentication types, one bit each. -/
abbrev AuthType := BitVec 32

def AUTH_TYPE_PASSWD : AuthType := 1#32 <<< 0
def AUTH_TYPE_FINGER : AuthType := 1#32 <<< 1
def AUTH_TYPE_FACE : AuthType := 1#32 <<< 2

end session_guard
