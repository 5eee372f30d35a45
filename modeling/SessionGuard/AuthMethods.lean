-- `handleAuthServiceAuthMethodChanged`: the mask of the methods becomes a set of types. The
-- loop collects them in a variable that nothing initialises, so that they come on top of what
-- the variable holds.
import SessionGuard.AuthProxy

namespace session_guard.auth_methods

open auth_proxy

variable (env : Env)

/-! ## The types of a mask -/

/-- The type of a method, when its bit is set in the mask. -/
def typeOf (method bit : BitVec 32) (type : AuthType) : AuthType :=
  if method &&& bit ≠ 0 then type else 0#32

/-- The types of the methods whose bits are set in the mask, and no others. -/
def typesOf (method : BitVec 32) : AuthType :=
  typeOf method env.SESSION_AUTH_METHOD_PASSWORD AUTH_TYPE_PASSWD |||
    typeOf method env.SESSION_AUTH_METHOD_FINGERPRINT AUTH_TYPE_FINGER |||
    typeOf method env.SESSION_AUTH_METHOD_FACE AUTH_TYPE_FACE

/-- The current session gets the types of the mask, when the variable holds `authType` at
first. -/
def TellsTypes (p : AuthProxy) (method : BitVec 32) (authType : AuthType) : Prop :=
  p.handleAuthServiceAuthMethodChanged env authType method p.m_authSessionID =
    [.authTypeChanged (typesOf env method)]

/-! ## The loop -/

/-- The loop adds to what the variable holds. -/
theorem collect_eq (method : BitVec 32) (entries : List (BitVec 32 × AuthType))
    (authType : AuthType) :
    entries.foldl
        (fun authType iter => if method &&& iter.1 ≠ 0 then iter.2 ||| authType else authType)
        authType =
      authType ||| entries.foldr (fun iter types => typeOf method iter.1 iter.2 ||| types) 0#32 := by
  induction entries generalizing authType with
  | nil => simp
  | cons iter entries ih =>
    rw [List.foldl_cons, ih, List.foldr_cons, ← BitVec.or_assoc]
    congr 1
    unfold typeOf
    split_ifs
    · exact BitVec.or_comm _ _
    · exact BitVec.or_zero.symm

/-- What the slot emits for a mask of the current session. -/
theorem methodChanged_eq (p : AuthProxy) {method : BitVec 32}
    (h : method ≠ env.SESSION_AUTH_METHOD_NONE) (authType : AuthType) :
    p.handleAuthServiceAuthMethodChanged env authType method p.m_authSessionID =
      [.authTypeChanged (authType ||| typesOf env method)] := by
  unfold AuthProxy.handleAuthServiceAuthMethodChanged
  rw [if_neg (not_not.mpr rfl), if_neg h, collect_eq]
  simp only [AuthProxy.AuthTypeTransMap, List.foldr_cons, List.foldr_nil, BitVec.or_zero, typesOf,
    BitVec.or_assoc]

/-! ## What the variable holds -/

theorem or_eq_right_iff (a b : BitVec 32) : a ||| b = b ↔ a &&& ~~~b = 0#32 := by
  have hbit : ∀ x y : Bool, (x || y) = y ↔ (x && !y) = false := by decide
  simp only [BitVec.eq_of_getElem_eq_iff, BitVec.getElem_or, BitVec.getElem_and,
    BitVec.getElem_not, BitVec.getElem_zero, hbit]

/-- The types of the mask are told exactly when the variable holds no bit outside of them. -/
theorem the_types_are_told_iff (p : AuthProxy) {method : BitVec 32}
    (h : method ≠ env.SESSION_AUTH_METHOD_NONE) (authType : AuthType) :
    TellsTypes env p method authType ↔ authType &&& ~~~typesOf env method = 0#32 := by
  unfold TellsTypes
  rw [methodChanged_eq env p h, ← or_eq_right_iff]
  simp

/-- There is a content of the variable that goes wrong for every mask: no type has the bit 3. -/
theorem no_mask_is_safe (p : AuthProxy) {method : BitVec 32}
    (h : method ≠ env.SESSION_AUTH_METHOD_NONE) : ¬ TellsTypes env p method 8 := by
  unfold TellsTypes typesOf typeOf
  rw [methodChanged_eq env p h]
  unfold typesOf typeOf
  split_ifs <;> decide

theorem an_empty_variable_is_safe :
    TellsTypes sampleEnv (.fresh sampleEnv true) 5 0 :=
  (the_types_are_told_iff sampleEnv (.fresh sampleEnv true) (by decide) 0).mpr (by decide)

/-- The mask has the bit of the password only, and the variable holds the bit of the face. -/
theorem a_password_is_told_as_a_face :
    (AuthProxy.fresh sampleEnv true).handleAuthServiceAuthMethodChanged sampleEnv AUTH_TYPE_FACE
        sampleEnv.SESSION_AUTH_METHOD_PASSWORD "" =
          [.authTypeChanged (AUTH_TYPE_FACE ||| AUTH_TYPE_PASSWD)] ∧
      ¬ TellsTypes sampleEnv (.fresh sampleEnv true) sampleEnv.SESSION_AUTH_METHOD_PASSWORD
        AUTH_TYPE_FACE := by
  refine ⟨by decide, ?_⟩
  unfold TellsTypes
  decide

end session_guard.auth_methods
