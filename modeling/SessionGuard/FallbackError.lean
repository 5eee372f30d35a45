-- The message "Failed to authenticate" that `AuthProxy` makes up when an attempt fails without
-- an error message. `m_haveErrorMsg` should say whether there was one, but nothing sets it, so
-- that each failed attempt gets the message.
import SessionGuard.AuthRuns

open machine

namespace session_guard.fallback_error

open auth_msg_queue auth_proxy auth_runs

variable (env : Env)

/-! ## The proxy and the errors that it passes on -/

/-- A proxy, and whether an error message of PAM or of the authentication service was shown or
queued since the latest `authenticate`. -/
structure Watched where
  proxy : AuthProxy
  errorSeen : Bool := false

/-- The queue, if there is one, may deliver any message at any time. -/
inductive WatchedEvent
  | main (e : auth_runs.Event)
  /-- `outside` says that the message is one of PAM or of the service. -/
  | deliver (msg : AuthMsg) (outside : Bool)

def isAuthenticate : auth_runs.Event → Bool
  | .authenticate _ => true
  | _ => false

/-- PAM or the service has a message. -/
def isMessage : auth_runs.Event → Bool
  | .pamMessage _ _ => true
  | .serviceMessages _ _ _ => true
  | _ => false

/-- An error message is shown or queued. -/
def isError : Effect → Bool
  | .append (.message .Error _) => true
  | .showMessage _ .Error => true
  | _ => false

def step : Step Watched WatchedEvent Effect
  | s, .main e =>
    let r := e.handler env s.proxy
    let seen := s.errorSeen || (isMessage e && r.2.any isError)
    some (⟨r.1, !isAuthenticate e && seen⟩, r.2)
  | s, .deliver msg outside =>
    let r := s.proxy.handleAuthQueue msg
    some (⟨r.1, s.errorSeen || (outside && r.2.any isError)⟩, r.2)

/-- A new proxy, with or without a queue. -/
def Watched.fresh (msgQueue : Bool) : Watched := { proxy := .fresh env msgQueue }

/-- Every run of the proxy over a bag of messages is a run here, with the same effects. -/
theorem watched_of_bag (outside : Entry Note → Bool) {s t : Sys (List (Entry Note))}
    {bs : List BagEvent} {o : List Effect} (h : run (bagStep env) s bs = some (t, o))
    (errorSeen : Bool) :
    ∃ es errorSeen', run (step env) ⟨s.proxy, errorSeen⟩ es = some (⟨t.proxy, errorSeen'⟩, o) := by
  induction bs generalizing s o errorSeen with
  | nil =>
    cases h
    exact ⟨[], errorSeen, rfl⟩
  | cons b bs ih =>
    obtain ⟨s1, o1, o2, h1, h2, rfl⟩ := run_cons_iff.mp h
    cases b with
    | main e =>
      obtain ⟨-, rfl, rfl⟩ := handle_eq_some env h1
      obtain ⟨es, seen', hes⟩ := ih h2 _
      exact ⟨.main e :: es, seen', run_cons_iff.mpr ⟨_, _, _, rfl, hes, rfl⟩⟩
    | deliver i =>
      simp only [bagStep] at h1
      split at h1
      · cases h1
      · rename_i x hx
        obtain ⟨-, rfl, rfl⟩ := receive_eq_some h1
        obtain ⟨es, seen', hes⟩ := ih h2 _
        exact ⟨.deliver x.msg (outside x) :: es, seen',
          run_cons_iff.mpr ⟨_, _, _, rfl, hes, rfl⟩⟩
    | lose i =>
      cases h1
      exact ih h2 errorSeen

/-! ## The law -/

/-- The made-up message is shown or queued. -/
def AddsFallback (effects : List Effect) : Prop :=
  .append (.message .Error "Failed to authenticate") ∈ effects ∨
    .showMessage "Failed to authenticate" .Error ∈ effects

/-- A completion adds the message exactly when the attempt has failed with no error message. -/
def FallbackWhenNeeded (s : Watched) (e : WatchedEvent) (o : List Effect) (_ : Watched) : Prop :=
  match e with
  | .main (.pamComplete isAuthenticated) =>
    AddsFallback o ↔ isAuthenticated = false ∧ s.errorSeen = false
  | _ => True

/-- No attempt fails after an error message. -/
def FailsSilently (s : Watched) (e : WatchedEvent) : Prop :=
  match e with
  | .main (.pamComplete false) => s.errorSeen = false
  | _ => True

/-! ## The flag -/

@[simp] theorem stopAuthSession_haveErrorMsg (p : AuthProxy) :
    p.stopAuthSession.1.m_haveErrorMsg = p.m_haveErrorMsg := by
  rcases stopAuthSession_cases p with h | h <;> rw [h]

/-- No function sets the flag. -/
theorem handler_haveErrorMsg {p : AuthProxy} (hp : p.m_haveErrorMsg = false)
    (e : auth_runs.Event) : (e.handler env p).1.m_haveErrorMsg = false := by
  cases e with
  | authenticate username => rfl
  | cancelAuthentication =>
    show p.stopAuthSession.1.m_haveErrorMsg = false
    rw [stopAuthSession_haveErrorMsg, hp]
  | pamComplete isAuthenticated =>
    show (p.handlePamAuthComplete isAuthenticated).1.m_haveErrorMsg = false
    unfold AuthProxy.handlePamAuthComplete
    dsimp only
    split_ifs <;> simp [hp]
  | pamPrompt user reply text type =>
    show (p.handlePamAuthShowPrompt env user reply text type).1.m_haveErrorMsg = false
    unfold AuthProxy.handlePamAuthShowPrompt
    split_ifs
    · rcases reply with _ | ⟨sid, key⟩ <;> exact hp
    all_goals exact hp
  | serviceMessages msg type sid =>
    show (p.handleAuthServiceAuthMessages env msg type sid).1.m_haveErrorMsg = false
    unfold AuthProxy.handleAuthServiceAuthMessages
    dsimp only
    split_ifs <;> exact hp
  | _ => exact hp

theorem handleAuthQueue_haveErrorMsg {p : AuthProxy} (hp : p.m_haveErrorMsg = false)
    (msg : AuthMsg) : (p.handleAuthQueue msg).1.m_haveErrorMsg = false := by
  cases msg with
  | prompt promptFrom promptType msg => exact hp
  | message messageType msg => exact hp
  | complete authRes =>
    show p.stopAuthSession.1.m_haveErrorMsg = false
    rw [stopAuthSession_haveErrorMsg, hp]

theorem step_haveErrorMsg {s s1 : Watched} {e : WatchedEvent} {o : List Effect}
    (hs : s.proxy.m_haveErrorMsg = false) (h : step env s e = some (s1, o)) :
    s1.proxy.m_haveErrorMsg = false := by
  cases e with
  | main e =>
    cases h
    exact handler_haveErrorMsg env hs e
  | deliver msg outside =>
    cases h
    exact handleAuthQueue_haveErrorMsg hs msg

/-! ## The completion -/

/-- A call that only stops a session adds no message. -/
theorem stopAuthSession_no_fallback (p : AuthProxy) : ¬ AddsFallback p.stopAuthSession.2 := by
  unfold AddsFallback
  rcases stopAuthSession_cases p with h | h <;> rw [h] <;> simp

theorem addsFallback_append (xs ys : List Effect) :
    AddsFallback (xs ++ ys) ↔ AddsFallback xs ∨ AddsFallback ys := by
  unfold AddsFallback
  rw [List.mem_append, List.mem_append]
  tauto

/-- Without the flag, each failure adds the message. -/
theorem handlePamAuthComplete_fallback_iff {p : AuthProxy} (hp : p.m_haveErrorMsg = false)
    (isAuthenticated : Bool) :
    AddsFallback (p.handlePamAuthComplete isAuthenticated).2 ↔ isAuthenticated = false := by
  unfold AuthProxy.handlePamAuthComplete
  cases isAuthenticated <;> dsimp only <;> split_ifs
  all_goals simp_all [addsFallback_append, stopAuthSession_no_fallback]
  all_goals simp [AddsFallback]

theorem step_fallback_iff {s s1 : Watched} {e : WatchedEvent} {o : List Effect}
    (hs : s.proxy.m_haveErrorMsg = false) (h : step env s e = some (s1, o)) :
    FallbackWhenNeeded s e o s1 ↔ FailsSilently s e := by
  cases e with
  | deliver msg outside => exact Iff.rfl
  | main e =>
    cases e with
    | pamComplete isAuthenticated =>
      cases h
      have hadds := handlePamAuthComplete_fallback_iff hs isAuthenticated
      change (AddsFallback (s.proxy.handlePamAuthComplete isAuthenticated).2 ↔ _) ↔ _
      rw [hadds]
      cases isAuthenticated <;> simp [FailsSilently]
    | _ => exact Iff.rfl

/-- The made-up message appears exactly when it is needed in the runs where no attempt fails
after an error message. -/
theorem the_fallback_is_added_iff (msgQueue : Bool) (es : List WatchedEvent) :
    Always (step env) FallbackWhenNeeded (.fresh env msgQueue) es ↔
      Meets (step env) FailsSilently (.fresh env msgQueue) es := by
  apply always_iff_meets (I := fun s => s.proxy.m_haveErrorMsg = false)
  · exact fun s e s1 o hs h => step_fallback_iff env hs h
  · exact fun s e s1 o hs _ h => step_haveErrorMsg env hs h
  · rfl

/-- PAM says why the attempt fails, and the made-up message is queued behind that. -/
theorem a_second_error_is_made_up :
    ∃ s o, run (step sampleEnv) (.fresh sampleEnv true)
        [.main (.authenticate "alice"), .main (.pamMessage "The account has expired" .Error),
          .main (.pamComplete false)] = some (s, o) ∧
      o = [.stopDispatcher, .startDispatcher, .authAuthenticate "alice",
        .append (.message .Error "The account has expired"),
        .append (.message .Error "Failed to authenticate"), .append (.complete false)] ∧
      ¬ Always (step sampleEnv) FallbackWhenNeeded (.fresh sampleEnv true)
        [.main (.authenticate "alice"), .main (.pamMessage "The account has expired" .Error),
          .main (.pamComplete false)] := by
  refine ⟨_, _, rfl, by decide, ?_⟩
  intro h
  obtain ⟨-, h⟩ := h _ _ rfl
  obtain ⟨-, h⟩ := h _ _ rfl
  obtain ⟨hlaw, -⟩ := h _ _ rfl
  obtain ⟨-, hseen⟩ := hlaw.mp (Or.inl (by decide))
  cases hseen

end session_guard.fallback_error
