-- What the calls between the parts of the lock screen do to the whole of it:
-- `startAuth` begins an attempt with nothing left of the one before, and every
-- other handler only shows, appends and replies.
import SessionGuard.LockScreen

open machine

namespace session_guard.lock_screen

open pam_message auth_pam auth_msg_queue auth_proxy auth_runs checkpass prompt_edit

/-! ## The calls that end or begin an attempt -/

theorem system_closes (s : Sys) (fd : Nat) (b : Prop) [Decidable b] :
    (if b then [auth_pam.Effect.close fd] else []).foldl Sys.system s = s := by
  split_ifs <;> rfl

theorem pamCancel_eq (s : Sys) :
    s.pamCancel = { s with
      pam := s.pam.cancelAuthentication.1
      childAlive := s.childAlive && decide (s.pam.m_authPid = 0) } := by
  unfold Sys.pamCancel AuthPam.cancelAuthentication
  simp only [List.foldl_append, system_closes]
  by_cases h : s.pam.m_authPid = 0
  · simp [h]
  · simp [h, Sys.system]

/-- The child of the attempt lives when `authenticate` works. -/
theorem pamAuthenticate_eq (s : Sys) (u : String) (k : ForkAnswer) :
    s.pamAuthenticate u k = { s with
      pam := (s.pam.authenticate u k).1
      child := if (s.pam.authenticate u k).2.2 then {} else s.child
      childAlive := (s.pam.authenticate u k).2.2
      toParent := []
      toChild := []
      history := { attempt := s.history.attempt + 1 } } := by
  -- what the cancel of a running attempt asks for changes nothing here
  have hcancel : ∀ (a : AuthPam) (t : Sys), t.childAlive = false →
      (if a.inAuthentication then a.cancelAuthentication else (a, [])).2.foldl Sys.system t =
        t := by
    intro a t ht
    have ht' : { t with childAlive := false } = t := by rw [← ht]
    split_ifs
    · simp only [AuthPam.cancelAuthentication, List.foldl_append, system_closes]
      split_ifs
      · exact ht'
      · rfl
    · rfl
  unfold Sys.pamAuthenticate AuthPam.authenticate
  simp only [List.foldl_append]
  rw [hcancel _ _ rfl]
  unfold AuthPam.forkChild
  rcases k.toParentPipe with _ | p
  · rfl
  · rcases k.toChildPipe with _ | c
    · rfl
    · rcases k.forkPid with _ | pid <;> rfl

theorem cancelAuthentication_eq {s : Sys} (k : ForkAnswer)
    (hq : s.proxy.m_authMessageQueue = true) :
    s.cancelAuthentication k = { s.pamCancel with
      proxy := s.proxy.stopAuthSession.1
      queue := s.queue.call [.stop] } := by
  unfold Sys.cancelAuthentication Sys.proxyCall AuthProxy.cancelAuthentication
  simp only [hq, if_true, pamCancel_eq]
  rcases stopAuthSession_cases s.proxy with h | h <;>
    simp [h, Sys.effect, pamCancel_eq]

theorem authenticate_eq {s : Sys} (u : String) (k : ForkAnswer)
    (hq : s.proxy.m_authMessageQueue = true) :
    s.authenticate u k = Sys.pamAuthenticate { s with
      proxy := { s.proxy with m_haveErrorMsg := false }
      queue := s.queue.call [.stop, .start] } u k := by
  unfold Sys.authenticate Sys.proxyCall AuthProxy.authenticate
  simp [hq, Sys.effect, Dispatch.call]

/-! ## The beginning of an attempt -/

/-- Is the message a completion? -/
def isComplete (e : Entry Note) : Bool :=
  match e.msg with
  | .complete _ => true
  | _ => false

/-- Is the message a prompt of the PAM interface? -/
def isPamPrompt (e : Entry Note) : Bool :=
  match e.msg with
  | .prompt .PAM _ _ => true
  | _ => false

/-- The state in which an attempt begins. -/
structure Begun (s t : Sys) : Prop where
  hasQueue : t.proxy.m_authMessageQueue = s.proxy.m_authMessageQueue
  flight : t.queue.flight = s.queue.flight
  history : t.history = { attempt := s.history.attempt + 1 }
  isAuthenticated : t.pam.m_isAuthenticated = (!s.pam.inAuthentication && s.pam.m_isAuthenticated)
  notified : s.pam.m_socketNotifier.isSome = s.pam.m_inAuthenticating →
    t.pam.m_socketNotifier.isSome = t.pam.m_inAuthenticating
  child : t.childAlive = true → t.child = {}
  toParent : t.toParent = []
  toChild : t.toChild = []
  havePrompt : t.dialog.m_havePrompt = false
  button : t.dialog.btn_reAuth_visible = false

theorem forkChild_notified (a : AuthPam) (u : String) (k : ForkAnswer)
    (h : a.m_socketNotifier.isSome = a.m_inAuthenticating) :
    (a.forkChild u k).1.m_socketNotifier.isSome = (a.forkChild u k).1.m_inAuthenticating := by
  unfold AuthPam.forkChild
  rcases k.toParentPipe with _ | p
  · exact h
  · rcases k.toChildPipe with _ | c
    · exact h
    · rcases k.forkPid with _ | pid
      · exact h
      · rfl

theorem authenticate_notified (a : AuthPam) (u : String) (k : ForkAnswer)
    (h : a.m_socketNotifier.isSome = a.m_inAuthenticating) :
    (a.authenticate u k).1.m_socketNotifier.isSome = (a.authenticate u k).1.m_inAuthenticating := by
  unfold AuthPam.authenticate
  apply forkChild_notified
  split_ifs
  · rfl
  · exact h

theorem authenticate_begins {s : Sys} (u : String) (k : ForkAnswer)
    (hq : s.proxy.m_authMessageQueue = true) (hp : s.dialog.m_havePrompt = false) :
    Begun s { s.authenticate u k with
      dialog := (s.authenticate u k).dialog.switchToPromptEdit } := by
  rw [authenticate_eq u k hq, pamAuthenticate_eq]
  exact
    { hasQueue := rfl
      flight := by simp [pending]
      history := rfl
      isAuthenticated := AuthPam.authenticate_isAuthenticated _ _ _
      notified := authenticate_notified _ _ _
      child := fun halive => if_pos halive
      toParent := rfl
      toChild := rfl
      havePrompt := hp
      button := rfl }

/-- `startAuth` begins an attempt, and cancels a running one first. -/
theorem startAuth_begins {s : Sys} (k : ForkAnswer) (hq : s.proxy.m_authMessageQueue = true) :
    Begun s (s.startAuth k) := by
  by_cases hin : s.pam.inAuthentication = true
  · obtain ⟨c, hc⟩ : ∃ c : Sys, c = Sys.cancelAuthentication { s with
        dialog := { s.dialog.updateCurrentAuthType with m_havePrompt := false } } k := ⟨_, rfl⟩
    have heq : s.startAuth k = { c.authenticate c.dialog.m_userName k with
        dialog := (c.authenticate c.dialog.m_userName k).dialog.switchToPromptEdit } := by
      simp [Sys.startAuth, hin, hc]
    replace hc := hc.trans (cancelAuthentication_eq k hq)
    rw [pamCancel_eq] at hc
    have hqueue : c.proxy.m_authMessageQueue = s.proxy.m_authMessageQueue := by
      rw [hc]
      exact stopAuthSession_hasQueue s.proxy
    have hflight : c.queue.flight = s.queue.flight := by simp [hc, pending]
    have hb := authenticate_begins c.dialog.m_userName k (hqueue.trans hq) (by rw [hc])
    rw [heq]
    exact
      { hasQueue := hb.hasQueue.trans hqueue
        flight := hb.flight.trans hflight
        history := hb.history.trans (by rw [hc])
        isAuthenticated := hb.isAuthenticated.trans
          (by simp [hc, AuthPam.cancelAuthentication, hin])
        notified := fun _ => hb.notified (by rw [hc]; rfl)
        child := hb.child
        toParent := hb.toParent
        toChild := hb.toChild
        havePrompt := hb.havePrompt
        button := hb.button }
  · have heq : s.startAuth k = { Sys.authenticate { s with
          dialog := { s.dialog.updateCurrentAuthType with m_havePrompt := false } }
          s.dialog.m_userName k with
        dialog := (Sys.authenticate { s with
          dialog := { s.dialog.updateCurrentAuthType with m_havePrompt := false } }
          s.dialog.m_userName k).dialog.switchToPromptEdit } := by
      simp [Sys.startAuth, hin, ScreenSaverDialog.updateCurrentAuthType]
    have hb := authenticate_begins (s := { s with
      dialog := { s.dialog.updateCurrentAuthType with m_havePrompt := false } })
      s.dialog.m_userName k hq rfl
    rw [heq]
    exact
      { hasQueue := hb.hasQueue
        flight := hb.flight
        history := hb.history
        isAuthenticated := hb.isAuthenticated
        notified := hb.notified
        child := hb.child
        toParent := hb.toParent
        toChild := hb.toChild
        havePrompt := hb.havePrompt
        button := hb.button }

/-! ## The calls that show, append and reply -/

/-- The effect is not a call that begins or ends an attempt. -/
def calm : auth_proxy.Effect → Bool
  | .authAuthenticate _ => false
  | .authCancel => false
  | _ => true

/-- What the effects show. -/
def shows (d : ScreenSaverDialog) : List auth_proxy.Effect → ScreenSaverDialog
  | [] => d
  | .showPrompt text type :: effects => shows (d.slotShowPrompt text type) effects
  | .showMessage text _ :: effects => shows (d.slotShowMessage text) effects
  | _ :: effects => shows d effects

/-- The replies that the effects put into the pipe. -/
def replies (a : AuthPam) (origin : Origin) : List auth_proxy.Effect → List (PamEvent × Origin)
  | [] => []
  | .authRespond response :: effects =>
    (if a.inAuthentication then [(.PromptReplyEvent true response, origin)] else []) ++
      replies a origin effects
  | _ :: effects => replies a origin effects

theorem call_call {ν : Type} (d : Dispatch ν) (xs ys : List (MainOp ν)) :
    (d.call xs).call ys = d.call (xs ++ ys) := by
  simp [Dispatch.call]

theorem call_nil {ν : Type} (d : Dispatch ν) : d.call [] = d := by
  simp [Dispatch.call]

theorem proxyCall_calm {s : Sys} {k : ForkAnswer} {origin : Origin} {note : Note} {p : AuthProxy}
    {effects : List auth_proxy.Effect} (h : effects.all calm = true) :
    s.proxyCall k origin note (p, effects) = { s with
      proxy := p
      dialog := shows s.dialog effects
      queue := s.queue.call (mainOps note effects)
      toChild := s.toChild ++ replies s.pam origin effects } := by
  suffices ∀ t : Sys, effects.foldl (Sys.effect k origin note) t = { t with
      dialog := shows t.dialog effects
      queue := t.queue.call (mainOps note effects)
      toChild := t.toChild ++ replies t.pam origin effects } from this _
  induction effects with
  | nil => simp [shows, mainOps, replies, call_nil]
  | cons e effects ih =>
    intro t
    simp only [List.all_cons, Bool.and_eq_true] at h
    rw [List.foldl_cons, ih h.2]
    cases e with
    | authAuthenticate u => simp [calm] at h
    | authCancel => simp [calm] at h
    | authRespond response =>
      by_cases hin : t.pam.inAuthentication = true <;>
        simp [Sys.effect, Sys.pamRespond, AuthPam.respond, shows, mainOps, replies, hin]
    | stopDispatcher => simp [Sys.effect, shows, mainOps, replies, call_call]
    | startDispatcher => simp [Sys.effect, shows, mainOps, replies, call_call]
    | append msg => simp [Sys.effect, shows, mainOps, replies, call_call]
    | _ => simp [Sys.effect, shows, mainOps, replies]

theorem dispatch_of_none {s : Sys} {k : ForkAnswer} {origin : Origin} {note : Note}
    {r : AuthProxy × List auth_proxy.Effect} (h : r.2.findSome? completion = none) :
    s.dispatch k origin note r = (s.proxyCall k origin note r, []) := by
  simp [Sys.dispatch, h]

/-! ## The handlers of the proxy, in the system -/

variable {s : Sys} (k : ForkAnswer) (origin : Origin) (note : Note)

/-- A message that neither completes nor prompts for PAM. -/
def plain (e : Entry Note) : Prop := isComplete e = false ∧ isPamPrompt e = false

/-- The reply that the pipe takes, when the interface is in authentication. -/
def Sys.reply (s : Sys) (response : String) (origin : Origin) : List (PamEvent × Origin) :=
  if s.pam.inAuthentication then [(.PromptReplyEvent true response, origin)] else []

theorem dispatch_pamMessage (hq : s.proxy.m_authMessageQueue = true) (text : String)
    (type : MessageType) :
    s.dispatch k origin note (s.proxy, s.proxy.handlePamAuthShowMessage text type) =
      ({ s with queue := s.queue.call (append ⟨.message type text, note⟩) }, []) := by
  unfold AuthProxy.handlePamAuthShowMessage
  rw [if_pos hq, dispatch_of_none rfl, proxyCall_calm rfl]
  simp [shows, mainOps, replies]

/-- A PAM prompt is answered at once, or appended. -/
theorem dispatch_pamPrompt (env : Env) (hq : s.proxy.m_authMessageQueue = true) (user : String)
    (reply : Option (String × String)) (text : String) (type : PromptType) :
    (∃ p response, p.m_authMessageQueue = true ∧ p.m_promptFrom = s.proxy.m_promptFrom ∧
      s.dispatch k origin note (s.proxy.handlePamAuthShowPrompt env user reply text type) =
        ({ s with proxy := p, toChild := s.toChild ++ s.reply response origin }, [])) ∨
    s.dispatch k origin note (s.proxy.handlePamAuthShowPrompt env user reply text type) =
      ({ s with queue := s.queue.call (append ⟨.prompt .PAM type text, note⟩) }, []) := by
  unfold AuthProxy.handlePamAuthShowPrompt
  split_ifs with h1 h2 h3
  · left
    rcases reply with _ | ⟨sid, key⟩
    · refine ⟨s.proxy, "", hq, rfl, ?_⟩
      rw [dispatch_of_none rfl, proxyCall_calm rfl]
      simp [shows, mainOps, replies, call_nil, Sys.reply]
    · refine ⟨{ s.proxy with
        m_authSessionID := sid, m_authPublicKey := env.fromBase64 key }, sid, hq, rfl, ?_⟩
      rw [dispatch_of_none rfl, proxyCall_calm rfl]
      simp [shows, mainOps, replies, call_nil, Sys.reply]
  · refine Or.inl ⟨s.proxy, env.REP_FACE, hq, rfl, ?_⟩
    rw [dispatch_of_none rfl, proxyCall_calm rfl]
    simp [shows, mainOps, replies, call_nil, Sys.reply]
  · refine Or.inl ⟨s.proxy, env.REP_FPINT, hq, rfl, ?_⟩
    rw [dispatch_of_none rfl, proxyCall_calm rfl]
    simp [shows, mainOps, replies, call_nil, Sys.reply]
  · right
    rw [dispatch_of_none rfl, proxyCall_calm rfl]
    simp [shows, mainOps, replies]

/-- The completion of PAM is appended, after a message at most. -/
theorem handlePamAuthComplete_queued {p : AuthProxy} (hq : p.m_authMessageQueue = true) (b : Bool) :
    ∃ effects before, (before = [] ∨ ∃ text, before = [AuthMsg.message .Error text]) ∧
      p.handlePamAuthComplete b = (p.stopAuthSession.1, effects) ∧
      effects =
        p.stopAuthSession.2 ++ (before ++ [AuthMsg.complete b]).map auth_proxy.Effect.append := by
  unfold AuthProxy.handlePamAuthComplete
  simp only [hq, if_true, List.append_assoc]
  by_cases h : (if (!b && !p.m_haveErrorMsg) = true then "Failed to authenticate" else "").isEmpty
  · rw [if_pos h]
    exact ⟨_, [], Or.inl rfl, rfl, rfl⟩
  · rw [if_neg h]
    exact ⟨_, [_], Or.inr ⟨_, rfl⟩, rfl, rfl⟩

theorem dispatch_pamComplete (hq : s.proxy.m_authMessageQueue = true) (isAuthenticated : Bool) :
    ∃ p ops before, p.m_authMessageQueue = true ∧ p.m_promptFrom = s.proxy.m_promptFrom ∧
      pending ops = before ++ [⟨.complete isAuthenticated, note⟩] ∧ (∀ e ∈ before, plain e) ∧
      s.dispatch k origin note (s.proxy.handlePamAuthComplete isAuthenticated) =
        ({ s with proxy := p, queue := s.queue.call ops }, []) := by
  obtain ⟨effects, before, hbefore, heq, heffects⟩ :=
    handlePamAuthComplete_queued hq isAuthenticated
  have hshape : effects.all calm = true ∧ effects.findSome? completion = none ∧
      pending (mainOps note effects) =
        before.map (⟨·, note⟩) ++ [⟨.complete isAuthenticated, note⟩] ∧
      shows s.dialog effects = s.dialog ∧ replies s.pam origin effects = [] := by
    rcases stopAuthSession_cases s.proxy with h | h <;> rcases hbefore with rfl | ⟨text, rfl⟩ <;>
      simp [heffects, h, calm, completion, mainOps, pending, append, shows, replies]
  obtain ⟨hcalm, hnone, hpending, hshows, hreplies⟩ := hshape
  refine ⟨_, _, _, (stopAuthSession_hasQueue s.proxy).trans hq, stopAuthSession_promptFrom s.proxy,
    hpending, ?_, ?_⟩
  · intro e he
    rcases hbefore with rfl | ⟨text, rfl⟩
    · cases he
    · obtain rfl := List.mem_singleton.mp he
      exact ⟨rfl, rfl⟩
  · rw [heq, dispatch_of_none hnone, proxyCall_calm hcalm, hshows, hreplies, List.append_nil]

/-- The authentication service has plain messages appended. -/
theorem dispatch_serviceMessages (env : Env) (hq : s.proxy.m_authMessageQueue = true)
    (msg : String) (type : Int) (sid : String) :
    ∃ ops, (∀ e ∈ pending ops, plain e) ∧
      s.dispatch k origin note (s.proxy.handleAuthServiceAuthMessages env msg type sid) =
        ({ s with queue := s.queue.call ops }, []) := by
  have hnone :
      s.dispatch k origin note (s.proxy, []) = ({ s with queue := s.queue.call [] }, []) := by
    rw [dispatch_of_none rfl, proxyCall_calm rfl]
    simp [shows, mainOps, replies]
  have hone : ∀ m : AuthMsg, s.dispatch k origin note (s.proxy, [.append m]) =
      ({ s with queue := s.queue.call (append ⟨m, note⟩) }, []) := by
    intro m
    rw [dispatch_of_none rfl, proxyCall_calm rfl]
    simp [shows, mainOps, replies]
  unfold AuthProxy.handleAuthServiceAuthMessages
  simp only [hq, if_true]
  by_cases h1 : sid ≠ s.proxy.m_authSessionID
  · rw [if_pos h1]
    exact ⟨[], by simp [pending], hnone⟩
  · rw [if_neg h1]
    by_cases h2 : type = env.AUTH_SERVICE_PROMPT_ECHO_OFF ∨ type = env.AUTH_SERVICE_PROMPT_ECHO_ON
    · rw [if_pos h2]
      exact ⟨_, by simp [append, pending, plain, isComplete, isPamPrompt], hone _⟩
    · rw [if_neg h2]
      by_cases h3 : type = env.AUTH_SERVICE_TEXT_INFO ∨ type = env.AUTH_SERVICE_ERROR_MSG
      · rw [if_pos h3]
        exact ⟨_, by simp [append, pending, plain, isComplete, isPamPrompt], hone _⟩
      · rw [if_neg h3]
        exact ⟨[], by simp [pending], hnone⟩

theorem dispatch_serviceMethod (env : Env) (authType : AuthType) (method : BitVec 32)
    (sid : String) :
    s.dispatch k origin note
      (s.proxy, s.proxy.handleAuthServiceAuthMethodChanged env authType method sid) = (s, []) := by
  unfold AuthProxy.handleAuthServiceAuthMethodChanged
  split_ifs <;> rw [dispatch_of_none rfl, proxyCall_calm rfl] <;>
    simp [shows, mainOps, replies, call_nil]

/-- A message of the queue is shown. -/
theorem dispatch_queued (e : AuthMsg) :
    s.dispatch k origin note (s.proxy.handleAuthQueue e) =
      match e with
      | .prompt promptFrom promptType msg =>
        ({ s with
          proxy := { s.proxy with m_promptFrom := promptFrom }
          dialog := s.dialog.slotShowPrompt msg promptType }, [])
      | .message _ msg => ({ s with dialog := s.dialog.slotShowMessage msg }, [])
      | .complete authRes =>
        Sys.slotAuthenticationComplete { s with proxy := s.proxy.stopAuthSession.1 } k authRes := by
  rcases e with ⟨promptFrom, promptType, msg⟩ | ⟨type, msg⟩ | authRes
  · rfl
  · rfl
  · simp only [AuthProxy.handleAuthQueue, AuthProxy.handleAuthQueueComplete]
    rcases stopAuthSession_cases s.proxy with h | h <;> simp only [h] <;> rfl

/-- The user's text goes into the pipe, or to the authentication service. -/
theorem confirm_eq (env : Env) (e : PromptEdit) (text : String) :
    s.confirm env (e, some text) = { s with
      dialog := { s.dialog with promptEdit := e }
      toChild := s.toChild ++
        if s.proxy.m_promptFrom = .AUTH_SERVICE then [] else s.reply text s.userOrigin } := by
  unfold Sys.confirm AuthProxy.respond
  dsimp only
  split_ifs with h <;> rw [proxyCall_calm rfl] <;>
    simp [shows, mainOps, replies, call_nil, Sys.reply, Sys.userOrigin]

/-! ## The child -/

/-- The child is in the receive of a reply. -/
def waits (c : Child) : Bool :=
  match c.pc with
  | .waiting _ => true
  | _ => false

theorem msg_event_cases {m : Msg} {event : PamEvent} (h : m.event = some event) :
    (m.isPrompt = true ∧ ∃ secret text, event = .PromptRequestEvent secret text) ∨
      (m.isPrompt = false ∧ ∃ isError text, event = .MessageEvent isError text) := by
  unfold Msg.event at h
  unfold Msg.isPrompt
  split at h <;> rename_i hstyle <;> simp only [Option.some.injEq, reduceCtorEq] at h <;>
    simp [hstyle, ← h]

/-- A step of the child ends it, or takes a reply, or goes on to the next message
and may send one event, which is a prompt exactly when the child then waits. -/
theorem child_step_cases {c c1 : Child} {act : Act} {events : List PamEvent}
    (h : c.step act = some (c1, events)) :
    (∃ authRes getItem text, act = .finish authRes getItem text ∧ c1.pc = .exit ∧
      events = if getItem then [.CompleteEvent true (authRes = PAM_SUCCESS) text] else []) ∨
    (∃ r, act = .recv r ∧ waits c = true ∧ waits c1 = false ∧ events = []) ∨
    ((∀ authRes getItem text, act ≠ .finish authRes getItem text) ∧ (∀ r, act ≠ .recv r) ∧
      waits c = false ∧
      ((waits c1 = false ∧ (events = [] ∨ ∃ isError text, events = [.MessageEvent isError text])) ∨
        (waits c1 = true ∧ ∃ secret text, events = [.PromptRequestEvent secret text]))) := by
  have hstack : ∀ r : Return, waits (c.returnWith r) = false := fun r => rfl
  cases Child.steps_of_step h with
  | starts ok hpc =>
    refine Or.inr (Or.inr ⟨by simp, by simp, by simp [waits, hpc], Or.inl ⟨?_, Or.inl rfl⟩⟩)
    cases ok <;> rfl
  | calls msgs hpc =>
    exact Or.inr (Or.inr ⟨by simp, by simp, by simp [waits, hpc], Or.inl ⟨rfl, Or.inl rfl⟩⟩)
  | sendFails hpc =>
    exact Or.inr (Or.inr ⟨by simp, by simp, by simp [waits, hpc], Or.inl ⟨hstack _, Or.inl rfl⟩⟩)
  | @sends v m ms event hpc hrest hevent =>
    refine Or.inr (Or.inr ⟨by simp, by simp, by simp [waits, hpc], ?_⟩)
    rcases msg_event_cases hevent with ⟨hprompt, secret, text, rfl⟩ | ⟨hprompt, isError, text, rfl⟩
    · exact Or.inr ⟨by simp [waits, hprompt], secret, text, rfl⟩
    · exact Or.inl ⟨by simp [waits, hprompt], Or.inr ⟨isError, text, rfl⟩⟩
  | skips hpc =>
    exact Or.inr (Or.inr ⟨by simp, by simp, by simp [waits, hpc], Or.inl ⟨rfl, Or.inl rfl⟩⟩)
  | returns hpc =>
    exact Or.inr (Or.inr ⟨by simp, by simp, by simp [waits, hpc], Or.inl ⟨hstack _, Or.inl rfl⟩⟩)
  | receives text hpc => exact Or.inr (Or.inl ⟨_, rfl, by simp [waits, hpc], rfl, rfl⟩)
  | recvFails hpc => exact Or.inr (Or.inl ⟨_, rfl, by simp [waits, hpc], hstack _, rfl⟩)
  | finishes authRes getItem text => exact Or.inl ⟨authRes, getItem, text, rfl, rfl, rfl⟩

end session_guard.lock_screen
