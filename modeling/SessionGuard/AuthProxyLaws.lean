-- The laws of `AuthProxy` over its runs: whom a response goes to, how often a
-- session of the authentication service is stopped, and whose signals are
-- heard.
import SessionGuard.AuthRuns

open machine

namespace session_guard.auth_runs

open auth_msg_queue auth_proxy unicode

variable (env : Env)

/-! ## Effects that leave the past alone -/

/-- The effect neither opens nor stops a session, and starts no attempt. -/
def quiet : Effect → Bool
  | .createAuth (some _) => false
  | .stopAuth _ => false
  | .authAuthenticate _ => false
  | _ => true

/-- The effect emits no prompt. -/
def mute : Effect → Bool
  | .showPrompt _ _ => false
  | _ => true

/-- What each effect keeps of the past, all of them keep. -/
theorem foldl_keeps {α : Type} {f : History → α} {issuer : PromptFrom} {keeps : Effect → Bool}
    (hone : ∀ e h, keeps e = true → f (h.after issuer e) = f h) {es : List Effect}
    (hes : es.all keeps = true) (h : History) : f (es.foldl (History.after issuer) h) = f h := by
  induction es generalizing h with
  | nil => rfl
  | cons e es ih =>
    simp only [List.all_cons, Bool.and_eq_true] at hes
    exact (ih hes.2 _).trans (hone e h hes.1)

/-- What the past says about sessions. -/
def History.sessions (h : History) : List String × List String × List String :=
  (h.created, h.stopped, h.current)

theorem sessions_quiet (issuer : PromptFrom) {es : List Effect} (hes : es.all quiet = true)
    (h : History) : (es.foldl (History.after issuer) h).sessions = h.sessions := by
  refine foldl_keeps (fun e h he => ?_) hes h
  cases e with
  | createAuth reply =>
    cases reply with
    | none => rfl
    | some r => simp [quiet] at he
  | stopAuth sid => simp [quiet] at he
  | authAuthenticate u => simp [quiet] at he
  | _ => rfl

theorem lastPrompt_mute (issuer : PromptFrom) {es : List Effect} (hes : es.all mute = true)
    (h : History) : (es.foldl (History.after issuer) h).lastPrompt = h.lastPrompt := by
  refine foldl_keeps (fun e h he => ?_) hes h
  cases e with
  | createAuth reply => cases reply <;> rfl
  | showPrompt text type => simp [mute] at he
  | _ => rfl

/-- The prompt that was emitted last since `authenticate` is the last one of all. -/
theorem lastPrompt_since (issuer : PromptFrom) (es : List Effect) {h : History}
    (hs : ∀ i, h.prompted = some i → h.lastPrompt = some i) (i : PromptFrom)
    (hi : (es.foldl (History.after issuer) h).prompted = some i) :
    (es.foldl (History.after issuer) h).lastPrompt = some i := by
  induction es generalizing h with
  | nil => exact hs i hi
  | cons e es ih =>
    refine ih (fun j hj => ?_) hi
    cases e with
    | showPrompt text type => exact hj
    | authAuthenticate u => cases hj
    | createAuth reply => cases reply <;> exact hs j hj
    | _ => exact hs j hj

/-! ## What a handler does to the session -/

/-- The four things that a handler can do with the session of the proxy.
`Restarts` and `Creates` say when it can do two of them. -/
inductive SessionMove (Restarts : Prop) (Creates : String → Prop) (p p1 : AuthProxy)
    (h h1 : History) : Prop
  | keep (sid : p1.m_authSessionID = p.m_authSessionID) (past : h1.sessions = h.sessions)
  | restart (why : Restarts) (sid : p1.m_authSessionID = p.m_authSessionID)
    (past : h1.sessions = (h.created, h.stopped, []))
  | stop (isOpen : p.m_authSessionID ≠ "") (sid : p1.m_authSessionID = "")
    (past : h1.sessions = (h.created, h.stopped ++ [p.m_authSessionID],
      h.current.filter (· ≠ p.m_authSessionID)))
  | create (why : Creates p1.m_authSessionID)
    (past : h1.sessions = (h.created ++ [p1.m_authSessionID], h.stopped,
      h.current ++ [p1.m_authSessionID]))

variable {R : Prop} {C : String → Prop}

/-- Quiet effects after a move change nothing about it. -/
theorem SessionMove.andThen {issuer : PromptFrom} {p p1 p2 : AuthProxy} {h h1 : History}
    {es : List Effect} (hm : SessionMove R C p p1 h h1) (hes : es.all quiet = true)
    (hp : p2.m_authSessionID = p1.m_authSessionID) :
    SessionMove R C p p2 h (es.foldl (History.after issuer) h1) := by
  have hq := sessions_quiet issuer hes h1
  cases hm with
  | keep sid past => exact .keep (hp.trans sid) (hq.trans past)
  | restart why sid past => exact .restart why (hp.trans sid) (hq.trans past)
  | stop isOpen sid past => exact .stop isOpen (hp.trans sid) (hq.trans past)
  | create why past => exact .create (hp ▸ why) (hp ▸ hq.trans past)

/-- Quiet effects alone keep the session. -/
theorem SessionMove.ofQuiet (issuer : PromptFrom) {p p1 : AuthProxy} {es : List Effect}
    (hes : es.all quiet = true) (hp : p1.m_authSessionID = p.m_authSessionID) (h : History) :
    SessionMove R C p p1 h (es.foldl (History.after issuer) h) :=
  (SessionMove.keep rfl rfl : SessionMove R C p p h h).andThen hes hp

theorem stopAuthSession_move (issuer : PromptFrom) (p : AuthProxy) (h : History) :
    SessionMove R C p p.stopAuthSession.1 h
      (p.stopAuthSession.2.foldl (History.after issuer) h) := by
  unfold AuthProxy.stopAuthSession
  split_ifs with hsid
  · exact .keep rfl rfl
  · exact .stop (by simpa using hsid) rfl rfl

theorem stopAuthSession_mute (p : AuthProxy) : p.stopAuthSession.2.all mute = true := by
  rcases stopAuthSession_cases p with h | h <;> rw [h] <;> rfl

/-- A completion of the PAM interface stops the session, and the rest of what
it does is about neither sessions nor prompts. -/
theorem handlePamAuthComplete_eq (p : AuthProxy) (b : Bool) :
    ∃ rest, rest.all quiet = true ∧ rest.all mute = true ∧
      p.handlePamAuthComplete b = (p.stopAuthSession.1, p.stopAuthSession.2 ++ rest) := by
  unfold AuthProxy.handlePamAuthComplete
  simp only [stopAuthSession_twice, List.append_nil, List.append_assoc]
  split_ifs <;> exact ⟨_, rfl, rfl, rfl⟩

theorem handleAuthQueue_move (issuer : PromptFrom) (p : AuthProxy) (h : History) (m : AuthMsg) :
    SessionMove R C p (p.handleAuthQueue m).1 h
      ((p.handleAuthQueue m).2.foldl (History.after issuer) h) := by
  cases m with
  | prompt f t msg => apply SessionMove.ofQuiet issuer <;> rfl
  | message t msg => apply SessionMove.ofQuiet issuer <;> rfl
  | complete r =>
    simp only [AuthProxy.handleAuthQueue, AuthProxy.handleAuthQueueComplete, List.foldl_append]
    exact (stopAuthSession_move issuer p h).andThen rfl rfl

/-- The event is a call of `authenticate`. -/
def Event.isAuthenticate : Event → Bool
  | .authenticate _ => true
  | _ => false

/-- The event asks for a session, and `CreateAuth` returns the id. -/
def Event.Creates (sid : String) : Event → Prop
  | .pamPrompt _ (some (id, _)) text _ => text = env.ASK_AUTH_SID ∧ id = sid
  | _ => False

/-- What the handler of an event does with the session. -/
theorem handler_move (issuer : PromptFrom) (p : AuthProxy) (h : History) (e : Event) :
    SessionMove (e.isAuthenticate = true) (fun sid => e.Creates env sid) p (e.handler env p).1 h
      ((e.handler env p).2.foldl (History.after issuer) h) := by
  cases e with
  | authenticate u =>
    simp only [Event.handler, AuthProxy.authenticate]
    split_ifs <;> exact .restart rfl rfl rfl
  | cancelAuthentication =>
    simp only [Event.handler, AuthProxy.cancelAuthentication]
    split_ifs <;> exact stopAuthSession_move issuer p h
  | destroy => apply SessionMove.ofQuiet issuer <;> rfl
  | respond r =>
    simp only [Event.handler, AuthProxy.respond]
    split_ifs <;> apply SessionMove.ofQuiet issuer <;> rfl
  | pamComplete b =>
    obtain ⟨rest, hquiet, -, heq⟩ := handlePamAuthComplete_eq p b
    simp only [Event.handler, heq, List.foldl_append]
    exact (stopAuthSession_move issuer p h).andThen hquiet rfl
  | pamPrompt user reply text type =>
    simp only [Event.handler, AuthProxy.handlePamAuthShowPrompt]
    split_ifs with htext
    · rcases reply with _ | ⟨sid, key⟩
      · apply SessionMove.ofQuiet issuer <;> rfl
      · exact .create ⟨htext, rfl⟩ rfl
    all_goals apply SessionMove.ofQuiet issuer <;> rfl
  | pamMessage text type =>
    simp only [Event.handler, AuthProxy.handlePamAuthShowMessage]
    split_ifs <;> apply SessionMove.ofQuiet issuer <;> rfl
  | serviceMessages msg type sid =>
    simp only [Event.handler, AuthProxy.handleAuthServiceAuthMessages]
    split_ifs <;> apply SessionMove.ofQuiet issuer <;> rfl
  | serviceMethod authType method sid =>
    simp only [Event.handler, AuthProxy.handleAuthServiceAuthMethodChanged]
    split_ifs <;> apply SessionMove.ofQuiet issuer <;> rfl

/-! ## Whom a response goes to -/

/-- The effects encrypt all bytes of this response with the key of the proxy, and send that to the
service under the id of its session. -/
def toService (p : AuthProxy) (response : String) (out : List Effect) : Prop :=
  .rsaPublicEncrypt (utf8 response) p.m_authPublicKey ∈ out ∧
    .responseMessage (env.toBase64 (env.rsaPublicEncrypt (utf8 response) p.m_authPublicKey))
      p.m_authSessionID ∈ out

/-- The effect sends something to the service. -/
def toAnyService : Effect → Bool
  | .responseMessage _ _ => true
  | _ => false

/-- The effect sends this response to the PAM interface. -/
def toPam (response : String) : Effect → Bool
  | .authRespond r => r = response
  | _ => false

/-- A response goes to the issuer of the prompt that was emitted last since
the latest `authenticate`: to the service with all of its bytes and the id of
its session, which is not empty. With no such prompt it never goes to the
service. -/
def RoutesRight {Q : Type} (s : Sys Q) (response : String) : Prop :=
  let out := s.proxy.respond env response
  (s.history.prompted = some .PAM →
    out.any (toPam response) = true ∧ out.any toAnyService = false) ∧
  (s.history.prompted = some .AUTH_SERVICE →
    s.proxy.m_authSessionID ≠ "" ∧ toService env s.proxy response out ∧
      out.any (toPam response) = false) ∧
  (s.history.prompted = none → out.any toAnyService = false)

/-- `m_promptFrom` is the issuer of the last prompt, and the prompts in the bag
name their issuers. -/
structure PromptInv (s : Sys (List (Entry Note))) : Prop where
  agrees : s.proxy.m_promptFrom = s.history.lastPrompt.getD .PAM
  since : ∀ i, s.history.prompted = some i → s.history.lastPrompt = some i
  bag : ∀ e ∈ s.queue, ∀ f t m, e.msg = .prompt f t m → f = e.note.issuer

/-- A handler appends only prompts that name the issuer it serves. -/
theorem handler_appends (p : AuthProxy) (e : Event) {f : PromptFrom} {t : PromptType} {m : String}
    (h : .append (.prompt f t m) ∈ (e.handler env p).2) : f = e.issuer := by
  cases e with
  | authenticate u =>
    simp only [Event.handler, AuthProxy.authenticate] at h
    split_ifs at h <;> simp at h
  | cancelAuthentication =>
    simp only [Event.handler, AuthProxy.cancelAuthentication, AuthProxy.stopAuthSession] at h
    split_ifs at h <;> simp at h
  | destroy => simp [Event.handler, AuthProxy.destroy] at h
  | respond r =>
    simp only [Event.handler, AuthProxy.respond] at h
    split_ifs at h <;> simp at h
  | pamComplete b =>
    simp only [Event.handler, AuthProxy.handlePamAuthComplete, AuthProxy.stopAuthSession] at h
    split_ifs at h <;> simp at h
  | pamPrompt user reply text type =>
    simp only [Event.handler, AuthProxy.handlePamAuthShowPrompt] at h
    split_ifs at h
    · rcases reply with _ | ⟨sid, key⟩ <;> simp at h
    · simp at h
    · simp at h
    · simp at h
      exact h.1
    · simp at h
  | pamMessage text type =>
    simp only [Event.handler, AuthProxy.handlePamAuthShowMessage] at h
    split_ifs at h <;> simp at h
  | serviceMessages msg type sid =>
    simp only [Event.handler, AuthProxy.handleAuthServiceAuthMessages] at h
    split_ifs at h <;> simp at h <;> exact h.1
  | serviceMethod authType method sid =>
    simp only [Event.handler, AuthProxy.handleAuthServiceAuthMethodChanged] at h
    split_ifs at h <;> simp at h

/-- Mute effects of a handler that keeps `m_promptFrom` keep the agreement. -/
theorem prompted_agrees {issuer : PromptFrom} {p p1 : AuthProxy} {h : History} {es : List Effect}
    (ha : p.m_promptFrom = h.lastPrompt.getD .PAM) (hp : p1.m_promptFrom = p.m_promptFrom)
    (hes : es.all mute = true) :
    p1.m_promptFrom = (es.foldl (History.after issuer) h).lastPrompt.getD .PAM := by
  rw [lastPrompt_mute issuer hes]
  exact hp.trans ha

/-- A handler that emits no prompt keeps `m_promptFrom`, and one that emits a
prompt sets it to the issuer. -/
theorem handler_prompted (p : AuthProxy) (h : History) (e : Event)
    (ha : p.m_promptFrom = h.lastPrompt.getD .PAM) :
    (e.handler env p).1.m_promptFrom =
      ((e.handler env p).2.foldl (History.after e.issuer) h).lastPrompt.getD .PAM := by
  cases e with
  | authenticate u =>
    simp only [Event.handler, AuthProxy.authenticate]
    split_ifs <;> exact prompted_agrees ha rfl rfl
  | cancelAuthentication =>
    refine prompted_agrees ha (stopAuthSession_promptFrom p) ?_
    simp only [Event.handler, AuthProxy.cancelAuthentication, List.all_append,
      stopAuthSession_mute p]
    split_ifs <;> rfl
  | destroy => exact prompted_agrees ha rfl rfl
  | respond r =>
    simp only [Event.handler, AuthProxy.respond]
    split_ifs <;> exact prompted_agrees ha rfl rfl
  | pamComplete b =>
    obtain ⟨rest, -, hrest, heq⟩ := handlePamAuthComplete_eq p b
    simp only [Event.handler, heq]
    refine prompted_agrees ha (stopAuthSession_promptFrom p) ?_
    simp only [List.all_append, stopAuthSession_mute p, hrest]
    rfl
  | pamPrompt user reply text type =>
    simp only [Event.handler, AuthProxy.handlePamAuthShowPrompt]
    split_ifs
    · rcases reply with _ | ⟨sid, key⟩ <;> exact prompted_agrees ha rfl rfl
    · exact prompted_agrees ha rfl rfl
    · exact prompted_agrees ha rfl rfl
    · exact prompted_agrees ha rfl rfl
    · simp [History.after, Event.issuer]
  | pamMessage text type =>
    simp only [Event.handler, AuthProxy.handlePamAuthShowMessage]
    split_ifs <;> exact prompted_agrees ha rfl rfl
  | serviceMessages msg type sid =>
    simp only [Event.handler, AuthProxy.handleAuthServiceAuthMessages]
    split_ifs <;>
      first
        | exact prompted_agrees ha rfl rfl
        | simp [History.after, Event.issuer]
  | serviceMethod authType method sid =>
    simp only [Event.handler, AuthProxy.handleAuthServiceAuthMethodChanged]
    split_ifs <;> exact prompted_agrees ha rfl rfl

/-- A message of the bag keeps the agreement, and appends nothing. -/
theorem handleAuthQueue_prompted (p : AuthProxy) (h : History) (e : Entry Note)
    (ha : p.m_promptFrom = h.lastPrompt.getD .PAM)
    (he : ∀ f t m, e.msg = .prompt f t m → f = e.note.issuer) :
    (p.handleAuthQueue e.msg).1.m_promptFrom =
      ((p.handleAuthQueue e.msg).2.foldl (History.after e.note.issuer) h).lastPrompt.getD .PAM ∧
    ∀ m, .append m ∉ (p.handleAuthQueue e.msg).2 := by
  rcases hmsg : e.msg with ⟨f, t, m⟩ | ⟨t, m⟩ | r
  · have := he f t m hmsg
    exact ⟨by simp [AuthProxy.handleAuthQueue, AuthProxy.handleAuthQueueShowPrompt, History.after,
      this], by simp [AuthProxy.handleAuthQueue, AuthProxy.handleAuthQueueShowPrompt]⟩
  · exact ⟨prompted_agrees ha rfl rfl,
      by simp [AuthProxy.handleAuthQueue, AuthProxy.handleAuthQueueShowMessage]⟩
  · refine ⟨prompted_agrees ha (stopAuthSession_promptFrom p) ?_, ?_⟩
    · simp only [AuthProxy.handleAuthQueue, AuthProxy.handleAuthQueueComplete, List.all_append,
        stopAuthSession_mute p]
      rfl
    · simp only [AuthProxy.handleAuthQueue, AuthProxy.handleAuthQueueComplete,
        AuthProxy.stopAuthSession]
      split_ifs <;> simp

theorem promptInv_step {s s1 : Sys (List (Entry Note))} {e : BagEvent} {o : List Effect}
    (hs : PromptInv s) (h : bagStep env s e = some (s1, o)) : PromptInv s1 := by
  cases e with
  | main e =>
    obtain ⟨-, -, rfl⟩ := handle_eq_some env h
    refine ⟨handler_prompted env s.proxy s.history e hs.agrees,
      lastPrompt_since e.issuer (e.handler env s.proxy).2 hs.since, ?_⟩
    intro x hx f t m hm
    rcases List.mem_append.mp hx with hx | hx
    · exact hs.bag x hx f t m hm
    · obtain ⟨m', hm', rfl⟩ := mem_pending_mainOps.mp hx
      subst (hm : m' = .prompt f t m)
      exact handler_appends env s.proxy e hm'
  | deliver i =>
    simp only [bagStep] at h
    split at h
    · cases h
    · rename_i x hx
      obtain ⟨-, -, rfl⟩ := receive_eq_some h
      have hmem := List.mem_of_getElem? hx
      obtain ⟨hp, hno⟩ := handleAuthQueue_prompted s.proxy s.history x hs.agrees (hs.bag x hmem)
      refine ⟨hp, lastPrompt_since x.note.issuer (s.proxy.handleAuthQueue x.msg).2 hs.since, ?_⟩
      intro y hy f t m hm
      rcases List.mem_append.mp hy with hy | hy
      · exact hs.bag y (List.mem_of_mem_eraseIdx hy) f t m hm
      · obtain ⟨m', hm', -⟩ := mem_pending_mainOps.mp hy
        exact (hno m' hm').elim
  | lose i =>
    simp only [bagStep, Option.some.injEq, Prod.mk.injEq] at h
    obtain ⟨rfl, rfl⟩ := h
    exact ⟨hs.agrees, hs.since, fun x hx => hs.bag x (List.mem_of_mem_eraseIdx hx)⟩

/-- Where the response goes to the service, all of its bytes do exactly when it is ASCII. -/
theorem respond_toService_iff {p : AuthProxy} (hp : p.m_promptFrom = .AUTH_SERVICE)
    (response : String) : toService env p response (p.respond env response) ↔ IsAscii response := by
  rw [← plaintext_eq_iff]
  unfold toService AuthProxy.respond
  rw [if_pos hp]
  constructor
  · rintro ⟨hencrypt, -⟩
    simp only [List.mem_cons, Effect.rsaPublicEncrypt.injEq, reduceCtorEq, List.not_mem_nil,
      or_false, and_true] at hencrypt
    exact hencrypt.symm
  · intro heq
    rw [heq]
    exact ⟨List.mem_cons_self, List.mem_cons_of_mem _ List.mem_cons_self⟩

/-- In every state that a run reaches, a response is routed right if and only if, when the last
prompt of all was one of the service, it was emitted since the latest `authenticate`, the session
has an id, and the response is ASCII. -/
theorem a_response_goes_to_its_issuer_iff {msgQueue : Bool} {es : List BagEvent}
    {t : Sys (List (Entry Note))} {o : List Effect}
    (h : run (bagStep env) (.bagged env msgQueue) es = some (t, o)) (response : String) :
    RoutesRight env t response ↔
      (t.history.lastPrompt = some .AUTH_SERVICE →
        t.history.prompted.isSome = true ∧ t.proxy.m_authSessionID ≠ "" ∧ IsAscii response) := by
  have hinv : PromptInv t :=
    run_inv (fun s e s1 o1 hs hstep => promptInv_step env hs hstep)
      ⟨rfl, by simp [Sys.bagged], by simp [Sys.bagged]⟩ h
  have hissuer : ∀ i, t.history.prompted = some i → t.proxy.m_promptFrom = i := by
    intro i hi
    rw [hinv.agrees, hinv.since i hi, Option.getD_some]
  have hlast : t.history.lastPrompt = some .AUTH_SERVICE ↔
      t.proxy.m_promptFrom = .AUTH_SERVICE := by
    rw [hinv.agrees]
    rcases t.history.lastPrompt with _ | _ | _ <;> simp
  rw [hlast]
  unfold RoutesRight
  dsimp only
  rcases hprompt : t.history.prompted with _ | _ | _
  · cases hfrom : t.proxy.m_promptFrom <;> simp [AuthProxy.respond, hfrom, toAnyService]
  · simp [AuthProxy.respond, hissuer .PAM hprompt, toPam, toAnyService]
  · have hservice := hissuer .AUTH_SERVICE hprompt
    rw [respond_toService_iff env hservice]
    simp [AuthProxy.respond, hservice, toPam]

/-- A session of the service, and a prompt of it. -/
def promptOfService : List BagEvent :=
  [.main (.authenticate "root"), .main (.pamPrompt "root" (some ("1", "key")) "ReqAuthSid" .Secret),
    .main (.serviceMessages "Password:" 1 "1")]

/-- After a prompt of the service, the next attempt sends a response to the
service before it has emitted any prompt. -/
theorem a_new_attempt_answers_the_old_service :
    ¬ ∀ es t o, run (bagStep sampleEnv) (.bagged sampleEnv false) es = some (t, o) →
      ∀ response, RoutesRight sampleEnv t response := by
  intro h
  have hlast := h (promptOfService ++ [.main (.authenticate "root")]) _ _ rfl "secret"
  exact absurd (hlast.2.2 rfl) (by decide)

/-- A response to the service goes there with the id of the session. -/
theorem a_prompt_of_the_service_is_answered_there :
    ∃ t o, run (bagStep sampleEnv) (.bagged sampleEnv false) promptOfService = some (t, o) ∧
      RoutesRight sampleEnv t "secret" :=
  ⟨_, _, rfl, (@a_response_goes_to_its_issuer_iff sampleEnv false promptOfService _ _ rfl
    "secret").mpr fun _ => ⟨by decide, by decide, by decide⟩⟩

/-! ## How often a session is stopped -/

/-- The session that the proxy holds, if any. -/
def openSession (p : AuthProxy) : List String :=
  if p.m_authSessionID = "" then [] else [p.m_authSessionID]

/-- Every session that was created is stopped exactly once, but for at most
one that is not stopped yet, and that one is `m_authSessionID`. After the end
of the proxy all are stopped. -/
def SessionsStopped {Q : Type} (s : Sys Q) : Prop :=
  s.history.created.Perm (s.history.stopped ++ openSession s.proxy) ∧
    (s.alive = false → openSession s.proxy = [])

/-- A session is created only when the proxy holds none, and its id is not
empty. The proxy is destroyed only when it holds none. -/
def HoldsOne {Q : Type} (s : Sys Q) (e : Event) : Prop :=
  (∀ sid, e.Creates env sid → s.proxy.m_authSessionID = "" ∧ sid ≠ "") ∧
    (e.isDestroy = true → s.proxy.m_authSessionID = "")

/-- A law of the events of the main thread. -/
def BagEvent.Law (G : Sys (List (Entry Note)) → Event → Prop) (s : Sys (List (Entry Note))) :
    BagEvent → Prop
  | .main e => G s e
  | _ => True

/-- A move keeps the account, when a creation finds no session. -/
theorem SessionMove.account {p p1 : AuthProxy} {h h1 : History} (hm : SessionMove R C p p1 h h1)
    (hC : ∀ sid, C sid → p.m_authSessionID = "" ∧ sid ≠ "")
    (hp : h.created.Perm (h.stopped ++ openSession p)) :
    h1.created.Perm (h1.stopped ++ openSession p1) := by
  cases hm with
  | keep sid past =>
    simp only [History.sessions, Prod.mk.injEq] at past
    simpa only [past, openSession, sid] using hp
  | restart why sid past =>
    simp only [History.sessions, Prod.mk.injEq] at past
    simpa only [past, openSession, sid] using hp
  | stop isOpen sid past =>
    simp only [History.sessions, Prod.mk.injEq] at past
    simpa [past, openSession, sid, isOpen] using hp
  | create why past =>
    obtain ⟨hnone, hsid⟩ := hC _ why
    simp only [History.sessions, Prod.mk.injEq] at past
    simp only [past, openSession, hsid, if_false]
    simp only [openSession, hnone, if_true, List.append_nil] at hp
    exact hp.append_right _

/-- With no queue or with any queue, every run that creates a session only
when the proxy holds none, and destroys the proxy only when it holds none,
stops each session exactly once. -/
theorem every_session_is_stopped_once {msgQueue : Bool} {es : List BagEvent}
    {t : Sys (List (Entry Note))} {o : List Effect}
    (hG : Meets (bagStep env) (BagEvent.Law (HoldsOne env)) (.bagged env msgQueue) es)
    (h : run (bagStep env) (.bagged env msgQueue) es = some (t, o)) : SessionsStopped t := by
  refine run_inv_of_meets (I := SessionsStopped) (fun s e s1 o1 hs hg hstep => ?_)
    ⟨by simp [Sys.bagged, openSession, AuthProxy.fresh], by simp [Sys.bagged]⟩ hG h
  cases e with
  | main e =>
    obtain ⟨-, -, rfl⟩ := handle_eq_some env hstep
    have hmove := handler_move env e.issuer s.proxy s.history e
    refine ⟨hmove.account hg.1 hs.1, ?_⟩
    intro hdead
    cases e <;> simp [Event.isDestroy] at hdead
    simp [Sys.after, Event.handler, openSession, hg.2 rfl]
  | deliver i =>
    simp only [bagStep] at hstep
    split at hstep
    · cases hstep
    · rename_i x hx
      obtain ⟨halive, -, rfl⟩ := receive_eq_some hstep
      have hmove := handleAuthQueue_move (R := False) (C := fun _ => False) x.note.issuer s.proxy
        s.history x.msg
      exact ⟨hmove.account (by simp) hs.1, by simp [Sys.after, show s.alive = true from halive]⟩
  | lose i =>
    simp only [bagStep, Option.some.injEq, Prod.mk.injEq] at hstep
    obtain ⟨rfl, rfl⟩ := hstep
    exact hs

/-- The destructor cancels the PAM interface, not the proxy, and leaves the
session of the service open. -/
theorem the_destructor_leaves_the_session_open :
    ¬ ∀ es t o, run (bagStep sampleEnv) (.bagged sampleEnv false) es = some (t, o) →
      SessionsStopped t := by
  intro h
  have := (h (promptOfService ++ [.main .destroy]) _ _ rfl).2 rfl
  revert this
  decide

/-- A cancel before the end stops the session. -/
theorem a_cancel_before_the_end_stops_the_session :
    ∃ t o, run (bagStep sampleEnv) (.bagged sampleEnv false)
        (promptOfService ++ [.main .cancelAuthentication, .main .destroy]) = some (t, o) ∧
      SessionsStopped t := by
  refine ⟨_, _, rfl, @every_session_is_stopped_once sampleEnv false (promptOfService ++
    [.main .cancelAuthentication, .main .destroy]) _ _ ?_ rfl⟩
  refine meets_cons rfl ⟨fun _ h => h.elim, nofun⟩ <| meets_cons rfl
    ⟨fun sid h => ⟨rfl, h.2 ▸ by decide⟩, nofun⟩ <| meets_cons rfl ⟨fun _ h => h.elim, nofun⟩ <|
    meets_cons rfl ⟨fun _ h => h.elim, nofun⟩ <|
    meets_cons rfl ⟨fun _ h => h.elim, fun _ => rfl⟩ trivial

/-! ## Whose signals are heard -/

/-- The effect shows something to the user, now or through the queue. -/
def audible : Effect → Bool
  | .append _ => true
  | .showPrompt _ _ => true
  | .showMessage _ _ => true
  | .authTypeChanged _ => true
  | _ => false

/-- The session id that a signal of the authentication service carries. -/
def Event.sid : Event → Option String
  | .serviceMessages _ _ sid => some sid
  | .serviceMethod _ _ sid => some sid
  | _ => none

/-- A signal of the authentication service is heard only if it is about a
session that was created since the latest `authenticate` and is not stopped. -/
def HearsCurrent {Q : Type} (s : Sys Q) (e : Event) : Prop :=
  ∀ sid ∈ e.sid, (e.handler env s.proxy).2.any audible = true → sid ∈ s.history.current

/-- A signal with an empty id comes only while the proxy holds a session, and while the proxy holds
one, a signal comes only when some session of the current attempt is open. -/
def NamesSession {Q : Type} (s : Sys Q) (e : Event) : Prop :=
  ∀ sid ∈ e.sid, (sid = "" → s.proxy.m_authSessionID ≠ "") ∧
    (s.proxy.m_authSessionID ≠ "" → s.history.current ≠ [])

/-- The session of the proxy is of the current attempt and is not stopped, once the attempt has a
session. -/
def HoldsCurrent {Q : Type} (s : Sys Q) : Prop :=
  s.proxy.m_authSessionID ≠ "" → s.history.current ≠ [] →
    s.proxy.m_authSessionID ∈ s.history.current

theorem SessionMove.holdsCurrent {p p1 : AuthProxy} {h h1 : History}
    (hm : SessionMove R C p p1 h h1)
    (hp : p.m_authSessionID ≠ "" → h.current ≠ [] → p.m_authSessionID ∈ h.current) :
    p1.m_authSessionID ≠ "" → h1.current ≠ [] → p1.m_authSessionID ∈ h1.current := by
  intro hsid hsome
  cases hm with
  | keep sid past =>
    simp only [History.sessions, Prod.mk.injEq] at past
    rw [past.2.2] at hsome ⊢
    rw [sid]
    exact hp (sid ▸ hsid) hsome
  | restart why sid past =>
    -- a new attempt has no session yet
    simp only [History.sessions, Prod.mk.injEq] at past
    exact absurd past.2.2 hsome
  | stop isOpen sid past => exact absurd sid hsid
  | create why past =>
    simp only [History.sessions, Prod.mk.injEq] at past
    simp [past.2.2]

/-- A signal with another id is not heard. -/
theorem a_signal_of_another_session_is_not_heard (p : AuthProxy) (e : Event) {sid : String}
    (he : e.sid = some sid) (hne : sid ≠ p.m_authSessionID) : (e.handler env p).2 = [] := by
  cases e with
  | serviceMessages msg type sid' =>
    obtain rfl : sid' = sid := Option.some.inj he
    simp [Event.handler, AuthProxy.handleAuthServiceAuthMessages, hne]
  | serviceMethod authType method sid' =>
    obtain rfl : sid' = sid := Option.some.inj he
    simp [Event.handler, AuthProxy.handleAuthServiceAuthMethodChanged, hne]
  | _ => simp [Event.sid] at he

/-- With no queue or with any queue, in every run where no signal with an empty
id comes to a proxy without a session, and none at all to a proxy that holds a
session but none of the current attempt, every signal that is heard is about a
session of the current attempt. -/
theorem only_the_current_session_is_heard {msgQueue : Bool} {es : List BagEvent}
    (hG : Meets (bagStep env) (BagEvent.Law NamesSession) (.bagged env msgQueue) es) :
    Always (bagStep env) (fun s e _ _ => e.Law (HearsCurrent env) s) (.bagged env msgQueue) es := by
  refine always_of_inv (I := HoldsCurrent) (fun s e s1 o1 hs hg hstep => ?_)
    (by simp [HoldsCurrent, Sys.bagged, AuthProxy.fresh]) hG
  cases e with
  | main e =>
    obtain ⟨-, -, rfl⟩ := handle_eq_some env hstep
    have hmove := handler_move env e.issuer s.proxy s.history e
    refine ⟨hmove.holdsCurrent hs, ?_⟩
    intro sid hsid hheard
    obtain ⟨hempty, hopen⟩ := hg sid hsid
    by_cases hne : sid = s.proxy.m_authSessionID
    · have hholds : s.proxy.m_authSessionID ≠ "" := fun h => hempty (hne.trans h) h
      exact hne ▸ hs hholds (hopen hholds)
    · simp [a_signal_of_another_session_is_not_heard env s.proxy e hsid hne] at hheard
  | deliver i =>
    simp only [bagStep] at hstep
    split at hstep
    · cases hstep
    · rename_i x hx
      obtain ⟨-, -, rfl⟩ := receive_eq_some hstep
      have hmove := handleAuthQueue_move (R := False) (C := fun _ => False) x.note.issuer s.proxy
        s.history x.msg
      exact ⟨hmove.holdsCurrent hs, trivial⟩
  | lose i =>
    simp only [bagStep, Option.some.injEq, Prod.mk.injEq] at hstep
    obtain ⟨rfl, rfl⟩ := hstep
    exact ⟨hs, trivial⟩

/-- A new proxy holds no session, and hears a prompt with an empty id. -/
theorem an_empty_id_is_heard_before_any_session :
    ¬ ∀ es, Always (bagStep sampleEnv) (fun s e _ _ => e.Law (HearsCurrent sampleEnv) s)
      (.bagged sampleEnv false) es := by
  intro h
  have hheard := (h [.main (.serviceMessages "Password:" 1 "")] _ _ rfl).1
  exact absurd (hheard "" rfl (by decide)) (by decide)

/-- A prompt under the id of the current session is heard. -/
theorem a_prompt_of_the_current_session_is_heard :
    Always (bagStep sampleEnv) (fun s e _ _ => e.Law (HearsCurrent sampleEnv) s)
      (.bagged sampleEnv false) promptOfService :=
  only_the_current_session_is_heard sampleEnv <|
    meets_cons rfl (fun sid h => by cases h) <|
    meets_cons rfl (fun sid h => by cases h) <|
    meets_cons rfl (fun sid h => by cases h; exact ⟨by decide, fun _ => by decide⟩) trivial

end session_guard.auth_runs
