-- One reply for each prompt of the child. Nothing in the pipe says which
-- prompt a reply answers, so the law rests on a count: the prompt that the child
-- waits for is in one place at most, on its way to the user or back.
import SessionGuard.UnlockSafety

open machine

namespace session_guard.lock_screen

open pam_message auth_pam auth_msg_queue auth_proxy auth_runs checkpass prompt_edit

variable (env : Env)

/-! ## Where the prompt is -/

/-- Is the frame a prompt? -/
def prompts (f : Frame) : Bool :=
  match f with
  | some (.PromptRequestEvent _ _) => true
  | _ => false

/-- A text that the user confirms now is a reply to the PAM prompt that is
shown. -/
def answerable (s : Sys) : Bool :=
  s.dialog.promptEdit.editEnabled && s.dialog.m_havePrompt && s.proxy.m_promptFrom = .PAM

/-- How often the prompt of the child is on its way: in the pipe, in the queue,
before the user, or as a reply in the pipe back. -/
def tokens (s : Sys) : Nat :=
  s.toParent.countP prompts + s.queue.flight.countP isPamPrompt + (answerable s).toNat +
    s.toChild.length

/-- The reply answers the latest prompt of the child. -/
def Answers (s : Sys) (origin : Origin) : Prop :=
  origin = .auto s.history.sent ∨ origin = .user s.history.sent

/-- What holds of a live child. -/
structure LiveReplies (s : Sys) : Prop where
  answers : ∀ r ∈ s.toChild, Answers s r.2
  length : s.toChild.length ≤ (waits s.child).toNat

/-- What holds of a live child whose parent still reads. -/
structure LivePrompts (s : Sys) : Prop where
  tokens_le : tokens s ≤ (waits s.child).toNat
  heard : s.history.heard + s.toParent.countP prompts = s.history.sent
  index : ∀ e ∈ s.queue.flight, isPamPrompt e = true → e.note.index = s.history.sent
  shown : answerable s = true → s.history.shown = s.history.sent

structure ReplyInv (s : Sys) : Prop where
  replies : s.childAlive = true → LiveReplies s
  prompts : s.childAlive = true → s.pam.inAuthentication = true → LivePrompts s

/-! ## Steps that put no reply in the pipe -/

/-- The prompt of the child stays where it is, or is lost. -/
structure Keeps (s t : Sys) : Prop where
  child : waits t.child = waits s.child := by rfl
  sent : t.history.sent = s.history.sent := by rfl
  toChild : t.toChild = s.toChild := by rfl
  heard : t.history.heard = s.history.heard := by rfl
  requests : t.toParent.countP prompts = s.toParent.countP prompts := by rfl
  flight : List.Sublist (t.queue.flight.filter isPamPrompt)
    (s.queue.flight.filter isPamPrompt) := by exact List.Sublist.refl _
  answerable : answerable t = true →
    answerable s = true ∧ t.history.shown = s.history.shown := by exact fun h => ⟨h, rfl⟩

theorem LiveReplies.keeps {s t : Sys} (hs : LiveReplies s) (hc : waits t.child = waits s.child)
    (hsent : t.history.sent = s.history.sent) (ht : t.toChild = s.toChild) : LiveReplies t where
  answers := by
    intro r hr
    unfold Answers
    rw [hsent]
    exact hs.answers r (ht ▸ hr)
  length := by rw [ht, hc]; exact hs.length

theorem LivePrompts.keeps {s t : Sys} (hs : LivePrompts s) (h : Keeps s t) : LivePrompts t where
  tokens_le := by
    have hle : tokens t ≤ tokens s := by
      have h1 := h.flight.length_le
      have h2 : (answerable t).toNat ≤ (answerable s).toNat := by
        rcases ha : answerable t
        · simp
        · simp [(h.answerable ha).1]
      simp only [tokens, List.countP_eq_length_filter, h.toChild] at h1 ⊢
      have h3 := h.requests
      simp only [List.countP_eq_length_filter] at h3
      omega
    rw [h.child]
    exact hle.trans hs.tokens_le
  heard := by rw [h.heard, h.requests, h.sent]; exact hs.heard
  index := by
    intro e he hp
    rw [h.sent]
    have := h.flight.subset (List.mem_filter.mpr ⟨he, hp⟩)
    exact hs.index e (List.mem_filter.mp this).1 hp
  shown := by
    intro ha
    obtain ⟨ha', hshown⟩ := h.answerable ha
    rw [hshown, h.sent]
    exact hs.shown ha'

theorem ReplyInv.keeps {s t : Sys} (hs : ReplyInv s)
    (halive : t.childAlive = true → s.childAlive = true)
    (hin : t.pam.inAuthentication = true → s.pam.inAuthentication = true) (h : Keeps s t) :
    ReplyInv t where
  replies := fun ha => (hs.replies (halive ha)).keeps h.child h.sent h.toChild
  prompts := fun ha hi => (hs.prompts (halive ha) (hin hi)).keeps h

/-- New messages that are no PAM prompts do not count. -/
theorem filter_append_plain {xs ys : List (Entry Note)} (h : ∀ e ∈ ys, isPamPrompt e = false) :
    (xs ++ ys).filter isPamPrompt = xs.filter isPamPrompt := by
  have hnil : ys.filter isPamPrompt = [] := List.filter_eq_nil_iff.mpr fun e he => by simp [h e he]
  rw [List.filter_append, hnil, List.append_nil]

theorem countP_prompts_nil {fs gs : List Frame} (h : ∀ f ∈ gs, prompts f = false) :
    (fs ++ gs).countP prompts = fs.countP prompts := by
  have hzero : gs.countP prompts = 0 := List.countP_eq_zero.mpr fun f hf => by simp [h f hf]
  rw [List.countP_append, hzero, Nat.add_zero]

/-! ## Steps that put a reply in the pipe -/

/-- The proxy replies to the prompt that the parent has just read. -/
theorem auto_reply {s : Sys} {fs : List Frame} {secret : Bool} {text response : String}
    {p : AuthProxy} (hs : ReplyInv s) (hin : s.pam.inAuthentication = true)
    (hp : s.toParent = some (.PromptRequestEvent secret text) :: fs)
    (hfrom : p.m_promptFrom = s.proxy.m_promptFrom) :
    ReplyInv { s with
      toParent := fs
      proxy := p
      toChild := s.toChild ++ s.reply response (.auto (s.history.heard + 1))
      history := { s.history with heard := s.history.heard + 1 } } := by
  have hreply : s.reply response (.auto (s.history.heard + 1)) =
      [(.PromptReplyEvent true response, .auto (s.history.heard + 1))] := if_pos hin
  have hcount : s.toParent.countP prompts = fs.countP prompts + 1 := by
    rw [hp]
    exact List.countP_cons_of_pos rfl
  constructor
  · intro halive
    have hprompts := hs.prompts halive hin
    have htokens := hprompts.tokens_le
    have hheard := hprompts.heard
    have hwaits := Bool.toNat_le (waits s.child)
    rw [hcount] at hheard
    simp only [tokens, hcount] at htokens
    constructor
    · rw [hreply]
      intro r hr
      rcases List.mem_append.mp hr with hr | hr
      · exact (hs.replies halive).answers r hr
      · obtain rfl := List.mem_singleton.mp hr
        have hlast : s.history.heard + 1 = s.history.sent := by omega
        exact Or.inl (congrArg Origin.auto hlast)
    · simp only [hreply, List.length_append, List.length_singleton]
      omega
  · intro halive _
    have hprompts := hs.prompts halive hin
    have htokens := hprompts.tokens_le
    have hheard := hprompts.heard
    rw [hcount] at hheard
    simp only [tokens, hcount] at htokens
    refine ⟨?_, ?_, hprompts.index, ?_⟩
    · simp only [tokens, answerable, hreply, hfrom, List.length_append, List.length_singleton]
      simp only [answerable] at htokens
      omega
    · simp only
      omega
    · have hshown := hprompts.shown
      simp only [answerable, hfrom] at hshown ⊢
      exact hshown

/-- The prompt that the parent has just read goes into the queue. -/
theorem prompt_queued {s : Sys} {fs : List Frame} {secret : Bool} {text : String}
    {type : PromptType} (hs : ReplyInv s)
    (hp : s.toParent = some (.PromptRequestEvent secret text) :: fs) :
    ReplyInv { s with
      toParent := fs
      queue := s.queue.call (auth_msg_queue.append ⟨.prompt .PAM type text,
        ⟨s.history.attempt, s.history.heard + 1⟩⟩)
      history := { s.history with heard := s.history.heard + 1 } } := by
  have hcount : s.toParent.countP prompts = fs.countP prompts + 1 := by
    rw [hp]
    exact List.countP_cons_of_pos rfl
  constructor
  · intro halive
    exact (hs.replies halive).keeps rfl rfl rfl
  · intro halive hin
    have hprompts := hs.prompts halive hin
    have htokens := hprompts.tokens_le
    have hheard := hprompts.heard
    have hwaits := Bool.toNat_le (waits s.child)
    rw [hcount] at hheard
    simp only [tokens, hcount] at htokens
    refine ⟨?_, ?_, ?_, hprompts.shown⟩
    · simp only [tokens, Dispatch.flight_call, auth_msg_queue.append, pending, List.countP_append,
        List.countP_cons, List.countP_nil, isPamPrompt, if_true]
      simp only [answerable] at htokens ⊢
      omega
    · simp only
      omega
    · intro e he hpam
      simp only [Dispatch.flight_call, auth_msg_queue.append, pending, List.mem_append,
        List.mem_singleton] at he
      rcases he with he | rfl
      · exact hprompts.index e he hpam
      · simp only
        omega

/-- The user replies to the prompt that is shown. -/
theorem user_reply {s : Sys} {e : PromptEdit} (text : String) (hs : ReplyInv s)
    (hedit : e.editEnabled = false)
    (hG : s.proxy.m_promptFrom = .PAM → s.pam.inAuthentication = true →
      s.dialog.promptEdit.editEnabled = true ∧ s.dialog.m_havePrompt = true) :
    ReplyInv (s.confirm env (e, some text)) := by
  rw [confirm_eq]
  by_cases hfrom : s.proxy.m_promptFrom = .PAM
  · by_cases hin : s.pam.inAuthentication = true
    · obtain ⟨henabled, hhave⟩ := hG hfrom hin
      have hans : answerable s = true := by simp [answerable, henabled, hhave, hfrom]
      have hreply : s.reply text s.userOrigin = [(.PromptReplyEvent true text, s.userOrigin)] :=
        if_pos hin
      simp only [hfrom, reduceCtorEq, if_false, hreply]
      constructor
      · intro halive
        have hprompts := hs.prompts halive hin
        have htokens := hprompts.tokens_le
        simp only [tokens, hans, Bool.toNat_true] at htokens
        constructor
        · intro r hr
          rcases List.mem_append.mp hr with hr | hr
          · exact (hs.replies halive).answers r hr
          · obtain rfl := List.mem_singleton.mp hr
            exact Or.inr (congrArg Origin.user (hprompts.shown hans))
        · simp only [List.length_append, List.length_singleton]
          omega
      · intro halive _
        have hprompts := hs.prompts halive hin
        have htokens := hprompts.tokens_le
        simp only [tokens, hans, Bool.toNat_true] at htokens
        refine ⟨?_, hprompts.heard, hprompts.index, ?_⟩
        · simp only [tokens, answerable, hedit, Bool.false_and, Bool.toNat_false,
            List.length_append, List.length_singleton]
          omega
        · simp [answerable, hedit]
    · have hreply : s.reply text s.userOrigin = [] := if_neg hin
      simp only [hfrom, reduceCtorEq, if_false, hreply]
      exact hs.keeps id id
        { toChild := List.append_nil _, answerable := by simp [answerable, hedit] }
  · have hservice : s.proxy.m_promptFrom = .AUTH_SERVICE := by
      rcases h : s.proxy.m_promptFrom
      · exact absurd h hfrom
      · rfl
    simp only [hservice, if_true]
    exact hs.keeps id id { toChild := List.append_nil _, answerable := by simp [answerable, hedit] }

/-! ## Steps that show a prompt, or begin an attempt -/

/-- The prompt is taken out of the queue and shown. -/
theorem prompt_shown {s : Sys} {e : Entry Note} {d : Dispatch Note} {type : PromptType}
    {text : String} {dialog : ScreenSaverDialog} (hs : ReplyInv s)
    (hd : s.queue.deliver = some (e, d)) (hm : e.msg = .prompt .PAM type text) :
    ReplyInv { s with
      queue := d
      proxy := { s.proxy with m_promptFrom := .PAM }
      dialog := dialog
      history := { s.history with shown := e.note.index } } := by
  have hflight := Dispatch.flight_deliver hd
  have hpam : isPamPrompt e = true := by simp [isPamPrompt, hm]
  have hcount : s.queue.flight.countP isPamPrompt = d.flight.countP isPamPrompt + 1 := by
    rw [hflight]
    exact List.countP_cons_of_pos hpam
  constructor
  · intro halive
    exact (hs.replies halive).keeps rfl rfl rfl
  · intro halive hin
    have hprompts := hs.prompts halive hin
    have htokens := hprompts.tokens_le
    simp only [tokens, hcount] at htokens
    refine ⟨?_, hprompts.heard, ?_, fun _ => ?_⟩
    · have hone := Bool.toNat_le (answerable { s with
        queue := d, proxy := { s.proxy with m_promptFrom := .PAM }, dialog := dialog
        history := { s.history with shown := e.note.index } })
      simp only [tokens] at hone ⊢
      omega
    · intro x hx hp
      exact hprompts.index x (by rw [hflight]; exact List.mem_cons_of_mem _ hx) hp
    · exact hprompts.index e (by rw [hflight]; exact List.mem_cons_self) hpam

/-- Nothing is on its way when an attempt begins. -/
theorem startAuth_replies {s : Sys} (k : ForkAnswer) (hq : s.proxy.m_authMessageQueue = true)
    (hplain : ∀ e ∈ s.queue.flight, plain e) : ReplyInv (s.startAuth k) := by
  have hb := startAuth_begins k hq
  have hans : answerable (s.startAuth k) = false := by simp [answerable, hb.havePrompt]
  constructor
  · intro _
    exact ⟨by simp [hb.toChild], by simp [hb.toChild]⟩
  · intro _ _
    have hzero : (s.startAuth k).queue.flight.countP isPamPrompt = 0 := by
      rw [hb.flight]
      exact List.countP_eq_zero.mpr fun e he => by simp [(hplain e he).2]
    refine ⟨?_, ?_, ?_, ?_⟩
    · simp [tokens, hb.toParent, hzero, hans, hb.toChild]
    · simp [hb.history, hb.toParent]
    · rw [hb.flight]
      intro e he hp
      simp [(hplain e he).2] at hp
    · simp [hans]

/-! ## Steps of the child -/

/-- The child reads the one reply, or the end of the pipe. -/
theorem recv_replies {s t : Sys} {e : Option PamEvent} (hs : ReplyInv s)
    (halive : s.childAlive = true) (hone : s.pam.inAuthentication = true → s.toChild ≠ [])
    (h : Sys.childAct { s with toChild := [] } (.recv e) = some t) : ReplyInv t := by
  obtain ⟨c, events, hstep, rfl⟩ := childAct_eq_some h
  obtain ⟨_, _, _, hact, -⟩ | ⟨r, -, hwaits, hwaits', rfl⟩ | ⟨-, hact, -⟩ := child_step_cases hstep
  · cases hact
  · constructor
    · intro _
      exact ⟨by simp, by simp⟩
    · intro _ hin
      have hprompts := hs.prompts halive hin
      have htokens := hprompts.tokens_le
      have hlength := List.length_pos_iff.mpr (hone hin)
      have hle := Bool.toNat_le (waits s.child)
      simp only [tokens] at htokens
      refine ⟨?_, ?_, hprompts.index, hprompts.shown⟩
      · simp only [tokens, hwaits', List.map_nil, List.append_nil, List.length_nil]
        simp only [answerable] at htokens ⊢
        omega
      · simpa [History.acts, History.sends] using hprompts.heard
  · exact absurd rfl (hact e)

/-- The other steps of the child find nothing on its way. -/
theorem childAct_replies {s t : Sys} {act : Act} (hs : ReplyInv s) (halive : s.childAlive = true)
    (hact : ∀ r, act ≠ .recv r) (h : s.childAct act = some t) : ReplyInv t := by
  obtain ⟨c, events, hstep, rfl⟩ := childAct_eq_some h
  obtain ⟨authRes, getItem, text, rfl, hpc, rfl⟩ | ⟨r, rfl, -, -, -⟩ |
    ⟨hfinish, -, hwaits, hsent⟩ := child_step_cases hstep
  · have hdead : lives c = false := by simp [lives, hpc]
    exact ⟨by simp [hdead], by simp [hdead]⟩
  · exact absurd rfl (hact r)
  · rw [acts_eq hfinish]
    have hnil : s.toChild = [] := by
      have := (hs.replies halive).length
      simpa [hwaits] using this
    obtain ⟨hwaits', hevents⟩ | ⟨hwaits', secret, text, rfl⟩ := hsent
    · have hcount : (s.toParent ++ events.map some).countP prompts = s.toParent.countP prompts := by
        apply countP_prompts_nil
        rcases hevents with rfl | ⟨isError, text, rfl⟩ <;> simp [prompts]
      have hhist : s.history.sends events = s.history := by
        rcases hevents with rfl | ⟨isError, text, rfl⟩ <;> rfl
      rw [hhist]
      exact hs.keeps (fun _ => halive) id
        { child := hwaits'.trans hwaits.symm, requests := hcount }
    · constructor
      · intro _
        exact ⟨by simp [hnil], by simp [hnil]⟩
      · intro _ hin
        have hprompts := hs.prompts halive hin
        have htokens := hprompts.tokens_le
        have hheard := hprompts.heard
        simp only [tokens, hwaits, Bool.toNat_false] at htokens
        have hcount :
            (s.toParent ++ [some (PamEvent.PromptRequestEvent secret text)]).countP prompts =
              s.toParent.countP prompts + 1 := by
          rw [List.countP_append]
          rfl
        -- the prompt is nowhere else yet
        refine ⟨?_, ?_, ?_, ?_⟩
        · simp only [tokens, List.map_cons, List.map_nil, hcount, hwaits', Bool.toNat_true]
          simp only [answerable] at htokens ⊢
          omega
        · simp only [List.map_cons, List.map_nil, hcount, History.sends, List.foldl_cons,
            List.foldl_nil]
          omega
        · have hzero : s.queue.flight.countP isPamPrompt = 0 := by omega
          intro e he hp
          exact absurd hp (List.countP_eq_zero.mp hzero e he)
        · intro hans
          have hlost : answerable s = true := hans
          simp [hlost] at htokens

theorem childStep_replies {s t : Sys} {e : ChildEvent} (hs : ReplyInv s)
    (halive : s.childAlive = true) (h : s.childStep e = some t) : ReplyInv t := by
  cases e with
  | act act =>
    cases act with
    | recv r => simp [Sys.childStep] at h
    | _ => exact childAct_replies hs halive (by simp) h
  | recv =>
    unfold Sys.childStep at h
    rcases hp : s.toChild with _ | ⟨⟨event, origin⟩, rest⟩
    · simp only [hp] at h
      split_ifs at h with hin
      have hsame : { s with toChild := [] } = s := by rw [← hp]
      rw [← hsame] at h
      exact recv_replies hs halive (fun hin' => absurd hin' hin) h
    · simp only [hp] at h
      have hone := (hs.replies halive).length
      have hle := Bool.toNat_le (waits s.child)
      have hrest : rest = [] := by
        rw [hp, List.length_cons] at hone
        exact List.eq_nil_of_length_eq_zero (by omega)
      rw [hrest] at h
      exact recv_replies hs halive (fun _ => by simp [hp]) h
  | die =>
    cases h
    exact ⟨by simp, by simp⟩
  | garbage =>
    cases h
    exact hs.keeps id id { requests := countP_prompts_nil (by simp [prompts]) }

/-! ## Steps of the main thread -/

/-- The end of the pipe ends the authentication. -/
theorem pipe_end_replies {s t : Sys} {k : ForkAnswer} {reply : Option (String × String)}
    {o : List Output} (hs : ReplyInv s) (hq : s.proxy.m_authMessageQueue = true)
    (h : s.handleFrame env k reply none = (t, o)) : ReplyInv t := by
  unfold Sys.handleFrame AuthPam.handlePipeActivated Sys.hear at h
  simp only [handleChildExit_signal] at h
  have hclosed : ¬ s.pam.handleChildExit.1.inAuthentication = true := by
    simp [AuthPam.handleChildExit, AuthPam.inAuthentication]
  by_cases hsent : s.pam.m_hasSendCompleteSignal = true
  · simp only [hsent, if_true] at h
    cases h
    exact ⟨fun ha => (hs.replies ha).keeps rfl rfl rfl, fun _ hin => absurd hin hclosed⟩
  · simp only [hsent] at h
    obtain ⟨p, ops, before, -, -, -, -, heq⟩ := dispatch_pamComplete
      (s := { s with pam := s.pam.handleChildExit.1, history := { s.history with ended := true } })
      k (.auto s.history.heard) s.note hq s.pam.handleChildExit.1.isAuthenticated
    obtain ⟨rfl, -⟩ := Prod.mk.inj (heq.symm.trans h)
    exact ⟨fun ha => (hs.replies ha).keeps rfl rfl rfl, fun _ hin => absurd hin hclosed⟩

theorem frame_replies {s t : Sys} {event : PamEvent} {fs : List Frame} {k : ForkAnswer}
    {reply : Option (String × String)} {o : List Output} (hs : ReplyInv s)
    (hq : s.proxy.m_authMessageQueue = true) (hin : s.pam.inAuthentication = true)
    (hp : s.toParent = some event :: fs)
    (h : Sys.handleFrame env { s with toParent := fs } k reply (some event) = (t, o)) :
    ReplyInv t := by
  have hcount : prompts (some event) = false → fs.countP prompts = s.toParent.countP prompts := by
    intro hno
    rw [hp, List.countP_cons_of_neg (by simp [hno])]
  cases event with
  | ErrorEvent text =>
    cases h
    exact hs.keeps id id { requests := hcount rfl }
  | PromptReplyEvent result text =>
    cases h
    exact hs.keeps id id { requests := hcount rfl }
  | MessageEvent isError text =>
    have heq := dispatch_pamMessage (s := { s with toParent := fs }) k (.auto s.history.heard)
      s.note hq text (if isError then .Error else .Info)
    obtain ⟨rfl, -⟩ := Prod.mk.inj (heq.symm.trans h)
    refine hs.keeps id id { requests := hcount rfl, flight := ?_ }
    rw [Dispatch.flight_call, filter_append_plain (by
      simp [auth_msg_queue.append, pending, isPamPrompt])]
  | PromptRequestEvent secret text =>
    have hcases := dispatch_pamPrompt (s := { s with
        toParent := fs, history := { s.history with heard := s.history.heard + 1 } })
      k (.auto (s.history.heard + 1)) ⟨s.history.attempt, s.history.heard + 1⟩ env hq
      s.pam.authenticationUser reply text (if secret then .Secret else .Question)
    rcases hcases with ⟨p, response, -, hfrom, heq⟩ | heq
    · obtain ⟨rfl, -⟩ := Prod.mk.inj (heq.symm.trans h)
      exact auto_reply hs hin hp hfrom
    · obtain ⟨rfl, -⟩ := Prod.mk.inj (heq.symm.trans h)
      exact prompt_queued hs hp
  | CompleteEvent complete authResult text =>
    obtain ⟨p, ops, before, -, hfrom, hpend, hplain, heq⟩ := dispatch_pamComplete
      (s := { s with
        toParent := fs
        pam := { s.pam with m_hasSendCompleteSignal := true, m_isAuthenticated := authResult }
        history := { s.history with ended := true } })
      k (.auto s.history.heard) s.note hq authResult
    obtain ⟨rfl, -⟩ := Prod.mk.inj (heq.symm.trans h)
    refine hs.keeps id id { requests := hcount rfl, flight := ?_, answerable := ?_ }
    · rw [Dispatch.flight_call, filter_append_plain]
      intro e he
      rw [hpend] at he
      rcases List.mem_append.mp he with he | he
      · exact (hplain e he).2
      · simp [List.mem_singleton.mp he, isPamPrompt]
    · intro hans
      simp only [answerable, hfrom] at hans ⊢
      exact ⟨hans, trivial⟩

theorem pipe_replies {s s1 t : Sys} {f : Frame} {k : ForkAnswer} {reply : Option (String × String)}
    {o : List Output} (hs : ReplyInv s) (hinv : Inv s) (hr : s.readPipe = some (f, s1))
    (h : s1.handleFrame env k reply f = (t, o)) : ReplyInv t := by
  obtain ⟨⟨fd, hfd⟩, ⟨fs, hp, rfl⟩ | ⟨-, -, rfl, rfl⟩⟩ := readPipe_cases hr
  · rcases f with _ | event
    · have hread : ReplyInv { s with toParent := fs } :=
        hs.keeps id id { requests := by rw [hp]; rfl }
      exact pipe_end_replies env hread hinv.hasQueue h
    · have hin : s.pam.inAuthentication = true := by
        have hnotified := hinv.notified
        rw [hfd] at hnotified
        exact hnotified.symm
      exact frame_replies env hs hinv.hasQueue hin hp h
  · exact pipe_end_replies env hs hinv.hasQueue h

/-- After the completion of the attempt nobody reads the pipe, or nobody
writes it. -/
theorem Inv.over_closed {s : Sys} (hs : Inv s) (hover : s.history.ended = true)
    (halive : s.childAlive = true) : ¬ s.pam.inAuthentication = true := by
  intro hin
  have hnotified := hs.notified
  rcases hs.closed hover with h | ⟨-, -, hdead⟩
  · rw [h] at hnotified
    exact absurd (hnotified.trans hin) (by simp)
  · simp [halive] at hdead

theorem deliver_replies {s t : Sys} {k : ForkAnswer} {o : List Output} (hs : ReplyInv s)
    (hinv : Inv s) (h : s.mainStep env (.deliver k) = some (t, o)) : ReplyInv t := by
  simp only [Sys.mainStep, Option.map_eq_some_iff, Prod.exists] at h
  obtain ⟨e, d, hd, heq⟩ := h
  have hflight := Dispatch.flight_deliver hd
  have hsub : List.Sublist (d.flight.filter isPamPrompt) (s.queue.flight.filter isPamPrompt) := by
    rw [hflight]
    exact (List.sublist_cons_self e d.flight).filter _
  rcases hm : e.msg with ⟨_ | _, type, text⟩ | ⟨type, text⟩ | b
  · -- the note tells the number of the prompt
    have hmem : e ∈ s.queue.flight := by
      rw [hflight]
      exact List.mem_cons_self
    have hattempt := hinv.prompts e hmem (by simp [isPamPrompt, hm])
    have hsee : Sys.see { s with queue := d } e =
        { s with queue := d, history := { s.history with shown := e.note.index } } := by
      simp [Sys.see, hm, hattempt]
    rw [hsee, dispatch_queued, hm] at heq
    cases heq
    exact prompt_shown (s := s) hs hd hm
  · have hsee : Sys.see { s with queue := d } e = { s with queue := d } := by simp [Sys.see, hm]
    rw [hsee, dispatch_queued, hm] at heq
    cases heq
    exact hs.keeps id id { flight := hsub, answerable := by simp [answerable] }
  · have hsee : Sys.see { s with queue := d } e = { s with queue := d } := by simp [Sys.see, hm]
    rw [hsee, dispatch_queued, hm] at heq
    cases heq
    exact hs.keeps id id { flight := hsub }
  · have hsee : Sys.see { s with queue := d } e = { s with queue := d } := by simp [Sys.see, hm]
    rw [hsee, dispatch_queued, hm] at heq
    obtain ⟨hover, -, -, hplain⟩ := hinv.after_completion hd hm
    have hclosed := hinv.over_closed hover
    cases b with
    | false =>
      simp only [Sys.slotAuthenticationComplete, Bool.not_false, if_true] at heq
      split_ifs at heq
      · cases heq
        exact ⟨fun ha => (hs.replies ha).keeps rfl rfl rfl, fun ha hin => absurd hin (hclosed ha)⟩
      · cases heq
        exact startAuth_replies k ((stopAuthSession_hasQueue s.proxy).trans hinv.hasQueue) hplain
    | true =>
      cases heq
      exact ⟨fun ha => (hs.replies ha).keeps rfl rfl rfl, fun ha hin => absurd hin (hclosed ha)⟩

theorem cancel_replies {s : Sys} (hs : ReplyInv s) (hq : s.proxy.m_authMessageQueue = true)
    (k : ForkAnswer) : ReplyInv (s.cancelAuthentication k) := by
  rw [cancelAuthentication_eq k hq, pamCancel_eq]
  constructor
  · intro ha
    simp only [Bool.and_eq_true] at ha
    exact (hs.replies ha.1).keeps rfl rfl rfl
  · intro _ hin
    simp [AuthPam.cancelAuthentication, AuthPam.inAuthentication] at hin

/-! ## One reply for each prompt -/

/-- The text that the user confirms now as a reply of PAM is confirmed while the
line edit is enabled and the attempt has shown a prompt. -/
def Answerable (s : Sys) : Prop :=
  s.dialog.promptEdit.slotConfirm.2.isSome = true → s.proxy.m_promptFrom = .PAM →
    s.pam.inAuthentication = true →
      s.dialog.promptEdit.editEnabled = true ∧ s.dialog.m_havePrompt = true

/-- Each confirmation of the user, by Return or by the button, answers a
prompt. -/
def ConfirmsAPrompt (s : Sys) : Event → Prop
  | .pressReturn => Answerable s
  | .clickButton => Answerable s
  | _ => True

theorem confirm_replies {s : Sys} (hs : ReplyInv s) (hG : Answerable s) :
    ReplyInv (s.confirm env s.dialog.promptEdit.slotConfirm) := by
  obtain ⟨hnone, hsame⟩ | ⟨hsome, hedit, -, -⟩ := s.dialog.promptEdit.slotConfirm_cases
  · have heq : s.dialog.promptEdit.slotConfirm = (s.dialog.promptEdit, none) :=
      Prod.ext hsame hnone
    rw [heq]
    exact hs
  · have heq : s.dialog.promptEdit.slotConfirm =
        (s.dialog.promptEdit.slotConfirm.1, some s.dialog.promptEdit.text) := Prod.ext rfl hsome
    rw [heq]
    exact user_reply env _ hs hedit (hG (by simp [hsome]))

theorem main_replies {s t : Sys} {e : Event} {o : List Output} (hs : ReplyInv s) (hinv : Inv s)
    (hG : ConfirmsAPrompt s e) (h : s.mainStep env e = some (t, o)) : ReplyInv t := by
  cases e with
  | type text =>
    obtain ⟨e, he, heq⟩ := Option.map_eq_some_iff.mp h
    cases heq
    have hedit : e.editEnabled = s.dialog.promptEdit.editEnabled := by
      unfold PromptEdit.type at he
      split_ifs at he
      cases he
      rfl
    refine hs.keeps id id { answerable := fun h => ⟨?_, rfl⟩ }
    simpa [answerable, hedit] using h
  | pressReturn =>
    obtain ⟨r, hr, heq⟩ := Option.map_eq_some_iff.mp h
    cases heq
    unfold PromptEdit.pressReturn at hr
    split_ifs at hr
    cases hr
    exact confirm_replies env hs hG
  | clickButton =>
    obtain ⟨r, hr, heq⟩ := Option.map_eq_some_iff.mp h
    cases heq
    unfold PromptEdit.click at hr
    split_ifs at hr
    cases hr
    exact confirm_replies env hs hG
  | clickReAuth k =>
    simp only [Sys.mainStep] at h
    split_ifs at h with hbtn
    cases h
    exact startAuth_replies k hinv.hasQueue (hinv.button hbtn).2.2
  | pipeActivated k reply =>
    simp only [Sys.mainStep, Option.map_eq_some_iff, Prod.exists] at h
    obtain ⟨f, s1, hr, heq⟩ := h
    exact pipe_replies env hs hinv hr heq
  | serviceMessages k msg type sid =>
    obtain ⟨ops, hplain, heq⟩ :=
      dispatch_serviceMessages k s.userOrigin s.note env hinv.hasQueue msg type sid
    obtain ⟨rfl, -⟩ := Prod.mk.inj (heq.symm.trans (Option.some.inj h))
    refine hs.keeps id id { flight := ?_ }
    rw [Dispatch.flight_call, filter_append_plain fun e he => (hplain e he).2]
  | serviceMethod k authType method sid =>
    have heq := dispatch_serviceMethod (s := s) k s.userOrigin s.note env authType method sid
    obtain ⟨rfl, -⟩ := Prod.mk.inj (heq.symm.trans (Option.some.inj h))
    exact hs
  | deliver k => exact deliver_replies env hs hinv h
  | cancelAuthentication k =>
    cases h
    exact cancel_replies hs hinv.hasQueue k
  | thread t => simp [Sys.mainStep] at h
  | child e => simp [Sys.mainStep] at h

theorem step_replies {s t : Sys} {e : Event} {o : List Output} (hs : ReplyInv s) (hinv : Inv s)
    (hG : ConfirmsAPrompt s e) (h : step env s e = some (t, o)) : ReplyInv t := by
  unfold step at h
  split at h
  · obtain ⟨d, hd, heq⟩ := Option.map_eq_some_iff.mp h
    cases heq
    exact hs.keeps id id { flight := (Dispatch.step_flight hd).filter _ }
  · split_ifs at h with halive
    obtain ⟨t, ht, heq⟩ := Option.map_eq_some_iff.mp h
    cases heq
    exact childStep_replies hs halive ht
  · split_ifs at h
    exact main_replies env hs hinv hG h

/-- When the child reads a reply to its prompt, that prompt is its latest one,
the reply is the only one in the pipe, and it was made for that prompt: by the
proxy when it read the prompt, or by the user when the prompt was the last one
shown. -/
def RepliesToItsPrompt (s : Sys) (e : Event) (_ : List Output) (_ : Sys) : Prop :=
  match e with
  | .child .recv => ∀ r rest, s.toChild = r :: rest → rest = [] ∧ Answers s r.2
  | _ => True

/-- Along every run where each confirmation of the user answers a prompt, the
child reads for each of its prompts a reply to that prompt. -/
theorem a_reply_answers_its_prompt (m_userName : String) (k : ForkAnswer) {es : List Event}
    (hG : Meets (step env) ConfirmsAPrompt (.init env m_userName k) es) :
    Always (step env) RepliesToItsPrompt (.init env m_userName k) es := by
  have hinit : Inv (.init env m_userName k) ∧ ReplyInv (.init env m_userName k) := by
    refine ⟨init_inv env m_userName k, startAuth_replies k rfl ?_⟩
    simp [Sys.fresh, Dispatch.flight, Worker.held, pending]
  refine always_of_inv (I := fun s => Inv s ∧ ReplyInv s) ?_ hinit hG
  rintro s e s1 o1 ⟨hinv, hs⟩ hg h
  refine ⟨⟨(step_inv env hinv h).1, step_replies env hs hinv hg h⟩, ?_⟩
  unfold RepliesToItsPrompt
  split
  · intro r rest hp
    have halive : s.childAlive = true := by
      simp only [step] at h
      split_ifs at h with halive
      exact halive
    have hlive := hs.replies halive
    have hone := hlive.length
    have hle := Bool.toNat_le (waits s.child)
    rw [hp, List.length_cons] at hone
    exact ⟨List.eq_nil_of_length_eq_zero (by omega),
      hlive.answers r (by rw [hp]; exact List.mem_cons_self)⟩
  · trivial

/-- A prompt is shown, and the user types. -/
def typesAtPrompt : List Event :=
  startUp ++ asks [askPassword, askCode] ++ showsNext ++ [.type "secret"]

/-- Two clicks put two replies in the pipe, and the second one answers the next
prompt before it is shown. -/
theorem a_second_click_answers_the_next_prompt :
    ¬ ∀ es, Always (step sampleEnv) RepliesToItsPrompt (.init sampleEnv "root" forked) es := by
  intro h
  have hrest := always_rest
    (typesAtPrompt ++ [.clickButton, .clickButton, .child .recv, .child (.act (.send true))])
    [.child .recv] rfl (h _)
  obtain ⟨hlaw, -⟩ := hrest _ _ rfl
  have := (hlaw _ _ rfl).2
  exact absurd this (by unfold Answers; decide)

/-- One click answers the prompt, and the child reads the answer. -/
theorem a_click_answers_the_prompt :
    ∃ t, run (step sampleEnv) (.init sampleEnv "root" forked)
        (typesAtPrompt ++ [.clickButton, .child .recv]) = some (t, []) ∧
      Always (step sampleEnv) RepliesToItsPrompt (.init sampleEnv "root" forked)
        (typesAtPrompt ++ [.clickButton, .child .recv]) := by
  refine ⟨_, rfl, a_reply_answers_its_prompt sampleEnv "root" forked ?_⟩
  refine meets_append rfl (meets_of_forall fun e he s => ?_) <|
    meets_cons rfl (fun _ _ _ => ⟨rfl, rfl⟩) <| meets_cons rfl trivial trivial
  cases e with
  | pressReturn => simp [typesAtPrompt, startUp, asks, showsNext] at he
  | clickButton => simp [typesAtPrompt, startUp, asks, showsNext] at he
  | _ => trivial

end session_guard.lock_screen
