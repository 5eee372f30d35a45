-- The screen is unlocked only when the child of the latest attempt said so:
-- one invariant ties the child, the pipe, the flags of `AuthPam`, the messages
-- in flight and the dialog to the current attempt.
import SessionGuard.LockScreenCalls

open machine

namespace session_guard.lock_screen

open pam_message auth_pam auth_msg_queue auth_proxy auth_runs checkpass prompt_edit

variable (env : Env)

/-! ## The invariant -/

/-- Is the frame a completion? -/
def completes (f : Frame) : Bool :=
  match f with
  | some (.CompleteEvent _ _ _) => true
  | _ => false

/-- What holds of the lock screen in its event loop and between the steps of
its threads and its child. -/
structure Inv (s : Sys) : Prop where
  hasQueue : s.proxy.m_authMessageQueue = true
  notified : s.pam.m_socketNotifier.isSome = s.pam.m_inAuthenticating
  /-- Nothing of PAM comes after a completion. -/
  ordered : s.queue.flight.Pairwise fun a b => isComplete a = true → plain b
  ended : ∀ e ∈ s.queue.flight, ∀ b, e.msg = .complete b → s.history.ended = true ∧
    (b = true → s.history.completeSent = some true) ∧ (b = false → s.pam.m_isAuthenticated = false)
  prompts : ∀ e ∈ s.queue.flight, isPamPrompt e = true → e.note.attempt = s.history.attempt
  closed : s.history.ended = true → s.pam.m_socketNotifier = none ∨
    (s.pam.m_hasSendCompleteSignal = true ∧ s.toParent = [] ∧ s.childAlive = false)
  passed : s.pam.m_isAuthenticated = true → s.history.completeSent = some true
  succeeded : s.history.completeSent = some true → s.history.pamResult = some PAM_SUCCESS
  living : s.childAlive = true →
    s.history.completeSent = none ∧ ∀ f ∈ s.toParent, completes f = false
  /-- A completion is the last frame in the pipe. -/
  frames : s.toParent.Pairwise fun f _ => completes f = false
  framesTrue : ∀ a t, some (.CompleteEvent a true t) ∈ s.toParent →
    s.history.completeSent = some true
  button : s.dialog.btn_reAuth_visible = true → s.history.ended = true ∧
    s.pam.m_isAuthenticated = false ∧ ∀ e ∈ s.queue.flight, plain e

/-- With no completion in flight, one more message may come. -/
theorem ordered_append {xs ys : List (Entry Note)}
    (hx : xs.Pairwise fun a b => isComplete a = true → plain b)
    (hy : ys.Pairwise fun a b => isComplete a = true → plain b)
    (h : (∀ e ∈ xs, isComplete e = false) ∨ ∀ e ∈ ys, plain e) :
    (xs ++ ys).Pairwise fun a b => isComplete a = true → plain b := by
  refine List.pairwise_append.mpr ⟨hx, hy, fun a ha b hb hc => ?_⟩
  rcases h with h | h
  · simp [h a ha] at hc
  · exact h b hb

/-- Before the completion of the attempt there is none in flight. -/
theorem Inv.no_completion {s : Sys} (hs : Inv s) (hover : s.history.ended = false) :
    ∀ e ∈ s.queue.flight, isComplete e = false := by
  intro e he
  rcases hm : e.msg with ⟨f, t, m⟩ | ⟨t, m⟩ | b
  · simp [isComplete, hm]
  · simp [isComplete, hm]
  · have := (hs.ended e he b hm).1
    simp [hover] at this

/-! ## The steps that leave the attempt as it is -/

/-- Between the two states the attempt goes on: frames are read, messages go,
and new ones come, those of PAM only before the completion. -/
structure GoesOn (s t : Sys) : Prop where
  hasQueue : t.proxy.m_authMessageQueue = true
  pam : t.pam = s.pam := by rfl
  childAlive : t.childAlive = s.childAlive := by rfl
  toParent : List.IsSuffix t.toParent s.toParent := by exact List.suffix_refl _
  history : ∃ n m, t.history = { s.history with heard := n, shown := m } := by exact ⟨_, _, rfl⟩
  flight : ∃ new, List.Sublist t.queue.flight (s.queue.flight ++ new) ∧ ∀ e ∈ new,
    isComplete e = false ∧ (isPamPrompt e = true →
      s.history.ended = false ∧ e.note.attempt = s.history.attempt)
  button : t.dialog.btn_reAuth_visible = s.dialog.btn_reAuth_visible := by rfl

theorem Inv.goes_on {s t : Sys} (hs : Inv s) (h : GoesOn s t) : Inv t := by
  obtain ⟨n, m, hhist⟩ := h.history
  obtain ⟨new, hflight, hnew⟩ := h.flight
  have hmem : ∀ e ∈ t.queue.flight, e ∈ s.queue.flight ∨ e ∈ new :=
    fun e he => List.mem_append.mp (hflight.subset he)
  refine
    { hasQueue := h.hasQueue
      notified := by rw [h.pam]; exact hs.notified
      ordered := ?_
      ended := ?_
      prompts := ?_
      closed := ?_
      passed := by rw [h.pam, hhist]; exact hs.passed
      succeeded := by rw [hhist]; exact hs.succeeded
      living := ?_
      frames := hs.frames.sublist h.toParent.sublist
      framesTrue := ?_
      button := ?_ }
  · refine List.Pairwise.sublist hflight (ordered_append hs.ordered ?_ ?_)
    · -- nothing new is a completion
      exact List.pairwise_of_forall_mem_list fun a ha b _ hc => by simp [(hnew a ha).1] at hc
    · by_cases hover : s.history.ended = true
      · refine Or.inr fun e he => ⟨(hnew e he).1, ?_⟩
        by_contra hp
        have := ((hnew e he).2 (by simpa using hp)).1
        simp [hover] at this
      · exact Or.inl (hs.no_completion (by simpa using hover))
  · intro e he b hm
    rw [h.pam, hhist]
    rcases hmem e he with he | he
    · exact hs.ended e he b hm
    · have := (hnew e he).1
      simp [isComplete, hm] at this
  · intro e he hp
    rw [hhist]
    rcases hmem e he with he | he
    · exact hs.prompts e he hp
    · exact ((hnew e he).2 hp).2
  · intro hover
    rw [hhist] at hover
    rw [h.pam, h.childAlive]
    rcases hs.closed hover with hn | ⟨h1, h2, h3⟩
    · exact Or.inl hn
    · exact Or.inr ⟨h1, List.suffix_nil.mp (h2 ▸ h.toParent), h3⟩
  · intro halive
    rw [h.childAlive] at halive
    rw [hhist]
    exact ⟨(hs.living halive).1, fun f hf => (hs.living halive).2 f (h.toParent.subset hf)⟩
  · intro a x hf
    rw [hhist]
    exact hs.framesTrue a x (h.toParent.subset hf)
  · intro hbtn
    rw [h.button] at hbtn
    obtain ⟨hover, hauth, hplain⟩ := hs.button hbtn
    rw [h.pam, hhist]
    refine ⟨hover, hauth, fun e he => ?_⟩
    rcases hmem e he with he | he
    · exact hplain e he
    · refine ⟨(hnew e he).1, ?_⟩
      by_contra hp
      have := ((hnew e he).2 (by simpa using hp)).1
      simp [hover] at this

/-- The attempt goes on and nothing new comes: beside frames and messages that go,
only the dialog, the proxy and the pipe to the child change. -/
structure Quiet (s t : Sys) : Prop where
  hasQueue : t.proxy.m_authMessageQueue = s.proxy.m_authMessageQueue := by rfl
  pam : t.pam = s.pam := by rfl
  childAlive : t.childAlive = s.childAlive := by rfl
  toParent : List.IsSuffix t.toParent s.toParent := by exact List.suffix_refl _
  history : ∃ n m, t.history = { s.history with heard := n, shown := m } := by exact ⟨_, _, rfl⟩
  flight : List.Sublist t.queue.flight s.queue.flight := by exact List.Sublist.refl _
  button : t.dialog.btn_reAuth_visible = s.dialog.btn_reAuth_visible := by rfl

theorem Inv.quiet {s t : Sys} (hs : Inv s) (h : Quiet s t) : Inv t := by
  apply hs.goes_on
  exact
    { hasQueue := h.hasQueue.trans hs.hasQueue
      pam := h.pam
      childAlive := h.childAlive
      toParent := h.toParent
      history := h.history
      flight := ⟨[], by simpa using h.flight, by simp⟩
      button := h.button }

/-! ## The steps that end or begin an attempt -/

/-- `startAuth` may be called when nothing of the attempt before is left. -/
theorem startAuth_inv {s : Sys} (k : ForkAnswer) (hq : s.proxy.m_authMessageQueue = true)
    (hn : s.pam.m_socketNotifier.isSome = s.pam.m_inAuthenticating)
    (hauth : s.pam.m_isAuthenticated = false) (hplain : ∀ e ∈ s.queue.flight, plain e) :
    Inv (s.startAuth k) := by
  have hb := startAuth_begins k hq
  have hcomp : ∀ e ∈ s.queue.flight, ∀ b, e.msg ≠ .complete b := by
    intro e he b hm
    have := (hplain e he).1
    simp [isComplete, hm] at this
  refine
    { hasQueue := hb.hasQueue.trans hq
      notified := hb.notified hn
      ordered := ?_
      ended := ?_
      prompts := ?_
      closed := by rw [hb.history]; simp
      passed := by rw [hb.isAuthenticated, hauth]; simp
      succeeded := by rw [hb.history]; simp
      living := by rw [hb.history, hb.toParent]; simp
      frames := by rw [hb.toParent]; exact List.Pairwise.nil
      framesTrue := by rw [hb.toParent]; simp
      button := by rw [hb.button]; simp }
  · rw [hb.flight]
    exact List.pairwise_of_forall_mem_list fun a _ b hb' _ => hplain b hb'
  · rw [hb.flight]
    exact fun e he b hm => absurd hm (hcomp e he b)
  · rw [hb.flight]
    intro e he hp
    simp [(hplain e he).2] at hp

/-- A cancel drops no message and forgets the result. -/
theorem cancel_inv {s : Sys} (hs : Inv s) (k : ForkAnswer) : Inv (s.cancelAuthentication k) := by
  rw [cancelAuthentication_eq k hs.hasQueue, pamCancel_eq]
  have hflight : (s.queue.call [.stop]).flight = s.queue.flight := by simp [pending]
  refine
    { hasQueue := (stopAuthSession_hasQueue s.proxy).trans hs.hasQueue
      notified := rfl
      ordered := by rw [hflight]; exact hs.ordered
      ended := ?_
      prompts := by rw [hflight]; exact hs.prompts
      closed := fun _ => Or.inl rfl
      passed := by simp [AuthPam.cancelAuthentication]
      succeeded := hs.succeeded
      living := ?_
      frames := hs.frames
      framesTrue := hs.framesTrue
      button := ?_ }
  · rw [hflight]
    intro e he b hm
    obtain ⟨h1, h2, -⟩ := hs.ended e he b hm
    exact ⟨h1, h2, fun _ => rfl⟩
  · intro halive
    simp only [Bool.and_eq_true] at halive
    exact hs.living halive.1
  · intro hbtn
    obtain ⟨h1, -, h3⟩ := hs.button hbtn
    exact ⟨h1, rfl, by rw [hflight]; exact h3⟩

/-- What is left when a completion is delivered. -/
theorem Inv.after_completion {s : Sys} {e : Entry Note} {d : Dispatch Note} {b : Bool}
    (hs : Inv s) (hd : s.queue.deliver = some (e, d)) (hm : e.msg = .complete b) :
    s.history.ended = true ∧ (b = true → s.history.completeSent = some true) ∧
      (b = false → s.pam.m_isAuthenticated = false) ∧ ∀ x ∈ d.flight, plain x := by
  have hflight := Dispatch.flight_deliver hd
  obtain ⟨h1, h2, h3⟩ := hs.ended e (by simp [hflight]) b hm
  refine ⟨h1, h2, h3, fun x hx => ?_⟩
  have hord := hs.ordered
  rw [hflight] at hord
  exact (List.pairwise_cons.mp hord).1 x hx (by simp [isComplete, hm])

/-- Between the two states the attempt ends: its one completion is appended. -/
structure Ends (s t : Sys) : Prop where
  hasQueue : t.proxy.m_authMessageQueue = true
  notified : t.pam.m_socketNotifier.isSome = t.pam.m_inAuthenticating
  running : s.history.ended = false
  success : t.pam.m_isAuthenticated = true → s.history.completeSent = some true
  closed : t.pam.m_socketNotifier = none ∨
    (t.pam.m_hasSendCompleteSignal = true ∧ t.toParent = [] ∧ t.childAlive = false)
  childAlive : t.childAlive = s.childAlive := by rfl
  toParent : List.IsSuffix t.toParent s.toParent := by exact List.suffix_refl _
  history : t.history = { s.history with ended := true } := by rfl
  flight : ∃ before note, (∀ e ∈ before, plain e) ∧ t.queue.flight =
    s.queue.flight ++ (before ++ [⟨.complete t.pam.m_isAuthenticated, note⟩])
  button : t.dialog.btn_reAuth_visible = s.dialog.btn_reAuth_visible := by rfl

theorem Inv.ends {s t : Sys} (hs : Inv s) (h : Ends s t) : Inv t := by
  obtain ⟨before, note, hplain, hflight⟩ := h.flight
  have hhist := h.history
  have hno := hs.no_completion h.running
  have hcomp : ∀ e ∈ t.queue.flight, ∀ c, e.msg = .complete c →
      e = ⟨.complete t.pam.m_isAuthenticated, note⟩ := by
    intro e he c hm
    have hc : isComplete e = true := by simp [isComplete, hm]
    simp only [hflight, List.mem_append, List.mem_singleton] at he
    rcases he with he | he | he
    · simp [hno e he] at hc
    · simp [(hplain e he).1] at hc
    · exact he
  refine
    { hasQueue := h.hasQueue
      notified := h.notified
      ordered := ?_
      ended := ?_
      prompts := ?_
      closed := fun _ => h.closed
      passed := by rw [hhist]; exact h.success
      succeeded := by rw [hhist]; exact hs.succeeded
      living := ?_
      frames := hs.frames.sublist h.toParent.sublist
      framesTrue := ?_
      button := ?_ }
  · rw [hflight]
    refine ordered_append hs.ordered (ordered_append ?_ (List.pairwise_singleton _ _) (Or.inl ?_))
      (Or.inl hno)
    · exact List.pairwise_of_forall_mem_list fun a ha c _ hc => by simp [(hplain a ha).1] at hc
    · exact fun e he => (hplain e he).1
  · intro e he c hm
    have heq := hcomp e he c hm
    rw [heq] at hm
    obtain rfl : t.pam.m_isAuthenticated = c := by simpa using hm
    rw [hhist]
    exact ⟨rfl, h.success, id⟩
  · rw [hflight, hhist]
    intro e he hp
    simp only [List.mem_append, List.mem_singleton] at he
    rcases he with he | he | he
    · exact hs.prompts e he hp
    · simp [(hplain e he).2] at hp
    · simp [he, isPamPrompt] at hp
  · intro ha
    rw [h.childAlive] at ha
    rw [hhist]
    exact ⟨(hs.living ha).1, fun f hf => (hs.living ha).2 f (h.toParent.subset hf)⟩
  · intro a x hf
    rw [hhist]
    exact hs.framesTrue a x (h.toParent.subset hf)
  · intro hbtn
    have := (hs.button (h.button ▸ hbtn)).1
    simp [h.running] at this

/-! ## The frames -/

/-- What the pipe gives: its first frame, or its end. -/
theorem readPipe_cases {s s1 : Sys} {f : Frame} (h : s.readPipe = some (f, s1)) :
    (∃ fd, s.pam.m_socketNotifier = some fd) ∧
      ((∃ fs, s.toParent = f :: fs ∧ s1 = { s with toParent := fs }) ∨
        (s.toParent = [] ∧ s.childAlive = false ∧ f = none ∧ s1 = s)) := by
  unfold Sys.readPipe at h
  split at h
  · cases h
  · rename_i fd g gs hn hp
    cases h
    exact ⟨⟨fd, hn⟩, Or.inl ⟨gs, hp, rfl⟩⟩
  · rename_i fd hn hp
    split_ifs at h with halive
    cases h
    exact ⟨⟨fd, hn⟩, Or.inr ⟨hp, by simpa using halive, rfl, rfl⟩⟩

theorem readPipe_quiet {s s1 : Sys} {f : Frame} (h : s.readPipe = some (f, s1)) : Quiet s s1 := by
  obtain ⟨-, ⟨fs, hp, rfl⟩ | ⟨-, -, -, rfl⟩⟩ := readPipe_cases h
  · exact { toParent := hp ▸ List.suffix_cons f fs }
  · exact {}

theorem handleChildExit_signal (a : AuthPam) :
    a.handleChildExit.2.findSome? emittedSignal =
      if a.m_hasSendCompleteSignal then none else some .authenticationComplete := by
  have hclose : ∀ (b : Prop) [Decidable b] fd,
      (if b then [auth_pam.Effect.close fd] else []).findSome? emittedSignal = none := by
    intro b _ fd
    split_ifs <;> rfl
  unfold AuthPam.handleChildExit
  simp only [List.findSome?_append, hclose]
  cases a.m_hasSendCompleteSignal <;> rfl

/-- At the end of the pipe, or after a broken frame, the attempt completes unless
it has completed. -/
theorem pipe_end_inv {s t : Sys} {k : ForkAnswer} {reply : Option (String × String)}
    {o : List Output} {fd : Nat} (hs : Inv s) (hfd : s.pam.m_socketNotifier = some fd)
    (h : s.handleFrame env k reply none = (t, o)) : Inv t ∧ o = [] := by
  unfold Sys.handleFrame AuthPam.handlePipeActivated Sys.hear at h
  simp only [handleChildExit_signal] at h
  by_cases hsent : s.pam.m_hasSendCompleteSignal = true
  · simp only [hsent, if_true, Prod.mk.injEq] at h
    obtain ⟨rfl, rfl⟩ := h
    exact ⟨{ hs with notified := rfl, closed := fun _ => Or.inl rfl }, rfl⟩
  · have hover : s.history.ended = false := by
      by_contra hc
      rcases hs.closed (by simpa using hc) with hn | ⟨hsent', -⟩
      · simp [hfd] at hn
      · exact hsent hsent'
    simp only [hsent] at h
    obtain ⟨p, ops, before, hq, -, hpend, hplain, heq⟩ := dispatch_pamComplete
      (s := { s with pam := s.pam.handleChildExit.1, history := { s.history with ended := true } })
      k (.auto s.history.heard) s.note hs.hasQueue s.pam.handleChildExit.1.isAuthenticated
    obtain ⟨rfl, rfl⟩ := Prod.mk.inj (heq.symm.trans h)
    have hflight := (Dispatch.flight_call s.queue ops).trans (congrArg _ hpend)
    refine ⟨hs.ends ?_, rfl⟩
    exact
      { hasQueue := hq
        notified := rfl
        running := hover
        success := hs.passed
        closed := Or.inl rfl
        flight := ⟨before, _, hplain, hflight⟩ }

/-- A frame leaves the attempt going on, or is its completion. -/
theorem frame_inv {s t : Sys} {event : PamEvent} {fs : List Frame} {k : ForkAnswer}
    {reply : Option (String × String)} {o : List Output} {fd : Nat} (hs : Inv s)
    (hfd : s.pam.m_socketNotifier = some fd) (hp : s.toParent = some event :: fs)
    (h : Sys.handleFrame env { s with toParent := fs } k reply (some event) = (t, o)) :
    Inv t ∧ o = [] := by
  have hover : s.history.ended = false := by
    by_contra hc
    rcases hs.closed (by simpa using hc) with hn | ⟨-, hnil, -⟩
    · simp [hfd] at hn
    · simp [hp] at hnil
  have hsuffix : List.IsSuffix fs s.toParent := hp ▸ List.suffix_cons _ fs
  have hquiet : ∀ n m p c, p.m_authMessageQueue = s.proxy.m_authMessageQueue →
      Inv { s with
        toParent := fs, proxy := p, toChild := c
        history := { s.history with heard := n, shown := m } } := fun n m p c hq =>
    hs.quiet { hasQueue := hq, toParent := hsuffix }
  cases event with
  | ErrorEvent text =>
    cases h
    exact ⟨hquiet s.history.heard s.history.shown s.proxy s.toChild rfl, rfl⟩
  | PromptReplyEvent result text =>
    cases h
    exact ⟨hquiet s.history.heard s.history.shown s.proxy s.toChild rfl, rfl⟩
  | MessageEvent isError text =>
    have heq := dispatch_pamMessage (s := { s with toParent := fs }) k (.auto s.history.heard)
      s.note hs.hasQueue text (if isError then .Error else .Info)
    obtain ⟨rfl, rfl⟩ := Prod.mk.inj (heq.symm.trans h)
    refine ⟨hs.goes_on
      { hasQueue := hs.hasQueue
        toParent := hsuffix
        flight := ⟨_, by rw [Dispatch.flight_call], ?_⟩ }, rfl⟩
    simp [append, pending, auth_msg_queue.append, isComplete, isPamPrompt]
  | PromptRequestEvent secret text =>
    have hcases := dispatch_pamPrompt (s := { s with
        toParent := fs, history := { s.history with heard := s.history.heard + 1 } })
      k (.auto (s.history.heard + 1)) ⟨s.history.attempt, s.history.heard + 1⟩ env hs.hasQueue
      s.pam.authenticationUser reply text (if secret then .Secret else .Question)
    rcases hcases with ⟨p, response, hq, -, heq⟩ | heq
    · obtain ⟨rfl, rfl⟩ := Prod.mk.inj (heq.symm.trans h)
      exact ⟨hquiet _ _ p _ (hq.trans hs.hasQueue.symm), rfl⟩
    · obtain ⟨rfl, rfl⟩ := Prod.mk.inj (heq.symm.trans h)
      refine ⟨hs.goes_on
        { hasQueue := hs.hasQueue
          toParent := hsuffix
          flight := ⟨_, by rw [Dispatch.flight_call], ?_⟩ }, rfl⟩
      simp [pending, auth_msg_queue.append, isComplete, hover]
  | CompleteEvent complete authResult text =>
    obtain ⟨p, ops, before, hq, -, hpend, hplain, heq⟩ := dispatch_pamComplete
      (s := { s with
        toParent := fs
        pam := { s.pam with m_hasSendCompleteSignal := true, m_isAuthenticated := authResult }
        history := { s.history with ended := true } })
      k (.auto s.history.heard) s.note hs.hasQueue authResult
    obtain ⟨rfl, rfl⟩ := Prod.mk.inj (heq.symm.trans h)
    have hnil : fs = [] := by
      have hframes := hs.frames
      rw [hp] at hframes
      rcases fs with _ | ⟨g, gs⟩
      · rfl
      · have := (List.pairwise_cons.mp hframes).1 g List.mem_cons_self
        simp [completes] at this
    have hdead : s.childAlive = false := by
      by_contra halive
      have := (hs.living (by simpa using halive)).2 _ (hp ▸ List.mem_cons_self)
      simp [completes] at this
    have hsent : authResult = true → s.history.completeSent = some true := by
      rintro rfl
      exact hs.framesTrue complete text (by rw [hp]; exact List.mem_cons_self)
    have hflight := (Dispatch.flight_call s.queue ops).trans (congrArg _ hpend)
    refine ⟨hs.ends ?_, rfl⟩
    exact
      { hasQueue := hq
        notified := hs.notified
        running := hover
        success := hsent
        closed := Or.inr ⟨rfl, hnil, hdead⟩
        toParent := hsuffix
        flight := ⟨before, _, hplain, hflight⟩ }

/-- What the pipe gives keeps the invariant. -/
theorem pipe_inv {s s1 t : Sys} {f : Frame} {k : ForkAnswer} {reply : Option (String × String)}
    {o : List Output} (hs : Inv s) (hr : s.readPipe = some (f, s1))
    (h : s1.handleFrame env k reply f = (t, o)) : Inv t ∧ o = [] := by
  have hs1 := hs.quiet (readPipe_quiet hr)
  obtain ⟨⟨fd, hfd⟩, ⟨fs, hp, rfl⟩ | ⟨-, -, rfl, rfl⟩⟩ := readPipe_cases hr
  · rcases f with _ | event
    · exact pipe_end_inv env hs1 hfd h
    · exact frame_inv env hs hfd hp h
  · exact pipe_end_inv env hs1 hfd h

/-! ## The child -/

theorem childAct_eq_some {s t : Sys} {act : Act} (h : s.childAct act = some t) :
    ∃ c events, s.child.step act = some (c, events) ∧ t = { s with
      child := c
      childAlive := lives c
      toParent := s.toParent ++ events.map some
      history := (s.history.acts act).sends events } := by
  obtain ⟨⟨c, events⟩, hstep, rfl⟩ := Option.map_eq_some_iff.mp h
  exact ⟨c, events, hstep, rfl⟩

/-- Between the two states the child writes frames that are no completion. -/
structure Sends (s t : Sys) (new : List Frame) : Prop where
  proxy : t.proxy = s.proxy := by rfl
  pam : t.pam = s.pam := by rfl
  queue : t.queue = s.queue := by rfl
  dialog : t.dialog = s.dialog := by rfl
  toParent : t.toParent = s.toParent ++ new := by rfl
  history : ∃ n, t.history = { s.history with sent := n } := by exact ⟨_, rfl⟩
  incomplete : ∀ f ∈ new, completes f = false

theorem Inv.sends {s t : Sys} {new : List Frame} (hs : Inv s) (halive : s.childAlive = true)
    (h : Sends s t new) : Inv t := by
  obtain ⟨hq, hpam, hqueue, hdialog, hparent, ⟨n, hhist⟩, hnew⟩ := h
  obtain ⟨hnone, hframes⟩ := hs.living halive
  have hall : ∀ f ∈ t.toParent, completes f = false := by
    intro f hf
    rw [hparent] at hf
    exact (List.mem_append.mp hf).elim (hframes f) (hnew f)
  refine
    { hasQueue := by rw [hq]; exact hs.hasQueue
      notified := by rw [hpam]; exact hs.notified
      ordered := by rw [hqueue]; exact hs.ordered
      ended := by rw [hqueue, hhist, hpam]; exact hs.ended
      prompts := by rw [hqueue, hhist]; exact hs.prompts
      closed := ?_
      passed := by rw [hpam, hhist]; exact hs.passed
      succeeded := by rw [hhist]; exact hs.succeeded
      living := fun _ => ⟨by rw [hhist]; exact hnone, hall⟩
      frames := List.pairwise_of_forall_mem_list fun f hf _ _ => hall f hf
      framesTrue := ?_
      button := by rw [hdialog, hqueue, hhist, hpam]; exact hs.button }
  · intro hover
    rw [hhist] at hover
    rcases hs.closed hover with h | ⟨-, -, hdead⟩
    · exact Or.inl (by rw [hpam]; exact h)
    · simp [halive] at hdead
  · intro a x hf
    have := hall _ hf
    simp [completes] at this

/-- The end of the child, with its completion or without. -/
theorem finish_inv {s : Sys} (hs : Inv s) (halive : s.childAlive = true) (c : Child)
    (authRes : Int) (getItem : Bool) (text : String) :
    let events : List PamEvent :=
      if getItem then [.CompleteEvent true (authRes = PAM_SUCCESS) text] else []
    Inv { s with
      child := c
      childAlive := false
      toParent := s.toParent ++ events.map some
      history := (s.history.acts (.finish authRes getItem text)).sends events } := by
  intro events
  obtain ⟨hnone, hframes⟩ := hs.living halive
  have hauth : s.pam.m_isAuthenticated = false := by
    by_contra hc
    have := hs.passed (by simpa using hc)
    simp [hnone] at this
  have hclosed : s.history.ended = true → s.pam.m_socketNotifier = none := by
    intro hover
    rcases hs.closed hover with h | ⟨-, -, hdead⟩
    · exact h
    · simp [halive] at hdead
  have hended : ∀ e ∈ s.queue.flight, ∀ b, e.msg = .complete b →
      s.history.ended = true ∧ b = false := by
    intro e he b hm
    obtain ⟨h1, h2, -⟩ := hs.ended e he b hm
    refine ⟨h1, ?_⟩
    by_contra hb
    have := h2 (by simpa using hb)
    simp [hnone] at this
  cases getItem with
  | false =>
    exact
      { hs with
        closed := fun hover => Or.inl (hclosed hover)
        succeeded := by simp [events, History.acts, History.sends, hnone]
        living := by simp
        frames := by simpa [events] using hs.frames
        framesTrue := by simpa [events, History.acts, History.sends] using hs.framesTrue }
  | true =>
    refine
      { hs with
        ended := ?_
        closed := fun hover => Or.inl (hclosed hover)
        passed := by simp [hauth]
        succeeded := by simp [events, History.acts, History.sends]
        living := by simp
        frames := ?_
        framesTrue := ?_ }
    · intro e he b hm
      obtain ⟨hover, rfl⟩ := hended e he b hm
      exact ⟨hover, by simp, fun _ => hauth⟩
    · refine List.pairwise_append.mpr ⟨hs.frames, List.pairwise_singleton _ _, ?_⟩
      exact fun f hf _ _ => hframes f hf
    · intro a x hf
      rcases List.mem_append.mp hf with hf | hf
      · have := hframes _ hf
        simp [completes] at this
      · simp only [events, if_true, List.map_cons, List.map_nil, List.mem_singleton,
          Option.some.injEq, PamEvent.CompleteEvent.injEq] at hf
        simp [events, History.acts, History.sends, ← hf.2.1]

theorem acts_eq {h : History} {act : Act}
    (hact : ∀ authRes getItem text, act ≠ .finish authRes getItem text) : h.acts act = h := by
  unfold History.acts
  split
  · exact absurd rfl (hact _ _ _)
  · rfl

theorem childAct_inv {s t : Sys} {act : Act} (hs : Inv s) (halive : s.childAlive = true)
    (h : s.childAct act = some t) : Inv t := by
  obtain ⟨c, events, hstep, rfl⟩ := childAct_eq_some h
  obtain ⟨authRes, getItem, text, rfl, hpc, rfl⟩ | ⟨r, rfl, -, -, rfl⟩ | ⟨hact, -, -, hsent⟩ :=
    child_step_cases hstep
  · have hdead : lives c = false := by simp [lives, hpc]
    rw [hdead]
    exact finish_inv hs halive c authRes getItem text
  · exact hs.sends halive { incomplete := by simp }
  · rw [acts_eq hact]
    obtain ⟨-, rfl | ⟨isError, text, rfl⟩⟩ | ⟨-, secret, text, rfl⟩ := hsent
    · exact hs.sends halive { incomplete := by simp }
    · exact hs.sends halive { incomplete := by simp [completes] }
    · exact hs.sends halive { incomplete := by simp [completes] }

theorem childStep_inv {s t : Sys} {e : ChildEvent} (hs : Inv s) (halive : s.childAlive = true)
    (h : s.childStep e = some t) : Inv t := by
  cases e with
  | act act =>
    cases act with
    | recv r => simp [Sys.childStep] at h
    | _ => exact childAct_inv hs halive h
  | recv =>
    unfold Sys.childStep at h
    rcases hp : s.toChild with _ | ⟨⟨event, origin⟩, rest⟩
    · simp only [hp] at h
      split_ifs at h
      exact childAct_inv hs halive h
    · simp only [hp] at h
      have hread : Inv { s with toChild := rest } := hs.quiet {}
      exact childAct_inv hread halive h
  | die =>
    cases h
    refine { hs with closed := ?_, living := by simp }
    intro hover
    rcases hs.closed hover with hn | ⟨h1, h2, -⟩
    · exact Or.inl hn
    · exact Or.inr ⟨h1, h2, rfl⟩
  | garbage =>
    cases h
    exact hs.sends halive { incomplete := by simp [completes] }

/-! ## Every step -/

/-- What a step puts out: nothing, or that the authentication passed, with the
child of the attempt as the witness. -/
def Passes (o : List Output) (s : Sys) : Prop :=
  o = [] ∨ (s.history.completeSent = some true ∧ s.history.pamResult = some PAM_SUCCESS)

theorem confirm_inv {s : Sys} (hs : Inv s) (r : PromptEdit × Option String) :
    Inv (s.confirm env r) := by
  obtain ⟨e, _ | text⟩ := r
  · exact hs.quiet {}
  · rw [confirm_eq]
    exact hs.quiet {}

theorem see_eq (s : Sys) (e : Entry Note) :
    ∃ m, s.see e = { s with history := { s.history with shown := m } } := by
  unfold Sys.see
  split
  · split_ifs
    · exact ⟨_, rfl⟩
    · exact ⟨_, rfl⟩
  · exact ⟨_, rfl⟩

/-- The delivery of a message. A completion ends the attempt, begins the next one,
or passes. -/
theorem deliver_inv {s t : Sys} {k : ForkAnswer} {o : List Output} (hs : Inv s)
    (h : s.mainStep env (.deliver k) = some (t, o)) : Inv t ∧ Passes o t := by
  simp only [Sys.mainStep, Option.map_eq_some_iff, Prod.exists] at h
  obtain ⟨e, d, hd, heq⟩ := h
  obtain ⟨m, hsee⟩ := see_eq { s with queue := d } e
  rw [hsee, dispatch_queued] at heq
  have hflight : List.Sublist d.flight s.queue.flight := by
    rw [Dispatch.flight_deliver hd]
    exact List.sublist_cons_self e d.flight
  have hquiet : ∀ p dialog, p.m_authMessageQueue = s.proxy.m_authMessageQueue →
      dialog.btn_reAuth_visible = s.dialog.btn_reAuth_visible →
      Inv { s with
        queue := d, proxy := p, dialog := dialog
        history := { s.history with shown := m } } := fun p dialog hq hbtn =>
    hs.quiet { hasQueue := hq, flight := hflight, button := hbtn }
  rcases hm : e.msg with ⟨f, type, text⟩ | ⟨type, text⟩ | b
  · rw [hm] at heq
    cases heq
    exact ⟨hquiet _ _ rfl rfl, Or.inl rfl⟩
  · rw [hm] at heq
    cases heq
    exact ⟨hquiet _ _ rfl rfl, Or.inl rfl⟩
  · rw [hm] at heq
    obtain ⟨hover, hsent, hauth, hplain⟩ := hs.after_completion hd hm
    have hstop := stopAuthSession_hasQueue s.proxy
    cases b with
    | false =>
      simp only [Sys.slotAuthenticationComplete, Bool.not_false, if_true] at heq
      split_ifs at heq
      · cases heq
        refine ⟨?_, Or.inl rfl⟩
        exact { hquiet _ s.dialog hstop rfl with button := fun _ => ⟨hover, hauth rfl, hplain⟩ }
      · cases heq
        exact ⟨startAuth_inv k (hstop.trans hs.hasQueue) hs.notified (hauth rfl) hplain, Or.inl rfl⟩
    | true =>
      cases heq
      exact ⟨hquiet _ _ hstop rfl, Or.inr ⟨hsent rfl, hs.succeeded (hsent rfl)⟩⟩

theorem main_inv {s t : Sys} {e : Event} {o : List Output} (hs : Inv s)
    (h : s.mainStep env e = some (t, o)) : Inv t ∧ Passes o t := by
  cases e with
  | type text =>
    obtain ⟨e, -, heq⟩ := Option.map_eq_some_iff.mp h
    cases heq
    exact ⟨hs.quiet {}, Or.inl rfl⟩
  | pressReturn =>
    obtain ⟨r, -, heq⟩ := Option.map_eq_some_iff.mp h
    cases heq
    exact ⟨confirm_inv env hs r, Or.inl rfl⟩
  | clickButton =>
    obtain ⟨r, -, heq⟩ := Option.map_eq_some_iff.mp h
    cases heq
    exact ⟨confirm_inv env hs r, Or.inl rfl⟩
  | clickReAuth k =>
    simp only [Sys.mainStep] at h
    split_ifs at h with hbtn
    cases h
    obtain ⟨-, hauth, hplain⟩ := hs.button hbtn
    exact ⟨startAuth_inv k hs.hasQueue hs.notified hauth hplain, Or.inl rfl⟩
  | pipeActivated k reply =>
    simp only [Sys.mainStep, Option.map_eq_some_iff, Prod.exists] at h
    obtain ⟨f, s1, hr, heq⟩ := h
    obtain ⟨hinv, rfl⟩ := pipe_inv env hs hr heq
    exact ⟨hinv, Or.inl rfl⟩
  | serviceMessages k msg type sid =>
    obtain ⟨ops, hplain, heq⟩ :=
      dispatch_serviceMessages k s.userOrigin s.note env hs.hasQueue msg type sid
    obtain ⟨rfl, rfl⟩ := Prod.mk.inj (heq.symm.trans (Option.some.inj h))
    refine ⟨hs.goes_on
      { hasQueue := hs.hasQueue
        flight := ⟨pending ops, by rw [Dispatch.flight_call], fun e he => ⟨(hplain e he).1, ?_⟩⟩ },
      Or.inl rfl⟩
    simp [(hplain e he).2]
  | serviceMethod k authType method sid =>
    have heq := dispatch_serviceMethod (s := s) k s.userOrigin s.note env authType method sid
    obtain ⟨rfl, rfl⟩ := Prod.mk.inj (heq.symm.trans (Option.some.inj h))
    exact ⟨hs, Or.inl rfl⟩
  | deliver k => exact deliver_inv env hs h
  | cancelAuthentication k =>
    cases h
    exact ⟨cancel_inv hs k, Or.inl rfl⟩
  | thread t => simp [Sys.mainStep] at h
  | child e => simp [Sys.mainStep] at h

theorem step_inv {s t : Sys} {e : Event} {o : List Output} (hs : Inv s)
    (h : step env s e = some (t, o)) : Inv t ∧ Passes o t := by
  unfold step at h
  split at h
  · rename_i t
    obtain ⟨d, hd, heq⟩ := Option.map_eq_some_iff.mp h
    cases heq
    exact ⟨hs.quiet { flight := Dispatch.step_flight hd }, Or.inl rfl⟩
  · rename_i e
    split_ifs at h with halive
    obtain ⟨t, ht, heq⟩ := Option.map_eq_some_iff.mp h
    cases heq
    exact ⟨childStep_inv hs halive ht, Or.inl rfl⟩
  · split_ifs at h
    exact main_inv env hs h

theorem init_inv (m_userName : String) (k : ForkAnswer) : Inv (.init env m_userName k) := by
  apply startAuth_inv
  · rfl
  · rfl
  · rfl
  · simp [Sys.fresh, Dispatch.flight, Worker.held, pending]

/-! ## Unlock safety -/

/-- A step that passes the authentication is taken when the child of the latest
`authenticate` has sent a completion with `auth_result`, and
`pam_authenticate` returned `PAM_SUCCESS` in it. -/
def UnlocksOnSuccess (_ : Sys) (_ : Event) (o : List Output) (s : Sys) : Prop :=
  Output.authenticationPassed ∈ o →
    s.history.completeSent = some true ∧ s.history.pamResult = some PAM_SUCCESS

/-- Along every run of the lock screen, whatever its threads, its child, its
services and its user do, the screen is unlocked only on a success of the child
of the latest attempt. -/
theorem only_a_success_unlocks (m_userName : String) (k : ForkAnswer) (es : List Event) :
    Always (step env) UnlocksOnSuccess (.init env m_userName k) es := by
  refine always_of_inv (I := Inv) (G := fun _ _ => True) ?_ (init_inv env m_userName k) meets_true
  intro s e s1 o1 hs _ h
  obtain ⟨hinv, hpass⟩ := step_inv env hs h
  refine ⟨hinv, fun hmem => ?_⟩
  rcases hpass with rfl | hsuccess
  · cases hmem
  · exact hsuccess

/-- A run that unlocks: the child succeeds at once, and its completion gets through
the queue. -/
example : ∃ t, run (step sampleEnv) (.init sampleEnv "root" forked)
    (startUp ++ [.child (.act (.pamStart true)), .child (.act (.finish PAM_SUCCESS true "Success")),
      .pipeActivated forked none, .thread .main, .thread .main, .thread (.worker .check),
      .thread (.worker .acquire), .thread (.worker .dequeue), .thread (.worker (.readClock 100)),
      .thread (.worker (.readClock 100)), .thread (.worker .emit), .deliver forked]) =
        some (t, [.authenticationPassed]) := ⟨_, rfl⟩

end session_guard.lock_screen
