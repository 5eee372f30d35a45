-- The lock screen that nobody can leave: no notifier watches a child, no completion is on its
-- way, and the button that begins another attempt is hidden. It comes to this where a fork fails,
-- and where the flag of the attempt before swallows the completion of this one.
import SessionGuard.UnlockSafety
import SessionGuard.QueueTransparency

open machine

namespace session_guard.lock_screen

open pam_message auth_pam auth_msg_queue auth_proxy auth_runs checkpass prompt_edit

variable (env : Env)

/-! ## The state -/

/-- No completion is on its way to the dialog. -/
def Silent (d : Dispatch Note) : Prop := ∀ e ∈ d.flight, isComplete e = false

/-- Nobody is left to end the attempt, and nothing to begin another one with. -/
structure Stranded (s : Sys) : Prop where
  isAuthenticated : s.pam.m_isAuthenticated = false
  unwatched : s.pam.m_socketNotifier = none
  silent : Silent s.queue
  button : s.dialog.btn_reAuth_visible = false

/-- The step leaves the user before the lock screen for good. -/
def Strands (s : Sys) (_ : Event) (o : List Output) (t : Sys) : Prop :=
  ¬ Stranded s ∧ Stranded t ∧ o = []

/-- The kernel gives both pipes and a child. -/
def works (k : ForkAnswer) : Bool :=
  k.toParentPipe.isSome && k.toChildPipe.isSome && k.forkPid.isSome

/-- The event begins an attempt with no child, or takes the end of the pipe of an attempt for
which the flag of the one before says that it has completed. -/
def LosesAttempt (s : Sys) : Event → Prop
  | .clickReAuth k => works k = false
  | .deliver k => works k = false ∧ s.dialog.m_havePrompt = true ∧
      ∃ e d, s.queue.deliver = some (e, d) ∧ e.msg = .complete false
  | .pipeActivated _ _ => (∃ s1, s.readPipe = some (none, s1)) ∧
      s.pam.m_hasSendCompleteSignal = true ∧ s.pam.m_isAuthenticated = false ∧ Silent s.queue ∧
      s.dialog.btn_reAuth_visible = false
  | _ => False

/-- The lock screen with what the dialog really does: it cancels in `startAuth` only. -/
def dialogStep : Step Sys Event Output
  | _, .cancelAuthentication _ => none
  | s, e => step env s e

theorem dialogStep_eq {s : Sys} {e : Event} {r : Sys × List Output}
    (h : dialogStep env s e = some r) : step env s e = some r := by
  unfold dialogStep at h
  split at h
  · cases h
  · exact h

/-! ## What the calls do to the queue -/

/-- The functions of the queue that the effects call come after those that are under way. -/
theorem proxyCall_queue (s : Sys) (k : ForkAnswer) (origin : Origin) (note : Note)
    (r : AuthProxy × List auth_proxy.Effect) :
    (s.proxyCall k origin note r).queue = s.queue.call (mainOps note r.2) := by
  suffices h : ∀ (effects : List auth_proxy.Effect) (t : Sys),
      (effects.foldl (Sys.effect k origin note) t).queue = t.queue.call (mainOps note effects) from
    h r.2 _
  intro effects
  induction effects with
  | nil => intro t; exact (call_nil t.queue).symm
  | cons e effects ih =>
    intro t
    rw [List.foldl_cons, ih]
    cases e with
    | authAuthenticate u => simp [Sys.effect, pamAuthenticate_eq, mainOps]
    | authCancel => simp [Sys.effect, pamCancel_eq, mainOps]
    | stopDispatcher => simp [Sys.effect, mainOps, call_call]
    | startDispatcher => simp [Sys.effect, mainOps, call_call]
    | append msg => simp [Sys.effect, mainOps, call_call]
    | _ => rfl

theorem stops_mainOps {note : Note} {effects : List auth_proxy.Effect}
    (h : auth_proxy.Effect.stopDispatcher ∉ effects) :
    (mainOps note effects).any MainOp.stops = false := by
  induction effects with
  | nil => rfl
  | cons e effects ih =>
    have hrest := ih fun hmem => h (List.mem_cons_of_mem _ hmem)
    cases e with
    | stopDispatcher => exact absurd List.mem_cons_self h
    | append msg => simpa [mainOps, append, MainOp.stops] using hrest
    | startDispatcher => simpa [mainOps, MainOp.stops] using hrest
    | _ => exact hrest

/-- The completion of PAM stops no dispatcher. -/
theorem pamComplete_stops (p : AuthProxy) (b : Bool) (hq : p.m_authMessageQueue = true) :
    auth_proxy.Effect.stopDispatcher ∉ (p.handlePamAuthComplete b).2 := by
  obtain ⟨effects, before, -, heq, rfl⟩ := handlePamAuthComplete_queued hq b
  rw [heq]
  rcases stopAuthSession_cases p with h | h <;> simp [h]

/-! ## What the invariant adds -/

/-- The worker is sane, and while the dispatcher is being stopped no completion is on its way. -/
def Settled (d : Dispatch Note) : Prop := Sane d.q ∧ (d.stopping = true → Silent d)

/-- The invariant of the unlocking, and that of the queue beside it. -/
structure Watched (s : Sys) : Prop where
  inv : Inv s
  settled : Settled s.queue

/-- Between the two states a completion neither comes nor goes. -/
structure SameEnd (s t : Sys) : Prop where
  pam : t.pam = s.pam := by rfl
  silent : Silent t.queue ↔ Silent s.queue := by exact Iff.rfl
  button : t.dialog.btn_reAuth_visible = s.dialog.btn_reAuth_visible := by rfl

theorem SameEnd.stranded {s t : Sys} (h : SameEnd s t) : Stranded t ↔ Stranded s := by
  constructor
  · rintro ⟨h1, h2, h3, h4⟩
    exact ⟨h.pam ▸ h1, h.pam ▸ h2, h.silent.mp h3, h.button ▸ h4⟩
  · rintro ⟨h1, h2, h3, h4⟩
    exact ⟨h.pam.symm ▸ h1, h.pam.symm ▸ h2, h.silent.mpr h3, h.button.symm ▸ h4⟩

/-- What is appended leaves the queue silent when it is no completion. -/
theorem silent_call {d : Dispatch Note} {ops : List (MainOp Note)}
    (h : ∀ e ∈ pending ops, isComplete e = false) : Silent (d.call ops) ↔ Silent d := by
  unfold Silent
  rw [Dispatch.flight_call]
  constructor
  · exact fun hall e he => hall e (List.mem_append_left _ he)
  · exact fun hall e he => (List.mem_append.mp he).elim (hall e) (h e)

/-- In the event loop, calls that do not stop the dispatcher leave the queue settled. -/
theorem Settled.call {d : Dispatch Note} {ops : List (MainOp Note)} (h : Settled d)
    (hloop : d.AtLoop) (hstops : ops.any MainOp.stops = false) : Settled (d.call ops) := by
  refine ⟨h.1, fun hstop => ?_⟩
  rw [Dispatch.stopping, Dispatch.call, hloop, List.nil_append, hstops] at hstop
  cases hstop

/-- Either thread of a settled queue drops no completion. -/
theorem Settled.step {d d1 : Dispatch Note} {t : Thread} (h : Settled d)
    (hstep : d.step t = some d1) : Settled d1 ∧ (Silent d1 ↔ Silent d) := by
  have hsub := Dispatch.step_flight hstep
  have hdown : Silent d → Silent d1 := fun hsilent e he => hsilent e (hsub.subset he)
  by_cases hstop : d.stopping = true
  · have hsilent := h.2 hstop
    exact ⟨⟨sane_step h.1 hstep, fun _ => hdown hsilent⟩, fun _ => hsilent, hdown⟩
  · obtain ⟨hstop1, hflight⟩ := Dispatch.step_keeps h.1 (by simpa using hstop) hstep
    refine ⟨⟨sane_step h.1 hstep, fun hs1 => ?_⟩, ?_⟩
    · rw [hstop1] at hs1
      cases hs1
    · unfold Silent
      rw [hflight]

theorem Settled.deliver {d d1 : Dispatch Note} {e : Entry Note} (h : Settled d)
    (hd : d.deliver = some (e, d1)) :
    Settled d1 ∧ (isComplete e = false → (Silent d1 ↔ Silent d)) := by
  obtain ⟨-, hops1, -, hq⟩ := Dispatch.deliver_eq_some hd
  refine ⟨⟨?_, fun hstop => ?_⟩, fun he => ?_⟩
  · rw [hq]
    exact h.1
  · rw [Dispatch.stopping, hops1] at hstop
    cases hstop
  · unfold Silent
    rw [Dispatch.flight_deliver hd]
    simp [he]

/-! ## The beginning of an attempt -/

/-- A child is watched after `forkChild` when the kernel gives one, or one was watched before. -/
theorem forkChild_unwatched {a : AuthPam} (u : String) (k : ForkAnswer)
    (h : a.m_socketNotifier = none) :
    (a.forkChild u k).1.m_socketNotifier = none ↔ works k = false := by
  unfold AuthPam.forkChild works
  rcases k.toParentPipe with _ | p
  · simpa using h
  · rcases k.toChildPipe with _ | c
    · simpa using h
    · rcases k.forkPid with _ | pid
      · simpa using h
      · simp

theorem authenticate_unwatched {a : AuthPam} (u : String) (k : ForkAnswer)
    (h : a.m_socketNotifier.isSome = a.m_inAuthenticating) :
    (a.authenticate u k).1.m_socketNotifier = none ↔ works k = false := by
  unfold AuthPam.authenticate
  apply forkChild_unwatched
  split_ifs with hin
  · rfl
  · rw [AuthPam.inAuthentication, ← h] at hin
    simpa using hin

/-- What `startAuth` makes of the interface: one call of `authenticate`, after a cancel or not. -/
theorem startAuth_pam {s : Sys} (k : ForkAnswer) (hq : s.proxy.m_authMessageQueue = true) :
    (s.startAuth k).pam = ((if s.pam.inAuthentication then s.pam.cancelAuthentication.1
      else s.pam).authenticate s.dialog.m_userName k).1 := by
  have hauth : ∀ {c : Sys} (u : String), c.proxy.m_authMessageQueue = true →
      (c.authenticate u k).pam = (c.pam.authenticate u k).1 := by
    intro c u hc
    rw [authenticate_eq u k hc, pamAuthenticate_eq]
  have hcancel : ∀ {c : Sys}, c.proxy.m_authMessageQueue = true →
      (c.cancelAuthentication k).pam = c.pam.cancelAuthentication.1 ∧
        (c.cancelAuthentication k).dialog = c.dialog ∧
          (c.cancelAuthentication k).proxy.m_authMessageQueue = true := by
    intro c hc
    rw [cancelAuthentication_eq k hc, pamCancel_eq]
    exact ⟨rfl, rfl, (stopAuthSession_hasQueue c.proxy).trans hc⟩
  unfold Sys.startAuth
  dsimp only
  split_ifs with hin
  · obtain ⟨hpam, hdialog, hc⟩ := hcancel (c := { s with
      dialog := { s.dialog.updateCurrentAuthType with m_havePrompt := false } }) hq
    rw [hauth _ hc, hpam, hdialog]
    rfl
  · exact hauth _ hq

theorem startAuth_stranded {s : Sys} (k : ForkAnswer) (hq : s.proxy.m_authMessageQueue = true)
    (hn : s.pam.m_socketNotifier.isSome = s.pam.m_inAuthenticating)
    (hauth : s.pam.m_isAuthenticated = false) (hsilent : Silent s.queue) :
    Stranded (s.startAuth k) ↔ works k = false := by
  have hb := startAuth_begins k hq
  have hunwatched : (s.startAuth k).pam.m_socketNotifier = none ↔ works k = false := by
    rw [startAuth_pam k hq]
    apply authenticate_unwatched
    split_ifs
    · rfl
    · exact hn
  constructor
  · exact fun h => hunwatched.mp h.unwatched
  · intro hk
    refine ⟨?_, hunwatched.mpr hk, ?_, hb.button⟩
    · rw [hb.isAuthenticated, hauth, Bool.and_false]
    · unfold Silent
      rw [hb.flight]
      exact hsilent

theorem startAuth_queue (s : Sys) (k : ForkAnswer) :
    ∃ ops, (s.startAuth k).queue = s.queue.call ops := by
  unfold Sys.startAuth Sys.authenticate Sys.cancelAuthentication
  dsimp only
  rw [proxyCall_queue]
  split_ifs
  · rw [proxyCall_queue, call_call]
    exact ⟨_, rfl⟩
  · exact ⟨_, rfl⟩

theorem startAuth_settled {s : Sys} (k : ForkAnswer) (hq : s.proxy.m_authMessageQueue = true)
    (hsane : Sane s.queue.q) (hsilent : Silent s.queue) : Settled (s.startAuth k).queue := by
  have hflight := (startAuth_begins k hq).flight
  obtain ⟨ops, hqueue⟩ := startAuth_queue s k
  refine ⟨?_, fun _ e he => hsilent e (hflight ▸ he)⟩
  rw [hqueue]
  exact hsane

/-! ## The steps -/

/-- A step keeps the completions, or it ends the attempt: then it leaves the user before the lock
screen exactly when the event loses the attempt. -/
def Outcome (s : Sys) (e : Event) (o : List Output) (t : Sys) : Prop :=
  (SameEnd s t ∧ o = [] ∧ ¬ LosesAttempt s e) ∨
    (¬ Stranded s ∧ (Stranded t ∧ o = [] ↔ LosesAttempt s e))

theorem Outcome.strands {s t : Sys} {e : Event} {o : List Output} (h : Outcome s e o t) :
    Strands s e o t ↔ LosesAttempt s e := by
  unfold Strands
  rcases h with ⟨hkeeps, ho, hno⟩ | ⟨hnot, hiff⟩
  · rw [hkeeps.stranded]
    tauto
  · rw [← hiff]
    tauto

theorem Outcome.stays {s t : Sys} {e : Event} {o : List Output} (h : Outcome s e o t)
    (hs : Stranded s) : Stranded t ∧ o = [] := by
  rcases h with ⟨hkeeps, ho, -⟩ | ⟨hnot, -⟩
  · exact ⟨hkeeps.stranded.mpr hs, ho⟩
  · exact absurd hs hnot

/-- The completion of PAM is put on its way, and the queue stays settled. -/
theorem pamComplete_outcome {s t : Sys} {k : ForkAnswer} {origin : Origin} {note : Note} {b : Bool}
    {o : List Output} (hs : Settled s.queue) (hloop : s.queue.AtLoop)
    (hq : s.proxy.m_authMessageQueue = true)
    (h : s.dispatch k origin note (s.proxy.handlePamAuthComplete b) = (t, o)) :
    Settled t.queue ∧ ¬ Silent t.queue ∧ o = [] := by
  obtain ⟨effects, before, -, heq, heffects⟩ := handlePamAuthComplete_queued hq b
  have hnone : effects.findSome? completion = none := by
    apply List.findSome?_eq_none_iff.mpr
    intro x hx
    rw [heffects] at hx
    rcases List.mem_append.mp hx with hx | hx
    · rcases stopAuthSession_cases s.proxy with h | h <;> rw [h] at hx
      · cases hx
      · obtain rfl := List.mem_singleton.mp hx
        rfl
    · obtain ⟨m, -, rfl⟩ := List.mem_map.mp hx
      rfl
  have hmem : (⟨.complete b, note⟩ : Entry Note) ∈ pending (mainOps note effects) :=
    mem_pending_mainOps.mpr ⟨.complete b, by simp [heffects], rfl⟩
  have hstops := pamComplete_stops s.proxy b hq
  rw [heq] at h hstops
  rw [dispatch_of_none hnone] at h
  obtain ⟨rfl, rfl⟩ := Prod.mk.inj h
  rw [proxyCall_queue]
  refine ⟨hs.call hloop (stops_mainOps hstops), fun hsilent => ?_, rfl⟩
  have := hsilent _ (by rw [Dispatch.flight_call]; exact List.mem_append_right _ hmem)
  simp [isComplete] at this

/-- At the end of the pipe, or after a broken frame. -/
theorem pipe_end_outcome {s t : Sys} {k : ForkAnswer} {reply : Option (String × String)}
    {o : List Output} (hs : Settled s.queue) (hloop : s.queue.AtLoop)
    (hq : s.proxy.m_authMessageQueue = true) (h : s.handleFrame env k reply none = (t, o)) :
    Settled t.queue ∧ o = [] ∧ (Stranded t ↔ s.pam.m_hasSendCompleteSignal = true ∧
      s.pam.m_isAuthenticated = false ∧ Silent s.queue ∧ s.dialog.btn_reAuth_visible = false) := by
  unfold Sys.handleFrame AuthPam.handlePipeActivated Sys.hear at h
  simp only [handleChildExit_signal] at h
  by_cases hsent : s.pam.m_hasSendCompleteSignal = true
  · simp only [hsent, if_true, Prod.mk.injEq] at h
    obtain ⟨rfl, rfl⟩ := h
    refine ⟨hs, rfl, ?_⟩
    constructor
    · rintro ⟨h1, -, h3, h4⟩
      exact ⟨hsent, h1, h3, h4⟩
    · rintro ⟨-, h1, h3, h4⟩
      exact ⟨h1, rfl, h3, h4⟩
  · simp only [hsent] at h
    obtain ⟨hsettled, hloud, ho⟩ := pamComplete_outcome
      (s := { s with pam := s.pam.handleChildExit.1, history := { s.history with ended := true } })
      hs hloop hq h
    exact ⟨hsettled, ho, fun hst => absurd hst.silent hloud, fun hst => absurd hst.1 hsent⟩

/-- A frame of the child leaves the pipe watched. -/
theorem frame_outcome {s t : Sys} {event : PamEvent} {k : ForkAnswer}
    {reply : Option (String × String)} {o : List Output} (hs : Settled s.queue)
    (hloop : s.queue.AtLoop) (hq : s.proxy.m_authMessageQueue = true)
    (h : s.handleFrame env k reply (some event) = (t, o)) :
    Settled t.queue ∧ t.pam.m_socketNotifier = s.pam.m_socketNotifier ∧ o = [] := by
  have hone : ∀ x : Entry Note, Settled (s.queue.call (append x)) := fun x => hs.call hloop rfl
  cases event with
  | ErrorEvent text =>
    cases h
    exact ⟨hs, rfl, rfl⟩
  | PromptReplyEvent result text =>
    cases h
    exact ⟨hs, rfl, rfl⟩
  | MessageEvent isError text =>
    have heq := dispatch_pamMessage (s := s) k (.auto s.history.heard) s.note hq text
      (if isError then .Error else .Info)
    obtain ⟨rfl, rfl⟩ := Prod.mk.inj (heq.symm.trans h)
    exact ⟨hone _, rfl, rfl⟩
  | PromptRequestEvent secret text =>
    have hcases := dispatch_pamPrompt
      (s := { s with history := { s.history with heard := s.history.heard + 1 } })
      k (.auto (s.history.heard + 1)) ⟨s.history.attempt, s.history.heard + 1⟩ env hq
      s.pam.authenticationUser reply text (if secret then .Secret else .Question)
    rcases hcases with ⟨p, response, -, -, heq⟩ | heq
    · obtain ⟨rfl, rfl⟩ := Prod.mk.inj (heq.symm.trans h)
      exact ⟨hs, rfl, rfl⟩
    · obtain ⟨rfl, rfl⟩ := Prod.mk.inj (heq.symm.trans h)
      exact ⟨hone _, rfl, rfl⟩
  | CompleteEvent complete authResult text =>
    obtain ⟨p, ops, before, -, -, -, -, heq⟩ := dispatch_pamComplete
      (s := { s with
        pam := { s.pam with m_hasSendCompleteSignal := true, m_isAuthenticated := authResult }
        history := { s.history with ended := true } })
      k (.auto s.history.heard) s.note hq authResult
    obtain ⟨hsettled, -, ho⟩ := pamComplete_outcome
      (s := { s with
        pam := { s.pam with m_hasSendCompleteSignal := true, m_isAuthenticated := authResult }
        history := { s.history with ended := true } }) hs hloop hq h
    refine ⟨hsettled, ?_, ho⟩
    rw [← (Prod.mk.inj (heq.symm.trans h)).1]

theorem pipe_outcome {s t : Sys} {k : ForkAnswer} {reply : Option (String × String)}
    {o : List Output} (hs : Watched s) (hloop : s.queue.AtLoop)
    (h : s.mainStep env (.pipeActivated k reply) = some (t, o)) :
    Settled t.queue ∧ Outcome s (.pipeActivated k reply) o t := by
  simp only [Sys.mainStep, Option.map_eq_some_iff, Prod.exists] at h
  obtain ⟨f, s1, hr, heq⟩ := h
  obtain ⟨⟨fd, hfd⟩, hread⟩ := readPipe_cases hr
  have hwatched : ¬ Stranded s := fun hst => by simp [hst.unwatched] at hfd
  -- nothing but the pipe is touched by the read
  have hsame : s1.pam = s.pam ∧ s1.queue = s.queue ∧ s1.dialog = s.dialog ∧ s1.proxy = s.proxy := by
    obtain ⟨fs, -, rfl⟩ | ⟨-, -, -, rfl⟩ := hread <;> exact ⟨rfl, rfl, rfl, rfl⟩
  obtain ⟨hpam, hqueue, hdialog, hproxy⟩ := hsame
  have hs1 : Settled s1.queue := hqueue ▸ hs.settled
  have hloop1 : s1.queue.AtLoop := hqueue ▸ hloop
  have hq1 : s1.proxy.m_authMessageQueue = true := hproxy ▸ hs.inv.hasQueue
  cases f with
  | none =>
    obtain ⟨hsettled, rfl, hiff⟩ := pipe_end_outcome env hs1 hloop1 hq1 heq
    rw [hpam, hqueue, hdialog] at hiff
    refine ⟨hsettled, Or.inr ⟨hwatched, ?_⟩⟩
    unfold LosesAttempt
    rw [hiff]
    constructor
    · exact fun hst => ⟨⟨s1, hr⟩, hst.1⟩
    · exact fun hst => ⟨hst.2, rfl⟩
  | some event =>
    obtain ⟨hsettled, hn, rfl⟩ := frame_outcome env hs1 hloop1 hq1 heq
    refine ⟨hsettled, Or.inr ⟨hwatched, ?_⟩⟩
    constructor
    · rintro ⟨hst, -⟩
      rw [hst.unwatched, hpam, hfd] at hn
      cases hn
    · rintro ⟨⟨s2, hr2⟩, -⟩
      rw [hr] at hr2
      cases hr2

/-- An attempt that the dialog begins when nothing of the one before is left. -/
theorem startAuth_outcome {s : Sys} (k : ForkAnswer) (hs : Watched s)
    (hauth : s.pam.m_isAuthenticated = false) (hplain : Silent s.queue) :
    Settled (s.startAuth k).queue ∧ (Stranded (s.startAuth k) ↔ works k = false) :=
  ⟨startAuth_settled k hs.inv.hasQueue hs.settled.1 hplain,
    startAuth_stranded k hs.inv.hasQueue hs.inv.notified hauth hplain⟩

theorem deliver_outcome {s t : Sys} {k : ForkAnswer} {o : List Output} (hs : Watched s)
    (h : s.mainStep env (.deliver k) = some (t, o)) :
    Settled t.queue ∧ Outcome s (.deliver k) o t := by
  simp only [Sys.mainStep, Option.map_eq_some_iff, Prod.exists] at h
  obtain ⟨e, d, hd, heq⟩ := h
  obtain ⟨m, hsee⟩ := see_eq { s with queue := d } e
  rw [hsee, dispatch_queued] at heq
  obtain ⟨hsettled, hsilent⟩ := hs.settled.deliver hd
  -- a message that is only shown
  have hshown : isComplete e = false → t.queue = d → t.pam = s.pam →
      t.dialog.btn_reAuth_visible = s.dialog.btn_reAuth_visible → o = [] →
      Settled t.queue ∧ Outcome s (.deliver k) o t := by
    intro he hqueue hpam hbtn ho
    refine ⟨hqueue ▸ hsettled, Or.inl ⟨⟨hpam, hqueue ▸ hsilent he, hbtn⟩, ho, ?_⟩⟩
    rintro ⟨-, -, e1, d1, hd1, hm1⟩
    cases hd.symm.trans hd1
    simp [isComplete, hm1] at he
  rcases hm : e.msg with ⟨f, type, text⟩ | ⟨type, text⟩ | b
  · rw [hm] at heq
    cases heq
    exact hshown (by simp [isComplete, hm]) rfl rfl rfl rfl
  · rw [hm] at heq
    cases heq
    exact hshown (by simp [isComplete, hm]) rfl rfl rfl rfl
  · rw [hm] at heq
    obtain ⟨-, -, hauth, hplain⟩ := hs.inv.after_completion hd hm
    have hloud : ¬ Stranded s := by
      intro hst
      have := hst.silent e (by rw [Dispatch.flight_deliver hd]; exact List.mem_cons_self)
      simp [isComplete, hm] at this
    have hstop := stopAuthSession_hasQueue s.proxy
    cases b with
    | false =>
      simp only [Sys.slotAuthenticationComplete, Bool.not_false, if_true] at heq
      split_ifs at heq with hprompt
      · -- the button is shown
        cases heq
        refine ⟨hsettled, Or.inr ⟨hloud, ?_⟩⟩
        constructor
        · rintro ⟨hst, -⟩
          cases hst.button
        · rintro ⟨-, hp, -⟩
          simp [hp] at hprompt
      · cases heq
        have hq := hstop.trans hs.inv.hasQueue
        have hsilent1 : Silent d := fun x hx => (hplain x hx).1
        refine ⟨startAuth_settled k hq hsettled.1 hsilent1, Or.inr ⟨hloud, ?_⟩⟩
        have hiff := startAuth_stranded (s := { s with
            queue := d, proxy := s.proxy.stopAuthSession.1
            history := { s.history with shown := m } })
          k hq hs.inv.notified (hauth rfl) hsilent1
        rw [hiff]
        constructor
        · exact fun hk => ⟨hk.1, by simpa using hprompt, e, d, hd, hm⟩
        · exact fun hk => ⟨hk.1, rfl⟩
    | true =>
      cases heq
      refine ⟨hsettled, Or.inr ⟨hloud, ?_⟩⟩
      constructor
      · rintro ⟨-, ho⟩
        cases ho
      · rintro ⟨-, -, e1, d1, hd1, hm1⟩
        cases hd.symm.trans hd1
        rw [hm] at hm1
        cases hm1

/-- The child touches neither `AuthPam`, the queue nor the dialog. -/
theorem childStep_apart {s t : Sys} {e : ChildEvent} (h : s.childStep e = some t) :
    t.pam = s.pam ∧ t.queue = s.queue ∧ t.dialog = s.dialog := by
  have hact : ∀ {s t : Sys} {act : Act}, s.childAct act = some t →
      t.pam = s.pam ∧ t.queue = s.queue ∧ t.dialog = s.dialog := by
    intro s t act hact
    obtain ⟨c, events, -, rfl⟩ := childAct_eq_some hact
    exact ⟨rfl, rfl, rfl⟩
  cases e with
  | act act =>
    cases act with
    | recv r => cases h
    | _ => exact hact h
  | recv =>
    unfold Sys.childStep at h
    rcases hp : s.toChild with _ | ⟨⟨event, origin⟩, rest⟩
    · simp only [hp] at h
      split_ifs at h
      exact hact h
    · simp only [hp] at h
      exact hact (s := { s with toChild := rest }) h
  | die =>
    cases h
    exact ⟨rfl, rfl, rfl⟩
  | garbage =>
    cases h
    exact ⟨rfl, rfl, rfl⟩

/-- What the authentication service has appended stops no dispatcher. -/
theorem serviceMessages_settled {s : Sys} (k : ForkAnswer) (origin : Origin) (note : Note)
    (msg : String) (type : Int) (sid : String) (hs : Settled s.queue) (hloop : s.queue.AtLoop)
    (hq : s.proxy.m_authMessageQueue = true) :
    Settled (s.dispatch k origin note
      (s.proxy.handleAuthServiceAuthMessages env msg type sid)).1.queue := by
  have hcalm : auth_proxy.Effect.stopDispatcher ∉
      (s.proxy.handleAuthServiceAuthMessages env msg type sid).2 ∧
        (s.proxy.handleAuthServiceAuthMessages env msg type sid).2.findSome? completion = none := by
    unfold AuthProxy.handleAuthServiceAuthMessages
    simp only [hq, if_true]
    split_ifs <;> simp [completion]
  rw [dispatch_of_none hcalm.2, proxyCall_queue]
  exact hs.call hloop (stops_mainOps hcalm.1)

theorem main_outcome {s t : Sys} {e : Event} {o : List Output} (hs : Watched s)
    (hloop : s.queue.AtLoop) (hcancel : ∀ k, e ≠ .cancelAuthentication k)
    (h : s.mainStep env e = some (t, o)) : Settled t.queue ∧ Outcome s e o t := by
  have hconfirm : ∀ r, Settled (s.confirm env r).queue ∧ SameEnd s (s.confirm env r) := by
    rintro ⟨e, _ | text⟩
    · exact ⟨hs.settled, {}⟩
    · rw [confirm_eq]
      exact ⟨hs.settled, {}⟩
  cases e with
  | type text =>
    obtain ⟨e, -, heq⟩ := Option.map_eq_some_iff.mp h
    cases heq
    exact ⟨hs.settled, Or.inl ⟨{}, rfl, id⟩⟩
  | pressReturn =>
    obtain ⟨r, -, heq⟩ := Option.map_eq_some_iff.mp h
    cases heq
    exact ⟨(hconfirm r).1, Or.inl ⟨(hconfirm r).2, rfl, id⟩⟩
  | clickButton =>
    obtain ⟨r, -, heq⟩ := Option.map_eq_some_iff.mp h
    cases heq
    exact ⟨(hconfirm r).1, Or.inl ⟨(hconfirm r).2, rfl, id⟩⟩
  | clickReAuth k =>
    simp only [Sys.mainStep] at h
    split_ifs at h with hbtn
    cases h
    obtain ⟨-, hauth, hplain⟩ := hs.inv.button hbtn
    obtain ⟨hsettled, hiff⟩ := startAuth_outcome k hs hauth fun e he => (hplain e he).1
    refine ⟨hsettled, Or.inr ⟨fun hst => by simp [hst.button] at hbtn, ?_⟩⟩
    rw [hiff]
    exact and_iff_left rfl
  | pipeActivated k reply => exact pipe_outcome env hs hloop h
  | serviceMessages k msg type sid =>
    obtain ⟨ops, hplain, heq⟩ :=
      dispatch_serviceMessages k s.userOrigin s.note env hs.inv.hasQueue msg type sid
    have hnew : ∀ e ∈ pending ops, isComplete e = false := fun e he => (hplain e he).1
    have hsettled := serviceMessages_settled env k s.userOrigin s.note msg type sid hs.settled hloop
      hs.inv.hasQueue
    rw [heq] at hsettled
    obtain ⟨rfl, rfl⟩ := Prod.mk.inj (heq.symm.trans (Option.some.inj h))
    exact ⟨hsettled, Or.inl ⟨{ silent := silent_call hnew }, rfl, id⟩⟩
  | serviceMethod k authType method sid =>
    have heq := dispatch_serviceMethod (s := s) k s.userOrigin s.note env authType method sid
    obtain ⟨rfl, rfl⟩ := Prod.mk.inj (heq.symm.trans (Option.some.inj h))
    exact ⟨hs.settled, Or.inl ⟨{}, rfl, id⟩⟩
  | deliver k => exact deliver_outcome env hs h
  | cancelAuthentication k => exact absurd rfl (hcancel k)
  | thread t => simp [Sys.mainStep] at h
  | child e => simp [Sys.mainStep] at h

theorem dialogStep_outcome {s t : Sys} {e : Event} {o : List Output} (hs : Watched s)
    (h : dialogStep env s e = some (t, o)) : Watched t ∧ Outcome s e o t := by
  obtain ⟨hinv, -⟩ := step_inv env hs.inv (dialogStep_eq env h)
  suffices hq : Settled t.queue ∧ Outcome s e o t from ⟨⟨hinv, hq.1⟩, hq.2⟩
  have hcancel : ∀ k, e ≠ .cancelAuthentication k := by
    rintro k rfl
    cases h
  replace h := dialogStep_eq env h
  unfold step at h
  split at h
  · obtain ⟨d, hd, heq⟩ := Option.map_eq_some_iff.mp h
    cases heq
    obtain ⟨hsettled, hsilent⟩ := hs.settled.step hd
    exact ⟨hsettled, Or.inl ⟨{ silent := hsilent }, rfl, id⟩⟩
  · split_ifs at h
    obtain ⟨t, ht, heq⟩ := Option.map_eq_some_iff.mp h
    cases heq
    obtain ⟨hpam, hqueue, hdialog⟩ := childStep_apart ht
    refine ⟨hqueue ▸ hs.settled, Or.inl ⟨⟨hpam, ?_, ?_⟩, rfl, id⟩⟩
    · rw [hqueue]
    · rw [hdialog]
  · split_ifs at h with hloop
    exact main_outcome env hs hloop hcancel h

/-! ## The lock screen is lost, or it is not -/

theorem init_watched (m_userName : String) (k : ForkAnswer) :
    Watched (.init env m_userName k) := by
  refine ⟨init_inv env m_userName k, startAuth_settled k rfl (fun _ => rfl) ?_⟩
  simp [Silent, Sys.fresh, Dispatch.flight, Worker.held, pending]

/-- In every run, a step strands the user exactly when its event loses the attempt: a fork that
fails, when the dialog begins an attempt by itself or on a click, or a pipe that ends with no result
in an attempt whose flag already says that the completion was sent. -/
theorem the_lock_screen_is_lost_iff (m_userName : String) (k : ForkAnswer) (es : List Event) :
    Always (dialogStep env) (fun s e o t => Strands s e o t ↔ LosesAttempt s e)
      (.init env m_userName k) es := by
  refine always_of_inv (I := Watched) (G := fun _ _ => True) ?_ (init_watched env m_userName k)
    meets_true
  intro s e t o hs _ h
  obtain ⟨hwatched, houtcome⟩ := dialogStep_outcome env hs h
  exact ⟨hwatched, houtcome.strands⟩

/-- And then it is lost for good: whatever the user, the services, the threads and the children do
from there on, the lock screen stays stranded and is never left. A prompt that was on its way may
still be shown, in vain. -/
theorem a_stranded_screen_stays (m_userName : String) (k : ForkAnswer) (es fs : List Event)
    {s : Sys} {o : List Output}
    (h : run (dialogStep env) (.init env m_userName k) es = some (s, o)) (hs : Stranded s) :
    Always (dialogStep env) (fun _ _ o1 t => o1 = [] ∧ Stranded t) s fs := by
  have hwatched : Watched s := run_inv (I := Watched)
    (fun _ _ _ _ hs h => (dialogStep_outcome env hs h).1) (init_watched env m_userName k) h
  refine always_of_inv (I := fun s => Watched s ∧ Stranded s) (G := fun _ _ => True) ?_
    ⟨hwatched, hs⟩ meets_true
  rintro s1 e t o1 ⟨hw, hst⟩ - hstep
  obtain ⟨hw1, houtcome⟩ := dialogStep_outcome env hw hstep
  obtain ⟨hst1, ho⟩ := houtcome.stays hst
  exact ⟨⟨hw1, hst1⟩, ho, hst1⟩

/-- The worker takes a message and emits it. -/
def emitsAt (clock : UInt64) : List Event :=
  [.thread (.worker .check), .thread (.worker .acquire), .thread (.worker .dequeue),
    .thread (.worker (.readClock clock)), .thread (.worker (.readClock clock)),
    .thread (.worker .emit)]

/-- The first attempt fails, and the user clicks the button. The child of the second attempt
crashes. -/
def failThenCrash : List Event :=
  startUp ++
  [.child (.act (.pamStart true)), .child (.act (.finish 7 true "Authentication failure")),
    .pipeActivated forked none, .thread .main, .thread .main, .thread .main, .thread .main,
    .pipeActivated forked none] ++
  emitsAt 100 ++ emitsAt 200 ++ [.deliver forked, .deliver forked, .clickReAuth forked] ++
  [.thread .main, .thread .main, .thread (.worker .check)] ++
  List.replicate 12 (.thread .main) ++ [.child .die, .pipeActivated forked none]

theorem a_crash_strands :
    ∃ s o, run (dialogStep sampleEnv) (.init sampleEnv "root" forked) failThenCrash = some (s, o) ∧
      ∀ fs, Always (dialogStep sampleEnv) (fun _ _ o1 t => o1 = [] ∧ Stranded t) s fs := by
  refine ⟨_, _, rfl, fun fs => ?_⟩
  refine a_stranded_screen_stays sampleEnv "root" forked failThenCrash fs rfl ?_
  exact ⟨rfl, rfl, List.forall_mem_nil _, rfl⟩

end session_guard.lock_screen
