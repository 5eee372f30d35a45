-- When the lock screen can still be left. A completion on its way, the button for another try, or
-- an attempt that somebody can still bring to its end is enough, and without one of these no run
-- unlocks the screen.
import SessionGuard.LockScreenProgress

open machine

namespace session_guard.lock_screen

open pam_message auth_pam auth_msg_queue auth_proxy auth_runs checkpass prompt_edit queue_liveness
open queue_deadlock (Blocked)

variable (env : Env)

/-! ## A message is delivered -/

/-- Between the two states messages are taken from the queue and shown. -/
structure Apart (s t : Sys) : Prop where
  pam : t.pam = s.pam := by rfl
  child : t.child = s.child := by rfl
  childAlive : t.childAlive = s.childAlive := by rfl
  toParent : t.toParent = s.toParent := by rfl
  toChild : t.toChild = s.toChild := by rfl
  button : t.dialog.btn_reAuth_visible = s.dialog.btn_reAuth_visible := by rfl

theorem Apart.trans {s t u : Sys} (h1 : Apart s t) (h2 : Apart t u) : Apart s u where
  pam := h2.pam.trans h1.pam
  child := h2.child.trans h1.child
  childAlive := h2.childAlive.trans h1.childAlive
  toParent := h2.toParent.trans h1.toParent
  toChild := h2.toChild.trans h1.toChild
  button := h2.button.trans h1.button

theorem Waits.apart {s t : Sys} (h : Waits s t) : Apart s t := by
  obtain ⟨d, rfl⟩ := h.rest
  exact {}

/-- The delivery of a message, in the event loop. -/
theorem dialogStep_deliver {s : Sys} {e : Entry Note} {d : Dispatch Note} (k : ForkAnswer)
    (hd : s.queue.deliver = some (e, d)) :
    ∃ m, dialogStep env s (.deliver k) = some
      (match e.msg with
      | .prompt promptFrom promptType msg =>
        ({ s with
          queue := d
          history := { s.history with shown := m }
          proxy := { s.proxy with m_promptFrom := promptFrom }
          dialog := s.dialog.slotShowPrompt msg promptType }, [])
      | .message _ msg =>
        ({ s with
          queue := d
          history := { s.history with shown := m }
          dialog := s.dialog.slotShowMessage msg }, [])
      | .complete authRes =>
        Sys.slotAuthenticationComplete { s with
          queue := d
          history := { s.history with shown := m }
          proxy := s.proxy.stopAuthSession.1 } k authRes) := by
  obtain ⟨m, hsee⟩ := see_eq { s with queue := d } e
  have hloop : s.queue.AtLoop := (Dispatch.deliver_eq_some hd).1
  have hstep : dialogStep env s (.deliver k) = s.mainStep env (.deliver k) := if_pos hloop
  refine ⟨m, ?_⟩
  rw [hstep]
  rcases hm : e.msg with ⟨f, type, text⟩ | ⟨type, text⟩ | b <;>
    simp only [Sys.mainStep, hd, Option.map_some, hsee, hm, dispatch_queued]

/-- A message that is no completion is shown. -/
theorem shows_message {s : Sys} {e : Entry Note} {d : Dispatch Note}
    (hd : s.queue.deliver = some (e, d)) (he : isComplete e = false) :
    ∃ t, dialogStep env s (.deliver forked) = some (t, []) ∧ t.queue = d ∧ Apart s t ∧
      (isPamPrompt e = true →
        t.proxy.m_promptFrom = .PAM ∧ t.dialog.promptEdit.isEnabled = true) := by
  obtain ⟨m, h⟩ := dialogStep_deliver env forked hd
  rcases hm : e.msg with ⟨f, type, text⟩ | ⟨type, text⟩ | b <;> rw [hm] at h
  · refine ⟨_, h, rfl, {}, fun hp => ?_⟩
    cases f with
    | PAM => exact ⟨rfl, rfl⟩
    | AUTH_SERVICE => simp [isPamPrompt, hm] at hp
  · refine ⟨_, h, rfl, {}, fun hp => ?_⟩
    simp [isPamPrompt, hm] at hp
  · simp [isComplete, hm] at he

/-- A message of the wanted kind comes to be the next one to be delivered, when no completion
comes before it. -/
theorem drains {s : Sys} {want : Entry Note → Bool} (hs : Sound s) (hloop : s.queue.AtLoop)
    (hmem : ∃ e ∈ s.queue.flight, want e = true)
    (hwant : ∀ a b, isComplete a = true → want b = true → want a = true ∨ ¬ plain b) :
    Reaches (dialogStep env) (fun t => (Sound t ∧ t.queue.AtLoop ∧ Apart s t) ∧
      ∃ e d, t.queue.deliver = some (e, d) ∧ want e = true) s := by
  have hreach : Reaches (dialogStep env) (fun t => ((Sound t ∧ t.queue.AtLoop ∧ Apart s t) ∧
      ∃ e ∈ t.queue.flight, want e = true) ∧
        ∃ e d, t.queue.deliver = some (e, d) ∧ want e = true) s := by
    apply reaches_of_progress fun t : Sys => toDeliver t.queue
    · rintro t ⟨⟨ht, hloop, hapart⟩, b, hb, hwb⟩ hno
      rcases hp : t.queue.q.posted with _ | ⟨e, rest⟩
      · -- the worker goes on
        obtain ⟨act, d, hd, hloop1, hlt⟩ :=
          ht.kept.toDeliver_lt hloop (List.ne_nil_of_mem hb) hp
        have hnostop : t.queue.stopping = false := by
          rw [Dispatch.stopping, show t.queue.ops = [] from hloop]
          rfl
        obtain ⟨-, hflight⟩ := Dispatch.step_keeps ht.watched.settled.1 hnostop hd
        refine ⟨_, _, _, dialogStep_thread env hd, ?_, hlt⟩
        exact ⟨⟨thread_sound ht hd, hloop1, hapart.trans {}⟩, b, hflight ▸ hb, hwb⟩
      · -- the first message is another one
        obtain ⟨d, hd⟩ := deliver_of_posted hloop hp
        have hwe : want e = false := by
          by_contra hw
          exact hno ⟨e, d, hd, by simpa using hw⟩
        have hflight := Dispatch.flight_deliver hd
        have hbd : b ∈ d.flight := by
          rw [hflight] at hb
          rcases List.mem_cons.mp hb with rfl | hb
          · simp [hwe] at hwb
          · exact hb
        have he : isComplete e = false := by
          by_contra hc
          have hord := ht.watched.inv.ordered
          rw [hflight] at hord
          have hplain := (List.pairwise_cons.mp hord).1 b hbd (by simpa using hc)
          rcases hwant e b (by simpa using hc) hwb with hw | hnot
          · simp [hwe] at hw
          · exact hnot hplain
        obtain ⟨u, hu, hqueue, hrest, -⟩ := shows_message env hd he
        refine ⟨_, u, _, hu, ⟨⟨(dialogStep_sound env ht hu).1, ?_, hapart.trans hrest⟩, b, ?_, hwb⟩,
          ?_⟩
        · rw [hqueue]
          exact (Dispatch.deliver_eq_some hd).2.1
        · rw [hqueue]
          exact hbd
        · rw [hqueue]
          exact deliver_lt hd
    · exact ⟨⟨hs, hloop, {}⟩, hmem⟩
  exact hreach.mono fun t ht => ⟨ht.1.1, ht.2⟩

/-- A completion that is on its way is delivered. -/
theorem completion_arrives {s : Sys} (hs : Sound s) (hfree : ¬ Blocked s.queue)
    (hloud : ¬ Silent s.queue) :
    Reaches (dialogStep env) (fun t => Sound t ∧ Apart s t ∧
      ∃ e d b, t.queue.deliver = some (e, d) ∧ e.msg = .complete b) s := by
  refine (gets_back env hs hfree).trans fun t ⟨ht, hloop⟩ => ?_
  have hmem : ∃ e ∈ t.queue.flight, isComplete e = true := by
    by_contra hno
    refine hloud (ht.silent.mp fun e he => ?_)
    exact Bool.eq_false_iff.mpr fun hc => hno ⟨e, he, hc⟩
  refine (drains env ht.sound hloop hmem fun a b ha _ => Or.inl ha).mono ?_
  rintro u ⟨⟨hu, -, hapart⟩, e, d, hd, he⟩
  refine ⟨hu, ht.apart.trans hapart, e, d, ?_⟩
  rcases hm : e.msg with ⟨f, type, text⟩ | ⟨type, text⟩ | b
  · simp [isComplete, hm] at he
  · simp [isComplete, hm] at he
  · exact ⟨b, hd, rfl⟩

/-- A success that is delivered unlocks. -/
theorem success_unlocks {s : Sys} {e : Entry Note} {d : Dispatch Note}
    (hd : s.queue.deliver = some (e, d)) (hm : e.msg = .complete true) :
    Offers (dialogStep env) .authenticationPassed s := by
  obtain ⟨m, h⟩ := dialogStep_deliver env forked hd
  rw [hm] at h
  exact ⟨[.deliver forked], _, _, run_cons_iff.mpr ⟨_, _, [], h, rfl, rfl⟩,
    List.mem_singleton.mpr rfl⟩

/-- With the flag of the success, the completion on its way is a success. -/
theorem success_arrives {s : Sys} (hs : Sound s) (hfree : ¬ Blocked s.queue)
    (hloud : ¬ Silent s.queue) (hauth : s.pam.m_isAuthenticated = true) :
    Offers (dialogStep env) .authenticationPassed s := by
  refine (completion_arrives env hs hfree hloud).offers ?_
  rintro t ⟨ht, hapart, e, d, b, hd, hm⟩
  cases b with
  | true => exact success_unlocks env hd hm
  | false =>
    have hfalse := (ht.watched.inv.after_completion hd hm).2.2.1 rfl
    rw [hapart.pam, hauth] at hfalse
    cases hfalse

/-! ## The child comes to its end -/

theorem dialogStep_child {s t : Sys} {e : ChildEvent} (halive : s.childAlive = true)
    (h : s.childStep e = some t) : dialogStep env s (.child e) = some (t, []) := by
  simp [dialogStep, step, halive, h]

theorem childAct_of_step {s : Sys} {act : Act} {c : Child} {events : List PamEvent}
    (h : s.child.step act = some (c, events)) :
    s.childAct act = some { s with
      child := c
      childAlive := lives c
      toParent := s.toParent ++ events.map some
      history := (s.history.acts act).sends events } := by
  rw [Sys.childAct, h]
  rfl

/-- Between the two states the child goes on, and it lives in the end. -/
structure GoesTo (s t : Sys) (pc : Pc) : Prop where
  sound : Sound t
  pc : t.child.pc = pc
  childAlive : t.childAlive = true
  queue : t.queue = s.queue
  pam : t.pam = s.pam
  toParent : t.toParent = s.toParent

theorem GoesTo.trans {s t u : Sys} {pc1 pc2 : Pc} (h1 : GoesTo s t pc1) (h2 : GoesTo t u pc2) :
    GoesTo s u pc2 where
  sound := h2.sound
  pc := h2.pc
  childAlive := h2.childAlive
  queue := h2.queue.trans h1.queue
  pam := h2.pam.trans h1.pam
  toParent := h2.toParent.trans h1.toParent

/-- A step of the child that sends nothing. -/
theorem child_goes {s : Sys} {act : Act} {c : Child} (hs : Sound s) (halive : s.childAlive = true)
    (hact : ∀ r, act ≠ .recv r) (hlives : lives c = true)
    (h : s.child.step act = some (c, [])) :
    ∃ t, dialogStep env s (.child (.act act)) = some (t, []) ∧ GoesTo s t c.pc := by
  have hstep : s.childStep (.act act) = s.childAct act := by
    cases act with
    | recv r => exact absurd rfl (hact r)
    | _ => rfl
  have ht := dialogStep_child env halive (hstep.trans (childAct_of_step h))
  refine ⟨_, ht, (dialogStep_sound env hs ht).1, rfl, hlives, rfl, rfl, ?_⟩
  simp

/-- A call of `conversation` returns, at the latest when it fails to send a message. -/
theorem conversation_returns {s : Sys} {v : Conv} (hs : Sound s) (halive : s.childAlive = true)
    (hpc : s.child.pc = .conv v) :
    Reaches (dialogStep env) (fun t => GoesTo s t .stack) s := by
  induction hrest : v.rest generalizing s v with
  | nil =>
    have hstep : s.child.step .ret = some (s.child.returnWith v.success, []) := by
      simp [Child.step, hpc, hrest]
    obtain ⟨t, ht, hgoes⟩ := child_goes env hs halive (by simp) rfl hstep
    exact .next ht (.now hgoes)
  | cons m ms ih =>
    rcases hevent : m.event with _ | event
    · have hstep : s.child.step .skip = some ({ s.child with pc := .conv v.next }, []) := by
        simp [Child.step, hpc, hrest, hevent]
      obtain ⟨t, ht, hgoes⟩ := child_goes env hs halive (by simp) rfl hstep
      have hnext : v.next.rest = ms := by simp [Conv.next, hrest]
      exact .next ht ((ih hgoes.sound hgoes.childAlive hgoes.pc hnext).mono fun u hu =>
        hgoes.trans hu)
    · have hstep : s.child.step (.send false) = some (s.child.returnWith v.failure, []) := by
        simp [Child.step, hpc, hrest, hevent]
      obtain ⟨t, ht, hgoes⟩ := child_goes env hs halive (by simp) rfl hstep
      exact .next ht (.now hgoes)

/-- A living child that does not wait for a reply in vain comes to the end of its calls. -/
theorem child_returns {s : Sys} (hs : Sound s) (halive : s.childAlive = true)
    (hreply : waits s.child = false ∨ s.toChild ≠ []) :
    Reaches (dialogStep env) (fun t => GoesTo s t .stack) s := by
  rcases hpc : s.child.pc with _ | _ | v | v | _
  · have hstep : s.child.step (.pamStart true) = some ({ s.child with pc := .stack }, []) := by
      simp [Child.step, hpc]
    obtain ⟨t, ht, hgoes⟩ := child_goes env hs halive (by simp) rfl hstep
    exact .next ht (.now hgoes)
  · exact .now ⟨hs, hpc, halive, rfl, rfl, rfl⟩
  · exact conversation_returns env hs halive hpc
  · -- the child takes the reply
    rcases hreplies : s.toChild with _ | ⟨⟨event, origin⟩, rest⟩
    · rcases hreply with hno | hne
      · simp [waits, hpc] at hno
      · exact absurd hreplies hne
    · have hchild : s.childStep .recv =
          Sys.childAct { s with toChild := rest } (.recv (some event)) := by
        simp [Sys.childStep, hreplies]
      have hgo : ∀ c : Child, lives c = true → s.child.step (.recv (some event)) = some (c, []) →
          ∃ t, dialogStep env s (.child .recv) = some (t, []) ∧ GoesTo s t c.pc := by
        intro c hlives hc
        have hact := childAct_of_step (s := { s with toChild := rest }) hc
        have ht := dialogStep_child env halive (hchild.trans hact)
        refine ⟨_, ht, (dialogStep_sound env hs ht).1, rfl, hlives, rfl, rfl, ?_⟩
        simp
      by_cases htext : ∃ text, event = .PromptReplyEvent true text
      · obtain ⟨text, rfl⟩ := htext
        obtain ⟨t, ht, hgoes⟩ := hgo { s.child with pc := .conv (v.answer text) } rfl
          (by simp [Child.step, hpc])
        exact .next ht ((conversation_returns env hgoes.sound hgoes.childAlive hgoes.pc).mono
          fun u hu => hgoes.trans hu)
      · have hfails : s.child.step (.recv (some event)) =
            some (s.child.returnWith v.failure, []) := by
          unfold Child.step
          rw [hpc]
          dsimp only
          split
          · rename_i text heq
            exact absurd ⟨text, Option.some.inj heq⟩ htext
          · rfl
        obtain ⟨t, ht, hgoes⟩ := hgo _ rfl hfails
        exact .next ht (.now hgoes)
  · have hlives := hs.intact.alive halive
    simp [lives, hpc] at hlives

/-- And `pam_authenticate` may be successful. -/
theorem child_succeeds {s : Sys} (hs : Sound s) (halive : s.childAlive = true)
    (hreply : waits s.child = false ∨ s.toChild ≠ []) :
    Reaches (dialogStep env) (fun t => Sound t ∧ t.queue = s.queue ∧ t.pam = s.pam ∧
      t.toParent = s.toParent ++ [some (.CompleteEvent true true "")]) s := by
  refine (child_returns env hs halive hreply).trans fun t ht => ?_
  have hstep : t.child.step (.finish PAM_SUCCESS true "") =
      some ({ t.child with pc := .exit }, [.CompleteEvent true true ""]) := by
    simp [Child.step, ht.pc]
  have hdone := dialogStep_child (e := .act (.finish PAM_SUCCESS true "")) env ht.childAlive
    (childAct_of_step hstep)
  refine .next hdone (.now ⟨(dialogStep_sound env ht.sound hdone).1, ht.queue, ht.pam, ?_⟩)
  simp [ht.toParent]

/-! ## The frames are read -/

/-- Does the frame ask for a reply? -/
def requests : Frame → Bool
  | some (.PromptRequestEvent _ _) => true
  | _ => false

/-- What a frame does that ends nothing: it is shown, or answered. -/
structure Takes (s t : Sys) (f : Frame) : Prop where
  pam : t.pam = s.pam := by rfl
  child : t.child = s.child := by rfl
  childAlive : t.childAlive = s.childAlive := by rfl
  toParent : t.toParent = s.toParent := by rfl
  dialog : t.dialog = s.dialog := by rfl
  promptFrom : t.proxy.m_promptFrom = s.proxy.m_promptFrom := by rfl
  silent : Silent t.queue ↔ Silent s.queue
  /-- A message is appended at most. -/
  quiet : requests f = false → t.toChild = s.toChild ∧
    ∀ e ∈ t.queue.flight, isPamPrompt e = true → e ∈ s.queue.flight
  /-- A prompt is answered, or appended. -/
  asks : requests f = true → s.pam.inAuthentication = true →
    t.toChild ≠ [] ∨ ∃ e ∈ t.queue.flight, isPamPrompt e = true

theorem handleFrame_takes {s t : Sys} {event : PamEvent} {k : ForkAnswer}
    {reply : Option (String × String)} {o : List Output} (hq : s.proxy.m_authMessageQueue = true)
    (he : completes (some event) = false) (h : s.handleFrame env k reply (some event) = (t, o)) :
    Takes s t (some event) ∧ o = [] := by
  cases event with
  | ErrorEvent text =>
    cases h
    exact ⟨{ silent := Iff.rfl
             quiet := fun _ => ⟨rfl, fun e he _ => he⟩
             asks := by simp [requests] }, rfl⟩
  | PromptReplyEvent result text =>
    cases h
    exact ⟨{ silent := Iff.rfl
             quiet := fun _ => ⟨rfl, fun e he _ => he⟩
             asks := by simp [requests] }, rfl⟩
  | MessageEvent isError text =>
    have heq := dispatch_pamMessage (s := s) k (.auto s.history.heard) s.note hq text
      (if isError then .Error else .Info)
    obtain ⟨rfl, rfl⟩ := Prod.mk.inj (heq.symm.trans h)
    refine ⟨{ silent := silent_call ?_
              quiet := fun _ => ⟨rfl, ?_⟩
              asks := by simp [requests] }, rfl⟩
    · simp [append, pending, isComplete]
    · intro e he hp
      rw [Dispatch.flight_call] at he
      rcases List.mem_append.mp he with he | he
      · exact he
      · simp only [append, pending, List.mem_singleton] at he
        simp [he, isPamPrompt] at hp
  | PromptRequestEvent secret text =>
    have hcases := dispatch_pamPrompt
      (s := { s with history := { s.history with heard := s.history.heard + 1 } })
      k (.auto (s.history.heard + 1)) ⟨s.history.attempt, s.history.heard + 1⟩ env hq
      s.pam.authenticationUser reply text (if secret then .Secret else .Question)
    rcases hcases with ⟨p, response, -, hfrom, heq⟩ | heq
    · obtain ⟨rfl, rfl⟩ := Prod.mk.inj (heq.symm.trans h)
      refine ⟨{ promptFrom := hfrom
                silent := Iff.rfl
                quiet := by simp [requests]
                asks := ?_ }, rfl⟩
      intro _ hin
      left
      simp [Sys.reply, hin]
    · obtain ⟨rfl, rfl⟩ := Prod.mk.inj (heq.symm.trans h)
      refine ⟨{ silent := silent_call ?_, quiet := by simp [requests], asks := ?_ }, rfl⟩
      · simp [append, pending, isComplete]
      · intro _ _
        right
        refine ⟨⟨.prompt .PAM (if secret then .Secret else .Question) text,
          ⟨s.history.attempt, s.history.heard + 1⟩⟩, ?_, rfl⟩
        rw [Dispatch.flight_call]
        exact List.mem_append_right _ List.mem_cons_self
  | CompleteEvent complete authResult text => cases he

theorem dialogStep_pipe {s s1 : Sys} {f : Frame} (hloop : s.queue.AtLoop)
    (hr : s.readPipe = some (f, s1)) :
    dialogStep env s (.pipeActivated forked none) = some (s1.handleFrame env forked none f) := by
  have hstep : dialogStep env s (.pipeActivated forked none) =
      s.mainStep env (.pipeActivated forked none) := if_pos hloop
  rw [hstep, Sys.mainStep, hr]
  rfl

theorem readPipe_cons {s : Sys} {f : Frame} {fs : List Frame}
    (hn : s.pam.m_socketNotifier.isSome = true) (hp : s.toParent = f :: fs) :
    s.readPipe = some (f, { s with toParent := fs }) := by
  obtain ⟨fd, hfd⟩ := Option.isSome_iff_exists.mp hn
  rw [Sys.readPipe, hfd, hp]

theorem readPipe_nil {s : Sys} (hn : s.pam.m_socketNotifier.isSome = true) (hp : s.toParent = [])
    (hdead : s.childAlive = false) : s.readPipe = some (none, s) := by
  obtain ⟨fd, hfd⟩ := Option.isSome_iff_exists.mp hn
  rw [Sys.readPipe, hfd, hp]
  simp [hdead]

/-- The parent reads a frame that ends nothing. -/
theorem reads_frame {s : Sys} {f : Frame} {fs : List Frame} (hs : Sound s)
    (hloop : s.queue.AtLoop) (hn : s.pam.m_socketNotifier.isSome = true)
    (hp : s.toParent = f :: fs) (hwhole : f ≠ none) (he : completes f = false) :
    ∃ t, dialogStep env s (.pipeActivated forked none) = some (t, []) ∧ Sound t ∧
      ¬ Blocked t.queue ∧ Takes { s with toParent := fs } t f := by
  obtain ⟨event, rfl⟩ := Option.ne_none_iff_exists'.mp hwhole
  have hstep := dialogStep_pipe env hloop (readPipe_cons hn hp)
  rcases hr : Sys.handleFrame env { s with toParent := fs } forked none (some event) with ⟨t, o⟩
  obtain ⟨htakes, rfl⟩ := handleFrame_takes env (s := { s with toParent := fs })
    hs.watched.inv.hasQueue he hr
  rw [hr] at hstep
  obtain ⟨hsound, hfree⟩ := dialogStep_sound env hs hstep
  exact ⟨t, hstep, hsound, hfree rfl, htakes⟩

/-- The parent reads the completion. -/
theorem reads_complete {s : Sys} {complete b : Bool} {text : String} {fs : List Frame}
    (hs : Sound s) (hloop : s.queue.AtLoop) (hn : s.pam.m_socketNotifier.isSome = true)
    (hp : s.toParent = some (.CompleteEvent complete b text) :: fs) :
    ∃ t, dialogStep env s (.pipeActivated forked none) = some (t, []) ∧ Sound t ∧
      ¬ Blocked t.queue ∧ ¬ Silent t.queue ∧ t.pam.m_isAuthenticated = b := by
  have hstep := dialogStep_pipe env hloop (readPipe_cons hn hp)
  rcases hr : Sys.handleFrame env { s with toParent := fs } forked none
    (some (.CompleteEvent complete b text)) with ⟨t, o⟩
  rw [hr] at hstep
  obtain ⟨-, hloud, rfl⟩ := pamComplete_outcome
    (s := { s with
      toParent := fs
      pam := { s.pam with m_hasSendCompleteSignal := true, m_isAuthenticated := b }
      history := { s.history with ended := true } })
    hs.watched.settled hloop hs.watched.inv.hasQueue hr
  obtain ⟨p, ops, before, -, -, -, -, heq⟩ := dispatch_pamComplete
    (s := { s with
      toParent := fs
      pam := { s.pam with m_hasSendCompleteSignal := true, m_isAuthenticated := b }
      history := { s.history with ended := true } })
    forked (.auto s.history.heard) s.note hs.watched.inv.hasQueue b
  obtain ⟨hsound, hfree⟩ := dialogStep_sound env hs hstep
  refine ⟨t, hstep, hsound, hfree rfl, hloud, ?_⟩
  rw [← (Prod.mk.inj (heq.symm.trans hr)).1]

/-- At the end of the pipe, or after a broken frame, the attempt that has not completed does. -/
theorem reads_end {s s1 : Sys} (hs : Sound s) (hloop : s.queue.AtLoop)
    (hr : s.readPipe = some (none, s1)) (hsent : s.pam.m_hasSendCompleteSignal = false) :
    ∃ t, dialogStep env s (.pipeActivated forked none) = some (t, []) ∧ Sound t ∧
      ¬ Blocked t.queue ∧ ¬ Silent t.queue := by
  have hstep := dialogStep_pipe env hloop hr
  have hsame : s1.pam = s.pam ∧ s1.queue = s.queue ∧ s1.proxy = s.proxy := by
    obtain ⟨-, ⟨fs, -, rfl⟩ | ⟨-, -, -, rfl⟩⟩ := readPipe_cases hr <;> exact ⟨rfl, rfl, rfl⟩
  obtain ⟨hpam, hqueue, hproxy⟩ := hsame
  rcases h : s1.handleFrame env forked none none with ⟨t, o⟩
  rw [h] at hstep
  unfold Sys.handleFrame AuthPam.handlePipeActivated Sys.hear at h
  simp only [handleChildExit_signal, hpam, hsent] at h
  obtain ⟨-, hloud, rfl⟩ := pamComplete_outcome
    (s := { s1 with pam := s.pam.handleChildExit.1, history := { s1.history with ended := true } })
    (hqueue ▸ hs.watched.settled) (hqueue ▸ hloop) (hproxy ▸ hs.watched.inv.hasQueue) h
  obtain ⟨hsound, hfree⟩ := dialogStep_sound env hs hstep
  exact ⟨t, hstep, hsound, hfree rfl, hloud⟩

/-- The frames before a completion are read, and then the completion. -/
theorem completion_read {s : Sys} {complete b : Bool} {text : String} {fs : List Frame}
    (hs : Sound s) (hfree : ¬ Blocked s.queue) (hn : s.pam.m_socketNotifier.isSome = true)
    (hp : s.toParent = fs ++ [some (.CompleteEvent complete b text)]) (hwhole : none ∉ fs) :
    Reaches (dialogStep env) (fun t => Sound t ∧ ¬ Blocked t.queue ∧ ¬ Silent t.queue ∧
      t.pam.m_isAuthenticated = b) s := by
  induction fs generalizing s with
  | nil =>
    refine (gets_back env hs hfree).trans fun t ⟨ht, hloop⟩ => ?_
    obtain ⟨u, hu, hdone⟩ := reads_complete env ht.sound hloop (ht.apart.pam ▸ hn)
      (ht.apart.toParent.trans hp)
    exact .next hu (.now hdone)
  | cons f fs ih =>
    refine (gets_back env hs hfree).trans fun t ⟨ht, hloop⟩ => ?_
    have hframe : completes f = false := by
      have hframes := hs.watched.inv.frames
      rw [hp] at hframes
      exact (List.pairwise_cons.mp hframes).1 _ (List.mem_append_right fs List.mem_cons_self)
    obtain ⟨u, hu, hsound, hfree1, htakes⟩ := reads_frame env ht.sound hloop (ht.apart.pam ▸ hn)
      (ht.apart.toParent.trans hp) (List.ne_of_not_mem_cons hwhole).symm hframe
    refine .next hu (ih hsound hfree1 ?_ htakes.toParent (List.not_mem_of_not_mem_cons hwhole))
    rw [htakes.pam, ht.apart.pam]
    exact hn

/-- A whole pipe with a completion in it: the completion is the last frame. -/
theorem completion_last {s : Sys} (hs : Sound s) {f : Frame} (hf : f ∈ s.toParent)
    (hc : completes f = true) (hwhole : none ∉ s.toParent) :
    ∃ complete b text fs, s.toParent = fs ++ [some (.CompleteEvent complete b text)] ∧
      none ∉ fs := by
  obtain ⟨fs, gs, hp⟩ := List.append_of_mem hf
  have hframes := hs.watched.inv.frames
  rw [hp] at hframes hwhole
  rcases gs with _ | ⟨g, gs⟩
  · rcases f with _ | event
    · cases hc
    · cases event with
      | CompleteEvent complete b text =>
        exact ⟨complete, b, text, fs, hp, fun h => hwhole (List.mem_append_left _ h)⟩
      | _ => cases hc
  · have hlast := (List.pairwise_append.mp hframes).2.1
    have hno := (List.pairwise_cons.mp hlast).1 g List.mem_cons_self
    simp [hno] at hc

/-- An attempt whose child is gone comes to an end, when its completion was not sent yet. -/
theorem end_read {s : Sys} (hs : Sound s) (hfree : ¬ Blocked s.queue)
    (hn : s.pam.m_socketNotifier.isSome = true) (hdead : s.childAlive = false)
    (hsent : s.pam.m_hasSendCompleteSignal = false) :
    Reaches (dialogStep env) (fun t => Sound t ∧ ¬ Blocked t.queue ∧ ¬ Silent t.queue) s := by
  induction hp : s.toParent generalizing s with
  | nil =>
    refine (gets_back env hs hfree).trans fun t ⟨ht, hloop⟩ => ?_
    have hr := readPipe_nil (ht.apart.pam ▸ hn) (ht.apart.toParent.trans hp)
      (ht.apart.childAlive.trans hdead)
    obtain ⟨u, hu, hdone⟩ := reads_end env ht.sound hloop hr (ht.apart.pam ▸ hsent)
    exact .next hu (.now hdone)
  | cons f fs ih =>
    refine (gets_back env hs hfree).trans fun t ⟨ht, hloop⟩ => ?_
    have hnt : t.pam.m_socketNotifier.isSome = true := ht.apart.pam ▸ hn
    have hpt := ht.apart.toParent.trans hp
    by_cases hwhole : f = none
    · subst hwhole
      obtain ⟨u, hu, hdone⟩ := reads_end env ht.sound hloop (readPipe_cons hnt hpt)
        (ht.apart.pam ▸ hsent)
      exact .next hu (.now hdone)
    · by_cases hc : completes f = true
      · obtain ⟨event, rfl⟩ := Option.ne_none_iff_exists'.mp hwhole
        cases event with
        | CompleteEvent complete b text =>
          obtain ⟨u, hu, hsound, hfree1, hloud, -⟩ := reads_complete env ht.sound hloop hnt hpt
          exact .next hu (.now ⟨hsound, hfree1, hloud⟩)
        | _ => cases hc
      · obtain ⟨u, hu, hsound, hfree1, htakes⟩ := reads_frame env ht.sound hloop hnt hpt hwhole
          (by simpa using hc)
        refine .next hu (ih hsound hfree1 ?_ ?_ ?_ htakes.toParent)
        · rw [htakes.pam, ht.apart.pam]
          exact hn
        · rw [htakes.childAlive]
          exact ht.apart.childAlive.trans hdead
        · rw [htakes.pam, ht.apart.pam]
          exact hsent

/-! ## An attempt succeeds -/

/-- The child of the attempt is watched, what it has sent is whole, and it can go on. -/
structure Promising (s : Sys) : Prop where
  watched : s.pam.m_socketNotifier.isSome = true
  whole : none ∉ s.toParent
  alive : s.childAlive = true
  goesOn : waits s.child = false ∨ s.toChild ≠ []

theorem promising_unlocks {s : Sys} (hs : Sound s) (hfree : ¬ Blocked s.queue)
    (h : Promising s) : Offers (dialogStep env) .authenticationPassed s := by
  refine (child_succeeds env hs h.alive h.goesOn).offers ?_
  rintro t ⟨ht, hqueue, hpam, hp⟩
  have hread := completion_read env ht (hqueue ▸ hfree) (hpam ▸ h.watched) hp h.whole
  refine hread.offers ?_
  rintro u ⟨hu, hfree1, hloud, hauth⟩
  exact success_arrives env hu hfree1 hloud hauth

/-- `startAuth` gives a promising attempt when the kernel gives a child. -/
theorem startAuth_promising {s : Sys} {k : ForkAnswer} (hk : works k = true)
    (hq : s.proxy.m_authMessageQueue = true)
    (hn : s.pam.m_socketNotifier.isSome = s.pam.m_inAuthenticating) :
    Promising (s.startAuth k) := by
  have hb := startAuth_begins k hq
  have halive : (s.startAuth k).childAlive = true := (startAuth_calls k hq).2.2.trans hk
  refine ⟨?_, by rw [hb.toParent]; exact List.not_mem_nil, halive, Or.inl ?_⟩
  · by_contra hnone
    have hnotifier := Option.not_isSome_iff_eq_none.mp hnone
    rw [startAuth_pam k hq, authenticate_unwatched] at hnotifier
    · rw [hk] at hnotifier
      cases hnotifier
    · split_ifs
      · rfl
      · exact hn
  · rw [hb.child halive]
    rfl

/-- The button for another try leads to a success. -/
theorem button_unlocks {s : Sys} (hs : Sound s) (hfree : ¬ Blocked s.queue)
    (hbtn : s.dialog.btn_reAuth_visible = true) :
    Offers (dialogStep env) .authenticationPassed s := by
  refine (gets_back env hs hfree).offers ?_
  rintro t ⟨ht, hloop⟩
  have hclick : dialogStep env t (.clickReAuth forked) = some (t.startAuth forked, []) := by
    have hvisible : t.dialog.btn_reAuth_visible = true := ht.apart.button.trans hbtn
    simp [dialogStep, step, hloop, Sys.mainStep, hvisible]
  obtain ⟨hsound, hfree1⟩ := dialogStep_sound env ht.sound hclick
  have hinv := ht.sound.watched.inv
  exact .next hclick (promising_unlocks env hsound (hfree1 rfl)
    (startAuth_promising rfl hinv.hasQueue hinv.notified))

/-- After a completion, the screen is unlocked, or another attempt can succeed. -/
theorem completion_unlocks {s : Sys} (hs : Sound s) (hfree : ¬ Blocked s.queue)
    (hloud : ¬ Silent s.queue) : Offers (dialogStep env) .authenticationPassed s := by
  refine (completion_arrives env hs hfree hloud).offers ?_
  rintro t ⟨ht, -, e, d, b, hd, hm⟩
  cases b with
  | true => exact success_unlocks env hd hm
  | false =>
    obtain ⟨m, h⟩ := dialogStep_deliver env forked hd
    simp only [hm, Sys.slotAuthenticationComplete, Bool.not_false, if_true] at h
    split_ifs at h
    · -- the button is shown
      obtain ⟨hsound, hfree1⟩ := dialogStep_sound env ht h
      exact .next h (button_unlocks env hsound (hfree1 rfl) rfl)
    · -- the dialog begins another attempt by itself
      obtain ⟨hsound, hfree1⟩ := dialogStep_sound env ht h
      refine .next h (promising_unlocks env hsound (hfree1 rfl) (startAuth_promising rfl ?_ ?_))
      · exact (stopAuthSession_hasQueue t.proxy).trans ht.watched.inv.hasQueue
      · exact ht.watched.inv.notified

/-! ## A waiting child gets its reply -/

/-- A child that waits for a reply, and everything that it has sent is whole. -/
structure Asking (s : Sys) : Prop where
  watched : s.pam.m_socketNotifier.isSome = true
  whole : none ∉ s.toParent
  alive : s.childAlive = true

theorem Asking.apart {s t : Sys} (h : Asking s) (hapart : Apart s t) : Asking t where
  watched := hapart.pam ▸ h.watched
  whole := hapart.toParent ▸ h.whole
  alive := hapart.childAlive.trans h.alive

theorem Asking.promising {s : Sys} (h : Asking s) (hreply : s.toChild ≠ []) : Promising s where
  watched := h.watched
  whole := h.whole
  alive := h.alive
  goesOn := Or.inr hreply

/-- A click sends the text, when there is one or none is needed. -/
theorem click_unlocks {s : Sys} (hs : Sound s) (hloop : s.queue.AtLoop) (h : Asking s)
    (hfrom : s.proxy.m_promptFrom = .PAM) (hclicks : s.dialog.promptEdit.takesClicks = true)
    (htext : s.dialog.promptEdit.echoMode = .Password ∨ s.dialog.promptEdit.text.isEmpty = false) :
    Offers (dialogStep env) .authenticationPassed s := by
  have hconfirm : s.dialog.promptEdit.slotConfirm =
      (s.dialog.promptEdit.startMovieAndEmitSignal.1, some s.dialog.promptEdit.text) := by
    unfold PromptEdit.slotConfirm
    rw [if_neg]
    · rfl
    · rintro ⟨hecho, hempty⟩
      rcases htext with hp | hne
      · exact hecho hp
      · simp [hempty] at hne
  have hin : s.pam.inAuthentication = true := hs.watched.inv.notified.symm.trans h.watched
  have hstep : dialogStep env s .clickButton = some ({ s with
      dialog := { s.dialog with promptEdit := s.dialog.promptEdit.startMovieAndEmitSignal.1 }
      toChild := s.toChild ++ s.reply s.dialog.promptEdit.text s.userOrigin }, []) := by
    have hmain : dialogStep env s .clickButton = s.mainStep env .clickButton := if_pos hloop
    rw [hmain, Sys.mainStep, PromptEdit.click, if_pos hclicks, PromptEdit.slotButtonPressed,
      hconfirm, Option.map_some, confirm_eq, hfrom]
    rfl
  obtain ⟨hsound, hfree⟩ := dialogStep_sound env hs hstep
  refine .next hstep (promising_unlocks env hsound (hfree rfl) ?_)
  exact ⟨h.watched, h.whole, h.alive, Or.inr (by simp [Sys.reply, hin])⟩

/-- The user can answer the last prompt, with a new text or once more with the old one. -/
theorem answer_unlocks {s : Sys} (hs : Sound s) (hloop : s.queue.AtLoop) (h : Asking s)
    (hfrom : s.proxy.m_promptFrom = .PAM) (hclicks : s.dialog.promptEdit.takesClicks = true) :
    Offers (dialogStep env) .authenticationPassed s := by
  by_cases hedit : s.dialog.promptEdit.editEnabled = true
  · have hkeys : s.dialog.promptEdit.takesKeys = true := by
      rw [PromptEdit.takesKeys, hedit, Bool.and_true]
      exact hclicks
    have hstep : dialogStep env s (.type "secret") = some ({ s with
        dialog := { s.dialog with promptEdit := s.dialog.promptEdit.setText "secret" } }, []) := by
      have hmain : dialogStep env s (.type "secret") = s.mainStep env (.type "secret") :=
        if_pos hloop
      rw [hmain, Sys.mainStep, PromptEdit.type, if_pos hkeys]
      rfl
    obtain ⟨hsound, -⟩ := dialogStep_sound env hs hstep
    exact .next hstep (click_unlocks env hsound hloop ⟨h.watched, h.whole, h.alive⟩ hfrom hclicks
      (Or.inr rfl))
  · exact click_unlocks env hs hloop h hfrom hclicks
      (hs.intact.confirmable (by simpa using hedit))

theorem prompt_not_plain {e : Entry Note} (h : isPamPrompt e = true) : ¬ plain e := by
  rintro ⟨-, hp⟩
  rw [h] at hp
  cases hp

/-- A prompt on its way comes to be shown. -/
theorem prompt_unlocks {s : Sys} (hs : Sound s) (hfree : ¬ Blocked s.queue) (h : Asking s)
    (hbtn : s.dialog.btn_reAuth_visible = false)
    (hprompt : ∃ e ∈ s.queue.flight, isPamPrompt e = true) :
    Offers (dialogStep env) .authenticationPassed s := by
  refine (gets_back env hs hfree).offers ?_
  rintro t ⟨ht, hloop⟩
  have hmem : ∃ e ∈ t.queue.flight, isPamPrompt e = true := by
    obtain ⟨e, he, hp⟩ := hprompt
    rcases ht.flight e he with hmem | hplain
    · exact ⟨e, hmem, hp⟩
    · exact absurd hplain (prompt_not_plain hp)
  refine (drains env ht.sound hloop hmem fun a b _ hb => Or.inr (prompt_not_plain hb)).offers ?_
  rintro u ⟨⟨hu, -, hapart⟩, e, d, hd, hp⟩
  have hincomplete : isComplete e = false := by
    by_contra hc
    rcases hm : e.msg with ⟨f, type, text⟩ | ⟨type, text⟩ | b
    · simp [isComplete, hm] at hc
    · simp [isComplete, hm] at hc
    · simp [isPamPrompt, hm] at hp
  obtain ⟨v, hv, hqueue, hshown, hanswer⟩ := shows_message env hd hincomplete
  obtain ⟨hsound, -⟩ := dialogStep_sound env hu hv
  have hall := (ht.apart.trans hapart).trans hshown
  obtain ⟨hfrom, henabled⟩ := hanswer hp
  have hloop1 : v.queue.AtLoop := hqueue ▸ (Dispatch.deliver_eq_some hd).2.1
  refine .next hv (answer_unlocks env hsound hloop1 (h.apart hall) hfrom ?_)
  rw [PromptEdit.takesClicks, henabled, hsound.intact.visible (hall.button.trans hbtn)]
  rfl

/-- A prompt in the pipe is read, and answered or shown. -/
theorem request_unlocks {s : Sys} (hs : Sound s) (hfree : ¬ Blocked s.queue) (h : Asking s)
    (hbtn : s.dialog.btn_reAuth_visible = false)
    (hrequest : ∃ f ∈ s.toParent, requests f = true) :
    Offers (dialogStep env) .authenticationPassed s := by
  induction hp : s.toParent generalizing s with
  | nil =>
    obtain ⟨f, hf, -⟩ := hrequest
    rw [hp] at hf
    cases hf
  | cons f fs ih =>
    refine (gets_back env hs hfree).offers ?_
    rintro t ⟨ht, hloop⟩
    have hwhole : none ∉ f :: fs := hp ▸ h.whole
    have hframe : completes f = false :=
      (hs.watched.inv.living h.alive).2 f (hp ▸ List.mem_cons_self)
    obtain ⟨u, hu, hsound, hfree1, htakes⟩ := reads_frame env ht.sound hloop
      (ht.apart.pam ▸ h.watched) (ht.apart.toParent.trans hp)
      (List.ne_of_not_mem_cons hwhole).symm hframe
    have hasking : Asking u := by
      refine ⟨?_, ?_, ?_⟩
      · rw [htakes.pam, ht.apart.pam]
        exact h.watched
      · rw [htakes.toParent]
        exact List.not_mem_of_not_mem_cons hwhole
      · rw [htakes.childAlive]
        exact ht.apart.childAlive.trans h.alive
    have hbtn1 : u.dialog.btn_reAuth_visible = false := by
      rw [htakes.dialog]
      exact ht.apart.button.trans hbtn
    refine .next hu ?_
    by_cases hf : requests f = true
    · have hin : t.pam.inAuthentication = true :=
        ht.sound.watched.inv.notified.symm.trans (ht.apart.pam ▸ h.watched)
      rcases htakes.asks hf hin with hreply | hprompt
      · exact promising_unlocks env hsound hfree1 (hasking.promising hreply)
      · exact prompt_unlocks env hsound hfree1 hasking hbtn1 hprompt
    · refine ih hsound hfree1 hasking hbtn1 ?_ htakes.toParent
      obtain ⟨g, hg, hgr⟩ := hrequest
      rw [hp] at hg
      rcases List.mem_cons.mp hg with rfl | hg
      · exact absurd hgr hf
      · exact ⟨g, htakes.toParent.symm ▸ hg, hgr⟩

end session_guard.lock_screen
