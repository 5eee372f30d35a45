-- How the lock screen goes on when everybody does what is asked: the main thread gets back to its
-- event loop, the child comes to its end, its frames are read, and its completion is delivered.
import SessionGuard.LockScreenStranded
import SessionGuard.AuthProgress

open machine

namespace session_guard.lock_screen

open pam_message auth_pam auth_msg_queue auth_proxy auth_runs checkpass prompt_edit queue_liveness
open queue_deadlock (Blocked)

variable (env : Env)

/-! ## The invariant -/

/-- What a disabled line edit holds can be confirmed again with the button. -/
def Confirmable (e : PromptEdit) : Prop :=
  e.editEnabled = false → e.echoMode = .Password ∨ e.text.isEmpty = false

/-- A living child has not exited, and the prompt edit is shown where the button for another try is
not. -/
structure Intact (s : Sys) : Prop where
  alive : s.childAlive = true → lives s.child = true
  visible : s.dialog.btn_reAuth_visible = false → s.dialog.promptEdit.isVisible = true
  confirmable : Confirmable s.dialog.promptEdit

/-- What holds of the lock screen beside the invariant of the unlocking. -/
structure Sound (s : Sys) : Prop where
  watched : Watched s
  kept : Kept s.queue
  /-- Only plain messages are dropped. -/
  drops : s.queue.stopping = true → ∀ e ∈ s.queue.flight, plain e
  intact : Intact s

/-- What an event of the main thread makes of a queue that it finds in the event loop. -/
structure Handles (d : Dispatch Note) (t : Sys) : Prop where
  queue : ∃ ops, t.queue = d.call ops ∧ Lasting ops ∧
    (ops.any MainOp.stops = true → pending ops = [] ∧ ∀ e ∈ d.flight, plain e)
  intact : Intact t

theorem lasting_nil {ν : Type} : Lasting ([] : List (MainOp ν)) := ⟨⟨[], rfl, by simp⟩, rfl⟩

/-- An event that does not touch the queue. -/
theorem Intact.handles {s : Sys} (h : Intact s) : Handles s.queue s :=
  ⟨⟨[], by rw [call_nil], lasting_nil, by simp⟩, h⟩

/-! ## What is called -/

/-- Effects that do not stop the dispatcher leave it running. -/
theorem lasting_mainOps {note : Note} {effects : List auth_proxy.Effect}
    (h : auth_proxy.Effect.stopDispatcher ∉ effects) : Lasting (mainOps note effects) := by
  refine ⟨mainOps_calls note effects, ?_⟩
  induction effects with
  | nil => rfl
  | cons e effects ih =>
    have hrest := ih fun hmem => h (List.mem_cons_of_mem _ hmem)
    cases e with
    | stopDispatcher => exact absurd List.mem_cons_self h
    | _ => exact hrest

/-- A handler that appends and replies. -/
theorem dispatch_handles {s : Sys} {k : ForkAnswer} {origin : Origin} {note : Note}
    {r : AuthProxy × List auth_proxy.Effect} (hs : Intact s)
    (hcalm : r.2.all calm = true) (hnone : r.2.findSome? completion = none)
    (hstop : auth_proxy.Effect.stopDispatcher ∉ r.2) (hshows : shows s.dialog r.2 = s.dialog) :
    Handles s.queue (s.dispatch k origin note r).1 := by
  obtain ⟨p, effects⟩ := r
  rw [dispatch_of_none hnone, proxyCall_calm hcalm]
  refine ⟨⟨_, rfl, lasting_mainOps hstop, ?_⟩, ?_⟩
  · rw [stops_mainOps hstop]
    simp
  · dsimp only at hshows ⊢
    rw [hshows]
    exact ⟨hs.alive, hs.visible, hs.confirmable⟩

theorem authenticate_works (a : AuthPam) (u : String) (k : ForkAnswer) :
    (a.authenticate u k).2.2 = works k := by
  unfold AuthPam.authenticate AuthPam.forkChild works
  rcases k.toParentPipe with _ | p
  · rfl
  · rcases k.toChildPipe with _ | c
    · rfl
    · rcases k.forkPid with _ | pid <;> rfl

theorem authenticate_calls {c : Sys} (u : String) (k : ForkAnswer)
    (hq : c.proxy.m_authMessageQueue = true) :
    (c.authenticate u k).queue = c.queue.call [.stop, .start] ∧
      (c.authenticate u k).dialog = c.dialog ∧ (c.authenticate u k).childAlive = works k := by
  rw [authenticate_eq u k hq, pamAuthenticate_eq]
  exact ⟨rfl, rfl, authenticate_works _ _ _⟩

theorem cancelAuthentication_calls {c : Sys} (k : ForkAnswer)
    (hq : c.proxy.m_authMessageQueue = true) :
    (c.cancelAuthentication k).queue = c.queue.call [.stop] ∧
      (c.cancelAuthentication k).dialog = c.dialog ∧
        (c.cancelAuthentication k).proxy.m_authMessageQueue = true := by
  rw [cancelAuthentication_eq k hq, pamCancel_eq]
  exact ⟨rfl, rfl, (stopAuthSession_hasQueue c.proxy).trans hq⟩

/-- What `startAuth` calls on the queue, what the dialog shows after it, and whether there is a
child. -/
theorem startAuth_calls {s : Sys} (k : ForkAnswer) (hq : s.proxy.m_authMessageQueue = true) :
    (s.startAuth k).queue = s.queue.call
      ((if s.pam.inAuthentication then [.stop] else []) ++ [.stop, .start]) ∧
    (s.startAuth k).dialog.promptEdit = s.dialog.promptEdit.setVisible true ∧
    (s.startAuth k).childAlive = works k := by
  obtain ⟨c, hc⟩ : ∃ c : Sys, c = { s with
      dialog := { s.dialog.updateCurrentAuthType with m_havePrompt := false } } := ⟨_, rfl⟩
  have hqueue : c.queue = s.queue := by rw [hc]
  have hedit : c.dialog.promptEdit = s.dialog.promptEdit.setVisible true := by rw [hc]; rfl
  have hqc : c.proxy.m_authMessageQueue = true := by rw [hc]; exact hq
  by_cases hin : s.pam.inAuthentication = true
  · have heq : s.startAuth k =
        { (c.cancelAuthentication k).authenticate (c.cancelAuthentication k).dialog.m_userName k with
          dialog := ((c.cancelAuthentication k).authenticate
            (c.cancelAuthentication k).dialog.m_userName k).dialog.switchToPromptEdit } := by
      simp [Sys.startAuth, hin, hc]
    obtain ⟨h1, h2, h3⟩ := cancelAuthentication_calls k hqc
    obtain ⟨h4, h5, h6⟩ := authenticate_calls (c.cancelAuthentication k).dialog.m_userName k h3
    rw [heq, if_pos hin]
    refine ⟨?_, ?_, h6⟩
    · rw [h4, h1, call_call, hqueue]
    · show ((Sys.authenticate _ _ _).dialog.promptEdit).setVisible true = _
      rw [h5, h2, hedit]
      rfl
  · have heq : s.startAuth k = { c.authenticate c.dialog.m_userName k with
        dialog := (c.authenticate c.dialog.m_userName k).dialog.switchToPromptEdit } := by
      simp [Sys.startAuth, hin, hc, ScreenSaverDialog.updateCurrentAuthType]
    obtain ⟨h4, h5, h6⟩ := authenticate_calls c.dialog.m_userName k hqc
    rw [heq, if_neg hin]
    refine ⟨?_, ?_, h6⟩
    · rw [h4, hqueue]
      rfl
    · show ((Sys.authenticate _ _ _).dialog.promptEdit).setVisible true = _
      rw [h5, hedit]
      rfl

theorem startAuth_handles {s : Sys} (k : ForkAnswer) (hq : s.proxy.m_authMessageQueue = true)
    (hplain : ∀ e ∈ s.queue.flight, plain e) (hedit : Confirmable s.dialog.promptEdit) :
    Handles s.queue (s.startAuth k) := by
  obtain ⟨hqueue, hdialog, -⟩ := startAuth_calls k hq
  refine ⟨⟨_, hqueue, ⟨?_, ?_⟩, fun _ => ⟨?_, hplain⟩⟩, fun halive => ?_, fun _ => ?_, ?_⟩
  · split_ifs
    · exact ⟨[[.stop], [.stop], [.start]], rfl, by simp [IsCall]⟩
    · exact ⟨[[.stop], [.start]], rfl, by simp [IsCall]⟩
  · split_ifs <;> rfl
  · split_ifs <;> rfl
  · rw [(startAuth_begins k hq).child halive]
    rfl
  · rw [hdialog]
    rfl
  · rw [hdialog]
    exact hedit

/-! ## Every event -/

theorem confirmable_slotConfirm {e : PromptEdit} (h : Confirmable e) :
    Confirmable e.slotConfirm.1 := by
  unfold PromptEdit.slotConfirm
  by_cases hempty : e.echoMode ≠ .Password ∧ e.text.isEmpty
  · rw [if_pos hempty]
    exact h
  · rw [if_neg hempty]
    intro _
    show e.echoMode = .Password ∨ e.text.isEmpty = false
    by_cases hecho : e.echoMode = .Password
    · exact Or.inl hecho
    · exact Or.inr (Bool.eq_false_iff.mpr fun htext => hempty ⟨hecho, htext⟩)

theorem confirm_handles {s : Sys} (hs : Intact s) :
    Handles s.queue (s.confirm env s.dialog.promptEdit.slotConfirm) := by
  have hedit := confirmable_slotConfirm hs.confirmable
  have hvisible : s.dialog.btn_reAuth_visible = false →
      s.dialog.promptEdit.slotConfirm.1.isVisible = true := by
    intro hbtn
    rw [(PromptEdit.slotConfirm_flags _).1]
    exact hs.visible hbtn
  rcases hr : s.dialog.promptEdit.slotConfirm with ⟨e, _ | text⟩ <;> rw [hr] at hedit hvisible
  · exact Intact.handles (s := { s with dialog := { s.dialog with promptEdit := e } })
      ⟨hs.alive, hvisible, hedit⟩
  · rw [confirm_eq]
    exact ⟨⟨[], by rw [call_nil], lasting_nil, by simp⟩, hs.alive, hvisible, hedit⟩

theorem pamComplete_handles {s : Sys} {k : ForkAnswer} {origin : Origin} {note : Note}
    (hs : Intact s) (hq : s.proxy.m_authMessageQueue = true) (b : Bool) :
    Handles s.queue (s.dispatch k origin note (s.proxy.handlePamAuthComplete b)).1 := by
  obtain ⟨effects, before, hbefore, heq, heffects⟩ := handlePamAuthComplete_queued hq b
  have hshape : effects.all calm = true ∧ effects.findSome? completion = none ∧
      auth_proxy.Effect.stopDispatcher ∉ effects ∧ shows s.dialog effects = s.dialog := by
    rcases stopAuthSession_cases s.proxy with h | h <;> rcases hbefore with rfl | ⟨text, rfl⟩ <;>
      simp [heffects, h, calm, completion, shows]
  rw [heq]
  exact dispatch_handles hs hshape.1 hshape.2.1 hshape.2.2.1 hshape.2.2.2

theorem pamMessage_handles {s : Sys} {k : ForkAnswer} {origin : Origin} {note : Note}
    (hs : Intact s) (hq : s.proxy.m_authMessageQueue = true) (text : String) (type : MessageType) :
    Handles s.queue (s.dispatch k origin note
      (s.proxy, s.proxy.handlePamAuthShowMessage text type)).1 := by
  unfold AuthProxy.handlePamAuthShowMessage
  rw [if_pos hq]
  exact dispatch_handles hs rfl rfl (by simp) rfl

theorem pamPrompt_handles {s : Sys} {k : ForkAnswer} {origin : Origin} {note : Note}
    (hs : Intact s) (hq : s.proxy.m_authMessageQueue = true) (user : String)
    (reply : Option (String × String)) (text : String) (type : PromptType) :
    Handles s.queue
      (s.dispatch k origin note (s.proxy.handlePamAuthShowPrompt env user reply text type)).1 := by
  have hshape : (s.proxy.handlePamAuthShowPrompt env user reply text type).2.all calm = true ∧
      (s.proxy.handlePamAuthShowPrompt env user reply text type).2.findSome? completion = none ∧
      auth_proxy.Effect.stopDispatcher ∉
        (s.proxy.handlePamAuthShowPrompt env user reply text type).2 ∧
      shows s.dialog (s.proxy.handlePamAuthShowPrompt env user reply text type).2 = s.dialog := by
    unfold AuthProxy.handlePamAuthShowPrompt
    rw [if_pos hq]
    split_ifs
    · rcases reply with _ | ⟨sid, key⟩ <;> simp [calm, completion, shows]
    · simp [calm, completion, shows]
    · simp [calm, completion, shows]
    · simp [calm, completion, shows]
  exact dispatch_handles hs hshape.1 hshape.2.1 hshape.2.2.1 hshape.2.2.2

/-- A frame has something appended or answered, or it ends the attempt. -/
theorem frame_handles {s t : Sys} {f : Frame} {k : ForkAnswer} {reply : Option (String × String)}
    {o : List Output} (hs : Intact s) (hq : s.proxy.m_authMessageQueue = true)
    (h : s.handleFrame env k reply f = (t, o)) : Handles s.queue t := by
  have hintact : ∀ {a : AuthPam} {m : History}, Intact { s with pam := a, history := m } :=
    ⟨hs.alive, hs.visible, hs.confirmable⟩
  -- the completion of the attempt
  have hcomplete : ∀ (a : AuthPam) (m : History) (origin : Origin) (note : Note) (b : Bool),
      Handles s.queue (Sys.dispatch { s with pam := a, history := m } k origin note
        (s.proxy.handlePamAuthComplete b)).1 := fun a m _ _ b =>
    pamComplete_handles (s := { s with pam := a, history := m }) hintact hq b
  cases f with
  | none =>
    unfold Sys.handleFrame AuthPam.handlePipeActivated Sys.hear at h
    simp only [handleChildExit_signal] at h
    by_cases hsent : s.pam.m_hasSendCompleteSignal = true
    · simp only [hsent, if_true] at h
      obtain ⟨rfl, -⟩ := Prod.mk.inj h
      exact Intact.handles (s := { s with pam := s.pam.handleChildExit.1 }) hintact
    · simp only [hsent] at h
      obtain rfl : _ = t := congrArg Prod.fst h
      exact hcomplete _ _ _ _ _
  | some event =>
    obtain rfl : _ = t := congrArg Prod.fst h
    cases event with
    | ErrorEvent text => exact Intact.handles hs
    | PromptReplyEvent result text => exact Intact.handles hs
    | MessageEvent isError text =>
      exact pamMessage_handles (s := s) hs hq text (if isError then .Error else .Info)
    | PromptRequestEvent secret text =>
      exact pamPrompt_handles env
        (s := { s with history := { s.history with heard := s.history.heard + 1 } }) hintact hq
        s.pam.authenticationUser reply text (if secret then .Secret else .Question)
    | CompleteEvent complete authResult text => exact hcomplete _ _ _ _ authResult

theorem serviceMessages_handles {s : Sys} {k : ForkAnswer} {origin : Origin} {note : Note}
    (hs : Intact s) (hq : s.proxy.m_authMessageQueue = true) (msg : String) (type : Int)
    (sid : String) : Handles s.queue (s.dispatch k origin note
      (s.proxy.handleAuthServiceAuthMessages env msg type sid)).1 := by
  have hshape : (s.proxy.handleAuthServiceAuthMessages env msg type sid).2.all calm = true ∧
      (s.proxy.handleAuthServiceAuthMessages env msg type sid).2.findSome? completion = none ∧
      auth_proxy.Effect.stopDispatcher ∉
        (s.proxy.handleAuthServiceAuthMessages env msg type sid).2 ∧
      shows s.dialog (s.proxy.handleAuthServiceAuthMessages env msg type sid).2 = s.dialog := by
    unfold AuthProxy.handleAuthServiceAuthMessages
    simp only [hq, if_true]
    split_ifs <;> simp [calm, completion, shows]
  exact dispatch_handles hs hshape.1 hshape.2.1 hshape.2.2.1 hshape.2.2.2

/-- What is delivered is shown, or ends the attempt. -/
theorem deliver_handles {s t : Sys} {k : ForkAnswer} {o : List Output} (hs : Sound s)
    (h : s.mainStep env (.deliver k) = some (t, o)) :
    ∃ e d, s.queue.deliver = some (e, d) ∧ Handles d t := by
  simp only [Sys.mainStep, Option.map_eq_some_iff, Prod.exists] at h
  obtain ⟨e, d, hd, heq⟩ := h
  refine ⟨e, d, hd, ?_⟩
  obtain ⟨m, hsee⟩ := see_eq { s with queue := d } e
  rw [hsee, dispatch_queued] at heq
  obtain ⟨halive, hvisible, hconfirmable⟩ := hs.intact
  have hsame : ∀ {t : Sys}, t.queue = d → Intact t → Handles d t := by
    intro t hqueue ht
    exact hqueue ▸ ht.handles
  rcases hm : e.msg with ⟨f, type, text⟩ | ⟨type, text⟩ | b
  · rw [hm] at heq
    cases heq
    refine hsame rfl ⟨halive, hvisible, ?_⟩
    intro hedit
    cases hedit
  · rw [hm] at heq
    cases heq
    exact hsame rfl ⟨halive, hvisible, hconfirmable⟩
  · rw [hm] at heq
    obtain ⟨-, -, -, hplain⟩ := hs.watched.inv.after_completion hd hm
    cases b with
    | true =>
      cases heq
      refine hsame rfl ⟨halive, hvisible, ?_⟩
      intro hedit
      cases hedit
    | false =>
      simp only [Sys.slotAuthenticationComplete, Bool.not_false, if_true] at heq
      split_ifs at heq
      · cases heq
        refine hsame rfl ⟨halive, ?_, hconfirmable⟩
        intro hbtn
        cases hbtn
      · cases heq
        exact startAuth_handles (s := { s with
            queue := d, proxy := s.proxy.stopAuthSession.1
            history := { s.history with shown := m } }) k
          ((stopAuthSession_hasQueue s.proxy).trans hs.watched.inv.hasQueue) hplain hconfirmable

/-- An event of the main thread finds its queue in the event loop, and takes a message from it at
most. -/
theorem main_handles {s t : Sys} {e : Event} {o : List Output} (hs : Sound s)
    (hloop : s.queue.AtLoop) (hcancel : ∀ k, e ≠ .cancelAuthentication k)
    (h : s.mainStep env e = some (t, o)) : ∃ d, d.AtLoop ∧ Kept d ∧ Handles d t := by
  have hq := hs.watched.inv.hasQueue
  obtain ⟨halive, hvisible, hconfirmable⟩ := hs.intact
  have hsame : Handles s.queue t → ∃ d, d.AtLoop ∧ Kept d ∧ Handles d t := fun ht =>
    ⟨s.queue, hloop, hs.kept, ht⟩
  cases e with
  | type text =>
    obtain ⟨e, he, heq⟩ := Option.map_eq_some_iff.mp h
    cases heq
    unfold PromptEdit.type at he
    split_ifs at he with hkeys
    cases he
    refine hsame (Intact.handles (s := { s with
      dialog := { s.dialog with promptEdit := s.dialog.promptEdit.setText text } })
      ⟨halive, hvisible, fun hedit => ?_⟩)
    simp only [PromptEdit.takesKeys, Bool.and_eq_true] at hkeys
    cases hkeys.2.symm.trans hedit
  | pressReturn =>
    obtain ⟨r, hr, heq⟩ := Option.map_eq_some_iff.mp h
    cases heq
    unfold PromptEdit.pressReturn at hr
    split_ifs at hr
    cases hr
    exact hsame (confirm_handles env hs.intact)
  | clickButton =>
    obtain ⟨r, hr, heq⟩ := Option.map_eq_some_iff.mp h
    cases heq
    unfold PromptEdit.click at hr
    split_ifs at hr
    cases hr
    exact hsame (confirm_handles env hs.intact)
  | clickReAuth k =>
    simp only [Sys.mainStep] at h
    split_ifs at h with hbtn
    cases h
    exact hsame (startAuth_handles k hq (hs.watched.inv.button hbtn).2.2 hconfirmable)
  | pipeActivated k reply =>
    simp only [Sys.mainStep, Option.map_eq_some_iff, Prod.exists] at h
    obtain ⟨f, s1, hr, heq⟩ := h
    obtain ⟨-, ⟨fs, -, rfl⟩ | ⟨-, -, -, rfl⟩⟩ := readPipe_cases hr
    · exact hsame (frame_handles env (s := { s with toParent := fs })
        ⟨halive, hvisible, hconfirmable⟩ hq heq)
    · exact hsame (frame_handles env hs.intact hq heq)
  | serviceMessages k msg type sid =>
    obtain rfl : _ = t := congrArg Prod.fst (Option.some.inj h)
    exact hsame (serviceMessages_handles env hs.intact hq msg type sid)
  | serviceMethod k authType method sid =>
    have heq := dispatch_serviceMethod (s := s) k s.userOrigin s.note env authType method sid
    obtain ⟨rfl, rfl⟩ := Prod.mk.inj (heq.symm.trans (Option.some.inj h))
    exact hsame hs.intact.handles
  | deliver k =>
    obtain ⟨e, d, hd, ht⟩ := deliver_handles env hs h
    exact ⟨d, (Dispatch.deliver_eq_some hd).2.1, hs.kept.deliver hd, ht⟩
  | cancelAuthentication k => exact absurd rfl (hcancel k)
  | thread t => simp [Sys.mainStep] at h
  | child e => simp [Sys.mainStep] at h

/-- After an event of the main thread, everything is in order again, and nothing is blocked. -/
theorem Handles.sound {d : Dispatch Note} {t : Sys} (h : Handles d t) (hloop : d.AtLoop)
    (hd : Kept d) (hwatched : Watched t) : Sound t ∧ ¬ Blocked t.queue := by
  obtain ⟨ops, hqueue, hlasting, hstops⟩ := h.queue
  have hnil : d.ops = [] := hloop
  refine ⟨⟨hwatched, ?_, ?_, h.intact⟩, ?_⟩
  · rw [hqueue]
    exact hd.call hlasting
  · rw [hqueue, Dispatch.flight_call]
    intro hstop
    rw [Dispatch.stopping, Dispatch.call, hnil, List.nil_append] at hstop
    obtain ⟨hpending, hplain⟩ := hstops hstop
    rw [hpending, List.append_nil]
    exact hplain
  · apply not_blocked_of_noAcquire
    rw [hqueue, Dispatch.call, hnil]
    exact hlasting.noAcquire

theorem childStep_lives {s t : Sys} {e : ChildEvent} (hs : lives s.child = true)
    (h : s.childStep e = some t) :
    t.childAlive = true → lives t.child = true := by
  have hact : ∀ {s t : Sys} {act : Act}, s.childAct act = some t →
      t.childAlive = true → lives t.child = true := by
    intro s t act hact
    obtain ⟨c, events, -, rfl⟩ := childAct_eq_some hact
    exact id
  cases e with
  | act act =>
    cases act with
    | recv r => cases h
    | _ => exact hact h
  | recv =>
    unfold Sys.childStep at h
    rcases hp : s.toChild with _ | ⟨⟨event, origin⟩, rest⟩
    · simp only [hp] at h
      split_ifs at h
      exact hact h
    · simp only [hp] at h
      exact hact (s := { s with toChild := rest }) h
  | die =>
    cases h
    exact fun hdead => by cases hdead
  | garbage =>
    cases h
    exact fun _ => hs

/-- Is it an event of the main thread? -/
def Event.ofMain : Event → Bool
  | .thread _ => false
  | .child _ => false
  | _ => true

theorem thread_sound {s : Sys} {d : Dispatch Note} {t : Thread} (hs : Sound s)
    (h : s.queue.step t = some d) : Sound { s with queue := d } := by
  have hinv : Inv { s with queue := d } :=
    hs.watched.inv.quiet { flight := Dispatch.step_flight h }
  refine ⟨⟨hinv, (hs.watched.settled.step h).1⟩, hs.kept.step h, ?_,
    ⟨hs.intact.alive, hs.intact.visible, hs.intact.confirmable⟩⟩
  intro hstop e he
  by_cases hold : s.queue.stopping = true
  · exact hs.drops hold e ((Dispatch.step_flight h).subset he)
  · obtain ⟨hno, -⟩ := Dispatch.step_keeps hs.watched.settled.1 (by simpa using hold) h
    exact absurd (hno.symm.trans hstop) (by simp)

theorem dialogStep_sound {s t : Sys} {e : Event} {o : List Output} (hs : Sound s)
    (h : dialogStep env s e = some (t, o)) :
    Sound t ∧ (e.ofMain = true → ¬ Blocked t.queue) := by
  obtain ⟨hwatched, -⟩ := dialogStep_outcome env hs.watched h
  have hcancel : ∀ k, e ≠ .cancelAuthentication k := by
    rintro k rfl
    cases h
  replace h := dialogStep_eq env h
  unfold step at h
  split at h
  · obtain ⟨d, hd, heq⟩ := Option.map_eq_some_iff.mp h
    cases heq
    exact ⟨thread_sound hs hd, fun hmain => by cases hmain⟩
  · split_ifs at h with halive
    obtain ⟨t, ht, heq⟩ := Option.map_eq_some_iff.mp h
    cases heq
    obtain ⟨-, hqueue, hdialog⟩ := childStep_apart ht
    refine ⟨⟨hwatched, hqueue ▸ hs.kept, hqueue ▸ hs.drops, ?_⟩, fun hmain => by cases hmain⟩
    exact ⟨childStep_lives (hs.intact.alive halive) ht, hdialog ▸ hs.intact.visible,
      hdialog ▸ hs.intact.confirmable⟩
  · split_ifs at h with hloop
    obtain ⟨d, hd, hkept, ht⟩ := main_handles env hs hloop hcancel h
    obtain ⟨hsound, hfree⟩ := ht.sound hd hkept hwatched
    exact ⟨hsound, fun _ => hfree⟩

theorem init_sound (m_userName : String) (k : ForkAnswer) : Sound (.init env m_userName k) := by
  have hflight : ∀ e ∈ (Sys.fresh env m_userName).queue.flight, plain e := by
    intro e he
    simp [Sys.fresh, Dispatch.flight, Worker.held, pending] at he
  have hfresh : Confirmable (Sys.fresh env m_userName).dialog.promptEdit := fun h => by cases h
  obtain ⟨⟨ops, hqueue, hlasting, hstops⟩, hintact⟩ :=
    startAuth_handles (s := .fresh env m_userName) k rfl hflight hfresh
  refine ⟨init_watched env m_userName k, ?_, ?_, hintact⟩
  · rw [show (Sys.init env m_userName k).queue = _ from hqueue]
    exact (kept_new 2).call hlasting
  · intro hstop e he
    rw [show (Sys.init env m_userName k).queue = _ from hqueue] at hstop he
    rw [Dispatch.stopping, Dispatch.call, List.any_append, Bool.or_eq_true] at hstop
    rcases hstop with hstop | hstop
    · cases hstop
    · rw [Dispatch.flight_call, (hstops hstop).1, List.append_nil] at he
      exact hflight e he

/-! ## The queue goes on -/

theorem dialogStep_thread {s : Sys} {d : Dispatch Note} {t : Thread} (h : s.queue.step t = some d) :
    dialogStep env s (.thread t) = some ({ s with queue := d }, []) := by
  simp [dialogStep, step, h]

/-- With only the queue changed, and its completions kept. -/
structure Waits (s t : Sys) : Prop where
  sound : Sound t
  rest : ∃ d, t = { s with queue := d }
  silent : Silent t.queue ↔ Silent s.queue
  flight : ∀ e ∈ s.queue.flight, e ∈ t.queue.flight ∨ plain e

theorem Waits.refl {s : Sys} (hs : Sound s) : Waits s s :=
  ⟨hs, ⟨s.queue, rfl⟩, Iff.rfl, fun _ he => Or.inl he⟩

theorem Waits.step {s t : Sys} {d : Dispatch Note} {th : Thread} (h : Waits s t)
    (hd : t.queue.step th = some d) : Waits s { t with queue := d } := by
  obtain ⟨-, hsilent⟩ := h.sound.watched.settled.step hd
  obtain ⟨d0, hrest⟩ := h.rest
  refine ⟨thread_sound h.sound hd, ⟨d, by rw [hrest]⟩, hsilent.trans h.silent, fun e he => ?_⟩
  rcases h.flight e he with hmem | hplain
  · by_cases hstop : t.queue.stopping = true
    · exact Or.inr (h.sound.drops hstop e hmem)
    · obtain ⟨-, hflight⟩ := Dispatch.step_keeps h.sound.watched.settled.1 (by simpa using hstop) hd
      left
      show e ∈ d.flight
      rw [hflight]
      exact hmem
  · exact Or.inr hplain

/-- A main thread that is not blocked gets back to its event loop. -/
theorem gets_back {s : Sys} (hs : Sound s) (hfree : ¬ Blocked s.queue) :
    Reaches (dialogStep env) (fun t => Waits s t ∧ t.queue.AtLoop) s := by
  have hreach : Reaches (dialogStep env)
      (fun t => (Waits s t ∧ ¬ Blocked t.queue) ∧ t.queue.AtLoop) s := by
    apply reaches_of_progress fun t : Sys => toLoop t.queue
    · rintro t ⟨ht, hfree⟩ hloop
      obtain ⟨th, d, hd, hfree1, hlt⟩ := ht.sound.kept.toOrderly.toLoop_lt hfree hloop
      exact ⟨.thread th, _, _, dialogStep_thread env hd, ⟨ht.step hd, hfree1⟩, hlt⟩
    · exact ⟨.refl hs, hfree⟩
  exact hreach.mono fun t ht => ⟨ht.1.1, ht.2⟩

end session_guard.lock_screen
