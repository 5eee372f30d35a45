-- `ScreenSaverDialog` on its own, for any `AuthProxy` behind it: what the user and the
-- signals make it do, and what it calls. The dialog of the lock screen is one run of it.
import SessionGuard.UnlockSafety

open machine

namespace session_guard.screensaver_dialog

open prompt_edit lock_screen

variable (env : auth_proxy.Env)

/-! ## The dialog and its calls -/

/-- What the dialog calls on `AuthProxy` and on the screensaver. -/
inductive Output
  | cancelAuthentication
  | authenticate (username : String)
  | respond (text : String)
  | authenticationPassed
  deriving DecidableEq

structure Sys where
  dialog : ScreenSaverDialog
  /-- Has `slotShowPrompt` run since the latest `authenticate`? -/
  prompted : Bool := false
  deriving DecidableEq

/-- What a function asks of `AuthProxy`, `inAuthentication`, is part of the event. -/
inductive Event
  | type (text : String)
  | pressReturn
  | clickButton
  | clickReAuth (inAuthentication : Bool)
  | showPrompt (text : String) (type : PromptType)
  | showMessage (text : String)
  | authenticationComplete (inAuthentication authRes : Bool)
  deriving DecidableEq

namespace Sys

variable (s : Sys)

def startAuth (inAuthentication : Bool) : Sys × List Output :=
  let d := { s.dialog.updateCurrentAuthType with m_havePrompt := false }
  ({ dialog := d.switchToPromptEdit },
    (if inAuthentication then [.cancelAuthentication] else []) ++ [.authenticate d.m_userName])

def slotAuthenticationComplete (inAuthentication authRes : Bool) : Sys × List Output :=
  if !authRes then
    if !s.dialog.m_havePrompt then
      ({ s with dialog := s.dialog.switchToReauthentication }, [])
    else s.startAuth inAuthentication
  else ({ s with dialog := s.dialog.succeed }, [.authenticationPassed])

def slotShowPrompt (text : String) (type : PromptType) : Sys :=
  { dialog := s.dialog.slotShowPrompt text type, prompted := true }

/-- `textConfirmed`, when there is one. -/
def confirm (r : PromptEdit × Option String) : Sys × List Output :=
  ({ s with dialog := { s.dialog with promptEdit := r.1 } }, r.2.toList.map .respond)

end Sys

def step : Step Sys Event Output
  | s, .type text =>
    (s.dialog.promptEdit.type text).map fun e =>
      ({ s with dialog := { s.dialog with promptEdit := e } }, [])
  | s, .pressReturn => s.dialog.promptEdit.pressReturn.map s.confirm
  | s, .clickButton => s.dialog.promptEdit.click.map s.confirm
  | s, .clickReAuth inAuthentication =>
    if s.dialog.btn_reAuth_visible then some (s.startAuth inAuthentication) else none
  | s, .showPrompt text type => some (s.slotShowPrompt text type, [])
  | s, .showMessage text => some ({ s with dialog := s.dialog.slotShowMessage text }, [])
  | s, .authenticationComplete inAuthentication authRes =>
    some (s.slotAuthenticationComplete inAuthentication authRes)

/-- The dialog after `initAuth` and `initUI`. -/
def fresh (m_userName : String) : ScreenSaverDialog where
  m_userName := m_userName
  promptEdit := ({} : PromptEdit).setEnabled false
  btn_reAuth_visible := true

/-- The dialog after its constructor. -/
def Sys.init (m_userName : String) (inAuthentication : Bool) : Sys :=
  (Sys.startAuth { dialog := fresh m_userName } inAuthentication).1

/-! ## The prompts of an attempt -/

def Output.isAuthenticate : Output → Bool
  | .authenticate _ => true
  | _ => false

def Event.isPrompt : Event → Bool
  | .showPrompt _ _ => true
  | _ => false

/-- An attempt that is started when another one has failed comes after a prompt of that
one. -/
def RestartsPrompted (s : Sys) (e : Event) (o : List Output) (_ : Sys) : Prop :=
  (∃ inAuthentication, e = .authenticationComplete inAuthentication false) →
    o.any Output.isAuthenticate = true → s.prompted = true

/-- The dialog knows of a prompt only when there was one in the attempt. -/
def Guarded (s : Sys) : Prop := s.dialog.m_havePrompt = true → s.prompted = true

theorem startAuth_authenticates (s : Sys) (inAuthentication : Bool) :
    (s.startAuth inAuthentication).2.any Output.isAuthenticate = true := by
  unfold Sys.startAuth
  rw [List.any_append]
  simp [Output.isAuthenticate]

/-- A step that is no prompt and starts no attempt: the prompts of the attempt stay as they
are. -/
structure Plain (s : Sys) (e : Event) (r : Sys × List Output) : Prop where
  event : e.isPrompt = false
  prompted : r.1.prompted = s.prompted
  havePrompt : r.1.dialog.m_havePrompt = s.dialog.m_havePrompt
  calls : r.2.any Output.isAuthenticate = false

theorem confirm_plain (s : Sys) {e : Event} (he : e.isPrompt = false)
    (edit : PromptEdit × Option String) : Plain s e (s.confirm edit) := by
  obtain ⟨edit, _ | text⟩ := edit <;> exact ⟨he, rfl, rfl, rfl⟩

/-- A step is a prompt, or starts an attempt, after a failure only when the dialog knows of a
prompt, or is plain. -/
theorem step_cases {s : Sys} {e : Event} {r : Sys × List Output} (h : step s e = some r) :
    (∃ text type, e = .showPrompt text type ∧ r = (s.slotShowPrompt text type, [])) ∨
      (∃ inAuthentication, e.isPrompt = false ∧ r = s.startAuth inAuthentication ∧
        ((∃ b, e = .authenticationComplete b false) → s.dialog.m_havePrompt = true)) ∨
      Plain s e r := by
  cases e with
  | type text =>
    obtain ⟨edit, -, rfl⟩ := Option.map_eq_some_iff.mp h
    exact Or.inr (Or.inr ⟨rfl, rfl, rfl, rfl⟩)
  | pressReturn =>
    obtain ⟨edit, -, rfl⟩ := Option.map_eq_some_iff.mp h
    exact Or.inr (Or.inr (confirm_plain s rfl edit))
  | clickButton =>
    obtain ⟨edit, -, rfl⟩ := Option.map_eq_some_iff.mp h
    exact Or.inr (Or.inr (confirm_plain s rfl edit))
  | clickReAuth inAuthentication =>
    simp only [step] at h
    split_ifs at h
    cases h
    refine Or.inr (Or.inl ⟨inAuthentication, rfl, rfl, ?_⟩)
    rintro ⟨b, hb⟩
    cases hb
  | showPrompt text type =>
    cases h
    exact Or.inl ⟨text, type, rfl, rfl⟩
  | showMessage text =>
    cases h
    exact Or.inr (Or.inr ⟨rfl, rfl, rfl, rfl⟩)
  | authenticationComplete inAuthentication authRes =>
    have hr := (Option.some.inj h).symm
    unfold Sys.slotAuthenticationComplete at hr
    split_ifs at hr with hfail hprompt
    · subst hr
      exact Or.inr (Or.inr ⟨rfl, rfl, rfl, rfl⟩)
    · exact Or.inr (Or.inl ⟨inAuthentication, rfl, hr, fun _ => by simpa using hprompt⟩)
    · subst hr
      exact Or.inr (Or.inr ⟨rfl, rfl, rfl, rfl⟩)

theorem startAuth_guarded (s : Sys) (inAuthentication : Bool) :
    Guarded (s.startAuth inAuthentication).1 := fun h => Bool.noConfusion h

theorem step_guarded {s : Sys} {e : Event} {r : Sys × List Output} (hs : Guarded s)
    (h : step s e = some r) : Guarded r.1 := by
  obtain ⟨text, type, -, rfl⟩ | ⟨inAuthentication, -, rfl, -⟩ | hplain := step_cases h
  · exact fun _ => rfl
  · exact startAuth_guarded s inAuthentication
  · unfold Guarded
    rw [hplain.prompted, hplain.havePrompt]
    exact hs

/-- A failure starts an attempt only when the dialog knows of a prompt. -/
theorem step_restartsPrompted {s : Sys} {e : Event} {r : Sys × List Output} (hs : Guarded s)
    (h : step s e = some r) : RestartsPrompted s e r.2 r.1 := by
  intro he ho
  obtain ⟨text, type, -, rfl⟩ | ⟨inAuthentication, -, -, hknows⟩ | hplain := step_cases h
  · cases ho
  · exact hs (hknows he)
  · rw [hplain.calls] at ho
    cases ho

/-- A prompt is remembered until the next `authenticate`. -/
theorem step_prompted {s : Sys} {e : Event} {r : Sys × List Output} (h : step s e = some r) :
    r.1.prompted = ((s.prompted || e.isPrompt) && !r.2.any Output.isAuthenticate) := by
  obtain ⟨text, type, rfl, rfl⟩ | ⟨inAuthentication, he, rfl, -⟩ | hplain := step_cases h
  · simp [Sys.slotShowPrompt, Event.isPrompt]
  · rw [startAuth_authenticates, Bool.not_true, Bool.and_false]
    rfl
  · rw [hplain.prompted, hplain.event, hplain.calls, Bool.or_false, Bool.not_false, Bool.and_true]

/-! ## The dialog of the lock screen -/

/-- What the lock screen does between the two states is a run of its dialog, which begins as
many attempts and passes as often. -/
def Follows (s t : lock_screen.Sys) (o : List lock_screen.Output) : Prop :=
  ∀ u : Sys, u.dialog = s.dialog → ∃ es u' calls,
    run step u es = some (u', calls) ∧ u'.dialog = t.dialog ∧
      t.history.attempt = s.history.attempt + calls.countP Output.isAuthenticate ∧
      o.length = calls.count .authenticationPassed

/-- The dialog takes no part. -/
theorem follows_none {s t : lock_screen.Sys} (hd : t.dialog = s.dialog)
    (ha : t.history.attempt = s.history.attempt) : Follows s t [] :=
  fun u hu => ⟨[], u, [], rfl, hu.trans hd.symm, ha, rfl⟩

/-- The dialog takes one step. -/
theorem follows_one {s t : lock_screen.Sys} {o : List lock_screen.Output} (e : Event)
    (h : ∀ prompted, ∃ r, step ⟨s.dialog, prompted⟩ e = some r ∧ r.1.dialog = t.dialog ∧
      t.history.attempt = s.history.attempt + r.2.countP Output.isAuthenticate ∧
      o.length = r.2.count .authenticationPassed) : Follows s t o := by
  rintro ⟨d, prompted⟩ rfl
  obtain ⟨⟨u', calls⟩, hstep, hrest⟩ := h prompted
  refine ⟨[e], u', calls, run_cons_iff.mpr ⟨u', calls, [], hstep, rfl, ?_⟩, hrest⟩
  rw [List.append_nil]

theorem Follows.trans {s1 s2 s3 : lock_screen.Sys} {o1 o2 : List lock_screen.Output}
    (h1 : Follows s1 s2 o1) (h2 : Follows s2 s3 o2) : Follows s1 s3 (o1 ++ o2) := by
  intro u hu
  obtain ⟨es1, u1, calls1, hrun1, hd1, ha1, ho1⟩ := h1 u hu
  obtain ⟨es2, u2, calls2, hrun2, hd2, ha2, ho2⟩ := h2 u1 hd1
  refine ⟨es1 ++ es2, u2, calls1 ++ calls2, run_append_iff.mpr ⟨_, _, _, hrun1, hrun2, rfl⟩, hd2,
    ?_, ?_⟩
  · rw [ha2, ha1, List.countP_append, Nat.add_assoc]
  · rw [List.length_append, ho1, ho2, List.count_append]

theorem authenticate_dialog {s : lock_screen.Sys} (u : String) (k : auth_pam.ForkAnswer)
    (hq : s.proxy.m_authMessageQueue = true) : (s.authenticate u k).dialog = s.dialog := by
  rw [authenticate_eq u k hq, pamAuthenticate_eq]

/-- The cancel of an attempt is not for the dialog. -/
theorem cancelAuthentication_frame {s : lock_screen.Sys} (k : auth_pam.ForkAnswer)
    (hq : s.proxy.m_authMessageQueue = true) :
    (s.cancelAuthentication k).dialog = s.dialog ∧
      (s.cancelAuthentication k).proxy.m_authMessageQueue = true ∧
      (s.cancelAuthentication k).history = s.history := by
  rw [cancelAuthentication_eq k hq, pamCancel_eq]
  exact ⟨rfl, (auth_proxy.stopAuthSession_hasQueue s.proxy).trans hq, rfl⟩

theorem startAuth_dialog {s : lock_screen.Sys} (k : auth_pam.ForkAnswer)
    (hq : s.proxy.m_authMessageQueue = true) (prompted inAuthentication : Bool) :
    ((⟨s.dialog, prompted⟩ : Sys).startAuth inAuthentication).1.dialog =
      (s.startAuth k).dialog := by
  unfold lock_screen.Sys.startAuth
  dsimp only
  split_ifs
  · obtain ⟨hd, hq', -⟩ := cancelAuthentication_frame (s := { s with
      dialog := { s.dialog.updateCurrentAuthType with m_havePrompt := false } }) k hq
    rw [authenticate_dialog _ k hq', hd]
    rfl
  · rw [authenticate_dialog _ k]
    · rfl
    · exact hq

theorem startAuth_calls (s : Sys) (inAuthentication : Bool) :
    (s.startAuth inAuthentication).2.countP Output.isAuthenticate = 1 ∧
      (s.startAuth inAuthentication).2.count .authenticationPassed = 0 := by
  cases inAuthentication <;> exact ⟨rfl, rfl⟩

theorem startAuth_follows {s : lock_screen.Sys} (k : auth_pam.ForkAnswer)
    (hq : s.proxy.m_authMessageQueue = true) {u : Sys} (hu : u.dialog = s.dialog)
    (inAuthentication : Bool) :
    (u.startAuth inAuthentication).1.dialog = (s.startAuth k).dialog ∧
      (s.startAuth k).history.attempt = s.history.attempt +
        (u.startAuth inAuthentication).2.countP Output.isAuthenticate ∧
      0 = (u.startAuth inAuthentication).2.count .authenticationPassed := by
  obtain ⟨d, prompted⟩ := u
  obtain rfl : d = s.dialog := hu
  refine ⟨startAuth_dialog k hq prompted inAuthentication, ?_, (startAuth_calls _ _).2.symm⟩
  rw [(startAuth_begins k hq).history, (startAuth_calls _ _).1]

theorem hear_frame (s : lock_screen.Sys) (f : Frame) :
    (s.hear f).dialog = s.dialog ∧ (s.hear f).proxy = s.proxy ∧
      (s.hear f).history.attempt = s.history.attempt := by
  unfold lock_screen.Sys.hear
  split <;> exact ⟨rfl, rfl, rfl⟩

/-- What comes from the child goes to the queue, not to the dialog. -/
theorem handleFrame_follows {s t : lock_screen.Sys} {k : auth_pam.ForkAnswer}
    {reply : Option (String × String)} {f : Frame} {o : List lock_screen.Output}
    (hq : s.proxy.m_authMessageQueue = true) (h : s.handleFrame env k reply f = (t, o)) :
    Follows s t o := by
  obtain ⟨hd, hp, ha⟩ := hear_frame s f
  have hq1 : (s.hear f).proxy.m_authMessageQueue = true := hp ▸ hq
  have hnone : ∀ {t' : lock_screen.Sys}, t'.dialog = (s.hear f).dialog →
      t'.history.attempt = (s.hear f).history.attempt → Follows s t' [] := fun hd' ha' =>
    follows_none (hd'.trans hd) (ha'.trans ha)
  unfold lock_screen.Sys.handleFrame at h
  dsimp only at h
  split at h
  · cases h
    exact hnone rfl rfl
  · rename_i text type _
    have heq := dispatch_pamMessage
      (s := { s.hear f with pam := (s.pam.handlePipeActivated f).1 })
      k (.auto (s.hear f).history.heard) (s.hear f).note hq1 text type
    obtain ⟨rfl, rfl⟩ := Prod.mk.inj (heq.symm.trans h)
    exact hnone rfl rfl
  · rename_i text type _
    obtain ⟨p, response, -, -, heq⟩ | heq := dispatch_pamPrompt
      (s := { s.hear f with pam := (s.pam.handlePipeActivated f).1 })
      k (.auto (s.hear f).history.heard) (s.hear f).note env hq1
      (s.pam.handlePipeActivated f).1.authenticationUser reply text type
    · obtain ⟨rfl, rfl⟩ := Prod.mk.inj (heq.symm.trans h)
      exact hnone rfl rfl
    · obtain ⟨rfl, rfl⟩ := Prod.mk.inj (heq.symm.trans h)
      exact hnone rfl rfl
  · obtain ⟨p, ops, before, -, -, -, -, heq⟩ := dispatch_pamComplete
      (s := { s.hear f with
        pam := (s.pam.handlePipeActivated f).1
        history := { (s.hear f).history with ended := true } })
      k (.auto (s.hear f).history.heard) (s.hear f).note hq1
      (s.pam.handlePipeActivated f).1.isAuthenticated
    obtain ⟨rfl, rfl⟩ := Prod.mk.inj (heq.symm.trans h)
    exact hnone rfl rfl

theorem slotAuthenticationComplete_follows {s t : lock_screen.Sys} {k : auth_pam.ForkAnswer}
    {authRes : Bool} {o : List lock_screen.Output} (hq : s.proxy.m_authMessageQueue = true)
    (h : s.slotAuthenticationComplete k authRes = (t, o)) : Follows s t o := by
  refine follows_one (.authenticationComplete s.pam.inAuthentication authRes) fun prompted =>
    ⟨Sys.slotAuthenticationComplete ⟨s.dialog, prompted⟩ s.pam.inAuthentication authRes, rfl, ?_⟩
  unfold Sys.slotAuthenticationComplete
  unfold lock_screen.Sys.slotAuthenticationComplete at h
  split_ifs at h with hfail hprompt
  · cases h
    simp [hfail, hprompt]
  · cases h
    simp only [hfail, hprompt]
    exact startAuth_follows k hq rfl _
  · cases h
    simp [hfail, Output.isAuthenticate]

/-- The user is shown what the queue delivers. -/
theorem deliver_follows {s t : lock_screen.Sys} {k : auth_pam.ForkAnswer}
    {o : List lock_screen.Output} (hq : s.proxy.m_authMessageQueue = true)
    (h : s.mainStep env (.deliver k) = some (t, o)) : Follows s t o := by
  simp only [lock_screen.Sys.mainStep, Option.map_eq_some_iff, Prod.exists] at h
  obtain ⟨e, d, -, heq⟩ := h
  obtain ⟨m, hsee⟩ := see_eq { s with queue := d } e
  rw [hsee, dispatch_queued] at heq
  rcases hm : e.msg with ⟨f, type, text⟩ | ⟨type, text⟩ | b
  · rw [hm] at heq
    cases heq
    exact follows_one (.showPrompt text type) fun _ => ⟨_, rfl, rfl, rfl, rfl⟩
  · rw [hm] at heq
    cases heq
    exact follows_one (.showMessage text) fun _ => ⟨_, rfl, rfl, rfl, rfl⟩
  · rw [hm] at heq
    have hcomplete := slotAuthenticationComplete_follows (s := { s with
      queue := d
      proxy := s.proxy.stopAuthSession.1
      history := { s.history with shown := m } })
      ((auth_proxy.stopAuthSession_hasQueue s.proxy).trans hq) heq
    exact (follows_none (s := s) rfl rfl).trans hcomplete

/-- The text that the user confirms is a call of `respond`. -/
theorem confirm_follows {s : lock_screen.Sys} {e : Event} {edit : PromptEdit × Option String}
    (h : ∀ prompted, step ⟨s.dialog, prompted⟩ e =
      some (Sys.confirm ⟨s.dialog, prompted⟩ edit)) :
    Follows s (s.confirm env edit) [] := by
  refine follows_one e fun prompted => ⟨_, h prompted, ?_⟩
  obtain ⟨edit, _ | text⟩ := edit
  · exact ⟨rfl, rfl, rfl⟩
  · rw [confirm_eq]
    exact ⟨rfl, rfl, rfl⟩

theorem main_follows {s t : lock_screen.Sys} {e : lock_screen.Event}
    {o : List lock_screen.Output} (hq : s.proxy.m_authMessageQueue = true)
    (h : s.mainStep env e = some (t, o)) : Follows s t o := by
  cases e with
  | type text =>
    obtain ⟨edit, hedit, heq⟩ := Option.map_eq_some_iff.mp h
    cases heq
    exact follows_one (.type text) fun _ =>
      ⟨_, Option.map_eq_some_iff.mpr ⟨edit, hedit, rfl⟩, rfl, rfl, rfl⟩
  | pressReturn =>
    obtain ⟨edit, hedit, heq⟩ := Option.map_eq_some_iff.mp h
    cases heq
    exact confirm_follows env (e := .pressReturn) fun _ =>
      Option.map_eq_some_iff.mpr ⟨edit, hedit, rfl⟩
  | clickButton =>
    obtain ⟨edit, hedit, heq⟩ := Option.map_eq_some_iff.mp h
    cases heq
    exact confirm_follows env (e := .clickButton) fun _ =>
      Option.map_eq_some_iff.mpr ⟨edit, hedit, rfl⟩
  | clickReAuth k =>
    simp only [lock_screen.Sys.mainStep] at h
    split_ifs at h with hbtn
    cases h
    exact follows_one (.clickReAuth s.pam.inAuthentication) fun _ =>
      ⟨_, if_pos hbtn, startAuth_follows k hq rfl _⟩
  | pipeActivated k reply =>
    simp only [lock_screen.Sys.mainStep, Option.map_eq_some_iff, Prod.exists] at h
    obtain ⟨f, s1, hr, heq⟩ := h
    obtain ⟨-, ⟨fs, -, rfl⟩ | ⟨-, -, -, rfl⟩⟩ := readPipe_cases hr
    · exact (follows_none rfl rfl : Follows s { s with toParent := fs } []).trans
        (handleFrame_follows env hq heq)
    · exact handleFrame_follows env hq heq
  | serviceMessages k msg type sid =>
    obtain ⟨ops, -, heq⟩ := dispatch_serviceMessages k s.userOrigin s.note env hq msg type sid
    obtain ⟨rfl, rfl⟩ := Prod.mk.inj (heq.symm.trans (Option.some.inj h))
    exact follows_none rfl rfl
  | serviceMethod k authType method sid =>
    have heq := dispatch_serviceMethod (s := s) k s.userOrigin s.note env authType method sid
    obtain ⟨rfl, rfl⟩ := Prod.mk.inj (heq.symm.trans (Option.some.inj h))
    exact follows_none rfl rfl
  | deliver k => exact deliver_follows env hq h
  | cancelAuthentication k =>
    cases h
    obtain ⟨hd, -, hh⟩ := cancelAuthentication_frame k hq
    exact follows_none hd (congrArg _ hh)
  | thread t => simp [lock_screen.Sys.mainStep] at h
  | child e => simp [lock_screen.Sys.mainStep] at h

theorem sends_attempt (h : History) (events : List pam_message.PamEvent) :
    (h.sends events).attempt = h.attempt := by
  unfold History.sends
  induction events generalizing h with
  | nil => rfl
  | cons event events ih =>
    rw [List.foldl_cons, ih]
    cases event <;> rfl

/-- The child is nothing to the dialog. -/
theorem childAct_follows {s t : lock_screen.Sys} {act : checkpass.Act}
    (h : s.childAct act = some t) : Follows s t [] := by
  obtain ⟨c, events, -, rfl⟩ := childAct_eq_some h
  refine follows_none rfl ((sends_attempt _ events).trans ?_)
  cases act <;> rfl

theorem childStep_follows {s t : lock_screen.Sys} {e : ChildEvent}
    (h : s.childStep e = some t) : Follows s t [] := by
  cases e with
  | act act =>
    cases act
    case recv r => cases h
    all_goals exact childAct_follows h
  | recv =>
    simp only [lock_screen.Sys.childStep] at h
    split at h
    · rename_i event origin rest _
      exact (follows_none rfl rfl : Follows s { s with toChild := rest } []).trans
        (childAct_follows h)
    · split_ifs at h
      exact childAct_follows h
  | die =>
    cases h
    exact follows_none rfl rfl
  | garbage =>
    cases h
    exact follows_none rfl rfl

theorem step_follows {s t : lock_screen.Sys} {e : lock_screen.Event}
    {o : List lock_screen.Output} (hq : s.proxy.m_authMessageQueue = true)
    (h : lock_screen.step env s e = some (t, o)) : Follows s t o := by
  unfold lock_screen.step at h
  split at h
  · obtain ⟨d, -, heq⟩ := Option.map_eq_some_iff.mp h
    cases heq
    exact follows_none rfl rfl
  · split_ifs at h
    obtain ⟨t, ht, heq⟩ := Option.map_eq_some_iff.mp h
    cases heq
    exact childStep_follows ht
  · split_ifs at h
    exact main_follows env hq h

/-- Every run of the lock screen is a run of its dialog, with as many attempts. -/
theorem run_follows {s t : lock_screen.Sys} {es : List lock_screen.Event}
    {o : List lock_screen.Output} (hs : Inv s)
    (h : run (lock_screen.step env) s es = some (t, o)) : Follows s t o := by
  induction es generalizing s o with
  | nil =>
    cases h
    exact follows_none rfl rfl
  | cons e es ih =>
    obtain ⟨s1, o1, o2, h1, h2, rfl⟩ := run_cons_iff.mp h
    exact (step_follows env hs.hasQueue h1).trans (ih (step_inv env hs h1).1 h2)

/-- The dialog of the lock screen, from its constructor on. -/
theorem lock_screen_follows (m_userName : String) (k : auth_pam.ForkAnswer)
    {es : List lock_screen.Event} {t : lock_screen.Sys} {o : List lock_screen.Output}
    (h : run (lock_screen.step env) (.init env m_userName k) es = some (t, o)) :
    ∃ es' u calls, run step (.init m_userName false) es' = some (u, calls) ∧
      u.dialog = t.dialog ∧ t.history.attempt = 1 + calls.countP Output.isAuthenticate ∧
      o.length = calls.count .authenticationPassed := by
  have hfollows := run_follows env (init_inv env m_userName k) h
  have hattempt : (lock_screen.Sys.init env m_userName k).history.attempt = 1 :=
    congrArg History.attempt (startAuth_begins (s := .fresh env m_userName) k rfl).history
  rw [← hattempt]
  apply hfollows
  exact startAuth_dialog (s := .fresh env m_userName) k rfl false false

end session_guard.screensaver_dialog
