-- Who restarts an attempt that fails? Both windows do it by themselves, but only after a
-- prompt, so that an attempt that fails at once does not go on for ever.
import SessionGuard.GreeterModes
import SessionGuard.ScreenSaverDialog

open machine

/-! ## The login window -/

namespace session_guard.greeter_login_window

open prompt_edit user_list_widget

def Output.isAuthenticate : Output → Bool
  | .authenticate _ => true
  | _ => false

def Event.isPrompt : Event → Bool
  | .showPrompt _ _ => true
  | _ => false

/-- An attempt that is started when another one has failed comes after a prompt of that
one. -/
def RestartsPrompted (s : Sys) (e : Event) (o : List Output) (_ : Sys) : Prop :=
  e = .authenticationComplete false → o.any Output.isAuthenticate = true → s.prompted = true

/-- The window knows of a prompt only when there was one in the attempt, or when the attempt
is that of the automatic login, which no failure starts again. -/
def Guarded (s : Sys) : Prop :=
  s.window.m_havePrompted = true →
    s.prompted = true ∨ s.greeter.authenticationUser = s.greeter.autologinUserHint

/-- What each function of the window but the slot for prompts does: it keeps the window
guarded, and forgets the prompt when it starts an attempt. -/
structure Told (s : Sys) (r : Sys × List Output) : Prop where
  guarded : Guarded s → Guarded r.1
  prompted : r.1.prompted = (s.prompted && !r.2.any Output.isAuthenticate)

theorem Told.andThen {s : Sys} {r : Sys × List Output} {f : Sys → Sys × List Output}
    (hr : Told s r) (hf : Told r.1 (f r.1)) : Told s (andThen r f) := by
  refine ⟨fun h => hf.guarded (hr.guarded h), ?_⟩
  simp only [greeter_login_window.andThen, hf.prompted, hr.prompted, List.any_append, Bool.not_or,
    Bool.and_assoc]

/-- A change of the widgets does not count. -/
theorem Told.after {s t : Sys} {r : Sys × List Output} (h : Told t r)
    (hp : t.prompted = s.prompted) (hw : t.window.m_havePrompted = s.window.m_havePrompted)
    (hg : t.greeter = s.greeter) : Told s r := by
  refine ⟨fun hs => h.guarded ?_, hp ▸ h.prompted⟩
  unfold Guarded
  rw [hp, hw, hg]
  exact hs

theorem told_refl (s : Sys) : Told s (s, []) := ⟨id, by simp⟩

theorem cancelRunning_told (s : Sys) : Told s s.cancelRunning := by
  unfold Sys.cancelRunning
  split_ifs
  · exact ⟨id, by simp [Output.isAuthenticate]⟩
  · exact told_refl s

theorem startAuthUser_told (s : Sys) (username userIcon : String) :
    Told s (s.startAuthUser username userIcon) := by
  unfold Sys.startAuthUser
  refine (cancelRunning_told s).andThen ?_
  dsimp only
  split_ifs
  · exact ⟨fun _ h => Bool.noConfusion h, by simp⟩
  · exact ⟨fun _ h => Bool.noConfusion h, by simp [Sys.authenticate, Output.isAuthenticate]⟩

theorem slotUserActivated_told (s : Sys) (info : UserInfo) : Told s (s.slotUserActivated info) :=
  (startAuthUser_told _ info.name info.imagePath).after rfl rfl rfl

theorem selected_told (s : Sys) (r : UserListWidget × Option UserInfo) :
    Told s (s.selected r) := by
  unfold Sys.selected
  rcases r.2 with _ | info
  · exact (told_refl _).after rfl rfl rfl
  · exact (slotUserActivated_told _ info).after rfl rfl rfl

theorem resetUIForUserListLogin_told (s : Sys) : Told s s.resetUIForUserListLogin := by
  unfold Sys.resetUIForUserListLogin
  refine (cancelRunning_told s).andThen ?_
  dsimp only
  split
  · exact (slotUserActivated_told _ _).after rfl rfl rfl
  · exact (selected_told _ _).after rfl rfl rfl

theorem resetUIForManualLogin_told (s : Sys) : Told s s.resetUIForManualLogin := by
  unfold Sys.resetUIForManualLogin
  exact (cancelRunning_told s).andThen ((told_refl _).after rfl rfl rfl)

theorem confirm_told (s : Sys) (r : PromptEdit × Option String) : Told s (s.confirm r) := by
  unfold Sys.confirm Sys.slotTextConfirmed
  rcases r.2 with _ | text
  · exact (told_refl _).after rfl rfl rfl
  · dsimp only
    split_ifs
    · exact ⟨id, by simp [Output.isAuthenticate]⟩
    · exact (startAuthUser_told _ _ _).after rfl rfl rfl

/-- The automatic login starts an attempt and leaves the window as it is. -/
theorem authenticate_hint_told (s : Sys) : Told s (s.authenticate s.greeter.autologinUserHint) :=
  ⟨fun _ _ => Or.inr rfl, by simp [Sys.authenticate, Output.isAuthenticate]⟩

theorem slotAuthenticationComplete_told (s : Sys) (success : Bool) :
    Told s (s.slotAuthenticationComplete success) := by
  unfold Sys.slotAuthenticationComplete
  split_ifs
  · exact ⟨id, by simp [Output.isAuthenticate]⟩
  · exact startAuthUser_told _ _ _
  · exact (told_refl _).after rfl rfl rfl

theorem slotRowsInserted_told (s : Sys) (rows : List UserInfo) (first last : Nat) :
    Told s (s.slotRowsInserted rows first last) := by
  unfold Sys.slotRowsInserted
  dsimp only
  split_ifs
  · exact (selected_told _ _).after rfl rfl rfl
  · exact (told_refl _).after rfl rfl rfl

theorem slotRowsRemoved_told (s : Sys) (rows : List UserInfo) (first last : Nat) :
    Told s (s.slotRowsRemoved rows first last) := by
  have hreselect : ∀ (s : Sys) reSelect, Told s (s.reselect reSelect) := by
    intro s reSelect
    unfold Sys.reselect
    split_ifs
    · exact told_refl s
    · exact selected_told s _
    · exact resetUIForUserListLogin_told s
  unfold Sys.slotRowsRemoved
  refine Told.andThen ?_ ?_
  · exact (hreselect _ _).after rfl rfl rfl
  · exact (told_refl _).after rfl rfl rfl

/-- Each step but a prompt is told in this way. -/
theorem step_told {s t : Sys} {e : Event} {o : List Output} (he : e.isPrompt = false)
    (h : step s e = some (t, o)) : Told s (t, o) := by
  obtain ⟨-, rfl, rfl⟩ := step_does h
  show Told s (s.does e)
  cases e with
  | selectUser row => exact selected_told s _
  | type text => exact (told_refl _).after rfl rfl rfl
  | pressReturn => exact confirm_told s _
  | clickButton => exact confirm_told s _
  | clickNotListAndCancel =>
    show Told s s.slotButtonClicked
    unfold Sys.slotButtonClicked
    split
    · exact resetUIForManualLogin_told s
    · split
      · exact resetUIForUserListLogin_told s
      · exact resetUIForManualLogin_told s
  | clickReAuth =>
    show Told s s.slotReAuthClicked
    unfold Sys.slotReAuthClicked
    split_ifs
    · exact resetUIForUserListLogin_told s
    · exact resetUIForManualLogin_told s
  | clickAutologin => exact authenticate_hint_told s
  | autologinTimerExpired =>
    show Told s s.slotAutologinTimerExpired
    unfold Sys.slotAutologinTimerExpired
    split_ifs
    · exact told_refl s
    · exact authenticate_hint_told s
  | showPrompt text type => cases he
  | showMessage text type => exact (told_refl _).after rfl rfl rfl
  | authenticationComplete success => exact slotAuthenticationComplete_told s success
  | greeterEnds isAuthenticated => exact ⟨id, by simp [Sys.does]⟩
  | modelRowsInserted n =>
    show Told s (s.slotModelRowsInserted n, [])
    unfold Sys.slotModelRowsInserted
    dsimp only
    split_ifs <;> exact (told_refl _).after rfl rfl rfl
  | modelRowsRemoved n =>
    show Told s (s.slotModelRowsRemoved n)
    unfold Sys.slotModelRowsRemoved
    dsimp only
    split_ifs
    · exact (resetUIForManualLogin_told _).after rfl rfl rfl
    · exact (told_refl _).after rfl rfl rfl
  | rowsInserted rows first last => exact slotRowsInserted_told s rows first last
  | rowsRemoved rows first last => exact slotRowsRemoved_told s rows first last
  | shown => exact (told_refl _).after rfl rfl rfl
  | selectSession action => exact (told_refl _).after rfl rfl rfl

/-- A prompt is remembered until the next `authenticate`. -/
theorem step_prompted {s t : Sys} {e : Event} {o : List Output} (h : step s e = some (t, o)) :
    t.prompted = ((s.prompted || e.isPrompt) && !o.any Output.isAuthenticate) := by
  rcases he : e.isPrompt with _ | _
  · rw [Bool.or_false]
    exact (step_told he h).prompted
  · cases e <;> cases he
    cases h
    simp [Sys.slotShowprompt]

theorem step_guarded {s t : Sys} {e : Event} {o : List Output} (hs : Guarded s)
    (h : step s e = some (t, o)) : Guarded t := by
  rcases he : e.isPrompt with _ | _
  · exact (step_told he h).guarded hs
  · cases e <;> cases he
    cases h
    exact fun _ => Or.inl rfl

/-- For the user of the automatic login, only the button is shown. -/
theorem startAuthUser_hint (s : Sys) (userIcon : String) :
    (s.startAuthUser s.greeter.autologinUserHint userIcon).2.any Output.isAuthenticate = false := by
  unfold Sys.startAuthUser Sys.cancelRunning andThen
  split_ifs <;> simp_all [Output.isAuthenticate]

/-- A failure starts an attempt only for a user who is not the one of the automatic login, and
only when the window knows of a prompt. -/
theorem step_restartsPrompted {s t : Sys} {e : Event} {o : List Output} (hs : Guarded s)
    (h : step s e = some (t, o)) : RestartsPrompted s e o t := by
  rintro rfl ho
  obtain ⟨-, -, rfl⟩ := step_does h
  change (s.slotAuthenticationComplete false).2.any Output.isAuthenticate = true at ho
  unfold Sys.slotAuthenticationComplete at ho
  rw [if_neg Bool.false_ne_true] at ho
  split_ifs at ho with hknows
  · refine (hs hknows).resolve_right fun huser => ?_
    rw [huser, startAuthUser_hint] at ho
    cases ho
  · simp at ho

theorem init_guarded (prefs : Prefs) (users : List UserInfo) (autologinUserHint : String)
    (m_inputMode : EditInputMode) :
    Guarded (Sys.init prefs users autologinUserHint m_inputMode) := by
  unfold Sys.init Sys.initSettings
  dsimp only
  split_ifs
  · exact (resetUIForUserListLogin_told _).guarded fun h => Bool.noConfusion h
  · exact (resetUIForManualLogin_told _).guarded fun h => Bool.noConfusion h

end session_guard.greeter_login_window

/-! ## Both windows -/

namespace session_guard.auth_restarts

open prompt_edit user_list_widget

/-- Along every run of the login window and of the lock screen's dialog, an attempt that is
started when another one has failed comes after a prompt of that one. -/
theorem no_failure_restarts_unprompted :
    (∀ (prefs : greeter_login_window.Prefs) (users : List UserInfo) (autologinUserHint : String)
      (m_inputMode : greeter_login_window.EditInputMode) (es : List greeter_login_window.Event),
      Always greeter_login_window.step greeter_login_window.RestartsPrompted
        (.init prefs users autologinUserHint m_inputMode) es) ∧
    ∀ (m_userName : String) (inAuthentication : Bool) (es : List screensaver_dialog.Event),
      Always screensaver_dialog.step screensaver_dialog.RestartsPrompted
        (.init m_userName inAuthentication) es := by
  constructor
  · intro prefs users autologinUserHint m_inputMode es
    refine always_of_inv (I := greeter_login_window.Guarded) (G := fun _ _ => True) ?_
      (greeter_login_window.init_guarded prefs users autologinUserHint m_inputMode) meets_true
    intro s e s1 o1 hs _ h
    exact ⟨greeter_login_window.step_guarded hs h,
      greeter_login_window.step_restartsPrompted hs h⟩
  · intro m_userName inAuthentication es
    refine always_of_inv (I := screensaver_dialog.Guarded) (G := fun _ _ => True) ?_
      (screensaver_dialog.startAuth_guarded _ inAuthentication) meets_true
    intro s e s1 o1 hs _ h
    exact ⟨screensaver_dialog.step_guarded hs h, screensaver_dialog.step_restartsPrompted hs h⟩

end session_guard.auth_restarts
