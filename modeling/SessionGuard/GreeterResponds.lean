-- A text that the login window sends goes to the attempt that the window shows,
-- after a prompt of it. The timer of the automatic login begins an attempt behind
-- the window's back, and breaks this when a user is about to type.
import SessionGuard.GreeterModes

open machine

namespace session_guard.greeter_login_window

open prompt_edit user_list_widget

/-! ## The invariant -/

/-- The edit is shown only for the attempt that the label names. In the list mode
the label follows the attempt at once, and by name at its first prompt. -/
structure Faithful (s : Sys) : Prop where
  autologin : s.window.btn_autologin_visible = true → s.window.promptEdit.isVisible = false
  label : s.window.promptEdit.isVisible = true → s.window.m_loginMode = .LOGIN_MODE_USER_LIST →
    s.window.label_userName = s.greeter.authenticationUser
  respond : s.window.promptEdit.takesClicks = true →
    s.window.m_inputMode = .EDIT_INPUT_PROMPT_RESPOND →
      s.prompted = true ∧ s.window.label_userName = s.greeter.authenticationUser

/-- A text that is sent goes to the attempt of the user on the label, who has been
prompted since that attempt began. -/
def RespondsToItsAttempt (s : Sys) (_ : Event) (o : List Output) (_ : Sys) : Prop :=
  ∀ text, .respond text ∈ o →
    s.prompted = true ∧ s.window.label_userName = s.greeter.authenticationUser

/-- The calls begin and cancel attempts, and respond to none. -/
def Mute (o : List Output) : Prop := ∀ text, .respond text ∉ o

theorem Mute.append {o o' : List Output} (h : Mute o) (h' : Mute o') : Mute (o ++ o') := by
  intro text hmem
  exact (List.mem_append.mp hmem).elim (h text) (h' text)

theorem cancelRunning_mute (s : Sys) : Mute s.cancelRunning.2 := by
  unfold Sys.cancelRunning
  split_ifs <;> simp [Mute]

/-! ## The functions that begin an attempt -/

/-- `startAuthUser` makes every window faithful: it names the user, and hides the
edit or disables it until the prompt. -/
theorem startAuthUser_faithful (s : Sys) (username userIcon : String) :
    Faithful (s.startAuthUser username userIcon).1 ∧
      Mute (s.startAuthUser username userIcon).2 := by
  unfold Sys.startAuthUser andThen
  generalize hc : s.cancelRunning = c
  have hmute : Mute c.2 := hc ▸ cancelRunning_mute s
  dsimp only
  by_cases h : username = c.1.greeter.autologinUserHint
  · rw [if_pos h]
    refine ⟨⟨fun _ => rfl, fun hv => ?_, fun hv => ?_⟩, hmute.append (by simp [Mute])⟩
    · cases hv
    · cases hv
  · rw [if_neg h]
    refine ⟨⟨fun hv => ?_, fun _ _ => rfl, fun hv => ?_⟩, hmute.append ?_⟩
    · cases hv
    · simp [Sys.authenticate, PromptEdit.takesClicks, PromptEdit.setEnabled] at hv
    · simp [Mute, Sys.authenticate]

theorem slotUserActivated_faithful (s : Sys) (info : UserInfo) :
    Faithful (s.slotUserActivated info).1 ∧ Mute (s.slotUserActivated info).2 :=
  startAuthUser_faithful _ _ _

theorem Faithful.withList {s : Sys} (h : Faithful s) (u : UserListWidget) :
    Faithful { s with window := { s.window with userlist := u } } :=
  ⟨h.autologin, h.label, h.respond⟩

theorem selected_mute (s : Sys) (r : UserListWidget × Option UserInfo) : Mute (s.selected r).2 := by
  unfold Sys.selected
  rcases r.2 with _ | info
  · simp [Mute]
  · exact (slotUserActivated_faithful _ info).2

/-- The selection of a user who was not selected begins an attempt. -/
theorem selected_faithful {s : Sys} {r : UserListWidget × Option UserInfo}
    (h : r.2.isSome = true ∨ Faithful s) : Faithful (s.selected r).1 ∧ Mute (s.selected r).2 := by
  refine ⟨?_, selected_mute s r⟩
  apply selected_activates fun s info => (slotUserActivated_faithful s info).1
  exact h.imp_right fun h => h.withList r.1

/-- The list mode is faithful when there is a user in the list. -/
theorem resetUIForUserListLogin_faithful {s : Sys} (h : s.window.userlist.items ≠ []) :
    Faithful s.resetUIForUserListLogin.1 ∧ Mute s.resetUIForUserListLogin.2 := by
  constructor
  · exact resetUIForUserListLogin_activates (fun s info => (slotUserActivated_faithful s info).1) h
  · unfold Sys.resetUIForUserListLogin andThen
    apply (cancelRunning_mute s).append
    dsimp only
    split
    · exact (slotUserActivated_faithful _ _).2
    · exact selected_mute _ _

/-- The manual mode asks for a name first. -/
theorem resetUIForManualLogin_faithful (s : Sys) :
    Faithful s.resetUIForManualLogin.1 ∧ Mute s.resetUIForManualLogin.2 := by
  refine ⟨⟨fun hv => ?_, fun _ hm => ?_, fun _ hm => ?_⟩, ?_⟩
  · cases hv
  · cases hm
  · cases hm
  · exact (cancelRunning_mute s).append (by simp [Mute])

/-! ## Every step -/

/-- The timer does not expire while the edit is shown for another attempt: in the
list mode not while it is shown at all, and by name not while it takes a
response. -/
def TimerIsHarmless (s : Sys) : Prop :=
  s.greeter.autologinUserHint.isEmpty = true ∨ s.window.promptEdit.isVisible = false ∨
    (s.window.m_loginMode = .LOGIN_MODE_MANUAL ∧
      (s.window.promptEdit.isEnabled = false ∨ s.window.m_inputMode = .EDIT_INPUT_USER_NAME))

/-- The timer of the automatic login is harmless, and the list mode is never
entered or left empty without a user in the list. -/
def Undisturbed (s : Sys) : Event → Prop
  | .autologinTimerExpired => TimerIsHarmless s
  | .clickReAuth =>
    s.window.m_loginMode = .LOGIN_MODE_USER_LIST → s.window.userlist.items ≠ []
  | .clickNotListAndCancel =>
    s.window.m_buttonType = .BUTTON_RETURN → s.window.m_inputMode = .EDIT_INPUT_USER_NAME →
      s.window.userlist.items ≠ []
  | .rowsRemoved rows first last =>
    let u := { s.window.userlist with m_filterModel := rows }.takeRows first last
    u.2 = true → u.1.items ≠ []
  | _ => True

theorem timer_faithful {s : Sys} (hs : Faithful s) (h : TimerIsHarmless s) :
    Faithful s.slotAutologinTimerExpired.1 ∧ Mute s.slotAutologinTimerExpired.2 := by
  unfold Sys.slotAutologinTimerExpired
  by_cases hhint : s.greeter.autologinUserHint.isEmpty = true
  · rw [if_pos hhint]
    exact ⟨hs, by simp [Mute]⟩
  · rw [if_neg hhint]
    refine ⟨⟨hs.autologin, fun hv hm => ?_, fun hv hm => ?_⟩, by simp [Mute, Sys.authenticate]⟩
    · obtain h | h | ⟨h, -⟩ := h
      · exact absurd h hhint
      · exact absurd (h.symm.trans hv) (by simp)
      · exact absurd (h.symm.trans hm) (by simp)
    · have hclicks :
          s.window.promptEdit.isVisible = true ∧ s.window.promptEdit.isEnabled = true := by
        simpa [Sys.authenticate, PromptEdit.takesClicks] using hv
      obtain h | h | ⟨-, h | h⟩ := h
      · exact absurd h hhint
      · exact absurd (h.symm.trans hclicks.1) (by simp)
      · exact absurd (h.symm.trans hclicks.2) (by simp)
      · exact absurd (h.symm.trans hm) (by simp)

/-- The button of the automatic login is shown only without the edit. -/
theorem autologinClick_faithful {s : Sys} (hs : Faithful s)
    (hbtn : s.window.btn_autologin_visible = true) : Faithful s.slotAutologinClicked.1 := by
  have hhidden := hs.autologin hbtn
  refine ⟨hs.autologin, fun hv _ => ?_, fun hv _ => ?_⟩
  · exact absurd (hhidden.symm.trans hv) (by simp)
  · simp [Sys.slotAutologinClicked, Sys.authenticate, PromptEdit.takesClicks, hhidden] at hv

/-- A prompt is shown under the name of its attempt. -/
theorem slotShowprompt_faithful {s : Sys} (hs : Faithful s) (text : String) (type : PromptType) :
    Faithful (s.slotShowprompt text type) := by
  by_cases hm : s.window.m_loginMode = .LOGIN_MODE_MANUAL
  · have hlabel : (s.slotShowprompt text type).window.label_userName =
        s.greeter.authenticationUser := by
      simp only [Sys.slotShowprompt, hm, if_true]
      split_ifs with h
      · rfl
      · exact (not_not.mp h).symm
    refine ⟨?_, fun _ _ => hlabel, fun _ _ => ⟨rfl, hlabel⟩⟩
    simpa [Sys.slotShowprompt, hm, PromptEdit.setEchoMode, PromptEdit.setPlaceHolderText] using
      hs.autologin
  · have hlist : s.window.m_loginMode = .LOGIN_MODE_USER_LIST := by
      rcases h : s.window.m_loginMode
      · rfl
      · exact absurd h hm
    have hlabel : s.window.promptEdit.isVisible = true →
        (s.slotShowprompt text type).window.label_userName = s.greeter.authenticationUser := by
      intro hv
      simp only [Sys.slotShowprompt, hm, if_false]
      exact hs.label hv hlist
    have hvisible : (s.slotShowprompt text type).window.promptEdit.isVisible =
        s.window.promptEdit.isVisible := by
      simp [Sys.slotShowprompt, hm, PromptEdit.setEchoMode, PromptEdit.setPlaceHolderText]
    refine ⟨?_, fun hv _ => hlabel (hvisible ▸ hv), fun hv _ => ⟨rfl, hlabel ?_⟩⟩
    · rw [hvisible]
      simpa [Sys.slotShowprompt, hm] using hs.autologin
    · rw [← hvisible]
      simp only [PromptEdit.takesClicks, Bool.and_eq_true] at hv
      exact hv.1

theorem complete_faithful {s : Sys} (hs : Faithful s) (success : Bool) :
    Faithful (s.slotAuthenticationComplete success).1 ∧
      Mute (s.slotAuthenticationComplete success).2 := by
  unfold Sys.slotAuthenticationComplete
  by_cases h1 : success = true
  · rw [if_pos h1]
    exact ⟨hs, by simp [Mute]⟩
  · rw [if_neg h1]
    by_cases h2 : s.window.m_havePrompted = true
    · rw [if_pos h2]
      exact startAuthUser_faithful _ _ _
    · rw [if_neg h2]
      refine ⟨⟨fun _ => rfl, fun hv => ?_, fun hv => ?_⟩, by simp [Mute]⟩
      · cases hv
      · cases hv

/-- The user confirms: the text is a response, or a name. -/
theorem confirm_faithful {s : Sys} (e : Event) (t : Sys) (hs : Faithful s)
    (hclicks : s.window.promptEdit.takesClicks = true) :
    Faithful (s.confirm s.window.promptEdit.slotConfirm).1 ∧
      RespondsToItsAttempt s e (s.confirm s.window.promptEdit.slotConfirm).2 t := by
  obtain ⟨hvisible, henabled⟩ := s.window.promptEdit.slotConfirm_flags
  generalize s.window.promptEdit.slotConfirm = r at hvisible henabled ⊢
  have hs1 : Faithful { s with window := { s.window with promptEdit := r.1 } } := by
    refine ⟨?_, ?_, ?_⟩
    · rw [hvisible]
      exact hs.autologin
    · rw [hvisible]
      exact hs.label
    · simp only [PromptEdit.takesClicks, hvisible, henabled]
      exact hs.respond
  unfold Sys.confirm
  rcases r.2 with _ | text
  · exact ⟨hs1, fun text hmem => by simp at hmem⟩
  · simp only [Sys.slotTextConfirmed]
    by_cases hm : s.window.m_inputMode = .EDIT_INPUT_PROMPT_RESPOND
    · rw [if_pos hm]
      exact ⟨hs1, fun _ _ => hs.respond hclicks hm⟩
    · rw [if_neg hm]
      obtain ⟨hf, hmute⟩ := startAuthUser_faithful _ _ _
      exact ⟨hf, fun text hmem => absurd hmem (hmute text)⟩

theorem slotButtonClicked_faithful {s : Sys}
    (h : s.window.m_buttonType = .BUTTON_RETURN → s.window.m_inputMode = .EDIT_INPUT_USER_NAME →
      s.window.userlist.items ≠ []) :
    Faithful s.slotButtonClicked.1 ∧ Mute s.slotButtonClicked.2 := by
  unfold Sys.slotButtonClicked
  rcases hb : s.window.m_buttonType
  · exact resetUIForManualLogin_faithful s
  · rcases hi : s.window.m_inputMode
    · exact resetUIForUserListLogin_faithful (h hb hi)
    · exact resetUIForManualLogin_faithful s

theorem slotReAuthClicked_faithful {s : Sys}
    (h : s.window.m_loginMode = .LOGIN_MODE_USER_LIST → s.window.userlist.items ≠ []) :
    Faithful s.slotReAuthClicked.1 ∧ Mute s.slotReAuthClicked.2 := by
  unfold Sys.slotReAuthClicked
  split_ifs with hm
  · exact resetUIForUserListLogin_faithful (h hm)
  · exact resetUIForManualLogin_faithful s

theorem slotModelRowsRemoved_faithful {s : Sys} (hs : Faithful s) (n : Nat) :
    Faithful (s.slotModelRowsRemoved n).1 ∧ Mute (s.slotModelRowsRemoved n).2 := by
  unfold Sys.slotModelRowsRemoved
  dsimp only
  split_ifs
  · exact resetUIForManualLogin_faithful _
  · exact ⟨⟨hs.autologin, hs.label, hs.respond⟩, by simp [Mute]⟩

theorem slotModelRowsInserted_faithful {s : Sys} (hs : Faithful s) (n : Nat) :
    Faithful (s.slotModelRowsInserted n) := by
  unfold Sys.slotModelRowsInserted
  dsimp only
  split_ifs
  · exact ⟨hs.autologin, hs.label, hs.respond⟩
  · exact ⟨hs.autologin, hs.label, hs.respond⟩

theorem slotRowsInserted_faithful {s : Sys} (hs : Faithful s) (rows : List UserInfo)
    (first last : Nat) : Faithful (s.slotRowsInserted rows first last).1 ∧
      Mute (s.slotRowsInserted rows first last).2 := by
  unfold Sys.slotRowsInserted
  dsimp only
  split_ifs
  · exact selected_faithful (Or.inr (hs.withList _))
  · exact ⟨hs.withList _, by simp [Mute]⟩

theorem reselect_faithful {s : Sys} (hs : Faithful s) {reSelect : Bool}
    (h : reSelect = true → s.window.userlist.items ≠ []) :
    Faithful (s.reselect reSelect).1 ∧ Mute (s.reselect reSelect).2 := by
  cases reSelect with
  | false => exact ⟨hs, by simp [Mute, Sys.reselect]⟩
  | true =>
    have hcount : 0 < s.window.userlist.userCount := List.length_pos_iff.mpr (h rfl)
    simp only [Sys.reselect, Bool.not_true, Bool.false_eq_true, if_false, if_pos hcount]
    exact selected_faithful (Or.inr hs)

theorem slotRowsRemoved_faithful {s : Sys} (hs : Faithful s) (rows : List UserInfo)
    (first last : Nat) (h : Undisturbed s (.rowsRemoved rows first last)) :
    Faithful (s.slotRowsRemoved rows first last).1 ∧
      Mute (s.slotRowsRemoved rows first last).2 := by
  obtain ⟨hf, hm⟩ := reselect_faithful (hs.withList _) h
  exact ⟨hf.withList _, hm.append (by simp [Mute])⟩

/-- Each step keeps the window faithful, and a response goes to the attempt on the
label. -/
theorem step_faithful {s t : Sys} {e : Event} {o : List Output} (hs : Faithful s)
    (hG : Undisturbed s e) (h : step s e = some (t, o)) :
    Faithful t ∧ RespondsToItsAttempt s e o t := by
  obtain ⟨hcan, rfl, rfl⟩ := step_does h
  have hmute : ∀ {t : Sys} {r : Sys × List Output}, Faithful r.1 ∧ Mute r.2 →
      Faithful r.1 ∧ RespondsToItsAttempt s e r.2 t :=
    fun ⟨hf, hm⟩ => ⟨hf, fun text hmem => absurd hmem (hm text)⟩
  have hnone : Mute ([] : List Output) := by simp [Mute]
  cases e with
  | shown => exact hmute ⟨hs.withList _, hnone⟩
  | selectUser row => exact hmute (selected_faithful (Or.inr hs))
  | pressReturn => exact confirm_faithful _ _ hs (PromptEdit.takesClicks_of_takesKeys hcan)
  | clickButton => exact confirm_faithful _ _ hs hcan
  | clickNotListAndCancel => exact hmute (slotButtonClicked_faithful hG)
  | clickReAuth => exact hmute (slotReAuthClicked_faithful hG)
  | clickAutologin =>
    refine hmute ⟨autologinClick_faithful hs hcan, ?_⟩
    simp [Mute, Sys.does, Sys.slotAutologinClicked, Sys.authenticate]
  | autologinTimerExpired => exact hmute (timer_faithful hs hG)
  | showPrompt text type => exact hmute ⟨slotShowprompt_faithful hs text type, hnone⟩
  | authenticationComplete success => exact hmute (complete_faithful hs success)
  | modelRowsInserted n => exact hmute ⟨slotModelRowsInserted_faithful hs n, hnone⟩
  | modelRowsRemoved n => exact hmute (slotModelRowsRemoved_faithful hs n)
  | rowsInserted rows first last => exact hmute (slotRowsInserted_faithful hs rows first last)
  | rowsRemoved rows first last => exact hmute (slotRowsRemoved_faithful hs rows first last hG)
  | _ => exact hmute ⟨⟨hs.autologin, hs.label, hs.respond⟩, hnone⟩

/-- The window starts in the list mode only with a user in the list. -/
theorem init_faithful (prefs : Prefs) (users : List UserInfo) (autologinUserHint : String)
    (m_inputMode : EditInputMode) :
    Faithful (.init prefs users autologinUserHint m_inputMode) := by
  unfold Sys.init Sys.initSettings
  dsimp only
  split_ifs with h
  · apply (resetUIForUserListLogin_faithful _).1
    simp only [Bool.and_eq_true, decide_eq_true_eq] at h
    have hrows := List.length_pos_iff.mp h.2
    rw [UserListWidget.loadUserList_items]
    simpa using hrows
  · exact (resetUIForManualLogin_faithful _).1

/-! ## A response goes to its attempt -/

/-- Along every run of the window where the timer of the automatic login expires
only when it is harmless, and where the list mode has a user in the list, every
response goes to the attempt of the user on the label, after a prompt of that
attempt. -/
theorem a_response_goes_to_the_attempt_on_the_label (prefs : Prefs) (users : List UserInfo)
    (autologinUserHint : String) (m_inputMode : EditInputMode) {es : List Event}
    (hG : Meets step Undisturbed (.init prefs users autologinUserHint m_inputMode) es) :
    Always step RespondsToItsAttempt (.init prefs users autologinUserHint m_inputMode) es := by
  refine always_of_inv (G := Undisturbed) (I := Faithful) ?_
    (init_faithful prefs users autologinUserHint m_inputMode) hG
  intro s e s1 o1 hs hg h
  exact step_faithful hs hg h

/-- The window when two users can log in, and a third one logs in by timer. -/
def sampleWindow : Sys :=
  .init samplePrefs [{ name := "alice" }, { name := "bob" }] "carol" .EDIT_INPUT_USER_NAME

/-- The timer expires while a user types the password, and the password goes to the
attempt of another user, who has not been prompted. -/
theorem the_timer_takes_the_password :
    ¬ ∀ es, Always step RespondsToItsAttempt sampleWindow es := by
  intro h
  have hrest := always_rest
    [.showPrompt "Password: " .Secret, .type "secret", .autologinTimerExpired] [.clickButton] rfl
    (h _)
  have := (hrest _ _ rfl).1 "secret" (by decide)
  exact absurd this (by decide)

/-- Without the timer, the password goes to the attempt of the user on the label. -/
theorem a_password_goes_to_the_user_on_the_label :
    ∃ t, run step sampleWindow [.showPrompt "Password: " .Secret, .type "secret", .clickButton] =
        some (t, [.respond "secret"]) ∧
      Always step RespondsToItsAttempt sampleWindow
        [.showPrompt "Password: " .Secret, .type "secret", .clickButton] :=
  ⟨_, rfl, a_response_goes_to_the_attempt_on_the_label samplePrefs
    [{ name := "alice" }, { name := "bob" }] "carol" .EDIT_INPUT_USER_NAME
    (meets_cons rfl trivial <| meets_cons rfl trivial <| meets_cons rfl trivial trivial)⟩

end session_guard.greeter_login_window
