-- Can a prompt be answered? The login window shows one of three widgets: the edit,
-- the button of the automatic login and the one that authenticates again. A prompt
-- enables the edit, but does not switch to it.
import SessionGuard.GreeterAssertions

open machine

namespace session_guard.greeter_login_window

open prompt_edit user_list_widget

/-! ## The three widgets -/

/-- Exactly one of the three widgets is shown. -/
def OneShown (w : GreeterLoginWindow) : Prop :=
  [w.promptEdit.isVisible, w.btn_autologin_visible, w.btn_reAuth_visible].count true = 1

/-- The edit is shown and enabled. -/
def Answerable (w : GreeterLoginWindow) : Prop :=
  w.promptEdit.isVisible = true ∧ w.promptEdit.isEnabled = true ∧ w.promptEdit.editEnabled = true

theorem startAuthUser_oneShown (s : Sys) (username userIcon : String) :
    OneShown (s.startAuthUser username userIcon).1.window := by
  unfold Sys.startAuthUser andThen
  dsimp only
  split_ifs <;> rfl

theorem slotUserActivated_oneShown (s : Sys) (info : UserInfo) :
    OneShown (s.slotUserActivated info).1.window := startAuthUser_oneShown _ _ _

theorem selected_oneShown {s : Sys} (hs : OneShown s.window)
    (r : UserListWidget × Option UserInfo) :
    OneShown (s.selected r).1.window :=
  selected_activates (P := fun s => OneShown s.window) slotUserActivated_oneShown (Or.inr hs)

theorem resetUIForUserListLogin_oneShown (s : Sys) :
    OneShown s.resetUIForUserListLogin.1.window := by
  unfold Sys.resetUIForUserListLogin andThen
  dsimp only
  split
  · exact slotUserActivated_oneShown _ _
  · apply selected_oneShown
    rfl

theorem resetUIForManualLogin_oneShown (s : Sys) :
    OneShown s.resetUIForManualLogin.1.window := rfl

/-- A change of the edit that keeps its visibility keeps what is shown. -/
theorem OneShown.withEdit {w : GreeterLoginWindow} (h : OneShown w) {e : PromptEdit}
    (he : e.isVisible = w.promptEdit.isVisible) : OneShown { w with promptEdit := e } := by
  unfold OneShown at h ⊢
  dsimp only
  rw [he]
  exact h

theorem confirm_oneShown {s : Sys} {r : PromptEdit × Option String} (hs : OneShown s.window)
    (hr : r.1.isVisible = s.window.promptEdit.isVisible) : OneShown (s.confirm r).1.window := by
  unfold Sys.confirm Sys.slotTextConfirmed
  rcases r.2 with _ | text
  · exact hs.withEdit hr
  · dsimp only
    split_ifs
    · exact hs.withEdit hr
    · exact startAuthUser_oneShown _ _ _

theorem slotShowprompt_window (s : Sys) (text : String) (type : PromptType) :
    (s.slotShowprompt text type).window.promptEdit.isVisible = s.window.promptEdit.isVisible ∧
      (s.slotShowprompt text type).window.promptEdit.isEnabled = true ∧
      (s.slotShowprompt text type).window.promptEdit.editEnabled = true ∧
      (s.slotShowprompt text type).window.btn_autologin_visible = s.window.btn_autologin_visible ∧
      (s.slotShowprompt text type).window.btn_reAuth_visible = s.window.btn_reAuth_visible := by
  unfold Sys.slotShowprompt
  dsimp only
  split_ifs <;> exact ⟨rfl, rfl, rfl, rfl, rfl⟩

theorem slotShowprompt_oneShown {s : Sys} (hs : OneShown s.window) (text : String)
    (type : PromptType) : OneShown (s.slotShowprompt text type).window := by
  obtain ⟨hvisible, -, -, hautologin, hreAuth⟩ := slotShowprompt_window s text type
  unfold OneShown
  rw [hvisible, hautologin, hreAuth]
  exact hs

theorem slotAuthenticationComplete_oneShown {s : Sys} (hs : OneShown s.window) (success : Bool) :
    OneShown (s.slotAuthenticationComplete success).1.window := by
  unfold Sys.slotAuthenticationComplete
  split_ifs
  · exact hs
  · exact startAuthUser_oneShown _ _ _
  · rfl

theorem slotButtonClicked_oneShown (s : Sys) : OneShown s.slotButtonClicked.1.window := by
  unfold Sys.slotButtonClicked
  split
  · exact resetUIForManualLogin_oneShown s
  · split
    · exact resetUIForUserListLogin_oneShown s
    · exact resetUIForManualLogin_oneShown s

theorem slotRowsInserted_oneShown {s : Sys} (hs : OneShown s.window) (rows : List UserInfo)
    (first last : Nat) : OneShown (s.slotRowsInserted rows first last).1.window := by
  unfold Sys.slotRowsInserted
  dsimp only
  split_ifs
  · exact selected_oneShown hs _
  · exact hs

theorem reselect_oneShown {s : Sys} (hs : OneShown s.window) (reSelect : Bool) :
    OneShown (s.reselect reSelect).1.window := by
  unfold Sys.reselect
  split_ifs
  · exact hs
  · exact selected_oneShown hs _
  · exact resetUIForUserListLogin_oneShown s

theorem slotRowsRemoved_oneShown {s : Sys} (hs : OneShown s.window) (rows : List UserInfo)
    (first last : Nat) : OneShown (s.slotRowsRemoved rows first last).1.window := by
  unfold Sys.slotRowsRemoved andThen
  dsimp only
  generalize { s.window.userlist with m_filterModel := rows }.takeRows first last = u
  exact @reselect_oneShown { s with window := { s.window with userlist := u.1 } } hs u.2

/-- Each step shows exactly one of the three widgets. -/
theorem step_oneShown {s t : Sys} {e : Event} {o : List Output} (hs : OneShown s.window)
    (h : step s e = some (t, o)) : OneShown t.window := by
  obtain ⟨-, rfl, -⟩ := step_does h
  cases e with
  | selectUser row => exact selected_oneShown hs _
  | type text => exact hs.withEdit rfl
  | pressReturn => exact confirm_oneShown hs s.window.promptEdit.slotConfirm_flags.1
  | clickButton => exact confirm_oneShown hs s.window.promptEdit.slotConfirm_flags.1
  | clickNotListAndCancel => exact slotButtonClicked_oneShown s
  | clickReAuth =>
    show OneShown s.slotReAuthClicked.1.window
    unfold Sys.slotReAuthClicked
    split_ifs
    · exact resetUIForUserListLogin_oneShown s
    · exact resetUIForManualLogin_oneShown s
  | autologinTimerExpired =>
    show OneShown s.slotAutologinTimerExpired.1.window
    unfold Sys.slotAutologinTimerExpired
    split_ifs <;> exact hs
  | showPrompt text type => exact slotShowprompt_oneShown hs text type
  | authenticationComplete success => exact slotAuthenticationComplete_oneShown hs success
  | modelRowsInserted n =>
    show OneShown (s.slotModelRowsInserted n).window
    unfold Sys.slotModelRowsInserted
    dsimp only
    split_ifs <;> exact hs
  | modelRowsRemoved n =>
    show OneShown (s.slotModelRowsRemoved n).1.window
    unfold Sys.slotModelRowsRemoved
    dsimp only
    split_ifs
    · exact resetUIForManualLogin_oneShown _
    · exact hs
  | rowsInserted rows first last => exact slotRowsInserted_oneShown hs rows first last
  | rowsRemoved rows first last => exact slotRowsRemoved_oneShown hs rows first last
  | _ => exact hs

theorem init_oneShown (prefs : Prefs) (users : List UserInfo) (autologinUserHint : String)
    (m_inputMode : EditInputMode) :
    OneShown (Sys.init prefs users autologinUserHint m_inputMode).window := by
  unfold Sys.init Sys.initSettings
  dsimp only
  split_ifs
  · exact resetUIForUserListLogin_oneShown _
  · exact resetUIForManualLogin_oneShown _

/-! ## The prompt that waits -/

/-- The window, and whether the latest prompt waits for an answer. -/
structure Prompting where
  sys : Sys
  awaiting : Bool := false

/-- The call answers the prompt or drops it. -/
def Output.endsPrompt : Output → Bool
  | .respond _ => true
  | .cancelAuthentication => true
  | _ => false

/-- Does a prompt wait after the event? -/
def awaits (awaiting : Bool) (e : Event) (o : List Output) : Bool :=
  match e with
  | .showPrompt _ _ => true
  | .authenticationComplete _ => false
  | _ => awaiting && !o.any Output.endsPrompt

def promptStep : Step Prompting Event Output
  | p, e => (step p.sys e).map fun (s, o) => (⟨s, awaits p.awaiting e o⟩, o)

/-- Exactly one of the three widgets is shown before and after the step. -/
def ShowsOne (p : Prompting) (_ : Event) (_ : List Output) (p1 : Prompting) : Prop :=
  OneShown p.sys.window ∧ OneShown p1.sys.window

/-- A prompt that waits can be answered. -/
def CanAnswer (_ : Prompting) (_ : Event) (_ : List Output) (p1 : Prompting) : Prop :=
  p1.awaiting = true → Answerable p1.sys.window

/-- The event activates a user. -/
def Activates (s : Sys) : Event → Prop
  | .selectUser row => ∃ r, s.window.userlist.select row = some r ∧ r.2.isSome = true
  | .pressReturn =>
    s.window.m_inputMode = .EDIT_INPUT_USER_NAME ∧ s.window.promptEdit.slotConfirm.2.isSome = true
  | .clickButton =>
    s.window.m_inputMode = .EDIT_INPUT_USER_NAME ∧ s.window.promptEdit.slotConfirm.2.isSome = true
  | .clickNotListAndCancel =>
    s.window.m_buttonType = .BUTTON_RETURN ∧ s.window.m_inputMode = .EDIT_INPUT_USER_NAME ∧
      s.window.userlist.items ≠ []
  | .rowsInserted rows first last =>
    ({ s.window.userlist with m_filterModel := rows }.insertRows first last).needsSelection = true
  | .rowsRemoved rows first last =>
    (s.taken rows first last).2 = true ∧ (s.taken rows first last).1.items ≠ []
  | _ => False

/-- A prompt comes only while the edit is shown, and while it waits, a user is activated
only when the greeter is in an authentication, which the window then cancels. -/
def Answered (p : Prompting) (e : Event) : Prop :=
  (∀ text type, e = .showPrompt text type → p.sys.window.promptEdit.isVisible = true) ∧
    (p.awaiting = true → Activates p.sys e → p.sys.greeter.inAuthentication = true)

/-! ## What the functions leave of a prompt -/

/-- The calls end the prompt, or it can be answered. -/
def Settled (r : Sys × List Output) : Prop :=
  r.2.any Output.endsPrompt = true ∨ Answerable r.1.window

theorem cancelRunning_ends {s : Sys} (h : s.greeter.inAuthentication = true) :
    s.cancelRunning.2.any Output.endsPrompt = true := by
  unfold Sys.cancelRunning
  rw [if_pos h]
  rfl

/-- What begins with a cancel of a running attempt ends the prompt. -/
theorem andThen_ends {s : Sys} (h : s.greeter.inAuthentication = true)
    (f : Sys → Sys × List Output) :
    (andThen s.cancelRunning f).2.any Output.endsPrompt = true := by
  unfold andThen
  rw [List.any_append, cancelRunning_ends h, Bool.true_or]

theorem startAuthUser_settled {s : Sys} (h : s.greeter.inAuthentication = true)
    (username userIcon : String) : Settled (s.startAuthUser username userIcon) :=
  Or.inl (andThen_ends h _)

theorem selected_settled {s : Sys} {r : UserListWidget × Option UserInfo}
    (hs : Answerable s.window) (h : r.2.isSome = true → s.greeter.inAuthentication = true) :
    Settled (s.selected r) := by
  rcases r with ⟨u, _ | info⟩
  · exact Or.inr hs
  · unfold Sys.selected
    dsimp only
    unfold Sys.slotUserActivated
    apply startAuthUser_settled
    exact h rfl

theorem resetUIForManualLogin_settled (s : Sys) : Settled s.resetUIForManualLogin :=
  Or.inr ⟨rfl, rfl, rfl⟩

/-- An empty list has no item to select. -/
theorem no_item {w : UserListWidget} (h : w.items = []) :
    w.getCurrentSelected = none ∧ w.setCurrentRow 0 = (w, none) := by
  unfold UserListWidget.getCurrentSelected UserListWidget.setCurrentRow
  simp only [h, List.getElem?_nil]
  refine ⟨by cases w.selected <;> rfl, ?_⟩
  split_ifs <;> rfl

/-- With no user, the list mode leaves the edit shown and enabled. -/
theorem resetUIForUserListLogin_settled {s : Sys}
    (h : s.window.userlist.items ≠ [] → s.greeter.inAuthentication = true) :
    Settled s.resetUIForUserListLogin := by
  by_cases hitems : s.window.userlist.items = []
  · have hc : s.cancelRunning.1.window.userlist.items = [] := by
      unfold Sys.cancelRunning
      split_ifs <;> exact hitems
    unfold Sys.resetUIForUserListLogin andThen
    generalize s.cancelRunning = c at hc ⊢
    obtain ⟨hnone, hrow⟩ := @no_item ((c.1.window.userlist.setVisible true).setEnabled true) hc
    right
    dsimp only [GreeterLoginWindow.setCurrentAuthType, GreeterLoginWindow.switchToPromptEdit]
    rw [hnone, hrow]
    exact ⟨rfl, rfl, rfl⟩
  · exact Or.inl (andThen_ends (h hitems) _)

/-- A text that is confirmed goes to the greeter, or begins an attempt. -/
theorem slotConfirm_settled {s : Sys} (hs : Answerable s.window)
    (h : s.window.m_inputMode = .EDIT_INPUT_USER_NAME →
      s.window.promptEdit.slotConfirm.2.isSome = true → s.greeter.inAuthentication = true) :
    Settled (s.confirm s.window.promptEdit.slotConfirm) := by
  obtain ⟨hnone, hsame⟩ | ⟨hsome, -⟩ := s.window.promptEdit.slotConfirm_cases
  · right
    unfold Sys.confirm
    rw [hnone, hsame]
    exact hs
  · unfold Sys.confirm Sys.slotTextConfirmed
    rw [hsome]
    dsimp only
    split_ifs with hmode
    · exact Or.inl rfl
    · apply startAuthUser_settled
      refine h ?_ (by rw [hsome]; rfl)
      rcases hm : s.window.m_inputMode
      · rfl
      · exact absurd hm hmode

theorem slotButtonClicked_settled {s : Sys}
    (h : s.window.m_buttonType = .BUTTON_RETURN → s.window.m_inputMode = .EDIT_INPUT_USER_NAME →
      s.window.userlist.items ≠ [] → s.greeter.inAuthentication = true) :
    Settled s.slotButtonClicked := by
  unfold Sys.slotButtonClicked
  split
  · exact resetUIForManualLogin_settled s
  · rename_i hb
    split
    · rename_i hi
      exact resetUIForUserListLogin_settled (h hb hi)
    · exact resetUIForManualLogin_settled s

theorem slotRowsInserted_settled {s : Sys} (hs : Answerable s.window) (rows : List UserInfo)
    (first last : Nat)
    (h : ({ s.window.userlist with m_filterModel := rows }.insertRows first last).needsSelection =
      true → s.greeter.inAuthentication = true) :
    Settled (s.slotRowsInserted rows first last) := by
  unfold Sys.slotRowsInserted
  dsimp only
  split_ifs with hneeds
  · exact selected_settled hs fun _ => h hneeds
  · exact Or.inr hs

theorem reselect_settled {s : Sys} (hs : Answerable s.window) {reSelect : Bool}
    (h : reSelect = true → s.window.userlist.items ≠ [] → s.greeter.inAuthentication = true) :
    Settled (s.reselect reSelect) := by
  unfold Sys.reselect
  split_ifs with hsel hcount
  · exact Or.inr hs
  · refine selected_settled hs fun _ => h (by simpa using hsel) ?_
    exact List.length_pos_iff.mp hcount
  · exact resetUIForUserListLogin_settled (h (by simpa using hsel))

theorem slotRowsRemoved_settled {s : Sys} (hs : Answerable s.window) (rows : List UserInfo)
    (first last : Nat)
    (h : (s.taken rows first last).2 = true → (s.taken rows first last).1.items ≠ [] →
      s.greeter.inAuthentication = true) : Settled (s.slotRowsRemoved rows first last) := by
  unfold Sys.slotRowsRemoved andThen
  dsimp only
  unfold Sys.taken at h
  generalize { s.window.userlist with m_filterModel := rows }.takeRows first last = u at h ⊢
  have hresel :
      Settled (Sys.reselect { s with window := { s.window with userlist := u.1 } } u.2) := by
    apply reselect_settled
    · exact hs
    · exact h
  rcases hresel with hends | hanswer
  · left
    rw [List.append_nil]
    exact hends
  · exact Or.inr hanswer

/-! ## Each step -/

/-- A prompt that waits can be answered, and one widget is shown. -/
structure Open (p : Prompting) : Prop where
  one : OneShown p.sys.window
  answer : p.awaiting = true → Answerable p.sys.window

/-- While the edit is shown, the button that authenticates again is not. -/
theorem OneShown.reAuth {w : GreeterLoginWindow} (h : OneShown w)
    (hedit : w.promptEdit.isVisible = true) : w.btn_reAuth_visible = false := by
  unfold OneShown at h
  rw [hedit] at h
  revert h
  cases w.btn_autologin_visible <;> cases w.btn_reAuth_visible <;> decide

/-- While a prompt waits, each event ends it or leaves it answerable. -/
theorem step_settled {s t : Sys} {e : Event} {o : List Output} (hone : OneShown s.window)
    (hs : Answerable s.window) (hG : Activates s e → s.greeter.inAuthentication = true)
    (h : step s e = some (t, o)) (hcomplete : ∀ success, e ≠ .authenticationComplete success) :
    Settled (t, o) := by
  obtain ⟨hcan, rfl, rfl⟩ := step_does h
  cases e with
  | selectUser row => exact selected_settled hs fun hact => hG ⟨_, hcan, hact⟩
  | pressReturn => exact slotConfirm_settled hs fun hm hact => hG ⟨hm, hact⟩
  | clickButton => exact slotConfirm_settled hs fun hm hact => hG ⟨hm, hact⟩
  | clickNotListAndCancel =>
    exact slotButtonClicked_settled fun hb hi hitems => hG ⟨hb, hi, hitems⟩
  | clickReAuth =>
    have hcan : s.window.btn_reAuth_visible = true := hcan
    rw [hone.reAuth hs.1] at hcan
    cases hcan
  | autologinTimerExpired =>
    right
    show Answerable s.slotAutologinTimerExpired.1.window
    unfold Sys.slotAutologinTimerExpired
    split_ifs <;> exact hs
  | showPrompt text type =>
    obtain ⟨hvisible, henabled, hedit, -⟩ := slotShowprompt_window s text type
    exact Or.inr ⟨hvisible.trans hs.1, henabled, hedit⟩
  | authenticationComplete success => exact absurd rfl (hcomplete success)
  | modelRowsInserted n =>
    right
    show Answerable (s.slotModelRowsInserted n).window
    unfold Sys.slotModelRowsInserted
    dsimp only
    split_ifs <;> exact hs
  | modelRowsRemoved n =>
    show Settled (s.slotModelRowsRemoved n)
    unfold Sys.slotModelRowsRemoved
    dsimp only
    split_ifs
    · exact resetUIForManualLogin_settled _
    · exact Or.inr hs
  | rowsInserted rows first last => exact slotRowsInserted_settled hs rows first last hG
  | rowsRemoved rows first last =>
    exact slotRowsRemoved_settled hs rows first last fun h1 h2 => hG ⟨h1, h2⟩
  | _ => exact Or.inr hs

/-- A prompt that waits after the event has just come, or has waited before it. -/
theorem awaits_cases {awaiting : Bool} {e : Event} {o : List Output}
    (h : awaits awaiting e o = true) :
    (∃ text type, e = .showPrompt text type) ∨
      (awaiting = true ∧ o.any Output.endsPrompt = false ∧
        ∀ success, e ≠ .authenticationComplete success) := by
  unfold awaits at h
  split at h
  · exact Or.inl ⟨_, _, rfl⟩
  · cases h
  · rename_i hcomplete
    simp only [Bool.and_eq_true, Bool.not_eq_true'] at h
    exact Or.inr ⟨h.1, h.2, hcomplete⟩

theorem promptStep_open {p p1 : Prompting} {e : Event} {o : List Output} (hp : Open p)
    (hG : Answered p e) (h : promptStep p e = some (p1, o)) : Open p1 := by
  obtain ⟨⟨t, o⟩, hstep, heq⟩ := Option.map_eq_some_iff.mp h
  cases heq
  refine ⟨step_oneShown hp.one hstep, fun hawaits => ?_⟩
  obtain ⟨text, type, rfl⟩ | ⟨hbefore, hends, hcomplete⟩ := awaits_cases hawaits
  · cases hstep
    obtain ⟨hvisible, henabled, hedit, -⟩ := slotShowprompt_window p.sys text type
    exact ⟨hvisible.trans (hG.1 text type rfl), henabled, hedit⟩
  · rcases step_settled hp.one (hp.answer hbefore) (hG.2 hbefore) hstep hcomplete with h | h
    · exact absurd (hends.symm.trans h) Bool.false_ne_true
    · exact h

/-! ## Every run -/

/-- Along every run of the window, for every configuration, exactly one of the three widgets
is shown. A prompt that waits can be answered as long as prompts come only while the edit is
shown, and users are activated while a prompt waits only in an authentication. -/
theorem a_prompt_can_be_answered (prefs : Prefs) (users : List UserInfo)
    (autologinUserHint : String) (m_inputMode : EditInputMode) (es : List Event) :
    OneShown (Sys.init prefs users autologinUserHint m_inputMode).window ∧
      Always promptStep ShowsOne ⟨.init prefs users autologinUserHint m_inputMode, false⟩ es ∧
      (Meets promptStep Answered ⟨.init prefs users autologinUserHint m_inputMode, false⟩ es →
        Always promptStep CanAnswer ⟨.init prefs users autologinUserHint m_inputMode, false⟩
          es) := by
  have hone := init_oneShown prefs users autologinUserHint m_inputMode
  refine ⟨hone, ?_, fun hG => ?_⟩
  · refine always_of_inv (G := fun _ _ => True) (I := fun p => OneShown p.sys.window) ?_ hone
      meets_true
    intro p e p1 o hp _ h
    obtain ⟨⟨t, o⟩, hstep, heq⟩ := Option.map_eq_some_iff.mp h
    cases heq
    have ht := step_oneShown hp hstep
    exact ⟨ht, hp, ht⟩
  · refine always_of_inv (G := Answered) (I := Open) ?_ ⟨hone, fun h => by cases h⟩ hG
    intro p e p1 o hp hg h
    have hp1 := promptStep_open hp hg h
    exact ⟨hp1, hp1.answer⟩

/-- Alice is activated at the start, and answers her prompt. -/
theorem alice_answers_her_prompt :
    OneShown (Sys.init samplePrefs [{ name := "alice" }] "auto" .EDIT_INPUT_USER_NAME).window ∧
      Always promptStep CanAnswer
        ⟨.init samplePrefs [{ name := "alice" }] "auto" .EDIT_INPUT_USER_NAME, false⟩
        [.showPrompt "Password: " .Secret, .type "secret", .pressReturn] := by
  obtain ⟨hone, -, hanswer⟩ := a_prompt_can_be_answered samplePrefs [{ name := "alice" }] "auto"
    .EDIT_INPUT_USER_NAME [.showPrompt "Password: " .Secret, .type "secret", .pressReturn]
  refine ⟨hone, hanswer ?_⟩
  exact meets_cons rfl ⟨fun _ _ _ => rfl, fun _ h => h.elim⟩ <|
    meets_cons rfl ⟨by simp, fun _ h => h.elim⟩ <|
    meets_cons rfl ⟨by simp, fun _ _ => rfl⟩ meets_nil

/-- The user of the automatic login is activated at the start. Her button is clicked, and the
prompt that comes finds the edit hidden. -/
theorem the_prompt_of_the_automatic_login_is_hidden :
    ∃ t o, run promptStep
        ⟨.init samplePrefs [{ name := "auto" }] "auto" .EDIT_INPUT_USER_NAME, false⟩
        [.clickAutologin, .showPrompt "Password: " .Secret] = some (t, o) ∧
      t.awaiting = true ∧ ¬ Answerable t.sys.window :=
  ⟨_, _, rfl, rfl, fun h => Bool.false_ne_true h.1⟩

end session_guard.greeter_login_window
