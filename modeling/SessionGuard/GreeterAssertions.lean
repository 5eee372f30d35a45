-- The assertions of the login window, and its policy when no login by name is
-- allowed. The assertions hold in every run, and the policy as long as there is a
-- user to show.
import SessionGuard.GreeterModes

open machine

namespace session_guard.greeter_login_window

open prompt_edit user_list_widget

/-! ## The button, the mode and the list agree -/

structure Consistent (m : Modes) : Prop where
  switch : m.buttonType = .BUTTON_SWITCH_TO_MANUAL_LOGIN ↔ m.loginMode = .LOGIN_MODE_USER_LIST
  enabled : m.listEnabled = true → m.loginMode = .LOGIN_MODE_USER_LIST
  returns : m.buttonVisible = true → m.loginMode = .LOGIN_MODE_MANUAL →
    m.inputMode = .EDIT_INPUT_USER_NAME → m.showUserList = true

theorem Consistent.userListLogin (m : Modes) : Consistent m.userListLogin := by
  refine ⟨⟨fun _ => rfl, fun _ => rfl⟩, fun _ => rfl, fun _ hm => ?_⟩
  cases hm

theorem Consistent.manualLogin (m : Modes) : Consistent m.manualLogin := by
  refine ⟨⟨fun h => ?_, fun h => ?_⟩, fun h => ?_, fun hv _ _ => ?_⟩
  · cases h
  · cases h
  · cases h
  · exact (Bool.and_eq_true_iff.mp hv).1

theorem Consistent.prompted {m : Modes} (h : Consistent m) : Consistent m.prompted := by
  unfold Modes.prompted
  split_ifs with hm
  · refine ⟨⟨fun hb => ?_, fun hl => ?_⟩, h.enabled, fun _ _ hi => ?_⟩
    · cases hb
    · rw [hm] at hl
      cases hl
    · cases hi
  · refine ⟨h.switch, h.enabled, fun _ _ hi => ?_⟩
    cases hi

theorem Consistent.buttonClicked (m : Modes) : Consistent m.buttonClicked := by
  unfold Modes.buttonClicked
  split
  · exact .manualLogin m
  · exact .userListLogin m
  · exact .manualLogin m

theorem Consistent.reAuthClicked (m : Modes) : Consistent m.reAuthClicked := by
  unfold Modes.reAuthClicked
  split_ifs
  · exact .userListLogin m
  · exact .manualLogin m

/-- The button appears for a first user only when the list is shown. -/
theorem Consistent.modelInserted {m : Modes} (h : Consistent m) (isAuthenticated : Bool) (n : Nat) :
    Consistent (m.modelInserted isAuthenticated n) := by
  refine ⟨h.switch, h.enabled, fun hv hm hi => ?_⟩
  rcases Bool.or_eq_true_iff.mp hv with hv | hv
  · exact h.returns hv hm hi
  · simp only [Bool.and_eq_true] at hv
    exact hv.1.1.2

theorem Consistent.modelRemoved {m : Modes} (h : Consistent m) (n : Nat) :
    Consistent (m.modelRemoved n) := by
  unfold Modes.modelRemoved
  split_ifs
  · exact .manualLogin _
  · exact ⟨h.switch, h.enabled, h.returns⟩

theorem Consistent.listRemoved {m : Modes} (h : Consistent m) (reSelect : Bool) (count : Nat) :
    Consistent (m.listRemoved reSelect count) := by
  unfold Modes.listRemoved
  split_ifs
  · exact .userListLogin _
  · exact ⟨h.switch, h.enabled, h.returns⟩

theorem step_consistent {s t : Sys} {e : Event} {o : List Output} (hs : Consistent s.modes)
    (h : step s e = some (t, o)) : Consistent t.modes := by
  rw [step_modes h]
  cases e with
  | clickNotListAndCancel => exact .buttonClicked _
  | clickReAuth => exact .reAuthClicked _
  | showPrompt text type => exact hs.prompted
  | modelRowsInserted n => exact hs.modelInserted _ n
  | modelRowsRemoved n => exact hs.modelRemoved n
  | rowsInserted rows first last => exact ⟨hs.switch, hs.enabled, hs.returns⟩
  | rowsRemoved rows first last => exact hs.listRemoved _ _
  | _ => exact hs

theorem init_consistent (prefs : Prefs) (users : List UserInfo) (autologinUserHint : String)
    (m_inputMode : EditInputMode) :
    Consistent (Sys.init prefs users autologinUserHint m_inputMode).modes := by
  unfold Sys.init Sys.initSettings
  dsimp only
  split_ifs
  · rw [Sys.resetUIForUserListLogin_modes]
    exact .userListLogin _
  · rw [Sys.resetUIForManualLogin_modes]
    exact .manualLogin _

/-! ## The assertions -/

/-- Each assertion about the modes holds when the event executes it: those of
`slotButtonClicked`, and the one of the slot for `sigRequestResetUI`. -/
def AssertionsHold (s : Sys) (e : Event) (_ : List Output) (_ : Sys) : Prop :=
  match e with
  | .clickNotListAndCancel =>
    (s.window.m_buttonType = .BUTTON_SWITCH_TO_MANUAL_LOGIN →
      s.window.m_loginMode = .LOGIN_MODE_USER_LIST) ∧
    (s.window.m_buttonType = .BUTTON_RETURN → s.window.m_loginMode = .LOGIN_MODE_MANUAL) ∧
    (s.window.m_buttonType = .BUTTON_RETURN → s.window.m_inputMode = .EDIT_INPUT_USER_NAME →
      s.window.m_showUserList = true)
  | .rowsRemoved rows first last =>
    (s.taken rows first last).2 = true → (s.taken rows first last).1.userCount = 0 →
      s.window.m_loginMode = .LOGIN_MODE_USER_LIST
  | _ => True

theorem manual_of_return {m : Modes} (h : Consistent m) (hb : m.buttonType = .BUTTON_RETURN) :
    m.loginMode = .LOGIN_MODE_MANUAL := by
  rcases hm : m.loginMode
  · rw [h.switch.mpr hm] at hb
    cases hb
  · rfl

theorem step_assertions {s t : Sys} {e : Event} {o : List Output} (hs : Consistent s.modes)
    (h : step s e = some (t, o)) : AssertionsHold s e o t := by
  cases e with
  | clickNotListAndCancel =>
    have hvisible : s.modes.buttonVisible = true := (step_does h).1
    refine ⟨hs.switch.mp, manual_of_return hs, fun hb hi => ?_⟩
    exact hs.returns hvisible (manual_of_return hs hb) hi
  | rowsRemoved rows first last =>
    intro hsel _
    exact hs.enabled
      ((takeRows_enabled { s.window.userlist with m_filterModel := rows } first last).2 hsel)
  | _ => trivial

/-- Along every run of the window, for every configuration, each assertion about the
modes holds whenever it is executed. -/
theorem the_assertions_hold (prefs : Prefs) (users : List UserInfo) (autologinUserHint : String)
    (m_inputMode : EditInputMode) (es : List Event) :
    Always step AssertionsHold (.init prefs users autologinUserHint m_inputMode) es := by
  refine always_of_inv (G := fun _ _ => True) (I := fun s => Consistent s.modes) ?_
    (init_consistent prefs users autologinUserHint m_inputMode) meets_true
  intro s e s1 o1 hs _ h
  exact ⟨step_consistent hs h, step_assertions hs h⟩

/-! ## No login by name -/

/-- The window does not ask for a name, a confirmed text begins no attempt, and a Return
click on a response finds a login by name allowed. -/
def PolicyHolds (s : Sys) (e : Event) (o : List Output) (t : Sys) : Prop :=
  t.window.m_loginMode ≠ .LOGIN_MODE_MANUAL ∧
    (e = .pressReturn ∨ e = .clickButton → ∀ username, .authenticate username ∉ o) ∧
    (e = .clickNotListAndCancel → s.window.m_buttonType = .BUTTON_RETURN →
      s.window.m_inputMode = .EDIT_INPUT_PROMPT_RESPOND → s.window.m_noListButotnVisiable = true)

/-- No removal leaves one of the two user models empty. -/
def KeepsUsers (s : Sys) : Event → Prop
  | .modelRowsRemoved n => n ≠ 0
  | .rowsRemoved rows first last => (s.taken rows first last).1.items ≠ []
  | _ => True

/-- The edit takes no name. -/
def NoName (s : Sys) : Prop :=
  s.window.promptEdit.takesClicks = true → s.window.m_inputMode = .EDIT_INPUT_PROMPT_RESPOND

/-- A list with users is shown, and no button leads away from it. -/
structure ListOnly (m : Modes) : Prop where
  list : m.loginMode = .LOGIN_MODE_USER_LIST
  hidden : m.buttonVisible = false
  forbidden : m.noListButotnVisiable = false
  users : 0 < m.userCount

theorem ListOnly.userListLogin {m : Modes} (h : ListOnly m) : ListOnly m.userListLogin :=
  ⟨rfl, h.forbidden, h.forbidden, h.users⟩

/-- An activated user takes the edit away until the prompt. -/
theorem startAuthUser_takesClicks (s : Sys) (username userIcon : String) :
    (s.startAuthUser username userIcon).1.window.promptEdit.takesClicks = false := by
  unfold Sys.startAuthUser andThen
  dsimp only
  split_ifs
  · rfl
  · exact Bool.and_false _

/-! ## Every step shows the list -/

theorem ListOnly.reAuthClicked {m : Modes} (h : ListOnly m) : ListOnly m.reAuthClicked := by
  unfold Modes.reAuthClicked
  rw [if_pos h.list]
  exact h.userListLogin

theorem ListOnly.prompted {m : Modes} (h : ListOnly m) : ListOnly m.prompted := by
  have hmode : ¬ m.loginMode = .LOGIN_MODE_MANUAL := by simp [h.list]
  unfold Modes.prompted
  rw [if_neg hmode]
  exact ⟨h.list, h.hidden, h.forbidden, h.users⟩

theorem ListOnly.modelInserted {m : Modes} (h : ListOnly m) (isAuthenticated : Bool) (n : Nat) :
    ListOnly (m.modelInserted isAuthenticated n) := by
  refine ⟨h.list, ?_, h.forbidden, h.users⟩
  simp [Modes.modelInserted, h.hidden, h.list]

theorem ListOnly.modelRemoved {m : Modes} (h : ListOnly m) {n : Nat} (hn : n ≠ 0) :
    ListOnly (m.modelRemoved n) := by
  unfold Modes.modelRemoved
  rw [if_neg hn]
  exact ⟨h.list, h.hidden, h.forbidden, h.users⟩

theorem ListOnly.listRemoved {m : Modes} (h : ListOnly m) (reSelect : Bool) {count : Nat}
    (hcount : 0 < count) : ListOnly (m.listRemoved reSelect count) := by
  unfold Modes.listRemoved
  rw [if_neg (by simp; omega)]
  exact ⟨h.list, h.hidden, h.forbidden, hcount⟩

theorem step_listOnly {s t : Sys} {e : Event} {o : List Output} (hs : ListOnly s.modes)
    (hG : KeepsUsers s e) (h : step s e = some (t, o)) : ListOnly t.modes := by
  rw [step_modes h]
  cases e with
  | clickNotListAndCancel => exact absurd (hs.hidden.symm.trans (step_does h).1) (by simp)
  | clickReAuth => exact hs.reAuthClicked
  | showPrompt text type => exact hs.prompted
  | modelRowsInserted n => exact hs.modelInserted _ n
  | modelRowsRemoved n => exact hs.modelRemoved hG
  | rowsInserted rows first last =>
    exact ⟨hs.list, hs.hidden, hs.forbidden, Nat.lt_of_lt_of_le hs.users (Nat.le_add_right _ _)⟩
  | rowsRemoved rows first last => exact hs.listRemoved _ (List.length_pos_iff.mpr hG)
  | _ => exact hs

theorem slotUserActivated_noName (s : Sys) (info : UserInfo) :
    NoName (s.slotUserActivated info).1 := by
  intro h
  rw [Sys.slotUserActivated, startAuthUser_takesClicks] at h
  cases h

theorem startAuthUser_noName (s : Sys) (username userIcon : String) :
    NoName (s.startAuthUser username userIcon).1 := by
  intro h
  rw [startAuthUser_takesClicks] at h
  cases h

/-- A confirmed text is a response, and begins no attempt. -/
theorem confirm_noName {s : Sys} {r : PromptEdit × Option String} (hs : NoName s)
    (hclicks : s.window.promptEdit.takesClicks = true) :
    NoName (s.confirm r).1 ∧ ∀ username, .authenticate username ∉ (s.confirm r).2 := by
  have hmode := hs hclicks
  have hs1 : NoName { s with window := { s.window with promptEdit := r.1 } } := fun _ => hmode
  unfold Sys.confirm
  rcases r.2 with _ | text
  · exact ⟨hs1, by simp⟩
  · simp only [Sys.slotTextConfirmed, if_pos hmode]
    exact ⟨hs1, by simp⟩

theorem complete_noName {s : Sys} (hs : NoName s) (success : Bool) :
    NoName (s.slotAuthenticationComplete success).1 := by
  unfold Sys.slotAuthenticationComplete
  split_ifs
  · exact hs
  · exact startAuthUser_noName _ _ _
  · intro h
    cases h

theorem slotRowsInserted_noName {s : Sys} (hs : NoName s) (rows : List UserInfo)
    (first last : Nat) : NoName (s.slotRowsInserted rows first last).1 := by
  unfold Sys.slotRowsInserted
  dsimp only
  split_ifs
  · exact selected_activates slotUserActivated_noName (Or.inr hs)
  · exact hs

theorem slotRowsRemoved_noName {s : Sys} (hs : NoName s) (rows : List UserInfo)
    (first last : Nat) (h : (s.taken rows first last).1.items ≠ []) :
    NoName (s.slotRowsRemoved rows first last).1 := by
  have hcount : 0 < (s.taken rows first last).1.userCount := List.length_pos_iff.mpr h
  unfold Sys.slotRowsRemoved andThen
  dsimp only
  unfold Sys.taken at hcount
  generalize { s.window.userlist with m_filterModel := rows }.takeRows first last = u at hcount ⊢
  have hresel :
      NoName (Sys.reselect { s with window := { s.window with userlist := u.1 } } u.2).1 := by
    unfold Sys.reselect
    cases u.2 with
    | false => exact hs
    | true =>
      simp only [Bool.not_true, Bool.false_eq_true, if_false, if_pos hcount]
      exact selected_activates slotUserActivated_noName (Or.inr hs)
  exact hresel

/-- What each event leaves of the edit, and what a confirmation calls. -/
theorem step_noName {s t : Sys} {e : Event} {o : List Output} (hm : ListOnly s.modes)
    (hs : NoName s) (hG : KeepsUsers s e) (h : step s e = some (t, o)) :
    NoName t ∧ (e = .pressReturn ∨ e = .clickButton → ∀ username, .authenticate username ∉ o) := by
  obtain ⟨hcan, rfl, rfl⟩ := step_does h
  cases e with
  | selectUser row =>
    exact ⟨selected_activates slotUserActivated_noName (Or.inr hs), by simp⟩
  | pressReturn =>
    obtain ⟨hn, hmute⟩ := confirm_noName hs (PromptEdit.takesClicks_of_takesKeys hcan)
    exact ⟨hn, fun _ => hmute⟩
  | clickButton =>
    obtain ⟨hn, hmute⟩ := confirm_noName hs hcan
    exact ⟨hn, fun _ => hmute⟩
  | clickNotListAndCancel => exact absurd (hm.hidden.symm.trans hcan) (by simp)
  | clickReAuth =>
    have hlist : s.window.m_loginMode = .LOGIN_MODE_USER_LIST := hm.list
    refine ⟨?_, by simp⟩
    show NoName s.slotReAuthClicked.1
    unfold Sys.slotReAuthClicked
    rw [if_pos hlist]
    exact resetUIForUserListLogin_activates slotUserActivated_noName
      (List.length_pos_iff.mp hm.users)
  | autologinTimerExpired =>
    refine ⟨?_, by simp⟩
    show NoName s.slotAutologinTimerExpired.1
    unfold Sys.slotAutologinTimerExpired
    split_ifs <;> exact hs
  | showPrompt text type => exact ⟨fun _ => rfl, by simp⟩
  | authenticationComplete success => exact ⟨complete_noName hs success, by simp⟩
  | modelRowsInserted n =>
    refine ⟨?_, by simp⟩
    show NoName (s.slotModelRowsInserted n)
    unfold Sys.slotModelRowsInserted
    dsimp only
    split_ifs <;> exact hs
  | modelRowsRemoved n =>
    refine ⟨?_, by simp⟩
    show NoName (s.slotModelRowsRemoved n).1
    unfold Sys.slotModelRowsRemoved
    dsimp only
    rw [if_neg hG]
    exact hs
  | rowsInserted rows first last => exact ⟨slotRowsInserted_noName hs rows first last, by simp⟩
  | rowsRemoved rows first last => exact ⟨slotRowsRemoved_noName hs rows first last hG, by simp⟩
  | _ => exact ⟨hs, by simp⟩

/-! ## The start and every run -/

/-- With a user to show, and no login by name, the window starts with the list. -/
theorem init_listOnly {prefs : Prefs} {users : List UserInfo} (hvalid : prefs.isValid = true)
    (hname : prefs.allow_manual_login = false)
    (husers : users.filter (fun info => !prefs.hiddenUsers.contains info.name) ≠ [])
    (autologinUserHint : String) (m_inputMode : EditInputMode) :
    ListOnly (Sys.init prefs users autologinUserHint m_inputMode).modes ∧
      NoName (Sys.init prefs users autologinUserHint m_inputMode) := by
  have hforbidden : prefs.noListButotnVisiable = false := by
    simp [Prefs.noListButotnVisiable, hvalid, hname]
  have hshow : prefs.showUserList = true := by simp [Prefs.showUserList, hvalid, hname]
  unfold Sys.init Sys.initSettings
  dsimp only
  have hload : (UserListWidget.loadUserList
      { m_filterModel := users.filter fun info => !prefs.hiddenUsers.contains info.name }
      prefs.hiddenUsers).items ≠ [] := by
    rw [UserListWidget.loadUserList_items]
    simpa using husers
  have hrows := List.length_pos_iff.mpr husers
  rw [if_pos (Bool.and_eq_true_iff.mpr ⟨hshow, decide_eq_true hrows⟩)]
  refine ⟨?_, resetUIForUserListLogin_activates slotUserActivated_noName hload⟩
  rw [Sys.resetUIForUserListLogin_modes]
  exact ⟨rfl, hforbidden, hforbidden, List.length_pos_iff.mpr hload⟩

/-- Along every run where no login by name is allowed, and where the user models are not
empty at first and no removal leaves them empty, the window never asks for a name. -/
theorem no_login_by_name (prefs : Prefs) (users : List UserInfo) (autologinUserHint : String)
    (m_inputMode : EditInputMode) (es : List Event) (hvalid : prefs.isValid = true)
    (hname : prefs.allow_manual_login = false)
    (husers : users.filter (fun info => !prefs.hiddenUsers.contains info.name) ≠ [])
    (hG : Meets step KeepsUsers (.init prefs users autologinUserHint m_inputMode) es) :
    (Sys.init prefs users autologinUserHint m_inputMode).window.m_loginMode ≠ .LOGIN_MODE_MANUAL ∧
      Always step PolicyHolds (.init prefs users autologinUserHint m_inputMode) es := by
  have hnot : ∀ {s : Sys}, ListOnly s.modes → s.window.m_loginMode ≠ .LOGIN_MODE_MANUAL := by
    intro s hs hm
    have hlist : s.window.m_loginMode = .LOGIN_MODE_USER_LIST := hs.list
    rw [hm] at hlist
    cases hlist
  obtain ⟨hlist, hnoName⟩ := init_listOnly hvalid hname husers autologinUserHint m_inputMode
  refine ⟨hnot hlist, ?_⟩
  refine always_of_inv (G := KeepsUsers) (I := fun s => ListOnly s.modes ∧ NoName s) ?_
    ⟨hlist, hnoName⟩ hG
  rintro s e s1 o1 ⟨hs, hn⟩ hg h
  have hs1 := step_listOnly hs hg h
  obtain ⟨hn1, hmute⟩ := step_noName hs hn hg h
  refine ⟨⟨hs1, hn1⟩, hnot hs1, hmute, ?_⟩
  rintro rfl
  exact absurd (hs.hidden.symm.trans (step_does h).1) (by simp)

/-- The settings allow no login by name. -/
def listPrefs : Prefs := { isValid := true, allow_manual_login := false, hide_user_list := false }

/-- One of two users is removed, and the other one logs in from the list. -/
theorem bob_logs_in_from_the_list :
    Always step PolicyHolds
      (.init listPrefs [{ name := "alice" }, { name := "bob" }] "" .EDIT_INPUT_USER_NAME)
      [.modelRowsRemoved 1, .rowsRemoved [{ name := "bob" }] 0 0,
        .showPrompt "Password: " .Secret, .type "secret", .pressReturn] := by
  refine (no_login_by_name listPrefs [{ name := "alice" }, { name := "bob" }] ""
    .EDIT_INPUT_USER_NAME _ rfl rfl (by decide) ?_).2
  exact meets_cons rfl (by simp [KeepsUsers]) <| meets_cons rfl (by simp [KeepsUsers]; decide) <|
    meets_cons rfl trivial <| meets_cons rfl trivial <| meets_cons rfl trivial meets_nil

/-- With no user to show, the window starts by asking for a name, and a name is typed and
begins an attempt. -/
theorem no_user_types_a_name :
    (Sys.init listPrefs [] "" .EDIT_INPUT_USER_NAME).window.m_loginMode = .LOGIN_MODE_MANUAL ∧
      ∃ t, run step (.init listPrefs [] "" .EDIT_INPUT_USER_NAME) [.type "root", .pressReturn] =
        some (t, [.authenticate "root"]) :=
  ⟨rfl, _, rfl⟩

end session_guard.greeter_login_window
