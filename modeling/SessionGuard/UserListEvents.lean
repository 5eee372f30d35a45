-- The user list in the login window: what each event does to the list as a whole,
-- whatever else it does to the window.
import SessionGuard.GreeterModes

open machine

namespace session_guard.user_list_widget

namespace UserListWidget

variable (w : UserListWidget)

/-! ## What the window does to its list -/

/-- What `resetUIForUserListLogin` does to the list. -/
def userListLogin : UserListWidget :=
  let w := (w.setVisible true).setEnabled true
  if w.getCurrentSelected.isSome then w else (w.setCurrentRow 0).1

/-- What `resetUIForManualLogin` does to the list. -/
def manualLogin : UserListWidget := (w.setEnabled false).setVisible false

/-- What `slotRowsInserted` does to the list. -/
def inserted (rows : List UserInfo) (first last : Nat) : UserListWidget :=
  let w := { w with m_filterModel := rows }.insertRows first last
  if w.needsSelection then (w.setCurrentRow 0).1 else w

/-- The list after its new selection. -/
def reselected (reSelect : Bool) : UserListWidget :=
  if !reSelect then w else if 0 < w.userCount then (w.setCurrentRow 0).1 else w.userListLogin

/-- What `slotRowsRemoved` does to the list. -/
def removed (rows : List UserInfo) (first last : Nat) : UserListWidget :=
  let r := { w with m_filterModel := rows }.takeRows first last
  (r.1.reselected r.2).hideShortList

/-- What an event may do to the list that does not tell it of rows. -/
inductive Moves : UserListWidget → Prop
  | stays : Moves w
  | shown : Moves { w with windowVisible := true }
  | selects (row : Nat) : Moves (w.setCurrentRow row).1
  | userListLogin : Moves w.userListLogin
  | manualLogin : Moves w.manualLogin

/-! ## The row that is selected -/

/-- At most the selection changes when a row is selected. -/
theorem setCurrentRow_eq (idx : Nat) :
    ∃ selected, (w.setCurrentRow idx).1 = { w with selected := selected } := by
  unfold setCurrentRow
  split_ifs
  · exact ⟨w.selected, rfl⟩
  · split
    · exact ⟨w.selected, rfl⟩
    · exact ⟨some idx, rfl⟩

theorem userListLogin_eq :
    ∃ selected, w.userListLogin =
      { w with isVisible := true, isEnabled := true, selected := selected } := by
  unfold userListLogin
  dsimp only
  split_ifs
  · exact ⟨w.selected, rfl⟩
  · exact setCurrentRow_eq _ 0

/-- The rows of the model and the users of the items. -/
def lists : List UserInfo × List UserInfo := (w.m_filterModel, w.items)

theorem Moves.lists {w w1 : UserListWidget} (h : w.Moves w1) : w1.lists = w.lists := by
  cases h with
  | selects row =>
    obtain ⟨selected, heq⟩ := w.setCurrentRow_eq row
    rw [heq]
    rfl
  | userListLogin =>
    obtain ⟨selected, heq⟩ := w.userListLogin_eq
    rw [heq]
    rfl
  | _ => rfl

end UserListWidget

end session_guard.user_list_widget

namespace session_guard.greeter_login_window

open prompt_edit user_list_widget

/-! ## What each function does to the list -/

namespace Sys

@[simp] theorem cancelRunning_userlist (s : Sys) :
    s.cancelRunning.1.window.userlist = s.window.userlist := by
  unfold cancelRunning
  split_ifs <;> rfl

@[simp] theorem startAuthUser_userlist (s : Sys) (username userIcon : String) :
    (s.startAuthUser username userIcon).1.window.userlist = s.window.userlist := by
  rw [← cancelRunning_userlist s]
  unfold startAuthUser andThen
  dsimp only
  split_ifs <;> rfl

@[simp] theorem slotUserActivated_userlist (s : Sys) (info : UserInfo) :
    (s.slotUserActivated info).1.window.userlist = s.window.userlist := by
  unfold slotUserActivated
  rw [startAuthUser_userlist]

/-- A selection brings the list that it leaves. -/
@[simp] theorem selected_userlist (s : Sys) (r : UserListWidget × Option UserInfo) :
    (s.selected r).1.window.userlist = r.1 := by
  unfold selected
  rcases r.2 with _ | info
  · rfl
  · exact slotUserActivated_userlist _ info

@[simp] theorem resetUIForUserListLogin_userlist (s : Sys) :
    s.resetUIForUserListLogin.1.window.userlist = s.window.userlist.userListLogin := by
  rw [← cancelRunning_userlist s]
  unfold resetUIForUserListLogin UserListWidget.userListLogin andThen
  dsimp only
  split
  · rename_i info hsel
    rw [slotUserActivated_userlist]
    exact (if_pos (Option.isSome_of_eq_some hsel)).symm
  · rename_i hsel
    have hnone : ((s.cancelRunning.1.window.userlist.setVisible true).setEnabled
      true).getCurrentSelected = none := hsel
    rw [selected_userlist, hnone]
    rfl

@[simp] theorem resetUIForManualLogin_userlist (s : Sys) :
    s.resetUIForManualLogin.1.window.userlist = s.window.userlist.manualLogin := by
  rw [← cancelRunning_userlist s]
  rfl

@[simp] theorem confirm_userlist (s : Sys) (r : PromptEdit × Option String) :
    (s.confirm r).1.window.userlist = s.window.userlist := by
  unfold confirm slotTextConfirmed
  rcases r.2 with _ | text
  · rfl
  · dsimp only
    split_ifs
    · rfl
    · exact startAuthUser_userlist _ _ _

theorem slotButtonClicked_moves (s : Sys) :
    s.window.userlist.Moves s.slotButtonClicked.1.window.userlist := by
  unfold slotButtonClicked
  rcases s.window.m_buttonType
  · exact resetUIForManualLogin_userlist s ▸ .manualLogin
  · rcases s.window.m_inputMode
    · exact resetUIForUserListLogin_userlist s ▸ .userListLogin
    · exact resetUIForManualLogin_userlist s ▸ .manualLogin

theorem slotReAuthClicked_moves (s : Sys) :
    s.window.userlist.Moves s.slotReAuthClicked.1.window.userlist := by
  unfold slotReAuthClicked
  split_ifs
  · exact resetUIForUserListLogin_userlist s ▸ .userListLogin
  · exact resetUIForManualLogin_userlist s ▸ .manualLogin

@[simp] theorem slotAuthenticationComplete_userlist (s : Sys) (success : Bool) :
    (s.slotAuthenticationComplete success).1.window.userlist = s.window.userlist := by
  unfold slotAuthenticationComplete
  split_ifs
  · rfl
  · exact startAuthUser_userlist _ _ _
  · rfl

theorem slotModelRowsRemoved_moves (s : Sys) (n : Nat) :
    s.window.userlist.Moves (s.slotModelRowsRemoved n).1.window.userlist := by
  unfold slotModelRowsRemoved
  dsimp only
  split_ifs
  · rw [resetUIForManualLogin_userlist]
    exact .manualLogin
  · exact .stays

/-! ## The signals of its rows -/

theorem slotRowsInserted_userlist (s : Sys) (rows : List UserInfo) (first last : Nat) :
    (s.slotRowsInserted rows first last).1.window.userlist =
      s.window.userlist.inserted rows first last := by
  unfold slotRowsInserted UserListWidget.inserted
  dsimp only
  split_ifs
  · exact selected_userlist _ _
  · rfl

theorem reselect_userlist (s : Sys) (reSelect : Bool) :
    (s.reselect reSelect).1.window.userlist = s.window.userlist.reselected reSelect := by
  unfold reselect UserListWidget.reselected
  split_ifs
  · rfl
  · exact selected_userlist _ _
  · exact resetUIForUserListLogin_userlist s

theorem slotRowsRemoved_userlist (s : Sys) (rows : List UserInfo) (first last : Nat) :
    (s.slotRowsRemoved rows first last).1.window.userlist =
      s.window.userlist.removed rows first last := by
  unfold slotRowsRemoved UserListWidget.removed andThen
  dsimp only
  rw [reselect_userlist]

end Sys

/-! ## Each step -/

/-- The event tells the user list of rows that have come or gone. -/
def Event.isListSignal : Event → Bool
  | .rowsInserted _ _ _ => true
  | .rowsRemoved _ _ _ => true
  | _ => false

/-- What any other event does to the list. -/
theorem step_moves {s t : Sys} {e : Event} {o : List Output} (he : e.isListSignal = false)
    (h : step s e = some (t, o)) : s.window.userlist.Moves t.window.userlist := by
  obtain ⟨-, rfl, -⟩ := step_does h
  cases e with
  | shown => exact .shown
  | selectUser row =>
    show s.window.userlist.Moves (s.selected _).1.window.userlist
    rw [Sys.selected_userlist]
    exact .selects row
  | pressReturn =>
    show s.window.userlist.Moves (s.confirm _).1.window.userlist
    rw [Sys.confirm_userlist]
    exact .stays
  | clickButton =>
    show s.window.userlist.Moves (s.confirm _).1.window.userlist
    rw [Sys.confirm_userlist]
    exact .stays
  | clickNotListAndCancel => exact s.slotButtonClicked_moves
  | clickReAuth => exact s.slotReAuthClicked_moves
  | autologinTimerExpired =>
    show s.window.userlist.Moves s.slotAutologinTimerExpired.1.window.userlist
    unfold Sys.slotAutologinTimerExpired
    split_ifs <;> exact .stays
  | showPrompt text type =>
    show s.window.userlist.Moves (s.slotShowprompt text type).window.userlist
    unfold Sys.slotShowprompt
    dsimp only
    split_ifs <;> exact .stays
  | authenticationComplete success =>
    show s.window.userlist.Moves (s.slotAuthenticationComplete success).1.window.userlist
    rw [Sys.slotAuthenticationComplete_userlist]
    exact .stays
  | modelRowsInserted n =>
    show s.window.userlist.Moves (s.slotModelRowsInserted n).window.userlist
    unfold Sys.slotModelRowsInserted
    dsimp only
    split_ifs <;> exact .stays
  | modelRowsRemoved n => exact s.slotModelRowsRemoved_moves n
  | rowsInserted rows first last => cases he
  | rowsRemoved rows first last => cases he
  | _ => exact .stays

/-- The constructor loads the list, and resets the window to one of its modes. -/
theorem init_userlist (prefs : Prefs) (users : List UserInfo) (autologinUserHint : String)
    (m_inputMode : EditInputMode) :
    let rows := users.filter fun info => !prefs.hiddenUsers.contains info.name
    let list := ({ m_filterModel := rows : UserListWidget }).loadUserList prefs.hiddenUsers
    (Sys.init prefs users autologinUserHint m_inputMode).window.userlist =
      if prefs.showUserList && 0 < rows.length then list.userListLogin else list.manualLogin := by
  intro rows list
  let s : Sys :=
    { window :=
        { m_filterModel_rowCount := rows.length
          m_inputMode := m_inputMode
          userlist := list
          m_noListButotnVisiable := prefs.noListButotnVisiable
          m_showUserList := prefs.showUserList }
      greeter := { autologinUserHint := autologinUserHint } }
  have hinit : Sys.init prefs users autologinUserHint m_inputMode =
      (if prefs.showUserList && 0 < rows.length then s.resetUIForUserListLogin
        else s.resetUIForManualLogin).1 := rfl
  rw [hinit]
  split_ifs
  · exact s.resetUIForUserListLogin_userlist
  · exact s.resetUIForManualLogin_userlist

end session_guard.greeter_login_window
