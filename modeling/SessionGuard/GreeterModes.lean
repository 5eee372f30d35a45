-- The modes of the login window: what its assertions, the policy of the login by
-- name and the two user models need of it, and how each event changes that.
import SessionGuard.GreeterLoginWindow

open machine

namespace session_guard.greeter_login_window

open prompt_edit user_list_widget

/-! ## The modes -/

/-- What a window is about to do on a click, and the counts of users that it reads. -/
structure Modes where
  noListButotnVisiable : Bool
  showUserList : Bool
  loginMode : LoginMode
  buttonType : ButtonType
  inputMode : EditInputMode
  /-- `btn_notListAndCancel` is visible. -/
  buttonVisible : Bool
  /-- The user list is enabled. -/
  listEnabled : Bool
  rowCount : Nat
  userCount : Nat
  deriving DecidableEq

namespace Modes

variable (m : Modes)

/-- What `resetUIForUserListLogin` does. -/
def userListLogin : Modes :=
  { m with
    loginMode := .LOGIN_MODE_USER_LIST
    buttonType := .BUTTON_SWITCH_TO_MANUAL_LOGIN
    buttonVisible := m.noListButotnVisiable
    listEnabled := true }

/-- What `resetUIForManualLogin` does. -/
def manualLogin : Modes :=
  { m with
    loginMode := .LOGIN_MODE_MANUAL
    buttonType := .BUTTON_RETURN
    inputMode := .EDIT_INPUT_USER_NAME
    buttonVisible := m.showUserList && 0 < m.userCount
    listEnabled := false }

/-- What `slotShowprompt` does. -/
def prompted : Modes :=
  if m.loginMode = .LOGIN_MODE_MANUAL then
    { m with
      buttonType := .BUTTON_RETURN
      buttonVisible := true
      inputMode := .EDIT_INPUT_PROMPT_RESPOND }
  else { m with inputMode := .EDIT_INPUT_PROMPT_RESPOND }

/-- What `slotButtonClicked` does. -/
def buttonClicked : Modes :=
  match m.buttonType, m.inputMode with
  | .BUTTON_SWITCH_TO_MANUAL_LOGIN, _ => m.manualLogin
  | .BUTTON_RETURN, .EDIT_INPUT_USER_NAME => m.userListLogin
  | .BUTTON_RETURN, .EDIT_INPUT_PROMPT_RESPOND => m.manualLogin

/-- What the slot of `btn_reAuth` does. -/
def reAuthClicked : Modes :=
  if m.loginMode = .LOGIN_MODE_USER_LIST then m.userListLogin else m.manualLogin

/-- What the slot for `rowsInserted` of the window's model does, when that has `n` rows. -/
def modelInserted (isAuthenticated : Bool) (n : Nat) : Modes :=
  { m with
    rowCount := n
    buttonVisible := m.buttonVisible ||
      (n = 1 && m.showUserList && m.loginMode = .LOGIN_MODE_MANUAL && !isAuthenticated) }

/-- What the slot for `rowsRemoved` of the window's model does. -/
def modelRemoved (n : Nat) : Modes :=
  if n = 0 then manualLogin { m with rowCount := n } else { m with rowCount := n }

/-- What `UserListWidget::slotRowsRemoved` does, when it leaves `count` users and says whether
the selected one is gone. -/
def listRemoved (reSelect : Bool) (count : Nat) : Modes :=
  if reSelect && count = 0 then userListLogin { m with userCount := count }
  else { m with userCount := count }

theorem listRemoved_userCount (reSelect : Bool) (count : Nat) :
    (m.listRemoved reSelect count).userCount = count := by
  unfold listRemoved
  split_ifs <;> rfl

end Modes

namespace Sys

/-- The modes of the window. -/
def modes (s : Sys) : Modes where
  noListButotnVisiable := s.window.m_noListButotnVisiable
  showUserList := s.window.m_showUserList
  loginMode := s.window.m_loginMode
  buttonType := s.window.m_buttonType
  inputMode := s.window.m_inputMode
  buttonVisible := s.window.btn_notListAndCancel.isVisible
  listEnabled := s.window.userlist.isEnabled
  rowCount := s.window.m_filterModel_rowCount
  userCount := s.window.userlist.userCount

/-- The user list, after `slotRowsRemoved` has taken its rows, and whether it needs a new
selection. -/
def taken (s : Sys) (rows : List UserInfo) (first last : Nat) : UserListWidget × Bool :=
  { s.window.userlist with m_filterModel := rows }.takeRows first last

/-- The modes after an event. Events that are not named leave them. -/
def modesAfter (s : Sys) : Event → Modes
  | .clickNotListAndCancel => s.modes.buttonClicked
  | .clickReAuth => s.modes.reAuthClicked
  | .showPrompt _ _ => s.modes.prompted
  | .modelRowsInserted n => s.modes.modelInserted s.greeter.isAuthenticated n
  | .modelRowsRemoved n => s.modes.modelRemoved n
  | .rowsInserted _ first last =>
    { s.modes with userCount := s.modes.userCount + (last + 1 - first) }
  | .rowsRemoved rows first last =>
    let u := s.taken rows first last
    s.modes.listRemoved u.2 u.1.userCount
  | _ => s.modes

/-! ## What each function does to the modes -/

@[simp] theorem cancelRunning_modes (s : Sys) : s.cancelRunning.1.modes = s.modes := by
  unfold cancelRunning
  split_ifs <;> rfl

@[simp] theorem startAuthUser_modes (s : Sys) (username userIcon : String) :
    (s.startAuthUser username userIcon).1.modes = s.modes := by
  rw [← cancelRunning_modes s]
  unfold startAuthUser andThen
  dsimp only
  split_ifs <;> rfl

@[simp] theorem slotUserActivated_modes (s : Sys) (info : UserInfo) :
    (s.slotUserActivated info).1.modes = s.modes := by
  unfold slotUserActivated
  rw [startAuthUser_modes]
  rfl

/-- The modes with the counts and flags of another user list. -/
def modesWithList (s : Sys) (u : UserListWidget) : Modes :=
  { s.modes with listEnabled := u.isEnabled, userCount := u.userCount }

@[simp] theorem selected_modes (s : Sys) (r : UserListWidget × Option UserInfo) :
    (s.selected r).1.modes = s.modesWithList r.1 := by
  unfold selected
  rcases r.2 with _ | info
  · rfl
  · dsimp only
    rw [slotUserActivated_modes]
    rfl

end Sys

theorem setCurrentRow_modes (s : Sys) (u : UserListWidget) (idx : Nat) :
    s.modesWithList (u.setCurrentRow idx).1 = s.modesWithList u := by
  unfold UserListWidget.setCurrentRow
  split_ifs
  · rfl
  · split <;> rfl

namespace Sys

@[simp] theorem resetUIForUserListLogin_modes (s : Sys) :
    s.resetUIForUserListLogin.1.modes = s.modes.userListLogin := by
  rw [← cancelRunning_modes s]
  unfold resetUIForUserListLogin andThen
  dsimp only
  split
  · rw [slotUserActivated_modes]
    rfl
  · rw [selected_modes, setCurrentRow_modes]
    rfl

@[simp] theorem resetUIForManualLogin_modes (s : Sys) :
    s.resetUIForManualLogin.1.modes = s.modes.manualLogin := by
  rw [← cancelRunning_modes s]
  rfl

@[simp] theorem slotTextConfirmed_modes (s : Sys) : s.slotTextConfirmed.1.modes = s.modes := by
  unfold slotTextConfirmed
  dsimp only
  split_ifs
  · rfl
  · rw [startAuthUser_modes]

@[simp] theorem confirm_modes (s : Sys) (r : PromptEdit × Option String) :
    (s.confirm r).1.modes = s.modes := by
  unfold confirm
  rcases r.2 with _ | text
  · rfl
  · exact slotTextConfirmed_modes _

@[simp] theorem slotButtonClicked_modes (s : Sys) :
    s.slotButtonClicked.1.modes = s.modes.buttonClicked := by
  unfold slotButtonClicked Modes.buttonClicked
  rcases hb : s.window.m_buttonType
  · rw [resetUIForManualLogin_modes]
    simp only [modes, hb]
  · rcases hi : s.window.m_inputMode
    · rw [resetUIForUserListLogin_modes]
      simp only [modes, hb, hi]
    · rw [resetUIForManualLogin_modes]
      simp only [modes, hb, hi]

@[simp] theorem slotReAuthClicked_modes (s : Sys) :
    s.slotReAuthClicked.1.modes = s.modes.reAuthClicked := by
  unfold slotReAuthClicked Modes.reAuthClicked
  by_cases hm : s.window.m_loginMode = .LOGIN_MODE_USER_LIST
  · rw [if_pos hm, resetUIForUserListLogin_modes, if_pos (show s.modes.loginMode = _ from hm)]
  · rw [if_neg hm, resetUIForManualLogin_modes, if_neg (show ¬ s.modes.loginMode = _ from hm)]

@[simp] theorem slotShowprompt_modes (s : Sys) (text : String) (type : PromptType) :
    (s.slotShowprompt text type).modes = s.modes.prompted := by
  unfold slotShowprompt Modes.prompted
  by_cases hm : s.window.m_loginMode = .LOGIN_MODE_MANUAL
  · rw [if_pos (show s.modes.loginMode = _ from hm)]
    simp only [if_pos hm]
    rfl
  · rw [if_neg (show ¬ s.modes.loginMode = _ from hm)]
    simp only [if_neg hm]
    rfl

@[simp] theorem slotAuthenticationComplete_modes (s : Sys) (success : Bool) :
    (s.slotAuthenticationComplete success).1.modes = s.modes := by
  unfold slotAuthenticationComplete
  split_ifs
  · rfl
  · exact startAuthUser_modes _ _ _
  · rfl

@[simp] theorem slotModelRowsInserted_modes (s : Sys) (n : Nat) :
    (s.slotModelRowsInserted n).modes = s.modes.modelInserted s.greeter.isAuthenticated n := by
  unfold slotModelRowsInserted Modes.modelInserted
  dsimp only
  generalize hshow : (decide (n = 1) && s.window.m_showUserList &&
    decide (s.window.m_loginMode = .LOGIN_MODE_MANUAL) && !s.greeter.isAuthenticated) = shown
  have hmodes : (decide (n = 1) && s.modes.showUserList &&
    decide (s.modes.loginMode = .LOGIN_MODE_MANUAL) && !s.greeter.isAuthenticated) = shown := hshow
  rw [hmodes]
  cases shown with
  | true =>
    rw [if_pos rfl, Bool.or_true]
    rfl
  | false =>
    rw [if_neg Bool.false_ne_true, Bool.or_false]
    rfl

@[simp] theorem slotModelRowsRemoved_modes (s : Sys) (n : Nat) :
    (s.slotModelRowsRemoved n).1.modes = s.modes.modelRemoved n := by
  unfold slotModelRowsRemoved Modes.modelRemoved
  dsimp only
  split_ifs
  · rw [resetUIForManualLogin_modes]
    rfl
  · rfl

end Sys

/-! ## A user is activated -/

/-- A selection activates the user who was not selected. -/
theorem selected_activates {P : Sys → Prop}
    (hP : ∀ (s : Sys) info, P (s.slotUserActivated info).1) {s : Sys}
    {r : UserListWidget × Option UserInfo}
    (h : r.2.isSome = true ∨ P { s with window := { s.window with userlist := r.1 } }) :
    P (s.selected r).1 := by
  unfold Sys.selected
  rcases hr : r.2 with _ | info
  · rcases h with h | h
    · simp [hr] at h
    · exact h
  · exact hP _ info

/-- The list mode activates a user when there is one. -/
theorem resetUIForUserListLogin_activates {P : Sys → Prop}
    (hP : ∀ (s : Sys) info, P (s.slotUserActivated info).1) {s : Sys}
    (h : s.window.userlist.items ≠ []) : P s.resetUIForUserListLogin.1 := by
  have hitems : s.cancelRunning.1.window.userlist.items ≠ [] := by
    unfold Sys.cancelRunning
    split_ifs <;> exact h
  unfold Sys.resetUIForUserListLogin andThen
  generalize s.cancelRunning = c at hitems ⊢
  dsimp only
  split
  · exact hP _ _
  · rename_i hsel
    rcases UserListWidget.setCurrentRow_zero
      (w := (c.1.window.userlist.setVisible true).setEnabled true) hitems with hsome | hsome
    · exact absurd (hsel.symm ▸ hsome) (by simp)
    · exact selected_activates hP (Or.inl hsome)

/-! ## The rows of the user list -/

theorem insertRows_modes (u : UserListWidget) (first last : Nat) :
    (u.insertRows first last).userCount = u.userCount + (last + 1 - first) ∧
      (u.insertRows first last).isEnabled = u.isEnabled := by
  have hfold : ∀ (rows : List Nat) (w : UserListWidget),
      (rows.foldl (fun w i => w.insertItem i (w.getUserInfoFromModel first)) w).userCount =
          w.userCount + rows.length ∧
        (rows.foldl (fun w i => w.insertItem i (w.getUserInfoFromModel first)) w).isEnabled =
          w.isEnabled := by
    intro rows
    induction rows with
    | nil => exact fun w => ⟨rfl, rfl⟩
    | cons i rows ih =>
      intro w
      obtain ⟨hcount, henabled⟩ := ih (w.insertItem i (w.getUserInfoFromModel first))
      have hone : (w.insertItem i (w.getUserInfoFromModel first)).userCount = w.userCount + 1 := by
        simp only [UserListWidget.insertItem, UserListWidget.userCount, List.length_append,
          List.length_take, List.length_drop, List.length_singleton]
        omega
      rw [List.foldl_cons, hcount, henabled, hone, List.length_cons]
      exact ⟨by omega, rfl⟩
  have := hfold ((List.range (last + 1 - first)).map (first + ·)) u
  rwa [List.length_map, List.length_range] at this

/-- One turn of the loop of `takeRows`. -/
def takeRow (w : UserListWidget × Bool) (i : Nat) : UserListWidget × Bool :=
  (w.1.takeItem i, w.2 || (w.1.isEnabled && w.1.selected = some i))

theorem takeRows_eq (u : UserListWidget) (first last : Nat) :
    u.takeRows first last =
      ((List.range (last + 1 - first)).map (first + ·)).reverse.foldl takeRow (u, false) := rfl

/-- The loop takes the last of the rows first. -/
theorem foldl_rows_succ {α : Type*} (f : α → Nat → α) (a : α) (first count : Nat) :
    ((List.range (count + 1)).map (first + ·)).reverse.foldl f a =
      ((List.range count).map (first + ·)).reverse.foldl f (f a (first + count)) := by
  rw [List.range_succ, List.map_append, List.map_singleton, List.reverse_append,
    List.reverse_singleton, List.singleton_append, List.foldl_cons]

/-- Only an enabled list asks for a new selection, and it stays enabled. -/
theorem takeRows_enabled (u : UserListWidget) (first last : Nat) :
    (u.takeRows first last).1.isEnabled = u.isEnabled ∧
      ((u.takeRows first last).2 = true → u.isEnabled = true) := by
  have hfold : ∀ (rows : List Nat) (w : UserListWidget × Bool), w.1.isEnabled = u.isEnabled →
      (w.2 = true → u.isEnabled = true) →
      (rows.foldl takeRow w).1.isEnabled = u.isEnabled ∧
        ((rows.foldl takeRow w).2 = true → u.isEnabled = true) := by
    intro rows
    induction rows with
    | nil => exact fun w h1 h2 => ⟨h1, h2⟩
    | cons i rows ih =>
      intro w h1 h2
      apply ih
      · exact h1
      · intro h
        rcases Bool.or_eq_true_iff.mp h with h | h
        · exact h2 h
        · exact h1 ▸ (Bool.and_eq_true_iff.mp h).1
  rw [takeRows_eq]
  apply hfold
  · rfl
  · simp

/-- The loop of a removal takes off the items from `first` to `last`. -/
theorem takeRows_lists (u : UserListWidget) {first last : Nat} (hfirst : first ≤ last)
    (hlast : last < u.items.length) :
    (u.takeRows first last).1.m_filterModel = u.m_filterModel ∧
      (u.takeRows first last).1.items = u.items.take first ++ u.items.drop (last + 1) := by
  have hfold : ∀ (count : Nat) (w : UserListWidget × Bool), first + count ≤ w.1.items.length →
      let w1 := ((List.range count).map (first + ·)).reverse.foldl takeRow w
      w1.1.m_filterModel = w.1.m_filterModel ∧
        w1.1.items = w.1.items.take first ++ w.1.items.drop (first + count) := by
    intro count
    induction count with
    | zero => exact fun w _ => ⟨rfl, by simp⟩
    | succ count ih =>
      intro w hw
      have htake : (takeRow w (first + count)).1.items =
          w.1.items.take (first + count) ++ w.1.items.drop (first + count + 1) :=
        List.eraseIdx_eq_take_drop_succ _ _
      have hlen : (w.1.items.take (first + count)).length = first + count :=
        List.length_take_of_le (by omega)
      obtain ⟨hrows, hitems⟩ := ih (takeRow w (first + count)) (by
        rw [htake, List.length_append, hlen]
        omega)
      rw [foldl_rows_succ]
      refine ⟨hrows, ?_⟩
      rw [hitems, htake, List.drop_left' hlen, List.take_append_of_le_length (by omega),
        List.take_take, Nat.min_eq_left (by omega)]
      rfl
  have hcount : first + (last + 1 - first) = last + 1 := by omega
  rw [takeRows_eq]
  have := hfold (last + 1 - first) (u, false) (by rw [hcount]; exact hlast)
  rwa [hcount] at this

/-- Rows that exist are taken one by one from the last on. -/
theorem takeRows_userCount (u : UserListWidget) {first last : Nat} (hfirst : first ≤ last)
    (hlast : last < u.userCount) :
    (u.takeRows first last).1.userCount + (last + 1 - first) = u.userCount := by
  have hitems := (takeRows_lists u hfirst hlast).2
  unfold UserListWidget.userCount at *
  rw [hitems, List.length_append, List.length_take, List.length_drop]
  omega

namespace Sys

@[simp] theorem slotRowsInserted_modes (s : Sys) (rows : List UserInfo) (first last : Nat) :
    (s.slotRowsInserted rows first last).1.modes =
      { s.modes with userCount := s.modes.userCount + (last + 1 - first) } := by
  obtain ⟨hcount, henabled⟩ :=
    insertRows_modes { s.window.userlist with m_filterModel := rows } first last
  have hmodes : s.modesWithList ({ s.window.userlist with m_filterModel := rows }.insertRows
      first last) = { s.modes with userCount := s.modes.userCount + (last + 1 - first) } := by
    unfold modesWithList
    rw [hcount, henabled]
    rfl
  unfold slotRowsInserted
  dsimp only
  split_ifs
  · rw [selected_modes, setCurrentRow_modes]
    exact hmodes
  · exact hmodes

@[simp] theorem slotRowsRemoved_modes (s : Sys) (rows : List UserInfo) (first last : Nat) :
    (s.slotRowsRemoved rows first last).1.modes =
      s.modes.listRemoved (s.taken rows first last).2 (s.taken rows first last).1.userCount := by
  have henabled := (takeRows_enabled { s.window.userlist with m_filterModel := rows } first last).1
  have hhide : ∀ s : Sys,
      modes { s with window := { s.window with userlist := s.window.userlist.hideShortList } } =
        s.modes := fun s => rfl
  unfold slotRowsRemoved andThen
  dsimp only
  rw [hhide]
  unfold taken at *
  generalize { s.window.userlist with m_filterModel := rows }.takeRows first last = u at henabled ⊢
  have hmodes : modes { s with window := { s.window with userlist := u.1 } } =
      { s.modes with userCount := u.1.userCount } := by
    unfold modes
    simp only [henabled]
  unfold reselect Modes.listRemoved
  cases u.2 with
  | false => exact hmodes
  | true =>
    simp only [Bool.not_true, Bool.false_eq_true, if_false, Bool.true_and, decide_eq_true_eq]
    by_cases hcount : 0 < u.1.userCount
    · rw [if_pos hcount, if_neg (by omega), selected_modes, setCurrentRow_modes]
      exact hmodes
    · rw [if_neg hcount, if_pos (by omega), resetUIForUserListLogin_modes, hmodes]

end Sys

/-! ## Each step -/

/-- What each event does to the modes. -/
theorem step_modes {s t : Sys} {e : Event} {o : List Output} (h : step s e = some (t, o)) :
    t.modes = s.modesAfter e := by
  obtain ⟨-, rfl, -⟩ := step_does h
  cases e with
  | selectUser row =>
    show (s.selected _).1.modes = _
    rw [Sys.selected_modes, setCurrentRow_modes]
    rfl
  | pressReturn => exact s.confirm_modes _
  | clickButton => exact s.confirm_modes _
  | clickNotListAndCancel => exact s.slotButtonClicked_modes
  | clickReAuth => exact s.slotReAuthClicked_modes
  | autologinTimerExpired =>
    show s.slotAutologinTimerExpired.1.modes = _
    unfold Sys.slotAutologinTimerExpired
    split_ifs <;> rfl
  | showPrompt text type => exact s.slotShowprompt_modes text type
  | authenticationComplete success => exact s.slotAuthenticationComplete_modes success
  | modelRowsInserted n => exact s.slotModelRowsInserted_modes n
  | modelRowsRemoved n => exact s.slotModelRowsRemoved_modes n
  | rowsInserted rows first last => exact s.slotRowsInserted_modes rows first last
  | rowsRemoved rows first last => exact s.slotRowsRemoved_modes rows first last
  | _ => rfl

end session_guard.greeter_login_window
