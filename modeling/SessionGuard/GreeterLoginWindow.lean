-- `GreeterLoginWindow`: the login window of the display manager. A user logs in
-- from the list or by name, and `AuthProxy` stands between the window and the
-- greeter of LightDM.
import SessionGuard.Machine
import SessionGuard.AuthDefine
import SessionGuard.PromptEdit
import SessionGuard.UserListWidget

open machine

namespace session_guard.greeter_login_window

open prompt_edit user_list_widget

/-! ## The window -/

inductive ButtonType
  | BUTTON_SWITCH_TO_MANUAL_LOGIN
  | BUTTON_RETURN
  deriving DecidableEq

inductive LoginMode
  | LOGIN_MODE_USER_LIST
  | LOGIN_MODE_MANUAL
  deriving DecidableEq

inductive EditInputMode
  | EDIT_INPUT_USER_NAME
  | EDIT_INPUT_PROMPT_RESPOND
  deriving DecidableEq

/-- `btn_notListAndCancel`. -/
structure ModeButton where
  text : String := ""
  isVisible : Bool := true
  isEnabled : Bool := true
  deriving DecidableEq

/-- The fields of `GreeterLoginWindow` and of its widgets that the login reads or
sets. The picture `none` of the avatar is the default one. -/
structure GreeterLoginWindow where
  /-- The number of rows of `m_filterModel`. -/
  m_filterModel_rowCount : Nat
  m_noListButotnVisiable : Bool := true
  m_showUserList : Bool := false
  m_loginMode : LoginMode := .LOGIN_MODE_USER_LIST
  m_buttonType : ButtonType := .BUTTON_SWITCH_TO_MANUAL_LOGIN
  m_inputMode : EditInputMode
  m_havePrompted : Bool := false
  m_session : String := ""
  userlist : UserListWidget
  promptEdit : PromptEdit := {}
  btn_notListAndCancel : ModeButton := {}
  btn_autologin_visible : Bool := true
  btn_reAuth_visible : Bool := true
  label_userName : String := ""
  label_tips : String := ""
  loginAvatar : Option String := none
  deriving DecidableEq

namespace GreeterLoginWindow

variable (w : GreeterLoginWindow)

def setTips (_type : MessageType) (text : String) : GreeterLoginWindow :=
  { w with label_tips := "<font color=white>" ++ text ++ "</font>" }

def switchToPromptEdit : GreeterLoginWindow :=
  { w with
    promptEdit := w.promptEdit.setVisible true
    btn_autologin_visible := false
    btn_reAuth_visible := false }

def switchToAutoLogin : GreeterLoginWindow :=
  { w with
    promptEdit := w.promptEdit.setVisible false
    btn_autologin_visible := true
    btn_reAuth_visible := false }

def switchToReAuthentication : GreeterLoginWindow :=
  { w with
    promptEdit := w.promptEdit.setVisible false
    btn_autologin_visible := false
    btn_reAuth_visible := true }

/-- `setCurrentAuthType(AUTH_TYPE_PASSWD)`, the one call of it. -/
def setCurrentAuthType : GreeterLoginWindow := { w with promptEdit := w.promptEdit.setVisible true }

end GreeterLoginWindow

/-! ## The window and the greeter -/

/-- The greeter of LightDM, as `AuthLightdm` asks it. -/
structure Greeter where
  autologinUserHint : String
  authenticationUser : String := ""
  inAuthentication : Bool := false
  isAuthenticated : Bool := false
  deriving DecidableEq

structure Sys where
  window : GreeterLoginWindow
  greeter : Greeter
  /-- Has `slotShowprompt` run since the latest `authenticate`? -/
  prompted : Bool := false
  deriving DecidableEq

/-- What the window calls. -/
inductive Output
  | authenticate (username : String)
  | cancelAuthentication
  | respond (text : String)
  | startSessionSync (session : String)
  deriving DecidableEq

/-- One call after the other. -/
def andThen (r : Sys × List Output) (f : Sys → Sys × List Output) : Sys × List Output :=
  ((f r.1).1, r.2 ++ (f r.1).2)

namespace Sys

variable (s : Sys)

/-- The first lines of each function that leaves an attempt. -/
def cancelRunning : Sys × List Output :=
  if s.greeter.inAuthentication then
    ({ s with greeter := { s.greeter with inAuthentication := false } }, [.cancelAuthentication])
  else (s, [])

def authenticate (username : String) : Sys × List Output :=
  ({ s with
      greeter := { s.greeter with
        authenticationUser := username
        inAuthentication := true
        isAuthenticated := false }
      prompted := false }, [.authenticate username])

def startAuthUser (username userIcon : String) : Sys × List Output :=
  andThen s.cancelRunning fun s =>
    let w := { s.window with
      m_havePrompted := false
      label_userName := username
      loginAvatar := some userIcon }
    if username = s.greeter.autologinUserHint then ({ s with window := w.switchToAutoLogin }, [])
    else
      let w := w.switchToPromptEdit
      let w := { w with promptEdit := w.promptEdit.reset.setEnabled false }
      { s with window := w }.authenticate username

def slotUserActivated (userInfo : UserInfo) : Sys × List Output :=
  startAuthUser { s with window := { s.window with label_tips := "" } } userInfo.name
    userInfo.imagePath

/-- A row of the user list is selected, and its signal reaches the window. -/
def selected (r : UserListWidget × Option UserInfo) : Sys × List Output :=
  let s1 := { s with window := { s.window with userlist := r.1 } }
  match r.2 with
  | none => (s1, [])
  | some info => s1.slotUserActivated info

def resetUIForUserListLogin : Sys × List Output :=
  andThen s.cancelRunning fun s =>
    let w := { s.window with
      m_buttonType := .BUTTON_SWITCH_TO_MANUAL_LOGIN
      btn_notListAndCancel := ⟨"login other user", s.window.m_noListButotnVisiable, true⟩
      loginAvatar := none
      label_userName := ""
      promptEdit := s.window.promptEdit.reset }
    let w := w.switchToPromptEdit
    let w := { w with
      label_tips := ""
      userlist := (w.userlist.setVisible true).setEnabled true
      m_loginMode := .LOGIN_MODE_USER_LIST }
    let s := { s with window := w.setCurrentAuthType }
    match s.window.userlist.getCurrentSelected with
    | some userinfo => s.slotUserActivated userinfo
    | none => s.selected (s.window.userlist.setCurrentRow 0)

def resetUIForManualLogin : Sys × List Output :=
  andThen s.cancelRunning fun s =>
    let w := { s.window with
      m_buttonType := .BUTTON_RETURN
      btn_notListAndCancel :=
        ⟨"Return", s.window.m_showUserList && 0 < s.window.userlist.userCount, true⟩
      loginAvatar := none
      label_userName := ""
      promptEdit := s.window.promptEdit.reset.setPlaceHolderText "Entry your name"
      m_inputMode := .EDIT_INPUT_USER_NAME }
    let w := { w.switchToPromptEdit with label_tips := "" }
    let w := w.setCurrentAuthType
    ({ s with window := { w with
        userlist := (w.userlist.setEnabled false).setVisible false
        m_loginMode := .LOGIN_MODE_MANUAL } }, [])

/-! ## The slots of the widgets -/

def slotTextConfirmed : Sys × List Output :=
  let text := s.window.promptEdit.getText
  if s.window.m_inputMode = .EDIT_INPUT_PROMPT_RESPOND then (s, [.respond text])
  else s.startAuthUser text (s.window.userlist.getIconByUserName text)

/-- `slotButtonClicked`, without its assertions. -/
def slotButtonClicked : Sys × List Output :=
  match s.window.m_buttonType with
  | .BUTTON_SWITCH_TO_MANUAL_LOGIN => s.resetUIForManualLogin
  | .BUTTON_RETURN =>
    match s.window.m_inputMode with
    | .EDIT_INPUT_USER_NAME => s.resetUIForUserListLogin
    | .EDIT_INPUT_PROMPT_RESPOND => s.resetUIForManualLogin

/-- The slot of `btn_reAuth`. -/
def slotReAuthClicked : Sys × List Output :=
  if s.window.m_loginMode = .LOGIN_MODE_USER_LIST then s.resetUIForUserListLogin
  else s.resetUIForManualLogin

/-- The slot of `btn_autologin`. -/
def slotAutologinClicked : Sys × List Output := s.authenticate s.greeter.autologinUserHint

/-- The slot of the greeter's `autologinTimerExpired`. -/
def slotAutologinTimerExpired : Sys × List Output :=
  if s.greeter.autologinUserHint.isEmpty then (s, [])
  else s.authenticate s.greeter.autologinUserHint

/-! ## The slots of the proxy -/

/-- The text goes through a C string, which ends at the first NUL. -/
def slotShowMessage (text : String) (type : MessageType) : Sys :=
  { s with window := s.window.setTips type (String.ofList (text.toList.takeWhile (· ≠ '\x00'))) }

def slotShowprompt (text : String) (type : PromptType) : Sys :=
  let w := s.window
  let w :=
    if w.m_loginMode = .LOGIN_MODE_MANUAL then
      { w with
        label_userName :=
          if s.greeter.authenticationUser ≠ w.label_userName then s.greeter.authenticationUser
          else w.label_userName
        m_buttonType := .BUTTON_RETURN
        btn_notListAndCancel := ⟨"Return", true, true⟩ }
    else w
  { s with
    window := { w with
      promptEdit := (w.promptEdit.reset.setPlaceHolderText text).setEchoMode
        (if type = .Secret then .Password else .Normal)
      m_inputMode := .EDIT_INPUT_PROMPT_RESPOND
      m_havePrompted := true }
    prompted := true }

def slotAuthenticationComplete (success : Bool) : Sys × List Output :=
  if success then (s, [.startSessionSync s.window.m_session])
  else if s.window.m_havePrompted then
    s.startAuthUser s.greeter.authenticationUser
      (s.window.userlist.getIconByUserName s.greeter.authenticationUser)
  else ({ s with window := s.window.switchToReAuthentication }, [])

/-! ## The slots of the user models -/

/-- The slot for `rowsInserted` of the window's own model, which has `n` rows
now. -/
def slotModelRowsInserted (n : Nat) : Sys :=
  let w := { s.window with m_filterModel_rowCount := n }
  { s with window :=
      if n = 1 && w.m_showUserList && w.m_loginMode = .LOGIN_MODE_MANUAL &&
          !s.greeter.isAuthenticated then
        { w with btn_notListAndCancel := { w.btn_notListAndCancel with isVisible := true } }
      else w }

/-- The slot for `rowsRemoved` of the window's own model. -/
def slotModelRowsRemoved (n : Nat) : Sys × List Output :=
  let s1 := { s with window := { s.window with m_filterModel_rowCount := n } }
  if n = 0 then s1.resetUIForManualLogin else (s1, [])

/-- `UserListWidget::slotRowsInserted`, where the rows of its model are these
now. -/
def slotRowsInserted (rows : List UserInfo) (first last : Nat) : Sys × List Output :=
  let u := { s.window.userlist with m_filterModel := rows }.insertRows first last
  let s1 := { s with window := { s.window with userlist := u } }
  if u.needsSelection then s1.selected (u.setCurrentRow 0) else (s1, [])

/-- The end of `UserListWidget::slotRowsRemoved`, when a new selection is needed: of
the first row, or the signal `sigRequestResetUI` resets the window. -/
def reselect (reSelect : Bool) : Sys × List Output :=
  if !reSelect then (s, [])
  else if 0 < s.window.userlist.userCount then s.selected (s.window.userlist.setCurrentRow 0)
  else s.resetUIForUserListLogin

/-- `UserListWidget::slotRowsRemoved`, where the rows of its model are these
now. -/
def slotRowsRemoved (rows : List UserInfo) (first last : Nat) : Sys × List Output :=
  let u := { s.window.userlist with m_filterModel := rows }.takeRows first last
  andThen (reselect { s with window := { s.window with userlist := u.1 } } u.2)
    fun s =>
      ({ s with window := { s.window with userlist := s.window.userlist.hideShortList } }, [])

end Sys

/-! ## The start -/

/-- What `KiranGreeterPrefs` says. -/
structure Prefs where
  isValid : Bool
  allow_manual_login : Bool
  hide_user_list : Bool
  hiddenUsers : List String := []

/-- Whether a login by name is allowed, and without settings it is. -/
def Prefs.noListButotnVisiable (prefs : Prefs) : Bool :=
  if prefs.isValid then prefs.allow_manual_login else true

/-- Whether the user list is shown. It must be when no login by name is allowed. -/
def Prefs.showUserList (prefs : Prefs) : Bool :=
  if prefs.isValid then if !prefs.allow_manual_login then true else !prefs.hide_user_list else true

/-- The settings show the list, and allow a login by name. -/
def samplePrefs : Prefs := { isValid := true, allow_manual_login := true, hide_user_list := false }

/-- `initSettings`. -/
def Sys.initSettings (s : Sys) (prefs : Prefs) : Sys × List Output :=
  let s := { s with window := { s.window with
    m_noListButotnVisiable := prefs.noListButotnVisiable
    m_showUserList := prefs.showUserList } }
  if s.window.m_showUserList && 0 < s.window.m_filterModel_rowCount then s.resetUIForUserListLogin
  else s.resetUIForManualLogin

/-- The window after its constructor, over the users of the display manager. What
`m_inputMode` holds at first is left open. -/
def Sys.init (prefs : Prefs) (users : List UserInfo) (autologinUserHint : String)
    (m_inputMode : EditInputMode) : Sys :=
  let rows := users.filter fun info => !prefs.hiddenUsers.contains info.name
  (Sys.initSettings
    { window :=
        { m_filterModel_rowCount := rows.length
          m_inputMode := m_inputMode
          userlist := { m_filterModel := rows : UserListWidget }.loadUserList prefs.hiddenUsers }
      greeter := { autologinUserHint := autologinUserHint } } prefs).1

/-! ## The events -/

inductive Event
  /-- The window is shown. -/
  | shown
  | selectSession (action : String)
  | selectUser (row : Nat)
  | type (text : String)
  | pressReturn
  | clickButton
  | clickNotListAndCancel
  | clickReAuth
  | clickAutologin
  | autologinTimerExpired
  | showPrompt (text : String) (type : PromptType)
  | showMessage (text : String) (type : MessageType)
  | authenticationComplete (success : Bool)
  /-- The greeter ends the authentication. The window hears of it later. -/
  | greeterEnds (isAuthenticated : Bool)
  | modelRowsInserted (n : Nat)
  | modelRowsRemoved (n : Nat)
  | rowsInserted (rows : List UserInfo) (first last : Nat)
  | rowsRemoved (rows : List UserInfo) (first last : Nat)

/-- The user confirms the text. -/
def Sys.confirm (s : Sys) (r : PromptEdit × Option String) : Sys × List Output :=
  let s1 := { s with window := { s.window with promptEdit := r.1 } }
  match r.2 with
  | none => (s1, [])
  | some _ => s1.slotTextConfirmed

def step : Step Sys Event Output
  | s, .shown =>
    some ({ s with window := { s.window with
      userlist := { s.window.userlist with windowVisible := true } } }, [])
  | s, .selectSession action =>
    some ({ s with window := { s.window with m_session := action } }, [])
  | s, .selectUser row => (s.window.userlist.select row).map s.selected
  | s, .type text =>
    (s.window.promptEdit.type text).map fun e =>
      ({ s with window := { s.window with promptEdit := e } }, [])
  | s, .pressReturn => s.window.promptEdit.pressReturn.map s.confirm
  | s, .clickButton => s.window.promptEdit.click.map s.confirm
  | s, .clickNotListAndCancel =>
    if s.window.btn_notListAndCancel.isVisible && s.window.btn_notListAndCancel.isEnabled then
      some s.slotButtonClicked
    else none
  | s, .clickReAuth => if s.window.btn_reAuth_visible then some s.slotReAuthClicked else none
  | s, .clickAutologin =>
    if s.window.btn_autologin_visible then some s.slotAutologinClicked else none
  | s, .autologinTimerExpired => some s.slotAutologinTimerExpired
  | s, .showPrompt text type => some (s.slotShowprompt text type, [])
  | s, .showMessage text type => some (s.slotShowMessage text type, [])
  | s, .authenticationComplete success => some (s.slotAuthenticationComplete success)
  | s, .greeterEnds isAuthenticated =>
    some ({ s with greeter := { s.greeter with
      inAuthentication := false
      isAuthenticated := isAuthenticated } }, [])
  | s, .modelRowsInserted n => some (s.slotModelRowsInserted n, [])
  | s, .modelRowsRemoved n => some (s.slotModelRowsRemoved n)
  | s, .rowsInserted rows first last => some (s.slotRowsInserted rows first last)
  | s, .rowsRemoved rows first last => some (s.slotRowsRemoved rows first last)

/-! ## What a step does -/

/-- The event can happen. -/
def Sys.takes (s : Sys) : Event → Prop
  | .selectUser row => s.window.userlist.select row = some (s.window.userlist.setCurrentRow row)
  | .type _ => s.window.promptEdit.takesKeys = true
  | .pressReturn => s.window.promptEdit.takesKeys = true
  | .clickButton => s.window.promptEdit.takesClicks = true
  | .clickNotListAndCancel => s.window.btn_notListAndCancel.isVisible = true
  | .clickReAuth => s.window.btn_reAuth_visible = true
  | .clickAutologin => s.window.btn_autologin_visible = true
  | _ => True

/-- What the event does where it can happen. -/
def Sys.does (s : Sys) : Event → Sys × List Output
  | .shown =>
    ({ s with window := { s.window with
      userlist := { s.window.userlist with windowVisible := true } } }, [])
  | .selectSession action => ({ s with window := { s.window with m_session := action } }, [])
  | .selectUser row => s.selected (s.window.userlist.setCurrentRow row)
  | .type text =>
    ({ s with window := { s.window with promptEdit := s.window.promptEdit.setText text } }, [])
  | .pressReturn => s.confirm s.window.promptEdit.slotConfirm
  | .clickButton => s.confirm s.window.promptEdit.slotConfirm
  | .clickNotListAndCancel => s.slotButtonClicked
  | .clickReAuth => s.slotReAuthClicked
  | .clickAutologin => s.slotAutologinClicked
  | .autologinTimerExpired => s.slotAutologinTimerExpired
  | .showPrompt text type => (s.slotShowprompt text type, [])
  | .showMessage text type => (s.slotShowMessage text type, [])
  | .authenticationComplete success => s.slotAuthenticationComplete success
  | .greeterEnds isAuthenticated =>
    ({ s with greeter := { s.greeter with
      inAuthentication := false
      isAuthenticated := isAuthenticated } }, [])
  | .modelRowsInserted n => (s.slotModelRowsInserted n, [])
  | .modelRowsRemoved n => s.slotModelRowsRemoved n
  | .rowsInserted rows first last => s.slotRowsInserted rows first last
  | .rowsRemoved rows first last => s.slotRowsRemoved rows first last

/-- A step happens where it can, and does what the event does. -/
theorem step_does {s t : Sys} {e : Event} {o : List Output} (h : step s e = some (t, o)) :
    s.takes e ∧ t = (s.does e).1 ∧ o = (s.does e).2 := by
  have hdoes : ∀ {r : Sys × List Output}, r = (t, o) → t = r.1 ∧ o = r.2 := by
    rintro r rfl
    exact ⟨rfl, rfl⟩
  cases e with
  | selectUser row =>
    obtain ⟨r, hr, heq⟩ := Option.map_eq_some_iff.mp h
    have hsame : r = s.window.userlist.setCurrentRow row := by
      unfold UserListWidget.select at hr
      split_ifs at hr
      exact (Option.some.inj hr).symm
    subst hsame
    exact ⟨hr, hdoes heq⟩
  | type text =>
    obtain ⟨e, he, heq⟩ := Option.map_eq_some_iff.mp h
    unfold PromptEdit.type at he
    split_ifs at he with hkeys
    cases he
    exact ⟨hkeys, hdoes heq⟩
  | pressReturn =>
    obtain ⟨r, hr, heq⟩ := Option.map_eq_some_iff.mp h
    unfold PromptEdit.pressReturn at hr
    split_ifs at hr with hkeys
    cases hr
    exact ⟨hkeys, hdoes heq⟩
  | clickButton =>
    obtain ⟨r, hr, heq⟩ := Option.map_eq_some_iff.mp h
    unfold PromptEdit.click at hr
    split_ifs at hr with hclicks
    cases hr
    exact ⟨hclicks, hdoes heq⟩
  | clickNotListAndCancel =>
    simp only [step] at h
    split_ifs at h with hclick
    exact ⟨(Bool.and_eq_true_iff.mp hclick).1, hdoes (Option.some.inj h)⟩
  | clickReAuth =>
    simp only [step] at h
    split_ifs at h with hclick
    exact ⟨hclick, hdoes (Option.some.inj h)⟩
  | clickAutologin =>
    simp only [step] at h
    split_ifs at h with hclick
    exact ⟨hclick, hdoes (Option.some.inj h)⟩
  | _ => exact ⟨trivial, hdoes (Option.some.inj h)⟩

end session_guard.greeter_login_window
