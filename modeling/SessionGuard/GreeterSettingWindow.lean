-- `GreeterSettingWindow`: the settings of the login window in the control panel. A page
-- loads its settings from the backend into widgets, and saves what the widgets hold.
import SessionGuard.Machine
import Mathlib.Algebra.GroupWithZero.Nat

open machine

namespace session_guard.greeter_setting_window

/-! ## The backend -/

/-- The properties of `KiranGreeterPrefs` that the general page shows. -/
structure GeneralPrefs where
  background : String
  hide_user_list : Bool
  allow_manual_login : Bool
  scale_mode : UInt16
  scale_factor : UInt16
  deriving DecidableEq

/-- The properties that the page of the automatic login shows. -/
structure AutoLoginPrefs where
  autologin_user : String
  autologin_timeout : UInt64
  deriving DecidableEq

structure KiranGreeterPrefs where
  general : GeneralPrefs
  autologin : AutoLoginPrefs
  deriving DecidableEq

/-- The D-Bus calls that change a property. -/
inductive Setter
  | SetBackground (file_path : String)
  | SetHideUserList (hide : Bool)
  | SetAllowManualLogin (allow : Bool)
  | SetScaleMode (mode factor : UInt16)
  | SetAutologinUser (user_name : String)
  | SetAutologinTimeout (seconds : UInt64)
  deriving DecidableEq

/-- What the backend holds after a call of the daemon that succeeds: the value that was set. -/
def KiranGreeterPrefs.set (p : KiranGreeterPrefs) : Setter → KiranGreeterPrefs
  | .SetBackground file_path => { p with general := { p.general with background := file_path } }
  | .SetHideUserList hide => { p with general := { p.general with hide_user_list := hide } }
  | .SetAllowManualLogin allow =>
    { p with general := { p.general with allow_manual_login := allow } }
  | .SetScaleMode mode factor =>
    { p with general := { p.general with scale_mode := mode, scale_factor := factor } }
  | .SetAutologinUser user_name =>
    { p with autologin := { p.autologin with autologin_user := user_name } }
  | .SetAutologinTimeout seconds =>
    { p with autologin := { p.autologin with autologin_timeout := seconds } }

/-! ## The settings -/

structure GeneralSetting where
  background : String
  hideUserList : Bool
  allowManualLogin : Bool
  scaleMode : UInt64
  scaleFactor : UInt64
  deriving DecidableEq

structure AutoLoginSetting where
  autoLoginUser : String
  autoLoginTimeout : UInt64
  deriving DecidableEq

structure GreeterSettingInfo where
  appearanceInfo : GeneralSetting
  autoLoginInfo : AutoLoginSetting
  deriving DecidableEq

/-! ## The widgets -/

/-- `QComboBox`, where the index `none` is -1. The items are the numbers of its data, or its
texts. -/
structure ComboBox (α : Type) where
  items : List α
  currentIndex : Option Nat

namespace ComboBox

variable {α : Type} (c : ComboBox α)

/-- The first item that is added gets the current one. -/
def ofItems (items : List α) : ComboBox α :=
  { items := items, currentIndex := if items.isEmpty then none else some 0 }

/-- `findData` and `findText`. -/
def find [DecidableEq α] (value : α) : Option Nat := c.items.findIdx? (· = value)

def itemData (idx : Option Nat) : Option α := idx.bind (c.items[·]?)

def setCurrentIndex (idx : Option Nat) : ComboBox α := { c with currentIndex := idx }

/-- `currentData` and `currentText`. -/
def current : Option α := c.itemData c.currentIndex

/-- `setCurrentText` of a box that is not editable. -/
def setCurrentText [DecidableEq α] (text : α) : ComboBox α :=
  match c.find text with
  | none => c
  | some idx => c.setCurrentIndex (some idx)

end ComboBox

/-- `QString::number`. -/
def number (n : UInt64) : String := n.toNat.repr

def withoutPlus : List Char → List Char
  | '+' :: digits => digits
  | digits => digits

/-- `QString::toUInt`, which gives 0 for a text that is no number below 2^32. No blank gets past
the validator of the text. -/
def toUInt (text : String) : UInt32 :=
  let digits := withoutPlus text.toList
  let n := Nat.ofDigitChars 10 digits 0
  if !digits.isEmpty && digits.all Char.isDigit && n < 2 ^ 32 then UInt32.ofNat n else 0

/-! ## What is not here -/

/-- The constants of `GreeterScalingMode`, the file that the link `DEFAULT_BACKGROUND` stands for
when it is one, and the widget `KiranImageSelector`. -/
structure Env (σ : Type) where
  GREETER_SCALING_MODE_AUTO : UInt32
  GREETER_SCALING_MODE_MANUAL : UInt32
  GREETER_SCALING_MODE_DISABLE : UInt32
  readLink : Option String
  imageList : σ → List String
  addImage : σ → String → σ
  setSelectedImage : σ → String → σ
  selectedImage : σ → String

/-- An image that is added is in the list, and an image of the list can be selected. -/
structure Env.Lawful {σ : Type} (env : Env σ) : Prop where
  mem_addImage : ∀ s image, image ∈ env.imageList (env.addImage s image)
  selected : ∀ s image, image ∈ env.imageList s →
    env.selectedImage (env.setSelectedImage s image) = image

def DEFAULT_BACKGROUND : String := "/usr/share/backgrounds/default.jpg"

variable {σ : Type}

/-- The data of `m_comboScaleMode`. -/
def Env.scaleModes (env : Env σ) : List UInt64 :=
  [env.GREETER_SCALING_MODE_AUTO.toUInt64, env.GREETER_SCALING_MODE_MANUAL.toUInt64,
    env.GREETER_SCALING_MODE_DISABLE.toUInt64]

/-- The data of `m_comboScaleFactor`. -/
def scaleFactors : List UInt64 := [1, 2]

/-- An image selector: its images, and the one that is selected. -/
structure Images where
  list : List String
  selected : String

/-- The modes are 0, 1 and 2, and the default background is no link. -/
def sampleEnv : Env Images where
  GREETER_SCALING_MODE_AUTO := 0
  GREETER_SCALING_MODE_MANUAL := 1
  GREETER_SCALING_MODE_DISABLE := 2
  readLink := none
  imageList := Images.list
  addImage images image := { images with list := images.list ++ [image] }
  setSelectedImage images image :=
    if image ∈ images.list then { images with selected := image } else images
  selectedImage := Images.selected

theorem sampleEnv_lawful : sampleEnv.Lawful where
  mem_addImage images image := List.mem_append_right _ List.mem_cons_self
  selected images image h := by
    have hmem : image ∈ images.list := h
    show (if image ∈ images.list then { images with selected := image } else images).selected = _
    rw [if_pos hmem]

/-- The items that `initUserComboBox` adds: the users whose name and icon could be read, or none
at all when the users or the icon of root could not. -/
def initUserComboBox (objVector : Option (List (Option String))) (rootIconFile : Bool) :
    List String :=
  match objVector with
  | none => []
  | some objVector => if rootIconFile then objVector.filterMap id ++ ["root", ""] else []

/-! ## The window -/

inductive SwitchButton
  | m_enableManualSwitch
  | m_showUserListSwitch
  deriving DecidableEq

def SwitchButton.other : SwitchButton → SwitchButton
  | .m_enableManualSwitch => .m_showUserListSwitch
  | .m_showUserListSwitch => .m_enableManualSwitch

inductive HoverTipsTypeEnum
  | HOVE_TIPS_SUC
  | HOVE_TIPS_INFO
  | HOVE_TIPS_WARNING
  | HOVE_TIPS_ERR
  deriving DecidableEq

inductive Output
  /-- `KiranMessageBox::message`, with the buttons Save and Discard. -/
  | message (title text : String)
  | calls (c : Setter)
  | tips (typeEnum : HoverTipsTypeEnum) (msg : String)
  deriving DecidableEq

/-- The fields of `GreeterSettingWindow`, and what its widgets hold. -/
structure GreeterSettingWindow (σ : Type) where
  m_origSettingInfo : GreeterSettingInfo
  m_imageSelector : σ
  m_comboScaleMode : ComboBox UInt64
  m_comboScaleFactor : ComboBox UInt64
  m_comboScaleFactor_isEnabled : Bool := true
  m_enableManualSwitch : Bool := false
  m_showUserListSwitch : Bool := false
  m_comboAutoLoginUser : ComboBox String
  m_editAutoLoginDelay : String := ""

namespace GreeterSettingWindow

variable (env : Env σ) (w : GreeterSettingWindow σ)

def isChecked : SwitchButton → Bool
  | .m_enableManualSwitch => w.m_enableManualSwitch
  | .m_showUserListSwitch => w.m_showUserListSwitch

def check (checked : Bool) : SwitchButton → GreeterSettingWindow σ
  | .m_enableManualSwitch => { w with m_enableManualSwitch := checked }
  | .m_showUserListSwitch => { w with m_showUserListSwitch := checked }

/-- The slot for `toggled` of the switches. When it turns the other switch on, its call for that
one returns at once. -/
def onLoginOptionsChanged (changedSwitch : SwitchButton) : GreeterSettingWindow σ × List Output :=
  if w.isChecked changedSwitch then (w, [])
  else if !w.m_enableManualSwitch && !w.m_showUserListSwitch then
    (w.check true changedSwitch.other,
      [.tips .HOVE_TIPS_WARNING "Please ensure that one of the two options is turned on!"])
  else (w, [])

/-- `setChecked`, with the signal `toggled` when that is a change. -/
def setChecked (b : SwitchButton) (checked : Bool) : GreeterSettingWindow σ × List Output :=
  if w.isChecked b = checked then (w, []) else (w.check checked b).onLoginOptionsChanged b

def onScaleModeChanged (idx : Option Nat) : GreeterSettingWindow σ :=
  let itemScaleMode := ((w.m_comboScaleMode.itemData idx).getD 0).toUInt32
  { w with m_comboScaleFactor_isEnabled := itemScaleMode = env.GREETER_SCALING_MODE_MANUAL }

def getGeneralSettingInfoFromBackend (prefs : GeneralPrefs) : GeneralSetting where
  background := prefs.background
  hideUserList := prefs.hide_user_list
  allowManualLogin := prefs.allow_manual_login
  scaleMode :=
    if w.m_comboScaleMode.find prefs.scale_mode.toUInt64 = none then 0
    else prefs.scale_mode.toUInt64
  scaleFactor :=
    if w.m_comboScaleFactor.find prefs.scale_factor.toUInt64 = none then 1
    else prefs.scale_factor.toUInt64

def getAutologinSettingInfoFromBackend (prefs : AutoLoginPrefs) : AutoLoginSetting where
  autoLoginTimeout := prefs.autologin_timeout
  autoLoginUser :=
    if w.m_comboAutoLoginUser.find prefs.autologin_user = none then "" else prefs.autologin_user

/-- What `resetGeneralSettings` does to the image selector. An empty background stands for the
default one. -/
def showBackground (background : String) : GreeterSettingWindow σ :=
  let background :=
    if background.isEmpty then env.readLink.getD DEFAULT_BACKGROUND else background
  let images :=
    if background ∈ env.imageList w.m_imageSelector then w.m_imageSelector
    else env.addImage w.m_imageSelector background
  { w with m_imageSelector := env.setSelectedImage images background }

/-- What `resetGeneralSettings` does to the boxes of the scaling. -/
def showScale (appearanceSetting : GeneralSetting) : GreeterSettingWindow σ :=
  let idx := w.m_comboScaleMode.find appearanceSetting.scaleMode
  let w := { w with m_comboScaleMode := w.m_comboScaleMode.setCurrentIndex idx }
  -- This is also the slot for `currentIndexChanged`, so a change has made the same call before.
  let w := w.onScaleModeChanged env idx
  let idx := w.m_comboScaleFactor.find appearanceSetting.scaleFactor
  { w with m_comboScaleFactor := w.m_comboScaleFactor.setCurrentIndex idx }

/-- `resetGeneralSettings`, when the backend holds these settings. -/
def resetGeneralSettings (prefs : GeneralPrefs) : GreeterSettingWindow σ × List Output :=
  let appearanceSetting := w.getGeneralSettingInfoFromBackend prefs
  let w := w.showBackground env appearanceSetting.background
  let (w, o1) := w.setChecked .m_showUserListSwitch (!appearanceSetting.hideUserList)
  let (w, o2) := w.setChecked .m_enableManualSwitch appearanceSetting.allowManualLogin
  let w := w.showScale env appearanceSetting
  ({ w with
      m_origSettingInfo := { w.m_origSettingInfo with appearanceInfo := appearanceSetting } },
    o1 ++ o2)

/-- `resetAutoLoginSettings`, when the backend holds these settings. -/
def resetAutoLoginSettings (prefs : AutoLoginPrefs) : GreeterSettingWindow σ :=
  let autoLoginSetting := w.getAutologinSettingInfoFromBackend prefs
  { w with
    m_comboAutoLoginUser := w.m_comboAutoLoginUser.setCurrentText autoLoginSetting.autoLoginUser
    m_editAutoLoginDelay := number autoLoginSetting.autoLoginTimeout
    m_origSettingInfo := { w.m_origSettingInfo with autoLoginInfo := autoLoginSetting } }

/-- The calls of `saveGeneralSettings`, in order. -/
def generalSetters : List Setter :=
  [.SetBackground (env.selectedImage w.m_imageSelector), .SetHideUserList (!w.m_showUserListSwitch),
    .SetAllowManualLogin w.m_enableManualSwitch,
    .SetScaleMode (w.m_comboScaleMode.current.getD 0).toUInt32.toUInt16
      (w.m_comboScaleFactor.current.getD 0).toUInt32.toUInt16]

/-- The calls of `saveAutoLoginSettings`, in order. -/
def autoLoginSetters : List Setter :=
  [.SetAutologinUser (w.m_comboAutoLoginUser.current.getD ""),
    .SetAutologinTimeout (toUInt w.m_editAutoLoginDelay).toUInt64]

end GreeterSettingWindow

/-! ## The window and the backend -/

/-- The window and the backend, and what the backend held when each page was loaded last. -/
structure Panel (σ : Type) where
  window : GreeterSettingWindow σ
  prefs : KiranGreeterPrefs
  loaded : KiranGreeterPrefs

inductive GreeterSettingsPageEnum
  | GreeterSettings_Appearance
  | GreeterSettings_Autologin
  deriving DecidableEq

/-- What ends the message box. -/
inductive Role
  | Save
  | Discard
  /-- The box is closed. -/
  | other
  deriving DecidableEq

/-- The error of each call that fails. -/
abbrev Replies := Setter → Option String

/-- The dialog of a save that finds other settings in the backend than were loaded. -/
def configurationChanged : Output :=
  .message "Configuration changed" ("The external configuration file has changed\n" ++
    "If you choose to save, all external changes will be overwritten\n" ++
    "Select discard to discard the modification and reload the new configuration")

/-- The tips at the end of `saveGeneralSettings`. -/
def generalTips (errors : List String) : Output :=
  if errors.isEmpty then .tips .HOVE_TIPS_SUC "Saved successfully"
  else .tips .HOVE_TIPS_ERR "Save failed, reload"

/-- The tips at the end of `saveAutoLoginSettings`. -/
def autoLoginTips (errors : List String) : Output :=
  match errors.getLast? with
  | none => .tips .HOVE_TIPS_SUC "Saved successfully"
  | some errMsg =>
    if errMsg.isEmpty then .tips .HOVE_TIPS_ERR "Save failed, reload"
    else .tips .HOVE_TIPS_ERR ("Save failed: " ++ errMsg)

/-- The calls that go out: the others do not when the first one fails. -/
def sentSetters (replies : Replies) : List Setter → List Setter
  | [] => []
  | c :: cs => if (replies c).isSome then [c] else c :: cs

namespace Panel

variable (env : Env σ) (s : Panel σ)

def resetGeneralSettings : Panel σ × List Output :=
  let r := s.window.resetGeneralSettings env s.prefs.general
  ({ s with window := r.1, loaded := { s.loaded with general := s.prefs.general } }, r.2)

def resetAutoLoginSettings : Panel σ × List Output :=
  ({ s with
      window := s.window.resetAutoLoginSettings s.prefs.autologin
      loaded := { s.loaded with autologin := s.prefs.autologin } }, [])

/-- A call that succeeds changes the backend. -/
def request (replies : Replies) (c : Setter) : Panel σ :=
  if (replies c).isSome then s else { s with prefs := s.prefs.set c }

/-- A save: the dialog when the backend has changed, the calls, the tips, and the reset of the
page. -/
def save (changed : Bool) (setters : List Setter) (tips : List String → Output)
    (reset : Panel σ → Panel σ × List Output) (clickedRole : Role) (replies : Replies) :
    Panel σ × List Output :=
  let o := if changed then [configurationChanged] else []
  if changed && clickedRole = .Discard then ((reset s).1, o ++ (reset s).2)
  else
    let sent := sentSetters replies setters
    let s1 := sent.foldl (fun s c => s.request replies c) s
    ((reset s1).1, o ++ sent.map .calls ++ [tips (sent.filterMap replies)] ++ (reset s1).2)

def saveGeneralSettings : Role → Replies → Panel σ × List Output :=
  let backendInfo := s.window.getGeneralSettingInfoFromBackend s.prefs.general
  s.save (backendInfo ≠ s.window.m_origSettingInfo.appearanceInfo) (s.window.generalSetters env)
    generalTips (resetGeneralSettings env)

def saveAutoLoginSettings : Role → Replies → Panel σ × List Output :=
  let backendInfo := s.window.getAutologinSettingInfoFromBackend s.prefs.autologin
  s.save (backendInfo ≠ s.window.m_origSettingInfo.autoLoginInfo) s.window.autoLoginSetters
    autoLoginTips resetAutoLoginSettings

/-- The window after its constructor. What `m_origSettingInfo` holds at first is left open. -/
def init (images : σ) (objVector : Option (List (Option String))) (rootIconFile : Bool)
    (m_origSettingInfo : GreeterSettingInfo) (prefs : KiranGreeterPrefs) : Panel σ :=
  let window : GreeterSettingWindow σ :=
    { m_origSettingInfo := m_origSettingInfo
      m_imageSelector := images
      m_comboScaleMode := .ofItems env.scaleModes
      m_comboScaleFactor := .ofItems scaleFactors
      m_comboAutoLoginUser := .ofItems (initUserComboBox objVector rootIconFile) }
  let s : Panel σ := { window := window, prefs := prefs, loaded := prefs }
  -- the first page is selected and loaded, and then both pages are
  ((s.resetGeneralSettings env).1.resetGeneralSettings env).1.resetAutoLoginSettings.1

end Panel

/-- The window of a machine with the user alice. -/
def samplePanel (prefs : KiranGreeterPrefs) : Panel Images :=
  .init sampleEnv ⟨[], ""⟩ (some [some "alice"]) true ⟨⟨"", false, false, 0, 0⟩, ⟨"", 0⟩⟩ prefs

/-! ## The events -/

inductive Event
  | selectImage (image : String)
  | clickSwitch (b : SwitchButton)
  | chooseScaleMode (idx : Nat)
  | chooseScaleFactor (idx : Nat)
  | chooseUser (idx : Nat)
  | editDelay (text : String)
  /-- Another program changes the settings of the backend. -/
  | externalChange (prefs : KiranGreeterPrefs)
  /-- The page is selected, or its button Reset is clicked. -/
  | load (page : GreeterSettingsPageEnum)
  /-- The button Save of the page is clicked. -/
  | save (page : GreeterSettingsPageEnum) (clickedRole : Role) (replies : Replies)

def step (env : Env σ) : Step (Panel σ) Event Output
  | s, .selectImage image =>
    if image ∈ env.imageList s.window.m_imageSelector then
      some ({ s with window := { s.window with
        m_imageSelector := env.setSelectedImage s.window.m_imageSelector image } }, [])
    else none
  | s, .clickSwitch b =>
    let r := s.window.setChecked b (!s.window.isChecked b)
    some ({ s with window := r.1 }, r.2)
  | s, .chooseScaleMode idx =>
    if idx < s.window.m_comboScaleMode.items.length then
      let w := { s.window with
        m_comboScaleMode := s.window.m_comboScaleMode.setCurrentIndex (some idx) }
      some ({ s with window := w.onScaleModeChanged env (some idx) }, [])
    else none
  | s, .chooseScaleFactor idx =>
    if s.window.m_comboScaleFactor_isEnabled ∧ idx < s.window.m_comboScaleFactor.items.length then
      some ({ s with window := { s.window with
        m_comboScaleFactor := s.window.m_comboScaleFactor.setCurrentIndex (some idx) } }, [])
    else none
  | s, .chooseUser idx =>
    if idx < s.window.m_comboAutoLoginUser.items.length then
      some ({ s with window := { s.window with
        m_comboAutoLoginUser := s.window.m_comboAutoLoginUser.setCurrentIndex (some idx) } }, [])
    else none
  | s, .editDelay text =>
    some ({ s with window := { s.window with m_editAutoLoginDelay := text } }, [])
  | s, .externalChange prefs => some ({ s with prefs := prefs }, [])
  | s, .load .GreeterSettings_Appearance => some (s.resetGeneralSettings env)
  | s, .load .GreeterSettings_Autologin => some s.resetAutoLoginSettings
  | s, .save .GreeterSettings_Appearance clickedRole replies =>
    some (s.saveGeneralSettings env clickedRole replies)
  | s, .save .GreeterSettings_Autologin clickedRole replies =>
    some (s.saveAutoLoginSettings clickedRole replies)

/-! ## What the pages show -/

/-- What the general page shows of the settings. -/
def Env.shownGeneral (env : Env σ) (prefs : GeneralPrefs) : GeneralSetting where
  background := prefs.background
  hideUserList := prefs.hide_user_list
  allowManualLogin := prefs.allow_manual_login
  scaleMode :=
    if prefs.scale_mode.toUInt64 ∈ env.scaleModes then prefs.scale_mode.toUInt64 else 0
  scaleFactor :=
    if prefs.scale_factor.toUInt64 ∈ scaleFactors then prefs.scale_factor.toUInt64 else 1

/-- What the page of the automatic login shows, when the box has these users. -/
def shownAutoLogin (users : List String) (prefs : AutoLoginPrefs) : AutoLoginSetting where
  autoLoginUser := if prefs.autologin_user ∈ users then prefs.autologin_user else ""
  autoLoginTimeout := prefs.autologin_timeout

/-- The boxes have the items of the constructor. -/
structure HasItems (env : Env σ) (users : List String) (w : GreeterSettingWindow σ) : Prop where
  modes : w.m_comboScaleMode.items = env.scaleModes
  factors : w.m_comboScaleFactor.items = scaleFactors
  names : w.m_comboAutoLoginUser.items = users

/-- The window has its items, and has cached what the pages showed of the loaded settings. -/
structure Built (env : Env σ) (users : List String) (s : Panel σ) : Prop where
  items : HasItems env users s.window
  general : s.window.m_origSettingInfo.appearanceInfo = env.shownGeneral s.loaded.general
  autologin : s.window.m_origSettingInfo.autoLoginInfo = shownAutoLogin users s.loaded.autologin

theorem find_eq_none_iff {α : Type} [DecidableEq α] (c : ComboBox α) (value : α) :
    c.find value = none ↔ value ∉ c.items := by
  unfold ComboBox.find
  rw [List.findIdx?_eq_none_iff]
  simp only [decide_eq_false_iff_not]
  exact ⟨fun h hmem => h value hmem rfl, fun h x hx heq => h (heq ▸ hx)⟩

theorem getGeneralSettingInfoFromBackend_eq {env : Env σ} {users : List String}
    {w : GreeterSettingWindow σ} (h : HasItems env users w) (prefs : GeneralPrefs) :
    w.getGeneralSettingInfoFromBackend prefs = env.shownGeneral prefs := by
  unfold GreeterSettingWindow.getGeneralSettingInfoFromBackend Env.shownGeneral
  simp only [find_eq_none_iff, h.modes, h.factors, ite_not]

theorem getAutologinSettingInfoFromBackend_eq {env : Env σ} {users : List String}
    {w : GreeterSettingWindow σ} (h : HasItems env users w) (prefs : AutoLoginPrefs) :
    w.getAutologinSettingInfoFromBackend prefs = shownAutoLogin users prefs := by
  unfold GreeterSettingWindow.getAutologinSettingInfoFromBackend shownAutoLogin
  simp only [find_eq_none_iff, h.names, ite_not]

/-! ## What a load does -/

/-- The switches after a load. Both are off only when both were off before. -/
theorem setChecked_both (w : GreeterSettingWindow σ) (hide allow : Bool) :
    ((w.setChecked .m_showUserListSwitch (!hide)).1.setChecked .m_enableManualSwitch allow).1 =
      { w with
        m_enableManualSwitch := allow
        m_showUserListSwitch :=
          !hide || (!allow && (w.m_enableManualSwitch || w.m_showUserListSwitch)) } := by
  obtain ⟨orig, images, mode, factor, enabled, manual, shown, user, delay⟩ := w
  cases manual <;> cases shown <;> cases hide <;> cases allow <;> rfl

theorem setChecked_items (w : GreeterSettingWindow σ) (b : SwitchButton) (checked : Bool) :
    ∃ manual shown, (w.setChecked b checked).1 =
      { w with m_enableManualSwitch := manual, m_showUserListSwitch := shown } := by
  obtain ⟨orig, images, mode, factor, enabled, manual, shown, user, delay⟩ := w
  cases b <;> cases manual <;> cases shown <;> cases checked <;> exact ⟨_, _, rfl⟩

/-- What a load of the general settings leaves in the window. -/
theorem resetGeneralSettings_window (env : Env σ) (w : GreeterSettingWindow σ)
    (prefs : GeneralPrefs) :
    let shown := w.getGeneralSettingInfoFromBackend prefs
    ∃ enabled, (w.resetGeneralSettings env prefs).1 =
      { w.showBackground env prefs.background with
        m_origSettingInfo := { w.m_origSettingInfo with appearanceInfo := shown }
        m_enableManualSwitch := prefs.allow_manual_login
        m_showUserListSwitch := !prefs.hide_user_list || (!prefs.allow_manual_login &&
          (w.m_enableManualSwitch || w.m_showUserListSwitch))
        m_comboScaleMode := w.m_comboScaleMode.setCurrentIndex
          (w.m_comboScaleMode.find shown.scaleMode)
        m_comboScaleFactor := w.m_comboScaleFactor.setCurrentIndex
          (w.m_comboScaleFactor.find shown.scaleFactor)
        m_comboScaleFactor_isEnabled := enabled } := by
  intro shown
  have hdoes : (w.resetGeneralSettings env prefs).1 =
      (fun w : GreeterSettingWindow σ => { w.showScale env shown with
        m_origSettingInfo := { w.m_origSettingInfo with appearanceInfo := shown } })
        ((((w.showBackground env prefs.background).setChecked .m_showUserListSwitch
          (!prefs.hide_user_list)).1.setChecked .m_enableManualSwitch
            prefs.allow_manual_login).1) := rfl
  rw [hdoes, setChecked_both]
  exact ⟨_, rfl⟩

/-! ## What every step keeps -/

section built

variable {env : Env σ} {users : List String} {s : Panel σ}

theorem resetGeneralSettings_items {w : GreeterSettingWindow σ} (h : HasItems env users w)
    (prefs : GeneralPrefs) : HasItems env users (w.resetGeneralSettings env prefs).1 := by
  obtain ⟨enabled, heq⟩ := resetGeneralSettings_window env w prefs
  rw [heq]
  exact ⟨h.modes, h.factors, h.names⟩

theorem resetGeneralSettings_orig {w : GreeterSettingWindow σ} (h : HasItems env users w)
    (prefs : GeneralPrefs) : (w.resetGeneralSettings env prefs).1.m_origSettingInfo =
      { w.m_origSettingInfo with appearanceInfo := env.shownGeneral prefs } := by
  obtain ⟨enabled, heq⟩ := resetGeneralSettings_window env w prefs
  rw [heq, getGeneralSettingInfoFromBackend_eq h]

theorem resetAutoLoginSettings_items {w : GreeterSettingWindow σ} (h : HasItems env users w)
    (prefs : AutoLoginPrefs) : HasItems env users (w.resetAutoLoginSettings prefs) := by
  refine ⟨h.modes, h.factors, ?_⟩
  have hsame : ∀ (c : ComboBox String) text, (c.setCurrentText text).items = c.items := by
    intro c text
    unfold ComboBox.setCurrentText
    split <;> rfl
  exact (hsame _ _).trans h.names

theorem Built.resetGeneral (h : Built env users s) :
    Built env users (s.resetGeneralSettings env).1 := by
  have horig := resetGeneralSettings_orig h.items s.prefs.general
  refine ⟨resetGeneralSettings_items h.items _, ?_, ?_⟩
  · exact congrArg GreeterSettingInfo.appearanceInfo horig
  · exact (congrArg GreeterSettingInfo.autoLoginInfo horig).trans h.autologin

theorem Built.resetAutoLogin (h : Built env users s) :
    Built env users s.resetAutoLoginSettings.1 :=
  ⟨resetAutoLoginSettings_items h.items _, h.general,
    getAutologinSettingInfoFromBackend_eq h.items _⟩

theorem Built.request (h : Built env users s) (replies : Replies) (c : Setter) :
    Built env users (s.request replies c) := by
  unfold Panel.request
  split_ifs
  · exact h
  · exact ⟨h.items, h.general, h.autologin⟩

theorem Built.save (h : Built env users s) {reset : Panel σ → Panel σ × List Output}
    (hreset : ∀ s, Built env users s → Built env users (reset s).1) (changed : Bool)
    (setters : List Setter) (tips : List String → Output) (clickedRole : Role)
    (replies : Replies) :
    Built env users (s.save changed setters tips reset clickedRole replies).1 := by
  have hsent : Built env users
      ((sentSetters replies setters).foldl (fun s c => s.request replies c) s) :=
    List.foldlRecOn (sentSetters replies setters) _ h fun s hs c _ => hs.request replies c
  unfold Panel.save
  dsimp only
  by_cases hdiscard : (changed && decide (clickedRole = .Discard)) = true
  · rw [if_pos hdiscard]
    exact hreset s h
  · rw [if_neg hdiscard]
    exact hreset _ hsent

/-- A change of the switches leaves the rest. -/
theorem setChecked_built (h : Built env users s) (b : SwitchButton) (checked : Bool) :
    Built env users { s with window := (s.window.setChecked b checked).1 } := by
  obtain ⟨manual, shown, heq⟩ := setChecked_items s.window b checked
  rw [heq]
  exact ⟨⟨h.items.modes, h.items.factors, h.items.names⟩, h.general, h.autologin⟩

theorem step_built {s1 : Panel σ} {e : Event} {o : List Output} (h : Built env users s)
    (hstep : step env s e = some (s1, o)) : Built env users s1 := by
  have hedit : ∀ w : GreeterSettingWindow σ, HasItems env users w →
      w.m_origSettingInfo = s.window.m_origSettingInfo → Built env users { s with window := w } :=
    fun w hw horig => ⟨hw, horig ▸ h.general, horig ▸ h.autologin⟩
  have hitems := h.items
  cases e with
  | selectImage image =>
    simp only [step] at hstep
    split_ifs at hstep
    cases hstep
    exact hedit _ ⟨hitems.modes, hitems.factors, hitems.names⟩ rfl
  | clickSwitch b =>
    cases hstep
    exact setChecked_built h b _
  | chooseScaleMode idx =>
    simp only [step] at hstep
    split_ifs at hstep
    cases hstep
    exact hedit _ ⟨hitems.modes, hitems.factors, hitems.names⟩ rfl
  | chooseScaleFactor idx =>
    simp only [step] at hstep
    split_ifs at hstep
    cases hstep
    exact hedit _ ⟨hitems.modes, hitems.factors, hitems.names⟩ rfl
  | chooseUser idx =>
    simp only [step] at hstep
    split_ifs at hstep
    cases hstep
    exact hedit _ ⟨hitems.modes, hitems.factors, hitems.names⟩ rfl
  | editDelay text =>
    cases hstep
    exact hedit _ ⟨hitems.modes, hitems.factors, hitems.names⟩ rfl
  | externalChange prefs =>
    cases hstep
    exact ⟨hitems, h.general, h.autologin⟩
  | load page =>
    cases page
    · cases hstep
      exact h.resetGeneral
    · cases hstep
      exact h.resetAutoLogin
  | save page clickedRole replies =>
    cases page
    · have hsaved : (s.saveGeneralSettings env clickedRole replies).1 = s1 :=
        congrArg Prod.fst (Option.some.inj hstep)
      exact hsaved ▸ h.save (fun s hs => hs.resetGeneral) _ _ _ _ _
    · have hsaved : (s.saveAutoLoginSettings clickedRole replies).1 = s1 :=
        congrArg Prod.fst (Option.some.inj hstep)
      exact hsaved ▸ h.save (fun s hs => hs.resetAutoLogin) _ _ _ _ _

theorem init_built (env : Env σ) (images : σ) (objVector : Option (List (Option String)))
    (rootIconFile : Bool) (m_origSettingInfo : GreeterSettingInfo) (prefs : KiranGreeterPrefs) :
    Built env (initUserComboBox objVector rootIconFile)
      (.init env images objVector rootIconFile m_origSettingInfo prefs) := by
  let w : GreeterSettingWindow σ :=
    { m_origSettingInfo := m_origSettingInfo
      m_imageSelector := images
      m_comboScaleMode := .ofItems env.scaleModes
      m_comboScaleFactor := .ofItems scaleFactors
      m_comboAutoLoginUser := .ofItems (initUserComboBox objVector rootIconFile) }
  have hw : HasItems env (initUserComboBox objVector rootIconFile) w := ⟨rfl, rfl, rfl⟩
  have hw := resetGeneralSettings_items hw prefs.general
  have horig := resetGeneralSettings_orig hw prefs.general
  have hw := resetGeneralSettings_items hw prefs.general
  refine ⟨resetAutoLoginSettings_items hw prefs.autologin, ?_, ?_⟩
  · exact congrArg GreeterSettingInfo.appearanceInfo horig
  · exact getAutologinSettingInfoFromBackend_eq hw prefs.autologin

end built

end session_guard.greeter_setting_window
