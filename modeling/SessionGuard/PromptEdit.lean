-- `PromptEdit`: the line edit with a button where the user confirms a text.
-- A confirmation disables the line edit until `reset`, but not the button.
import Mathlib.Tactic.Common

namespace session_guard.prompt_edit

/-! ## The widget -/

inductive EchoMode
  | Normal
  | Password
  deriving DecidableEq

/-- The flags of the widget itself and of its line edit `ui->edit`, and the
fields of `PromptEdit` that its functions read. -/
structure PromptEdit where
  isVisible : Bool := true
  isEnabled : Bool := true
  editEnabled : Bool := true
  text : String := ""
  placeholderText : String := ""
  echoMode : EchoMode := .Normal
  /-- The loading animation runs. -/
  m_animationTimerId : Bool := false
  m_hasError : Bool := false
  m_showPasswordModeStyle : Bool := false
  deriving DecidableEq

namespace PromptEdit

def setVisible (e : PromptEdit) (visible : Bool) : PromptEdit := { e with isVisible := visible }

def setEnabled (e : PromptEdit) (enabled : Bool) : PromptEdit := { e with isEnabled := enabled }

def setHasError (e : PromptEdit) (hasError : Bool) : PromptEdit := { e with m_hasError := hasError }

def setPlaceHolderText (e : PromptEdit) (text : String) : PromptEdit :=
  { e with placeholderText := text }

def setEchoMode (e : PromptEdit) (echoMode : EchoMode) : PromptEdit :=
  { e with
    echoMode := echoMode
    m_showPasswordModeStyle :=
      if echoMode = .Normal then false else e.m_showPasswordModeStyle }

/-- The text of the line edit changes, and `slotEditTextChanged` runs. -/
def setText (e : PromptEdit) (text : String) : PromptEdit :=
  { e with
    text := text
    m_showPasswordModeStyle :=
      if e.echoMode = .Password then !text.isEmpty else e.m_showPasswordModeStyle }

def getText (e : PromptEdit) : String := e.text

def reset (e : PromptEdit) : PromptEdit :=
  { (((({ e with isEnabled := true, editEnabled := true }).setText "").setPlaceHolderText
    "").setEchoMode .Normal) with m_animationTimerId := false }

/-- `startMovieAndEmitSignal`, with the text of the signal `textConfirmed`. -/
def startMovieAndEmitSignal (e : PromptEdit) : PromptEdit × String :=
  ({ e with editEnabled := false, m_animationTimerId := true }, e.text)

/-- The two slots that confirm do the same: `slotEditReturnPressed` and
`slotButtonPressed`. `none` is no signal. -/
def slotConfirm (e : PromptEdit) : PromptEdit × Option String :=
  if e.echoMode ≠ .Password ∧ e.text.isEmpty then (e, none)
  else (e.startMovieAndEmitSignal.1, some e.startMovieAndEmitSignal.2)

def slotEditReturnPressed (e : PromptEdit) : PromptEdit × Option String := e.slotConfirm

def slotButtonPressed (e : PromptEdit) : PromptEdit × Option String := e.slotConfirm

/-! ## What the user can do -/

/-- The line edit takes keys: it and the widget around it are enabled, and the
widget is shown. -/
def takesKeys (e : PromptEdit) : Bool := e.isVisible && e.isEnabled && e.editEnabled

/-- The button takes clicks: the widget around it is shown and enabled. -/
def takesClicks (e : PromptEdit) : Bool := e.isVisible && e.isEnabled

/-- The user types, when the line edit takes keys. -/
def type (e : PromptEdit) (text : String) : Option PromptEdit :=
  if e.takesKeys then some (e.setText text) else none

/-- The user presses Return in the line edit. -/
def pressReturn (e : PromptEdit) : Option (PromptEdit × Option String) :=
  if e.takesKeys then some e.slotEditReturnPressed else none

/-- The user clicks the button. -/
def click (e : PromptEdit) : Option (PromptEdit × Option String) :=
  if e.takesClicks then some e.slotButtonPressed else none

/-! ## What a confirmation leaves -/

@[simp] theorem reset_editEnabled (e : PromptEdit) : e.reset.editEnabled = true := rfl
@[simp] theorem reset_isEnabled (e : PromptEdit) : e.reset.isEnabled = true := rfl
@[simp] theorem reset_isVisible (e : PromptEdit) : e.reset.isVisible = e.isVisible := rfl

/-- A confirmation that emits disables the line edit, and one that does not
changes nothing. -/
theorem slotConfirm_cases (e : PromptEdit) :
    (e.slotConfirm.2 = none ∧ e.slotConfirm.1 = e) ∨
      (e.slotConfirm.2 = some e.text ∧ e.slotConfirm.1.editEnabled = false ∧
        e.slotConfirm.1.isVisible = e.isVisible ∧ e.slotConfirm.1.isEnabled = e.isEnabled) := by
  unfold slotConfirm
  split_ifs
  · exact Or.inl ⟨rfl, rfl⟩
  · exact Or.inr ⟨rfl, rfl, rfl, rfl⟩

/-- The flags of the widget itself stay in a confirmation. -/
theorem slotConfirm_flags (e : PromptEdit) :
    e.slotConfirm.1.isVisible = e.isVisible ∧ e.slotConfirm.1.isEnabled = e.isEnabled := by
  obtain ⟨-, h⟩ | ⟨-, -, h1, h2⟩ := e.slotConfirm_cases
  · rw [h]
    exact ⟨rfl, rfl⟩
  · exact ⟨h1, h2⟩

/-- Where keys go, clicks go too. -/
theorem takesClicks_of_takesKeys {e : PromptEdit} (h : e.takesKeys = true) :
    e.takesClicks = true := by
  unfold takesKeys at h
  exact (Bool.and_eq_true_iff.mp h).1

end PromptEdit

end session_guard.prompt_edit
