-- What the user of the greeter can do to log in: in each state an attempt runs, or the window has a
-- control that leads to one.
import SessionGuard.GreeterUserModel

open machine

namespace session_guard.greeter_login_window

open prompt_edit user_list_widget

/-! ## The controls -/

/-- Does an attempt run after these calls? -/
def begun : Bool → List Output → Bool
  | b, [] => b
  | _, .authenticate _ :: o => begun true o
  | _, .cancelAuthentication :: o => begun false o
  | b, _ :: o => begun b o

theorem begun_append (b : Bool) (xs ys : List Output) :
    begun b (xs ++ ys) = begun (begun b xs) ys := by
  induction xs generalizing b with
  | nil => rfl
  | cons x xs ih => cases x <;> exact ih _

/-- The window asks for the name of a user. -/
def AsksName (w : GreeterLoginWindow) : Prop :=
  w.m_loginMode = .LOGIN_MODE_MANUAL ∧ w.m_inputMode = .EDIT_INPUT_USER_NAME ∧
    w.promptEdit.takesKeys = true

/-- The button beside the list takes clicks. -/
def Clickable (w : GreeterLoginWindow) : Prop :=
  w.btn_notListAndCancel.isVisible = true ∧ w.btn_notListAndCancel.isEnabled = true

/-- The window has a control that leads to an attempt. -/
def HasWay (w : GreeterLoginWindow) : Prop :=
  w.btn_autologin_visible = true ∨ w.btn_reAuth_visible = true ∨ Clickable w ∨ AsksName w

/-- Where the window goes to the list of users, there are users, or there is a way back. -/
def Modes.Guided (m : Modes) : Prop :=
  m.noListButotnVisiable = true ∨
    (m.loginMode = .LOGIN_MODE_USER_LIST → 0 < m.userCount) ∧
      (m.buttonType = .BUTTON_RETURN → m.inputMode = .EDIT_INPUT_USER_NAME →
        m.buttonVisible = true → 0 < m.userCount)

/-- After these calls an attempt runs, or the window has a control. -/
def Leads (r : Sys × List Output) : Prop := ∀ b, begun b r.2 = true ∨ HasWay r.1.window

/-- The same, where it was so before. -/
def KeepsWay (s : Sys) (r : Sys × List Output) : Prop :=
  ∀ b, b = true ∨ HasWay s.window → begun b r.2 = true ∨ HasWay r.1.window

theorem Leads.keepsWay {r : Sys × List Output} (h : Leads r) (s : Sys) : KeepsWay s r :=
  fun b _ => h b

theorem Leads.andThen {r : Sys × List Output} {f : Sys → Sys × List Output} (h : Leads (f r.1)) :
    Leads (andThen r f) := by
  intro b
  rw [greeter_login_window.andThen, begun_append]
  exact h (begun b r.2)

/-- Nothing is called, and the controls are the same. -/
theorem keepsWay_silent {s t : Sys} (h : HasWay s.window → HasWay t.window) : KeepsWay s (t, []) :=
  fun _ hs => hs.imp id h

/-! ## The functions that begin an attempt -/

/-- An attempt begins, or the button for the user of the autologin is shown. -/
def Starts (r : Sys × List Output) : Prop :=
  ∀ b, begun b r.2 = true ∨ r.1.window.btn_autologin_visible = true

theorem Starts.leads {r : Sys × List Output} (h : Starts r) : Leads r :=
  fun b => (h b).imp id Or.inl

theorem startAuthUser_starts (s : Sys) (username userIcon : String) :
    Starts (s.startAuthUser username userIcon) := by
  intro b
  unfold Sys.startAuthUser greeter_login_window.andThen
  rw [begun_append]
  dsimp only
  split_ifs
  · exact Or.inr rfl
  · exact Or.inl rfl

/-- The attempt of another user begins at once. -/
theorem startAuthUser_begins {s : Sys} {username : String}
    (h : username ≠ s.greeter.autologinUserHint) (userIcon : String) (b : Bool) :
    begun b (s.startAuthUser username userIcon).2 = true := by
  have hhint : s.cancelRunning.1.greeter.autologinUserHint = s.greeter.autologinUserHint := by
    unfold Sys.cancelRunning
    split_ifs <;> rfl
  unfold Sys.startAuthUser greeter_login_window.andThen
  rw [begun_append]
  dsimp only
  rw [if_neg (hhint ▸ h)]
  rfl

theorem selected_starts (s : Sys) {r : UserListWidget × Option UserInfo}
    (h : r.2.isSome = true) : Starts (s.selected r) := by
  obtain ⟨info, hinfo⟩ := Option.isSome_iff_exists.mp h
  unfold Sys.selected
  rw [hinfo]
  exact startAuthUser_starts _ info.name info.imagePath

theorem resetUIForManualLogin_asksName (s : Sys) :
    AsksName s.resetUIForManualLogin.1.window := ⟨rfl, rfl, rfl⟩

theorem resetUIForManualLogin_leads (s : Sys) : Leads s.resetUIForManualLogin :=
  fun _ => Or.inr (Or.inr (Or.inr (Or.inr (resetUIForManualLogin_asksName s))))

theorem Starts.andThen {r : Sys × List Output} {f : Sys → Sys × List Output} (h : Starts (f r.1)) :
    Starts (andThen r f) := by
  intro b
  rw [greeter_login_window.andThen, begun_append]
  exact h (begun b r.2)

/-- A list with users begins with one of them. -/
theorem resetUIForUserListLogin_starts {s : Sys} (h : s.window.userlist.items ≠ []) :
    Starts s.resetUIForUserListLogin := by
  have hitems : s.cancelRunning.1.window.userlist.items ≠ [] := by
    unfold Sys.cancelRunning
    split_ifs <;> exact h
  unfold Sys.resetUIForUserListLogin
  apply Starts.andThen
  generalize s.cancelRunning = c at hitems ⊢
  dsimp only
  split
  · exact startAuthUser_starts _ _ _
  · rename_i hsel
    rcases UserListWidget.setCurrentRow_zero
      (w := (c.1.window.userlist.setVisible true).setEnabled true) hitems with hsome | hsome
    · exact absurd (hsel.symm ▸ hsome) (by simp)
    · exact selected_starts _ hsome

/-! ## The button beside the list -/

/-- The slot leaves the button beside the list. -/
def KeepsButton (s : Sys) (r : Sys × List Output) : Prop :=
  r.1.window.btn_notListAndCancel = s.window.btn_notListAndCancel

theorem startAuthUser_button (s : Sys) (username userIcon : String) :
    KeepsButton s (s.startAuthUser username userIcon) := by
  have hcancel : KeepsButton s s.cancelRunning := by
    unfold Sys.cancelRunning
    split_ifs <;> rfl
  unfold KeepsButton Sys.startAuthUser greeter_login_window.andThen
  generalize s.cancelRunning = c at hcancel ⊢
  dsimp only
  split_ifs <;> exact hcancel

theorem selected_button (s : Sys) (r : UserListWidget × Option UserInfo) :
    KeepsButton s (s.selected r) := by
  unfold Sys.selected
  rcases r.2 with _ | info
  · rfl
  · exact startAuthUser_button _ info.name info.imagePath

theorem resetUIForUserListLogin_enabled (s : Sys) :
    s.resetUIForUserListLogin.1.window.btn_notListAndCancel.isEnabled = true := by
  have hkeeps : ∀ {c : Sys} {r : Sys × List Output}, KeepsButton c r →
      c.window.btn_notListAndCancel.isEnabled = true →
      r.1.window.btn_notListAndCancel.isEnabled = true := by
    intro c r h hc
    rw [h]
    exact hc
  unfold Sys.resetUIForUserListLogin greeter_login_window.andThen
  dsimp only
  split
  · exact hkeeps (startAuthUser_button _ _ _) rfl
  · exact hkeeps (selected_button _ _) rfl

/-- Without users, the list mode has the button for another user. -/
theorem resetUIForUserListLogin_clickable {s : Sys}
    (h : s.modes.noListButotnVisiable = true) :
    Clickable s.resetUIForUserListLogin.1.window ∧
      s.resetUIForUserListLogin.1.window.m_buttonType = .BUTTON_SWITCH_TO_MANUAL_LOGIN := by
  have hmodes := s.resetUIForUserListLogin_modes
  have hvisible := congrArg Modes.buttonVisible hmodes
  exact ⟨⟨hvisible.trans h, resetUIForUserListLogin_enabled s⟩, congrArg Modes.buttonType hmodes⟩

theorem resetUIForUserListLogin_leads {s : Sys}
    (h : s.modes.noListButotnVisiable = true ∨ 0 < s.modes.userCount) :
    Leads s.resetUIForUserListLogin := by
  rcases h with h | h
  · exact fun _ => Or.inr (Or.inr (Or.inr (Or.inl (resetUIForUserListLogin_clickable h).1)))
  · have hitems : s.window.userlist.items ≠ [] := List.length_pos_iff.mp h
    exact (resetUIForUserListLogin_starts hitems).leads

/-! ## Every slot -/

theorem confirm_keepsWay (s : Sys) : KeepsWay s (s.confirm s.window.promptEdit.slotConfirm) := by
  unfold Sys.confirm
  obtain ⟨hnone, hsame⟩ | ⟨hsome, -, -, -⟩ := s.window.promptEdit.slotConfirm_cases
  · rw [hnone, hsame]
    exact keepsWay_silent id
  · rw [hsome]
    dsimp only
    unfold Sys.slotTextConfirmed
    dsimp only
    split_ifs with hinput
    · -- the text answers a prompt, and no name is asked for
      rintro b (hb | hway)
      · exact Or.inl hb
      · right
        rcases hway with h | h | h | ⟨-, h, -⟩
        · exact Or.inl h
        · exact Or.inr (Or.inl h)
        · exact Or.inr (Or.inr (Or.inl h))
        · rw [h] at hinput
          cases hinput
    · exact (startAuthUser_starts _ _ _).leads.keepsWay s

theorem slotButtonClicked_leads {s : Sys} (hguided : s.modes.Guided)
    (hvisible : s.window.btn_notListAndCancel.isVisible = true) : Leads s.slotButtonClicked := by
  unfold Sys.slotButtonClicked
  rcases hbutton : s.window.m_buttonType
  · exact resetUIForManualLogin_leads s
  · rcases hinput : s.window.m_inputMode
    · apply resetUIForUserListLogin_leads
      exact hguided.imp id fun h => h.2 hbutton hinput hvisible
    · exact resetUIForManualLogin_leads s

theorem slotReAuthClicked_leads {s : Sys} (hguided : s.modes.Guided) :
    Leads s.slotReAuthClicked := by
  unfold Sys.slotReAuthClicked
  split_ifs with hmode
  · apply resetUIForUserListLogin_leads
    exact hguided.imp id fun h => h.1 hmode
  · exact resetUIForManualLogin_leads s

theorem slotShowprompt_hasWay {s : Sys} (text : String) (type : PromptType) (h : HasWay s.window) :
    HasWay (s.slotShowprompt text type).window := by
  unfold Sys.slotShowprompt
  by_cases hmode : s.window.m_loginMode = .LOGIN_MODE_MANUAL
  · -- the way back is shown
    simp only [if_pos hmode]
    exact Or.inr (Or.inr (Or.inl ⟨rfl, rfl⟩))
  · simp only [if_neg hmode]
    rcases h with h | h | h | ⟨h, -, -⟩
    · exact Or.inl h
    · exact Or.inr (Or.inl h)
    · exact Or.inr (Or.inr (Or.inl h))
    · exact absurd h hmode

theorem selected_keepsWay {s : Sys} {u : UserListWidget} (r : UserListWidget × Option UserInfo) :
    KeepsWay s (Sys.selected { s with window := { s.window with userlist := u } } r) := by
  rcases hr : r.2 with _ | info
  · unfold Sys.selected
    rw [hr]
    exact keepsWay_silent id
  · exact (selected_starts _ (by rw [hr]; rfl)).leads.keepsWay s

theorem slotAuthenticationComplete_keepsWay (s : Sys) (success : Bool) :
    KeepsWay s (s.slotAuthenticationComplete success) := by
  unfold Sys.slotAuthenticationComplete
  split_ifs
  · exact fun b h => h
  · exact (startAuthUser_starts _ _ _).leads.keepsWay s
  · exact keepsWay_silent fun _ => Or.inr (Or.inl rfl)

theorem slotModelRowsInserted_hasWay {s : Sys} (n : Nat) (h : HasWay s.window) :
    HasWay (s.slotModelRowsInserted n).window := by
  unfold Sys.slotModelRowsInserted
  dsimp only
  split_ifs
  · rcases h with h | h | h | h
    · exact Or.inl h
    · exact Or.inr (Or.inl h)
    · exact Or.inr (Or.inr (Or.inl ⟨rfl, h.2⟩))
    · exact Or.inr (Or.inr (Or.inr h))
  · exact h

theorem slotRowsInserted_keepsWay (s : Sys) (rows : List UserInfo) (first last : Nat) :
    KeepsWay s (s.slotRowsInserted rows first last) := by
  unfold Sys.slotRowsInserted
  dsimp only
  split_ifs
  · exact selected_keepsWay _
  · exact keepsWay_silent id

theorem slotRowsRemoved_keepsWay {s : Sys} (h : s.modes.noListButotnVisiable = true)
    (rows : List UserInfo) (first last : Nat) :
    KeepsWay s (s.slotRowsRemoved rows first last) := by
  have hreselect : ∀ (u : UserListWidget) (reSelect : Bool),
      KeepsWay s (Sys.reselect { s with window := { s.window with userlist := u } } reSelect) := by
    intro u reSelect
    unfold Sys.reselect
    split_ifs
    · exact keepsWay_silent id
    · exact selected_keepsWay _
    · have hleads : Leads (Sys.resetUIForUserListLogin
          { s with window := { s.window with userlist := u } }) :=
        resetUIForUserListLogin_leads (Or.inl h)
      exact hleads.keepsWay s
  unfold Sys.slotRowsRemoved greeter_login_window.andThen
  intro b hb
  rw [begun_append]
  exact hreselect _ _ b hb

/-- Every event that the window takes keeps an attempt or a control. -/
theorem does_keepsWay {s : Sys} {e : Event} (hguided : s.modes.Guided) (htakes : s.takes e)
    (husers : s.modes.noListButotnVisiable = true ∨ e.isModelSignal = false) :
    KeepsWay s (s.does e) := by
  cases e with
  | selectUser row => exact selected_keepsWay (s := s) (u := s.window.userlist) _
  | pressReturn => exact confirm_keepsWay s
  | clickButton => exact confirm_keepsWay s
  | clickNotListAndCancel => exact (slotButtonClicked_leads hguided htakes).keepsWay s
  | clickReAuth => exact (slotReAuthClicked_leads hguided).keepsWay s
  | clickAutologin => exact fun _ _ => Or.inl rfl
  | autologinTimerExpired =>
    show KeepsWay s s.slotAutologinTimerExpired
    unfold Sys.slotAutologinTimerExpired
    split_ifs
    · exact fun b h => h
    · exact fun _ _ => Or.inl rfl
  | showPrompt text type => exact keepsWay_silent (slotShowprompt_hasWay text type)
  | authenticationComplete success => exact slotAuthenticationComplete_keepsWay s success
  | modelRowsInserted n => exact keepsWay_silent (slotModelRowsInserted_hasWay n)
  | modelRowsRemoved n =>
    show KeepsWay s (s.slotModelRowsRemoved n)
    unfold Sys.slotModelRowsRemoved
    dsimp only
    split_ifs
    · exact (resetUIForManualLogin_leads _).keepsWay s
    · exact keepsWay_silent id
  | rowsInserted rows first last => exact slotRowsInserted_keepsWay s rows first last
  | rowsRemoved rows first last =>
    rcases husers with h | h
    · exact slotRowsRemoved_keepsWay h rows first last
    · cases h
  | _ => exact keepsWay_silent id

/-! ## The modes -/

theorem modesAfter_noList (s : Sys) (e : Event) :
    (s.modesAfter e).noListButotnVisiable = s.modes.noListButotnVisiable := by
  cases e with
  | clickNotListAndCancel =>
    show s.modes.buttonClicked.noListButotnVisiable = _
    unfold Modes.buttonClicked
    split <;> rfl
  | clickReAuth =>
    show s.modes.reAuthClicked.noListButotnVisiable = _
    unfold Modes.reAuthClicked
    split_ifs <;> rfl
  | showPrompt text type =>
    show s.modes.prompted.noListButotnVisiable = _
    unfold Modes.prompted
    split_ifs <;> rfl
  | modelRowsRemoved n =>
    show (s.modes.modelRemoved n).noListButotnVisiable = _
    unfold Modes.modelRemoved
    split_ifs <;> rfl
  | rowsRemoved rows first last =>
    show (s.modes.listRemoved _ _).noListButotnVisiable = _
    unfold Modes.listRemoved
    split_ifs <;> rfl
  | _ => rfl

theorem manualLogin_guided (m : Modes) : m.manualLogin.Guided := by
  refine Or.inr ⟨nofun, fun _ _ hvisible => ?_⟩
  exact of_decide_eq_true (Bool.and_eq_true_iff.mp hvisible).2

theorem userListLogin_guided {m : Modes} (h : 0 < m.userCount) : m.userListLogin.Guided :=
  Or.inr ⟨fun _ => h, nofun⟩

/-- The window stays guided, as long as its users stay or a login by name is allowed. -/
theorem step_guided {s t : Sys} {e : Event} {o : List Output} (hs : s.modes.Guided)
    (husers : s.modes.noListButotnVisiable = true ∨ e.isModelSignal = false)
    (h : step s e = some (t, o)) : t.modes.Guided := by
  obtain ⟨htakes, -, -⟩ := step_does h
  rw [step_modes h]
  by_cases hlist : s.modes.noListButotnVisiable = true
  · exact Or.inl ((modesAfter_noList s e).trans hlist)
  · have hguided := hs.resolve_left hlist
    cases e with
    | clickNotListAndCancel =>
      show s.modes.buttonClicked.Guided
      unfold Modes.buttonClicked
      rcases hbutton : s.modes.buttonType
      · exact manualLogin_guided _
      · rcases hinput : s.modes.inputMode
        · exact userListLogin_guided (hguided.2 hbutton hinput htakes)
        · exact manualLogin_guided _
    | clickReAuth =>
      show s.modes.reAuthClicked.Guided
      unfold Modes.reAuthClicked
      split_ifs with hmode
      · exact userListLogin_guided (hguided.1 hmode)
      · exact manualLogin_guided _
    | showPrompt text type =>
      show s.modes.prompted.Guided
      unfold Modes.prompted
      split_ifs with hmode
      · refine Or.inr ⟨fun hlistMode => ?_, fun _ => nofun⟩
        cases hmode.symm.trans hlistMode
      · exact Or.inr ⟨hguided.1, fun _ => nofun⟩
    | modelRowsInserted n => exact absurd husers (by simp [hlist, Event.isModelSignal])
    | modelRowsRemoved n => exact absurd husers (by simp [hlist, Event.isModelSignal])
    | rowsInserted rows first last => exact absurd husers (by simp [hlist, Event.isModelSignal])
    | rowsRemoved rows first last => exact absurd husers (by simp [hlist, Event.isModelSignal])
    | _ => exact hs

/-! ## What the user does -/

/-- A name that is asked for can be given, and its attempt begins. -/
theorem AsksName.begins {s : Sys} (h : AsksName s.window) :
    ∃ name s1 s2 o, step s (.type name) = some (s1, []) ∧ step s1 .pressReturn = some (s2, o) ∧
      ∀ b, begun b o = true := by
  obtain ⟨-, hinput, hkeys⟩ := h
  obtain ⟨name, hhint, hname⟩ : ∃ name : String,
      name ≠ s.greeter.autologinUserHint ∧ name.isEmpty = false := by
    by_cases ha : "a" = s.greeter.autologinUserHint
    · exact ⟨"b", fun hb => absurd (ha.trans hb.symm) (by decide), by decide⟩
    · exact ⟨"a", ha, by decide⟩
  obtain ⟨s1, hs1⟩ : ∃ s1 : Sys, s1 = { s with window := { s.window with
      promptEdit := s.window.promptEdit.setText name } } := ⟨_, rfl⟩
  have htype : step s (.type name) = some (s1, []) := by
    simp only [step, PromptEdit.type, hkeys, if_true, hs1]
    rfl
  have hreturn : step s1 .pressReturn = some (s1.confirm s1.window.promptEdit.slotConfirm) := by
    have hkeys1 : s1.window.promptEdit.takesKeys = true := by
      rw [hs1]
      exact hkeys
    simp only [step, PromptEdit.pressReturn, hkeys1, if_true]
    rfl
  have hconfirm : s1.window.promptEdit.slotConfirm =
      (s1.window.promptEdit.startMovieAndEmitSignal.1, some name) := by
    unfold PromptEdit.slotConfirm
    rw [hs1, if_neg (by simp [PromptEdit.setText, hname])]
    rfl
  refine ⟨name, s1, (s1.confirm s1.window.promptEdit.slotConfirm).1,
    (s1.confirm s1.window.promptEdit.slotConfirm).2, htype, hreturn, fun b => ?_⟩
  have hname1 : s1.window.promptEdit.text = name := by rw [hs1]; rfl
  unfold Sys.confirm
  rw [hconfirm]
  dsimp only
  unfold Sys.slotTextConfirmed
  dsimp only
  have hresponds : s1.window.m_inputMode ≠ .EDIT_INPUT_PROMPT_RESPOND := by
    rw [hs1]
    intro heq
    cases hinput.symm.trans heq
  rw [if_neg hresponds]
  apply startAuthUser_begins
  show s1.window.promptEdit.text ≠ s1.greeter.autologinUserHint
  rw [hname1, hs1]
  exact hhint

end session_guard.greeter_login_window
