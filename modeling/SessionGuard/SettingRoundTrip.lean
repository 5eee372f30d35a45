-- Does a load and a save leave the settings as they were? Each value goes through a widget,
-- and a few values are not among those that the widget has.
import SessionGuard.GreeterSettingWindow

open machine

namespace session_guard.greeter_setting_window

variable {σ : Type}

/-! ## What a load and a save keep -/

/-- The general settings after a load and a save. An empty background becomes the default one, a
mode and a factor that the boxes do not have become 0 and 1, and a hidden list without a login by
name is shown, unless both switches were off already. -/
def Env.keptGeneral (env : Env σ) (w : GreeterSettingWindow σ) (prefs : GeneralPrefs) :
    GeneralPrefs where
  background :=
    if prefs.background.isEmpty then env.readLink.getD DEFAULT_BACKGROUND else prefs.background
  hide_user_list := prefs.hide_user_list &&
    (prefs.allow_manual_login || !(w.m_enableManualSwitch || w.m_showUserListSwitch))
  allow_manual_login := prefs.allow_manual_login
  scale_mode := if prefs.scale_mode.toUInt64 ∈ env.scaleModes then prefs.scale_mode else 0
  scale_factor := if prefs.scale_factor.toUInt64 ∈ scaleFactors then prefs.scale_factor else 1

/-- The user after a load and a save: nobody for one that the box does not have. -/
def keptUser (users : List String) (user : String) : String := if user ∈ users then user else ""

/-! ## The widgets -/

/-- A value that is looked up in a box is current then, or nothing is. -/
theorem find_current {α : Type} [DecidableEq α] (c : ComboBox α) {value d : α}
    (h : value ∈ c.items ∨ value = d) :
    (c.setCurrentIndex (c.find value)).current.getD d = value := by
  rcases hfind : c.find value with _ | idx
  · rw [find_eq_none_iff] at hfind
    rcases h with h | h
    · exact absurd h hfind
    · exact h.symm
  · obtain ⟨hlt, hsame, -⟩ := List.findIdx?_eq_some_iff_getElem.mp hfind
    have hvalue : c.items[idx] = value := of_decide_eq_true hsame
    show (c.items[idx]?).getD d = value
    rw [List.getElem?_eq_getElem hlt]
    exact hvalue

/-- The text of a box after `setCurrentText`, where the box has the text, or nothing at all. -/
theorem setCurrentText_current {c : ComboBox String} {text : String}
    (h : text ∈ c.items ∨ c.items = [] ∧ text = "") :
    (c.setCurrentText text).current.getD "" = text := by
  unfold ComboBox.setCurrentText
  rcases hfind : c.find text with _ | idx
  · rw [find_eq_none_iff] at hfind
    rcases h with h | ⟨hnil, rfl⟩
    · exact absurd h hfind
    · unfold ComboBox.current ComboBox.itemData
      rw [hnil]
      cases c.currentIndex <;> rfl
  · rcases h with h | ⟨hnil, -⟩
    · have := find_current c (d := "") (Or.inl h)
      rwa [hfind] at this
    · unfold ComboBox.find at hfind
      rw [hnil] at hfind
      cases hfind

/-- A number below 2^32 is read back from its text. -/
theorem toUInt_number {n : UInt64} (h : n.toNat < 2 ^ 32) : (toUInt (number n)).toUInt64 = n := by
  have hdigits : ∀ c ∈ Nat.toDigits 10 n.toNat, c.isDigit = true :=
    fun c hc => Nat.isDigit_of_mem_toDigits (by decide) (by decide) hc
  have hplus : withoutPlus (Nat.toDigits 10 n.toNat) = Nat.toDigits 10 n.toNat := by
    unfold withoutPlus
    split
    · rename_i digits heq
      exact absurd (hdigits '+' (heq ▸ List.mem_cons_self)) (by decide)
    · rfl
  have hvalue : toUInt (number n) = UInt32.ofNat n.toNat := by
    unfold toUInt number
    dsimp only
    rw [Nat.toList_repr, hplus, Nat.ofDigitChars_ten_toDigits,
      List.isEmpty_eq_false_iff.mpr Nat.toDigits_ne_nil, List.all_eq_true.mpr hdigits,
      decide_eq_true h]
    rfl
  rw [hvalue]
  apply UInt64.toNat_inj.mp
  rw [UInt32.toNat_toUInt64, UInt32.toNat_ofNat', Nat.mod_eq_of_lt h]

/-- The image of a background is selected after a load. -/
theorem showBackground_selected {env : Env σ} (h : env.Lawful) (w : GreeterSettingWindow σ)
    (background : String) :
    env.selectedImage (w.showBackground env background).m_imageSelector =
      if background.isEmpty then env.readLink.getD DEFAULT_BACKGROUND else background := by
  unfold GreeterSettingWindow.showBackground
  generalize (if background.isEmpty then env.readLink.getD DEFAULT_BACKGROUND
    else background) = shown
  dsimp only
  apply h.selected
  by_cases hmem : shown ∈ env.imageList w.m_imageSelector
  · rw [if_pos hmem]
    exact hmem
  · rw [if_neg hmem]
    exact h.mem_addImage _ _

/-! ## What a load leaves to save -/

/-- A property of 16 bits goes through the data of its box. -/
theorem toUInt16_data (value : UInt16) : value.toUInt64.toUInt32.toUInt16 = value := by
  apply UInt16.toNat_inj.mp
  rw [UInt32.toNat_toUInt16, UInt64.toNat_toUInt32, UInt16.toNat_toUInt64]
  have := value.toNat_lt
  omega

theorem scaleMode_kept {env : Env σ} {c : ComboBox UInt64} (h : c.items = env.scaleModes)
    (prefs : GeneralPrefs) (w : GreeterSettingWindow σ) :
    ((c.setCurrentIndex (c.find (env.shownGeneral prefs).scaleMode)).current.getD
      0).toUInt32.toUInt16 = (env.keptGeneral w prefs).scale_mode := by
  unfold Env.shownGeneral Env.keptGeneral
  dsimp only
  by_cases hmode : prefs.scale_mode.toUInt64 ∈ env.scaleModes
  · rw [if_pos hmode, if_pos hmode, find_current c (Or.inl (h ▸ hmode)), toUInt16_data]
  · rw [if_neg hmode, if_neg hmode, find_current c (Or.inr rfl)]
    rfl

theorem scaleFactor_kept {env : Env σ} {c : ComboBox UInt64} (h : c.items = scaleFactors)
    (prefs : GeneralPrefs) (w : GreeterSettingWindow σ) :
    ((c.setCurrentIndex (c.find (env.shownGeneral prefs).scaleFactor)).current.getD
      0).toUInt32.toUInt16 = (env.keptGeneral w prefs).scale_factor := by
  unfold Env.shownGeneral Env.keptGeneral
  dsimp only
  by_cases hfactor : prefs.scale_factor.toUInt64 ∈ scaleFactors
  · rw [if_pos hfactor, if_pos hfactor, find_current c (Or.inl (h ▸ hfactor)), toUInt16_data]
  · rw [if_neg hfactor, if_neg hfactor, find_current c (Or.inl (h ▸ List.mem_cons_self))]
    rfl

theorem generalSetters_after_load {env : Env σ} (hlaw : env.Lawful) {users : List String}
    {w : GreeterSettingWindow σ} (h : HasItems env users w) (prefs : GeneralPrefs) :
    let kept := env.keptGeneral w prefs
    (w.resetGeneralSettings env prefs).1.generalSetters env =
      [.SetBackground kept.background, .SetHideUserList kept.hide_user_list,
        .SetAllowManualLogin kept.allow_manual_login,
        .SetScaleMode kept.scale_mode kept.scale_factor] := by
  intro kept
  obtain ⟨enabled, heq⟩ := resetGeneralSettings_window env w prefs
  have hbackground := showBackground_selected hlaw w prefs.background
  have hhide : (!(!prefs.hide_user_list || (!prefs.allow_manual_login &&
      (w.m_enableManualSwitch || w.m_showUserListSwitch)))) = kept.hide_user_list := by
    show _ = (prefs.hide_user_list && (prefs.allow_manual_login ||
      !(w.m_enableManualSwitch || w.m_showUserListSwitch)))
    rw [Bool.not_or, Bool.not_and, Bool.not_not, Bool.not_not]
  rw [heq]
  unfold GreeterSettingWindow.generalSetters
  dsimp only
  rw [getGeneralSettingInfoFromBackend_eq h, scaleMode_kept h.modes prefs w,
    scaleFactor_kept h.factors prefs w, hbackground, hhide]
  rfl

/-- The box of the users has an item for nobody, or no item at all. -/
theorem shownUser_mem (objVector : Option (List (Option String))) (rootIconFile : Bool)
    (user : String) :
    let users := initUserComboBox objVector rootIconFile
    keptUser users user ∈ users ∨ users = [] ∧ keptUser users user = "" := by
  intro users
  unfold keptUser
  by_cases hmem : user ∈ users
  · rw [if_pos hmem]
    exact Or.inl hmem
  · rw [if_neg hmem]
    have hnobody : "" ∈ users ∨ users = [] := by
      show "" ∈ initUserComboBox _ _ ∨ initUserComboBox _ _ = []
      unfold initUserComboBox
      split
      · exact Or.inr rfl
      · split_ifs
        · exact Or.inl (List.mem_append_right _ (by simp))
        · exact Or.inr rfl
    exact hnobody.imp_right fun hnil => ⟨hnil, rfl⟩

theorem autoLoginSetters_after_load {env : Env σ} {objVector : Option (List (Option String))}
    {rootIconFile : Bool} {w : GreeterSettingWindow σ}
    (h : HasItems env (initUserComboBox objVector rootIconFile) w) (prefs : AutoLoginPrefs) :
    (w.resetAutoLoginSettings prefs).autoLoginSetters =
      [.SetAutologinUser (keptUser (initUserComboBox objVector rootIconFile) prefs.autologin_user),
        .SetAutologinTimeout (toUInt (number prefs.autologin_timeout)).toUInt64] := by
  unfold GreeterSettingWindow.resetAutoLoginSettings GreeterSettingWindow.autoLoginSetters
  dsimp only
  rw [getAutologinSettingInfoFromBackend_eq h, setCurrentText_current]
  · rfl
  · rw [h.names]
    exact shownUser_mem objVector rootIconFile prefs.autologin_user

/-! ## A save right after a load -/

/-- A save that finds the backend unchanged, and whose calls succeed, makes each call and shows
no dialog. -/
theorem save_unchanged (s : Panel σ) {changed : Bool} (hchanged : changed = false)
    (setters : List Setter) {tips : List String → Output}
    {reset : Panel σ → Panel σ × List Output} (hreset : ∀ s, (reset s).1.prefs = s.prefs)
    (clickedRole : Role) :
    (s.save changed setters tips reset clickedRole fun _ => none).1.prefs =
        setters.foldl KiranGreeterPrefs.set s.prefs := by
  have hsent : sentSetters (fun _ => none) setters = setters := by
    cases setters <;> rfl
  have hprefs : ∀ (setters : List Setter) (s : Panel σ),
      (setters.foldl (fun s c => s.request (fun _ => none) c) s).prefs =
        setters.foldl KiranGreeterPrefs.set s.prefs := by
    intro setters
    induction setters with
    | nil => exact fun s => rfl
    | cons c cs ih => exact fun s => ih _
  unfold Panel.save
  rw [hchanged]
  dsimp only
  rw [Bool.false_and, if_neg Bool.false_ne_true, hreset, hsent, hprefs]

/-- The general page: a load, and a save whose calls succeed. -/
theorem general_after_save {env : Env σ} (hlaw : env.Lawful) {users : List String} {s : Panel σ}
    (h : Built env users s) (clickedRole : Role) :
    ((s.resetGeneralSettings env).1.saveGeneralSettings env clickedRole fun _ => none).1.prefs =
      { s.prefs with general := env.keptGeneral s.window s.prefs.general } := by
  have ht := h.resetGeneral
  have hchanged : decide ((s.resetGeneralSettings env).1.window.getGeneralSettingInfoFromBackend
      (s.resetGeneralSettings env).1.prefs.general ≠
        (s.resetGeneralSettings env).1.window.m_origSettingInfo.appearanceInfo) = false := by
    rw [getGeneralSettingInfoFromBackend_eq ht.items, ht.general]
    exact decide_eq_false (not_not.mpr rfl)
  have hsetters := generalSetters_after_load hlaw h.items s.prefs.general
  unfold Panel.saveGeneralSettings
  rw [save_unchanged _ hchanged _ (fun _ => rfl)]
  show ((s.window.resetGeneralSettings env s.prefs.general).1.generalSetters env).foldl
    KiranGreeterPrefs.set s.prefs = _
  rw [hsetters]
  rfl

theorem autoLogin_after_save {env : Env σ} {objVector : Option (List (Option String))}
    {rootIconFile : Bool} {s : Panel σ}
    (h : Built env (initUserComboBox objVector rootIconFile) s) (clickedRole : Role) :
    (s.resetAutoLoginSettings.1.saveAutoLoginSettings clickedRole fun _ => none).1.prefs =
      { s.prefs with autologin :=
        ⟨keptUser (initUserComboBox objVector rootIconFile) s.prefs.autologin.autologin_user,
          (toUInt (number s.prefs.autologin.autologin_timeout)).toUInt64⟩ } := by
  have ht := h.resetAutoLogin
  have hchanged : decide (s.resetAutoLoginSettings.1.window.getAutologinSettingInfoFromBackend
      s.resetAutoLoginSettings.1.prefs.autologin ≠
        s.resetAutoLoginSettings.1.window.m_origSettingInfo.autoLoginInfo) = false := by
    rw [getAutologinSettingInfoFromBackend_eq ht.items, ht.autologin]
    exact decide_eq_false (not_not.mpr rfl)
  have hsetters := autoLoginSetters_after_load h.items s.prefs.autologin
  unfold Panel.saveAutoLoginSettings
  rw [save_unchanged _ hchanged _ (fun _ => rfl)]
  show (s.window.resetAutoLoginSettings s.prefs.autologin).autoLoginSetters.foldl
    KiranGreeterPrefs.set s.prefs = _
  rw [hsetters]
  rfl

theorem run_two {env : Env σ} {s : Panel σ} {e1 e2 : Event} {r1 r2 : Panel σ × List Output}
    (h1 : step env s e1 = some r1) (h2 : step env r1.1 e2 = some r2) :
    run (step env) s [e1, e2] = some (r2.1, r1.2 ++ (r2.2 ++ [])) :=
  run_cons_iff.mpr ⟨r1.1, r1.2, _, h1, run_cons_iff.mpr ⟨r2.1, r2.2, _, h2, rfl, rfl⟩, rfl⟩

/-- A load and a save of a page keep its settings, but for the values that the window replaces.
A timeout is kept that has 32 bits. -/
theorem a_load_and_a_save_keep (env : Env σ) (hlaw : env.Lawful) (images : σ)
    (objVector : Option (List (Option String))) (rootIconFile : Bool)
    (m_origSettingInfo : GreeterSettingInfo) (prefs : KiranGreeterPrefs) {es : List Event}
    {s : Panel σ} {o : List Output}
    (h : run (step env) (.init env images objVector rootIconFile m_origSettingInfo prefs) es =
      some (s, o)) (clickedRole : Role) :
    (∃ t o1, run (step env) s [.load .GreeterSettings_Appearance,
          .save .GreeterSettings_Appearance clickedRole fun _ => none] = some (t, o1) ∧
        t.prefs = { s.prefs with general := env.keptGeneral s.window s.prefs.general }) ∧
      ∃ t o1, run (step env) s [.load .GreeterSettings_Autologin,
          .save .GreeterSettings_Autologin clickedRole fun _ => none] = some (t, o1) ∧
        t.prefs.general = s.prefs.general ∧
        t.prefs.autologin.autologin_user =
          keptUser (initUserComboBox objVector rootIconFile) s.prefs.autologin.autologin_user ∧
        (s.prefs.autologin.autologin_timeout.toNat < 2 ^ 32 →
          t.prefs.autologin.autologin_timeout = s.prefs.autologin.autologin_timeout) := by
  have hbuilt := run_inv (fun _ _ _ _ h hstep => step_built h hstep)
    (init_built env images objVector rootIconFile m_origSettingInfo prefs) h
  constructor
  · exact ⟨_, _, run_two rfl rfl, general_after_save hlaw hbuilt clickedRole⟩
  · have hprefs := autoLogin_after_save hbuilt clickedRole
    refine ⟨_, _, run_two rfl rfl, ?_⟩
    rw [hprefs]
    exact ⟨rfl, rfl, toUInt_number⟩

/-- All values are among those of the widgets. -/
theorem a_usual_configuration_is_kept :
    let prefs : KiranGreeterPrefs := ⟨⟨"/a.jpg", true, true, 1, 2⟩, ⟨"alice", 10⟩⟩
    ∃ t o, run (step sampleEnv) (samplePanel prefs) [.load .GreeterSettings_Appearance,
        .save .GreeterSettings_Appearance .Save fun _ => none] = some (t, o) ∧ t.prefs = prefs := by
  intro prefs
  have hnone : run (step sampleEnv) (samplePanel prefs) [] = some (samplePanel prefs, []) := rfl
  obtain ⟨⟨t, o, hrun, hkept⟩, -⟩ := a_load_and_a_save_keep sampleEnv sampleEnv_lawful ⟨[], ""⟩
    (some [some "alice"]) true ⟨⟨"", false, false, 0, 0⟩, ⟨"", 0⟩⟩ prefs hnone .Save
  exact ⟨t, o, hrun, hkept.trans (by decide)⟩

/-- What another program leaves in the backend. -/
def unusualPrefs : KiranGreeterPrefs := ⟨⟨"", true, false, 7, 3⟩, ⟨"mallory", 10⟩⟩

/-- The default background, a list that is shown, the scaling that the boxes have, and nobody. -/
theorem an_unusual_configuration_is_changed :
    ∃ s, run (step sampleEnv) (samplePanel ⟨⟨"/a.jpg", false, true, 1, 2⟩, ⟨"alice", 10⟩⟩)
        [.externalChange unusualPrefs] = some (s, []) ∧
      (∃ t o, run (step sampleEnv) s [.load .GreeterSettings_Appearance,
          .save .GreeterSettings_Appearance .Save fun _ => none] = some (t, o) ∧
        t.prefs.general = ⟨"/usr/share/backgrounds/default.jpg", false, false, 0, 1⟩) ∧
      ∃ t o, run (step sampleEnv) s [.load .GreeterSettings_Autologin,
          .save .GreeterSettings_Autologin .Save fun _ => none] = some (t, o) ∧
        t.prefs.autologin = ⟨"", 10⟩ := by
  let s := samplePanel ⟨⟨"/a.jpg", false, true, 1, 2⟩, ⟨"alice", 10⟩⟩
  have hstep : step sampleEnv s (.externalChange unusualPrefs) =
      some ({ s with prefs := unusualPrefs }, []) := rfl
  have hbuilt := step_built (init_built sampleEnv ⟨[], ""⟩ (some [some "alice"]) true _ _) hstep
  refine ⟨_, rfl, ⟨_, _, run_two rfl rfl, ?_⟩, ⟨_, _, run_two rfl rfl, ?_⟩⟩
  · exact (congrArg KiranGreeterPrefs.general
      (general_after_save sampleEnv_lawful hbuilt .Save)).trans rfl
  · refine (congrArg KiranGreeterPrefs.autologin (autoLogin_after_save hbuilt .Save)).trans ?_
    show AutoLoginPrefs.mk _ (toUInt (number 10)).toUInt64 = _
    rw [toUInt_number (by decide)]
    rfl

end session_guard.greeter_setting_window
