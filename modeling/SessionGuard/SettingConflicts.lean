-- Is a change of the settings by another program ever overwritten unasked? A save compares
-- what the page showed with what it would show now, and values that the page cannot show
-- look alike.
import SessionGuard.GreeterSettingWindow

open machine

namespace session_guard.greeter_setting_window

/-! ## The law -/

def Output.isSetter : Output → Bool
  | .calls _ => true
  | _ => false

/-- The dialog comes first, and no setter is called on Discard. -/
def AsksFirst (clickedRole : Role) (o : List Output) : Prop :=
  ∃ rest, o = configurationChanged :: rest ∧
    (clickedRole = .Discard → ∀ x ∈ rest, x.isSetter = false)

/-- A save of a page asks first when the backend holds other settings than at the last load of
the page. -/
def NothingSilent {σ : Type} (s : Panel σ) (e : Event) (o : List Output) (_ : Panel σ) : Prop :=
  match e with
  | .save .GreeterSettings_Appearance clickedRole _ =>
    s.loaded.general ≠ s.prefs.general → AsksFirst clickedRole o
  | .save .GreeterSettings_Autologin clickedRole _ =>
    s.loaded.autologin ≠ s.prefs.autologin → AsksFirst clickedRole o
  | _ => True

variable {σ : Type} (env : Env σ)

/-! ## What a page notices -/

/-- The mode is shown as 0. -/
def Env.ReadsDefaultMode (mode : UInt16) : Prop := mode = 0 ∨ mode.toUInt64 ∉ env.scaleModes

/-- The factor is shown as 1. -/
def ReadsDefaultFactor (factor : UInt16) : Prop := factor = 1 ∨ factor.toUInt64 ∉ scaleFactors

/-- The user is shown as nobody. -/
def ReadsNobody (users : List String) (user : String) : Prop := user = "" ∨ user ∉ users

/-- Other settings than these are shown differently. -/
def Env.GeneralNoticed (a b : GeneralPrefs) : Prop :=
  a.background ≠ b.background ∨ a.hide_user_list ≠ b.hide_user_list ∨
    a.allow_manual_login ≠ b.allow_manual_login ∨
      (a.scale_mode ≠ b.scale_mode ∧
        ¬ (env.ReadsDefaultMode a.scale_mode ∧ env.ReadsDefaultMode b.scale_mode)) ∨
      (a.scale_factor ≠ b.scale_factor ∧
        ¬ (ReadsDefaultFactor a.scale_factor ∧ ReadsDefaultFactor b.scale_factor))

def AutoLoginNoticed (users : List String) (a b : AutoLoginPrefs) : Prop :=
  a.autologin_timeout ≠ b.autologin_timeout ∨
    (a.autologin_user ≠ b.autologin_user ∧
      ¬ (ReadsNobody users a.autologin_user ∧ ReadsNobody users b.autologin_user))

/-- When a page is saved, the settings of it are those that were loaded, or the page would
show others. -/
def ChangesAreNoticed (users : List String) (s : Panel σ) : Event → Prop
  | .save .GreeterSettings_Appearance _ _ =>
    s.loaded.general ≠ s.prefs.general → env.GeneralNoticed s.loaded.general s.prefs.general
  | .save .GreeterSettings_Autologin _ _ =>
    s.loaded.autologin ≠ s.prefs.autologin →
      AutoLoginNoticed users s.loaded.autologin s.prefs.autologin
  | _ => True

/-- Two values with a default for those that do not pass are told apart unless both give the
default. -/
theorem default_ne_iff {α β : Type} [DecidableEq β] {p : α → Prop} [DecidablePred p] {f : α → β}
    (hf : Function.Injective f) (d a b : α) :
    (if p a then f a else f d) ≠ (if p b then f b else f d) ↔
      a ≠ b ∧ ¬ ((a = d ∨ ¬ p a) ∧ (b = d ∨ ¬ p b)) := by
  by_cases ha : p a
  · by_cases hb : p b
    · rw [if_pos ha, if_pos hb, Ne, hf.eq_iff]
      simp only [ha, hb, not_true_eq_false, or_false]
      exact ⟨fun h => ⟨h, fun ⟨h1, h2⟩ => h (h1.trans h2.symm)⟩, fun h => h.1⟩
    · rw [if_pos ha, if_neg hb, Ne, hf.eq_iff]
      simp only [ha, hb, not_true_eq_false, not_false_eq_true, or_false, or_true, and_true]
      exact ⟨fun h => ⟨fun heq => hb (heq ▸ ha), h⟩, fun h => h.2⟩
  · by_cases hb : p b
    · rw [if_neg ha, if_pos hb, Ne, hf.eq_iff]
      simp only [ha, hb, not_true_eq_false, not_false_eq_true, or_false, or_true, true_and]
      exact ⟨fun h => ⟨fun heq => ha (heq ▸ hb), fun heq => h heq.symm⟩, fun h heq => h.2 heq.symm⟩
    · rw [if_neg ha, if_neg hb]
      simp [ha, hb]

theorem shownGeneral_ne_iff (a b : GeneralPrefs) :
    env.shownGeneral b ≠ env.shownGeneral a ↔ env.GeneralNoticed a b := by
  have hinj : Function.Injective UInt16.toUInt64 := fun x y h => UInt16.toUInt64_inj.mp h
  have hmode := default_ne_iff (p := fun mode : UInt16 => mode.toUInt64 ∈ env.scaleModes) hinj 0
    a.scale_mode b.scale_mode
  have hfactor := default_ne_iff (p := fun factor : UInt16 => factor.toUInt64 ∈ scaleFactors) hinj 1
    a.scale_factor b.scale_factor
  have hzero : (0 : UInt16).toUInt64 = 0 := rfl
  have hone : (1 : UInt16).toUInt64 = 1 := rfl
  rw [hzero] at hmode
  rw [hone] at hfactor
  unfold Env.GeneralNoticed Env.ReadsDefaultMode ReadsDefaultFactor
  rw [← hmode, ← hfactor, ne_comm]
  simp only [Env.shownGeneral, Ne, GeneralSetting.mk.injEq, not_and_or]

theorem shownAutoLogin_ne_iff (users : List String) (a b : AutoLoginPrefs) :
    shownAutoLogin users b ≠ shownAutoLogin users a ↔ AutoLoginNoticed users a b := by
  have huser := default_ne_iff (p := fun user : String => user ∈ users) Function.injective_id ""
    a.autologin_user b.autologin_user
  unfold AutoLoginNoticed ReadsNobody
  rw [← huser, ne_comm, or_comm]
  simp only [shownAutoLogin, Ne, AutoLoginSetting.mk.injEq, not_and_or, id]

/-! ## Each save -/

/-- A save of a page that never shows the dialog by itself asks first exactly when the page has
changed. -/
theorem save_asks_iff (s : Panel σ) (changed : Bool) {setters : List Setter}
    {tips : List String → Output} {reset : Panel σ → Panel σ × List Output}
    (hne : setters ≠ []) (hreset : ∀ s, ∀ x ∈ (reset s).2, x.isSetter = false)
    (clickedRole : Role) (replies : Replies) :
    AsksFirst clickedRole (s.save changed setters tips reset clickedRole replies).2 ↔
      changed = true := by
  unfold Panel.save
  dsimp only
  cases changed with
  | true =>
    refine iff_of_true ?_ rfl
    by_cases hdiscard : clickedRole = .Discard
    · rw [if_pos (by simpa using hdiscard)]
      exact ⟨_, rfl, fun _ => hreset s⟩
    · rw [if_neg (by simpa using hdiscard)]
      exact ⟨_, rfl, fun h => absurd h hdiscard⟩
  | false =>
    refine iff_of_false ?_ Bool.false_ne_true
    obtain ⟨c, cs, rfl⟩ := List.exists_cons_of_ne_nil hne
    rintro ⟨rest, ho, -⟩
    -- the first thing that goes out is a call
    have hcall : ∃ sent, sentSetters replies (c :: cs) = c :: sent := by
      simp only [sentSetters]
      split_ifs
      · exact ⟨[], rfl⟩
      · exact ⟨cs, rfl⟩
    obtain ⟨sent, hsent⟩ := hcall
    rw [Bool.false_and, if_neg Bool.false_ne_true, if_neg Bool.false_ne_true, hsent] at ho
    exact Output.noConfusion (List.cons.inj ho).1

theorem onLoginOptionsChanged_setters (w : GreeterSettingWindow σ) (b : SwitchButton) :
    ∀ x ∈ (w.onLoginOptionsChanged b).2, x.isSetter = false := by
  unfold GreeterSettingWindow.onLoginOptionsChanged
  split_ifs <;> simp [Output.isSetter]

theorem setChecked_setters (w : GreeterSettingWindow σ) (b : SwitchButton) (checked : Bool) :
    ∀ x ∈ (w.setChecked b checked).2, x.isSetter = false := by
  unfold GreeterSettingWindow.setChecked
  split_ifs
  · simp
  · exact onLoginOptionsChanged_setters _ b

/-- The reset of a page calls no setter. -/
theorem resetGeneralSettings_setters (s : Panel σ) :
    ∀ x ∈ (s.resetGeneralSettings env).2, x.isSetter = false := by
  intro x hx
  rcases List.mem_append.mp hx with h | h
  · exact setChecked_setters _ _ _ x h
  · exact setChecked_setters _ _ _ x h

variable {env} {users : List String} {s s1 : Panel σ} {e : Event} {o : List Output}

theorem saveGeneralSettings_asks_iff (h : Built env users s) (clickedRole : Role)
    (replies : Replies) :
    AsksFirst clickedRole (s.saveGeneralSettings env clickedRole replies).2 ↔
      env.GeneralNoticed s.loaded.general s.prefs.general := by
  refine (save_asks_iff s _ (List.cons_ne_nil _ _) (resetGeneralSettings_setters env) clickedRole
    replies).trans ?_
  rw [decide_eq_true_iff, getGeneralSettingInfoFromBackend_eq h.items, h.general,
    shownGeneral_ne_iff]

theorem saveAutoLoginSettings_asks_iff (h : Built env users s) (clickedRole : Role)
    (replies : Replies) :
    AsksFirst clickedRole (s.saveAutoLoginSettings clickedRole replies).2 ↔
      AutoLoginNoticed users s.loaded.autologin s.prefs.autologin := by
  refine (save_asks_iff s _ (List.cons_ne_nil _ _) (fun _ _ hx => absurd hx List.not_mem_nil)
    clickedRole replies).trans ?_
  rw [decide_eq_true_iff, getAutologinSettingInfoFromBackend_eq h.items, h.autologin,
    shownAutoLogin_ne_iff]

theorem step_silent_iff (h : Built env users s) (hstep : step env s e = some (s1, o)) :
    NothingSilent s e o s1 ↔ ChangesAreNoticed env users s e := by
  cases e with
  | save page clickedRole replies =>
    cases page
    · have ho : (s.saveGeneralSettings env clickedRole replies).2 = o :=
        congrArg Prod.snd (Option.some.inj hstep)
      exact imp_congr_right fun _ => ho ▸ saveGeneralSettings_asks_iff h clickedRole replies
    · have ho : (s.saveAutoLoginSettings clickedRole replies).2 = o :=
        congrArg Prod.snd (Option.some.inj hstep)
      exact imp_congr_right fun _ => ho ▸ saveAutoLoginSettings_asks_iff h clickedRole replies
  | _ => exact Iff.rfl

/-- No change of another program is overwritten silently in the runs where each save finds the
settings that were loaded, or a change that the page would show. -/
theorem nothing_is_overwritten_silently_iff (env : Env σ) (images : σ)
    (objVector : Option (List (Option String))) (rootIconFile : Bool)
    (m_origSettingInfo : GreeterSettingInfo) (prefs : KiranGreeterPrefs) (es : List Event) :
    Always (step env) NothingSilent
        (.init env images objVector rootIconFile m_origSettingInfo prefs) es ↔
      Meets (step env) (ChangesAreNoticed env (initUserComboBox objVector rootIconFile))
        (.init env images objVector rootIconFile m_origSettingInfo prefs) es := by
  apply always_iff_meets (I := Built env (initUserComboBox objVector rootIconFile))
  · exact fun s e s1 o h hstep => step_silent_iff h hstep
  · exact fun s e s1 o h _ hstep => step_built h hstep
  · exact init_built env images objVector rootIconFile m_origSettingInfo prefs

/-- The backend holds the factor 3 at the load and 1 at the save, and the page shows 100% for
both. -/
theorem another_factor_is_overwritten :
    ∃ s o, run (step sampleEnv) (samplePanel ⟨⟨"/a.jpg", false, true, 1, 3⟩, ⟨"", 0⟩⟩)
        [.externalChange ⟨⟨"/a.jpg", false, true, 1, 1⟩, ⟨"", 0⟩⟩, .chooseScaleFactor 1,
          .save .GreeterSettings_Appearance .Discard fun _ => none] = some (s, o) ∧
      o = [.calls (.SetBackground "/a.jpg"), .calls (.SetHideUserList false),
        .calls (.SetAllowManualLogin true), .calls (.SetScaleMode 1 2),
        .tips .HOVE_TIPS_SUC "Saved successfully"] ∧
      ¬ Always (step sampleEnv) NothingSilent
        (samplePanel ⟨⟨"/a.jpg", false, true, 1, 3⟩, ⟨"", 0⟩⟩)
        [.externalChange ⟨⟨"/a.jpg", false, true, 1, 1⟩, ⟨"", 0⟩⟩, .chooseScaleFactor 1,
          .save .GreeterSettings_Appearance .Discard fun _ => none] := by
  refine ⟨_, _, rfl, by decide, fun h => ?_⟩
  obtain ⟨-, h⟩ := h _ _ rfl
  obtain ⟨-, h⟩ := h _ _ rfl
  obtain ⟨hlaw, -⟩ := h _ _ rfl
  obtain ⟨rest, ho, -⟩ := hlaw (by decide)
  exact Output.noConfusion (List.cons.inj ho).1

end session_guard.greeter_setting_window
