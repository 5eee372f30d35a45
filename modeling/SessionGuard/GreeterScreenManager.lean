-- `GreeterScreenManager`: a background for each screen, and the login window on one
-- of them. The manager looks at the primary screen only when a screen comes or goes.
import SessionGuard.Machine
import Mathlib.Logic.Function.Basic

open machine

namespace session_guard.greeter_screen_manager

/-! ## The manager -/

/-- A `GreeterBackground`, by the number of its creation. -/
abbrev Background := Nat

/-- A screen, and whether its `physicalSize` is empty. -/
structure ScreenInfo (Screen : Type) where
  screen : Screen
  physicalSizeEmpty : Bool

/-- The manager, `qApp->primaryScreen()`, the parent of `m_greeterWindow`, and the
backgrounds that `deleteLater` was called on. -/
structure GreeterScreenManager (Screen : Type) where
  m_BackgroundWidgetMap : Screen → Option Background := fun _ => none
  parent : Option Background := none
  primaryScreen : Option Screen
  deleted : List Background := []
  /-- `m_greeterWindow` has not gone with its parent. -/
  windowLives : Bool := true
  /-- The number of the next background. -/
  created : Background := 0

namespace GreeterScreenManager

variable {Screen : Type} [DecidableEq Screen] (m : GreeterScreenManager Screen)

def newScreenBackgroundWidget (screen : Screen) : GreeterScreenManager Screen :=
  { m with
    m_BackgroundWidgetMap := Function.update m.m_BackgroundWidgetMap screen (some m.created)
    created := m.created + 1 }

def setGreeterOnBackground (background : Background) : GreeterScreenManager Screen :=
  { m with parent := some background }

/-- The background of the primary screen. -/
def primaryBackground : Option Background := m.primaryScreen.bind m.m_BackgroundWidgetMap

/-- The window goes on the primary screen, when that has a background. -/
def setGreeterOnPrimary : GreeterScreenManager Screen :=
  match m.primaryBackground with
  | none => m
  | some background => m.setGreeterOnBackground background

/-- `init`, where `qApp->screens()` are these. -/
def init (screens : List (ScreenInfo Screen)) (primaryScreen : Option Screen) :
    GreeterScreenManager Screen :=
  setGreeterOnPrimary <|
    (screens.filter fun info => !info.physicalSizeEmpty).foldl
      (fun m info => m.newScreenBackgroundWidget info.screen) { primaryScreen := primaryScreen }

def slotScreenAdded (screen : Screen) : GreeterScreenManager Screen :=
  let m := m.newScreenBackgroundWidget screen
  if m.parent = none then m.setGreeterOnPrimary else m

/-- The background of the screen is taken off the map, and is deleted later. -/
def dropBackground (screen : Screen) : GreeterScreenManager Screen :=
  match m.m_BackgroundWidgetMap screen with
  | none => m
  | some background =>
    { m with
      parent := if m.parent = some background then none else m.parent
      deleted := background :: m.deleted
      m_BackgroundWidgetMap := Function.update m.m_BackgroundWidgetMap screen none }

def slotScreenRemoved (screen : Screen) : GreeterScreenManager Screen :=
  let m := m.dropBackground screen
  if m.parent = none then m.setGreeterOnPrimary else m

def mouseEnterInWindow (background : Background) : GreeterScreenManager Screen :=
  if m.parent ≠ some background then m.setGreeterOnBackground background else m

/-- The event loop deletes what `deleteLater` was called on, with its children. -/
def deleteDeferred : GreeterScreenManager Screen :=
  { m with
    windowLives := m.windowLives && m.parent.all fun background => !m.deleted.contains background
    deleted := [] }

end GreeterScreenManager

/-! ## The events -/

inductive Event (Screen : Type)
  | screenAdded (screen : Screen)
  | screenRemoved (screen : Screen)
  /-- Another screen becomes the primary one. -/
  | primaryChanged (primaryScreen : Option Screen)
  /-- The mouse enters the background of a screen. -/
  | mouseEnter (screen : Screen)
  | deleteDeferred

variable {Screen : Type}

def screenStep [DecidableEq Screen] :
    Step (GreeterScreenManager Screen) (Event Screen) Empty
  | m, .screenAdded screen => some (m.slotScreenAdded screen, [])
  | m, .screenRemoved screen => some (m.slotScreenRemoved screen, [])
  | m, .primaryChanged primaryScreen => some ({ m with primaryScreen := primaryScreen }, [])
  | m, .mouseEnter screen =>
    (m.m_BackgroundWidgetMap screen).map fun background => (m.mouseEnterInWindow background, [])
  | m, .deleteDeferred => some (m.deleteDeferred, [])

/-! ## The law -/

/-- The window is on a background of the map that is not about to be deleted, or on none
where the primary screen has none. -/
def KeepsWindow (m : GreeterScreenManager Screen) : Prop :=
  match m.parent with
  | some background =>
    (∃ screen, m.m_BackgroundWidgetMap screen = some background) ∧ background ∉ m.deleted
  | none => m.primaryBackground = none

/-- A screen that becomes the primary one has no background while the window is on none, and
a screen that is added does not replace the background that the window is on. -/
def KeepsAttached (m : GreeterScreenManager Screen) : Event Screen → Prop
  | .primaryChanged primaryScreen =>
    m.parent = none → primaryScreen.bind m.m_BackgroundWidgetMap = none
  | .screenAdded screen => m.parent ≠ none → m.m_BackgroundWidgetMap screen ≠ m.parent
  | _ => True

/-- Each background of the map is the background of one screen and is not deleted, and all of
them have been created. -/
structure Sound (m : GreeterScreenManager Screen) : Prop where
  distinct : ∀ s1 s2 b, m.m_BackgroundWidgetMap s1 = some b →
    m.m_BackgroundWidgetMap s2 = some b → s1 = s2
  kept : ∀ s b, m.m_BackgroundWidgetMap s = some b → b ∉ m.deleted
  mapped_lt : ∀ s b, m.m_BackgroundWidgetMap s = some b → b < m.created
  deleted_lt : ∀ b ∈ m.deleted, b < m.created

/-! ## What the functions do -/

section functions

variable {m : GreeterScreenManager Screen}

/-- The background is one of the map and is not about to be deleted. -/
def Shown (m : GreeterScreenManager Screen) (background : Background) : Prop :=
  (∃ screen, m.m_BackgroundWidgetMap screen = some background) ∧ background ∉ m.deleted

theorem keepsWindow_some {background : Background} (h : m.parent = some background) :
    KeepsWindow m ↔ Shown m background := by
  unfold KeepsWindow
  rw [h]
  rfl

theorem keepsWindow_none (h : m.parent = none) :
    KeepsWindow m ↔ m.primaryBackground = none := by
  unfold KeepsWindow
  rw [h]

theorem setGreeterOnPrimary_sound (h : Sound m) : Sound m.setGreeterOnPrimary := by
  unfold GreeterScreenManager.setGreeterOnPrimary
  split
  · exact h
  · exact ⟨h.distinct, h.kept, h.mapped_lt, h.deleted_lt⟩

/-- The repair of a window that is on no background. -/
theorem setGreeterOnPrimary_keeps (h : Sound m) (hp : m.parent = none) :
    KeepsWindow m.setGreeterOnPrimary := by
  unfold GreeterScreenManager.setGreeterOnPrimary
  split
  · rename_i hb
    exact (keepsWindow_none hp).mpr hb
  · rename_i background hb
    obtain ⟨screen, -, hscreen⟩ := Option.bind_eq_some_iff.mp hb
    exact ⟨⟨screen, hscreen⟩, h.kept screen background hscreen⟩

/-- After a repair, only the background that the window was on counts. -/
theorem repaired_iff (h : Sound m) :
    KeepsWindow (if m.parent = none then m.setGreeterOnPrimary else m) ↔
      ∀ background, m.parent = some background → Shown m background := by
  rcases hp : m.parent with _ | background
  · simp only [if_true, reduceCtorEq, false_imp_iff, implies_true, iff_true]
    exact setGreeterOnPrimary_keeps h hp
  · simp only [reduceCtorEq, if_false, Option.some.injEq, forall_eq']
    exact keepsWindow_some hp

theorem repaired_sound (h : Sound m) :
    Sound (if m.parent = none then m.setGreeterOnPrimary else m) := by
  split_ifs
  · exact setGreeterOnPrimary_sound h
  · exact h

variable [DecidableEq Screen]

theorem newScreen_map_iff {screen s : Screen} {b : Background} :
    (m.newScreenBackgroundWidget screen).m_BackgroundWidgetMap s = some b ↔
      (s = screen ∧ b = m.created) ∨ (s ≠ screen ∧ m.m_BackgroundWidgetMap s = some b) := by
  unfold GreeterScreenManager.newScreenBackgroundWidget
  by_cases hs : s = screen
  · subst hs
    simp [eq_comm]
  · simp [hs]

theorem newScreen_sound (h : Sound m) (screen : Screen) :
    Sound (m.newScreenBackgroundWidget screen) := by
  refine ⟨fun s1 s2 b h1 h2 => ?_, fun s b hb => ?_, fun s b hb => ?_, fun b hb => ?_⟩
  · rw [newScreen_map_iff] at h1 h2
    rcases h1 with ⟨rfl, rfl⟩ | ⟨-, h1⟩ <;> rcases h2 with ⟨rfl, h3⟩ | ⟨-, h2⟩
    · rfl
    · exact absurd (h.mapped_lt _ _ h2) (Nat.lt_irrefl _)
    · exact absurd (h3 ▸ h.mapped_lt _ _ h1) (Nat.lt_irrefl _)
    · exact h.distinct s1 s2 b h1 h2
  · rcases newScreen_map_iff.mp hb with ⟨-, rfl⟩ | ⟨-, hb⟩
    · exact fun hmem => Nat.lt_irrefl _ (h.deleted_lt _ hmem)
    · exact h.kept s b hb
  · rcases newScreen_map_iff.mp hb with ⟨-, rfl⟩ | ⟨-, hb⟩
    · exact Nat.lt_succ_self _
    · exact Nat.lt_succ_of_lt (h.mapped_lt s b hb)
  · exact Nat.lt_succ_of_lt (h.deleted_lt b hb)

/-- A background that was shown still is, unless it was that of the screen. -/
theorem newScreen_shown_iff (h : Sound m) {screen : Screen} {b : Background} (hb : Shown m b) :
    Shown (m.newScreenBackgroundWidget screen) b ↔ m.m_BackgroundWidgetMap screen ≠ some b := by
  obtain ⟨⟨other, hother⟩, hkept⟩ := hb
  constructor
  · rintro ⟨⟨s, hs⟩, -⟩ hsame
    rcases newScreen_map_iff.mp hs with ⟨-, rfl⟩ | ⟨hne, hs⟩
    · exact Nat.lt_irrefl _ (h.mapped_lt other _ hother)
    · exact hne (h.distinct s screen b hs hsame)
  · intro hne
    have hscreen : other ≠ screen := by
      rintro rfl
      exact hne hother
    exact ⟨⟨other, newScreen_map_iff.mpr (Or.inr ⟨hscreen, hother⟩)⟩, hkept⟩

/-- A drop leaves the backgrounds of the other screens, and the window on none but these. -/
theorem dropBackground_spec (m : GreeterScreenManager Screen) (screen : Screen) :
    (∀ s b, (m.dropBackground screen).m_BackgroundWidgetMap s = some b ↔
        s ≠ screen ∧ m.m_BackgroundWidgetMap s = some b) ∧
      (∀ b, (m.dropBackground screen).parent = some b ↔
        m.parent = some b ∧ m.m_BackgroundWidgetMap screen ≠ some b) ∧
      (∀ b, b ∈ (m.dropBackground screen).deleted ↔
        b ∈ m.deleted ∨ m.m_BackgroundWidgetMap screen = some b) ∧
      (m.dropBackground screen).created = m.created := by
  unfold GreeterScreenManager.dropBackground
  rcases hscreen : m.m_BackgroundWidgetMap screen with _ | background
  · refine ⟨fun s b => ⟨fun hb => ⟨?_, hb⟩, fun hb => hb.2⟩, ?_, ?_, rfl⟩
    · rintro rfl
      simp [hscreen] at hb
    · simp
    · simp
  · refine ⟨fun s b => ?_, fun b => ?_, fun b => ?_, rfl⟩
    · by_cases hs : s = screen
      · subst hs
        simp
      · simp [hs]
    · by_cases hp : m.parent = some background
      · simp only [hp, if_true, reduceCtorEq, false_iff, not_and, not_not]
        exact id
      · simp only [if_neg hp, ne_eq, Option.some.injEq, iff_self_and]
        rintro hb rfl
        exact hp hb
    · simp only [List.mem_cons, Option.some.injEq]
      exact ⟨fun hb => hb.elim (fun hb => Or.inr hb.symm) Or.inl,
        fun hb => hb.elim Or.inr fun hb => Or.inl hb.symm⟩

theorem dropBackground_sound (h : Sound m) (screen : Screen) : Sound (m.dropBackground screen) := by
  obtain ⟨hmap, -, hdeleted, hcreated⟩ := dropBackground_spec m screen
  refine ⟨fun s1 s2 b h1 h2 => ?_, fun s b hb => ?_, fun s b hb => ?_, fun b hb => ?_⟩
  · exact h.distinct s1 s2 b ((hmap s1 b).mp h1).2 ((hmap s2 b).mp h2).2
  · obtain ⟨hne, hb⟩ := (hmap s b).mp hb
    rw [hdeleted]
    rintro (hmem | hscreen)
    · exact h.kept s b hb hmem
    · exact hne (h.distinct s screen b hb hscreen)
  · rw [hcreated]
    exact h.mapped_lt s b ((hmap s b).mp hb).2
  · rw [hcreated]
    exact ((hdeleted b).mp hb).elim (h.deleted_lt b) (h.mapped_lt screen b)

/-- The window leaves a background that is dropped, and stays on any other. -/
theorem dropBackground_shown (screen : Screen) (h : ∀ b, m.parent = some b → Shown m b) :
    ∀ b, (m.dropBackground screen).parent = some b → Shown (m.dropBackground screen) b := by
  obtain ⟨hmap, hparent, hdeleted, -⟩ := dropBackground_spec m screen
  intro b hb
  obtain ⟨hb, hscreen⟩ := (hparent b).mp hb
  obtain ⟨⟨s, hs⟩, hkept⟩ := h b hb
  refine ⟨⟨s, (hmap s b).mpr ⟨?_, hs⟩⟩, ?_⟩
  · rintro rfl
    exact hscreen hs
  · rw [hdeleted]
    exact not_or.mpr ⟨hkept, hscreen⟩

end functions

/-! ## Every run -/

section runs

variable {m m1 : GreeterScreenManager Screen} {e : Event Screen} {o : List Empty}

/-- What holds of the window and of the map in every run that keeps the window. -/
structure Keeping (m : GreeterScreenManager Screen) : Prop where
  sound : Sound m
  keepsWindow : KeepsWindow m
  windowLives : m.windowLives = true

theorem KeepsWindow.shown (h : KeepsWindow m) : ∀ b, m.parent = some b → Shown m b :=
  fun _ hb => (keepsWindow_some hb).mp h

theorem repaired_windowLives (h : m.windowLives = true) :
    (if m.parent = none then m.setGreeterOnPrimary else m).windowLives = true := by
  unfold GreeterScreenManager.setGreeterOnPrimary
  split_ifs
  · split <;> exact h
  · exact h

variable [DecidableEq Screen]

theorem dropBackground_windowLives (screen : Screen) :
    (m.dropBackground screen).windowLives = m.windowLives := by
  unfold GreeterScreenManager.dropBackground
  split <;> rfl

/-- A step keeps the window exactly when it keeps it attached. -/
theorem step_keepsWindow_iff (h : Keeping m) (hstep : screenStep m e = some (m1, o)) :
    KeepsWindow m1 ↔ KeepsAttached m e := by
  cases e with
  | screenAdded screen =>
    cases hstep
    refine (repaired_iff (newScreen_sound h.sound screen)).trans ?_
    show (∀ b, m.parent = some b → _) ↔ (m.parent ≠ none → _)
    rcases hp : m.parent with _ | b
    · simp
    · simp only [Option.some.injEq, forall_eq', ne_eq, reduceCtorEq, not_false_eq_true,
        true_implies]
      exact newScreen_shown_iff h.sound (h.keepsWindow.shown b hp)
  | screenRemoved screen =>
    cases hstep
    refine iff_of_true ?_ trivial
    exact (repaired_iff (dropBackground_sound h.sound screen)).mpr
      (dropBackground_shown screen h.keepsWindow.shown)
  | primaryChanged primaryScreen =>
    cases hstep
    have hsame : GreeterScreenManager.parent { m with primaryScreen := primaryScreen } =
      m.parent := rfl
    obtain hp | ⟨b, hp⟩ := Option.eq_none_or_eq_some m.parent
    · exact (keepsWindow_none (hsame.trans hp)).trans ⟨fun hb _ => hb, fun hb => hb hp⟩
    · have hshown := h.keepsWindow.shown b hp
      exact iff_of_true ((keepsWindow_some (hsame.trans hp)).mpr hshown)
        fun hnone => by simp [hp] at hnone
  | mouseEnter screen =>
    obtain ⟨b, hb, heq⟩ := Option.map_eq_some_iff.mp hstep
    cases heq
    refine iff_of_true ?_ trivial
    unfold GreeterScreenManager.mouseEnterInWindow
    split_ifs
    · exact ⟨⟨screen, hb⟩, h.sound.kept screen b hb⟩
    · exact h.keepsWindow
  | deleteDeferred =>
    cases hstep
    refine iff_of_true ?_ trivial
    have hsame : m.deleteDeferred.parent = m.parent := rfl
    obtain hp | ⟨b, hp⟩ := Option.eq_none_or_eq_some m.parent
    · exact (keepsWindow_none (hsame.trans hp)).mpr ((keepsWindow_none hp).mp h.keepsWindow)
    · obtain ⟨hscreen, -⟩ := h.keepsWindow.shown b hp
      exact (keepsWindow_some (hsame.trans hp)).mpr ⟨hscreen, List.not_mem_nil⟩

/-- A step that keeps the window leaves all that it needs. -/
theorem step_keeping (h : Keeping m) (he : KeepsAttached m e)
    (hstep : screenStep m e = some (m1, o)) : Keeping m1 := by
  have hkeeps := (step_keepsWindow_iff h hstep).mpr he
  cases e with
  | screenAdded screen =>
    cases hstep
    have hsound := newScreen_sound h.sound screen
    exact ⟨repaired_sound hsound, hkeeps, repaired_windowLives h.windowLives⟩
  | screenRemoved screen =>
    cases hstep
    have hsound := dropBackground_sound h.sound screen
    refine ⟨repaired_sound hsound, hkeeps, repaired_windowLives ?_⟩
    rw [dropBackground_windowLives, h.windowLives]
  | primaryChanged primaryScreen =>
    cases hstep
    exact ⟨⟨h.sound.distinct, h.sound.kept, h.sound.mapped_lt, h.sound.deleted_lt⟩, hkeeps,
      h.windowLives⟩
  | mouseEnter screen =>
    obtain ⟨b, hb, heq⟩ := Option.map_eq_some_iff.mp hstep
    cases heq
    unfold GreeterScreenManager.mouseEnterInWindow at hkeeps ⊢
    split_ifs at hkeeps ⊢
    · exact ⟨⟨h.sound.distinct, h.sound.kept, h.sound.mapped_lt, h.sound.deleted_lt⟩, hkeeps,
        h.windowLives⟩
    · exact h
  | deleteDeferred =>
    cases hstep
    refine ⟨⟨h.sound.distinct, fun s b _ => List.not_mem_nil, h.sound.mapped_lt,
      fun b hb => absurd hb List.not_mem_nil⟩, hkeeps, ?_⟩
    -- the window is on none of the backgrounds that go
    simp only [GreeterScreenManager.deleteDeferred, h.windowLives, Bool.true_and]
    rcases hp : m.parent with _ | b
    · rfl
    · simpa using (h.keepsWindow.shown b hp).2

theorem init_keeping (screens : List (ScreenInfo Screen)) (primaryScreen : Option Screen) :
    Keeping (.init screens primaryScreen) := by
  have hfold : ∀ (infos : List (ScreenInfo Screen)) (m : GreeterScreenManager Screen),
      Sound m → m.parent = none → m.windowLives = true →
      let m1 := infos.foldl (fun m info => m.newScreenBackgroundWidget info.screen) m
      Sound m1 ∧ m1.parent = none ∧ m1.windowLives = true := by
    intro infos
    induction infos with
    | nil => exact fun m hs hp hw => ⟨hs, hp, hw⟩
    | cons info infos ih => exact fun m hs hp hw => ih _ (newScreen_sound hs info.screen) hp hw
  obtain ⟨hsound, hparent, hlives⟩ := hfold (screens.filter fun info => !info.physicalSizeEmpty)
    { primaryScreen := primaryScreen } ⟨by simp, by simp, by simp, by simp⟩ rfl rfl
  refine ⟨setGreeterOnPrimary_sound hsound, setGreeterOnPrimary_keeps hsound hparent, ?_⟩
  have := repaired_windowLives hlives
  rwa [if_pos hparent] at this

/-- After `init` the window is kept, and a run keeps it exactly when it keeps it attached. -/
theorem the_window_is_kept_iff (screens : List (ScreenInfo Screen)) (primaryScreen : Option Screen)
    (es : List (Event Screen)) :
    KeepsWindow (.init screens primaryScreen) ∧
      (Always screenStep (fun _ _ _ m => KeepsWindow m) (.init screens primaryScreen) es ↔
        Meets screenStep KeepsAttached (.init screens primaryScreen) es) := by
  have hinit := init_keeping screens primaryScreen
  refine ⟨hinit.keepsWindow, always_iff_meets (I := Keeping) ?_ ?_ hinit⟩
  · exact fun m e m1 o h hstep => step_keepsWindow_iff h hstep
  · exact fun m e m1 o h he hstep => step_keeping h he hstep

/-- A window that is kept attached never goes with a background. -/
theorem the_window_lives (screens : List (ScreenInfo Screen)) (primaryScreen : Option Screen)
    {es : List (Event Screen)}
    (h : Meets screenStep KeepsAttached (.init screens primaryScreen) es) :
    Always screenStep (fun _ _ _ m => m.windowLives = true) (.init screens primaryScreen) es := by
  refine always_of_inv (I := Keeping) ?_ (init_keeping screens primaryScreen) h
  intro m e m1 o hm he hstep
  have hm1 := step_keeping hm he hstep
  exact ⟨hm1, hm1.windowLives⟩

end runs

/-- The primary screen has no size at the start, and then the other screen becomes the primary
one: the window stays on no background, although there is one for it. -/
theorem a_new_primary_screen_stays_empty :
    ∃ m, run screenStep (.init [⟨0, true⟩, ⟨1, false⟩] (some 0)) [.primaryChanged (some 1)] =
        some (m, []) ∧ ¬ KeepsWindow m := by
  refine ⟨_, rfl, fun h => ?_⟩
  have hnone := (keepsWindow_none rfl).mp h
  cases hnone

end session_guard.greeter_screen_manager
