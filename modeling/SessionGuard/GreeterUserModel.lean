-- The login window and its user list follow the users of LightDM, each through a
-- model of its own. The handlers of the two run one after the other in any order, and
-- the user clicks, confirms and is prompted between them.
import SessionGuard.ItemModel
import SessionGuard.GreeterAssertions

open machine

namespace session_guard.greeter_login_window

open prompt_edit user_list_widget item_model

/-! ## The two models -/

/-- `FilterUserProxyModel::filterAcceptsRow`. -/
def filterAcceptsRow (m_filterUsers : List String) (info : UserInfo) : Bool :=
  !m_filterUsers.contains info.name

/-- The window, and the rows of LightDM as the model of the window and the one of the user
list know them. One of the two may be behind the other. -/
structure Followers where
  sys : Sys
  m_filterUsers : List String
  windowRows : List UserInfo
  listRows : List UserInfo
  /-- The changes that the list has handled, and the window has not. -/
  ahead : List (Change UserInfo) := []
  /-- The changes that the window has handled, and the list has not. -/
  behind : List (Change UserInfo) := []

/-- The rows that a filter lets through. -/
def Followers.shown (p : Followers) (rows : List UserInfo) : List UserInfo :=
  rows.filter (filterAcceptsRow p.m_filterUsers)

/-- The slots of the window for the signals of `m_filterModel`. -/
def Followers.windowHandles (p : Followers) (c : Change UserInfo) : Sys × List Output :=
  let n := (p.shown (c.apply p.windowRows)).length
  match c.signal (filterAcceptsRow p.m_filterUsers) p.windowRows with
  | none => (p.sys, [])
  | some (.rowsInserted _ _) => (p.sys.slotModelRowsInserted n, [])
  | some (.rowsRemoved _ _) => p.sys.slotModelRowsRemoved n

/-- The slots of the user list for the signals of its `m_filterModel`. -/
def Followers.listHandles (p : Followers) (c : Change UserInfo) : Sys × List Output :=
  let rows := p.shown (c.apply p.listRows)
  match c.signal (filterAcceptsRow p.m_filterUsers) p.listRows with
  | none => (p.sys, [])
  | some (.rowsInserted first last) => p.sys.slotRowsInserted rows first last
  | some (.rowsRemoved first last) => p.sys.slotRowsRemoved rows first last

inductive Turn
  /-- Anything but a signal of a model. -/
  | event (e : Event)
  /-- A change that is new to both. -/
  | windowFirst (c : Change UserInfo)
  | listFirst (c : Change UserInfo)
  /-- The oldest change that the other one has handled. -/
  | windowFollows
  | listFollows

def Event.isModelSignal : Event → Bool
  | .modelRowsInserted _ => true
  | .modelRowsRemoved _ => true
  | .rowsInserted _ _ _ => true
  | .rowsRemoved _ _ _ => true
  | _ => false

namespace Followers

variable (p : Followers)

/-- The window handles a change, and these are left to it. -/
def windowTakes (c : Change UserInfo) (ahead behind : List (Change UserInfo)) : Followers :=
  { p with
    sys := (p.windowHandles c).1
    windowRows := c.apply p.windowRows
    ahead := ahead
    behind := behind }

/-- The user list handles a change, and these are left to it. -/
def listTakes (c : Change UserInfo) (ahead behind : List (Change UserInfo)) : Followers :=
  { p with
    sys := (p.listHandles c).1
    listRows := c.apply p.listRows
    ahead := ahead
    behind := behind }

end Followers

def turnStep : Step Followers Turn Output
  | p, .event e =>
    if e.isModelSignal then none else (step p.sys e).map fun (s, o) => ({ p with sys := s }, o)
  | p, .windowFirst c =>
    if p.ahead = [] then some (p.windowTakes c [] (p.behind ++ [c]), (p.windowHandles c).2)
    else none
  | p, .listFirst c =>
    if p.behind = [] then some (p.listTakes c (p.ahead ++ [c]) [], (p.listHandles c).2) else none
  | p, .windowFollows =>
    match p.ahead with
    | [] => none
    | c :: cs => some (p.windowTakes c cs p.behind, (p.windowHandles c).2)
  | p, .listFollows =>
    match p.behind with
    | [] => none
    | c :: cs => some (p.listTakes c p.ahead cs, (p.listHandles c).2)

/-- The window and its user list after the constructor. Both models know the same users. -/
def Followers.init (prefs : Prefs) (users : List UserInfo) (autologinUserHint : String)
    (m_inputMode : EditInputMode) : Followers where
  sys := .init prefs users autologinUserHint m_inputMode
  m_filterUsers := prefs.hiddenUsers
  windowRows := users
  listRows := users

/-! ## What the two agree on -/

/-- Once both have handled the same changes, the button that returns to the list is there
when there is a list to return to, and the list mode has users. -/
def Agrees (p : Followers) : Prop :=
  p.ahead = [] → p.behind = [] →
    (p.sys.window.m_loginMode = .LOGIN_MODE_MANUAL →
      p.sys.window.m_inputMode = .EDIT_INPUT_USER_NAME →
      (p.sys.window.btn_notListAndCancel.isVisible = true ↔
        p.sys.window.m_showUserList = true ∧ p.sys.window.userlist.items ≠ [])) ∧
    (p.sys.window.m_loginMode = .LOGIN_MODE_USER_LIST → p.sys.window.userlist.items ≠ [])

/-- The event resets the window to ask for a name. -/
def Event.asksName (s : Sys) : Event → Prop
  | .clickNotListAndCancel =>
    s.window.m_buttonType = .BUTTON_SWITCH_TO_MANUAL_LOGIN ∨
      s.window.m_inputMode = .EDIT_INPUT_PROMPT_RESPOND
  | .clickReAuth => s.window.m_loginMode = .LOGIN_MODE_MANUAL
  | _ => False

/-- Users come to an empty model while a name is asked for without the button: one comes
alone, and nobody is authenticated, or the users go again in the changes that are left. -/
def Followers.FirstIsSeen (p : Followers) (c : Change UserInfo) (ahead : List (Change UserInfo)) :
    Prop :=
  p.shown p.windowRows = [] → p.sys.window.m_loginMode = .LOGIN_MODE_MANUAL →
    p.sys.window.m_inputMode = .EDIT_INPUT_USER_NAME →
    p.sys.window.btn_notListAndCancel.isVisible = false →
    ((p.shown (c.apply p.windowRows)).length = 1 ∧ p.sys.greeter.isAuthenticated = false) ∨
      Reaches (fun rows => p.shown rows = []) (c.apply p.windowRows) ahead

/-- The last user goes from the model of the window only when the list is empty. -/
def Followers.LastIsGone (p : Followers) (c : Change UserInfo) : Prop :=
  p.shown p.windowRows ≠ [] → p.shown (c.apply p.windowRows) = [] →
    p.sys.window.userlist.items = []

/-- When the user list is to be shown: a first user comes alone, the last one goes from the
list first, and a reset that asks for a name finds both models empty or neither. -/
def InOrder (p : Followers) (t : Turn) : Prop :=
  p.sys.window.m_showUserList = true →
    match t with
    | .event e => e.asksName p.sys → p.behind ≠ [] →
        (p.sys.window.userlist.items = [] ↔ p.shown p.windowRows = [])
    | .windowFirst c => p.FirstIsSeen c [] ∧ p.LastIsGone c
    | .windowFollows => ∀ c cs, p.ahead = c :: cs → p.FirstIsSeen c cs
    | _ => True

/-! ## The mode and the rows of the window -/

/-- What the mode says of the rows that a window has and of those it will have, where `E` is
that no user is shown, now or after some change, and `U` that some user is. -/
structure Tracks (m : Modes) (E U : Prop) : Prop where
  alone : m.showUserList = false → m.loginMode = .LOGIN_MODE_MANUAL
  hidden : m.showUserList = true → m.loginMode = .LOGIN_MODE_MANUAL →
    m.inputMode = .EDIT_INPUT_USER_NAME → m.buttonVisible = false → E
  visible : m.loginMode = .LOGIN_MODE_MANUAL → m.inputMode = .EDIT_INPUT_USER_NAME →
    m.buttonVisible = true → U
  list : m.loginMode = .LOGIN_MODE_USER_LIST → U

namespace Tracks

variable {m : Modes} {E U E' U' : Prop}

/-- The counts do not matter, and neither do changes that keep what the rows pass
through. -/
theorem mono (h : Tracks m E U) (hE : E → E') (hU : U → U') (rowCount userCount : Nat) :
    Tracks { m with rowCount := rowCount, userCount := userCount } E' U' :=
  ⟨h.alone, fun hs hm hi hv => hE (h.hidden hs hm hi hv), fun hm hi hv => hU (h.visible hm hi hv),
    fun hl => hU (h.list hl)⟩

theorem shows (h : Tracks m E U) (hl : m.loginMode = .LOGIN_MODE_USER_LIST) :
    m.showUserList = true := by
  by_contra hs
  have hm := h.alone (Bool.eq_false_iff.mpr hs)
  rw [hl] at hm
  cases hm

theorem userListLogin (hs : m.showUserList = true) (hU : U) : Tracks m.userListLogin E U := by
  refine ⟨fun h => ?_, fun _ hm => ?_, fun hm => ?_, fun _ => hU⟩
  · exact absurd (hs.symm.trans h) (by simp)
  · cases hm
  · cases hm

theorem manualLogin (hE : m.showUserList = true → m.userCount = 0 → E)
    (hU : m.showUserList = true → 0 < m.userCount → U) : Tracks m.manualLogin E U := by
  refine ⟨fun _ => rfl, fun hs _ _ hv => ?_, fun _ _ hv => ?_, fun hl => ?_⟩
  · have hs' : m.showUserList = true := hs
    have hv' : (m.showUserList && decide (0 < m.userCount)) = false := hv
    rw [hs', Bool.true_and, decide_eq_false_iff_not] at hv'
    exact hE hs (by omega)
  · have hv' : (m.showUserList && decide (0 < m.userCount)) = true := hv
    rw [Bool.and_eq_true, decide_eq_true_eq] at hv'
    exact hU hv'.1 hv'.2
  · cases hl

theorem prompted (h : Tracks m E U) : Tracks m.prompted E U := by
  unfold Modes.prompted
  split_ifs with hm
  · refine ⟨fun _ => hm, fun _ _ hi => ?_, fun _ hi => ?_, fun hl => ?_⟩
    · cases hi
    · cases hi
    · exact h.list hl
  · refine ⟨h.alone, fun _ _ hi => ?_, fun _ hi => ?_, h.list⟩
    · cases hi
    · cases hi

/-- A click on the button returns to the list only where that is shown. -/
theorem buttonClicked (h : Tracks m E U) (hc : Consistent m) (hv : m.buttonVisible = true)
    (hE : m.buttonType = .BUTTON_SWITCH_TO_MANUAL_LOGIN ∨ m.inputMode = .EDIT_INPUT_PROMPT_RESPOND →
      m.showUserList = true → m.userCount = 0 → E)
    (hU : m.buttonType = .BUTTON_SWITCH_TO_MANUAL_LOGIN ∨ m.inputMode = .EDIT_INPUT_PROMPT_RESPOND →
      m.showUserList = true → 0 < m.userCount → U) : Tracks m.buttonClicked E U := by
  unfold Modes.buttonClicked
  split
  · rename_i hb
    exact manualLogin (hE (Or.inl hb)) (hU (Or.inl hb))
  · rename_i hb hi
    have hm := manual_of_return hc hb
    exact userListLogin (hc.returns hv hm hi) (h.visible hm hi hv)
  · rename_i hb hi
    exact manualLogin (hE (Or.inr hi)) (hU (Or.inr hi))

theorem reAuthClicked (h : Tracks m E U)
    (hE : m.loginMode = .LOGIN_MODE_MANUAL → m.showUserList = true → m.userCount = 0 → E)
    (hU : m.loginMode = .LOGIN_MODE_MANUAL → m.showUserList = true → 0 < m.userCount → U) :
    Tracks m.reAuthClicked E U := by
  unfold Modes.reAuthClicked
  by_cases hl : m.loginMode = .LOGIN_MODE_USER_LIST
  · rw [if_pos hl]
    exact userListLogin (h.shows hl) (h.list hl)
  · rw [if_neg hl]
    have hm : m.loginMode = .LOGIN_MODE_MANUAL := by
      rcases hmode : m.loginMode
      · exact absurd hmode hl
      · rfl
    exact manualLogin (hE hm) (hU hm)

/-- Users that come to the window are some users. -/
theorem modelInserted (h : Tracks m E U) {isAuthenticated : Bool} {n : Nat} (hU : U')
    (hE : E → m.showUserList = true → m.loginMode = .LOGIN_MODE_MANUAL →
      m.inputMode = .EDIT_INPUT_USER_NAME → m.buttonVisible = false →
      (n = 1 ∧ isAuthenticated = false) ∨ E') :
    Tracks (m.modelInserted isAuthenticated n) E' U' := by
  refine ⟨h.alone, fun hs hm hi hv => ?_, fun _ _ _ => hU, fun _ => hU⟩
  have hs' : m.showUserList = true := hs
  have hm' : m.loginMode = .LOGIN_MODE_MANUAL := hm
  obtain ⟨hv1, hv2⟩ := Bool.or_eq_false_iff.mp hv
  rcases hE (h.hidden hs hm hi hv1) hs hm hi hv1 with ⟨hn, hauth⟩ | hE'
  · simp [hs', hm', hn, hauth] at hv2
  · exact hE'

/-- Only an enabled list resets the window, and that shows the list already. -/
theorem listRemoved (h : Tracks m E U) (hc : Consistent m) {reSelect : Bool}
    (hsel : reSelect = true → m.listEnabled = true) (count : Nat) :
    Tracks (m.listRemoved reSelect count) E U := by
  have hcount := h.mono id id m.rowCount count
  unfold Modes.listRemoved
  split_ifs with hreset
  · have hl : m.loginMode = .LOGIN_MODE_USER_LIST :=
      hc.enabled (hsel (Bool.and_eq_true_iff.mp hreset).1)
    exact userListLogin (h.shows hl) (h.list hl)
  · exact hcount

end Tracks

/-! ## What the handlers do -/

/-- No user is shown by the model of the window, now or after some change that it has not
handled. -/
def Followers.noneSeen (p : Followers) : Prop :=
  Reaches (fun rows => p.shown rows = []) p.windowRows p.ahead

/-- Some user is shown by the model of the window, now or after some such change. -/
def Followers.someSeen (p : Followers) : Prop :=
  Reaches (fun rows => p.shown rows ≠ []) p.windowRows p.ahead

structure Following (p : Followers) : Prop where
  consistent : Consistent p.sys.modes
  userCount : p.sys.modes.userCount = (p.shown p.listRows).length
  oneAhead : p.ahead = [] ∨ p.behind = []
  listRows : p.behind = [] → applyAll p.windowRows p.ahead = p.listRows
  windowRows : p.ahead = [] → applyAll p.listRows p.behind = p.windowRows
  tracks : Tracks p.sys.modes p.noneSeen p.someSeen

/-- A change that keeps the property of the rows goes on to the rest. -/
theorem reaches_rest {P : List UserInfo → Prop} {rows : List UserInfo} {c : Change UserInfo}
    {cs : List (Change UserInfo)} (hP : P rows → P (c.apply rows)) (h : Reaches P rows (c :: cs)) :
    Reaches P (c.apply rows) cs :=
  h.elim (fun h => reaches_now (hP h)) id

theorem windowHandles_consistent {p : Followers} (h : Consistent p.sys.modes)
    (c : Change UserInfo) : Consistent (p.windowHandles c).1.modes := by
  unfold Followers.windowHandles
  dsimp only
  split
  · exact h
  · rw [Sys.slotModelRowsInserted_modes]
    exact h.modelInserted _ _
  · rw [Sys.slotModelRowsRemoved_modes]
    exact h.modelRemoved _

theorem windowHandles_userCount (p : Followers) (c : Change UserInfo) :
    (p.windowHandles c).1.modes.userCount = p.sys.modes.userCount := by
  unfold Followers.windowHandles
  dsimp only
  split
  · rfl
  · rw [Sys.slotModelRowsInserted_modes]
    rfl
  · rw [Sys.slotModelRowsRemoved_modes]
    unfold Modes.modelRemoved
    split_ifs <;> rfl

/-- The window handles a change: a first user is seen, and the last one is gone only when
the list is empty or users come again. -/
theorem windowHandles_tracks {p : Followers} {c : Change UserInfo} {ahead : List (Change UserInfo)}
    (h : Tracks p.sys.modes (Reaches (fun rows => p.shown rows = []) p.windowRows (c :: ahead))
      (Reaches (fun rows => p.shown rows ≠ []) p.windowRows (c :: ahead)))
    (hfirst : p.sys.window.m_showUserList = true → p.FirstIsSeen c ahead)
    (hlast : p.sys.window.m_showUserList = true → p.shown p.windowRows ≠ [] →
      p.shown (c.apply p.windowRows) = [] → 0 < p.sys.modes.userCount →
      Reaches (fun rows => p.shown rows ≠ []) (c.apply p.windowRows) ahead) :
    Tracks (p.windowHandles c).1.modes
      (Reaches (fun rows => p.shown rows = []) (c.apply p.windowRows) ahead)
      (Reaches (fun rows => p.shown rows ≠ []) (c.apply p.windowRows) ahead) := by
  unfold Followers.windowHandles
  dsimp only
  split
  · rename_i hsignal
    have hlen : (p.shown (c.apply p.windowRows)).length = (p.shown p.windowRows).length :=
      signal_none hsignal
    refine h.mono (reaches_rest fun hnone => ?_) (reaches_rest fun hsome => ?_)
      p.sys.modes.rowCount p.sys.modes.userCount
    · rw [← List.length_eq_zero_iff] at hnone ⊢
      omega
    · rw [← List.length_pos_iff] at hsome ⊢
      omega
  · rename_i hsignal
    obtain ⟨hle, hlen⟩ := signal_inserted hsignal
    rw [Sys.slotModelRowsInserted_modes]
    refine h.modelInserted (reaches_now (List.length_pos_iff.mp ?_)) fun hE hs hm hi hv => ?_
    · unfold Followers.shown
      omega
    · rcases hE with hnone | hE
      · exact hfirst hs hnone hm hi hv
      · exact Or.inr hE
  · rename_i hsignal
    obtain ⟨hle, hlt, hlen⟩ := signal_removed hsignal
    have hbefore : p.shown p.windowRows ≠ [] := by
      apply List.length_pos_iff.mp
      unfold Followers.shown
      omega
    rw [Sys.slotModelRowsRemoved_modes]
    unfold Modes.modelRemoved
    by_cases hafter : (p.shown (c.apply p.windowRows)).length = 0
    · have hnone := List.length_eq_zero_iff.mp hafter
      rw [if_pos hafter]
      exact Tracks.manualLogin (fun _ _ => reaches_now hnone) fun hs => hlast hs hbefore hnone
    · rw [if_neg hafter]
      have hsome := List.length_pos_iff.mp (Nat.pos_of_ne_zero hafter)
      exact h.mono (reaches_rest fun hnone => absurd hnone hbefore)
        (fun _ => reaches_now (P := fun rows => p.shown rows ≠ []) hsome) _ p.sys.modes.userCount

theorem listHandles_consistent {p : Followers} (h : Consistent p.sys.modes)
    (c : Change UserInfo) : Consistent (p.listHandles c).1.modes := by
  unfold Followers.listHandles
  dsimp only
  split
  · exact h
  · rw [Sys.slotRowsInserted_modes]
    exact ⟨h.switch, h.enabled, h.returns⟩
  · rw [Sys.slotRowsRemoved_modes]
    exact h.listRemoved _ _

/-- The list has as many items as its model has rows. -/
theorem listHandles_userCount {p : Followers}
    (h : p.sys.modes.userCount = (p.shown p.listRows).length) (c : Change UserInfo) :
    (p.listHandles c).1.modes.userCount = (p.shown (c.apply p.listRows)).length := by
  unfold Followers.listHandles
  dsimp only
  unfold Followers.shown at h ⊢
  split
  · rename_i hsignal
    rw [h, signal_none hsignal]
  · rename_i hsignal
    rw [Sys.slotRowsInserted_modes, (signal_inserted hsignal).2, ← h]
  · rename_i first last hsignal
    obtain ⟨hle, hlt, hlen⟩ := signal_removed hsignal
    have hitems : p.sys.window.userlist.userCount = p.sys.modes.userCount := rfl
    have htaken : (p.sys.taken ((c.apply p.listRows).filter (filterAcceptsRow p.m_filterUsers))
        first last).1.userCount + (last + 1 - first) = p.sys.window.userlist.userCount :=
      takeRows_userCount _ hle (show last < p.sys.window.userlist.userCount by omega)
    rw [Sys.slotRowsRemoved_modes, Modes.listRemoved_userCount]
    omega

theorem listHandles_tracks {p : Followers} {E U : Prop} (hc : Consistent p.sys.modes)
    (h : Tracks p.sys.modes E U) (c : Change UserInfo) : Tracks (p.listHandles c).1.modes E U := by
  unfold Followers.listHandles
  dsimp only
  split
  · exact h
  · rw [Sys.slotRowsInserted_modes]
    exact h.mono id id p.sys.modes.rowCount _
  · rw [Sys.slotRowsRemoved_modes]
    apply h.listRemoved hc
    exact (takeRows_enabled { p.sys.window.userlist with m_filterModel := _ } _ _).2

/-! ## Each turn -/

section turns

variable {p : Followers} {c : Change UserInfo} {cs : List (Change UserInfo)}

theorem Following.items (h : Following p) :
    p.sys.window.userlist.items = [] ↔ p.shown p.listRows = [] := by
  have hcount : p.sys.window.userlist.items.length = (p.shown p.listRows).length := h.userCount
  rw [← List.length_eq_zero_iff, ← List.length_eq_zero_iff, hcount]

/-- A reset that asks for a name finds out whether the window will have users. -/
theorem Following.reset (h : Following p)
    (hbehind : p.behind ≠ [] →
      (p.sys.window.userlist.items = [] ↔ p.shown p.windowRows = [])) :
    (p.sys.modes.userCount = 0 → p.noneSeen) ∧ (0 < p.sys.modes.userCount → p.someSeen) := by
  have hitems : p.sys.modes.userCount = 0 ↔ p.sys.window.userlist.items = [] :=
    List.length_eq_zero_iff
  have hcount : (p.sys.modes.userCount = 0 → p.noneSeen) ∧
      (¬ p.sys.modes.userCount = 0 → p.someSeen) := by
    rw [hitems]
    by_cases hb : p.behind = []
    · rw [h.items, ← h.listRows hb]
      exact ⟨fun hnone => reaches_end hnone,
        fun hsome => reaches_end (P := fun rows => p.shown rows ≠ []) hsome⟩
    · rw [hbehind hb]
      exact ⟨fun hnone => reaches_now hnone,
        fun hsome => reaches_now (P := fun rows => p.shown rows ≠ []) hsome⟩
  exact ⟨hcount.1, fun hpos => hcount.2 (by omega)⟩

theorem windowFirst_following (h : Following p) (hahead : p.ahead = [])
    (hG : p.sys.window.m_showUserList = true → p.FirstIsSeen c [] ∧ p.LastIsGone c) :
    Following (p.windowTakes c [] (p.behind ++ [c])) where
  consistent := windowHandles_consistent h.consistent c
  userCount := (windowHandles_userCount p c).trans h.userCount
  oneAhead := Or.inl rfl
  listRows hbehind := absurd hbehind (List.append_ne_nil_of_right_ne_nil _ (List.cons_ne_nil _ _))
  windowRows _ := (applyAll_concat _ _ _).trans (congrArg c.apply (h.windowRows hahead))
  tracks := by
    have htracks := h.tracks
    unfold Followers.noneSeen Followers.someSeen at htracks
    rw [hahead] at htracks
    apply windowHandles_tracks
    · exact htracks.mono (reaches_append [c]) (reaches_append [c]) p.sys.modes.rowCount
        p.sys.modes.userCount
    · exact fun hs => (hG hs).1
    · intro hs hbefore hafter hcount
      exact absurd ((hG hs).2 hbefore hafter) (List.length_pos_iff.mp hcount)

theorem listFirst_following (h : Following p) (hbehind : p.behind = []) :
    Following (p.listTakes c (p.ahead ++ [c]) []) where
  consistent := listHandles_consistent h.consistent c
  userCount := listHandles_userCount h.userCount c
  oneAhead := Or.inr rfl
  listRows _ := (applyAll_concat _ _ _).trans (congrArg c.apply (h.listRows hbehind))
  windowRows hahead := absurd hahead (List.append_ne_nil_of_right_ne_nil _ (List.cons_ne_nil _ _))
  tracks := (listHandles_tracks h.consistent h.tracks c).mono (reaches_append [c])
    (reaches_append [c]) _ _

theorem windowFollows_following (h : Following p) (hahead : p.ahead = c :: cs)
    (hG : p.sys.window.m_showUserList = true → p.FirstIsSeen c cs) :
    Following (p.windowTakes c cs p.behind) := by
  have hbehind : p.behind = [] := h.oneAhead.resolve_left (by simp [hahead])
  have hrows := h.listRows hbehind
  have htracks := h.tracks
  unfold Followers.noneSeen Followers.someSeen at htracks
  rw [hahead] at hrows htracks
  refine ⟨windowHandles_consistent h.consistent c, (windowHandles_userCount p c).trans h.userCount,
    Or.inr hbehind, fun _ => hrows, fun hcs => ?_, ?_⟩
  · have hcs : cs = [] := hcs
    show applyAll p.listRows p.behind = c.apply p.windowRows
    rw [hbehind, ← hrows, hcs]
    rfl
  · apply windowHandles_tracks htracks hG
    intro _ _ _ hcount
    -- the list has the users that the changes leave
    apply reaches_end
    rw [show applyAll (c.apply p.windowRows) cs = p.listRows from hrows]
    exact List.length_pos_iff.mp (h.userCount ▸ hcount)

theorem listFollows_following (h : Following p) (hbehind : p.behind = c :: cs) :
    Following (p.listTakes c p.ahead cs) := by
  have hahead : p.ahead = [] := h.oneAhead.resolve_right (by simp [hbehind])
  have hrows := h.windowRows hahead
  rw [hbehind] at hrows
  refine ⟨listHandles_consistent h.consistent c, listHandles_userCount h.userCount c,
    Or.inl hahead, fun hcs => ?_, fun _ => hrows, listHandles_tracks h.consistent h.tracks c⟩
  have hcs : cs = [] := hcs
  show applyAll p.windowRows p.ahead = c.apply p.listRows
  rw [hahead, ← hrows, hcs]
  rfl

/-- Only the signals of the models change how many users there are. -/
theorem modesAfter_userCount (s : Sys) {e : Event} (h : e.isModelSignal = false) :
    (s.modesAfter e).userCount = s.modes.userCount := by
  cases e with
  | clickNotListAndCancel =>
    unfold Sys.modesAfter Modes.buttonClicked
    dsimp only
    split <;> rfl
  | clickReAuth =>
    unfold Sys.modesAfter Modes.reAuthClicked
    dsimp only
    split_ifs <;> rfl
  | showPrompt text type =>
    unfold Sys.modesAfter Modes.prompted
    dsimp only
    split_ifs <;> rfl
  | modelRowsInserted n => cases h
  | modelRowsRemoved n => cases h
  | rowsInserted rows first last => cases h
  | rowsRemoved rows first last => cases h
  | _ => rfl

theorem event_following {e : Event} {t : Sys} {o : List Output} (h : Following p)
    (hsignal : e.isModelSignal = false) (hstep : step p.sys e = some (t, o))
    (hG : p.sys.window.m_showUserList = true → e.asksName p.sys → p.behind ≠ [] →
      (p.sys.window.userlist.items = [] ↔ p.shown p.windowRows = [])) :
    Following { p with sys := t } := by
  have hmodes := step_modes hstep
  have hcount : t.modes.userCount = p.sys.modes.userCount := by
    rw [hmodes, modesAfter_userCount p.sys hsignal]
  refine ⟨step_consistent h.consistent hstep, hcount.trans h.userCount, h.oneAhead, h.listRows,
    h.windowRows, ?_⟩
  show Tracks t.modes p.noneSeen p.someSeen
  rw [hmodes]
  cases e with
  | clickNotListAndCancel =>
    exact h.tracks.buttonClicked h.consistent (step_does hstep).1
      (fun hasks hs => (h.reset (hG hs hasks)).1) (fun hasks hs => (h.reset (hG hs hasks)).2)
  | clickReAuth =>
    exact h.tracks.reAuthClicked (fun hasks hs => (h.reset (hG hs hasks)).1)
      (fun hasks hs => (h.reset (hG hs hasks)).2)
  | showPrompt text type => exact h.tracks.prompted
  | modelRowsInserted n => cases hsignal
  | modelRowsRemoved n => cases hsignal
  | rowsInserted rows first last => cases hsignal
  | rowsRemoved rows first last => cases hsignal
  | _ => exact h.tracks

end turns

theorem turnStep_following {p p1 : Followers} {t : Turn} {o : List Output} (h : Following p)
    (hG : InOrder p t) (hstep : turnStep p t = some (p1, o)) : Following p1 := by
  cases t with
  | event e =>
    simp only [turnStep] at hstep
    split_ifs at hstep with hsignal
    obtain ⟨⟨s, o⟩, hs, heq⟩ := Option.map_eq_some_iff.mp hstep
    cases heq
    exact event_following h (Bool.eq_false_iff.mpr hsignal) hs hG
  | windowFirst c =>
    simp only [turnStep] at hstep
    split_ifs at hstep with hahead
    cases hstep
    exact windowFirst_following h hahead hG
  | listFirst c =>
    simp only [turnStep] at hstep
    split_ifs at hstep with hbehind
    cases hstep
    exact listFirst_following h hbehind
  | windowFollows =>
    simp only [turnStep] at hstep
    split at hstep
    · cases hstep
    · rename_i c cs hahead
      cases hstep
      exact windowFollows_following h hahead fun hs => hG hs c cs hahead
  | listFollows =>
    simp only [turnStep] at hstep
    split at hstep
    · cases hstep
    · rename_i c cs hbehind
      cases hstep
      exact listFollows_following h hbehind

/-! ## Every run -/

theorem Following.agrees {p : Followers} (h : Following p) : Agrees p := by
  intro hahead hbehind
  have htracks := h.tracks
  have hrows := h.listRows hbehind
  unfold Followers.noneSeen Followers.someSeen at htracks
  rw [hahead] at htracks hrows
  have hitems : p.sys.window.userlist.items = [] ↔ p.shown p.windowRows = [] := by
    rw [h.items, ← hrows]
    rfl
  refine ⟨fun hm hi => ⟨fun hv => ?_, fun ⟨hs, hsome⟩ => ?_⟩, fun hl => ?_⟩
  · rw [Ne, hitems]
    exact ⟨h.consistent.returns hv hm hi, htracks.visible hm hi hv⟩
  · by_contra hv
    exact hsome (hitems.mpr (htracks.hidden hs hm hi (Bool.eq_false_iff.mpr hv)))
  · rw [Ne, hitems]
    exact htracks.list hl

/-- The window starts with the list when that is to be shown and has users. -/
theorem init_modes (prefs : Prefs) (users : List UserInfo) (autologinUserHint : String)
    (m_inputMode : EditInputMode) :
    ∃ m : Modes, m.userCount = (users.filter (filterAcceptsRow prefs.hiddenUsers)).length ∧
      (Sys.init prefs users autologinUserHint m_inputMode).modes =
        if m.showUserList && 0 < m.userCount then m.userListLogin else m.manualLogin := by
  let rows := users.filter (filterAcceptsRow prefs.hiddenUsers)
  let list := ({ m_filterModel := rows : UserListWidget }).loadUserList prefs.hiddenUsers
  have hcount : list.userCount = rows.length :=
    congrArg List.length (UserListWidget.loadUserList_whole users prefs.hiddenUsers)
  let s : Sys :=
    { window :=
        { m_filterModel_rowCount := rows.length
          m_inputMode := m_inputMode
          userlist := list
          m_noListButotnVisiable := prefs.noListButotnVisiable
          m_showUserList := prefs.showUserList }
      greeter := { autologinUserHint := autologinUserHint } }
  refine ⟨s.modes, hcount, ?_⟩
  have hinit : Sys.init prefs users autologinUserHint m_inputMode =
      (if prefs.showUserList && 0 < rows.length then s.resetUIForUserListLogin
        else s.resetUIForManualLogin).1 := rfl
  rw [hinit, show s.modes.userCount = rows.length from hcount]
  show Sys.modes _ = if prefs.showUserList && 0 < rows.length then _ else _
  split_ifs
  · exact s.resetUIForUserListLogin_modes
  · exact s.resetUIForManualLogin_modes

theorem init_following (prefs : Prefs) (users : List UserInfo) (autologinUserHint : String)
    (m_inputMode : EditInputMode) :
    Following (.init prefs users autologinUserHint m_inputMode) := by
  obtain ⟨m, hcount, hmodes⟩ := init_modes prefs users autologinUserHint m_inputMode
  refine ⟨init_consistent prefs users autologinUserHint m_inputMode, ?_, Or.inl rfl,
    fun _ => rfl, fun _ => rfl, ?_⟩
  · show (Sys.init prefs users autologinUserHint m_inputMode).modes.userCount = _
    rw [hmodes]
    split_ifs <;> exact hcount
  · show Tracks (Sys.init prefs users autologinUserHint m_inputMode).modes _ _
    rw [hmodes]
    split_ifs with hlist
    · rw [Bool.and_eq_true, decide_eq_true_eq] at hlist
      exact Tracks.userListLogin hlist.1 (List.length_pos_iff.mp (hcount ▸ hlist.2))
    · refine Tracks.manualLogin (fun _ hzero => List.length_eq_zero_iff.mp (hcount ▸ hzero)) ?_
      intro hs hpos
      exact absurd (Bool.and_eq_true_iff.mpr ⟨hs, decide_eq_true hpos⟩) hlist

/-- Along every run, for every configuration, the login window and its user list agree once
both have handled the same changes, as long as a first user comes alone, the last one goes
from the list first, and a reset that asks for a name does not find one model empty and the
other not. -/
theorem window_and_list_agree (prefs : Prefs) (users : List UserInfo) (autologinUserHint : String)
    (m_inputMode : EditInputMode) (ts : List Turn)
    (hG : Meets turnStep InOrder (.init prefs users autologinUserHint m_inputMode) ts) :
    Agrees (.init prefs users autologinUserHint m_inputMode) ∧
      Always turnStep (fun _ _ _ p => Agrees p) (.init prefs users autologinUserHint m_inputMode)
        ts := by
  have hinit := init_following prefs users autologinUserHint m_inputMode
  refine ⟨hinit.agrees, always_of_inv (G := InOrder) (I := Following) ?_ hinit hG⟩
  intro p t p1 o hp hg hstep
  have hp1 := turnStep_following hp hg hstep
  exact ⟨hp1, hp1.agrees⟩

/-- Alice goes from the list and then from the window. Bob comes to the window and then to
the list, and a click returns to it. -/
theorem bob_comes_after_alice :
    Agrees (.init samplePrefs [{ name := "alice" }] "" .EDIT_INPUT_USER_NAME) ∧
      Always turnStep (fun _ _ _ p => Agrees p)
        (.init samplePrefs [{ name := "alice" }] "" .EDIT_INPUT_USER_NAME)
        [.listFirst (.remove 0 1), .windowFollows, .windowFirst (.insert 0 [{ name := "bob" }]),
          .listFollows, .event .clickNotListAndCancel] := by
  apply window_and_list_agree
  refine meets_cons rfl (fun _ => trivial) <| meets_cons rfl ?_ <| meets_cons rfl ?_ <|
    meets_cons rfl (fun _ => trivial) <| meets_cons rfl ?_ meets_nil
  · rintro - c cs h
    cases h
    exact fun h => by cases h
  · exact fun _ => ⟨fun _ _ _ _ => Or.inl ⟨rfl, rfl⟩, fun h => absurd rfl h⟩
  · exact fun _ _ h => absurd rfl h

/-- Two users come at once to the empty models, and the list stays out of reach. The only
user goes from the window first, and the button returns to a list without users. -/
theorem batches_and_order_matter :
    (∃ p o, run turnStep (.init samplePrefs [] "" .EDIT_INPUT_USER_NAME)
      [.windowFirst (.insert 0 [{ name := "alice" }, { name := "bob" }]), .listFollows] =
        some (p, o) ∧ ¬ Agrees p) ∧
    ∃ p o, run turnStep (.init samplePrefs [{ name := "alice" }] "" .EDIT_INPUT_USER_NAME)
      [.windowFirst (.remove 0 1), .listFollows] = some (p, o) ∧ ¬ Agrees p := by
  refine ⟨⟨_, _, rfl, fun h => ?_⟩, ⟨_, _, rfl, fun h => ?_⟩⟩
  · have hlost := ((h rfl rfl).1 rfl rfl).mpr ⟨rfl, by decide⟩
    cases hlost
  · exact (((h rfl rfl).1 rfl rfl).mp rfl).2 rfl

end session_guard.greeter_login_window
