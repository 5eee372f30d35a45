-- Is the list shown exactly when there are two users to choose from? A list that gets too
-- short is hidden only while it can be seen.
import SessionGuard.UserListMirror

open machine

namespace session_guard.user_list_widget

namespace UserListWidget

variable (w : UserListWidget)

/-! ## The law -/

/-- `isVisible()` of the `UserListWidget` itself. -/
def isOnScreen : Bool := w.isVisible && w.windowVisible

/-- `ui->userList` is shown for two users or more. So it can be seen then when the
widget is on the screen. -/
def ShowsChoice : Prop :=
  (w.userListVisible = true ↔ 2 ≤ w.userCount) ∧
    (w.isOnScreen = true → (w.userListIsVisible = true ↔ 2 ≤ w.userCount))

/-- What the law is about, apart from the users. -/
def flags : Bool × Bool × Bool := (w.isEnabled, w.isVisible, w.windowVisible)

end UserListWidget

/-- On the screen, only the flag of the list itself decides. -/
theorem showsChoice_iff (w : UserListWidget) :
    w.ShowsChoice ↔ (w.userListVisible = true ↔ 2 ≤ w.userCount) := by
  refine and_iff_left_of_imp fun h hscreen => ?_
  obtain ⟨hvisible, hwindow⟩ := Bool.and_eq_true_iff.mp hscreen
  rw [UserListWidget.userListIsVisible, hvisible, hwindow, Bool.and_true, Bool.and_true]
  exact h

end session_guard.user_list_widget

namespace session_guard.greeter_login_window

open user_list_widget item_model

/-! ## Insertions -/

theorem insertItem_shows {w : UserListWidget} (h : w.ShowsChoice) (row : Nat) (info : UserInfo) :
    (w.insertItem row info).ShowsChoice ∧ (w.insertItem row info).flags = w.flags := by
  rw [showsChoice_iff] at h ⊢
  refine ⟨?_, rfl⟩
  have hcount : (w.insertItem row info).userCount = w.userCount + 1 := by
    simp only [UserListWidget.insertItem, UserListWidget.userCount, List.length_append,
      List.length_take, List.length_drop, List.length_singleton]
    omega
  have hvisible : (w.insertItem row info).userListVisible =
      (w.userListVisible || (!w.userListIsVisible &&
        decide (2 ≤ (w.insertItem row info).userCount))) := rfl
  rw [hvisible, hcount]
  by_cases hshown : w.userListVisible = true
  · have := h.mp hshown
    rw [hshown, Bool.true_or]
    exact iff_of_true rfl (by omega)
  · rw [Bool.not_eq_true] at hshown
    rw [UserListWidget.userListIsVisible, hshown]
    simp

theorem foldl_shows {α : Type*} {f : UserListWidget → α → UserListWidget}
    (hf : ∀ w x, w.ShowsChoice → (f w x).ShowsChoice ∧ (f w x).flags = w.flags)
    {w : UserListWidget} (h : w.ShowsChoice) (xs : List α) :
    (xs.foldl f w).ShowsChoice ∧ (xs.foldl f w).flags = w.flags := by
  induction xs generalizing w with
  | nil => exact ⟨h, rfl⟩
  | cons x xs ih =>
    obtain ⟨hshows, hflags⟩ := hf w x h
    rw [List.foldl_cons, ← hflags]
    exact ih hshows

/-- The users of the model are loaded into an empty list. -/
theorem loadUserList_shows (rows : List UserInfo) (hiddenUsers : List String) :
    let list := ({ m_filterModel := rows } : UserListWidget).loadUserList hiddenUsers
    list.ShowsChoice ∧ list.flags = (true, true, false) := by
  intro list
  have hempty : ({ m_filterModel := rows } : UserListWidget).ShowsChoice := by
    rw [showsChoice_iff]
    exact iff_of_false Bool.false_ne_true (by simp [UserListWidget.userCount])
  exact foldl_shows (fun w info h => insertItem_shows h _ info) hempty _

/-- Neither flag of the law depends on the selection. -/
theorem setCurrentRow_shows {w : UserListWidget} (h : w.ShowsChoice) (row : Nat) :
    (w.setCurrentRow row).1.ShowsChoice ∧ (w.setCurrentRow row).1.flags = w.flags := by
  obtain ⟨selected, heq⟩ := w.setCurrentRow_eq row
  rw [heq]
  exact ⟨h, rfl⟩

theorem inserted_shows {w : UserListWidget} (h : w.ShowsChoice) (rows : List UserInfo)
    (first last : Nat) :
    (w.inserted rows first last).ShowsChoice ∧ (w.inserted rows first last).flags = w.flags := by
  have hrows : (({ w with m_filterModel := rows }).insertRows first last).ShowsChoice ∧
      (({ w with m_filterModel := rows }).insertRows first last).flags = w.flags :=
    foldl_shows (fun w i h => insertItem_shows h i _)
      (show UserListWidget.ShowsChoice { w with m_filterModel := rows } from h) _
  unfold UserListWidget.inserted
  dsimp only
  split_ifs
  · obtain ⟨hshows, hflags⟩ := setCurrentRow_shows hrows.1 0
    exact ⟨hshows, hflags.trans hrows.2⟩
  · exact hrows

/-! ## Removals -/

/-- The loop of a removal changes the items and the selection. -/
theorem takeRows_same (w : UserListWidget) (first last : Nat) :
    ∃ items selected,
      (w.takeRows first last).1 = { w with items := items, selected := selected } := by
  have hfold : ∀ (rows : List Nat) (r : UserListWidget × Bool),
      ∃ items selected,
        (rows.foldl takeRow r).1 = { r.1 with items := items, selected := selected } := by
    intro rows
    induction rows with
    | nil => exact fun r => ⟨r.1.items, r.1.selected, rfl⟩
    | cons i rows ih => exact fun r => ih (takeRow r i)
  exact hfold _ (w, false)

/-- The new selection leaves the rest of a list in the user list mode. -/
theorem reselected_same {w : UserListWidget} {reSelect : Bool}
    (h : reSelect = true → w.isEnabled = true ∧ w.isVisible = true) :
    ∃ selected, w.reselected reSelect = { w with selected := selected } := by
  unfold UserListWidget.reselected
  cases reSelect with
  | false => exact ⟨w.selected, rfl⟩
  | true =>
    obtain ⟨henabled, hvisible⟩ := h rfl
    rw [Bool.not_true, if_neg Bool.false_ne_true]
    split_ifs
    · exact w.setCurrentRow_eq 0
    · obtain ⟨selected, heq⟩ := w.userListLogin_eq
      refine ⟨selected, heq.trans ?_⟩
      simp only [henabled, hvisible]

/-- A removal changes the rows, the items and the selection, before it hides a short list. -/
theorem removed_eq {w : UserListWidget} (h : w.isEnabled = w.isVisible) (rows : List UserInfo)
    (first last : Nat) :
    ∃ items selected, w.removed rows first last = UserListWidget.hideShortList
      { w with m_filterModel := rows, items := items, selected := selected } := by
  obtain ⟨items, selected, htaken⟩ := takeRows_same { w with m_filterModel := rows } first last
  have hreselect := (takeRows_enabled { w with m_filterModel := rows } first last).2
  obtain ⟨selected1, hreselected⟩ := reselected_same (w := (UserListWidget.takeRows
    { w with m_filterModel := rows } first last).1) fun hyes => by
      rw [htaken]
      exact ⟨hreselect hyes, h ▸ hreselect hyes⟩
  refine ⟨items, selected1, ?_⟩
  show UserListWidget.hideShortList (UserListWidget.reselected _ _) = _
  rw [hreselected, htaken]

/-- A list that was shown for enough users gets too short: it must be on the screen then. -/
theorem hideShortList_shows_iff {w : UserListWidget} {count : Nat}
    (h : w.userListVisible = true ↔ 2 ≤ count) (hle : w.userCount ≤ count) :
    w.hideShortList.ShowsChoice ↔ (2 ≤ count → w.userCount < 2 → w.isOnScreen = true) := by
  have hvisible : w.hideShortList.userListVisible =
      (w.userListVisible && !(w.userListIsVisible && decide (w.userCount < 2))) := rfl
  have hcount : w.hideShortList.userCount = w.userCount := rfl
  have hscreen : w.userListIsVisible = (w.userListVisible && w.isOnScreen) := by
    rw [UserListWidget.userListIsVisible, UserListWidget.isOnScreen, Bool.and_assoc]
  rw [showsChoice_iff, hvisible, hcount, hscreen]
  by_cases hmany : 2 ≤ count
  · rw [h.mpr hmany, Bool.true_and, Bool.true_and]
    by_cases hshort : w.userCount < 2
    · rw [decide_eq_true hshort, Bool.and_true]
      cases w.isOnScreen
      · exact iff_of_false (fun h => absurd (h.mp rfl) (by omega)) fun h =>
          Bool.false_ne_true (h hmany hshort)
      · exact iff_of_true (iff_of_false Bool.false_ne_true (by omega)) fun _ _ => rfl
    · rw [decide_eq_false hshort, Bool.and_false]
      exact iff_of_true (iff_of_true rfl (by omega)) fun _ h => absurd h hshort
  · have hhidden : w.userListVisible = false := by
      rw [← Bool.not_eq_true, h]
      exact hmany
    rw [hhidden, Bool.false_and]
    exact iff_of_true (iff_of_false Bool.false_ne_true (by omega)) fun h => absurd h hmany

/-! ## Each step -/

/-- When a removal leaves fewer than two users of a list that had them, the `UserListWidget` is
on the screen. -/
def ShortensOnScreen (p : Listed) : ListEvent → Prop
  | .changed (.remove _ count) =>
    let u := p.sys.window.userlist
    2 ≤ u.userCount → u.userCount - count < 2 → u.isOnScreen = true
  | _ => True

/-- The list follows the law, and has an item for each row. It is enabled in the mode in which
it is visible. -/
structure ListShown (u : UserListWidget) : Prop where
  shows : u.ShowsChoice
  enabled : u.isEnabled = u.isVisible
  sized : Sized u

theorem moves_shows {u u1 : UserListWidget} (h : u.ShowsChoice)
    (henabled : u.isEnabled = u.isVisible) (hmove : u.Moves u1) :
    u1.ShowsChoice ∧ u1.isEnabled = u1.isVisible := by
  rw [showsChoice_iff] at h ⊢
  cases hmove with
  | selects row =>
    obtain ⟨selected, heq⟩ := u.setCurrentRow_eq row
    rw [heq]
    exact ⟨h, henabled⟩
  | userListLogin =>
    obtain ⟨selected, heq⟩ := u.userListLogin_eq
    rw [heq]
    exact ⟨h, rfl⟩
  | manualLogin => exact ⟨h, rfl⟩
  | _ => exact ⟨h, henabled⟩

/-- What a step leaves of the law, and that the rest is kept. -/
theorem listStep_shows {p p1 : Listed} {e : ListEvent} {o : List Output}
    (h : ListShown p.sys.window.userlist) (hstep : listStep p e = some (p1, o)) :
    (p1.sys.window.userlist.ShowsChoice ↔ ShortensOnScreen p e) ∧
      p1.sys.window.userlist.isEnabled = p1.sys.window.userlist.isVisible := by
  have hmove := listMoves_of_step hstep
  unfold ShortensOnScreen
  generalize p.sys.window.userlist = u at h hmove
  generalize p1.sys.window.userlist = u1 at hmove
  have hflags : ∀ w : UserListWidget, w.flags = u.flags → w.isEnabled = w.isVisible := by
    intro w hw
    have henabled : w.isEnabled = u.isEnabled := congrArg Prod.fst hw
    have hvisible : w.isVisible = u.isVisible := congrArg (·.2.1) hw
    rw [henabled, hvisible, h.enabled]
  cases hmove with
  | inserts hvalid =>
    obtain ⟨hshows, hsame⟩ := inserted_shows h.shows _ _ _
    exact ⟨iff_of_true hshows trivial, hflags _ hsame⟩
  | @removes first count hvalid =>
    have hcount := removed_userCount h.sized hvalid
      ((Change.remove first count).apply u.m_filterModel)
    obtain ⟨items, selected, heq⟩ := removed_eq h.enabled
      ((Change.remove first count).apply u.m_filterModel) first (first + count - 1)
    rw [heq] at hcount ⊢
    have hleft : u.userCount - count = items.length := by
      have : items.length + count = u.userCount := hcount
      omega
    refine ⟨?_, h.enabled⟩
    show _ ↔ (2 ≤ u.userCount → u.userCount - count < 2 → u.isOnScreen = true)
    rw [hleft]
    have hle : items.length ≤ u.userCount := hleft ▸ Nat.sub_le _ _
    exact hideShortList_shows_iff ((showsChoice_iff u).mp h.shows) hle
  | dataChanges row info => exact ⟨iff_of_true h.shows trivial, h.enabled⟩
  | window hmove =>
    obtain ⟨hshows, henabled⟩ := moves_shows h.shows h.enabled hmove
    exact ⟨iff_of_true hshows trivial, henabled⟩

theorem init_shown (prefs : Prefs) (users : List UserInfo) (autologinUserHint : String)
    (m_inputMode : EditInputMode) :
    ListShown (Sys.init prefs users autologinUserHint m_inputMode).window.userlist := by
  obtain ⟨hshows, hflags⟩ := loadUserList_shows
    (users.filter fun info => !prefs.hiddenUsers.contains info.name) prefs.hiddenUsers
  have hsized := sized_of_lists (init_lists prefs users autologinUserHint m_inputMode) rfl
  have hmode := init_userlist prefs users autologinUserHint m_inputMode
  dsimp only at hshows hflags hmode
  generalize UserListWidget.loadUserList _ prefs.hiddenUsers = list at hshows hflags hmode
  have henabled : list.isEnabled = list.isVisible := by
    simp only [UserListWidget.flags, Prod.mk.injEq] at hflags
    rw [hflags.1, hflags.2.1]
  have hmoves :
      list.Moves (Sys.init prefs users autologinUserHint m_inputMode).window.userlist := by
    rw [hmode]
    split_ifs
    · exact .userListLogin
    · exact .manualLogin
  obtain ⟨hshows, henabled⟩ := moves_shows hshows henabled hmoves
  exact ⟨hshows, henabled, hsized⟩

/-- The loaded list is shown for two users or more, and a run keeps it so exactly when a list
gets too short only on the screen. -/
theorem the_list_is_shown_iff (prefs : Prefs) (users : List UserInfo) (autologinUserHint : String)
    (m_inputMode : EditInputMode) (es : List ListEvent) :
    (Sys.init prefs users autologinUserHint m_inputMode).window.userlist.ShowsChoice ∧
      (Always listStep (fun _ _ _ p => p.sys.window.userlist.ShowsChoice)
          (.init prefs users autologinUserHint m_inputMode) es ↔
        Meets listStep ShortensOnScreen (.init prefs users autologinUserHint m_inputMode) es) := by
  have hinit := init_shown prefs users autologinUserHint m_inputMode
  refine ⟨hinit.shows, ?_⟩
  apply always_iff_meets (I := fun p => ListShown p.sys.window.userlist) _ _ hinit
  · exact fun p e p1 o h hstep => (listStep_shows h hstep).1
  · intro p e p1 o h he hstep
    obtain ⟨hshows, henabled⟩ := listStep_shows h hstep
    exact ⟨hshows.mpr he, henabled, (listMoves_of_step hstep).sized h.sized⟩

/-- Of two users one goes while the user types a name, and the list of the other one alone is
shown when the user returns to it. -/
theorem a_list_of_one_is_shown :
    ∃ p o, run listStep
        (.init samplePrefs [{ name := "alice" }, { name := "bob" }] "" .EDIT_INPUT_USER_NAME)
        [.window .shown, .window .clickNotListAndCancel, .changed (.remove 0 1),
          .window .clickNotListAndCancel] = some (p, o) ∧
      p.sys.window.userlist.items.map UserInfo.name = ["bob"] ∧
      p.sys.window.userlist.userListIsVisible = true ∧
      ¬ p.sys.window.userlist.ShowsChoice := by
  refine ⟨_, _, rfl, rfl, rfl, fun h => ?_⟩
  exact absurd (h.1.mp rfl) (by decide)

end session_guard.greeter_login_window
