-- One user of the list stays selected while users come and go. A list that is disabled for
-- a login by name keeps no selection, and gets one when it is enabled again.
import SessionGuard.UserListMirror

open machine

namespace session_guard.greeter_login_window

open user_list_widget item_model

/-! ## The law -/

/-- The signals of `UserListWidget`. -/
inductive ListSignal
  | userActivated (userInfo : UserInfo)
  | sigRequestResetUI

/-- The slot of the window that a signal of the list calls. -/
def Sys.emit (s : Sys) : ListSignal → Sys × List Output
  | .userActivated userInfo => s.slotUserActivated userInfo
  | .sigRequestResetUI => s.resetUIForUserListLogin

/-- One item is selected, unless the list is disabled or empty. -/
def SelectsOne (u : UserListWidget) : Prop :=
  u.isEnabled = true → u.items ≠ [] → ∃ i, u.selected = some i ∧ i < u.items.length

/-- What `slotRowsRemoved` asks for when the selected item is gone: the first item that
is left, or a reset of the window. -/
def signalFor : List UserInfo → ListSignal
  | [] => .sigRequestResetUI
  | info :: _ => .userActivated info

/-- The selected item is among the `count` items from `first` on. -/
def isSelectedIn (u : UserListWidget) (first count : Nat) : Bool :=
  u.selected.any fun i => first ≤ i && i < first + count

theorem isSelectedIn_iff {u : UserListWidget} {first count : Nat} :
    isSelectedIn u first count = true ↔
      ∃ i, u.selected = some i ∧ first ≤ i ∧ i < first + count := by
  unfold isSelectedIn
  rcases u.selected with _ | i
  · simp
  · simp

def Sys.withUserlist (s : Sys) (u : UserListWidget) : Sys :=
  { s with window := { s.window with userlist := u } }

/-- What follows the signal in `slotRowsRemoved`. -/
def Sys.hideShortList (s : Sys) : Sys × List Output :=
  (s.withUserlist s.window.userlist.hideShortList, [])

/-- A removal of the selected item from an enabled list selects the first of the items that are
left, and emits the signal for them. -/
def Reselects (p : Listed) (e : ListEvent) (o : List Output) (p1 : Listed) : Prop :=
  match e with
  | .changed (.remove first count) =>
    let items := p1.sys.window.userlist.items
    p.sys.window.userlist.isEnabled = true →
      isSelectedIn p.sys.window.userlist first count = true →
        (items ≠ [] → p1.sys.window.userlist.selected = some 0) ∧
          ∃ u : UserListWidget, u.items = items ∧ (items ≠ [] → u.selected = some 0) ∧
            (p1.sys, o) =
              andThen ((p.sys.withUserlist u).emit (signalFor items)) Sys.hideShortList
  | _ => True

/-! ## The selected row -/

/-- The selected row exists. -/
def InRange (u : UserListWidget) : Prop := ∀ i, u.selected = some i → i < u.items.length

theorem setCurrentRow_selected {u : UserListWidget} {row : Nat} (h : row < u.items.length) :
    (u.setCurrentRow row).1.selected = some row := by
  unfold UserListWidget.setCurrentRow
  split_ifs with hsame
  · exact hsame
  · rw [List.getElem?_eq_getElem h]

theorem setCurrentRow_inRange {u : UserListWidget} (h : InRange u) (row : Nat) :
    InRange (u.setCurrentRow row).1 := by
  unfold UserListWidget.setCurrentRow
  split_ifs
  · exact h
  · split
    · exact h
    · rename_i info hinfo
      intro i hi
      cases hi
      exact (List.getElem?_eq_some_iff.mp hinfo).1

/-- An empty list selects nothing, and any other list its first row. -/
theorem setCurrentRow_zero_selectsOne (u : UserListWidget) : SelectsOne (u.setCurrentRow 0).1 := by
  intro _ hitems
  obtain ⟨selected, heq⟩ := u.setCurrentRow_eq 0
  have hpos : 0 < u.items.length := by
    rw [heq] at hitems
    exact List.length_pos_iff.mpr hitems
  refine ⟨0, setCurrentRow_selected hpos, ?_⟩
  rw [heq]
  exact hpos

/-- A selection that exists is enough. -/
theorem selectsOne_of_isSome {u : UserListWidget} (h : InRange u)
    (hsome : u.selected.isSome = true) : SelectsOne u := by
  obtain ⟨i, hi⟩ := Option.isSome_iff_exists.mp hsome
  exact fun _ _ => ⟨i, hi, h i hi⟩

/-! ## Insertions -/

theorem insertItem_inRange {u : UserListWidget} (h : InRange u) (row : Nat) (info : UserInfo) :
    InRange (u.insertItem row info) := by
  intro i hi
  obtain ⟨j, hj, rfl⟩ := Option.map_eq_some_iff.mp hi
  have hlt := h j hj
  have hlen : (u.insertItem row info).items.length = u.items.length + 1 := by
    simp only [UserListWidget.insertItem, List.length_append, List.length_take, List.length_drop,
      List.length_singleton]
    omega
  rw [hlen]
  split_ifs <;> omega

theorem insertRows_inRange {u : UserListWidget} (h : InRange u) (first last : Nat) :
    InRange (u.insertRows first last) := by
  rw [insertRows_eq]
  generalize (List.range (last + 1 - first)).map (first + ·) = rows
  induction rows generalizing u with
  | nil => exact h
  | cons i rows ih => exact ih (insertItem_inRange h i _)

theorem inserted_selects {u : UserListWidget} (h : InRange u) (rows : List UserInfo)
    (first last : Nat) :
    InRange (u.inserted rows first last) ∧ SelectsOne (u.inserted rows first last) := by
  have hrows : InRange (UserListWidget.insertRows { u with m_filterModel := rows } first last) :=
    insertRows_inRange (show InRange { u with m_filterModel := rows } from h) first last
  unfold UserListWidget.inserted
  generalize UserListWidget.insertRows _ first last = w at hrows ⊢
  dsimp only
  split_ifs with hneeds
  · exact ⟨setCurrentRow_inRange hrows 0, setCurrentRow_zero_selectsOne _⟩
  · refine ⟨hrows, fun henabled hitems => ?_⟩
    -- an enabled list with users needs no selection only when it has one
    have hpos := List.length_pos_iff.mpr hitems
    have hsome : w.selected.isSome = true := by
      by_contra hnone
      rw [Bool.not_eq_true, Option.isSome_eq_false_iff] at hnone
      apply hneeds
      rw [UserListWidget.needsSelection, henabled, hnone]
      exact decide_eq_true hpos
    exact selectsOne_of_isSome hrows hsome henabled hitems

/-! ## Removals -/

/-- What the removal of `count` rows leaves of a selection. -/
def shift (first count i : Nat) : Option Nat :=
  if i < first then some i else if i < first + count then none else some (i - count)

theorem shift_zero (first i : Nat) : shift first 0 i = some i := by
  unfold shift
  split_ifs <;> grind

/-- The last of the rows is taken first, and the others later. -/
theorem takeItem_shift (u : UserListWidget) (first count : Nat) :
    (u.takeItem (first + count)).selected.bind (shift first count) =
      u.selected.bind (shift first (count + 1)) := by
  unfold UserListWidget.takeItem
  dsimp only
  rcases u.selected with _ | i
  · rfl
  · simp only [Option.bind_some]
    by_cases hlast : i = first + count
    · rw [if_pos hlast, Option.bind_none, shift, if_neg (by omega), if_pos (by omega)]
    · rw [if_neg hlast, Option.bind_some]
      unfold shift
      split_ifs <;> grind

theorem takeItem_isSelectedIn (u : UserListWidget) (first count : Nat) :
    (decide (u.selected = some (first + count)) ||
      isSelectedIn (u.takeItem (first + count)) first count) =
        isSelectedIn u first (count + 1) := by
  unfold isSelectedIn UserListWidget.takeItem
  dsimp only
  rcases u.selected with _ | i
  · rfl
  · simp only [Option.bind_some, Option.some.injEq]
    by_cases hlast : i = first + count
    · rw [if_pos hlast, decide_eq_true hlast, Bool.true_or, Option.any_some]
      simp only [hlast]
      grind
    · rw [if_neg hlast, decide_eq_false hlast, Bool.false_or, Option.any_some, Option.any_some]
      split_ifs <;> grind

/-- The loop of a removal goes from the last row to the first, and tests each row when the rows
behind it are gone. -/
theorem takeRows_selected (u : UserListWidget) (first last : Nat) :
    (u.takeRows first last).1.selected = u.selected.bind (shift first (last + 1 - first)) ∧
      (u.takeRows first last).2 =
        (u.isEnabled && isSelectedIn u first (last + 1 - first)) := by
  have hfold : ∀ (count : Nat) (w : UserListWidget × Bool),
      let w1 := ((List.range count).map (first + ·)).reverse.foldl takeRow w
      w1.1.selected = w.1.selected.bind (shift first count) ∧
        w1.2 = (w.2 || (w.1.isEnabled && isSelectedIn w.1 first count)) := by
    intro count
    induction count with
    | zero =>
      intro w
      have hnone : isSelectedIn w.1 first 0 = false := by
        unfold isSelectedIn
        rcases w.1.selected with _ | i
        · rfl
        · simp
      have hsame : w.1.selected.bind (shift first 0) = w.1.selected := by
        rw [funext (shift_zero first)]
        exact Option.bind_fun_some _
      rw [hnone, hsame, Bool.and_false, Bool.or_false]
      exact ⟨rfl, rfl⟩
    | succ count ih =>
      intro w
      obtain ⟨hsel, hflag⟩ := ih (takeRow w (first + count))
      rw [foldl_rows_succ]
      refine ⟨hsel.trans (takeItem_shift w.1 first count), hflag.trans ?_⟩
      rw [← takeItem_isSelectedIn w.1 first count]
      show (w.2 || (w.1.isEnabled && _) || (w.1.isEnabled && _)) = _
      rw [Bool.or_assoc, ← Bool.and_or_distrib_left]
      rfl
  have := hfold (last + 1 - first) (u, false)
  rwa [Bool.false_or] at this

theorem takeRows_inRange {u : UserListWidget} (h : InRange u) {first last : Nat}
    (hfirst : first ≤ last) (hlast : last < u.items.length) :
    InRange (u.takeRows first last).1 := by
  intro j hj
  rw [(takeRows_selected u first last).1, Option.bind_eq_some_iff] at hj
  obtain ⟨i, hi, hshift⟩ := hj
  have hlt := h i hi
  rw [(takeRows_lists u hfirst hlast).2, List.length_append, List.length_take, List.length_drop]
  unfold shift at hshift
  split_ifs at hshift <;> grind

/-- Where no new selection is asked for, an enabled list keeps the one it has. -/
theorem takeRows_selectsOne {u : UserListWidget} (h : InRange u) (hone : SelectsOne u)
    {first last : Nat} (hfirst : first ≤ last) (hlast : last < u.items.length)
    (hkept : (u.takeRows first last).2 = false) : SelectsOne (u.takeRows first last).1 := by
  intro henabled hitems
  refine selectsOne_of_isSome (takeRows_inRange h hfirst hlast) ?_ henabled hitems
  obtain ⟨hsel, hflag⟩ := takeRows_selected u first last
  rw [(takeRows_enabled u first last).1] at henabled
  have hne : u.items ≠ [] := List.ne_nil_of_length_pos (by omega)
  obtain ⟨i, hi, hlt⟩ := hone henabled hne
  rw [hflag, henabled, Bool.true_and, isSelectedIn, hi, Option.any_some] at hkept
  rw [hsel, hi, Option.bind_some]
  unfold shift
  split_ifs
  · rfl
  · grind
  · rfl

/-! ## The modes -/

theorem userListLogin_selects {u : UserListWidget} (h : InRange u) :
    InRange u.userListLogin ∧ SelectsOne u.userListLogin := by
  have hrange : InRange ((u.setVisible true).setEnabled true) := h
  unfold UserListWidget.userListLogin
  dsimp only
  split_ifs with hsome
  · obtain ⟨info, hinfo⟩ := Option.isSome_iff_exists.mp hsome
    obtain ⟨i, hi, -⟩ := Option.bind_eq_some_iff.mp hinfo
    exact ⟨hrange, selectsOne_of_isSome hrange (hi ▸ rfl)⟩
  · exact ⟨setCurrentRow_inRange hrange 0, setCurrentRow_zero_selectsOne _⟩

theorem manualLogin_selects {u : UserListWidget} (h : InRange u) :
    InRange u.manualLogin ∧ SelectsOne u.manualLogin :=
  ⟨h, fun henabled => absurd henabled Bool.false_ne_true⟩

theorem moves_selects {u u1 : UserListWidget} (h : InRange u) (hone : SelectsOne u)
    (hmove : u.Moves u1) : InRange u1 ∧ SelectsOne u1 := by
  cases hmove with
  | selects row =>
    have hrange := setCurrentRow_inRange h row
    refine ⟨hrange, ?_⟩
    revert hrange
    unfold UserListWidget.setCurrentRow
    split_ifs
    · exact fun _ => hone
    · split
      · exact fun _ => hone
      · exact fun hrange => selectsOne_of_isSome hrange rfl
  | userListLogin => exact userListLogin_selects h
  | manualLogin => exact manualLogin_selects h
  | _ => exact ⟨h, hone⟩

theorem removed_selects {u : UserListWidget} (h : InRange u) (hone : SelectsOne u)
    (rows : List UserInfo) {first last : Nat} (hfirst : first ≤ last)
    (hlast : last < u.items.length) :
    InRange (u.removed rows first last) ∧ SelectsOne (u.removed rows first last) := by
  let v := { u with m_filterModel := rows }
  have hrange : InRange (v.takeRows first last).1 := takeRows_inRange (u := v) h hfirst hlast
  have hkeep := takeRows_selectsOne (u := v) h hone hfirst hlast
  show InRange (UserListWidget.reselected _ _) ∧ SelectsOne (UserListWidget.reselected _ _)
  unfold UserListWidget.reselected
  split_ifs with hsame
  · exact ⟨hrange, hkeep (by simpa using hsame)⟩
  · exact ⟨setCurrentRow_inRange hrange 0, setCurrentRow_zero_selectsOne _⟩
  · exact userListLogin_selects hrange

/-! ## The signals of a removal -/

/-- A removal of the selected item of an enabled list, up to its signal. -/
theorem slotRowsRemoved_emits (s : Sys) (rows : List UserInfo) {first last : Nat}
    (henabled : s.window.userlist.isEnabled = true)
    (hsel : isSelectedIn s.window.userlist first (last + 1 - first) = true) :
    ∃ u : UserListWidget, (u.items ≠ [] → u.selected = some 0) ∧
      s.slotRowsRemoved rows first last =
        andThen ((s.withUserlist u).emit (signalFor u.items)) Sys.hideShortList := by
  let v := { s.window.userlist with m_filterModel := rows }
  obtain ⟨hnone, hflag⟩ := takeRows_selected v first last
  -- the selected row is among those that go
  have hnone : (v.takeRows first last).1.selected = none := by
    obtain ⟨i, hi, hin⟩ := isSelectedIn_iff.mp hsel
    rw [hnone, show v.selected = some i from hi, Option.bind_some, shift]
    grind
  have hflag : (v.takeRows first last).2 = true := by
    rw [hflag]
    exact Bool.and_eq_true_iff.mpr ⟨henabled, hsel⟩
  have hdoes : s.slotRowsRemoved rows first last = andThen
      ((s.withUserlist (v.takeRows first last).1).reselect (v.takeRows first last).2)
        Sys.hideShortList := rfl
  rw [hdoes, hflag]
  generalize (v.takeRows first last).1 = w at hnone
  have hcount : (s.withUserlist w).window.userlist.userCount = w.items.length := rfl
  unfold Sys.reselect
  rw [Bool.not_true, if_neg Bool.false_ne_true]
  rcases hitems : w.items with _ | ⟨info, infos⟩
  · refine ⟨w, fun hne => absurd hitems hne, ?_⟩
    rw [if_neg (by rw [hcount, hitems]; exact Nat.lt_irrefl 0), hitems]
    rfl
  · have hrow : w.setCurrentRow 0 = ({ w with selected := some 0 }, some info) := by
      simp [UserListWidget.setCurrentRow, hnone, hitems]
    refine ⟨{ w with selected := some 0 }, fun _ => rfl, ?_⟩
    rw [if_pos (by rw [hcount, hitems]; exact Nat.succ_pos _)]
    show andThen (Sys.selected _ (w.setCurrentRow 0)) _ = andThen (Sys.emit _ (signalFor w.items)) _
    rw [hrow, hitems]
    rfl

/-- A signal leaves the items, and a row that is selected. -/
theorem emit_userlist (s : Sys) (hsel : s.window.userlist.items ≠ [] →
    s.window.userlist.selected = some 0) :
    let u := (s.emit (signalFor s.window.userlist.items)).1.window.userlist
    u.items = s.window.userlist.items ∧ (u.items ≠ [] → u.selected = some 0) := by
  rcases hitems : s.window.userlist.items with _ | ⟨info, infos⟩
  · have hlists := congrArg Prod.snd (UserListWidget.Moves.userListLogin
      (w := s.window.userlist)).lists
    have hnil : s.window.userlist.userListLogin.items = [] := hlists.trans hitems
    show s.resetUIForUserListLogin.1.window.userlist.items = [] ∧
      (s.resetUIForUserListLogin.1.window.userlist.items ≠ [] → _)
    rw [Sys.resetUIForUserListLogin_userlist]
    exact ⟨hnil, fun hne => absurd hnil hne⟩
  · show (s.slotUserActivated info).1.window.userlist.items = info :: infos ∧
      (_ → (s.slotUserActivated info).1.window.userlist.selected = some 0)
    rw [Sys.slotUserActivated_userlist]
    exact ⟨hitems, fun hne => hsel (hitems ▸ List.cons_ne_nil info infos)⟩

theorem listStep_reselects {p p1 : Listed} {e : ListEvent} {o : List Output}
    (hstep : listStep p e = some (p1, o)) : Reselects p e o p1 := by
  unfold Reselects
  split
  · rename_i first count
    intro items henabled hsel
    simp only [listStep] at hstep
    split_ifs at hstep with hvalid
    cases hstep
    have hcount : first + count - 1 + 1 - first = count := by
      have hpos : 0 < count := hvalid.1
      omega
    obtain ⟨u, hrow, heq⟩ := slotRowsRemoved_emits p.sys
      ((Change.remove first count).apply p.rows) henabled (hcount.symm ▸ hsel)
    have hsys : p.sys.handleChange ((Change.remove first count).apply p.rows)
        (.remove first count) = _ := heq
    obtain ⟨hitems, hselected⟩ := emit_userlist (p.sys.withUserlist u) hrow
    have hleft : items = u.items := by
      show (p.sys.handleChange _ _).1.window.userlist.items = _
      rw [hsys]
      exact hitems
    refine ⟨?_, u, hleft.symm, hleft ▸ hrow, hleft ▸ hsys⟩
    intro hne
    show (p.sys.handleChange _ _).1.window.userlist.selected = _
    rw [hsys]
    exact hselected fun hnil => hne (hleft.trans (hitems.symm.trans hnil))
  · trivial

/-! ## Each step -/

theorem listStep_selects {p p1 : Listed} {e : ListEvent} {o : List Output}
    (hsized : Sized p.sys.window.userlist) (h : InRange p.sys.window.userlist)
    (hone : SelectsOne p.sys.window.userlist) (hstep : listStep p e = some (p1, o)) :
    InRange p1.sys.window.userlist ∧ SelectsOne p1.sys.window.userlist := by
  have hmove := listMoves_of_step hstep
  generalize p.sys.window.userlist = u at hsized h hone hmove
  generalize p1.sys.window.userlist = u1 at hmove
  cases hmove with
  | inserts hvalid => exact inserted_selects h _ _ _
  | removes hvalid =>
    obtain ⟨hpos, hlast⟩ := hvalid
    have hlen : u.items.length = u.m_filterModel.length := hsized
    exact removed_selects h hone _ (by omega) (by omega)
  | dataChanges row info => exact ⟨h, hone⟩
  | window hmove => exact moves_selects h hone hmove

theorem init_selects (prefs : Prefs) (users : List UserInfo) (autologinUserHint : String)
    (m_inputMode : EditInputMode) :
    let u := (Sys.init prefs users autologinUserHint m_inputMode).window.userlist
    InRange u ∧ SelectsOne u := by
  intro u
  have hlist : InRange ((UserListWidget.loadUserList
      { m_filterModel := users.filter fun info => !prefs.hiddenUsers.contains info.name }
        prefs.hiddenUsers)) := by
    unfold UserListWidget.loadUserList
    refine List.foldlRecOn _ _ ?_ ?_
    · exact fun i hi => absurd hi (by simp)
    · exact fun w hw info _ => insertItem_inRange hw _ info
  show InRange (Sys.init prefs users autologinUserHint m_inputMode).window.userlist ∧
    SelectsOne (Sys.init prefs users autologinUserHint m_inputMode).window.userlist
  rw [init_userlist]
  split_ifs
  · exact userListLogin_selects hlist
  · exact manualLogin_selects hlist

/-- One user stays selected in an enabled list, and the removal of that one selects the first
of the others. -/
theorem a_user_stays_selected (prefs : Prefs) (users : List UserInfo) (autologinUserHint : String)
    (m_inputMode : EditInputMode) (es : List ListEvent) :
    SelectsOne (Sys.init prefs users autologinUserHint m_inputMode).window.userlist ∧
      Always listStep (fun p e o p1 => SelectsOne p1.sys.window.userlist ∧ Reselects p e o p1)
        (.init prefs users autologinUserHint m_inputMode) es := by
  have hinit := init_selects prefs users autologinUserHint m_inputMode
  have hsized := sized_of_lists (init_lists prefs users autologinUserHint m_inputMode) rfl
  refine ⟨hinit.2, ?_⟩
  apply always_of_inv (I := fun p => Sized p.sys.window.userlist ∧
    InRange p.sys.window.userlist ∧ SelectsOne p.sys.window.userlist) _ ⟨hsized, hinit⟩ meets_true
  rintro p e p1 o ⟨hsized, h, hone⟩ - hstep
  obtain ⟨hrange, hselects⟩ := listStep_selects hsized h hone hstep
  exact ⟨⟨(listMoves_of_step hstep).sized hsized, hrange, hselects⟩, hselects,
    listStep_reselects hstep⟩

/-- The selected user goes while the list is disabled for a login by name. -/
theorem a_disabled_list_selects_nobody :
    ∃ p p1 o, run listStep
        (.init samplePrefs [{ name := "alice" }, { name := "bob" }] "" .EDIT_INPUT_USER_NAME)
        [.window .shown, .window .clickNotListAndCancel] = some (p, o) ∧
      isSelectedIn p.sys.window.userlist 0 1 = true ∧
      listStep p (.changed (.remove 0 1)) = some (p1, []) ∧
      p1.sys.window.userlist.items.map UserInfo.name = ["bob"] ∧
      p1.sys.window.userlist.selected = none :=
  ⟨_, _, _, rfl, rfl, rfl, rfl, rfl⟩

end session_guard.greeter_login_window
