-- `UserListWidget`: the users of the display manager as a list with one
-- selected item at most. Its model has changed before a handler runs.
import Mathlib.Tactic.Common

namespace session_guard.user_list_widget

/-! ## The widget -/

structure UserInfo where
  name : String := ""
  realName : String := ""
  session : String := ""
  uid : UInt64 := 0
  backgroundPath : String := ""
  hasMessage : Bool := false
  imagePath : String := ""
  loggedIn : Bool := false
  deriving DecidableEq

/-- The rows of `m_filterModel`, the items of `ui->userList`, and the flags of the
two widgets. -/
structure UserListWidget where
  m_filterModel : List UserInfo := []
  items : List UserInfo := []
  /-- The row of the selected item. -/
  selected : Option Nat := none
  isEnabled : Bool := true
  isVisible : Bool := true
  /-- `ui->userList` is not hidden itself. -/
  userListVisible : Bool := false
  /-- The window around the widget is shown. -/
  windowVisible : Bool := false
  deriving DecidableEq

namespace UserListWidget

variable (w : UserListWidget)

def userCount : Nat := w.items.length

/-- `ui->userList->isVisible()`. -/
def userListIsVisible : Bool := w.userListVisible && w.isVisible && w.windowVisible

def setVisible (visible : Bool) : UserListWidget := { w with isVisible := visible }

def setEnabled (enabled : Bool) : UserListWidget := { w with isEnabled := enabled }

/-- The data of a row. A row that does not exist gives empty values. -/
def getUserInfoFromModel (row : Nat) : UserInfo := w.m_filterModel.getD row {}

def getIconByUserName (userName : String) : String :=
  match w.m_filterModel.find? (·.name = userName) with
  | none => ""
  | some info => info.imagePath

def getCurrentSelected : Option UserInfo := w.selected.bind (w.items[·]?)

/-! ## Items -/

/-- `QListWidget::insertItem`, and the list is shown from two items on. -/
def insertItem (row : Nat) (userInfo : UserInfo) : UserListWidget :=
  let w1 := { w with
    items := w.items.take row ++ [userInfo] ++ w.items.drop row
    selected := w.selected.map fun i => if row ≤ i then i + 1 else i }
  { w1 with userListVisible := w1.userListVisible || (!w1.userListIsVisible && 2 ≤ w1.userCount) }

def appendItem (userInfo : UserInfo) : UserListWidget := w.insertItem w.userCount userInfo

/-- `QListWidget::takeItem`. Nothing is selected when the selected item goes. -/
def takeItem (row : Nat) : UserListWidget :=
  { w with
    items := w.items.eraseIdx row
    selected := w.selected.bind fun i =>
      if i = row then none else some (if row < i then i - 1 else i) }

/-- The row is selected, with the user of the signal `userActivated` when the
selection has changed. -/
def setCurrentRow (idx : Nat) : UserListWidget × Option UserInfo :=
  if w.selected = some idx then (w, none)
  else
    match w.items[idx]? with
    | none => (w, none)
    | some info => ({ w with selected := some idx }, some info)

/-! ## Handlers -/

/-- `loadUserList`, on the rows of the model without the hidden users. -/
def loadUserList (hiddenUsers : List String) : UserListWidget :=
  (w.m_filterModel.filter fun info => !hiddenUsers.contains info.name).foldl appendItem w

/-- The loop of `slotRowsRemoved`, from `last` down to `first`: does the list need
a new selection? -/
def takeRows (first last : Nat) : UserListWidget × Bool :=
  ((List.range (last + 1 - first)).map (first + ·)).reverse.foldl
    (fun (w, reSelect) i =>
      (w.takeItem i, reSelect || (w.isEnabled && w.selected = some i))) (w, false)

/-- The end of `slotRowsRemoved`. -/
def hideShortList : UserListWidget :=
  { w with userListVisible := w.userListVisible && !(w.userListIsVisible && w.userCount < 2) }

/-- The loop of `slotRowsInserted`. It reads the row `first` each time. -/
def insertRows (first last : Nat) : UserListWidget :=
  ((List.range (last + 1 - first)).map (first + ·)).foldl
    (fun w i => w.insertItem i (w.getUserInfoFromModel first)) w

/-- `slotRowsInserted` selects the first row when nothing is selected. -/
def needsSelection : Bool := w.isEnabled && w.selected.isNone && 0 < w.userCount

/-- The user selects a row, by a click or by Return. -/
def select (row : Nat) : Option (UserListWidget × Option UserInfo) :=
  if w.isEnabled && w.userListIsVisible && row < w.userCount then some (w.setCurrentRow row)
  else none

/-! ## The loaded list -/

theorem appendItem_items (w : UserListWidget) (info : UserInfo) :
    (w.appendItem info).items = w.items ++ [info] := by
  simp [appendItem, insertItem, userCount]

/-- The list is loaded with the users of the model that are not hidden, in
order. -/
theorem loadUserList_items (w : UserListWidget) (hiddenUsers : List String) :
    (w.loadUserList hiddenUsers).items =
      w.items ++ w.m_filterModel.filter fun info => !hiddenUsers.contains info.name := by
  unfold loadUserList
  generalize w.m_filterModel.filter _ = infos
  induction infos generalizing w with
  | nil => simp
  | cons info infos ih => simp [ih, appendItem_items]

/-- A model without hidden users is loaded whole. -/
theorem loadUserList_whole (infos : List UserInfo) (hiddenUsers : List String) :
    let rows := infos.filter fun info => !hiddenUsers.contains info.name
    (({ m_filterModel := rows } : UserListWidget).loadUserList hiddenUsers).items = rows := by
  intro rows
  rw [loadUserList_items]
  simp [rows, List.filter_filter]

theorem loadUserList_filterModel (w : UserListWidget) (hiddenUsers : List String) :
    (w.loadUserList hiddenUsers).m_filterModel = w.m_filterModel := by
  unfold loadUserList
  generalize w.m_filterModel.filter _ = infos
  induction infos generalizing w with
  | nil => rfl
  | cons info infos ih => exact ih (w.appendItem info)

/-! ## The first row -/

/-- A list with users has a selected item, or selecting the first row
activates its user. -/
theorem setCurrentRow_zero {w : UserListWidget} (h : w.items ≠ []) :
    w.getCurrentSelected.isSome = true ∨ (w.setCurrentRow 0).2.isSome = true := by
  obtain ⟨info, infos, hi⟩ := List.exists_cons_of_ne_nil h
  by_cases hsel : w.selected = some 0
  · exact Or.inl (by simp [getCurrentSelected, hsel, hi])
  · exact Or.inr (by simp [setCurrentRow, hsel, hi])

end UserListWidget

end session_guard.user_list_widget
