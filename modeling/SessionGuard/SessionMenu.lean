-- The session menu of the greeter: a row of check boxes of which one is checked, and the session
-- that the window asks LightDM for is the one that it names.
import SessionGuard.GreeterSessions

open machine

namespace session_guard.session_menu

open auth_proxy
open greeter_login (Event Output)
open greeter_login_window (Prefs EditInputMode)
open user_list_widget (UserInfo)

/-! ## The menu -/

/-- `GreeterMenuItem`, with the state of its check box. -/
structure GreeterMenuItem where
  m_actionName : String
  isChecked : Bool := false
  deriving DecidableEq

/-- The items of `m_sessionMenu`, and the checked button of their `QButtonGroup`. -/
structure SessionMenu where
  items : List GreeterMenuItem := []
  checkedButton : Option Nat := none

/-- The exclusive group takes a new checked button, and unchecks the one before. -/
def uncheckPrevious (items : List GreeterMenuItem) (i : Nat) : Option Nat → List GreeterMenuItem
  | none => items
  | some j => if j = i then items else items.modify j fun item => { item with isChecked := false }

/-- `setChecked(true)` of an item, with the signals `sigChecked` that it emits. -/
def SessionMenu.setChecked (m : SessionMenu) (i : Nat) : SessionMenu × List String :=
  match m.items[i]? with
  | none => (m, [])
  | some item =>
    if item.isChecked then (m, [])
    else
      ({ items := uncheckPrevious (m.items.set i { item with isChecked := true }) i m.checkedButton
         checkedButton := some i }, [item.m_actionName])

/-- `mousePressEvent` of an item. A checked item is not unchecked. -/
def SessionMenu.mousePressEvent (m : SessionMenu) (i : Nat) : SessionMenu × List String :=
  match m.items[i]? with
  | none => (m, [])
  | some item => if item.isChecked = false then m.setChecked i else (m, [])

/-- The slot of `sigChecked` sets `m_session`. -/
def selectSession (m_session : String) (signals : List String) : String :=
  signals.foldl (fun _ action => action) m_session

/-- `initMenu` for one session, with `m_session`. -/
def addSession (hiddenSessions : List String) (r : SessionMenu × String) (key : String) :
    SessionMenu × String :=
  if hiddenSessions.contains key then r
  else
    let m := { r.1 with items := r.1.items ++ [{ m_actionName := key }] }
    if r.2.isEmpty then
      let c := m.setChecked r.1.items.length
      (c.1, selectSession r.2 c.2)
    else (m, r.2)

/-- `initMenu`, over the keys of `SessionsModel`. -/
def initMenu (hiddenSessions keys : List String) : SessionMenu × String :=
  keys.foldl (addSession hiddenSessions) ({}, "")

/-- The sessions that the menu shows. -/
def visible (hiddenSessions keys : List String) : List String :=
  keys.filter fun key => !hiddenSessions.contains key

/-! ## One item is checked -/

/-- The group knows which item is checked, and the item is that of the session. -/
structure Exclusive (m : SessionMenu) (session : String) : Prop where
  checked : ∀ i item, m.items[i]? = some item →
    (item.isChecked = true ↔ m.checkedButton = some i)
  named : ∀ i, m.checkedButton = some i →
    ∃ item, m.items[i]? = some item ∧ item.m_actionName = session
  unset : m.checkedButton = none → session = ""

/-- Checking an item unchecks all others. -/
theorem setChecked_items {m : SessionMenu} {session : String} (h : Exclusive m session) {i : Nat}
    {item : GreeterMenuItem} (hitem : m.items[i]? = some item) (hoff : item.isChecked = false)
    (k : Nat) :
    (m.setChecked i).1.items[k]? =
      m.items[k]?.map fun x => { x with isChecked := decide (k = i) } := by
  have hchecked : (m.setChecked i).1.items =
      uncheckPrevious (m.items.set i { item with isChecked := true }) i m.checkedButton := by
    simp [SessionMenu.setChecked, hitem, hoff]
  have hlt : i < m.items.length := (List.getElem?_eq_some_iff.mp hitem).1
  rw [hchecked]
  by_cases hk : k = i
  · subst hk
    have hset : (m.items.set k { item with isChecked := true })[k]? =
        some { item with isChecked := true } := List.getElem?_set_self hlt
    unfold uncheckPrevious
    rcases m.checkedButton with _ | j
    · simp [hset, hitem]
    · dsimp only
      split_ifs with hj
      · simp [hset, hitem]
      · rw [List.getElem?_modify_ne _ _ hj, hset, hitem]
        simp
  · have hset : (m.items.set i { item with isChecked := true })[k]? = m.items[k]? :=
      List.getElem?_set_ne (Ne.symm hk)
    -- another item is unchecked, unless it is the one that the group had as checked
    have hother : m.checkedButton ≠ some k →
        m.items[k]? = m.items[k]?.map fun x => { x with isChecked := decide (k = i) } := by
      intro hno
      rcases hx : m.items[k]? with _ | x
      · rfl
      · have hxoff : x.isChecked = false := by
          by_contra hon
          exact hno ((h.checked k x hx).mp (by simpa using hon))
        simp [hk, ← hxoff]
    unfold uncheckPrevious
    rcases hbutton : m.checkedButton with _ | j
    · rw [hset]
      exact hother (by simp [hbutton])
    · dsimp only
      split_ifs with hj
      · rw [hset]
        exact hother (by simp [hbutton, hj, Ne.symm hk])
      · by_cases hjk : j = k
        · subst hjk
          rw [List.getElem?_modify_eq, hset]
          simp [hk]
        · rw [List.getElem?_modify_ne _ _ hjk, hset]
          exact hother (by simpa [hbutton] using hjk)

theorem setChecked_off {m : SessionMenu} {i : Nat} {item : GreeterMenuItem}
    (hitem : m.items[i]? = some item) (hoff : item.isChecked = false) :
    (m.setChecked i).1.checkedButton = some i ∧ (m.setChecked i).2 = [item.m_actionName] := by
  simp [SessionMenu.setChecked, hitem, hoff]

theorem setChecked_exclusive {m : SessionMenu} {session : String} (h : Exclusive m session)
    {i : Nat} {item : GreeterMenuItem} (hitem : m.items[i]? = some item)
    (hoff : item.isChecked = false) :
    Exclusive (m.setChecked i).1 item.m_actionName := by
  obtain ⟨hbutton, -⟩ := setChecked_off hitem hoff
  refine ⟨fun k x hx => ?_, fun k hk => ?_, fun hnone => ?_⟩
  · rw [setChecked_items h hitem hoff] at hx
    obtain ⟨y, -, rfl⟩ := Option.map_eq_some_iff.mp hx
    rw [hbutton]
    simp [eq_comm]
  · rw [hbutton] at hk
    cases hk
    refine ⟨{ item with isChecked := true }, ?_, rfl⟩
    rw [setChecked_items h hitem hoff, hitem]
    simp
  · rw [hbutton] at hnone
    cases hnone

/-- An item keeps its name. -/
theorem setChecked_names {m : SessionMenu} {session : String} (h : Exclusive m session) (i : Nat) :
    (m.setChecked i).1.items.map (·.m_actionName) = m.items.map (·.m_actionName) := by
  rcases hitem : m.items[i]? with _ | item
  · simp [SessionMenu.setChecked, hitem]
  · by_cases hon : item.isChecked = true
    · simp [SessionMenu.setChecked, hitem, hon]
    · apply List.ext_getElem?
      intro k
      rw [List.getElem?_map, List.getElem?_map,
        setChecked_items h hitem (by simpa using hon), Option.map_map]
      rfl

/-! ## The menu is filled -/

theorem visible_hidden {hiddenSessions : List String} {key : String} (keys : List String)
    (h : hiddenSessions.contains key = true) :
    visible hiddenSessions (key :: keys) = visible hiddenSessions keys := by
  unfold visible
  rw [List.filter_cons, h]
  rfl

theorem visible_shown {hiddenSessions : List String} {key : String} (keys : List String)
    (h : ¬ hiddenSessions.contains key = true) :
    visible hiddenSessions (key :: keys) = key :: visible hiddenSessions keys := by
  unfold visible
  rw [List.filter_cons, Bool.eq_false_iff.mpr h]
  rfl

/-- The menu shows these sessions, and it has a checked item as soon as it has items. -/
structure Filled (shown : List String) (m : SessionMenu) (session : String) : Prop where
  exclusive : Exclusive m session
  names : m.items.map (·.m_actionName) = shown
  settled : m.checkedButton = none → m.items = []

/-- A new item comes to the end of the menu, and is not checked. -/
theorem exclusive_append {m : SessionMenu} {session : String} (h : Exclusive m session)
    (key : String) :
    Exclusive { m with items := m.items ++ [{ m_actionName := key }] } session := by
  refine ⟨fun i item hitem => ?_, fun i hi => ?_, h.unset⟩
  · by_cases hlt : i < m.items.length
    · rw [List.getElem?_append_left hlt] at hitem
      exact h.checked i item hitem
    · have hnew : item = { m_actionName := key } := by
        rw [List.getElem?_append_right (by omega)] at hitem
        exact List.mem_singleton.mp (List.mem_of_getElem? hitem)
      have hno : m.checkedButton ≠ some i := by
        intro hi
        obtain ⟨x, hx, -⟩ := h.named i hi
        exact hlt (List.getElem?_eq_some_iff.mp hx).1
      simp [hnew, hno]
  · obtain ⟨item, hitem, hname⟩ := h.named i hi
    have hlt := (List.getElem?_eq_some_iff.mp hitem).1
    exact ⟨item, (List.getElem?_append_left hlt).trans hitem, hname⟩

theorem addSession_filled {hiddenSessions shown : List String} {r : SessionMenu × String}
    (h : Filled shown r.1 r.2) (key : String) :
    Filled (shown ++ visible hiddenSessions [key]) (addSession hiddenSessions r key).1
      (addSession hiddenSessions r key).2 := by
  unfold addSession
  by_cases hhidden : hiddenSessions.contains key = true
  · rw [if_pos hhidden, visible_hidden [] hhidden, visible, List.filter_nil, List.append_nil]
    exact h
  · rw [if_neg hhidden, visible_shown [] hhidden]
    have happ := exclusive_append h.exclusive key
    have hnames : (r.1.items ++ [({ m_actionName := key } : GreeterMenuItem)]).map
        (·.m_actionName) = shown ++ [key] := by
      rw [List.map_append, h.names]
      rfl
    by_cases hempty : r.2.isEmpty = true
    · -- the new item becomes the default
      have hitem : (r.1.items ++ [({ m_actionName := key } : GreeterMenuItem)])[r.1.items.length]? =
          some { m_actionName := key } := by simp
      obtain ⟨hbutton, hsignals⟩ := setChecked_off
        (m := { r.1 with items := r.1.items ++ [{ m_actionName := key }] }) hitem rfl
      have hchecked := setChecked_exclusive happ hitem rfl
      simp only [if_pos hempty, hsignals, selectSession, List.foldl_cons, List.foldl_nil]
      refine ⟨hchecked, (setChecked_names happ _).trans hnames, fun hnone => ?_⟩
      rw [hbutton] at hnone
      cases hnone
    · rw [if_neg hempty]
      refine ⟨happ, hnames, fun hnone => ?_⟩
      rw [h.exclusive.unset hnone] at hempty
      exact absurd rfl hempty

/-- The default is the first session with a name. -/
theorem addSession_session {hiddenSessions : List String} {r : SessionMenu × String} {key : String}
    (hsession : r.2.isEmpty = true) :
    (addSession hiddenSessions r key).2 =
      if hiddenSessions.contains key then r.2 else key := by
  unfold addSession
  split_ifs
  · rfl
  · simp [SessionMenu.setChecked, selectSession]

theorem addSession_keeps {hiddenSessions : List String} {r : SessionMenu × String} {key : String}
    (hsession : r.2.isEmpty = false) : (addSession hiddenSessions r key).2 = r.2 := by
  unfold addSession
  split_ifs with h1 h2
  · rfl
  · rw [hsession] at h2
    cases h2
  · rfl

theorem foldl_filled {hiddenSessions : List String} (keys : List String) {shown : List String}
    {r : SessionMenu × String} (h : Filled shown r.1 r.2) :
    Filled (shown ++ visible hiddenSessions keys) (keys.foldl (addSession hiddenSessions) r).1
      (keys.foldl (addSession hiddenSessions) r).2 := by
  induction keys generalizing shown r with
  | nil => simpa [visible] using h
  | cons key keys ih =>
    have hrest := ih (@addSession_filled hiddenSessions shown r h key)
    have happ : visible hiddenSessions [key] ++ visible hiddenSessions keys =
        visible hiddenSessions (key :: keys) := (List.filter_append [key] keys).symm
    rwa [List.append_assoc, happ] at hrest

/-- The menu shows the sessions that are not hidden, and has one checked item if it has any. -/
theorem initMenu_filled (hiddenSessions keys : List String) :
    Filled (visible hiddenSessions keys) (initMenu hiddenSessions keys).1
      (initMenu hiddenSessions keys).2 := by
  have hnew : Filled [] {} "" :=
    ⟨⟨fun i item hitem => by simp at hitem, nofun, fun _ => rfl⟩, rfl, fun _ => rfl⟩
  exact @foldl_filled hiddenSessions keys [] ({}, "") hnew

theorem foldl_session {hiddenSessions : List String} (keys : List String)
    {r : SessionMenu × String} :
    (keys.foldl (addSession hiddenSessions) r).2 =
      if r.2.isEmpty then
        ((visible hiddenSessions keys).find? fun key => !key.isEmpty).getD ""
      else r.2 := by
  induction keys generalizing r with
  | nil =>
    by_cases h : r.2.isEmpty = true
    · rw [if_pos h]
      exact String.isEmpty_iff.mp h
    · rw [if_neg h]
      rfl
  | cons key keys ih =>
    rw [List.foldl_cons, ih]
    by_cases h : r.2.isEmpty = true
    · rw [addSession_session h, if_pos h]
      by_cases hhidden : hiddenSessions.contains key = true
      · rw [if_pos hhidden, if_pos h, visible_hidden keys hhidden]
      · rw [if_neg hhidden, visible_shown keys hhidden, List.find?_cons]
        by_cases hkey : key.isEmpty = true <;> simp [hkey]
    · rw [addSession_keeps (by simpa using h), if_neg h, if_neg h]

end session_guard.session_menu
