-- Does the list of users mirror its model? It does as long as each batch of rows that
-- comes is one row: the loop over a batch reads its first row each time.
import SessionGuard.UserListEvents
import SessionGuard.ItemModel

open machine

namespace session_guard.greeter_login_window

open item_model prompt_edit user_list_widget

/-! ## What leaves the rows alone -/

/-- The rows of the model and the users of the items. -/
def Sys.lists (s : Sys) : List UserInfo × List UserInfo :=
  (s.window.userlist.m_filterModel, s.window.userlist.items)

theorem Sys.lists_eq (s : Sys) : s.lists = s.window.userlist.lists := rfl

/-- No other event of the window changes the rows or the items. -/
theorem step_lists {s t : Sys} {e : Event} {o : List Output} (he : e.isListSignal = false)
    (h : step s e = some (t, o)) : t.lists = s.lists := (step_moves he h).lists

/-! ## What the loop of an insertion leaves -/

/-- One turn of the loop of `insertRows`. -/
def insertRow (first : Nat) (w : UserListWidget) (i : Nat) : UserListWidget :=
  w.insertItem i (w.getUserInfoFromModel first)

theorem insertRows_eq (u : UserListWidget) (first last : Nat) :
    u.insertRows first last =
      ((List.range (last + 1 - first)).map (first + ·)).foldl (insertRow first) u := rfl

/-- The loop over a batch inserts the data of its first row each time. -/
theorem insertRows_lists (u : UserListWidget) {first : Nat} (h : first ≤ u.items.length)
    (last : Nat) :
    (u.insertRows first last).m_filterModel = u.m_filterModel ∧
      (u.insertRows first last).items = u.items.take first ++
        List.replicate (last + 1 - first) (u.getUserInfoFromModel first) ++
          u.items.drop first := by
  rw [insertRows_eq]
  generalize last + 1 - first = count
  induction count with
  | zero => exact ⟨rfl, by simp⟩
  | succ count ih =>
    obtain ⟨hrows, hitems⟩ := ih
    rw [List.range_succ, List.map_append, List.map_singleton, List.foldl_concat]
    generalize ((List.range count).map (first + ·)).foldl (insertRow first) u = w at hrows hitems
    have hinfo : w.getUserInfoFromModel first = u.getUserInfoFromModel first := by
      rw [UserListWidget.getUserInfoFromModel, hrows, UserListWidget.getUserInfoFromModel]
    -- the row stands behind the rows that are inserted already
    have hlen : (u.items.take first ++ List.replicate count (u.getUserInfoFromModel first)).length =
        first + count := by
      rw [List.length_append, List.length_take_of_le h, List.length_replicate]
    refine ⟨hrows, ?_⟩
    unfold insertRow UserListWidget.insertItem
    dsimp only
    rw [hinfo, hitems, List.take_left' hlen, List.drop_left' hlen, List.replicate_succ',
      List.append_assoc, List.append_assoc, List.append_assoc, List.append_assoc]

/-! ## The model and the list -/

/-- The window with its user list, and what each row of the model held when the list took it
over. -/
structure Listed where
  sys : Sys
  taken : List UserInfo

/-- The rows of `m_filterModel`. -/
def Listed.rows (p : Listed) : List UserInfo := p.sys.window.userlist.m_filterModel

inductive ListEvent
  /-- The rows of the model change, and the user list handles the signal for it. -/
  | changed (c : Change UserInfo)
  /-- The data of a row change. The list does not listen to that. -/
  | dataChanged (row : Nat) (info : UserInfo)
  /-- Anything else that happens to the window. -/
  | window (e : Event)

/-- The rows of the change exist, and there are some. -/
def Valid (rows : List UserInfo) : Change UserInfo → Prop
  | .insert first batch => first ≤ rows.length ∧ batch ≠ []
  | .remove first count => 0 < count ∧ first + count ≤ rows.length

instance (rows : List UserInfo) : (c : Change UserInfo) → Decidable (Valid rows c)
  | .insert _ _ => inferInstanceAs (Decidable (_ ∧ _))
  | .remove _ _ => inferInstanceAs (Decidable (_ ∧ _))

/-- The handler of the user list for a change, after which the rows are these. -/
def Sys.handleChange (s : Sys) (rows : List UserInfo) : Change UserInfo → Sys × List Output
  | .insert first batch => s.slotRowsInserted rows first (first + batch.length - 1)
  | .remove first count => s.slotRowsRemoved rows first (first + count - 1)

def listStep : Step Listed ListEvent Output
  | p, .changed c =>
    if Valid p.rows c then
      let r := p.sys.handleChange (c.apply p.rows) c
      some (⟨r.1, c.apply p.taken⟩, r.2)
    else none
  | p, .dataChanged row info =>
    some ({ p with sys := { p.sys with window := { p.sys.window with userlist :=
      { p.sys.window.userlist with m_filterModel := p.rows.set row info } } } }, [])
  | p, .window e =>
    if e.isListSignal then none else (step p.sys e).map fun (s, o) => ({ p with sys := s }, o)

/-- What a step does to the user list. -/
inductive ListMoves (u : UserListWidget) : ListEvent → UserListWidget → Prop
  | inserts {first : Nat} {batch : List UserInfo}
      (h : Valid u.m_filterModel (.insert first batch)) :
      ListMoves u (.changed (.insert first batch))
        (u.inserted ((Change.insert first batch).apply u.m_filterModel) first
          (first + batch.length - 1))
  | removes {first count : Nat} (h : Valid u.m_filterModel (.remove first count)) :
      ListMoves u (.changed (.remove first count))
        (u.removed ((Change.remove first count).apply u.m_filterModel) first (first + count - 1))
  | dataChanges (row : Nat) (info : UserInfo) :
      ListMoves u (.dataChanged row info) { u with m_filterModel := u.m_filterModel.set row info }
  | window {e : Event} {u1 : UserListWidget} (h : u.Moves u1) : ListMoves u (.window e) u1

theorem listMoves_of_step {p p1 : Listed} {e : ListEvent} {o : List Output}
    (h : listStep p e = some (p1, o)) :
    ListMoves p.sys.window.userlist e p1.sys.window.userlist := by
  cases e with
  | changed c =>
    simp only [listStep] at h
    split_ifs at h with hvalid
    cases h
    cases c with
    | insert first batch =>
      show ListMoves _ _ (p.sys.slotRowsInserted _ first _).1.window.userlist
      rw [Sys.slotRowsInserted_userlist]
      exact .inserts hvalid
    | remove first count =>
      show ListMoves _ _ (p.sys.slotRowsRemoved _ first _).1.window.userlist
      rw [Sys.slotRowsRemoved_userlist]
      exact .removes hvalid
  | dataChanged row info =>
    cases h
    exact .dataChanges row info
  | window e =>
    simp only [listStep] at h
    split_ifs at h with he
    obtain ⟨⟨s, o1⟩, hs, heq⟩ := Option.map_eq_some_iff.mp h
    cases heq
    exact .window (step_moves (by simpa using he) hs)

/-- After the constructor, the list has taken over the rows of its model. -/
def Listed.init (prefs : Prefs) (users : List UserInfo) (autologinUserHint : String)
    (m_inputMode : EditInputMode) : Listed where
  sys := .init prefs users autologinUserHint m_inputMode
  taken := users.filter fun info => !prefs.hiddenUsers.contains info.name

/-! ## The law -/

/-- The list has an item for each row of the model, with what the row held when the list took
it over. -/
def Mirrors (p : Listed) : Prop :=
  p.sys.window.userlist.items = p.taken ∧ p.sys.window.userlist.userCount = p.rows.length

/-- The rows of a batch that comes are all the same. -/
def OneAlike (_ : Listed) : ListEvent → Prop
  | .changed (.insert _ batch) => ∀ info ∈ batch, ∀ other ∈ batch, info = other
  | _ => True

theorem inserted_lists (u : UserListWidget) (rows : List UserInfo) {first : Nat} (last : Nat)
    (h : first ≤ u.items.length) :
    (u.inserted rows first last).lists =
      (rows, u.items.take first ++ List.replicate (last + 1 - first) (rows.getD first {}) ++
        u.items.drop first) := by
  obtain ⟨hrows, hitems⟩ := insertRows_lists { u with m_filterModel := rows } h last
  have hlists : ({ u with m_filterModel := rows }.insertRows first last).lists =
      (rows, u.items.take first ++ List.replicate (last + 1 - first) (rows.getD first {}) ++
        u.items.drop first) := Prod.ext hrows hitems
  unfold UserListWidget.inserted
  dsimp only
  split_ifs
  · rw [(UserListWidget.Moves.selects 0).lists, hlists]
  · exact hlists

theorem removed_lists (u : UserListWidget) (rows : List UserInfo) {first last : Nat}
    (hfirst : first ≤ last) (hlast : last < u.items.length) :
    (u.removed rows first last).lists =
      (rows, u.items.take first ++ u.items.drop (last + 1)) := by
  obtain ⟨hrows, hitems⟩ := takeRows_lists { u with m_filterModel := rows } hfirst hlast
  have hlists : ({ u with m_filterModel := rows }.takeRows first last).1.lists =
      (rows, u.items.take first ++ u.items.drop (last + 1)) := Prod.ext hrows hitems
  show (UserListWidget.reselected _ _).lists = _
  unfold UserListWidget.reselected
  split_ifs
  · exact hlists
  · rw [(UserListWidget.Moves.selects 0).lists, hlists]
  · rw [UserListWidget.Moves.userListLogin.lists, hlists]

/-- The list has an item for each row of its model. -/
def Sized (u : UserListWidget) : Prop := u.userCount = u.m_filterModel.length

theorem sized_of_lists {u : UserListWidget} {rows items : List UserInfo}
    (h : u.lists = (rows, items)) (hlen : items.length = rows.length) : Sized u := by
  cases h
  exact hlen

theorem Sized.inserted {u : UserListWidget} (h : Sized u) {first : Nat} {batch : List UserInfo}
    (hvalid : Valid u.m_filterModel (.insert first batch)) :
    Sized (u.inserted ((Change.insert first batch).apply u.m_filterModel) first
      (first + batch.length - 1)) := by
  obtain ⟨hfirst, hbatch⟩ := hvalid
  have hlen : u.items.length = u.m_filterModel.length := h
  have hpos := List.length_pos_iff.mpr hbatch
  apply sized_of_lists (inserted_lists u _ _ (hlen ▸ hfirst))
  simp only [Change.apply, List.length_append, List.length_replicate, List.length_take,
    List.length_drop, hlen]
  omega

theorem removed_userCount {u : UserListWidget} (h : Sized u) {first count : Nat}
    (hvalid : Valid u.m_filterModel (.remove first count)) (rows : List UserInfo) :
    (u.removed rows first (first + count - 1)).userCount + count = u.userCount := by
  obtain ⟨hpos, hlast⟩ := hvalid
  have hlen : u.items.length = u.m_filterModel.length := h
  have hlists : (u.removed rows first (first + count - 1)).lists = _ :=
    removed_lists u rows (by omega) (by omega)
  have hitems : (u.removed rows first (first + count - 1)).items =
      u.items.take first ++ u.items.drop (first + count - 1 + 1) := congrArg Prod.snd hlists
  unfold UserListWidget.userCount
  rw [hitems, List.length_append, List.length_take, List.length_drop]
  omega

theorem Sized.removed {u : UserListWidget} (h : Sized u) {first count : Nat}
    (hvalid : Valid u.m_filterModel (.remove first count)) :
    Sized (u.removed ((Change.remove first count).apply u.m_filterModel) first
      (first + count - 1)) := by
  obtain ⟨hpos, hlast⟩ := hvalid
  have hlen : u.items.length = u.m_filterModel.length := h
  apply sized_of_lists (removed_lists u _ (by omega) (by omega))
  simp only [Change.apply, List.length_append, List.length_take, List.length_drop, hlen]
  omega

theorem ListMoves.sized {u u1 : UserListWidget} {e : ListEvent} (h : Sized u)
    (hmove : ListMoves u e u1) : Sized u1 := by
  cases hmove with
  | inserts hvalid => exact h.inserted hvalid
  | removes hvalid => exact h.removed hvalid
  | dataChanges row info => exact h.trans List.length_set.symm
  | window hmove => exact sized_of_lists hmove.lists h

/-- A batch is the first row of it again and again exactly when its rows are the same. -/
theorem eq_replicate_iff {batch : List UserInfo} (h : batch ≠ []) :
    List.replicate batch.length (batch.getD 0 {}) = batch ↔
      ∀ info ∈ batch, ∀ other ∈ batch, info = other := by
  obtain ⟨info, infos, rfl⟩ := List.exists_cons_of_ne_nil h
  rw [eq_comm, List.eq_replicate_iff]
  constructor
  · rintro ⟨-, hall⟩ a ha b hb
    rw [hall a ha, hall b hb]
  · exact fun hall => ⟨rfl, fun a ha => hall a ha info List.mem_cons_self⟩

theorem mirrors_iff (p : Listed) :
    Mirrors p ↔ p.sys.lists.2 = p.taken ∧ p.sys.lists.2.length = p.sys.lists.1.length := Iff.rfl

/-- A step mirrors the model exactly when a batch that it brings is one row. -/
theorem step_mirrors_iff {p p1 : Listed} {e : ListEvent} {o : List Output} (h : Mirrors p)
    (hstep : listStep p e = some (p1, o)) : Mirrors p1 ↔ OneAlike p e := by
  have hlen : p.sys.window.userlist.items.length = p.rows.length := h.2
  cases e with
  | changed c =>
    simp only [listStep] at hstep
    split_ifs at hstep with hvalid
    cases hstep
    rw [mirrors_iff]
    cases c with
    | insert first batch =>
      obtain ⟨hfirst, hbatch⟩ := hvalid
      have hpos := List.length_pos_iff.mpr hbatch
      -- the first row of the batch stands at `first` in the model
      have hhead : ((Change.insert first batch).apply p.rows).getD first {} = batch.getD 0 {} := by
        have htake : (p.rows.take first).length = first := List.length_take_of_le hfirst
        rw [Change.apply, List.append_assoc, List.getD_eq_getElem?_getD,
          List.getElem?_append_right (Nat.le_of_eq htake), htake, Nat.sub_self,
          List.getElem?_append_left hpos, ← List.getD_eq_getElem?_getD]
      have hcount : first + batch.length - 1 + 1 - first = batch.length := by omega
      simp only [Sys.handleChange]
      rw [Sys.lists_eq, Sys.slotRowsInserted_userlist, inserted_lists _ _ _ (hlen ▸ hfirst),
        hcount, hhead]
      simp only [Change.apply, ← h.1, List.append_cancel_left_eq, List.append_cancel_right_eq,
        List.length_append, List.length_replicate, List.length_take, List.length_drop, hlen]
      rw [eq_replicate_iff hbatch]
      exact and_iff_left trivial
    | remove first count =>
      obtain ⟨hpos, hlast⟩ := hvalid
      simp only [Sys.handleChange]
      rw [Sys.lists_eq, Sys.slotRowsRemoved_userlist, removed_lists _ _ (by omega) (by omega)]
      have hnext : first + count - 1 + 1 = first + count := by omega
      refine iff_of_true ⟨?_, ?_⟩ trivial
      · rw [hnext, h.1]
        rfl
      · simp only [hnext, Change.apply, List.length_append, List.length_take, List.length_drop,
          hlen]
  | dataChanged row info =>
    cases hstep
    refine iff_of_true ⟨h.1, hlen.trans ?_⟩ trivial
    exact List.length_set.symm
  | window e =>
    simp only [listStep] at hstep
    split_ifs at hstep with he
    obtain ⟨⟨s, o1⟩, hs, heq⟩ := Option.map_eq_some_iff.mp hstep
    cases heq
    rw [mirrors_iff]
    simp only [step_lists (by simpa using he) hs]
    exact iff_of_true h trivial

/-- The constructor loads the list, and a reset of the window leaves the rows. -/
theorem init_lists (prefs : Prefs) (users : List UserInfo) (autologinUserHint : String)
    (m_inputMode : EditInputMode) :
    let rows := users.filter fun info => !prefs.hiddenUsers.contains info.name
    (Sys.init prefs users autologinUserHint m_inputMode).lists = (rows, rows) := by
  intro rows
  let list := ({ m_filterModel := rows : UserListWidget }).loadUserList prefs.hiddenUsers
  have hlists : list.lists = (rows, rows) :=
    Prod.ext (UserListWidget.loadUserList_filterModel _ _)
      (UserListWidget.loadUserList_whole users prefs.hiddenUsers)
  rw [Sys.lists_eq, init_userlist]
  split_ifs
  · rw [UserListWidget.Moves.userListLogin.lists, hlists]
  · exact hlists

theorem init_mirrors (prefs : Prefs) (users : List UserInfo) (autologinUserHint : String)
    (m_inputMode : EditInputMode) :
    Mirrors (.init prefs users autologinUserHint m_inputMode) := by
  have hlists := init_lists prefs users autologinUserHint m_inputMode
  rw [mirrors_iff]
  unfold Listed.init
  rw [hlists]
  exact ⟨rfl, rfl⟩

/-- The list mirrors its model after the constructor, and a run keeps it a mirror exactly when
the rows of each batch that comes are all the same. -/
theorem the_list_mirrors_iff (prefs : Prefs) (users : List UserInfo) (autologinUserHint : String)
    (m_inputMode : EditInputMode) (es : List ListEvent) :
    Mirrors (.init prefs users autologinUserHint m_inputMode) ∧
      (Always listStep (fun _ _ _ p => Mirrors p)
          (.init prefs users autologinUserHint m_inputMode) es ↔
        Meets listStep OneAlike (.init prefs users autologinUserHint m_inputMode) es) := by
  have hinit := init_mirrors prefs users autologinUserHint m_inputMode
  refine ⟨hinit, always_iff_meets (I := Mirrors) ?_ ?_ hinit⟩
  · exact fun p e p1 o h hstep => step_mirrors_iff h hstep
  · exact fun p e p1 o h he hstep => (step_mirrors_iff h hstep).mpr he

/-- Two users come at once, and the first of them is shown twice. -/
theorem the_first_of_two_is_shown_twice :
    ∃ p o, run listStep (.init samplePrefs [] "" .EDIT_INPUT_USER_NAME)
        [.changed (.insert 0 [{ name := "alice" }, { name := "bob" }])] = some (p, o) ∧
      p.sys.window.userlist.items.map UserInfo.name = ["alice", "alice"] ∧ ¬ Mirrors p := by
  refine ⟨_, _, rfl, rfl, fun h => ?_⟩
  have hitems := h.1
  revert hitems
  decide

end session_guard.greeter_login_window
