-- The session that the greeter asks for, over every run: the one that the checked item of the
-- session menu names at that time.
import SessionGuard.SessionMenu

open machine

namespace session_guard.greeter_login_window

open prompt_edit user_list_widget

/-! ## Slots that leave the session -/

/-- The slot leaves the session that is chosen. -/
def KeepsSession (s : Sys) (r : Sys × List Output) : Prop :=
  r.1.window.m_session = s.window.m_session

theorem KeepsSession.andThen {s : Sys} {r : Sys × List Output} {f : Sys → Sys × List Output}
    (h : KeepsSession s r) (hf : ∀ s, KeepsSession s (f s)) : KeepsSession s (andThen r f) :=
  (hf r.1).trans h

theorem cancelRunning_session (s : Sys) : KeepsSession s s.cancelRunning := by
  unfold Sys.cancelRunning
  split_ifs <;> rfl

theorem startAuthUser_session (s : Sys) (username userIcon : String) :
    KeepsSession s (s.startAuthUser username userIcon) := by
  unfold Sys.startAuthUser
  apply (cancelRunning_session s).andThen
  intro s1
  dsimp only
  split_ifs <;> rfl

theorem selected_session (s : Sys) (r : UserListWidget × Option UserInfo) :
    KeepsSession s (s.selected r) := by
  unfold Sys.selected Sys.slotUserActivated
  rcases r.2 with _ | info
  · rfl
  · exact startAuthUser_session _ info.name info.imagePath

theorem resetUIForUserListLogin_session (s : Sys) :
    KeepsSession s s.resetUIForUserListLogin := by
  unfold Sys.resetUIForUserListLogin
  apply (cancelRunning_session s).andThen
  intro s1
  dsimp only
  split
  · exact startAuthUser_session _ _ _
  · exact selected_session _ _

theorem resetUIForManualLogin_session (s : Sys) : KeepsSession s s.resetUIForManualLogin := by
  unfold Sys.resetUIForManualLogin
  apply (cancelRunning_session s).andThen
  intro s1
  rfl

theorem confirm_session (s : Sys) (r : PromptEdit × Option String) :
    KeepsSession s (s.confirm r) := by
  unfold Sys.confirm Sys.slotTextConfirmed
  rcases r.2 with _ | text
  · rfl
  · dsimp only
    split_ifs
    · rfl
    · exact startAuthUser_session _ _ _

theorem slotRowsRemoved_session (s : Sys) (rows : List UserInfo) (first last : Nat) :
    KeepsSession s (s.slotRowsRemoved rows first last) := by
  unfold Sys.slotRowsRemoved Sys.reselect
  apply KeepsSession.andThen
  · split_ifs
    · rfl
    · exact selected_session _ _
    · exact resetUIForUserListLogin_session _
  · intro s1
    rfl

/-- Only the menu chooses a session. -/
theorem does_session (s : Sys) {e : Event} (he : ∀ action, e ≠ .selectSession action) :
    KeepsSession s (s.does e) := by
  cases e with
  | selectSession action => exact absurd rfl (he action)
  | selectUser row => exact selected_session s _
  | pressReturn => exact confirm_session s _
  | clickButton => exact confirm_session s _
  | clickNotListAndCancel =>
    show KeepsSession s s.slotButtonClicked
    unfold Sys.slotButtonClicked
    split
    · exact resetUIForManualLogin_session s
    · split
      · exact resetUIForUserListLogin_session s
      · exact resetUIForManualLogin_session s
  | clickReAuth =>
    show KeepsSession s s.slotReAuthClicked
    unfold Sys.slotReAuthClicked
    split_ifs
    · exact resetUIForUserListLogin_session s
    · exact resetUIForManualLogin_session s
  | autologinTimerExpired =>
    show KeepsSession s s.slotAutologinTimerExpired
    unfold Sys.slotAutologinTimerExpired
    split_ifs <;> rfl
  | authenticationComplete success =>
    show KeepsSession s (s.slotAuthenticationComplete success)
    unfold Sys.slotAuthenticationComplete
    split_ifs
    · rfl
    · exact startAuthUser_session _ _ _
    · rfl
  | showPrompt text type =>
    show KeepsSession s (s.slotShowprompt text type, [])
    unfold Sys.slotShowprompt
    dsimp only
    split_ifs <;> rfl
  | modelRowsInserted n =>
    show KeepsSession s (s.slotModelRowsInserted n, [])
    unfold Sys.slotModelRowsInserted
    dsimp only
    split_ifs <;> rfl
  | modelRowsRemoved n =>
    show KeepsSession s (s.slotModelRowsRemoved n)
    unfold Sys.slotModelRowsRemoved
    dsimp only
    split_ifs
    · exact resetUIForManualLogin_session _
    · rfl
  | rowsInserted rows first last =>
    show KeepsSession s (s.slotRowsInserted rows first last)
    unfold Sys.slotRowsInserted
    dsimp only
    split_ifs
    · exact selected_session _ _
    · rfl
  | rowsRemoved rows first last => exact slotRowsRemoved_session s rows first last
  | _ => rfl

/-- The window asks for the session that is chosen. -/
theorem does_starts (s : Sys) (e : Event) {session : String}
    (h : .startSessionSync session ∈ (s.does e).2) : session = s.window.m_session := by
  by_cases he : e = .authenticationComplete true
  · subst he
    have hout : (s.does (.authenticationComplete true)).2 =
        [.startSessionSync s.window.m_session] := rfl
    rw [hout] at h
    cases List.mem_singleton.mp h
    rfl
  · cases does_noSession s he _ h

theorem initSettings_session (s : Sys) (prefs : Prefs) :
    KeepsSession s (s.initSettings prefs) := by
  unfold Sys.initSettings
  dsimp only
  split_ifs
  · exact resetUIForUserListLogin_session _
  · exact resetUIForManualLogin_session _

end session_guard.greeter_login_window

namespace session_guard.greeter_login

open auth_msg_queue auth_proxy auth_runs
open greeter_login_window (KeepsSession does_session does_starts)

variable {env : Env}

/-- The event chooses a session in the menu. -/
def Event.choosesSession : Event → Bool
  | .window (.selectSession _) => true
  | _ => false

theorem signal_keeps {e : Effect} {event : greeter_login_window.Event}
    (h : signal e = some event) : ∀ action, event ≠ .selectSession action := by
  rintro action rfl
  cases e <;> cases h

/-- The slots for the signals of the proxy leave the session, and ask for it. -/
theorem dispatch_session (s : Sys) (call : Nat) (effects : List Effect) :
    (s.dispatch call effects).1.window.window.m_session = s.window.window.m_session ∧
      ∀ session, .window (.startSessionSync session) ∈ (s.dispatch call effects).2 →
        session = s.window.window.m_session := by
  induction effects generalizing s with
  | nil => exact ⟨rfl, nofun⟩
  | cons e effects ih =>
    simp only [Sys.dispatch]
    rcases hsignal : signal e with _ | event
    · obtain ⟨hkeeps, hasks⟩ := ih s
      refine ⟨hkeeps, fun session h => ?_⟩
      simp only [List.nil_append, List.mem_cons, reduceCtorEq, false_or] at h
      exact hasks session h
    · obtain ⟨hkeeps, hasks⟩ := ih (s.takes call (s.window.does event)).1
      have hslot : KeepsSession s.window (s.window.does event) :=
        does_session s.window (signal_keeps hsignal)
      refine ⟨hkeeps.trans hslot, fun session h => ?_⟩
      simp only [List.mem_cons, reduceCtorEq, false_or, List.mem_append] at h
      rcases h with h | h
      · obtain ⟨o, ho, heq⟩ := List.mem_map.mp h
        cases heq
        exact does_starts s.window event ho
      · exact (hasks session h).trans hslot

theorem step_session {s t : Sys} {e : Event} {o : List Output}
    (he : e.choosesSession = false) (h : step env s e = some (t, o)) :
    t.window.window.m_session = s.window.window.m_session ∧
      ∀ session, .window (.startSessionSync session) ∈ o →
        session = s.window.window.m_session := by
  have hmoves := step_moves h
  generalize hr : (t, o) = r at hmoves
  cases hmoves with
  | @window e w o1 hout hw =>
    obtain ⟨-, rfl, rfl⟩ := greeter_login_window.step_does hw
    cases hr
    refine ⟨does_session s.window ?_, fun session hmem => ?_⟩
    · rintro action rfl
      cases he
    · obtain ⟨x, hx, heq⟩ := List.mem_map.mp hmem
      cases heq
      exact does_starts s.window e hx
  | @proxy _ s1 call x auth effects hask hx =>
    obtain ⟨hkeeps, hasks⟩ := dispatch_session { s1 with auth := auth } call effects
    have hsame : s1.window.window.m_session = s.window.window.m_session := by
      cases hask <;> rfl
    rw [← hr] at hkeeps hasks
    exact ⟨hkeeps.trans hsame, fun session hmem => (hasks session hmem).trans hsame⟩

end session_guard.greeter_login

namespace session_guard.session_menu

open auth_proxy
open greeter_login (Event Output)
open greeter_login_window (Prefs EditInputMode)
open user_list_widget (UserInfo)

/-! ## The greeter with its menu -/

structure Sys where
  menu : SessionMenu
  greeter : greeter_login.Sys

inductive MenuEvent
  /-- A press of the mouse on an item of the menu. -/
  | press (i : Nat)
  | greeter (e : Event)

variable (env : Env)

/-- The slot of `sigChecked`, for each signal. -/
def chosen (actions : List String) : List Event :=
  actions.map fun action => .window (.selectSession action)

/-- The session is chosen in the menu only, and the main thread takes a press in its event loop. -/
def step : Step Sys MenuEvent Output
  | s, .press i =>
    let r := s.menu.mousePressEvent i
    if s.greeter.AtLoop then
      (run (greeter_login.step env) s.greeter (chosen r.2)).map fun g => (⟨r.1, g.1⟩, g.2)
    else none
  | s, .greeter e =>
    if e.choosesSession then none
    else (greeter_login.step env s.greeter e).map fun g => ({ s with greeter := g.1 }, g.2)

/-- The window's constructor, where `initMenu` comes before `initSettings`. -/
def Sys.init (SESSION_AUTH_TYPE_TOGETHER : Int) (prefs : Prefs) (users : List UserInfo)
    (autologinUserHint : String) (m_inputMode : EditInputMode)
    (hiddenSessions keys : List String) : Sys :=
  let menu := initMenu hiddenSessions keys
  let window := greeter_login.unset prefs users autologinUserHint m_inputMode
  let window := { window with window := { window.window with m_session := menu.2 } }
  { menu := menu.1
    greeter := (greeter_login.Sys.takes
      { window := window, auth := greeter_login.proxied env SESSION_AUTH_TYPE_TOGETHER } 0
      (window.initSettings prefs)).1 }

/-! ## The session that is asked for -/

/-- The item is the one that is checked. -/
def SessionMenu.Checked (m : SessionMenu) (session : String) : Prop :=
  ∃ (i : Nat) (item : GreeterMenuItem), m.items[i]? = some item ∧ item.isChecked = true ∧
    item.m_actionName = session ∧
    ∀ (j : Nat) (other : GreeterMenuItem), m.items[j]? = some other → other.isChecked = true → j = i

/-- The session that a press chooses, where the menu shows these. -/
def choose (shown : List String) (session : String) : MenuEvent → String
  | .press i => shown[i]?.getD session
  | .greeter _ => session

/-- The default of `initMenu`: the first session with a name. -/
def defaultSession (shown : List String) : String :=
  (shown.find? fun key => !key.isEmpty).getD ""

/-- The menu shows the sessions, and the checked one is that of the window. -/
def Agrees (shown : List String) (s : Sys) : Prop :=
  Filled shown s.menu s.greeter.window.window.m_session

theorem Filled.checked {shown : List String} {m : SessionMenu} {session : String}
    (h : Filled shown m session) : m.Checked session ∧ session ∈ shown ∨
      shown = [] ∧ session = "" := by
  rcases hbutton : m.checkedButton with _ | i
  · right
    rw [← h.names, h.settled hbutton]
    exact ⟨rfl, h.exclusive.unset hbutton⟩
  · left
    obtain ⟨item, hitem, hname⟩ := h.exclusive.named i hbutton
    refine ⟨⟨i, item, hitem, (h.exclusive.checked i item hitem).mpr hbutton, hname, ?_⟩, ?_⟩
    · intro j other hother hon
      have hj := (h.exclusive.checked j other hother).mp hon
      rw [hbutton] at hj
      exact (Option.some.inj hj).symm
    · rw [← h.names, ← hname]
      exact List.mem_map_of_mem (List.mem_of_getElem? hitem)

/-- A press checks the item, and chooses its session. -/
theorem press_filled {shown : List String} {m : SessionMenu} {session : String}
    (h : Filled shown m session) (i : Nat) :
    Filled shown (m.mousePressEvent i).1 (selectSession session (m.mousePressEvent i).2) ∧
      selectSession session (m.mousePressEvent i).2 = choose shown session (.press i) := by
  have hname : shown[i]? = m.items[i]?.map (·.m_actionName) := by
    rw [← h.names, List.getElem?_map]
  have hchoose : choose shown session (.press i) =
      (m.items[i]?.map (·.m_actionName)).getD session := by
    rw [choose, hname]
  rw [hchoose]
  unfold SessionMenu.mousePressEvent
  rcases hitem : m.items[i]? with _ | item
  · exact ⟨h, rfl⟩
  · by_cases hoff : item.isChecked = false
    · simp only [if_pos hoff]
      obtain ⟨hbutton, hsignals⟩ := setChecked_off hitem hoff
      rw [hsignals]
      refine ⟨⟨setChecked_exclusive h.exclusive hitem hoff,
        (setChecked_names h.exclusive i).trans h.names, fun hnone => ?_⟩, rfl⟩
      rw [hbutton] at hnone
      cases hnone
    · -- the item is checked already, and its session is chosen
      simp only [if_neg hoff]
      have hbutton := (h.exclusive.checked i item hitem).mp (by simpa using hoff)
      obtain ⟨x, hx, hsession⟩ := h.exclusive.named i hbutton
      rw [hitem] at hx
      cases hx
      exact ⟨h, hsession.symm⟩

/-- Choosing sessions asks for none. -/
theorem chosen_runs {g t : greeter_login.Sys} {actions : List String} {o : List Output}
    (h : run (greeter_login.step env) g (chosen actions) = some (t, o)) :
    t.window.window.m_session = selectSession g.window.window.m_session actions ∧ o = [] := by
  induction actions generalizing g o with
  | nil =>
    cases h
    exact ⟨rfl, rfl⟩
  | cons action actions ih =>
    obtain ⟨g1, o1, o2, h1, h2, rfl⟩ := run_cons_iff.mp h
    obtain ⟨hsession, rfl⟩ := ih h2
    have hone : g1.window.window.m_session = action ∧ o1 = [] := by
      simp only [greeter_login.step] at h1
      split_ifs at h1
      cases h1
      exact ⟨rfl, rfl⟩
    rw [hsession, hone.1, hone.2]
    exact ⟨rfl, rfl⟩

variable {env}

/-- A step keeps the menu and the session together, and asks for this session only. -/
theorem step_agrees {shown : List String} {s t : Sys} {e : MenuEvent} {o : List Output}
    (hs : Agrees shown s) (h : step env s e = some (t, o)) :
    Agrees shown t ∧
      t.greeter.window.window.m_session = choose shown s.greeter.window.window.m_session e ∧
      ∀ session, .window (.startSessionSync session) ∈ o →
        session = s.greeter.window.window.m_session := by
  cases e with
  | press i =>
    simp only [step] at h
    split_ifs at h
    obtain ⟨⟨g, o1⟩, hg, heq⟩ := Option.map_eq_some_iff.mp h
    cases heq
    obtain ⟨hsession, rfl⟩ := chosen_runs env hg
    obtain ⟨hfilled, hchosen⟩ := press_filled hs i
    rw [← hsession] at hfilled hchosen
    exact ⟨hfilled, hchosen, nofun⟩
  | greeter e =>
    simp only [step] at h
    split_ifs at h with hchooses
    obtain ⟨⟨g, o1⟩, hg, heq⟩ := Option.map_eq_some_iff.mp h
    cases heq
    obtain ⟨hkeeps, hasks⟩ := greeter_login.step_session (by simpa using hchooses) hg
    refine ⟨?_, hkeeps, hasks⟩
    have hfilled : Filled shown s.menu s.greeter.window.window.m_session := hs
    rwa [← hkeeps] at hfilled

/-- Over a run, the session is the one that the presses have chosen. -/
theorem run_agrees {shown : List String} {s t : Sys} {es : List MenuEvent} {o : List Output}
    (hs : Agrees shown s) (h : run (step env) s es = some (t, o)) :
    Agrees shown t ∧ t.greeter.window.window.m_session =
      es.foldl (choose shown) s.greeter.window.window.m_session := by
  induction es generalizing s o with
  | nil =>
    cases h
    exact ⟨hs, rfl⟩
  | cons e es ih =>
    obtain ⟨s1, o1, o2, h1, h2, -⟩ := run_cons_iff.mp h
    obtain ⟨hs1, hsession, -⟩ := step_agrees hs h1
    obtain ⟨ht, hrest⟩ := ih hs1 h2
    refine ⟨ht, ?_⟩
    rw [hrest, hsession, List.foldl_cons]

variable (env)

theorem init_agrees (authType : Int) (prefs : Prefs) (users : List UserInfo)
    (autologinUserHint : String) (m_inputMode : EditInputMode) (hiddenSessions keys : List String) :
    Agrees (visible hiddenSessions keys)
        (.init env authType prefs users autologinUserHint m_inputMode hiddenSessions keys) ∧
      (Sys.init env authType prefs users autologinUserHint m_inputMode hiddenSessions
        keys).greeter.window.window.m_session = defaultSession (visible hiddenSessions keys) := by
  have hkeeps : (Sys.init env authType prefs users autologinUserHint m_inputMode hiddenSessions
      keys).greeter.window.window.m_session = (initMenu hiddenSessions keys).2 :=
    greeter_login_window.initSettings_session _ prefs
  refine ⟨?_, hkeeps.trans (foldl_session keys)⟩
  unfold Agrees
  rw [hkeeps]
  exact initMenu_filled hiddenSessions keys

/-- In every state that the greeter reaches, over any sessions and hidden sessions, the window asks
only for the session that the user has last pressed in the menu, or for the first one with a name
before a press. It is that of the one checked item, and it is not hidden. -/
theorem the_session_is_the_checked_one (authType : Int) (prefs : Prefs) (users : List UserInfo)
    (autologinUserHint : String) (m_inputMode : EditInputMode) (hiddenSessions keys : List String)
    {es : List MenuEvent} {s t : Sys} {e : MenuEvent} {o o1 : List Output} {session : String}
    (h : run (step env) (.init env authType prefs users autologinUserHint m_inputMode
      hiddenSessions keys) es = some (s, o))
    (hstep : step env s e = some (t, o1))
    (hasks : .window (.startSessionSync session) ∈ o1) :
    session = es.foldl (choose (visible hiddenSessions keys))
        (defaultSession (visible hiddenSessions keys)) ∧
      (s.menu.Checked session ∧ session ∈ visible hiddenSessions keys ∨
        visible hiddenSessions keys = [] ∧ session = "") := by
  obtain ⟨hinit, hdefault⟩ := init_agrees env authType prefs users autologinUserHint m_inputMode
    hiddenSessions keys
  obtain ⟨hs, hsession⟩ := run_agrees hinit h
  obtain ⟨-, -, hstarts⟩ := step_agrees hs hstep
  obtain rfl := hstarts session hasks
  refine ⟨?_, Filled.checked hs⟩
  rw [hsession, hdefault]

/-- Alice presses the second session that is shown, and logs in. -/
def logInToMate : List MenuEvent :=
  (greeter_login.logIn.take 17).map .greeter ++ [.press 1] ++
    (greeter_login.logIn.drop 17).map .greeter

theorem alice_gets_the_session_she_pressed :
    ∃ s t o o1, run (step sampleEnv)
        (.init sampleEnv 1 greeter_login_window.samplePrefs greeter_login.aliceAndBob ""
          .EDIT_INPUT_USER_NAME ["gnome"] ["gnome", "kiran", "mate"]) logInToMate = some (s, o) ∧
      step sampleEnv s (.greeter .deliver) = some (t, o1) ∧
      .window (.startSessionSync "mate") ∈ o1 ∧ s.menu.Checked "mate" := by
  have hrun : ∃ s t o o1, run (step sampleEnv)
        (.init sampleEnv 1 greeter_login_window.samplePrefs greeter_login.aliceAndBob ""
          .EDIT_INPUT_USER_NAME ["gnome"] ["gnome", "kiran", "mate"]) logInToMate = some (s, o) ∧
      step sampleEnv s (.greeter .deliver) = some (t, o1) ∧
      o1.filterMap Output.window? = [.startSessionSync "mate"] := ⟨_, _, _, _, rfl, rfl, rfl⟩
  obtain ⟨s, t, o, o1, h, hstep, hout⟩ := hrun
  have hasks : .window (.startSessionSync "mate") ∈ o1 := by
    have hmem : greeter_login_window.Output.startSessionSync "mate" ∈
        o1.filterMap Output.window? := hout ▸ List.mem_cons_self
    obtain ⟨x, hx, heq⟩ := List.mem_filterMap.mp hmem
    cases x with
    | window output =>
      cases heq
      exact hx
    | proxy effect => cases heq
  obtain ⟨-, ⟨hchecked, -⟩ | ⟨hnone, -⟩⟩ := the_session_is_the_checked_one sampleEnv 1
    greeter_login_window.samplePrefs greeter_login.aliceAndBob "" .EDIT_INPUT_USER_NAME ["gnome"]
    ["gnome", "kiran", "mate"] h hstep hasks
  · exact ⟨s, t, o, o1, h, hstep, hasks, hchecked⟩
  · cases hnone

end session_guard.session_menu
