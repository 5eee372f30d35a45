-- What the snoop reports: the state that the server has answered, flipped at each press that the
-- server has recorded since, when the record thread has not overtaken the first report of the main
-- thread.
import SessionGuard.CapsLockSnoopLaws

open machine

namespace session_guard.caps_lock_snoop

variable (isCapsLock : UInt8 → Bool)

/-! ## Presses that are on their way -/

/-- What the server has sent is a press of Caps Lock. -/
def XRecordInterceptData.isPress : XRecordInterceptData → Bool
  | .fromServer type detail => caps_lock_snoop.isPress isCapsLock type detail
  | _ => false

/-- The number of presses of Caps Lock is odd. -/
def oddPresses : List XRecordInterceptData → Bool
  | [] => false
  | d :: rest => d.isPress isCapsLock ^^ oddPresses rest

theorem oddPresses_append (xs ys : List XRecordInterceptData) :
    oddPresses isCapsLock (xs ++ ys) = (oddPresses isCapsLock xs ^^ oddPresses isCapsLock ys) := by
  induction xs with
  | nil => exact (Bool.false_xor _).symm
  | cons d xs ih => rw [List.cons_append, oddPresses, ih, oddPresses, Bool.xor_assoc]

theorem oddPresses_of_none {data : List XRecordInterceptData}
    (h : ∀ d ∈ data, d.isPress isCapsLock = false) : oddPresses isCapsLock data = false := by
  induction data with
  | nil => rfl
  | cons d rest ih =>
    obtain ⟨hd, hrest⟩ := List.forall_mem_cons.mp h
    rw [oddPresses, hd, ih hrest]
    rfl

/-! ## A start that succeeds -/

/-- Without an error, the part leads from `pre` to `post`. -/
def Part.Gives (pre : CapsLockSnoopPrivate → Prop) (f : Part)
    (post : CapsLockSnoopPrivate → Prop) : Prop :=
  ∀ p, pre p → (f p).2.2 = none → post (f p).1

theorem Part.Gives.andThen {pre mid post : CapsLockSnoopPrivate → Prop} {f g : Part}
    (hf : f.Gives pre mid) (hg : g.Gives mid post) : (f.andThen g).Gives pre post := by
  intro p hp h
  have hmid := hf p hp
  unfold Part.andThen at h ⊢
  generalize f p = r at h hmid ⊢
  rcases r with ⟨p1, o1, _ | error⟩
  · exact hg p1 (hmid rfl) h
  · cases h

/-- The record knows the callback, and the state that the server has answered. -/
theorem start_knows {p : CapsLockSnoopPrivate} {callback user_data : Nat} {k : Answers}
    (h : (p.start callback user_data k).2.2 = none) :
    (p.start callback user_data k).1.capsLockIsOn = k.stateRtrn ∧
      (p.start callback user_data k).1.callback = some callback := by
  have hstate : (getCapsLockCurrentState k).Gives (·.callback = some callback)
      fun p => p.capsLockIsOn = k.stateRtrn ∧ p.callback = some callback := by
    intro p hp h
    unfold getCapsLockCurrentState at h ⊢
    split_ifs at h ⊢
    exact ⟨rfl, hp⟩
  have hparts : ((prepare k).andThen (createThread k)).Gives
      (·.callback = some callback)
      fun p => p.capsLockIsOn = k.stateRtrn ∧ p.callback = some callback :=
    .andThen (.andThen (fun _ hp _ => hp) <| .andThen (fun _ hp _ => hp) <|
      .andThen (fun _ hp _ => hp) <| .andThen (fun _ hp _ => hp) hstate) fun _ hp _ => hp
  have hend := hparts { p with callback := some callback, callback_user_data := user_data } rfl
  unfold CapsLockSnoopPrivate.start at h ⊢
  split_ifs at h ⊢ with hrun
  generalize (prepare k).andThen (createThread k) _ = r at h hend ⊢
  rcases r with ⟨p1, o1, _ | error⟩
  · exact hend rfl
  · cases h

/-! ## The invariant -/

/-- The state that the server has answered, flipped at each press that it has recorded since. -/
def Sys.indicated (s : Sys) : Bool := s.history.answered ^^ oddPresses isCapsLock s.history.recorded

/-- What the snoop knows of the state of Caps Lock. -/
structure Tracks (s : Sys) : Prop where
  created : s.thread = .created →
    s.enabled = false ∧ s.indicated isCapsLock = s.m_private.capsLockIsOn
  enabled : s.enabled = true → (s.thread = .recording ∨ s.thread = .toggled) ∧
    s.main.isJoining = false ∧
    s.indicated isCapsLock = (s.m_private.capsLockIsOn ^^ oddPresses isCapsLock s.data)
  recording : s.thread = .recording ∨ s.thread = .toggled → s.main.isJoining = false →
    s.enabled = true
  ended : s.enabled = true → .endOfData ∉ s.data
  callback : s.thread ≠ .none → s.m_private.callback ≠ none
  reporting : ∀ isOn, s.main = .reporting isOn → isOn = s.m_private.capsLockIsOn
  shown : s.main = .idle → s.thread = .created ∨ s.thread = .recording →
    s.history.shown = some s.m_private.capsLockIsOn

def Main.isReporting : Main → Bool
  | .reporting _ => true
  | _ => false

/-- The record thread takes no press of Caps Lock between the two steps of the first report. -/
def uncrossed (s : Sys) : Event → Bool
  | .intercept => !s.main.isReporting || !s.data.head?.any (·.isPress isCapsLock)
  | _ => true

/-- Neither thread has anything left to do. -/
structure AtRest (s : Sys) : Prop where
  main : s.main = .idle
  thread : s.thread = .recording
  data : ∀ d ∈ s.data, d.isPress isCapsLock = false

variable {isCapsLock}

theorem AtRest.shown {s : Sys} (h : AtRest isCapsLock s) (hs : Tracks isCapsLock s) :
    s.history.shown = some (s.indicated isCapsLock) := by
  have henabled := hs.recording (Or.inl h.thread) (by rw [h.main]; rfl)
  obtain ⟨-, -, hindicated⟩ := hs.enabled henabled
  rw [oddPresses_of_none isCapsLock h.data, Bool.xor_false] at hindicated
  rw [hs.shown h.main (Or.inr h.thread), hindicated]

/-- Where there is no record thread, nothing is to be known. -/
theorem tracks_nothing {s : Sys} (hthread : s.thread = .none) (henabled : s.enabled = false)
    (hmain : ∀ isOn, s.main ≠ .reporting isOn) : Tracks isCapsLock s where
  created := fun h => absurd (hthread.symm.trans h) nofun
  enabled := fun h => absurd (henabled.symm.trans h) nofun
  recording := fun h => by simp [hthread] at h
  ended := fun h => absurd (henabled.symm.trans h) nofun
  callback := fun h => absurd hthread h
  reporting := fun isOn h => absurd h (hmain isOn)
  shown := fun _ h => by simp [hthread] at h

theorem init_tracks : Tracks isCapsLock {} :=
  tracks_nothing rfl rfl nofun

/-- Without a record thread the server records nothing. -/
theorem Tracks.disabled {s : Sys} (hs : Tracks isCapsLock s) (hthread : s.thread = .none) :
    s.enabled = false := by
  by_contra h
  obtain ⟨hlive, -⟩ := hs.enabled (by simpa using h)
  simp [hthread] at hlive

/-! ## Each step keeps it -/

theorem start_tracks {s : Sys} (hs : Tracks isCapsLock s) (hholds : Holds s)
    (hmain : s.main = .idle) (callback user_data : Nat) (k : Answers) :
    Tracks isCapsLock (s.start callback user_data k).1 := by
  unfold Sys.start
  by_cases hrun : s.m_private.isRunning = true
  · have hr : s.m_private.start callback user_data k =
        (s.m_private, [], some "CapsLockSnoop is running") := if_pos hrun
    rw [hr]
    exact ⟨hs.created, hs.enabled, hs.recording, hs.ended, hs.callback, hs.reporting, hs.shown⟩
  · obtain ⟨-, hthread⟩ := hholds.stopped hmain (by simpa using hrun)
    have hdisabled := hs.disabled hthread
    have hknows := @start_knows s.m_private callback user_data k
    generalize s.m_private.start callback user_data k = r at hknows ⊢
    rcases r with ⟨p, o, _ | error⟩
    · obtain ⟨hstate, hcallback⟩ := hknows rfl
      refine ⟨fun _ => ⟨hdisabled, ?_⟩, fun h => absurd (hdisabled.symm.trans h) nofun, nofun,
        fun h => absurd (hdisabled.symm.trans h) nofun, fun _ => ?_, nofun, nofun⟩
      · show (k.stateRtrn ^^ false) = p.capsLockIsOn
        rw [Bool.xor_false]
        exact hstate.symm
      · rw [hcallback]
        exact nofun
    · exact tracks_nothing hthread hdisabled (by simp [hmain])

theorem stop_tracks {s : Sys} (hs : Tracks isCapsLock s) (hholds : Holds s)
    (hmain : s.main = .idle) (destructor : Bool) : Tracks isCapsLock (s.stop destructor).1 := by
  unfold Sys.stop
  by_cases hrun : s.m_private.isRunning = true
  · rw [if_pos hrun]
    refine ⟨fun h => ⟨rfl, (hs.created h).2⟩, nofun, nofun, nofun, hs.callback, nofun, nofun⟩
  · rw [if_neg hrun]
    obtain ⟨-, hthread⟩ := hholds.stopped hmain (by simpa using hrun)
    by_cases hdestructor : destructor = true
    · rw [if_pos hdestructor]
      exact tracks_nothing hthread (hs.disabled hthread) nofun
    · rw [if_neg hdestructor]
      exact hs

/-- The record thread takes what the server has sent. -/
theorem intercept_tracks {s : Sys} (hs : Tracks isCapsLock s) {d : XRecordInterceptData}
    {rest : List XRecordInterceptData} (hthread : s.thread = .recording)
    (hdata : s.data = d :: rest) (hg : uncrossed isCapsLock s .intercept = true) :
    Tracks isCapsLock (Sys.intercept isCapsLock { s with data := rest } d).1 := by
  have hended : s.enabled = true → .endOfData ∉ rest := by
    intro h hmem
    exact hs.ended h (hdata ▸ List.mem_cons_of_mem _ hmem)
  have hsame : d.isPress isCapsLock = false → Tracks isCapsLock { s with data := rest } := by
    intro hpress
    refine ⟨fun h => absurd (hthread.symm.trans h) nofun, ?_, hs.recording, hended, hs.callback,
      hs.reporting, hs.shown⟩
    intro henabled
    obtain ⟨hlive, hmain, hindicated⟩ := hs.enabled henabled
    rw [hdata, oddPresses, hpress, Bool.false_xor] at hindicated
    exact ⟨hlive, hmain, hindicated⟩
  cases d with
  | startOfData => exact hsame rfl
  | endOfData =>
    have hdisabled : s.enabled = false := by
      by_contra h
      exact hs.ended (by simpa using h) (hdata ▸ List.mem_cons_self)
    refine ⟨nofun, fun h => absurd (hdisabled.symm.trans h) nofun, nofun, hended,
      fun _ => hs.callback (by simp [hthread]), hs.reporting, nofun⟩
  | fromServer type detail =>
    unfold Sys.intercept
    by_cases htype : (type == KeyPress) = true
    · by_cases hcaps : isCapsLock detail = true
      · have hpress : (XRecordInterceptData.fromServer type detail).isPress isCapsLock = true := by
          simp [XRecordInterceptData.isPress, isPress, htype, hcaps]
        simp only [if_pos htype, if_pos hcaps]
        refine ⟨nofun, ?_, fun _ => hs.recording (Or.inl hthread), hended,
          fun _ => hs.callback (by simp [hthread]), ?_, nofun⟩
        · intro henabled
          obtain ⟨-, hmain, hindicated⟩ := hs.enabled henabled
          refine ⟨Or.inr rfl, hmain, hindicated.trans ?_⟩
          rw [hdata, oddPresses, hpress]
          cases s.m_private.capsLockIsOn <;> cases oddPresses isCapsLock rest <;> rfl
        · intro isOn hmain
          have hreporting : s.main.isReporting = true := by
            rw [show s.main = .reporting isOn from hmain]
            rfl
          simp [uncrossed, hreporting, hdata, hpress] at hg
      · simp only [if_pos htype, if_neg hcaps]
        exact hsame (by simp [XRecordInterceptData.isPress, isPress, hcaps])
    · simp only [if_neg htype]
      exact hsame (by simp [XRecordInterceptData.isPress, isPress, htype])

theorem called_tracks {s : Sys} (hs : Tracks isCapsLock s) (htoggled : s.thread = .toggled) :
    Tracks isCapsLock s.called.1 := by
  unfold Sys.called
  have hcallback := hs.callback (by simp [htoggled])
  cases hsome : s.m_private.callback with
  | none => exact absurd hsome hcallback
  | some callback =>
    refine ⟨nofun, ?_, fun _ => hs.recording (Or.inr htoggled), hs.ended, fun _ => hcallback,
      hs.reporting, fun _ _ => rfl⟩
    intro henabled
    exact ⟨Or.inl rfl, (hs.enabled henabled).2⟩

/-- The server sends nothing that it does not record. -/
theorem device_odd (s : Sys) (type detail : UInt8) :
    oddPresses isCapsLock (s.device type detail).data =
        (oddPresses isCapsLock s.data ^^ oddPresses isCapsLock (s.records type detail)) ∧
      (s.device type detail).indicated isCapsLock =
        (s.indicated isCapsLock ^^ oddPresses isCapsLock (s.records type detail)) := by
  unfold Sys.indicated Sys.device
  dsimp only
  rw [oddPresses_append, oddPresses_append, Bool.xor_assoc]
  exact ⟨rfl, rfl⟩

theorem device_tracks {s : Sys} (hs : Tracks isCapsLock s) (type detail : UInt8) :
    Tracks isCapsLock (s.device type detail) := by
  obtain ⟨hsent, hindicated⟩ := @device_odd isCapsLock s type detail
  refine ⟨?_, ?_, hs.recording, ?_, hs.callback, hs.reporting, hs.shown⟩
  · intro hcreated
    obtain ⟨hdisabled, hknown⟩ := hs.created hcreated
    have hnone : s.records type detail = [] := by
      simp [Sys.records, hdisabled]
    refine ⟨hdisabled, ?_⟩
    rw [hindicated, hnone, oddPresses, Bool.xor_false]
    exact hknown
  · intro henabled
    obtain ⟨hlive, hmain, hknown⟩ := hs.enabled henabled
    refine ⟨hlive, hmain, ?_⟩
    rw [hsent, hindicated, hknown, Bool.xor_assoc]
    rfl
  · intro henabled hmem
    rcases List.mem_append.mp hmem with h | h
    · exact hs.ended henabled h
    · unfold Sys.records at h
      split_ifs at h
      · cases List.mem_singleton.mp h
      · cases h

theorem moves_tracks {s : Sys} {e : Event} {r : Sys × List Effect} (hs : Tracks isCapsLock s)
    (hholds : Holds s) (hg : uncrossed isCapsLock s e = true) (h : Moves isCapsLock s e r) :
    Tracks isCapsLock r.1 := by
  cases h with
  | start callback user_data k hmain => exact start_tracks hs hholds hmain callback user_data k
  | stop hmain => exact stop_tracks hs hholds hmain false
  | destroy hmain => exact stop_tracks hs hholds hmain true
  | intercept d rest hthread hdata => exact intercept_tracks hs hthread hdata hg
  | callback htoggled => exact called_tracks hs htoggled
  | device type detail => exact device_tracks hs type detail
  | read hmain =>
    refine ⟨hs.created, fun h => ?_, fun h _ => hs.recording h (by rw [hmain]; rfl), hs.ended,
      hs.callback, ?_, nofun⟩
    · obtain ⟨hlive, -, hindicated⟩ := hs.enabled h
      exact ⟨hlive, rfl, hindicated⟩
    · intro isOn h
      cases h
      rfl
  | report isOn hmain =>
    refine ⟨hs.created, fun h => ?_, fun h _ => hs.recording h (by rw [hmain]; rfl), hs.ended,
      hs.callback, nofun, fun _ _ => congrArg some (hs.reporting isOn hmain)⟩
    obtain ⟨hlive, -, hindicated⟩ := hs.enabled h
    exact ⟨hlive, rfl, hindicated⟩
  | joined destructor hmain hexited =>
    have hdisabled : s.enabled = false := by
      by_contra h
      obtain ⟨hlive, -⟩ := hs.enabled (by simpa using h)
      simp [hexited] at hlive
    refine tracks_nothing rfl hdisabled ?_
    cases destructor <;> exact nofun
  | late hcreated hjoining =>
    have hdisabled := (hs.created hcreated).1
    exact ⟨nofun, fun h => absurd (hdisabled.symm.trans h) nofun, nofun, hs.ended,
      fun _ => hs.callback (by simp [hcreated]), hs.reporting, nofun⟩
  | enable hcreated hjoining =>
    -- from here on the server records each press
    obtain ⟨-, hindicated⟩ := hs.created hcreated
    refine ⟨nofun, fun _ => ⟨Or.inl rfl, hjoining, ?_⟩, fun _ _ => rfl, fun _ => by simp,
      fun _ => hs.callback (by simp [hcreated]), hs.reporting,
      fun hmain _ => hs.shown hmain (Or.inl hcreated)⟩
    refine hindicated.trans ?_
    simp [oddPresses, XRecordInterceptData.isPress]

theorem step_tracks {s t : Sys} {e : Event} {o : List Effect} (hs : Tracks isCapsLock s)
    (hholds : Holds s) (hg : uncrossed isCapsLock s e = true)
    (h : step isCapsLock s e = some (t, o)) : Tracks isCapsLock t := by
  obtain ⟨n, hmoves, rfl⟩ := step_moves h
  have hn := moves_tracks hs hholds hg hmoves
  exact ⟨hn.created, hn.enabled, hn.recording, hn.ended, hn.callback, hn.reporting, hn.shown⟩

/-! ## Every run -/

variable (isCapsLock)

/-- In every run in which no press of Caps Lock is taken between the two steps of a first report,
the callback has last been given, whenever the threads are at rest, the state that the server has
answered to the latest start, flipped at each press that the server has recorded since. -/
theorem the_snoop_counts_the_presses (es : List Event)
    (hG : Meets (step isCapsLock) (fun s e => uncrossed isCapsLock s e = true) {} es)
    (t : Sys) (o : List Effect) (h : run (step isCapsLock) {} es = some (t, o))
    (hrest : AtRest isCapsLock t) :
    t.history.shown = some (t.history.answered ^^ oddPresses isCapsLock t.history.recorded) := by
  have hend : Holds t ∧ Tracks isCapsLock t :=
    run_inv_of_meets (I := fun s => Holds s ∧ Tracks isCapsLock s)
      (fun _ _ _ _ hs hg h1 => ⟨(step_holds hs.1 h1).1, step_tracks hs.2 hs.1 hg h1⟩)
      ⟨init_holds, init_tracks⟩ hG h
  exact hrest.shown hend.2

/-- Caps Lock is off, and is pressed three times. -/
def recordedPresses : List Event :=
  [.start 8 9 given, .read, .enable, pressCapsLock, .report, .intercept, .intercept, .callback] ++
    pressAndReport ++ pressAndReport

theorem recorded_presses_are_shown :
    ∃ t o, run (step isCapsLockOfPc) {} recordedPresses = some (t, o) ∧
      t.history.recorded.length = 3 ∧ t.history.shown = some true := by
  have hrun : ∃ t o, run (step isCapsLockOfPc) {} recordedPresses = some (t, o) ∧
      t.history.answered = false ∧ t.history.recorded = List.replicate 3 (.fromServer KeyPress 66) ∧
      t.main = .idle ∧ t.thread = .recording ∧ t.data = [] := ⟨_, _, rfl, rfl, rfl, rfl, rfl, rfl⟩
  obtain ⟨t, o, h, hanswered, hrecorded, hmain, hthread, hdata⟩ := hrun
  have hshown := the_snoop_counts_the_presses isCapsLockOfPc recordedPresses (by decide)
    t o h ⟨hmain, hthread, by simp [hdata]⟩
  rw [hanswered, hrecorded] at hshown
  exact ⟨t, o, h, by rw [hrecorded]; rfl, hshown⟩

/-- The record thread reports a press, and the first report of the main thread comes after it. -/
theorem a_press_overtakes_the_first_report :
    ∃ t o, run (step isCapsLockOfPc) {}
        ([.start 8 9 given, .enable, .intercept, .read] ++ pressAndReport ++ [.report]) =
        some (t, o) ∧ t.history.answered = false ∧ t.history.recorded.length = 1 ∧
        t.history.shown = some false :=
  ⟨_, _, rfl, rfl, rfl, rfl⟩

end session_guard.caps_lock_snoop
