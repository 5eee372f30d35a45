-- What the snoop holds in every run: its calls touch only that, as long as the record thread does
-- not come to its context after `stop` has freed it, and a start that fails loses its key display.
import SessionGuard.CapsLockSnoop

open machine ledger

namespace session_guard.caps_lock_snoop

/-! ## The parts of `start` -/

/-- The resource of a handle that is not 0. -/
def handle (r : Nat → Resource) (n : Nat) : List Resource := if n = 0 then [] else [r n]

/-- What `start` has acquired, latest first. -/
def CapsLockSnoopPrivate.acquired (p : CapsLockSnoopPrivate) : List Resource :=
  handle .context p.recordContext ++ (handle .range p.recordRange ++
    (handle .display p.keyDisplay ++ (handle .display p.dataDisplay ++
      handle .display p.ctrlDisplay)))

theorem handle_ne {r : Nat → Resource} {n : Nat} (h : n ≠ 0) : handle r n = [r n] := if_neg h

@[simp] theorem handle_zero (r : Nat → Resource) : handle r 0 = [] := rfl

theorem lawful_opened (held : List Resource) (r : Nat → Resource) (n : Nat) :
    Lawful held (opened r n) := by
  unfold opened
  split_ifs
  · trivial
  · exact ⟨trivial, trivial⟩

@[simp] theorem balance_opened (held : List Resource) (r : Nat → Resource) (n : Nat) :
    balance held (opened r n) = handle r n ++ held := by
  unfold opened handle
  split_ifs <;> rfl

/-- What a part of `start` comes to: it has touched only what is held, and what it has acquired is
in the record. -/
structure Outcome (k : Answers) (post : CapsLockSnoopPrivate → Prop) (held rest : List Resource)
    (r : CapsLockSnoopPrivate × List Effect × Option String) : Prop where
  lawful : Lawful held (entries r.2.1)
  held : (balance held (entries r.2.1)).Perm (r.1.acquired ++ rest)
  context : r.1.recordContext ≠ 0 → r.1.ctrlDisplay ≠ 0
  keyDisplay : r.1.keyDisplay = k.keyDisplay
  post : r.2.2 = none → post r.1

/-- From `pre` the part comes to `post`, or to an error. -/
def Part.Sound (k : Answers) (pre : CapsLockSnoopPrivate → Prop) (f : Part)
    (post : CapsLockSnoopPrivate → Prop) : Prop :=
  ∀ p held rest, pre p → held.Perm (p.acquired ++ rest) → Outcome k post held rest (f p)

theorem Part.Sound.andThen {k : Answers} {pre mid post : CapsLockSnoopPrivate → Prop} {f g : Part}
    (hf : f.Sound k pre mid) (hg : g.Sound k mid post) : (f.andThen g).Sound k pre post := by
  intro p held rest hp hheld
  have hfirst := hf p held rest hp hheld
  unfold Part.andThen
  generalize f p = r at hfirst ⊢
  rcases r with ⟨p1, o1, _ | error⟩
  · have hsecond := hg p1 (balance held (entries o1)) rest (hfirst.post rfl) hfirst.held
    refine ⟨?_, ?_, hsecond.context, hsecond.keyDisplay, hsecond.post⟩
    · rw [entries_append, lawful_append]
      exact ⟨hfirst.lawful, hsecond.lawful⟩
    · rw [entries_append, balance_append]
      exact hsecond.held
  · exact ⟨hfirst.lawful, hfirst.held, hfirst.context, hfirst.keyDisplay, nofun⟩

/-- How far `start` has come, by the handles that are there. -/
structure Acquired (k : Answers) (range context : Bool) (p : CapsLockSnoopPrivate) : Prop where
  ctrlDisplay : p.ctrlDisplay ≠ 0
  dataDisplay : p.dataDisplay ≠ 0
  keyDisplay : p.keyDisplay = k.keyDisplay
  keyOpen : p.keyDisplay ≠ 0
  recordRange : p.recordRange ≠ 0 ↔ range = true
  recordContext : p.recordContext ≠ 0 ↔ context = true

/-- No handle is there. -/
def Blank (p : CapsLockSnoopPrivate) : Prop :=
  p.ctrlDisplay = 0 ∧ p.dataDisplay = 0 ∧ p.keyDisplay = 0 ∧ p.recordRange = 0 ∧
    p.recordContext = 0

theorem Acquired.mem_ctrlDisplay {k : Answers} {range context : Bool} {p : CapsLockSnoopPrivate}
    {held rest : List Resource} (hp : Acquired k range context p)
    (h : held.Perm (p.acquired ++ rest)) : Resource.display p.ctrlDisplay ∈ held := by
  apply h.mem_iff.mpr
  simp [CapsLockSnoopPrivate.acquired, handle_ne hp.ctrlDisplay]

theorem openDisplays_sound (k : Answers) :
    (openDisplays k).Sound k Blank (Acquired k false false) := by
  intro p held rest ⟨h1, h2, h3, h4, h5⟩ hheld
  have hempty : p.acquired = [] := by
    simp [CapsLockSnoopPrivate.acquired, h1, h2, h3, h4, h5]
  rw [hempty, List.nil_append] at hheld
  have hentries : entries (openDisplays k p).2.1 =
      opened .display k.ctrlDisplay ++ (opened .display k.dataDisplay ++
        opened .display k.keyDisplay) := by
    simp [openDisplays, entries, entry]
  refine ⟨?_, ?_, fun h => absurd h5 h, rfl, ?_⟩
  · rw [hentries, lawful_append, lawful_append]
    exact ⟨lawful_opened _ _ _, lawful_opened _ _ _, lawful_opened _ _ _⟩
  · have hacquired : (openDisplays k p).1.acquired =
        handle .display k.keyDisplay ++ (handle .display k.dataDisplay ++
          handle .display k.ctrlDisplay) := by
      simp [CapsLockSnoopPrivate.acquired, openDisplays, h4, h5]
    rw [hentries, hacquired]
    simp only [balance_append, balance_opened, List.append_assoc]
    exact ((hheld.append_left _).append_left _).append_left _
  · intro herror
    by_cases hopen : k.ctrlDisplay = 0 ∨ k.dataDisplay = 0 ∨ k.keyDisplay = 0
    · simp [openDisplays, hopen] at herror
    · obtain ⟨hctrl, hdata, hkey⟩ := not_or.mp hopen |>.imp_right not_or.mp
      exact ⟨hctrl, hdata, rfl, hkey, by simp [openDisplays, h4], by simp [openDisplays, h5]⟩

theorem queryVersion_sound (k : Answers) :
    (queryVersion k).Sound k (Acquired k false false) (Acquired k false false) := by
  intro p held rest hp hheld
  have hmem := hp.mem_ctrlDisplay hheld
  exact ⟨⟨hmem, hmem, trivial⟩, hheld, fun _ => hp.ctrlDisplay, hp.keyDisplay, fun _ => hp⟩

theorem allocRange_sound (k : Answers) :
    (allocRange k).Sound k (Acquired k false false) (Acquired k true false) := by
  intro p held rest hp hheld
  have hrange : p.recordRange = 0 := by simpa using hp.recordRange
  have hcontext : p.recordContext = 0 := by simpa using hp.recordContext
  have hentries : entries (allocRange k p).2.1 = opened .range k.recordRange := by
    simp [allocRange, entries, entry]
  refine ⟨?_, ?_, fun h => absurd hcontext h, hp.keyDisplay, ?_⟩
  · rw [hentries]
    exact lawful_opened _ _ _
  · rw [hentries, balance_opened]
    have hacquired : (allocRange k p).1.acquired = handle .range k.recordRange ++ p.acquired := by
      simp [CapsLockSnoopPrivate.acquired, allocRange, hrange, hcontext]
    rw [hacquired, List.append_assoc]
    exact hheld.append_left _
  · intro herror
    have hk : k.recordRange ≠ 0 := by
      intro h
      simp [allocRange, h] at herror
    exact ⟨hp.ctrlDisplay, hp.dataDisplay, hp.keyDisplay, hp.keyOpen, by simp [allocRange, hk],
      hp.recordContext⟩

theorem createContext_sound (k : Answers) :
    (createContext k).Sound k (Acquired k true false) (Acquired k true true) := by
  intro p held rest hp hheld
  have hcontext : p.recordContext = 0 := by simpa using hp.recordContext
  have hrange : p.recordRange ≠ 0 := hp.recordRange.mpr rfl
  have hentries : entries (createContext k p).2.1 =
      [.use (.display p.ctrlDisplay), .use (.range p.recordRange)] ++
        opened .context k.recordContext := by
    simp [createContext, entries, entry]
  refine ⟨?_, ?_, fun _ => hp.ctrlDisplay, hp.keyDisplay, ?_⟩
  · rw [hentries, lawful_append]
    refine ⟨⟨hp.mem_ctrlDisplay hheld, ?_, trivial⟩, lawful_opened _ _ _⟩
    apply hheld.mem_iff.mpr
    simp [CapsLockSnoopPrivate.acquired, handle_ne hrange]
  · rw [hentries, balance_append, balance_opened]
    have hacquired : (createContext k p).1.acquired =
        handle .context k.recordContext ++ p.acquired := by
      simp [CapsLockSnoopPrivate.acquired, createContext, hcontext]
    rw [hacquired, List.append_assoc]
    exact hheld.append_left _
  · intro herror
    have hk : k.recordContext ≠ 0 := by
      intro h
      simp [createContext, h] at herror
    exact ⟨hp.ctrlDisplay, hp.dataDisplay, hp.keyDisplay, hp.keyOpen, hp.recordRange,
      by simp [createContext, hk]⟩

/-- The display of `getCapsLockCurrentState` is closed again. -/
theorem getCapsLockCurrentState_sound (k : Answers) :
    (getCapsLockCurrentState k).Sound k (Acquired k true true)
      (Acquired k true true) := by
  intro p held rest hp hheld
  have hsame : ∀ b, ({ p with capsLockIsOn := b } : CapsLockSnoopPrivate).acquired = p.acquired :=
    fun _ => rfl
  unfold getCapsLockCurrentState
  split_ifs with hdisplay hnamed
  · exact ⟨by simp [entries, entry, opened, hdisplay, Lawful, Along],
      by simpa [entries, entry, opened, hdisplay] using hheld, fun _ => hp.ctrlDisplay,
      hp.keyDisplay, fun _ => hp⟩
  all_goals
    refine ⟨?_, ?_, fun _ => hp.ctrlDisplay, hp.keyDisplay, fun _ => ?_⟩
    · simp [entries, entry, opened, hdisplay, Lawful, Along, IsLawful, post]
    · simpa [entries, entry, opened, hdisplay, post, hsame] using hheld
    · exact ⟨hp.ctrlDisplay, hp.dataDisplay, hp.keyDisplay, hp.keyOpen, hp.recordRange,
        hp.recordContext⟩

/-- `start` up to the record thread touches only what is held. -/
theorem prepare_sound (k : Answers) :
    (prepare k).Sound k Blank (Acquired k true true) :=
  (openDisplays_sound k).andThen <| (queryVersion_sound k).andThen <|
    (allocRange_sound k).andThen <| (createContext_sound k).andThen
      (getCapsLockCurrentState_sound k)

/-- `failed` releases what `start` has acquired, and forgets the key display. -/
theorem failed_lawful {p : CapsLockSnoopPrivate} {held rest : List Resource}
    (hcontext : p.recordContext ≠ 0 → p.ctrlDisplay ≠ 0)
    (hheld : held.Perm (p.acquired ++ rest)) :
    Lawful held (entries (failed p)) ∧
      (balance held (entries (failed p))).Perm (handle .display p.keyDisplay ++ rest) := by
  have hrelease : entries
      ((if p.recordRange ≠ 0 then [Effect.XFree p.recordRange] else []) ++
        (if p.ctrlDisplay ≠ 0 then [.XCloseDisplay p.ctrlDisplay] else []) ++
        (if p.dataDisplay ≠ 0 then [.XCloseDisplay p.dataDisplay] else [])) =
      (handle .range p.recordRange ++ (handle .display p.ctrlDisplay ++
        handle .display p.dataDisplay)).map .release := by
    unfold handle
    by_cases h1 : p.recordRange = 0 <;> by_cases h2 : p.ctrlDisplay = 0 <;>
      by_cases h3 : p.dataDisplay = 0 <;> simp [h1, h2, h3, entries, entry]
  have hrest : ∀ held : List Resource,
      held.Perm (handle .range p.recordRange ++ (handle .display p.keyDisplay ++
        (handle .display p.dataDisplay ++ handle .display p.ctrlDisplay)) ++ rest) →
      held.Perm (handle .range p.recordRange ++ (handle .display p.ctrlDisplay ++
        handle .display p.dataDisplay) ++ (handle .display p.keyDisplay ++ rest)) := by
    intro held h
    apply h.trans
    apply List.perm_iff_count.mpr
    intro a
    simp only [List.count_append]
    omega
  unfold failed
  rw [List.append_assoc, List.append_assoc,
    ← List.append_assoc (if p.recordRange ≠ 0 then _ else _), entries_append, lawful_append,
    balance_append, hrelease]
  by_cases h : p.recordContext = 0
  · have hempty : entries (if p.recordContext ≠ 0 then
        [Effect.XRecordDisableContext p.ctrlDisplay p.recordContext,
          .XRecordFreeContext p.ctrlDisplay p.recordContext] else []) = [] := by
      simp [h, entries]
    rw [hempty]
    have hpart := release_part (hrest held (by
      simpa [CapsLockSnoopPrivate.acquired, h] using hheld))
    exact ⟨⟨trivial, hpart.1⟩, hpart.2⟩
  · have hctrl := hcontext h
    have hentries : entries (if p.recordContext ≠ 0 then
        [Effect.XRecordDisableContext p.ctrlDisplay p.recordContext,
          .XRecordFreeContext p.ctrlDisplay p.recordContext] else []) =
        [.use (.display p.ctrlDisplay), .use (.context p.recordContext),
          .use (.display p.ctrlDisplay), .release (.context p.recordContext)] := by
      simp [h, entries, entry]
    have hmem1 : Resource.display p.ctrlDisplay ∈ held :=
      hheld.mem_iff.mpr (by simp [CapsLockSnoopPrivate.acquired, handle_ne hctrl])
    have hmem2 : Resource.context p.recordContext ∈ held :=
      hheld.mem_iff.mpr (by simp [CapsLockSnoopPrivate.acquired, handle_ne h])
    have herase : (held.erase (.context p.recordContext)).Perm _ :=
      hheld.erase (.context p.recordContext)
    rw [CapsLockSnoopPrivate.acquired, handle_ne h, List.append_assoc, List.singleton_append,
      List.erase_cons_head] at herase
    have hpart := release_part (hrest _ herase)
    rw [hentries]
    exact ⟨⟨⟨hmem1, hmem2, hmem1, hmem2, trivial⟩, hpart.1⟩, hpart.2⟩

theorem Outcome.failed {k : Answers} {post : CapsLockSnoopPrivate → Prop}
    {held rest : List Resource} {r : CapsLockSnoopPrivate × List Effect × Option String}
    (h : Outcome k post held rest r) :
    Lawful held (entries (r.2.1 ++ failed r.1)) ∧
      (balance held (entries (r.2.1 ++ caps_lock_snoop.failed r.1))).Perm
        (handle .display k.keyDisplay ++ rest) := by
  obtain ⟨hlaw, hperm⟩ := failed_lawful h.context h.held
  rw [h.keyDisplay] at hperm
  rw [entries_append, lawful_append, balance_append]
  exact ⟨⟨h.lawful, hlaw⟩, hperm⟩

/-- The handles that `stop` releases after the record thread has ended, in its order. -/
def CapsLockSnoopPrivate.handles (p : CapsLockSnoopPrivate) : List Resource :=
  [.thread p.thread, .display p.dataDisplay, .display p.ctrlDisplay, .display p.keyDisplay,
    .range p.recordRange]

/-- A start touches only what is held. It holds its handles after a success, and its key display
after a failure. -/
theorem start_lawful (callback user_data : Nat) (k : Answers)
    {held rest : List Resource} (h : held.Perm rest)
    {r : CapsLockSnoopPrivate × List Effect × Option String}
    (hr : CapsLockSnoopPrivate.start {} callback user_data k = r) :
    Lawful held (entries r.2.1) ∧
      (r.2.2 = none → (balance held (entries r.2.1)).Perm
        (.context r.1.recordContext :: r.1.handles ++ rest)) ∧
      (r.2.2 ≠ none → (balance held (entries r.2.1)).Perm (handle .display k.keyDisplay ++ rest) ∧
        r.1 = {}) := by
  have hprepared := prepare_sound k
    { callback := some callback, callback_user_data := user_data } held rest
    ⟨rfl, rfl, rfl, rfl, rfl⟩ h
  have hfailed : ∀ {p1 : CapsLockSnoopPrivate} {o : List Effect} {error : String},
      Outcome k (fun _ => True) held rest (p1, o, some error) →
      r = ({}, o ++ failed p1, some error) →
      Lawful held (entries r.2.1) ∧ (r.2.2 = none → (balance held (entries r.2.1)).Perm
        (.context r.1.recordContext :: r.1.handles ++ rest)) ∧
      (r.2.2 ≠ none → (balance held (entries r.2.1)).Perm (handle .display k.keyDisplay ++ rest) ∧
        r.1 = {}) := by
    rintro p1 o error hout rfl
    obtain ⟨hlaw, hperm⟩ := hout.failed
    exact ⟨hlaw, nofun, fun _ => ⟨hperm, rfl⟩⟩
  simp only [CapsLockSnoopPrivate.start, Bool.false_eq_true, if_false, Part.andThen] at hr
  generalize prepare k _ = prepared at hprepared hr
  rcases prepared with ⟨p1, o1, _ | error⟩
  · obtain ⟨hlaw, hheld, hcontext, hkey, hpost⟩ := hprepared
    have hp := hpost rfl
    by_cases hiRes : k.iRes = 0
    · -- the record thread is there
      simp only [createThread, hiRes, if_true] at hr
      subst hr
      have hthread : entries (o1 ++ [.pthread_create 0 k.thread]) =
          entries o1 ++ [.acquire (.thread k.thread)] := by
        simp [entries, entry]
      refine ⟨?_, fun _ => ?_, fun h => absurd rfl h⟩
      · rw [hthread, lawful_append]
        exact ⟨hlaw, trivial, trivial⟩
      · rw [hthread, balance_append]
        have hacquired : p1.acquired = [.context p1.recordContext, .range p1.recordRange,
            .display p1.keyDisplay, .display p1.dataDisplay, .display p1.ctrlDisplay] := by
          simp only [CapsLockSnoopPrivate.acquired, handle_ne (hp.recordContext.mpr rfl),
            handle_ne (hp.recordRange.mpr rfl), handle_ne hp.keyOpen, handle_ne hp.dataDisplay,
            handle_ne hp.ctrlDisplay, List.cons_append, List.nil_append]
        rw [hacquired] at hheld
        refine (hheld.cons (.thread k.thread)).trans ?_
        apply List.perm_iff_count.mpr
        intro a
        simp only [CapsLockSnoopPrivate.handles, List.count_cons, List.cons_append, List.nil_append]
        omega
    · refine @hfailed { p1 with thread := p1.thread }
        (o1 ++ [.pthread_create k.iRes k.thread]) k.strerror ?_ ?_
      · have hnothing : entries (o1 ++ [.pthread_create k.iRes k.thread]) = entries o1 := by
          simp [entries, entry, hiRes]
        exact ⟨hnothing ▸ hlaw, hnothing ▸ hheld, hcontext, hkey, fun _ => trivial⟩
      · simp only [createThread, hiRes, if_false] at hr
        exact hr.symm
  · exact hfailed ⟨hprepared.lawful, hprepared.held, hprepared.context, hprepared.keyDisplay,
      fun _ => trivial⟩ hr.symm

/-! ## The invariant -/

/-- What the snoop holds, apart from what it has lost. -/
def Sys.owned (s : Sys) : List Resource :=
  match s.main with
  | .gone => []
  | .joining _ => .m_private :: s.m_private.handles
  | _ =>
    if s.thread = .none then [.m_private]
    else .m_private :: .context s.m_private.recordContext :: s.m_private.handles

structure Holds (s : Sys) : Prop where
  held : s.held.Perm (s.owned ++ s.history.lost)
  lost : ∀ r ∈ s.history.lost, ∃ display, r = .display display
  stopped : s.main = .idle → s.m_private.isRunning = false →
    s.m_private = {} ∧ s.thread = .none
  started : s.main ≠ .gone → (s.main = .idle → s.m_private.isRunning = true) → s.thread ≠ .none
  gone : s.main = .gone → s.thread = .none

theorem init_holds : Holds {} where
  held := List.Perm.refl _
  lost := List.forall_mem_nil _
  stopped := fun _ _ => ⟨rfl, rfl⟩
  started := fun _ h => absurd (h rfl) Bool.false_ne_true
  gone := nofun

/-- While the record thread is there, the record and its handles are held. -/
theorem Holds.mem {s : Sys} (hs : Holds s) (hthread : s.thread ≠ .none) {r : Resource}
    (hr : r ∈ .m_private :: s.m_private.handles) : r ∈ s.held := by
  apply hs.held.mem_iff.mpr
  apply List.mem_append_left
  unfold Sys.owned
  cases hmain : s.main with
  | gone => exact absurd (hs.gone hmain) hthread
  | joining destructor => exact hr
  | _ =>
    simp only [if_neg hthread]
    rcases List.mem_cons.mp hr with rfl | hr
    · exact List.mem_cons_self
    · exact List.mem_cons_of_mem _ (List.mem_cons_of_mem _ hr)

/-- The context is held until `stop` frees it. -/
theorem Holds.mem_context {s : Sys} (hs : Holds s) (hthread : s.thread ≠ .none) :
    Resource.context s.m_private.recordContext ∈ s.held ↔ s.main.isJoining = false := by
  have hlost : Resource.context s.m_private.recordContext ∉ s.history.lost := by
    intro h
    obtain ⟨display, hdisplay⟩ := hs.lost _ h
    cases hdisplay
  rw [hs.held.mem_iff, List.mem_append, or_iff_left hlost, Sys.owned]
  cases hmain : s.main with
  | gone => exact absurd (hs.gone hmain) hthread
  | joining destructor => simp [CapsLockSnoopPrivate.handles, Main.isJoining]
  | _ => simp [hthread, Main.isJoining]

/-- The record thread does not come to its context after `stop` has freed it. -/
def InTime (s : Sys) : Event → Prop
  | .enable => s.main.isJoining = false
  | _ => True

/-- The calls touch only what the snoop holds. -/
def TouchesWhatItHolds (s : Sys) (_ : Event) (o : List Effect) (_ : Sys) : Prop :=
  Lawful s.held (entries o)

variable {isCapsLock : UInt8 → Bool}

/-- What a step can do. -/
inductive Moves (isCapsLock : UInt8 → Bool) (s : Sys) : Event → Sys × List Effect → Prop
  | start (callback user_data : Nat) (k : Answers) : s.main = .idle →
    Moves isCapsLock s (.start callback user_data k) (s.start callback user_data k)
  | read : s.main = .reading →
    Moves isCapsLock s .read ({ s with main := .reporting s.m_private.capsLockIsOn }, [])
  | report (isOn : Bool) : s.main = .reporting isOn →
    Moves isCapsLock s .report
      ({ s with
          m_private := { s.m_private with isRunning := true }
          main := .idle
          history := { s.history with shown := some isOn } },
        [.callback s.m_private.callback isOn s.m_private.callback_user_data])
  | stop : s.main = .idle → Moves isCapsLock s .stop (s.stop false)
  | destroy : s.main = .idle → Moves isCapsLock s .destroy (s.stop true)
  | joined (destructor : Bool) : s.main = .joining destructor → s.thread = .exited →
    Moves isCapsLock s .joined (s.joined destructor)
  | late : s.thread = .created → s.main.isJoining = true →
    Moves isCapsLock s .enable
      ({ s with thread := .exited },
        [.XRecordEnableContext s.m_private.dataDisplay s.m_private.recordContext])
  | enable : s.thread = .created → s.main.isJoining = false →
    Moves isCapsLock s .enable
      ({ s with thread := .recording, enabled := true, data := [.startOfData] },
        [.XRecordEnableContext s.m_private.dataDisplay s.m_private.recordContext])
  | intercept (d : XRecordInterceptData) (rest : List XRecordInterceptData) :
    s.thread = .recording → s.data = d :: rest →
    Moves isCapsLock s .intercept (Sys.intercept isCapsLock { s with data := rest } d)
  | callback : s.thread = .toggled → Moves isCapsLock s .callback s.called
  | device (type detail : UInt8) :
    Moves isCapsLock s (.device type detail) (s.device type detail, [])

theorem next_moves {s : Sys} {e : Event} {r : Sys × List Effect}
    (h : s.next isCapsLock e = some r) : Moves isCapsLock s e r := by
  cases e with
  | start callback user_data k =>
    obtain ⟨hmain, hr⟩ := Option.ite_none_right_eq_some.mp h
    exact Option.some.inj hr ▸ .start callback user_data k hmain
  | read =>
    obtain ⟨hmain, hr⟩ := Option.ite_none_right_eq_some.mp h
    exact Option.some.inj hr ▸ .read hmain
  | report =>
    simp only [Sys.next] at h
    split at h <;> cases h
    exact .report _ ‹_›
  | stop =>
    obtain ⟨hmain, hr⟩ := Option.ite_none_right_eq_some.mp h
    exact Option.some.inj hr ▸ .stop hmain
  | destroy =>
    obtain ⟨hmain, hr⟩ := Option.ite_none_right_eq_some.mp h
    exact Option.some.inj hr ▸ .destroy hmain
  | joined =>
    simp only [Sys.next] at h
    split at h
    · obtain ⟨hthread, hr⟩ := Option.ite_none_right_eq_some.mp h
      exact Option.some.inj hr ▸ .joined _ ‹_› hthread
    · cases h
  | enable =>
    obtain ⟨hcreated, hr⟩ := Option.ite_none_right_eq_some.mp h
    by_cases hjoining : s.main.isJoining = true
    · rw [if_pos hjoining] at hr
      exact Option.some.inj hr ▸ .late hcreated hjoining
    · rw [if_neg hjoining] at hr
      exact Option.some.inj hr ▸ .enable hcreated (by simpa using hjoining)
  | intercept =>
    simp only [Sys.next] at h
    split at h <;> cases h
    exact .intercept _ _ ‹_› ‹_›
  | callback =>
    obtain ⟨htoggled, hr⟩ := Option.ite_none_right_eq_some.mp h
    exact Option.some.inj hr ▸ .callback htoggled
  | device type detail => exact Option.some.inj h ▸ .device type detail

theorem step_moves {s t : Sys} {e : Event} {o : List Effect}
    (h : step isCapsLock s e = some (t, o)) :
    ∃ n, Moves isCapsLock s e (n, o) ∧ t = { n with held := balance s.held (entries o) } := by
  obtain ⟨⟨n, o1⟩, hn, heq⟩ := Option.map_eq_some_iff.mp h
  cases heq
  exact ⟨n, next_moves hn, rfl⟩

/-! ## Each step keeps it -/

/-- A step of `s` that comes to `n` touches only what is held, and keeps the invariant. -/
def Kept (s : Sys) (r : Sys × List Effect) : Prop :=
  Holds { r.1 with held := balance s.held (entries r.2) } ∧ Lawful s.held (entries r.2)

theorem start_kept {s : Sys} (hs : Holds s) (hmain : s.main = .idle) (callback user_data : Nat)
    (k : Answers) : Kept s (s.start callback user_data k) := by
  unfold Sys.start
  by_cases hrun : s.m_private.isRunning = true
  · have hr : s.m_private.start callback user_data k =
        (s.m_private, [], some "CapsLockSnoop is running") := if_pos hrun
    rw [hr]
    have hlost : (s.history.lost ++ if s.m_private.isRunning = false ∧ k.keyDisplay ≠ 0 then
        [Resource.display k.keyDisplay] else []) = s.history.lost := by
      simp [hrun]
    refine ⟨⟨?_, ?_, hs.stopped, hs.started, hs.gone⟩, trivial⟩
    · exact hlost.symm ▸ hs.held
    · exact hlost.symm ▸ hs.lost
  · have hstopped : s.m_private.isRunning = false := by simpa using hrun
    obtain ⟨hnew, hthread⟩ := hs.stopped hmain hstopped
    have hheld : s.held.Perm (.m_private :: s.history.lost) := by
      have := hs.held
      rwa [Sys.owned, hmain, if_pos hthread] at this
    rw [hnew]
    generalize hr : CapsLockSnoopPrivate.start {} callback user_data k = r
    obtain ⟨hlaw, hok, hfail⟩ := start_lawful callback user_data k hheld hr
    rcases r with ⟨p, o, _ | error⟩
    · refine ⟨⟨?_, hs.lost, nofun, nofun, nofun⟩, hlaw⟩
      refine (hok rfl).trans ?_
      apply List.perm_iff_count.mpr
      intro a
      simp only [Sys.owned, reduceCtorEq, if_false, List.count_append, List.count_cons]
      omega
    · obtain ⟨hperm, rfl⟩ := hfail nofun
      have herror : entries (o ++ [.error error]) = entries o := by simp [entries, entry]
      have hlost : (s.history.lost ++ if ({} : CapsLockSnoopPrivate).isRunning = false ∧
          k.keyDisplay ≠ 0 then [Resource.display k.keyDisplay] else []) =
          s.history.lost ++ handle .display k.keyDisplay := by
        simp [handle]
      refine ⟨⟨?_, ?_, fun _ _ => ⟨rfl, hthread⟩, ?_, fun h => absurd (hmain.symm.trans h) nofun⟩,
        herror ▸ hlaw⟩
      · dsimp only
        rw [herror, hlost]
        refine hperm.trans ?_
        apply List.perm_iff_count.mpr
        intro a
        simp only [Sys.owned, hmain, hthread, if_true, List.count_append, List.count_cons,
          List.count_nil]
        omega
      · dsimp only
        rw [hlost]
        intro r hr
        rcases List.mem_append.mp hr with hr | hr
        · exact hs.lost r hr
        · unfold handle at hr
          split_ifs at hr
          · cases hr
          · exact ⟨_, List.mem_singleton.mp hr⟩
      · intro _ h
        exact absurd (h hmain) Bool.false_ne_true

theorem stop_kept {s : Sys} (hs : Holds s) (hmain : s.main = .idle) (destructor : Bool) :
    Kept s (s.stop destructor) := by
  have hheld := hs.held
  unfold Sys.stop
  by_cases hrun : s.m_private.isRunning = true
  · rw [if_pos hrun]
    have hthread : s.thread ≠ .none := hs.started (by simp [hmain]) fun _ => hrun
    simp only [Sys.owned, hmain, if_neg hthread] at hheld
    have hctrl := hs.mem hthread (r := .display s.m_private.ctrlDisplay)
      (by simp [CapsLockSnoopPrivate.handles])
    have hcontext := (hs.mem_context hthread).mpr (by rw [hmain]; rfl)
    refine ⟨⟨?_, hs.lost, nofun, fun _ _ => hthread, nofun⟩, hctrl, hcontext, hctrl, hcontext,
      trivial⟩
    have herase := hheld.erase (.context s.m_private.recordContext)
    rwa [List.cons_append, List.erase_cons_tail (by simp), List.cons_append,
      List.erase_cons_head] at herase
  · rw [if_neg hrun]
    by_cases hdestructor : destructor = true
    · rw [if_pos hdestructor]
      have hthread : s.thread = .none := (hs.stopped hmain (by simpa using hrun)).2
      simp only [Sys.owned, hmain, if_pos hthread] at hheld
      refine ⟨⟨?_, hs.lost, nofun, fun h => absurd rfl h, fun _ => hthread⟩, ?_, trivial⟩
      · have herase := hheld.erase Resource.m_private
        rwa [List.singleton_append, List.erase_cons_head] at herase
      · exact hheld.mem_iff.mpr List.mem_cons_self
    · rw [if_neg hdestructor]
      exact ⟨hs, trivial⟩

theorem joined_kept {s : Sys} (hs : Holds s) {destructor : Bool}
    (hmain : s.main = .joining destructor) : Kept s (s.joined destructor) := by
  have hheld := hs.held
  simp only [Sys.owned, hmain] at hheld
  have hentries : entries (s.joined destructor).2 =
      (s.m_private.handles ++ if destructor then [Resource.m_private] else []).map .release := by
    cases destructor <;> rfl
  have hparts : s.held.Perm
      ((s.m_private.handles ++ if destructor then [Resource.m_private] else []) ++
      ((if destructor then [] else [Resource.m_private]) ++ s.history.lost)) := by
    refine hheld.trans ?_
    apply List.perm_iff_count.mpr
    intro a
    cases destructor <;>
      simp only [List.count_append, List.count_cons, List.count_nil, if_true, Bool.false_eq_true,
        if_false] <;> omega
  obtain ⟨hlaw, hperm⟩ := release_part hparts
  refine ⟨⟨?_, hs.lost, ?_, ?_, ?_⟩, hentries ▸ hlaw⟩
  · dsimp only
    rw [hentries]
    cases destructor <;> exact hperm
  · exact fun _ _ => ⟨rfl, rfl⟩
  · intro hgone hrun
    cases destructor with
    | true => exact absurd rfl hgone
    | false => exact absurd (hrun rfl) Bool.false_ne_true
  · exact fun _ => rfl

/-- `start` goes on to its call of the callback. -/
theorem starting_holds {s : Sys} (hs : Holds s) {main : Main} (isRunning : Bool)
    (hmain : s.main = .reading ∨ ∃ isOn, s.main = .reporting isOn)
    (hnext : main = .idle ∧ isRunning = true ∨ ∃ isOn, main = .reporting isOn)
    (shown : Option Bool) :
    s.thread ≠ .none ∧ Holds { s with
      m_private := { s.m_private with isRunning := isRunning }
      main := main
      history := { s.history with shown := shown } } := by
  have hthread : s.thread ≠ .none := by
    apply hs.started <;> rcases hmain with hmain | ⟨isOn, hmain⟩ <;> simp [hmain]
  have hheld := hs.held
  have howned : s.owned =
      .m_private :: .context s.m_private.recordContext :: s.m_private.handles := by
    rcases hmain with hmain | ⟨isOn, hmain⟩ <;> simp [Sys.owned, hmain, hthread]
  rw [howned] at hheld
  refine ⟨hthread, ?_, hs.lost, ?_, fun _ _ => hthread, ?_⟩
  · rcases hnext with ⟨rfl, -⟩ | ⟨isOn, rfl⟩ <;> simp only [Sys.owned, if_neg hthread] <;>
      exact hheld
  · rcases hnext with ⟨rfl, rfl⟩ | ⟨isOn, rfl⟩ <;> exact nofun
  · rcases hnext with ⟨rfl, -⟩ | ⟨isOn, rfl⟩ <;> exact nofun

/-- The record thread goes on, and what it does with `capsLockIsOn` changes no handle. -/
theorem Holds.goes {s : Sys} (hs : Holds s) (hthread : s.thread ≠ .none) (thread : Thread)
    (hnext : thread ≠ .none) (capsLockIsOn enabled : Bool) (data : List XRecordInterceptData)
    (shown : Option Bool) :
    Holds { s with
      m_private := { s.m_private with capsLockIsOn := capsLockIsOn }
      thread := thread
      enabled := enabled
      data := data
      history := { s.history with shown := shown } } := by
  have howned : Sys.owned { s with
      m_private := { s.m_private with capsLockIsOn := capsLockIsOn }
      thread := thread
      enabled := enabled
      data := data
      history := { s.history with shown := shown } } = s.owned := by
    unfold Sys.owned
    cases s.main <;> simp only [if_neg hthread, if_neg hnext] <;> rfl
  refine ⟨?_, hs.lost, ?_, fun _ _ => hnext, fun h => absurd (hs.gone h) hthread⟩
  · rw [howned]
    exact hs.held
  · exact fun hmain hstopped => absurd (hs.stopped hmain hstopped).2 hthread

/-- A step keeps the invariant, and touches only what is held unless it is late. -/
theorem moves_holds {s : Sys} {e : Event} {r : Sys × List Effect} (hs : Holds s)
    (h : Moves isCapsLock s e r) :
    Holds { r.1 with held := balance s.held (entries r.2) } ∧
      (Lawful s.held (entries r.2) ↔ InTime s e) := by
  have hkept : Kept s r → InTime s e → Holds { r.1 with held := balance s.held (entries r.2) } ∧
      (Lawful s.held (entries r.2) ↔ InTime s e) :=
    fun hr htime => ⟨hr.1, iff_of_true hr.2 htime⟩
  -- the record thread reads the record, and uses two displays and the context
  have hthread_mem : s.thread ≠ .none → Resource.m_private ∈ s.held ∧
      Resource.display s.m_private.dataDisplay ∈ s.held ∧
      Resource.display s.m_private.keyDisplay ∈ s.held := by
    intro hthread
    refine ⟨hs.mem hthread List.mem_cons_self, hs.mem hthread ?_, hs.mem hthread ?_⟩ <;>
      simp [CapsLockSnoopPrivate.handles]
  have henable : s.thread = .created → (Lawful s.held (entries
      [.XRecordEnableContext s.m_private.dataDisplay s.m_private.recordContext]) ↔
        InTime s .enable) := by
    intro hcreated
    have hthread : s.thread ≠ .none := by simp [hcreated]
    obtain ⟨hmem, hdata, -⟩ := hthread_mem hthread
    rw [InTime, ← hs.mem_context hthread]
    exact ⟨fun h => h.2.2.1, fun h => ⟨hmem, hdata, h, trivial⟩⟩
  cases h with
  | start callback user_data k hmain =>
    exact hkept (start_kept hs hmain callback user_data k) trivial
  | stop hmain => exact hkept (stop_kept hs hmain false) trivial
  | destroy hmain => exact hkept (stop_kept hs hmain true) trivial
  | joined destructor hmain _ => exact hkept (joined_kept hs hmain) trivial
  | read hmain =>
    obtain ⟨-, hn⟩ := starting_holds hs s.m_private.isRunning (Or.inl hmain)
      (Or.inr ⟨s.m_private.capsLockIsOn, rfl⟩) s.history.shown
    exact hkept ⟨hn, trivial⟩ trivial
  | report isOn hmain =>
    obtain ⟨hthread, hn⟩ := starting_holds hs true (Or.inr ⟨isOn, hmain⟩) (Or.inl ⟨rfl, rfl⟩)
      (some isOn)
    exact hkept ⟨hn, (hthread_mem hthread).1, trivial⟩ trivial
  | late hcreated hjoining =>
    have hthread : s.thread ≠ .none := by simp [hcreated]
    exact ⟨hs.goes hthread .exited (by simp) s.m_private.capsLockIsOn s.enabled s.data
      s.history.shown, henable hcreated⟩
  | enable hcreated hjoining =>
    have hthread : s.thread ≠ .none := by simp [hcreated]
    exact ⟨hs.goes hthread .recording (by simp) s.m_private.capsLockIsOn true [.startOfData]
      s.history.shown, henable hcreated⟩
  | intercept d rest hrecording hdata =>
    have hthread : s.thread ≠ .none := by simp [hrecording]
    obtain ⟨hmem, -, hkey⟩ := hthread_mem hthread
    have hgo := fun thread (hnext : thread ≠ .none) b =>
      hs.goes hthread thread hnext b s.enabled rest s.history.shown
    refine hkept ?_ trivial
    unfold Sys.intercept
    cases d with
    | startOfData => exact ⟨hgo s.thread hthread s.m_private.capsLockIsOn, trivial⟩
    | endOfData => exact ⟨hgo .exited (by simp) s.m_private.capsLockIsOn, trivial⟩
    | fromServer type detail =>
      by_cases htype : (type == KeyPress) = true
      · by_cases hcaps : isCapsLock detail = true
        · simp only [if_pos htype, if_pos hcaps]
          exact ⟨hgo .toggled (by simp) (!s.m_private.capsLockIsOn), hmem, hkey, trivial⟩
        · simp only [if_pos htype, if_neg hcaps]
          exact ⟨hgo s.thread hthread s.m_private.capsLockIsOn, hmem, hkey, trivial⟩
      · simp only [if_neg htype]
        exact ⟨hgo s.thread hthread s.m_private.capsLockIsOn, trivial⟩
  | callback htoggled =>
    have hthread : s.thread ≠ .none := by simp [htoggled]
    have hgo := hs.goes hthread .recording (by simp) s.m_private.capsLockIsOn s.enabled s.data
    refine hkept ?_ trivial
    unfold Sys.called
    cases s.m_private.callback with
    | some callback =>
      exact ⟨hgo (some s.m_private.capsLockIsOn), (hthread_mem hthread).1, trivial⟩
    | none => exact ⟨hgo s.history.shown, trivial⟩
  | device type detail =>
    exact hkept ⟨⟨hs.held, hs.lost, hs.stopped, hs.started, hs.gone⟩, trivial⟩ trivial

theorem step_holds {s t : Sys} {e : Event} {o : List Effect} (hs : Holds s)
    (h : step isCapsLock s e = some (t, o)) :
    Holds t ∧ (TouchesWhatItHolds s e o t ↔ InTime s e) := by
  obtain ⟨n, hmoves, rfl⟩ := step_moves h
  exact moves_holds hs hmoves

/-! ## Every run -/

variable (isCapsLock)

/-- In every run each call touches only what the snoop holds exactly when the record thread never
comes to its context after `stop` has freed it. -/
theorem snoop_touches_what_it_holds_iff (es : List Event) :
    Always (step isCapsLock) TouchesWhatItHolds {} es ↔
      Meets (step isCapsLock) InTime {} es :=
  always_iff_meets (fun _ _ _ _ hs h => (step_holds hs h).2)
    (fun _ _ _ _ hs _ h => (step_holds hs h).1) init_holds

/-- A start that fails has not opened its key display. -/
def KeepsItsKeyDisplay (s : Sys) : Event → Prop
  | .start callback user_data k =>
    s.m_private.isRunning = true ∨ k.keyDisplay = 0 ∨
      (s.m_private.start callback user_data k).2.2 = none
  | _ => True

variable {isCapsLock}

theorem start_lost (s : Sys) (callback user_data : Nat) (k : Answers) :
    (s.start callback user_data k).1.history.lost = [] ↔
      s.history.lost = [] ∧ KeepsItsKeyDisplay s (.start callback user_data k) := by
  simp only [Sys.start, KeepsItsKeyDisplay]
  generalize s.m_private.start callback user_data k = r
  rcases r with ⟨p, o, _ | error⟩
  · simp
  · by_cases hlost : s.m_private.isRunning = false ∧ k.keyDisplay ≠ 0
    · simp [hlost]
    · have hkeeps : s.m_private.isRunning = true ∨ k.keyDisplay = 0 := by
        rcases not_and_or.mp hlost with h | h
        · exact Or.inl (by simpa using h)
        · exact Or.inr (not_not.mp h)
      simp [hlost, hkeeps]

theorem moves_lost {s : Sys} {e : Event} {r : Sys × List Effect} (h : Moves isCapsLock s e r) :
    r.1.history.lost = [] ↔ s.history.lost = [] ∧ KeepsItsKeyDisplay s e := by
  cases h with
  | start callback user_data k _ => exact start_lost s callback user_data k
  | stop _ =>
    unfold Sys.stop
    split_ifs <;> exact (and_iff_left trivial).symm
  | destroy _ =>
    unfold Sys.stop
    split_ifs <;> exact (and_iff_left trivial).symm
  | callback _ =>
    unfold Sys.called
    split <;> exact (and_iff_left trivial).symm
  | intercept d rest _ _ =>
    unfold Sys.intercept
    cases d with
    | fromServer type detail =>
      dsimp only
      split_ifs <;> exact (and_iff_left trivial).symm
    | _ => exact (and_iff_left trivial).symm
  | _ => exact (and_iff_left trivial).symm

theorem step_lost {s t : Sys} {e : Event} {o : List Effect}
    (h : step isCapsLock s e = some (t, o)) :
    t.history.lost = [] ↔ s.history.lost = [] ∧ KeepsItsKeyDisplay s e := by
  obtain ⟨n, hmoves, rfl⟩ := step_moves h
  exact moves_lost hmoves

variable (isCapsLock)

/-- What is held in every state that the snoop reaches is what it owns there, with the key displays
of the starts that have failed. None is lost exactly when no start has failed with its key display
open. -/
theorem a_failed_start_loses_its_key_display (es : List Event) (t : Sys)
    (o : List Effect) (h : run (step isCapsLock) {} es = some (t, o)) :
    t.held.Perm (t.owned ++ t.history.lost) ∧
      (t.history.lost = [] ↔ Meets (step isCapsLock) KeepsItsKeyDisplay {} es) := by
  refine ⟨(run_inv (I := Holds) (fun _ _ _ _ hs h => (step_holds hs h).1) init_holds
    h).held, ?_⟩
  rw [run_keeps_iff_meets (fun _ _ _ _ h => step_lost h) h]
  exact and_iff_right rfl

/-- The start finds no XRecord, and the destructor leaves its key display open. -/
theorem no_xrecord_loses_a_display :
    ∃ t o, run (step isCapsLockOfPc) {}
        [.start 8 9 { given with version := false }, .destroy] = some (t, o) ∧
      t.held.Perm [.display 3] ∧ t.history.lost ≠ [] := by
  have hrun : ∃ t o, run (step isCapsLockOfPc) {}
        [.start 8 9 { given with version := false }, .destroy] = some (t, o) ∧
      t.owned = [] ∧ t.history.lost = [.display 3] := ⟨_, _, rfl, rfl, rfl⟩
  obtain ⟨t, o, h, howned, hlost⟩ := hrun
  have hheld := (a_failed_start_loses_its_key_display isCapsLockOfPc _ t o h).1
  rw [howned, hlost] at hheld
  exact ⟨t, o, h, hheld, by simp [hlost]⟩

/-- `stop` frees the context before the record thread comes to it. -/
theorem an_early_stop_frees_the_context :
    ¬ Always (step isCapsLockOfPc) TouchesWhatItHolds {}
      [.start 8 9 given, .read, .report, .stop, .enable] := by
  intro h
  have henable := ((((h _ _ rfl).2 _ _ rfl).2 _ _ rfl).2 _ _ rfl).2 _ _ rfl
  exact absurd henable.1.2.2.1 (by decide)

end session_guard.caps_lock_snoop
