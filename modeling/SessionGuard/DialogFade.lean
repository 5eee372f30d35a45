-- The fades of `ScreenSaverDialog`: a delay timer, then an animation of the
-- opacity. A switch of the target stops the timer, but not the animation.
import SessionGuard.Machine
import Mathlib.Data.PNat.Basic
import Mathlib.Data.Rat.Cast.Order

open machine

namespace session_guard.dialog_fade

/-! ## The animation -/

/-- `Forward` fades in, `Backward` fades out. -/
inductive Direction
  | Forward
  | Backward
  deriving DecidableEq

/-- The direction towards a target. -/
def Direction.to (visible : Bool) : Direction := if visible then .Forward else .Backward

/-- The value that an animation in this direction leaves when it finishes. -/
def Direction.lastValue : Direction → Rat
  | .Forward => 1
  | .Backward => 0

def Direction.firstValue : Direction → Rat
  | .Forward => 0
  | .Backward => 1

/-- `QPropertyAnimation`, with the start value 0 and the end value 1. -/
structure Animation where
  running : Bool := false
  direction : Direction := .Forward
  duration : Int := 0
  deriving DecidableEq

/-- `setDuration` does not take a negative one. -/
def Animation.setDuration (a : Animation) (msecs : Int) : Animation :=
  if msecs < 0 then a else { a with duration := msecs }

def Animation.setDirection (a : Animation) (direction : Direction) : Animation :=
  { a with direction := direction }

/-! ## The dialog -/

/-- The fields of `ScreenSaverDialog` that the fades read or set. -/
structure ScreenSaverDialog where
  m_fadeVisible : Bool := false
  m_animationEnabled : Bool := false
  m_fadeDelayTimer : Nat := 0
  m_fadeInDelayMs : Int := 0
  m_fadeOutDelayMs : Int := 0
  m_fadeInDurationMs : Int := 0
  m_fadeOutDurationMs : Int := 0
  m_animation : Animation := {}
  /-- The opacity of `m_opacityEffect`. -/
  opacity : Rat := 0
  /-- The timers that Qt runs for the dialog. -/
  timers : List Nat := []
  deriving DecidableEq

namespace ScreenSaverDialog

variable (d : ScreenSaverDialog)

def setOpacity (opacity : Rat) : ScreenSaverDialog := { d with opacity := opacity }

/-- `m_animation.start()`: nothing when it runs. An animation of no duration is over at
once. -/
def startAnimation : ScreenSaverDialog :=
  if d.m_animation.running then d
  else if d.m_animation.duration = 0 then d.setOpacity d.m_animation.direction.lastValue
  else
    { d with
      m_animation := { d.m_animation with running := true }
      opacity := d.m_animation.direction.firstValue }

/-- `m_animation.stop()`. -/
def stopAnimation : ScreenSaverDialog :=
  { d with m_animation := { d.m_animation with running := false } }

def killTimer (id : Nat) : ScreenSaverDialog := { d with timers := d.timers.erase id }

/-- `m_fadeDelayTimer = startTimer(interval)`, where `id` is the number of a new timer. Qt
starts none for a negative interval, and gives 0. -/
def startDelay (interval : Int) (id : ℕ+) : ScreenSaverDialog :=
  if interval < 0 then { d with m_fadeDelayTimer := 0 }
  else { d with m_fadeDelayTimer := id, timers := (id : Nat) :: d.timers }

def setAnimationEnabled (enabled : Bool) : ScreenSaverDialog :=
  if enabled = d.m_animationEnabled then d
  else
    let d :=
      if !enabled && d.m_animation.running then
        -- the end value, whichever way the animation runs
        d.stopAnimation.setOpacity Direction.Forward.lastValue
      else d
    { d with m_animationEnabled := enabled }

def setAnimationDelay (fadeInDelay fadeOutDelay : Int) : ScreenSaverDialog :=
  { d with m_fadeInDelayMs := fadeInDelay, m_fadeOutDelayMs := fadeOutDelay }

/-- The lines of `setAnimationDuration` for one direction: the animation that runs in it takes
a new duration. -/
def retime (direction : Direction) (old new : Int) : Animation :=
  if old ≠ new ∧ d.m_animation.running = true ∧ d.m_animation.direction = direction then
    d.m_animation.setDuration new
  else d.m_animation

def setAnimationDuration (fadeInMs fadeOutMs : Int) : ScreenSaverDialog :=
  let d := { d with
    m_animation := d.retime .Forward d.m_fadeInDurationMs fadeInMs
    m_fadeInDurationMs := fadeInMs }
  { d with
    m_animation := d.retime .Backward d.m_fadeOutDurationMs fadeOutMs
    m_fadeOutDurationMs := fadeOutMs }

def fadeVisible : Bool := d.m_fadeVisible

/-- The lines that `fadeIn` and `fadeOut` begin with, for a target that is new. -/
def turn (visible : Bool) : ScreenSaverDialog :=
  let d := { d with m_fadeVisible := visible }
  if d.m_fadeDelayTimer ≠ 0 then { d.killTimer d.m_fadeDelayTimer with m_fadeDelayTimer := 0 }
  else d

def fadeIn (id : ℕ+) : ScreenSaverDialog :=
  if d.m_fadeVisible then d
  else
    let d := d.turn true
    if d.m_animationEnabled then d.startDelay d.m_fadeInDelayMs id else d.setOpacity 1

def fadeOut (id : ℕ+) : ScreenSaverDialog :=
  if !d.m_fadeVisible then d
  else
    let d := d.turn false
    if d.m_animationEnabled then d.startDelay d.m_fadeOutDelayMs id else d.setOpacity 0

def timerEvent (timerId : Nat) : ScreenSaverDialog :=
  let d :=
    if timerId = d.m_fadeDelayTimer then
      startAnimation { d with
        m_animation := (d.m_animation.setDirection (.to d.m_fadeVisible)).setDuration
          (if d.m_fadeVisible then d.m_fadeInDurationMs else d.m_fadeOutDurationMs) }
    else d
  { d.killTimer d.m_fadeDelayTimer with m_fadeDelayTimer := 0 }

end ScreenSaverDialog

/-! ## The events -/

/-- A call of the screensaver, where `id` is the number that a new timer would have, or what
Qt does. -/
inductive Event
  | setAnimationEnabled (enabled : Bool)
  | setAnimationDelay (fadeInDelay fadeOutDelay : Int)
  | setAnimationDuration (fadeInMs fadeOutMs : Int)
  | fadeIn (id : ℕ+)
  | fadeOut (id : ℕ+)
  | timerEvent (timerId : Nat)
  /-- The animation moves the opacity on. -/
  | progress (value : Rat)
  | finished

def fadeStep : Step ScreenSaverDialog Event Empty
  | d, .setAnimationEnabled enabled => some (d.setAnimationEnabled enabled, [])
  | d, .setAnimationDelay fadeInDelay fadeOutDelay =>
    some (d.setAnimationDelay fadeInDelay fadeOutDelay, [])
  | d, .setAnimationDuration fadeInMs fadeOutMs =>
    some (d.setAnimationDuration fadeInMs fadeOutMs, [])
  | d, .fadeIn id => some (d.fadeIn id, [])
  | d, .fadeOut id => some (d.fadeOut id, [])
  | d, .timerEvent timerId => if timerId ∈ d.timers then some (d.timerEvent timerId, []) else none
  | d, .progress value =>
    if d.m_animation.running ∧ 0 ≤ value ∧ value ≤ 1 then some (d.setOpacity value, []) else none
  | d, .finished =>
    if d.m_animation.running then
      some (d.stopAnimation.setOpacity d.m_animation.direction.lastValue, [])
    else none

/-! ## The law -/

/-- Where no delay timer is pending and no animation runs, the opacity is that of the
target. -/
def Follows (d : ScreenSaverDialog) : Prop :=
  d.timers = [] → d.m_animation.running = false → d.opacity = if d.fadeVisible then 1 else 0

instance (d : ScreenSaverDialog) : Decidable (Follows d) :=
  inferInstanceAs (Decidable (_ → _ → _))

/-- The dialog can turn to a target: a delay timer can be started, or the animation runs that
way already, or nothing runs and the opacity is there or is put there at once. -/
def CanTurn (d : ScreenSaverDialog) (visible : Bool) (delay : Int) : Prop :=
  (d.m_animationEnabled = true ∧ 0 ≤ delay) ∨
    if d.m_animation.running then d.m_animation.direction = .to visible
    else d.m_animationEnabled = false ∨ d.opacity = (Direction.to visible).lastValue

/-- The animation is disabled only where it does not run, or where a delay timer is pending
or the dialog fades in, and the dialog can turn to each new target. -/
def Smooth (d : ScreenSaverDialog) : Event → Prop
  | .setAnimationEnabled enabled =>
    enabled = false → d.m_animationEnabled = true → d.m_animation.running = true →
      d.timers ≠ [] ∨ d.fadeVisible = true
  | .fadeIn _ => d.fadeVisible = false → CanTurn d true d.m_fadeInDelayMs
  | .fadeOut _ => d.fadeVisible = true → CanTurn d false d.m_fadeOutDelayMs
  | _ => True

instance (d : ScreenSaverDialog) (visible : Bool) (delay : Int) :
    Decidable (CanTurn d visible delay) := inferInstanceAs (Decidable (_ ∨ ite _ _ _))

instance (d : ScreenSaverDialog) : (e : Event) → Decidable (Smooth d e)
  | .setAnimationEnabled _ => inferInstanceAs (Decidable (_ → _))
  | .fadeIn _ => inferInstanceAs (Decidable (_ → _))
  | .fadeOut _ => inferInstanceAs (Decidable (_ → _))
  | .setAnimationDelay _ _ => isTrue trivial
  | .setAnimationDuration _ _ => isTrue trivial
  | .timerEvent _ => isTrue trivial
  | .progress _ => isTrue trivial
  | .finished => isTrue trivial

/-! ## The invariant -/

/-- What stands still is where the target is, and what runs runs there, unless a delay timer
is pending. -/
def OnCourse (d : ScreenSaverDialog) : Prop :=
  d.m_fadeDelayTimer = 0 →
    if d.m_animation.running then d.m_animation.direction = .to d.m_fadeVisible
    else d.opacity = (Direction.to d.m_fadeVisible).lastValue

/-- The dialog knows the one timer that Qt runs for it, if there is one. -/
def KnowsTimer (d : ScreenSaverDialog) : Prop :=
  d.timers = if d.m_fadeDelayTimer = 0 then [] else [d.m_fadeDelayTimer]

structure Aligned (d : ScreenSaverDialog) : Prop where
  knowsTimer : KnowsTimer d
  onCourse : OnCourse d

theorem Aligned.follows {d : ScreenSaverDialog} (h : Aligned d) : Follows d := by
  intro hidle hrest
  have hzero : d.m_fadeDelayTimer = 0 := by
    have hknows := h.knowsTimer
    unfold KnowsTimer at hknows
    by_contra hne
    simp [hidle, hne] at hknows
  have hon := h.onCourse hzero
  simp only [hrest, Bool.false_eq_true, if_false] at hon
  rw [hon, ScreenSaverDialog.fadeVisible]
  cases d.m_fadeVisible <;> rfl

theorem knowsTimer_idle_iff {d : ScreenSaverDialog} (h : KnowsTimer d) :
    d.timers = [] ↔ d.m_fadeDelayTimer = 0 := by
  unfold KnowsTimer at h
  by_cases hz : d.m_fadeDelayTimer = 0 <;> simp [h, hz]

/-- The delay timer goes when the target changes. -/
theorem turn_eq {d : ScreenSaverDialog} (h : KnowsTimer d) (visible : Bool) :
    d.turn visible = { d with m_fadeVisible := visible, m_fadeDelayTimer := 0, timers := [] } := by
  unfold KnowsTimer at h
  unfold ScreenSaverDialog.turn
  by_cases hz : d.m_fadeDelayTimer = 0
  · rw [if_pos hz] at h
    simp only [hz, ne_eq, not_true_eq_false, if_false]
    rw [← h, ← hz]
  · rw [if_neg hz] at h
    simp [hz, ScreenSaverDialog.killTimer, h]

/-- A dialog that turns to a target is on course exactly when it can turn. -/
theorem turn_aligned_iff {d : ScreenSaverDialog} (h : KnowsTimer d) (visible : Bool) (delay : Int)
    (id : ℕ+) :
    Aligned (if (d.turn visible).m_animationEnabled then (d.turn visible).startDelay delay id
        else (d.turn visible).setOpacity (Direction.to visible).lastValue) ↔
      CanTurn d visible delay := by
  have hid : (id : Nat) ≠ 0 := id.pos.ne'
  rw [turn_eq h]
  unfold CanTurn
  cases henabled : d.m_animationEnabled with
  | false =>
    simp only [Bool.false_eq_true, if_false, false_and, false_or, true_or]
    refine ⟨fun halign => ?_, fun hturn => ⟨rfl, fun _ => ?_⟩⟩
    · have hon := halign.onCourse rfl
      split_ifs with hrun
      · simpa [ScreenSaverDialog.setOpacity, hrun] using hon
    · simp only [ScreenSaverDialog.setOpacity]
      split_ifs at hturn ⊢
      exact hturn
  | true =>
    simp only [if_true, true_and, Bool.true_eq_false, false_or]
    unfold ScreenSaverDialog.startDelay
    by_cases hneg : delay < 0
    · -- no timer is started, so that only the animation and the opacity count
      rw [if_pos hneg]
      refine ⟨fun halign => Or.inr (halign.onCourse rfl), fun hturn => ⟨rfl, fun _ => ?_⟩⟩
      rcases hturn with hdelay | hturn
      · omega
      · exact hturn
    · rw [if_neg hneg]
      refine ⟨fun _ => Or.inl (not_lt.mp hneg), fun _ => ⟨?_, fun hzero => absurd hzero hid⟩⟩
      simp [KnowsTimer, hid]

/-- To disable the animation stops it at the end value, which is the target of a fade in. -/
theorem setAnimationEnabled_aligned_iff {d : ScreenSaverDialog} (h : Aligned d) (enabled : Bool) :
    Aligned (d.setAnimationEnabled enabled) ↔ Smooth d (.setAnimationEnabled enabled) := by
  have hsame : Aligned { d with m_animationEnabled := enabled } := ⟨h.knowsTimer, h.onCourse⟩
  have hidle := knowsTimer_idle_iff h.knowsTimer
  unfold ScreenSaverDialog.setAnimationEnabled Smooth
  by_cases hold : enabled = d.m_animationEnabled
  · rw [if_pos hold]
    exact iff_of_true h fun hoff hon => absurd (hold.symm.trans hoff) (by simp [hon])
  · rw [if_neg hold]
    by_cases hstop : enabled = false ∧ d.m_animation.running = true
    · obtain ⟨rfl, hrun⟩ := hstop
      have hon : d.m_animationEnabled = true := by simpa using hold
      simp only [hrun, hon, Bool.not_false, Bool.and_self, if_true, true_implies, ne_eq, hidle]
      constructor
      · intro halign
        by_cases hz : d.m_fadeDelayTimer = 0
        · have hvalue := halign.onCourse hz
          refine Or.inr ?_
          unfold ScreenSaverDialog.fadeVisible
          by_contra hdown
          rw [Bool.not_eq_true] at hdown
          simp [ScreenSaverDialog.setOpacity, ScreenSaverDialog.stopAnimation, Direction.to, hdown,
            Direction.lastValue] at hvalue
        · exact Or.inl hz
      · rintro hup
        refine ⟨h.knowsTimer, fun hz => ?_⟩
        have hvisible : d.m_fadeVisible = true := hup.resolve_left (not_not.mpr hz)
        simp [ScreenSaverDialog.setOpacity, ScreenSaverDialog.stopAnimation, Direction.to, hvisible]
    · have hkeep : (!enabled && d.m_animation.running) = false := by
        rw [Bool.and_eq_false_iff]
        cases enabled <;> simp_all
      simp only [hkeep, Bool.false_eq_true, if_false]
      exact iff_of_true hsame fun hoff _ hrun => absurd ⟨hoff, hrun⟩ hstop

theorem setDuration_keeps (a : Animation) (msecs : Int) :
    (a.setDuration msecs).running = a.running ∧
      (a.setDuration msecs).direction = a.direction := by
  unfold Animation.setDuration
  split_ifs <;> exact ⟨rfl, rfl⟩

theorem retime_keeps (d : ScreenSaverDialog) (direction : Direction) (old new : Int) :
    (d.retime direction old new).running = d.m_animation.running ∧
      (d.retime direction old new).direction = d.m_animation.direction := by
  unfold ScreenSaverDialog.retime
  split_ifs
  · exact setDuration_keeps _ _
  · exact ⟨rfl, rfl⟩

/-- What `OnCourse` reads of the animation is whether it runs, and where. -/
theorem Aligned.withAnimation {d : ScreenSaverDialog} (h : Aligned d) {a : Animation}
    (hrun : a.running = d.m_animation.running) (hdir : a.direction = d.m_animation.direction) :
    Aligned { d with m_animation := a } := by
  refine ⟨h.knowsTimer, fun hz => ?_⟩
  simpa only [hrun, hdir] using h.onCourse hz

theorem setAnimationDuration_aligned {d : ScreenSaverDialog} (h : Aligned d)
    (fadeInMs fadeOutMs : Int) : Aligned (d.setAnimationDuration fadeInMs fadeOutMs) := by
  have hin := retime_keeps d .Forward d.m_fadeInDurationMs fadeInMs
  have hfirst := h.withAnimation hin.1 hin.2
  have hout := retime_keeps
    { d with m_animation := d.retime .Forward d.m_fadeInDurationMs fadeInMs }
    .Backward d.m_fadeOutDurationMs fadeOutMs
  have hboth := hfirst.withAnimation hout.1 hout.2
  exact ⟨hboth.knowsTimer, hboth.onCourse⟩

/-- An animation that is started runs in its direction, or has left its last value. -/
theorem startAnimation_spec (d : ScreenSaverDialog) :
    d.startAnimation.timers = d.timers ∧ d.startAnimation.m_fadeDelayTimer = d.m_fadeDelayTimer ∧
      d.startAnimation.m_fadeVisible = d.m_fadeVisible ∧
      if d.startAnimation.m_animation.running then
        d.startAnimation.m_animation.direction = d.m_animation.direction
      else d.startAnimation.opacity = d.m_animation.direction.lastValue := by
  unfold ScreenSaverDialog.startAnimation
  by_cases hrun : d.m_animation.running = true
  · rw [if_pos hrun]
    simp [hrun]
  · rw [if_neg hrun]
    by_cases hzero : d.m_animation.duration = 0
    · rw [if_pos hzero]
      simp [ScreenSaverDialog.setOpacity, hrun]
    · rw [if_neg hzero]
      simp

/-- The timer starts the animation towards the target, or turns it. -/
theorem timerEvent_aligned {d : ScreenSaverDialog} (h : KnowsTimer d) {timerId : Nat}
    (hlive : timerId ∈ d.timers) : Aligned (d.timerEvent timerId) := by
  unfold KnowsTimer at h
  have hz : d.m_fadeDelayTimer ≠ 0 := by
    intro hz
    simp [h, hz] at hlive
  rw [if_neg hz] at h
  have hid : timerId = d.m_fadeDelayTimer := by simpa [h] using hlive
  unfold ScreenSaverDialog.timerEvent
  simp only [hid, if_true]
  generalize (if d.m_fadeVisible = true then d.m_fadeInDurationMs else d.m_fadeOutDurationMs) = ms
  have hdir := (setDuration_keeps (d.m_animation.setDirection (.to d.m_fadeVisible)) ms).2
  generalize (d.m_animation.setDirection (.to d.m_fadeVisible)).setDuration ms = a at hdir
  obtain ⟨htimers, htimer, hvisible, hon⟩ := startAnimation_spec { d with m_animation := a }
  generalize ScreenSaverDialog.startAnimation { d with m_animation := a } = d1 at *
  simp only [Animation.setDirection] at hdir hon
  refine ⟨?_, fun _ => ?_⟩
  · simp [KnowsTimer, ScreenSaverDialog.killTimer, htimers, htimer, h]
  · simpa [ScreenSaverDialog.killTimer, hvisible, hdir] using hon

/-- A step from an aligned state leads to one exactly when it is smooth. -/
theorem step_aligned_iff {d d1 : ScreenSaverDialog} {e : Event} {o : List Empty}
    (h : Aligned d) (hstep : fadeStep d e = some (d1, o)) : Aligned d1 ↔ Smooth d e := by
  cases e with
  | setAnimationEnabled enabled =>
    cases hstep
    exact setAnimationEnabled_aligned_iff h enabled
  | setAnimationDelay fadeInDelay fadeOutDelay =>
    cases hstep
    exact iff_of_true ⟨h.knowsTimer, h.onCourse⟩ trivial
  | setAnimationDuration fadeInMs fadeOutMs =>
    cases hstep
    exact iff_of_true (setAnimationDuration_aligned h fadeInMs fadeOutMs) trivial
  | fadeIn id =>
    cases hstep
    unfold ScreenSaverDialog.fadeIn Smooth ScreenSaverDialog.fadeVisible
    cases hv : d.m_fadeVisible with
    | true => exact iff_of_true h (by simp)
    | false =>
      have hdelay : (d.turn true).m_fadeInDelayMs = d.m_fadeInDelayMs := by
        rw [turn_eq h.knowsTimer]
      simp only [Bool.false_eq_true, if_false, true_implies, hdelay]
      exact turn_aligned_iff h.knowsTimer true d.m_fadeInDelayMs id
  | fadeOut id =>
    cases hstep
    unfold ScreenSaverDialog.fadeOut Smooth ScreenSaverDialog.fadeVisible
    cases hv : d.m_fadeVisible with
    | false => exact iff_of_true h (by simp)
    | true =>
      have hdelay : (d.turn false).m_fadeOutDelayMs = d.m_fadeOutDelayMs := by
        rw [turn_eq h.knowsTimer]
      simp only [Bool.not_true, Bool.false_eq_true, if_false, true_implies, hdelay]
      exact turn_aligned_iff h.knowsTimer false d.m_fadeOutDelayMs id
  | timerEvent timerId =>
    simp only [fadeStep] at hstep
    split_ifs at hstep with hlive
    cases hstep
    exact iff_of_true (timerEvent_aligned h.knowsTimer hlive) trivial
  | progress value =>
    simp only [fadeStep] at hstep
    split_ifs at hstep with hrun
    cases hstep
    refine iff_of_true ⟨h.knowsTimer, fun hz => ?_⟩ trivial
    have hon := h.onCourse hz
    simp only [hrun.1, if_true] at hon
    simpa [ScreenSaverDialog.setOpacity, hrun.1] using hon
  | finished =>
    simp only [fadeStep] at hstep
    split_ifs at hstep with hrun
    cases hstep
    refine iff_of_true ⟨h.knowsTimer, fun hz => ?_⟩ trivial
    have hon := h.onCourse hz
    simp only [hrun, if_true] at hon
    simp [ScreenSaverDialog.setOpacity, ScreenSaverDialog.stopAnimation, hon]

/-! ## Every run -/

/-- The dialog after its constructor. -/
theorem fresh_aligned : Aligned {} := ⟨rfl, fun _ => rfl⟩

/-- The opacity follows its target in every run of smooth steps. -/
theorem the_opacity_follows {es : List Event} (h : Meets fadeStep Smooth {} es) :
    Follows {} ∧ Always fadeStep (fun _ _ _ d => Follows d) {} es := by
  refine ⟨fresh_aligned.follows, always_of_inv (I := Aligned) ?_ fresh_aligned h⟩
  intro d e d1 o hd he hstep
  have hd1 := (step_aligned_iff hd hstep).mpr he
  exact ⟨hd1, hd1.follows⟩

/-- The opacity follows its target, and still does when the animation is left to finish. -/
def FollowsToTheEnd (d : ScreenSaverDialog) : Prop :=
  Follows d ∧ ∀ d1 o, fadeStep d .finished = some (d1, o) → Follows d1

theorem followsToTheEnd_iff {d : ScreenSaverDialog} (h : KnowsTimer d) :
    FollowsToTheEnd d ↔ Aligned d := by
  refine ⟨fun hd => ⟨h, fun hz => ?_⟩, fun hd => ⟨hd.follows, fun d1 o hstep => ?_⟩⟩
  · have hidle := (knowsTimer_idle_iff h).mpr hz
    split_ifs with hrun
    · -- the last value of the direction is the target's only when the directions agree
      have hend := hd.2 _ _ (if_pos hrun) hidle rfl
      simp only [ScreenSaverDialog.setOpacity, ScreenSaverDialog.stopAnimation,
        ScreenSaverDialog.fadeVisible] at hend
      cases hdir : d.m_animation.direction <;> cases hv : d.m_fadeVisible <;>
        simp [hdir, hv, Direction.lastValue, Direction.to] at hend ⊢
    · have hvalue := hd.1 hidle (by simpa using hrun)
      rw [hvalue, ScreenSaverDialog.fadeVisible]
      cases d.m_fadeVisible <;> rfl
  · exact ((step_aligned_iff hd hstep).mpr trivial).follows

/-- The dialog knows its timer in every run. -/
theorem step_knowsTimer {d d1 : ScreenSaverDialog} {e : Event} {o : List Empty}
    (h : KnowsTimer d) (hstep : fadeStep d e = some (d1, o)) : KnowsTimer d1 := by
  have hturn : ∀ visible delay opacity (id : ℕ+),
      KnowsTimer (if (d.turn visible).m_animationEnabled then (d.turn visible).startDelay delay id
        else (d.turn visible).setOpacity opacity) := by
    intro visible delay opacity id
    have hid : (id : Nat) ≠ 0 := id.pos.ne'
    rw [turn_eq h]
    unfold ScreenSaverDialog.startDelay
    split_ifs <;> simp [KnowsTimer, ScreenSaverDialog.setOpacity, hid]
  cases e with
  | setAnimationEnabled enabled =>
    cases hstep
    unfold ScreenSaverDialog.setAnimationEnabled
    dsimp only
    split_ifs <;> exact h
  | fadeIn id =>
    cases hstep
    unfold ScreenSaverDialog.fadeIn
    split_ifs with hv
    · exact h
    · exact hturn true (d.turn true).m_fadeInDelayMs 1 id
  | fadeOut id =>
    cases hstep
    unfold ScreenSaverDialog.fadeOut
    split_ifs with hv
    · exact h
    · exact hturn false (d.turn false).m_fadeOutDelayMs 0 id
  | timerEvent timerId =>
    simp only [fadeStep] at hstep
    split_ifs at hstep with hlive
    cases hstep
    exact (timerEvent_aligned h hlive).knowsTimer
  | progress value =>
    simp only [fadeStep] at hstep
    split_ifs at hstep
    cases hstep
    exact h
  | finished =>
    simp only [fadeStep] at hstep
    split_ifs at hstep
    cases hstep
    exact h
  | _ =>
    cases hstep
    exact h

/-- A run leads the opacity astray exactly at its steps that are not smooth. -/
theorem follows_to_the_end_iff (es : List Event) :
    Always fadeStep (fun _ _ _ d => FollowsToTheEnd d) {} es ↔ Meets fadeStep Smooth {} es := by
  apply always_iff_meets (I := Aligned)
  · intro d e d1 o hd hstep
    rw [followsToTheEnd_iff (step_knowsTimer hd.knowsTimer hstep), step_aligned_iff hd hstep]
  · exact fun d e d1 o hd he hstep => (step_aligned_iff hd hstep).mpr he
  · exact fresh_aligned

/-! ## Sample runs -/

/-- The dialog fades in, with the animation enabled. -/
def fadesIn : List Event :=
  [.setAnimationEnabled true, .setAnimationDelay 10 10, .setAnimationDuration 100 100, .fadeIn 1,
    .timerEvent 1, .progress 1, .finished]

/-- The dialog turns back while it waits to fade out. -/
theorem a_turn_back_follows :
    Follows {} ∧ Always fadeStep (fun _ _ _ d => Follows d) {}
      (fadesIn ++ [.fadeOut 2, .fadeIn 3, .timerEvent 3, .finished]) :=
  the_opacity_follows (by decide)

/-- Three runs leave the opacity astray: the animation is disabled while it fades out, or the
target changes while a disabled animation runs, or the delay is negative. -/
theorem three_runs_go_astray :
    (∃ d, run fadeStep {} (fadesIn ++ [.fadeOut 2, .timerEvent 2, .setAnimationEnabled false]) =
        some (d, []) ∧ ¬ Follows d) ∧
      (∃ d, run fadeStep {} [.setAnimationEnabled true, .setAnimationDuration 100 100, .fadeIn 1,
          .setAnimationEnabled false, .timerEvent 1, .fadeOut 2, .finished] =
        some (d, []) ∧ ¬ Follows d) ∧
      ∃ d, run fadeStep {} [.setAnimationEnabled true, .setAnimationDelay (-1) (-1), .fadeIn 1] =
        some (d, []) ∧ ¬ Follows d :=
  ⟨⟨_, rfl, by decide⟩, ⟨_, rfl, by decide⟩, ⟨_, rfl, by decide⟩⟩

end session_guard.dialog_fade
