-- The laws of the attempts of `AuthPam`: how often an attempt completes, and
-- when `isAuthenticated` speaks of the latest attempt. Both flags outlive an
-- attempt that ends with the exit of its child.
import SessionGuard.AuthPam

open machine

namespace session_guard.auth_pam

open pam_message

/-! ## What an attempt hears and emits -/

/-- The event neither cancels the attempt nor starts another one. -/
def Event.InAttempt : Event → Prop
  | .authenticate _ _ => False
  | .cancelAuthentication => False
  | _ => True

/-- The event starts no attempt. -/
def Event.NoStart : Event → Prop
  | .authenticate _ _ => False
  | _ => True

/-- The event is a Complete frame of the child. -/
def Event.isComplete : Event → Bool
  | .pipeActivated (some (.CompleteEvent _ _ _)) => true
  | _ => false

/-- The event is a Complete frame with a true result. -/
def Event.isSuccess : Event → Bool
  | .pipeActivated (some (.CompleteEvent _ true _)) => true
  | _ => false

def Effect.isCompletion : Effect → Bool
  | .emit .authenticationComplete => true
  | _ => false

/-- How many Complete frames arrive. -/
def completeFrames (es : List Event) : Nat := es.countP Event.isComplete

/-- How often `authenticationComplete` is emitted. -/
def completions (out : List Effect) : Nat := out.countP Effect.isCompletion

@[simp] theorem completions_append (a b : List Effect) :
    completions (a ++ b) = completions a + completions b := by
  simp [completions]

@[simp] theorem completions_respond (a : AuthPam) (r : String) : completions (a.respond r) = 0 := by
  unfold AuthPam.respond
  split <;> rfl

theorem completions_handleChildExit (a : AuthPam) :
    completions a.handleChildExit.2 = if a.m_hasSendCompleteSignal then 0 else 1 := by
  unfold AuthPam.handleChildExit completions
  simp only [List.countP_append]
  split_ifs <;> simp_all [Effect.isCompletion]

/-- An event that is neither a Complete frame nor the end of the pipe emits
no completion and changes nothing. -/
theorem handlePipeActivated_other (a : AuthPam) (e : PamEvent)
    (h : Event.isComplete (.pipeActivated (some e)) = false) :
    (a.handlePipeActivated (some e)).1 = a ∧
      completions (a.handlePipeActivated (some e)).2 = 0 := by
  cases e with
  | CompleteEvent c r t => simp [Event.isComplete] at h
  | _ => exact ⟨rfl, rfl⟩

/-! ## Exactly one completion -/

/-- With no notifier, an attempt hears and emits nothing more. -/
theorem silent_after_exit {a b : AuthPam} {es : List Event} {out : List Effect}
    (hn : a.m_socketNotifier = none) (hin : ∀ e ∈ es, e.InAttempt)
    (h : run step a es = some (b, out)) : completeFrames es = 0 ∧ completions out = 0 := by
  induction es generalizing out with
  | nil =>
    simp only [run_nil, Option.some.injEq, Prod.mk.injEq] at h
    obtain ⟨rfl, rfl⟩ := h
    exact ⟨rfl, rfl⟩
  | cons e es ih =>
    obtain ⟨a1, o1, o2, h1, h2, rfl⟩ := run_cons_iff.mp h
    have hrest := fun e he => hin e (List.mem_cons_of_mem _ he)
    cases e with
    | authenticate u k => exact (hin _ List.mem_cons_self).elim
    | cancelAuthentication => exact (hin _ List.mem_cons_self).elim
    | respond r =>
      simp only [step, Option.some.injEq, Prod.mk.injEq] at h1
      obtain ⟨rfl, rfl⟩ := h1
      obtain ⟨hf, hc⟩ := ih hrest h2
      exact ⟨by simpa [completeFrames, Event.isComplete] using hf, by simp [hc]⟩
    | pipeActivated r => simp [step, hn] at h1

/-- The completions of an attempt up to the exit of its child: one for each
Complete frame, and one more when no Complete frame came and the flag was
not left over from an earlier attempt. -/
theorem completions_of_attempt {a b : AuthPam} {es : List Event} {out : List Effect} {fd : Nat}
    (hn : a.m_socketNotifier = some fd) (hin : ∀ e ∈ es, e.InAttempt)
    (hexit : Event.pipeActivated none ∈ es) (h : run step a es = some (b, out)) :
    completions out = completeFrames es +
      if a.m_hasSendCompleteSignal = true ∨ 0 < completeFrames es then 0 else 1 := by
  induction es generalizing a out with
  | nil => simp at hexit
  | cons e es ih =>
    obtain ⟨a1, o1, o2, h1, h2, rfl⟩ := run_cons_iff.mp h
    have hrest := fun e he => hin e (List.mem_cons_of_mem _ he)
    cases e with
    | authenticate u k => exact (hin _ List.mem_cons_self).elim
    | cancelAuthentication => exact (hin _ List.mem_cons_self).elim
    | respond r =>
      simp only [step, Option.some.injEq, Prod.mk.injEq] at h1
      obtain ⟨rfl, rfl⟩ := h1
      have hexit' : Event.pipeActivated none ∈ es := by simpa using hexit
      have := ih hn hrest hexit' h2
      simpa [completeFrames, Event.isComplete] using this
    | pipeActivated r =>
      simp only [step, hn, Option.some.injEq] at h1
      rcases r with _ | ev
      · -- the child exits here: what follows is silent
        have ho1 := completions_handleChildExit a
        simp only [AuthPam.handlePipeActivated] at h1
        rw [h1] at ho1
        have ha1 : a1.m_socketNotifier = none := congrArg (·.1.m_socketNotifier) h1.symm
        obtain ⟨hf, hc⟩ := silent_after_exit ha1 hrest h2
        have hf' : completeFrames (.pipeActivated none :: es) = 0 := by
          simpa [completeFrames, Event.isComplete] using hf
        simp [hf', hc, ho1]
      · have hexit' : Event.pipeActivated none ∈ es := by simpa using hexit
        by_cases hev : Event.isComplete (.pipeActivated (some ev)) = true
        · -- a Complete frame: one completion, and the flag is set for the rest
          have hframes : completeFrames (.pipeActivated (some ev) :: es) =
              completeFrames es + 1 := by
            simp [completeFrames, hev]
          cases ev with
          | CompleteEvent c r t =>
            simp only [AuthPam.handlePipeActivated, Prod.mk.injEq] at h1
            obtain ⟨rfl, rfl⟩ := h1
            have := ih (by exact hn) hrest hexit' h2
            rw [hframes, completions_append, this]
            simp [completions, Effect.isCompletion]
            omega
          | _ => simp [Event.isComplete] at hev
        · have hother := handlePipeActivated_other a ev (by simpa using hev)
          rw [h1] at hother
          obtain ⟨rfl, hc⟩ := hother
          have := ih hn hrest hexit' h2
          simpa [completeFrames, hev, hc] using this

/-- The attempt that `authenticate` starts after the events `before` completes
exactly once by the time that its child has exited, when the events `during`
follow the call. -/
def CompletesOnce (before : List Event) (userName : String) (k : ForkAnswer)
    (during : List Event) : Prop :=
  ∀ a o b out, run step fresh before = some (a, o) →
    (a.authenticate userName k).2.2 = true →
    run step (a.authenticate userName k).1 during = some (b, out) →
    (∀ e ∈ during, e.InAttempt) → .pipeActivated none ∈ during → completions out = 1

/-- An attempt completes exactly once by the exit of its child, if and only
if its child sent one Complete frame, or sent none and the flag was clear: no
attempt since the last cancel had set it, or `authenticate` cancelled a
running attempt. -/
theorem an_attempt_completes_once_iff {a b : AuthPam} {userName : String} {k : ForkAnswer}
    {during : List Event} {out : List Effect} (hstart : (a.authenticate userName k).2.2 = true)
    (h : run step (a.authenticate userName k).1 during = some (b, out))
    (hin : ∀ e ∈ during, e.InAttempt) (hexit : .pipeActivated none ∈ during) :
    completions out = 1 ↔
      completeFrames during = 1 ∨
        completeFrames during = 0 ∧
          (a.inAuthentication = true ∨ a.m_hasSendCompleteSignal = false) := by
  obtain ⟨fd, hn⟩ := AuthPam.authenticate_notifier hstart
  rw [completions_of_attempt hn hin hexit h, AuthPam.authenticate_hasSendCompleteSignal]
  rcases (by omega : completeFrames during = 0 ∨ 0 < completeFrames during) with h0 | h0
  · cases a.inAuthentication <;> cases a.m_hasSendCompleteSignal <;> simp [h0]
  · simp only [h0, or_true, if_true]
    omega

/-- After an attempt that failed and whose child has exited, the child of the
next attempt crashes, and no completion is emitted. -/
theorem a_crash_after_a_failed_attempt_completes_never :
    ¬ CompletesOnce
      [.authenticate "root" forked,
        .pipeActivated (some (.CompleteEvent true false "Authentication failure")),
        .pipeActivated none]
      "root" forked [.pipeActivated none] := by
  intro h
  have := h _ _ _ _ rfl rfl rfl (by simp [Event.InAttempt]) (by simp)
  revert this
  decide

/-- The first attempt of a new object completes once when its child
crashes. -/
theorem a_first_crash_completes_once :
    ∃ b out, run step (fresh.authenticate "root" forked).1 [.pipeActivated none] = some (b, out) ∧
      completions out = 1 :=
  ⟨_, _, rfl, (an_attempt_completes_once_iff (a := fresh) (k := forked) rfl
    (rfl : run step _ [.pipeActivated none] = _) (by simp [Event.InAttempt]) (by simp)).mpr
    (Or.inr ⟨rfl, Or.inr rfl⟩)⟩

/-! ## Whose result `isAuthenticated` gives -/

/-- A step that starts no attempt leaves `isAuthenticated` false, unless it
is a Complete frame with a true result. -/
theorem isAuthenticated_step {a b : AuthPam} {e : Event} {out : List Effect}
    (h : step a e = some (b, out)) (hno : e.NoStart) (he : e.isSuccess = false)
    (ha : a.isAuthenticated = false) : b.isAuthenticated = false := by
  cases e with
  | authenticate u k => exact hno.elim
  | cancelAuthentication =>
    simp only [step, Option.some.injEq] at h
    exact congrArg (·.1.m_isAuthenticated) h.symm
  | respond r =>
    simp only [step, Option.some.injEq, Prod.mk.injEq] at h
    exact h.1 ▸ ha
  | pipeActivated r =>
    rcases hn : a.m_socketNotifier with _ | fd
    · simp [step, hn] at h
    · simp only [step, hn, Option.some.injEq] at h
      rcases r with _ | ev
      · exact (congrArg (·.1.m_isAuthenticated) h.symm).trans ha
      · cases ev with
        | CompleteEvent c r t =>
          cases r with
          | true => simp [Event.isSuccess] at he
          | false => exact congrArg (·.1.m_isAuthenticated) h.symm
        | _ => exact (congrArg (·.1.m_isAuthenticated) h.symm).trans ha

/-- Without a start and without a success, `isAuthenticated` stays false. -/
theorem isAuthenticated_run {a b : AuthPam} {es : List Event} {out : List Effect}
    (h : run step a es = some (b, out)) (hno : ∀ e ∈ es, e.NoStart)
    (hes : ∀ e ∈ es, e.isSuccess = false) (ha : a.isAuthenticated = false) :
    b.isAuthenticated = false :=
  run_inv_of_meets (G := fun _ e => e.NoStart ∧ e.isSuccess = false)
    (I := fun a => a.isAuthenticated = false)
    (fun _ _ _ _ ha hg hs => isAuthenticated_step hs hg.1 hg.2 ha) ha
    (meets_of_forall fun e he _ => ⟨hno e he, hes e he⟩) h

/-- With no notifier, a step that starts no attempt brings no notifier, and
no frame. -/
theorem no_notifier_step {a b : AuthPam} {e : Event} {out : List Effect}
    (h : step a e = some (b, out)) (hno : e.NoStart) (hn : a.m_socketNotifier = none) :
    b.m_socketNotifier = none ∧ e.isSuccess = false := by
  cases e with
  | authenticate u k => exact hno.elim
  | cancelAuthentication =>
    simp only [step, Option.some.injEq] at h
    exact ⟨congrArg (·.1.m_socketNotifier) h.symm, rfl⟩
  | respond r =>
    simp only [step, Option.some.injEq, Prod.mk.injEq] at h
    exact ⟨h.1 ▸ hn, rfl⟩
  | pipeActivated r => simp [step, hn] at h

/-- An object that never started an attempt is never authenticated. -/
theorem never_authenticated_before_the_first_attempt {es : List Event} {b : AuthPam}
    {out : List Effect} (hno : ∀ e ∈ es, e.NoStart) (h : run step fresh es = some (b, out)) :
    b.isAuthenticated = false :=
  (run_inv_of_meets (G := fun _ e => e.NoStart)
    (I := fun a => a.m_socketNotifier = none ∧ a.isAuthenticated = false)
    (fun _ _ _ _ hi hg hs =>
      have hn := no_notifier_step hs hg hi.1
      ⟨hn.1, isAuthenticated_step hs hg hn.2 hi.2⟩)
    ⟨rfl, rfl⟩ (meets_of_forall fun e he _ => hno e he) h).2

/-- In every run that goes on from `before` with one more `authenticate`, and
no other after it, `isAuthenticated` is true only after a Complete frame with
a true result that came since that call. -/
def FreshAfter (before : List Event) (userName : String) (k : ForkAnswer) : Prop :=
  ∀ since b out, (∀ e ∈ since, e.NoStart) →
    run step fresh (before ++ .authenticate userName k :: since) = some (b, out) →
    b.isAuthenticated = true → ∃ e ∈ since, e.isSuccess = true

/-- The call itself leaves `isAuthenticated` false if and only if it cancels
a running attempt, or finds it false. -/
theorem authenticate_clears_iff (a : AuthPam) (u : String) (k : ForkAnswer) :
    (a.authenticate u k).1.isAuthenticated = false ↔
      (a.inAuthentication = true ∨ a.isAuthenticated = false) := by
  have h := AuthPam.authenticate_isAuthenticated a u k
  unfold AuthPam.isAuthenticated
  rw [h]
  cases a.inAuthentication <;> simp

/-- In every state that a run reaches, `isAuthenticated` is false when the run
has no `authenticate`. After one more `authenticate` it is true only by a Complete
frame that came since, if and only if that call cancelled a running attempt or
found `isAuthenticated` false. -/
theorem is_authenticated_is_fresh_iff {before : List Event} {a : AuthPam} {o : List Effect}
    (hbefore : run step fresh before = some (a, o)) :
    ((∀ e ∈ before, e.NoStart) → a.isAuthenticated = false) ∧
    ∀ userName k, FreshAfter before userName k ↔
      (a.inAuthentication = true ∨ a.isAuthenticated = false) := by
  refine ⟨fun hno => never_authenticated_before_the_first_attempt hno hbefore, ?_⟩
  intro u k
  have hrun : ∀ since b out, run step fresh (before ++ .authenticate u k :: since) =
      some (b, out) → ∃ out2, run step (a.authenticate u k).1 since = some (b, out2) := by
    intro since b out h
    obtain ⟨a', o', o1, h1, h2, -⟩ := run_append_iff.mp h
    obtain ⟨a1, o2, o3, h3, h4, -⟩ := run_cons_iff.mp h2
    rw [hbefore] at h1
    cases h1
    cases h3
    exact ⟨o3, h4⟩
  rw [← authenticate_clears_iff a u k]
  constructor
  · -- right after the call nothing has been heard yet
    intro hfresh
    by_contra hcon
    obtain ⟨e, he, -⟩ := hfresh [] _ _ (by simp)
      (run_append_iff.mpr ⟨a, o, _, hbefore, run_cons_iff.mpr ⟨_, _, _, rfl, rfl, rfl⟩, rfl⟩)
      (by simpa using hcon)
    simp at he
  · intro hclear since b out hno h hb
    obtain ⟨out2, h2⟩ := hrun since b out h
    by_contra hcon
    have := isAuthenticated_run h2 hno
      (fun e he => by_contra fun hs => hcon ⟨e, he, by simpa using hs⟩) hclear
    rw [this] at hb
    cases hb

/-- After an attempt that succeeded and whose child has exited, a new attempt
starts out authenticated. -/
theorem a_new_attempt_keeps_the_old_success :
    ¬ FreshAfter
      [.authenticate "root" forked, .pipeActivated (some (.CompleteEvent true true "Success")),
        .pipeActivated none]
      "root" forked := by
  intro h
  obtain ⟨e, he, -⟩ := h [] _ _ (by simp) rfl rfl
  simp at he

/-- After an attempt that failed and whose child has exited, a new attempt starts out not
authenticated. -/
theorem an_attempt_after_a_failure_is_fresh :
    FreshAfter
      [.authenticate "root" forked,
        .pipeActivated (some (.CompleteEvent true false "Authentication failure")),
        .pipeActivated none]
      "root" forked :=
  ((is_authenticated_is_fresh_iff rfl).2 "root" forked).mpr (Or.inr rfl)

end session_guard.auth_pam
