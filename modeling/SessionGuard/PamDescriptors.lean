-- The pipe descriptors of `AuthPam` as a ledger: `pipe` acquires two, `close`
-- releases one, and a write uses one. The object takes a number other than 0
-- for a descriptor that it owns, and it keeps the number after the close.
import SessionGuard.Ledger
import SessionGuard.AuthPam

open machine ledger

namespace session_guard.pam_descriptors

open auth_pam

/-! ## The object and its descriptors -/

/-- What an effect does with descriptors. -/
def entry : Effect → List (Entry Nat)
  | .pipe fds => [.acquire fds.1, .acquire fds.2]
  | .close fd => [.release fd]
  | .sendEvent fd _ => [.use fd]
  | _ => []

def entries (effects : List Effect) : List (Entry Nat) := effects.flatMap entry

@[simp] theorem entries_append (xs ys : List Effect) :
    entries (xs ++ ys) = entries xs ++ entries ys := List.flatMap_append

/-- The object, and the descriptors that `pipe` gave it and that are open. -/
structure Sys where
  pam : AuthPam := fresh
  owned : List Nat := []

/-- One step of the object. `pipe` gives no descriptor that is open, and never 0. -/
def step : Step Sys Event Effect
  | s, e =>
    match auth_pam.step s.pam e with
    | none => none
    | some (pam, o) =>
      if Fresh [0] s.owned (entries o) then some (⟨pam, balance s.owned (entries o)⟩, o) else none

theorem step_eq_some {s s1 : Sys} {e : Event} {o : List Effect} (h : step s e = some (s1, o)) :
    auth_pam.step s.pam e = some (s1.pam, o) ∧ Fresh [0] s.owned (entries o) ∧
      s1.owned = balance s.owned (entries o) := by
  unfold step at h
  rcases hs : auth_pam.step s.pam e with _ | ⟨pam, o1⟩
  · simp [hs] at h
  · simp only [hs] at h
    split_ifs at h with hf
    cases h
    exact ⟨rfl, hf, rfl⟩

/-- The event ends an attempt: the start fails, the child exits, or the attempt is
cancelled. -/
def Ends (s : Sys) : Event → Prop
  | .authenticate userName k => (s.pam.authenticate userName k).2.2 = false
  | .pipeActivated none => True
  | .cancelAuthentication => True
  | _ => False

/-- The step closes and writes only what the object owns, and when it ends an attempt,
nothing stays open. -/
def OwnsItsDescriptors (s : Sys) (e : Event) (o : List Effect) (s1 : Sys) : Prop :=
  Lawful s.owned (entries o) ∧ (Ends s e → s1.owned = [])

/-- A cancel comes only while an attempt runs, or before there was a pipe, and the
second pipe never fails after the first. -/
def Orderly (s : Sys) : Event → Prop
  | .cancelAuthentication =>
    s.pam.inAuthentication = true ∨ s.pam.m_toChildPipe.2 = 0 ∧ s.pam.m_toParentPipe.1 = 0
  | .authenticate _ k => k.toParentPipe.isSome = true → k.toChildPipe.isSome = true
  | _ => True

/-! ## The invariant -/

/-- While an attempt runs, the object owns the two ends that it recorded, and
otherwise none. -/
structure Owned (s : Sys) : Prop where
  running : s.pam.m_inAuthenticating = true →
    s.owned.Perm [s.pam.m_toParentPipe.1, s.pam.m_toChildPipe.2] ∧
      s.pam.m_toParentPipe.1 ≠ 0 ∧ s.pam.m_toChildPipe.2 ≠ 0
  ended : s.pam.m_inAuthenticating = false → s.owned = [] ∧ s.pam.m_socketNotifier = none

/-- Between two attempts the object owns nothing. -/
theorem owned_nothing {pam : AuthPam} {owned : List Nat} (hend : pam.m_inAuthenticating = false)
    (hnot : pam.m_socketNotifier = none) (hnil : owned = []) : Owned ⟨pam, owned⟩ :=
  ⟨fun hrun => by simp [hend] at hrun, fun _ => ⟨hnil, hnot⟩⟩

theorem owned_fresh : Owned {} := owned_nothing rfl rfl rfl

/-! ## What the functions do with descriptors -/

theorem entries_cancel {a : AuthPam} (h1 : a.m_toParentPipe.1 ≠ 0) (h2 : a.m_toChildPipe.2 ≠ 0) :
    entries a.cancelAuthentication.2 =
      [a.m_toChildPipe.2, a.m_toParentPipe.1].map .release := by
  unfold AuthPam.cancelAuthentication
  simp only [if_pos h1, if_pos h2]
  split_ifs <;> rfl

/-- A cancel with no recorded end closes nothing. -/
theorem entries_cancel_nil {a : AuthPam} (h1 : a.m_toChildPipe.2 = 0)
    (h2 : a.m_toParentPipe.1 = 0) : entries a.cancelAuthentication.2 = [] := by
  unfold AuthPam.cancelAuthentication
  simp only [h1, h2, ne_eq, not_true_eq_false, if_false]
  split_ifs <;> rfl

theorem entries_childExit {a : AuthPam} (h1 : a.m_toParentPipe.1 ≠ 0)
    (h2 : a.m_toChildPipe.2 ≠ 0) :
    entries a.handleChildExit.2 = [a.m_toParentPipe.1, a.m_toChildPipe.2].map .release := by
  unfold AuthPam.handleChildExit
  simp only [if_pos h1, if_pos h2]
  split_ifs <;> rfl

/-- A frame closes and writes nothing. -/
theorem entries_frame (a : AuthPam) (pamEvent : pam_message.PamEvent) :
    entries (a.handlePipeActivated (some pamEvent)).2 = [] := by
  cases pamEvent <;> rfl

/-- A running attempt is cancelled: both ends are closed. -/
theorem cancel_running {s : Sys} (hs : Owned s) (hrun : s.pam.m_inAuthenticating = true) :
    Lawful s.owned (entries s.pam.cancelAuthentication.2) ∧
      balance s.owned (entries s.pam.cancelAuthentication.2) = [] := by
  obtain ⟨hperm, h1, h2⟩ := hs.running hrun
  rw [entries_cancel h1 h2]
  apply release_all
  exact hperm.trans (List.Perm.swap _ _ _)

/-- The start of an attempt by an object that owns nothing. -/
theorem forkChild_owned {a : AuthPam} (hend : a.m_inAuthenticating = false)
    (hnot : a.m_socketNotifier = none) (u : String) (k : ForkAnswer)
    (hk : k.toParentPipe.isSome = true → k.toChildPipe.isSome = true)
    (hf : Fresh [0] [] (entries (a.forkChild u k).2.1)) :
    Lawful [] (entries (a.forkChild u k).2.1) ∧
      Owned ⟨(a.forkChild u k).1, balance [] (entries (a.forkChild u k).2.1)⟩ ∧
      ((a.forkChild u k).2.2 = false → balance [] (entries (a.forkChild u k).2.1) = []) := by
  unfold AuthPam.forkChild at hf ⊢
  rcases hp : k.toParentPipe with _ | p
  · exact ⟨trivial, owned_nothing hend hnot rfl, fun _ => rfl⟩
  · rcases hc : k.toChildPipe with _ | c
    · simp [hp, hc] at hk
    · rcases hfork : k.forkPid with _ | pid
      · -- the four ends are closed again
        have hperm : [p.1, p.2, c.1, c.2].Perm ([p.2, p.1, c.2, c.1] ++ []) :=
          (List.Perm.swap _ _ _).trans
            (((List.Perm.swap _ _ _).cons _).cons _)
        obtain ⟨hlaw, hnil⟩ := acquire_release hperm
        exact ⟨hlaw, owned_nothing hend hnot hnil.eq_nil, fun _ => hnil.eq_nil⟩
      · -- the ends of the child are closed
        have hperm : [p.1, p.2, c.1, c.2].Perm ([p.2, c.1] ++ [p.1, c.2]) :=
          (List.Perm.swap _ _ _).trans ((List.Perm.swap _ _ _).cons _)
        obtain ⟨hlaw, hrest⟩ := acquire_release hperm
        simp only [hp, hc, hfork, entries, entry, List.flatMap_cons, Fresh, Along, IsFresh,
          List.mem_singleton, List.cons_append, List.nil_append] at hf
        exact ⟨hlaw, ⟨fun _ => ⟨hrest, hf.1.1, hf.2.2.2.1.1⟩, by simp⟩, by simp⟩

/-- The child exits: both ends are closed. -/
theorem childExit_running {s : Sys} (hs : Owned s) (hrun : s.pam.m_inAuthenticating = true) :
    Lawful s.owned (entries s.pam.handleChildExit.2) ∧
      balance s.owned (entries s.pam.handleChildExit.2) = [] := by
  obtain ⟨hperm, h1, h2⟩ := hs.running hrun
  rw [entries_childExit h1 h2]
  apply release_all
  exact hperm

/-! ## Each step keeps the invariant -/

theorem authenticate_owned {s : Sys} (hs : Owned s) (u : String) (k : ForkAnswer)
    (hk : k.toParentPipe.isSome = true → k.toChildPipe.isSome = true)
    (hf : Fresh [0] s.owned (entries (s.pam.authenticate u k).2.1)) :
    Lawful s.owned (entries (s.pam.authenticate u k).2.1) ∧
      Owned ⟨(s.pam.authenticate u k).1,
        balance s.owned (entries (s.pam.authenticate u k).2.1)⟩ ∧
      ((s.pam.authenticate u k).2.2 = false →
        balance s.owned (entries (s.pam.authenticate u k).2.1) = []) := by
  unfold AuthPam.authenticate AuthPam.inAuthentication at hf ⊢
  by_cases hrun : s.pam.m_inAuthenticating = true
  · obtain ⟨hlaw, hnil⟩ := cancel_running hs hrun
    simp only [hrun, if_true, entries_append, balance_append, fresh_append, lawful_append, hnil]
      at hf ⊢
    obtain ⟨hfork, howned⟩ :=
      forkChild_owned (a := s.pam.cancelAuthentication.1) rfl rfl u k hk hf.2
    exact ⟨⟨hlaw, hfork⟩, howned⟩
  · obtain ⟨hnil, hnot⟩ := hs.ended (by simpa using hrun)
    simp only [if_neg hrun, List.nil_append, hnil] at hf ⊢
    exact forkChild_owned (by simpa using hrun) hnot u k hk hf

/-- A cancel closes both ends, or there is no pipe yet and it closes nothing. -/
theorem cancel_owned {s : Sys} (hs : Owned s) (hG : Orderly s .cancelAuthentication) :
    Lawful s.owned (entries s.pam.cancelAuthentication.2) ∧
      balance s.owned (entries s.pam.cancelAuthentication.2) = [] := by
  by_cases hrun : s.pam.m_inAuthenticating = true
  · exact cancel_running hs hrun
  · obtain ⟨hnil, -⟩ := hs.ended (by simpa using hrun)
    obtain ⟨h1, h2⟩ := hG.resolve_left hrun
    rw [entries_cancel_nil h1 h2]
    exact ⟨trivial, hnil⟩

/-- An orderly step is right about the descriptors, and so is what it leaves. -/
theorem step_owned {s s1 : Sys} {e : Event} {o : List Effect} (hs : Owned s) (hG : Orderly s e)
    (h : step s e = some (s1, o)) : Owned s1 ∧ OwnsItsDescriptors s e o s1 := by
  obtain ⟨hstep, hf, hbal⟩ := step_eq_some h
  obtain ⟨pam, owned⟩ := s1
  dsimp only at hstep hbal
  subst hbal
  clear h
  cases e with
  | authenticate u k =>
    obtain ⟨rfl, rfl⟩ := Prod.mk.inj (Option.some.inj hstep)
    obtain ⟨hlaw, howned, hfail⟩ := authenticate_owned hs u k hG hf
    exact ⟨howned, hlaw, hfail⟩
  | respond response =>
    obtain ⟨rfl, rfl⟩ := Prod.mk.inj (Option.some.inj hstep)
    unfold AuthPam.respond AuthPam.inAuthentication
    by_cases hrun : s.pam.m_inAuthenticating = true
    · obtain ⟨hperm, -, -⟩ := hs.running hrun
      have hmem : s.pam.m_toChildPipe.2 ∈ s.owned := hperm.mem_iff.mpr (by simp)
      rw [if_pos hrun]
      exact ⟨hs, ⟨hmem, trivial⟩, False.elim⟩
    · rw [if_neg hrun]
      exact ⟨hs, trivial, False.elim⟩
  | cancelAuthentication =>
    obtain ⟨rfl, rfl⟩ := Prod.ext_iff.mp (Option.some.inj hstep)
    obtain ⟨hlaw, hnil⟩ := cancel_owned hs hG
    exact ⟨owned_nothing rfl rfl hnil, hlaw, fun _ => hnil⟩
  | pipeActivated pamEvent =>
    obtain ⟨⟨fd, hnot⟩, hpipe⟩ := step_pipeActivated hstep
    have hrun : s.pam.m_inAuthenticating = true := by
      by_contra hrun
      obtain ⟨-, hnone⟩ := hs.ended (by simpa using hrun)
      simp [hnone] at hnot
    cases pamEvent with
    | none =>
      obtain ⟨rfl, rfl⟩ := Prod.ext_iff.mp hpipe
      obtain ⟨hlaw, hnil⟩ := childExit_running hs hrun
      exact ⟨owned_nothing rfl rfl hnil, hlaw, fun _ => hnil⟩
    | some pamEvent =>
      obtain ⟨rfl, rfl⟩ := Prod.ext_iff.mp hpipe
      refine ⟨?_, ?_, False.elim⟩
      · rw [entries_frame]
        cases pamEvent <;> exact ⟨hs.running, hs.ended⟩
      · rw [entries_frame]
        trivial

/-! ## Every run -/

/-- Over a run, the effects are a ledger that ends with what is owned. -/
theorem run_lawful {s t : Sys} {es : List Event} {o : List Effect}
    (hP : Always step OwnsItsDescriptors s es) (h : run step s es = some (t, o)) :
    Lawful s.owned (entries o) := by
  induction es generalizing s o with
  | nil =>
    simp only [run_nil, Option.some.injEq, Prod.mk.injEq] at h
    exact h.2 ▸ trivial
  | cons e es ih =>
    obtain ⟨s1, o1, o2, h1, h2, rfl⟩ := run_cons_iff.mp h
    obtain ⟨hlaw, hrest⟩ := hP s1 o1 h1
    have hlater := ih hrest h2
    obtain ⟨-, -, hbal⟩ := step_eq_some h1
    rw [entries_append, lawful_append]
    exact ⟨hlaw.1, hbal ▸ hlater⟩

/-- In every orderly run, each step closes and writes only descriptors that the object
owns, nothing stays open when an attempt ends, and no descriptor is closed more often
than `pipe` gave it. -/
theorem descriptors_are_owned (es : List Event) (hG : Meets step Orderly {} es) :
    Always step OwnsItsDescriptors {} es ∧
      ∀ s o, run step {} es = some (s, o) →
        ∀ fd, (entries o).count (.release fd) ≤ (entries o).count (.acquire fd) := by
  have hP : Always step OwnsItsDescriptors {} es :=
    always_of_inv (G := Orderly) (I := Owned) (P := OwnsItsDescriptors)
      (fun _ _ _ _ hs hg h => step_owned hs hg h) owned_fresh hG
  refine ⟨hP, fun s o h fd => ?_⟩
  have hcount := lawful_count_release (run_lawful hP h) fd
  simp only [List.count_nil] at hcount
  omega

/-- An attempt is cancelled while it runs, the next one ends with its child, and a
third one gets the numbers of the first. -/
theorem three_attempts_in_order :
    Always step OwnsItsDescriptors {}
      [.authenticate "root" forked, .respond "secret", .cancelAuthentication,
        .authenticate "root" forked, .pipeActivated none, .authenticate "root" forked] := by
  refine (descriptors_are_owned _ ?_).1
  refine meets_cons rfl (fun _ => rfl) <| meets_cons rfl trivial <| meets_cons rfl (Or.inl rfl) <|
    meets_cons rfl (fun _ => rfl) <| meets_cons rfl trivial <|
    meets_cons rfl (fun _ => rfl) meets_nil

/-- After the child's exit has closed both ends, a cancel closes them again. -/
theorem a_cancel_closes_again :
    ¬ Always step OwnsItsDescriptors {}
      [.authenticate "root" forked, .pipeActivated none, .cancelAuthentication] := by
  intro h
  have hcancel := ((h _ _ rfl).2 _ _ rfl).2 _ _ rfl
  exact absurd hcancel.1.1 (by decide)

end session_guard.pam_descriptors
