-- The child processes of `AuthPam` as a ledger: `fork` acquires one, `kill`
-- uses one, and each `waitpid` that reaps a child releases it. Other children of
-- the same process come and go, and `waitpid(-1)` may reap any of them.
import SessionGuard.Ledger
import SessionGuard.AuthPam

open machine ledger

namespace session_guard.pam_children

open auth_pam

/-! ## The object and the children of its process -/

/-- What an effect does with processes, where `reaped` is the child that
`waitpid(-1, WNOHANG)` reaps, if there is one. -/
def entry (reaped : Option Nat) : Effect → List (Entry Nat)
  | .fork pid => [.acquire pid]
  | .kill pid => [.use pid]
  | .waitpid pid => [.release pid]
  | .waitpidAny => reaped.toList.map .release
  | _ => []

def entries (reaped : Option Nat) (effects : List Effect) : List (Entry Nat) :=
  effects.flatMap (entry reaped)

@[simp] theorem entries_append (reaped : Option Nat) (xs ys : List Effect) :
    entries reaped (xs ++ ys) = entries reaped xs ++ entries reaped ys := List.flatMap_append

/-- The object, and the children of its process that are not reaped: its own ones, the
other ones, and which of them have exited. -/
structure Sys where
  pam : AuthPam := fresh
  children : List Nat := []
  others : List Nat := []
  zombies : List Nat := []

inductive SysEvent
  /-- A call or an activation of the object, with what `waitpid(-1)` reaps in it. -/
  | call (e : Event) (reaped : Option Nat)
  /-- A child exits. -/
  | exits (pid : Nat)
  /-- Another part of the process forks. -/
  | otherForks (pid : Nat)
  /-- Another part of the process reaps its child. -/
  | otherReaps (pid : Nat)

/-- `waitpid(-1, WNOHANG)` reaps a child that has exited, and none only when no child
has. -/
def Reaps (zombies : List Nat) (o : List Effect) : Option Nat → Prop
  | none => .waitpidAny ∈ o → zombies = []
  | some pid => .waitpidAny ∈ o ∧ pid ∈ zombies

instance (zombies : List Nat) (o : List Effect) :
    (reaped : Option Nat) → Decidable (Reaps zombies o reaped)
  | none => inferInstanceAs (Decidable (_ → _))
  | some _ => inferInstanceAs (Decidable (_ ∧ _))

/-- What is left of the pids after the entries. -/
def unreaped (es : List (Entry Nat)) (pids : List Nat) : List Nat :=
  pids.filter fun pid => .release pid ∉ es

/-- One step. `fork` gives a pid that no child has that is not reaped, and never 0. -/
def step : Step Sys SysEvent Effect
  | s, .call e reaped =>
    match auth_pam.step s.pam e with
    | none => none
    | some (pam, o) =>
      let es := entries reaped o
      if Fresh (0 :: s.others) s.children es ∧ Reaps s.zombies o reaped then
        some ({ pam := pam
                children := balance s.children es
                others := unreaped es s.others
                zombies := unreaped es s.zombies }, o)
      else none
  | s, .exits pid =>
    if pid ∈ s.children ++ s.others ∧ pid ∉ s.zombies then
      some ({ s with zombies := pid :: s.zombies }, [])
    else none
  | s, .otherForks pid =>
    if pid ∉ 0 :: (s.children ++ s.others) then some ({ s with others := pid :: s.others }, [])
    else none
  | s, .otherReaps pid =>
    if pid ∈ s.others ∧ pid ∈ s.zombies then
      some ({ s with others := s.others.erase pid, zombies := s.zombies.erase pid }, [])
    else none

/-- What the object does with processes in the step. -/
def SysEvent.entries (o : List Effect) : SysEvent → List (Entry Nat)
  | .call _ reaped => pam_children.entries reaped o
  | _ => []

/-- The step kills and reaps only a child of the object that is not reaped, and after it
the object has at most one such child, whose pid it records when it records one. -/
def OwnsItsChild (s : Sys) (e : SysEvent) (o : List Effect) (s1 : Sys) : Prop :=
  Lawful s.children (e.entries o) ∧ s1.children.length ≤ 1 ∧
    (s1.pam.m_authPid = 0 ∨ s1.children = [s1.pam.m_authPid])

/-- `handleChildExit` runs only while no child of the process waits to be reaped, and an
attempt starts only when the one before is cancelled. -/
def Orderly (s : Sys) : SysEvent → Prop
  | .call (.pipeActivated none) _ => s.zombies = []
  | .call (.authenticate _ k) _ =>
    k.toParentPipe.isSome = true → k.toChildPipe.isSome = true → k.forkPid.isSome = true →
      s.pam.inAuthentication = true ∨ s.pam.m_authPid = 0
  | _ => True

/-! ## What the functions do with processes -/

theorem entries_cancel (reaped : Option Nat) (a : AuthPam) :
    entries reaped a.cancelAuthentication.2 =
      if a.m_authPid = 0 then [] else [.use a.m_authPid, .release a.m_authPid] := by
  unfold AuthPam.cancelAuthentication
  by_cases hpid : a.m_authPid = 0
  · simp only [hpid, ne_eq, not_true_eq_false, if_false, if_true]
    split_ifs <;> rfl
  · simp only [ne_eq, hpid, not_false_eq_true, if_true, if_false]
    split_ifs <;> rfl

theorem entries_childExit (reaped : Option Nat) (a : AuthPam) :
    entries reaped a.handleChildExit.2 = reaped.toList.map .release := by
  unfold AuthPam.handleChildExit
  simp only [entries_append]
  have hany : entries reaped [.waitpidAny] = reaped.toList.map .release := by simp [entries, entry]
  rw [hany]
  split_ifs <;> simp [entries, entry]

/-- Only `handleChildExit` reaps any child. -/
theorem entries_frame (reaped : Option Nat) (a : AuthPam) (pamEvent : pam_message.PamEvent) :
    entries reaped (a.handlePipeActivated (some pamEvent)).2 = [] := by
  cases pamEvent <;> rfl

theorem entries_respond (reaped : Option Nat) (a : AuthPam) (response : String) :
    entries reaped (a.respond response) = [] := by
  unfold AuthPam.respond
  split_ifs <;> rfl

/-- The fork, when it happens, gives the pid that the object records. -/
theorem entries_forkChild (reaped : Option Nat) (a : AuthPam) (u : String) (k : ForkAnswer) :
    (entries reaped (a.forkChild u k).2.1 = [] ∧
        (a.forkChild u k).1.m_authPid = a.m_authPid) ∨
      ∃ pid, k.toParentPipe.isSome = true ∧ k.toChildPipe.isSome = true ∧ k.forkPid = some pid ∧
        entries reaped (a.forkChild u k).2.1 = [.acquire pid] ∧
        (a.forkChild u k).1.m_authPid = pid := by
  unfold AuthPam.forkChild
  rcases k.toParentPipe with _ | p
  · exact Or.inl ⟨rfl, rfl⟩
  · rcases k.toChildPipe with _ | c
    · exact Or.inl ⟨rfl, rfl⟩
    · rcases k.forkPid with _ | pid
      · exact Or.inl ⟨rfl, rfl⟩
      · exact Or.inr ⟨pid, rfl, rfl, rfl, rfl, rfl⟩

/-! ## The invariant -/

/-- The child that is not reaped is the one that the object records. -/
def recorded (pid : Nat) : List Nat := if pid = 0 then [] else [pid]

def Recorded (s : Sys) : Prop := s.children = recorded s.pam.m_authPid

/-- What the invariant says of a state. -/
theorem recorded_law {s : Sys} (h : Recorded s) :
    s.children.length ≤ 1 ∧ (s.pam.m_authPid = 0 ∨ s.children = [s.pam.m_authPid]) := by
  unfold Recorded recorded at h
  by_cases hpid : s.pam.m_authPid = 0
  · rw [if_pos hpid] at h
    exact ⟨by simp [h], Or.inl hpid⟩
  · rw [if_neg hpid] at h
    exact ⟨by simp [h], Or.inr h⟩

/-- A cancel kills and reaps the recorded child. -/
theorem cancel_recorded {s : Sys} (hs : Recorded s) (reaped : Option Nat) :
    Lawful s.children (entries reaped s.pam.cancelAuthentication.2) ∧
      balance s.children (entries reaped s.pam.cancelAuthentication.2) = [] := by
  unfold Recorded recorded at hs
  rw [entries_cancel, hs]
  by_cases hpid : s.pam.m_authPid = 0
  · rw [if_pos hpid, if_pos hpid]
    exact ⟨trivial, rfl⟩
  · rw [if_neg hpid, if_neg hpid]
    exact ⟨⟨List.mem_singleton_self _, List.mem_singleton_self _, trivial⟩, by simp [post]⟩

/-- With no child, an attempt starts with at most one, and records it. -/
theorem forkChild_recorded {others : List Nat} {reaped : Option Nat} {a : AuthPam} {u : String}
    {k : ForkAnswer} (ha : a.m_authPid = 0)
    (hf : Fresh (0 :: others) [] (entries reaped (a.forkChild u k).2.1)) :
    Lawful [] (entries reaped (a.forkChild u k).2.1) ∧
      balance [] (entries reaped (a.forkChild u k).2.1) =
        recorded (a.forkChild u k).1.m_authPid := by
  rcases entries_forkChild reaped a u k with ⟨hes, hpid⟩ | ⟨pid, -, -, -, hes, hpid⟩
  · rw [hes, hpid, ha]
    exact ⟨trivial, rfl⟩
  · rw [hes] at hf
    have h0 : pid ≠ 0 := by
      rintro rfl
      exact hf.1.1 List.mem_cons_self
    rw [hes, hpid, recorded, if_neg h0]
    exact ⟨⟨trivial, trivial⟩, rfl⟩

/-! ## Each step keeps the invariant -/

theorem authenticate_recorded {s : Sys} {reaped : Option Nat} (hs : Recorded s) (u : String)
    (k : ForkAnswer) (hG : Orderly s (.call (.authenticate u k) reaped))
    (hf : Fresh (0 :: s.others) s.children (entries reaped (s.pam.authenticate u k).2.1)) :
    Lawful s.children (entries reaped (s.pam.authenticate u k).2.1) ∧
      balance s.children (entries reaped (s.pam.authenticate u k).2.1) =
        recorded (s.pam.authenticate u k).1.m_authPid := by
  unfold AuthPam.authenticate at hf ⊢
  by_cases hrun : s.pam.inAuthentication = true
  · obtain ⟨hlaw, hnil⟩ := cancel_recorded hs reaped
    simp only [if_pos hrun, entries_append, fresh_append, lawful_append, balance_append, hnil]
      at hf ⊢
    obtain ⟨hfork, hrec⟩ := forkChild_recorded rfl hf.2
    exact ⟨⟨hlaw, hfork⟩, hrec⟩
  · simp only [if_neg hrun, List.nil_append] at hf ⊢
    by_cases hpid : s.pam.m_authPid = 0
    · have hnil : s.children = [] := by rw [hs, hpid]; rfl
      rw [hnil] at hf ⊢
      exact forkChild_recorded hpid hf
    · -- the child before is not cancelled, so that there is no fork
      rcases entries_forkChild reaped s.pam u k with ⟨hes, hsame⟩ | ⟨pid, hp, hc, hfork, -, -⟩
      · rw [hes, hsame]
        exact ⟨trivial, hs⟩
      · rcases hG hp hc (by rw [hfork]; rfl) with hin | hzero
        · exact absurd hin hrun
        · exact absurd hzero hpid

theorem step_call {s s1 : Sys} {e : Event} {reaped : Option Nat} {o : List Effect}
    (h : step s (.call e reaped) = some (s1, o)) :
    auth_pam.step s.pam e = some (s1.pam, o) ∧
      Fresh (0 :: s.others) s.children (entries reaped o) ∧ Reaps s.zombies o reaped ∧
      s1.children = balance s.children (entries reaped o) := by
  simp only [step] at h
  rcases hs : auth_pam.step s.pam e with _ | ⟨pam, o1⟩
  · simp [hs] at h
  · simp only [hs] at h
    split_ifs at h with hf
    cases h
    exact ⟨rfl, hf.1, hf.2, rfl⟩

/-- An orderly call or activation is right about the child, and keeps the invariant. -/
theorem call_recorded {s s1 : Sys} {e : Event} {reaped : Option Nat} {o : List Effect}
    (hs : Recorded s) (hG : Orderly s (.call e reaped))
    (h : step s (.call e reaped) = some (s1, o)) :
    Lawful s.children (entries reaped o) ∧ Recorded s1 := by
  obtain ⟨hstep, hf, hreaps, hchildren⟩ := step_call h
  unfold Recorded
  rw [hchildren]
  generalize s1.pam = pam at hstep ⊢
  cases e with
  | authenticate u k =>
    obtain ⟨rfl, rfl⟩ := Prod.mk.inj (Option.some.inj hstep)
    exact authenticate_recorded hs u k hG hf
  | respond response =>
    obtain ⟨rfl, rfl⟩ := Prod.mk.inj (Option.some.inj hstep)
    rw [entries_respond]
    exact ⟨trivial, hs⟩
  | cancelAuthentication =>
    obtain ⟨rfl, rfl⟩ := Prod.ext_iff.mp (Option.some.inj hstep)
    obtain ⟨hlaw, hnil⟩ := cancel_recorded hs reaped
    exact ⟨hlaw, hnil⟩
  | pipeActivated pamEvent =>
    obtain ⟨-, hpipe⟩ := step_pipeActivated hstep
    obtain ⟨rfl, rfl⟩ := Prod.ext_iff.mp hpipe
    cases pamEvent with
    | none =>
      have hzombies : s.zombies = [] := hG
      have hnone : reaped = none := by
        cases reaped with
        | none => rfl
        | some pid => simp [Reaps, hzombies] at hreaps
      have hes := entries_childExit reaped s.pam
      rw [hnone] at hes ⊢
      refine ⟨?_, ?_⟩
      · exact hes ▸ trivial
      · exact hes ▸ hs
    | some pamEvent =>
      rw [entries_frame]
      refine ⟨trivial, ?_⟩
      cases pamEvent <;> exact hs

/-- An orderly step is right about the child, and so is what it leaves. -/
theorem step_recorded {s s1 : Sys} {e : SysEvent} {o : List Effect} (hs : Recorded s)
    (hG : Orderly s e) (h : step s e = some (s1, o)) : Recorded s1 ∧ OwnsItsChild s e o s1 := by
  suffices hrec : Lawful s.children (e.entries o) ∧ Recorded s1 from
    ⟨hrec.2, hrec.1, recorded_law hrec.2⟩
  cases e with
  | call e reaped => exact call_recorded hs hG h
  | exits pid =>
    simp only [step] at h
    split_ifs at h
    cases h
    exact ⟨trivial, hs⟩
  | otherForks pid =>
    simp only [step] at h
    split_ifs at h
    cases h
    exact ⟨trivial, hs⟩
  | otherReaps pid =>
    simp only [step] at h
    split_ifs at h
    cases h
    exact ⟨trivial, hs⟩

/-! ## Every run -/

/-- In every orderly run, each step kills and reaps only a child of the object that is
not reaped, the object has at most one such child, and it records its pid or 0. -/
theorem one_child_is_owned (es : List SysEvent) (hG : Meets step Orderly {} es) :
    Always step OwnsItsChild {} es :=
  always_of_inv (G := Orderly) (I := Recorded) (P := OwnsItsChild)
    (fun _ _ _ _ hs hg h => step_recorded hs hg h) rfl hG

/-- A first child is cancelled, and the pipe of a second one ends before it exits. -/
theorem two_children_in_order :
    Always step OwnsItsChild {}
      [.otherForks 7, .call (.authenticate "root" forked) none, .exits 7,
        .call .cancelAuthentication none, .otherReaps 7,
        .call (.authenticate "root" forked) none, .call (.pipeActivated none) none] := by
  refine one_child_is_owned _ ?_
  refine meets_cons rfl trivial <| meets_cons rfl (fun _ _ _ => Or.inr rfl) <|
    meets_cons rfl trivial <| meets_cons rfl trivial <| meets_cons rfl trivial <|
    meets_cons rfl (fun _ _ _ => Or.inr rfl) <| meets_cons rfl rfl meets_nil

/-- The exit of the child reaps it, and the cancel after it kills its pid. -/
theorem a_cancel_kills_the_reaped_child :
    ¬ Always step OwnsItsChild {}
      [.call (.authenticate "root" forked) none, .exits 100,
        .call (.pipeActivated none) (some 100), .call .cancelAuthentication none] := by
  intro h
  have hcancel := (((h _ _ rfl).2 _ _ rfl).2 _ _ rfl).2 _ _ rfl
  exact absurd hcancel.1.1 (by decide)

end session_guard.pam_children
