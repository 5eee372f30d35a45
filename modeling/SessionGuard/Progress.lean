-- Where a machine gets to: what some run reaches, what some run puts out, and what every
-- run that is long enough has done. Each is shown by work that becomes less.
import SessionGuard.Machine

namespace machine

variable {S E O : Type*} {step : Step S E O} {P Q : S → Prop}

/-! ## What some run does -/

/-- Some run from the state ends where `P` holds. -/
def Reaches (step : Step S E O) (P : S → Prop) (s : S) : Prop :=
  ∃ es t o, run step s es = some (t, o) ∧ P t

/-- Some run from the state puts `x` out. -/
def Offers (step : Step S E O) (x : O) (s : S) : Prop :=
  ∃ es t o, run step s es = some (t, o) ∧ x ∈ o

theorem Reaches.now {s : S} (h : P s) : Reaches step P s := ⟨[], s, [], rfl, h⟩

theorem Reaches.mono {s : S} (h : Reaches step P s) (hpq : ∀ t, P t → Q t) :
    Reaches step Q s := by
  obtain ⟨es, t, o, hr, ht⟩ := h
  exact ⟨es, t, o, hr, hpq t ht⟩

theorem Reaches.next {s s1 : S} {e : E} {o : List O} (h : step s e = some (s1, o))
    (hrest : Reaches step P s1) : Reaches step P s := by
  obtain ⟨es, t, o2, hr, ht⟩ := hrest
  exact ⟨e :: es, t, o ++ o2, run_cons_iff.mpr ⟨s1, o, o2, h, hr, rfl⟩, ht⟩

theorem Reaches.trans {s : S} (h : Reaches step P s) (hrest : ∀ t, P t → Reaches step Q t) :
    Reaches step Q s := by
  obtain ⟨xs, t, o1, hx, ht⟩ := h
  obtain ⟨ys, u, o2, hy, hu⟩ := hrest t ht
  exact ⟨xs ++ ys, u, o1 ++ o2, run_append_iff.mpr ⟨t, o1, o2, hx, hy, rfl⟩, hu⟩

theorem Reaches.offers {s : S} {x : O} (h : Reaches step P s)
    (hrest : ∀ t, P t → Offers step x t) : Offers step x s := by
  obtain ⟨xs, t, o1, hx, ht⟩ := h
  obtain ⟨ys, u, o2, hy, hmem⟩ := hrest t ht
  exact ⟨xs ++ ys, u, o1 ++ o2, run_append_iff.mpr ⟨t, o1, o2, hx, hy, rfl⟩,
    List.mem_append_right o1 hmem⟩

theorem Offers.next {s s1 : S} {e : E} {o : List O} {x : O} (h : step s e = some (s1, o))
    (hrest : Offers step x s1) : Offers step x s := by
  obtain ⟨es, t, o2, hr, hmem⟩ := hrest
  exact ⟨e :: es, t, o ++ o2, run_cons_iff.mpr ⟨s1, o, o2, h, hr, rfl⟩,
    List.mem_append_right o hmem⟩

/-- A machine that takes more steps reaches and puts out more. -/
theorem run_of_steps {step1 step2 : Step S E O}
    (h : ∀ s e r, step1 s e = some r → step2 s e = some r) {s t : S} {es : List E} {o : List O}
    (hrun : run step1 s es = some (t, o)) : run step2 s es = some (t, o) := by
  induction es generalizing s o with
  | nil => exact hrun
  | cons e es ih =>
    obtain ⟨s1, o1, o2, h1, h2, rfl⟩ := run_cons_iff.mp hrun
    exact run_cons_iff.mpr ⟨s1, o1, o2, h s e _ h1, ih h2, rfl⟩

theorem Offers.of_steps {step1 step2 : Step S E O}
    (h : ∀ s e r, step1 s e = some r → step2 s e = some r) {s : S} {x : O}
    (hx : Offers step1 x s) : Offers step2 x s := by
  obtain ⟨es, t, o, hr, hmem⟩ := hx
  exact ⟨es, t, o, run_of_steps h hr, hmem⟩

/-- What no step puts out where an invariant holds, no run does. -/
theorem not_offers {I : S → Prop} {x : O}
    (hstep : ∀ s e s1 o, I s → step s e = some (s1, o) → I s1 ∧ x ∉ o) {s : S} (hs : I s) :
    ¬ Offers step x s := by
  rintro ⟨es, t, o, hr, hmem⟩
  induction es generalizing s o with
  | nil =>
    cases hr
    cases hmem
  | cons e es ih =>
    obtain ⟨s1, o1, o2, h1, h2, rfl⟩ := run_cons_iff.mp hr
    obtain ⟨hs1, hx⟩ := hstep s e s1 o1 hs h1
    rcases List.mem_append.mp hmem with hmem | hmem
    · exact hx hmem
    · exact ih hs1 o2 h2 hmem

/-- When there is always a step that makes the work less, until `P` holds, it comes to hold. -/
theorem reaches_of_progress {I : S → Prop} (work : S → Nat)
    (hstep : ∀ s, I s → ¬ P s → ∃ e s1 o, step s e = some (s1, o) ∧ I s1 ∧ work s1 < work s)
    {s : S} (hs : I s) : Reaches step (fun t => I t ∧ P t) s := by
  induction hn : work s using Nat.strongRecOn generalizing s with
  | ind n ih =>
    by_cases hp : P s
    · exact .now ⟨hs, hp⟩
    · obtain ⟨e, s1, o, h1, hs1, hlt⟩ := hstep s hs hp
      exact .next h1 (ih (work s1) (hn ▸ hlt) hs1 rfl)

/-! ## What every long run has done -/

/-- When each step takes one off the work, as long as there is some, so does a run. -/
theorem run_work_le {I : S → Prop} {work : S → Nat} {es : List E}
    (hstep : ∀ s, ∀ e ∈ es, ∀ s1 o, I s → step s e = some (s1, o) →
      I s1 ∧ work s1 ≤ work s - 1)
    {s t : S} {o : List O} (hs : I s) (h : run step s es = some (t, o)) :
    I t ∧ work t ≤ work s - es.length := by
  induction es generalizing s o with
  | nil =>
    cases h
    exact ⟨hs, Nat.le_refl _⟩
  | cons e es ih =>
    obtain ⟨s1, o1, o2, h1, h2, -⟩ := run_cons_iff.mp h
    obtain ⟨hs1, hle⟩ := hstep s e List.mem_cons_self s1 o1 hs h1
    obtain ⟨ht, hrest⟩ := ih (fun s e he => hstep s e (List.mem_cons_of_mem _ he)) hs1 h2
    refine ⟨ht, ?_⟩
    rw [List.length_cons]
    omega

end machine
