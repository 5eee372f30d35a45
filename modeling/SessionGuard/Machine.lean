-- Machines and their runs: a step takes an event and may put something
-- out. An invariant that each step keeps holds after every run, and a law
-- of each step holds along every run.
import Mathlib.Data.List.Basic
import Mathlib.Tactic.Common

namespace machine

variable {S E O H : Type*}

/-! ## Steps and runs -/

/-- One step of a machine: the next state and what the step puts out, or
`none` when the event cannot happen in the state. -/
abbrev Step (S E O : Type*) := S → E → Option (S × List O)

/-- The run of a machine over a list of events. -/
def run (step : Step S E O) : S → List E → Option (S × List O)
  | s, [] => some (s, [])
  | s, e :: es =>
    match step s e with
    | none => none
    | some (s1, o1) => (run step s1 es).map fun (s2, o2) => (s2, o1 ++ o2)

@[simp] theorem run_nil (step : Step S E O) (s : S) : run step s [] = some (s, []) := rfl

theorem run_cons_iff {step : Step S E O} {s t : S} {e : E} {es : List E} {o : List O} :
    run step s (e :: es) = some (t, o) ↔
      ∃ s1 o1 o2, step s e = some (s1, o1) ∧ run step s1 es = some (t, o2) ∧ o = o1 ++ o2 := by
  simp only [run]
  rcases h : step s e with _ | ⟨s1, o1⟩
  · simp
  · simp only [Option.map_eq_some_iff, Prod.mk.injEq, Prod.exists, Option.some.injEq]
    constructor
    · rintro ⟨s2, o2, hr, rfl, rfl⟩
      exact ⟨s1, o1, o2, ⟨rfl, rfl⟩, hr, rfl⟩
    · rintro ⟨s1', o1', o2, ⟨rfl, rfl⟩, hr, rfl⟩
      exact ⟨t, o2, hr, rfl, rfl⟩

theorem run_append_iff {step : Step S E O} {s t : S} {xs ys : List E} {o : List O} :
    run step s (xs ++ ys) = some (t, o) ↔
      ∃ s1 o1 o2, run step s xs = some (s1, o1) ∧ run step s1 ys = some (t, o2) ∧
        o = o1 ++ o2 := by
  induction xs generalizing s o with
  | nil => simp
  | cons e xs ih =>
    rw [List.cons_append, run_cons_iff]
    constructor
    · rintro ⟨s1, o1, o2, hs, hr, rfl⟩
      obtain ⟨s2, o3, o4, h3, h4, rfl⟩ := ih.mp hr
      exact ⟨s2, o1 ++ o3, o4, run_cons_iff.mpr ⟨s1, o1, o3, hs, h3, rfl⟩, h4, by simp⟩
    · rintro ⟨s2, o12, o4, h12, h4, rfl⟩
      obtain ⟨s1, o1, o3, hs, h3, rfl⟩ := run_cons_iff.mp h12
      exact ⟨s1, o1, o3 ++ o4, hs, ih.mpr ⟨s2, o3, o4, h3, h4, rfl⟩, by simp⟩

/-! ## Laws along a run -/

/-- Each step of the run, as far as it goes, keeps the law `P`. -/
def Always (step : Step S E O) (P : S → E → List O → S → Prop) : S → List E → Prop
  | _, [] => True
  | s, e :: es => ∀ s1 o1, step s e = some (s1, o1) → P s e o1 s1 ∧ Always step P s1 es

/-- Each step of the run is taken in a state where the event meets `G`. -/
def Meets (step : Step S E O) (G : S → E → Prop) : S → List E → Prop :=
  Always step fun s e _ _ => G s e

/-- What holds along a run holds along the rest of it. -/
theorem always_rest {step : Step S E O} {P : S → E → List O → S → Prop} {s t : S}
    (xs ys : List E) {o : List O} (h : run step s xs = some (t, o))
    (hP : Always step P s (xs ++ ys)) : Always step P t ys := by
  induction xs generalizing s o with
  | nil =>
    simp only [run_nil, Option.some.injEq, Prod.mk.injEq] at h
    exact h.1 ▸ hP
  | cons e xs ih =>
    obtain ⟨s1, o1, o2, h1, h2, -⟩ := run_cons_iff.mp h
    exact ih h2 (hP s1 o1 h1).2

/-- An invariant that each step keeps, while the steps meet `G`, holds after
the run. -/
theorem run_inv_of_meets {step : Step S E O} {G : S → E → Prop} {I : S → Prop}
    (hstep : ∀ s e s1 o1, I s → G s e → step s e = some (s1, o1) → I s1)
    {s t : S} {es : List E} {o : List O} (hs : I s) (hG : Meets step G s es)
    (h : run step s es = some (t, o)) : I t := by
  induction es generalizing s o with
  | nil => simp at h; exact h.1 ▸ hs
  | cons e es ih =>
    obtain ⟨s1, o1, o2, h1, h2, rfl⟩ := run_cons_iff.mp h
    obtain ⟨hg, hrest⟩ := hG s1 o1 h1
    exact ih (hstep s e s1 o1 hs hg h1) hrest h2

theorem meets_nil {step : Step S E O} {G : S → E → Prop} {s : S} : Meets step G s [] := trivial

theorem meets_cons {step : Step S E O} {G : S → E → Prop} {s s1 : S} {e : E} {es : List E}
    {o1 : List O} (h : step s e = some (s1, o1)) (hg : G s e) (hrest : Meets step G s1 es) :
    Meets step G s (e :: es) := by
  intro s2 o2 h2
  obtain ⟨rfl, rfl⟩ := Prod.mk.inj (Option.some.inj (h.symm.trans h2))
  exact ⟨hg, hrest⟩

theorem meets_append {step : Step S E O} {G : S → E → Prop} {s t : S} {xs ys : List E} {o : List O}
    (h : run step s xs = some (t, o)) (hx : Meets step G s xs) (hy : Meets step G t ys) :
    Meets step G s (xs ++ ys) := by
  induction xs generalizing s o with
  | nil =>
    simp only [run_nil, Option.some.injEq, Prod.mk.injEq] at h
    exact h.1 ▸ hy
  | cons e xs ih =>
    obtain ⟨s1, o1, o2, h1, h2, -⟩ := run_cons_iff.mp h
    obtain ⟨hg, hrest⟩ := hx s1 o1 h1
    exact meets_cons h1 hg (ih h2 hrest)

theorem meets_of_forall {step : Step S E O} {G : S → E → Prop} {s : S} {es : List E}
    (h : ∀ e ∈ es, ∀ s, G s e) : Meets step G s es := by
  induction es generalizing s with
  | nil => trivial
  | cons e es ih =>
    exact fun s1 o1 _ =>
      ⟨h e List.mem_cons_self s, ih fun e he => h e (List.mem_cons_of_mem _ he)⟩

theorem meets_true {step : Step S E O} {s : S} {es : List E} :
    Meets step (fun _ _ => True) s es := meets_of_forall fun _ _ _ => trivial

/-- Whether the events of a run meet `G` can be computed along it. -/
instance Meets.decidable {step : Step S E O} {G : S → E → Prop} [∀ s e, Decidable (G s e)] :
    ∀ s es, Decidable (Meets step G s es)
  | _, [] => .isTrue trivial
  | s, e :: es =>
    match h : step s e with
    | none => .isTrue fun s1 o1 h1 => by simp [h] at h1
    | some (s1, o1) =>
      have : Decidable (Meets step G s1 es) := Meets.decidable s1 es
      decidable_of_iff (G s e ∧ Meets step G s1 es)
        ⟨fun hG => meets_cons h hG.1 hG.2, fun hG => hG s1 o1 h⟩

/-- An invariant that each step keeps holds after the run. -/
theorem run_inv {step : Step S E O} {I : S → Prop}
    (hstep : ∀ s e s1 o1, I s → step s e = some (s1, o1) → I s1)
    {s t : S} {es : List E} {o : List O} (hs : I s) (h : run step s es = some (t, o)) :
    I t :=
  run_inv_of_meets (fun s e s1 o1 hi _ => hstep s e s1 o1 hi) hs meets_true h

/-- With an invariant, a law of each step holds along the run. -/
theorem always_of_inv {step : Step S E O} {G : S → E → Prop} {I : S → Prop}
    {P : S → E → List O → S → Prop}
    (hstep : ∀ s e s1 o1, I s → G s e → step s e = some (s1, o1) → I s1 ∧ P s e o1 s1)
    {s : S} {es : List E} (hs : I s) (hG : Meets step G s es) : Always step P s es := by
  induction es generalizing s with
  | nil => trivial
  | cons e es ih =>
    intro s1 o1 h1
    obtain ⟨hg, hrest⟩ := hG s1 o1 h1
    obtain ⟨hi, hp⟩ := hstep s e s1 o1 hs hg h1
    exact ⟨hp, ih hi hrest⟩

/-- Where each step keeps the law exactly when it meets `G`, the law holds along a run
exactly when the run meets `G`. -/
theorem always_iff_meets {step : Step S E O} {G : S → E → Prop} {I : S → Prop}
    {P : S → E → List O → S → Prop}
    (hlaw : ∀ s e s1 o1, I s → step s e = some (s1, o1) → (P s e o1 s1 ↔ G s e))
    (hkeep : ∀ s e s1 o1, I s → G s e → step s e = some (s1, o1) → I s1)
    {s : S} {es : List E} (hs : I s) : Always step P s es ↔ Meets step G s es := by
  induction es generalizing s with
  | nil => exact Iff.rfl
  | cons e es ih =>
    refine forall_congr' fun s1 => forall_congr' fun o1 => forall_congr' fun h1 => ?_
    rw [hlaw s e s1 o1 hs h1]
    exact and_congr_right fun hg => ih (hkeep s e s1 o1 hs hg h1)

/-- Where each step keeps a property exactly when it meets `G`, the property is left at the end of a
run exactly when the run meets `G`. -/
theorem run_keeps_iff_meets {step : Step S E O} {G : S → E → Prop} {I : S → Prop}
    (hstep : ∀ s e s1 o1, step s e = some (s1, o1) → (I s1 ↔ I s ∧ G s e))
    {s t : S} {es : List E} {o : List O} (h : run step s es = some (t, o)) :
    I t ↔ I s ∧ Meets step G s es := by
  induction es generalizing s o with
  | nil =>
    simp only [run_nil, Option.some.injEq, Prod.mk.injEq] at h
    rw [← h.1]
    exact (and_iff_left meets_nil).symm
  | cons e es ih =>
    obtain ⟨s1, o1, o2, h1, h2, -⟩ := run_cons_iff.mp h
    rw [ih h2, hstep s e s1 o1 h1, and_assoc]
    refine and_congr_right fun _ => ⟨fun ⟨hg, hrest⟩ => meets_cons h1 hg hrest, fun hG => ?_⟩
    exact hG s1 o1 h1

/-! ## What a run puts out -/

/-- What a run puts out, or `none` when it cannot be made. -/
def outputs (step : Step S E O) (s : S) (es : List E) : Option (List O) :=
  (run step s es).map Prod.snd

theorem outputs_eq_some {step : Step S E O} {s : S} {es : List E} {o : List O} :
    outputs step s es = some o ↔ ∃ t, run step s es = some (t, o) := by
  simp [outputs]

/-- States that take the same steps, with the same outputs, cannot be told apart. -/
theorem outputs_eq_of_bisim {step : Step S E O} {R : S → S → Prop} (hsymm : ∀ s t, R s t → R t s)
    (hstep : ∀ s t e s1 o, R s t → step s e = some (s1, o) →
      ∃ t1, step t e = some (t1, o) ∧ R s1 t1)
    {s t : S} (h : R s t) (es : List E) : outputs step s es = outputs step t es := by
  have hrun : ∀ es s t s1 o, R s t → run step s es = some (s1, o) →
      ∃ t1, run step t es = some (t1, o) := by
    intro es
    induction es with
    | nil =>
      intro s t s1 o _ h1
      cases h1
      exact ⟨t, rfl⟩
    | cons e es ih =>
      intro s t s1 o h h1
      obtain ⟨s2, o1, o2, h2, h3, rfl⟩ := run_cons_iff.mp h1
      obtain ⟨t2, ht2, hrel⟩ := hstep s t e s2 o1 h h2
      obtain ⟨t1, ht1⟩ := ih s2 t2 s1 o2 hrel h3
      exact ⟨t1, run_cons_iff.mpr ⟨t2, o1, o2, ht2, ht1, rfl⟩⟩
  apply Option.ext
  intro o
  rw [outputs_eq_some, outputs_eq_some]
  constructor
  · rintro ⟨s1, h1⟩
    exact hrun es s t s1 o h h1
  · rintro ⟨t1, h1⟩
    exact hrun es t s t1 o (hsymm s t h) h1

/-- What each step adds to a flag, the run adds to it. -/
theorem run_flag {step : Step S E O} {f : S → Bool} {p : O → Bool}
    (hstep : ∀ s e s1 o, step s e = some (s1, o) → f s1 = (f s || o.any p))
    {s t : S} {es : List E} {o : List O} (h : run step s es = some (t, o)) :
    f t = (f s || o.any p) := by
  induction es generalizing s o with
  | nil =>
    cases h
    simp
  | cons e es ih =>
    obtain ⟨s1, o1, o2, h1, h2, rfl⟩ := run_cons_iff.mp h
    rw [ih h2, hstep s e s1 o1 h1, List.any_append, Bool.or_assoc]

/-! ## The end of a run -/

/-- No event can happen. -/
def Stuck (step : Step S E O) (s : S) : Prop := ∀ e, step s e = none

/-- When each step makes the work smaller, no run is longer than the work. -/
theorem run_length_le {step : Step S E O} {I : S → Prop} {work : S → Nat}
    (hstep : ∀ s e s1 o1, I s → step s e = some (s1, o1) → I s1 ∧ work s1 < work s)
    {s t : S} {es : List E} {o : List O} (hs : I s) (h : run step s es = some (t, o)) :
    es.length + work t ≤ work s := by
  induction es generalizing s o with
  | nil => simp at h; simp [h.1]
  | cons e es ih =>
    obtain ⟨s1, o1, o2, h1, h2, -⟩ := run_cons_iff.mp h
    obtain ⟨hi, hlt⟩ := hstep s e s1 o1 hs h1
    have := ih hi h2
    simp only [List.length_cons]
    omega

end machine
