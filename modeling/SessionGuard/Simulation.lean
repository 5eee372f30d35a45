-- One machine follows another: each step of the first is a run of the second, from related states
-- to related states and with the same output. So is each of its runs.
import SessionGuard.Machine

namespace machine

variable {S T E F O P : Type*} {step : Step S E O} {step' : Step T F O} {R : S → T → Prop}

/-- A step of the first machine, when it meets `G`, is a run of the second. -/
def Follows (step : Step S E O) (step' : Step T F O) (G : S → E → Prop) (R : S → T → Prop) : Prop :=
  ∀ s t e s1 o, R s t → G s e → step s e = some (s1, o) →
    ∃ fs t1, run step' t fs = some (t1, o) ∧ R s1 t1

/-- A run in which each step meets `G` is a run of the second machine. -/
theorem run_follows {G : S → E → Prop} (hstep : Follows step step' G R) {s s1 : S} {t : T}
    {es : List E} {o : List O} (h : R s t) (hG : Meets step G s es)
    (hrun : run step s es = some (s1, o)) :
    ∃ fs t1, run step' t fs = some (t1, o) ∧ R s1 t1 := by
  induction es generalizing s t o with
  | nil =>
    cases hrun
    exact ⟨[], t, rfl, h⟩
  | cons e es ih =>
    obtain ⟨s2, o1, o2, h1, h2, rfl⟩ := run_cons_iff.mp hrun
    obtain ⟨hg, hrest⟩ := hG s2 o1 h1
    obtain ⟨fs, t2, hfs, hrel⟩ := hstep s t e s2 o1 h hg h1
    obtain ⟨gs, t1, hgs, hend⟩ := ih hrel hrest h2
    exact ⟨fs ++ gs, t1, run_append_iff.mpr ⟨t2, o1, o2, hfs, hgs, rfl⟩, hend⟩

/-- When each step also makes the work less, no run is longer than the work. -/
theorem run_follows_le {work : S → T → Nat}
    (hstep : ∀ s t e s1 o, R s t → step s e = some (s1, o) →
      ∃ fs t1, run step' t fs = some (t1, o) ∧ R s1 t1 ∧ work s1 t1 < work s t)
    {s s1 : S} {t : T} {es : List E} {o : List O} (h : R s t)
    (hrun : run step s es = some (s1, o)) :
    ∃ fs t1, run step' t fs = some (t1, o) ∧ R s1 t1 ∧ es.length + work s1 t1 ≤ work s t := by
  induction es generalizing s t o with
  | nil =>
    cases hrun
    exact ⟨[], t, rfl, h, by simp⟩
  | cons e es ih =>
    obtain ⟨s2, o1, o2, h1, h2, rfl⟩ := run_cons_iff.mp hrun
    obtain ⟨fs, t2, hfs, hrel, hlt⟩ := hstep s t e s2 o1 h h1
    obtain ⟨gs, t1, hgs, hend, hle⟩ := ih hrel h2
    refine ⟨fs ++ gs, t1, run_append_iff.mpr ⟨t2, o1, o2, hfs, hgs, rfl⟩, hend, ?_⟩
    rw [List.length_cons]
    omega

/-! ## A part of the output -/

/-- The machine of which only what `f` sees is put out. -/
def viewed (f : P → Option O) (step : Step S E P) : Step S E O :=
  fun s e => (step s e).map fun r => (r.1, r.2.filterMap f)

theorem run_viewed {f : P → Option O} {step : Step S E P} {s t : S} {es : List E} {o : List P}
    (h : run step s es = some (t, o)) : run (viewed f step) s es = some (t, o.filterMap f) := by
  induction es generalizing s o with
  | nil =>
    cases h
    rfl
  | cons e es ih =>
    obtain ⟨s1, o1, o2, h1, h2, rfl⟩ := run_cons_iff.mp h
    rw [List.filterMap_append]
    exact run_cons_iff.mpr ⟨s1, _, _, by simp [viewed, h1], ih h2, rfl⟩

/-! ## What a run hands on -/

/-- When each step hands on, in order, what it takes in and what was held, so does the run. -/
theorem run_hands_on {A : Type*} {step : Step S E O} {I : S → Prop} {held : S → List A}
    {taken given : O → Option A}
    (hstep : ∀ s e t o, I s → step s e = some (t, o) →
      I t ∧ held s ++ o.filterMap taken = o.filterMap given ++ held t)
    {s t : S} {es : List E} {o : List O} (hs : I s) (h : run step s es = some (t, o)) :
    I t ∧ held s ++ o.filterMap taken = o.filterMap given ++ held t := by
  induction es generalizing s o with
  | nil =>
    cases h
    exact ⟨hs, by simp⟩
  | cons e es ih =>
    obtain ⟨s1, o1, o2, h1, h2, rfl⟩ := run_cons_iff.mp h
    obtain ⟨hs1, heq1⟩ := hstep s e s1 o1 hs h1
    obtain ⟨ht, heq2⟩ := ih hs1 h2
    refine ⟨ht, ?_⟩
    rw [List.filterMap_append, List.filterMap_append, ← List.append_assoc, heq1, List.append_assoc,
      heq2, List.append_assoc]

/-- What each step counts of its event and of its output, the run counts of all of them. -/
theorem run_count {step : Step S E O} {I : S → Prop} {f : S → Nat} {p : E → Bool} {q : O → Bool}
    (hstep : ∀ s e t o, I s → step s e = some (t, o) →
      I t ∧ f t = f s + [e].countP p + o.countP q)
    {s t : S} {es : List E} {o : List O} (hs : I s) (h : run step s es = some (t, o)) :
    f t = f s + es.countP p + o.countP q := by
  induction es generalizing s o with
  | nil =>
    cases h
    simp
  | cons e es ih =>
    obtain ⟨s1, o1, o2, h1, h2, rfl⟩ := run_cons_iff.mp h
    obtain ⟨hs1, hone⟩ := hstep s e s1 o1 hs h1
    have hrest := ih hs1 h2
    rw [List.countP_append, ← List.singleton_append, List.countP_append]
    omega

end machine
