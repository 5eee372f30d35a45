-- When the lock screen can still be left, and when no run leaves it any more. Beside a main thread
-- that waits for a permit for ever, it is lost exactly when nothing is left that ends the attempt
-- or begins another one.
import SessionGuard.LockScreenRecovery

open machine

namespace session_guard.lock_screen

open pam_message auth_pam auth_msg_queue auth_proxy auth_runs checkpass prompt_edit queue_liveness
open queue_deadlock (Blocked)

variable (env : Env)

/-! ## What is left -/

/-- A reply for the child is there, or the user can still give one: a prompt is on its way, or the
last one that was shown is PAM's. -/
def Replies (s : Sys) : Prop :=
  s.toChild ≠ [] ∨ (∃ f ∈ s.toParent, requests f = true) ∨
    (∃ e ∈ s.queue.flight, isPamPrompt e = true) ∨
    (s.proxy.m_promptFrom = .PAM ∧ s.dialog.promptEdit.takesClicks = true)

/-- What can still end the attempt, or begin another one. -/
inductive Hopeful (s : Sys) : Prop
  /-- A completion is on its way to the dialog. -/
  | completes (h : ¬ Silent s.queue)
  | button (h : s.dialog.btn_reAuth_visible = true)
  /-- The end of the pipe still counts as a failure. -/
  | unsent (hn : s.pam.m_socketNotifier.isSome = true) (h : s.pam.m_hasSendCompleteSignal = false)
  /-- The child has sent its completion. -/
  | sent (hn : s.pam.m_socketNotifier.isSome = true) (hwhole : none ∉ s.toParent) (f : Frame)
    (hf : f ∈ s.toParent) (hc : completes f = true)
  /-- The child lives, and does not wait in vain. -/
  | child (h : Asking s) (hgo : waits s.child = false ∨ Replies s)

/-! ## It is enough -/

theorem hopeful_unlocks {s : Sys} (hs : Sound s) (hfree : ¬ Blocked s.queue) (h : Hopeful s) :
    Offers (dialogStep env) .authenticationPassed s := by
  by_cases hbtn : s.dialog.btn_reAuth_visible = true
  · exact button_unlocks env hs hfree hbtn
  · have hhidden := Bool.eq_false_iff.mpr hbtn
    cases h with
    | completes h => exact completion_unlocks env hs hfree h
    | button h => exact button_unlocks env hs hfree h
    | unsent hn h =>
      have hend : ∀ t, Sound t ∧ ¬ Blocked t.queue ∧ ¬ Silent t.queue →
          Offers (dialogStep env) .authenticationPassed t := by
        rintro t ⟨ht, hfree1, hloud⟩
        exact completion_unlocks env ht hfree1 hloud
      by_cases halive : s.childAlive = true
      · -- the child may die
        have hdie := dialogStep_child env halive (show s.childStep .die = some _ from rfl)
        obtain ⟨hsound, -⟩ := dialogStep_sound env hs hdie
        exact .next hdie ((end_read env hsound hfree hn rfl h).offers hend)
      · exact (end_read env hs hfree hn (by simpa using halive) h).offers hend
    | sent hn hwhole f hf hc =>
      obtain ⟨complete, b, text, fs, hp, hfs⟩ := completion_last hs hf hc hwhole
      refine (completion_read env hs hfree hn hp hfs).offers ?_
      rintro t ⟨ht, hfree1, hloud, -⟩
      exact completion_unlocks env ht hfree1 hloud
    | child h hgo =>
      rcases hgo with hgo | hreply | hrequest | hprompt | ⟨hfrom, hclicks⟩
      · exact promising_unlocks env hs hfree ⟨h.watched, h.whole, h.alive, Or.inl hgo⟩
      · exact promising_unlocks env hs hfree (h.promising hreply)
      · exact request_unlocks env hs hfree h hhidden hrequest
      · exact prompt_unlocks env hs hfree h hhidden hprompt
      · refine (gets_back env hs hfree).offers ?_
        rintro t ⟨ht, hloop⟩
        obtain ⟨d, rfl⟩ := ht.rest
        exact answer_unlocks env ht.sound hloop (h.apart ht.apart) hfrom hclicks

/-! ## Without it, nothing helps -/

/-- Nothing is left. -/
structure Hopeless (s : Sys) : Prop where
  silent : Silent s.queue
  button : s.dialog.btn_reAuth_visible = false
  flag : s.pam.m_socketNotifier.isSome = true → s.pam.m_hasSendCompleteSignal = true
  frames : s.pam.m_socketNotifier.isSome = true → none ∉ s.toParent →
    ∀ f ∈ s.toParent, completes f = false
  child : Asking s → waits s.child = true ∧ ¬ Replies s

theorem not_hopeful_iff {s : Sys} : ¬ Hopeful s ↔ Hopeless s := by
  constructor
  · intro h
    refine ⟨?_, ?_, ?_, ?_, ?_⟩
    · by_contra hloud
      exact h (.completes hloud)
    · exact Bool.eq_false_iff.mpr fun hbtn => h (.button hbtn)
    · intro hn
      by_contra hsent
      exact h (.unsent hn (by simpa using hsent))
    · intro hn hwhole f hf
      exact Bool.eq_false_iff.mpr fun hc => h (.sent hn hwhole f hf hc)
    · intro hasking
      constructor
      · by_contra hgo
        exact h (.child hasking (Or.inl (by simpa using hgo)))
      · exact fun hreply => h (.child hasking (Or.inr hreply))
  · rintro ⟨hsilent, hbtn, hflag, hframes, hchild⟩ h
    cases h with
    | completes h => exact h hsilent
    | button h => exact absurd (hbtn.symm.trans h) (by simp)
    | unsent hn h => exact absurd (h.symm.trans (hflag hn)) (by simp)
    | sent hn hwhole f hf hc => exact absurd ((hframes hn hwhole f hf).symm.trans hc) (by simp)
    | child h hgo =>
      obtain ⟨hwaits, hno⟩ := hchild h
      rcases hgo with hgo | hreply
      · exact absurd (hgo.symm.trans hwaits) (by simp)
      · exact hno hreply

/-- An event that leaves the attempt as it is, and brings no reply. -/
structure Stays (s t : Sys) : Prop where
  pam : t.pam = s.pam := by rfl
  child : t.child = s.child := by rfl
  childAlive : t.childAlive = s.childAlive := by rfl
  toParent : t.toParent = s.toParent := by rfl
  button : t.dialog.btn_reAuth_visible = s.dialog.btn_reAuth_visible := by rfl
  silent : Silent s.queue → Silent t.queue := by exact id
  replies : Asking s → Replies t → Replies s

theorem Hopeless.stays {s t : Sys} (hs : Hopeless s) (h : Stays s t) : Hopeless t := by
  refine ⟨h.silent hs.silent, h.button.trans hs.button, ?_, ?_, ?_⟩
  · rw [h.pam]
    exact hs.flag
  · rw [h.pam, h.toParent]
    exact hs.frames
  · rintro ⟨h1, h2, h3⟩
    have hasking : Asking s := ⟨h.pam ▸ h1, h.toParent ▸ h2, h.childAlive ▸ h3⟩
    obtain ⟨hwaits, hno⟩ := hs.child hasking
    rw [h.child]
    exact ⟨hwaits, fun hr => hno (h.replies hasking hr)⟩

/-- The flags of the edit and what the queue holds decide whether a reply can come. -/
theorem replies_of {s t : Sys} (h : Replies t) (hchild : t.toChild = s.toChild)
    (hparent : t.toParent = s.toParent)
    (hflight : ∀ e ∈ t.queue.flight, isPamPrompt e = true → e ∈ s.queue.flight)
    (hfrom : t.proxy.m_promptFrom = .PAM → t.dialog.promptEdit.takesClicks = true →
      s.proxy.m_promptFrom = .PAM ∧ s.dialog.promptEdit.takesClicks = true) : Replies s := by
  rcases h with h | h | ⟨e, he, hp⟩ | ⟨h1, h2⟩
  · exact Or.inl (hchild ▸ h)
  · exact Or.inr (Or.inl (hparent ▸ h))
  · exact Or.inr (Or.inr (Or.inl ⟨e, hflight e he hp, hp⟩))
  · exact Or.inr (Or.inr (Or.inr (hfrom h1 h2)))

/-- A waiting child takes a reply, and nothing else. -/
theorem waits_step {c c1 : Child} {act : Act} {events : List PamEvent} (hw : waits c = true)
    (h : c.step act = some (c1, events)) : ∃ r, act = .recv r := by
  cases Child.steps_of_step h with
  | receives text hpc => exact ⟨_, rfl⟩
  | recvFails hpc hno => exact ⟨_, rfl⟩
  | starts ok hpc => simp [waits, hpc] at hw
  | calls msgs hpc => simp [waits, hpc] at hw
  | sendFails hpc => simp [waits, hpc] at hw
  | sends hpc => simp [waits, hpc] at hw
  | skips hpc => simp [waits, hpc] at hw
  | returns hpc => simp [waits, hpc] at hw
  | finishes authRes getItem text hpc => simp [waits, hpc] at hw

/-- Nobody reads what the child sends, or it waits in vain. -/
theorem hopeless_child {s t : Sys} {e : ChildEvent} (hs : Hopeless s) (hsound : Sound s)
    (halive : s.childAlive = true) (h : s.childStep e = some t) : Hopeless t := by
  obtain ⟨hpam, hqueue, hdialog⟩ := childStep_apart h
  -- a broken frame stays in the pipe
  have hbroken : (Asking s → False) → (∃ new, t.toParent = s.toParent ++ new) → Hopeless t := by
    rintro hno ⟨new, hp⟩
    have hwhole : s.pam.m_socketNotifier.isSome = true → none ∈ s.toParent := by
      intro hn
      by_contra hwhole
      exact hno ⟨hn, hwhole, halive⟩
    refine ⟨hqueue ▸ hs.silent, hdialog ▸ hs.button, hpam ▸ hs.flag, ?_, ?_⟩
    · rw [hpam, hp]
      exact fun hn hw => absurd (List.mem_append_left new (hwhole hn)) hw
    · rintro ⟨h1, h2, -⟩
      rw [hpam] at h1
      rw [hp] at h2
      exact absurd (List.mem_append_left new (hwhole h1)) h2
  have hact : ∀ {u : Sys} {act : Act}, u.toParent = s.toParent → u.childAct act = some t →
      ∃ new, t.toParent = s.toParent ++ new := by
    intro u act hu hact
    obtain ⟨c, events, -, rfl⟩ := childAct_eq_some hact
    exact ⟨events.map some, by rw [← hu]⟩
  cases e with
  | die =>
    cases h
    exact ⟨hs.silent, hs.button, hs.flag, hs.frames, fun hasking => by cases hasking.alive⟩
  | garbage =>
    cases h
    refine ⟨hs.silent, hs.button, hs.flag, fun _ hw => ?_, fun hasking => ?_⟩
    · exact absurd (List.mem_append_right _ List.mem_cons_self) hw
    · exact absurd (List.mem_append_right _ List.mem_cons_self) hasking.whole
  | act act =>
    have hchild : (∀ r, act ≠ .recv r) ∧ s.childAct act = some t := by
      cases act with
      | recv r => cases h
      | _ => exact ⟨by simp, h⟩
    refine hbroken (fun hasking => ?_) (hact rfl hchild.2)
    obtain ⟨c, events, hstep, -⟩ := childAct_eq_some hchild.2
    obtain ⟨r, hr⟩ := waits_step (hs.child hasking).1 hstep
    exact hchild.1 r hr
  | recv =>
    unfold Sys.childStep at h
    rcases hp : s.toChild with _ | ⟨⟨event, origin⟩, rest⟩
    · simp only [hp] at h
      split_ifs at h with hin
      refine hbroken (fun hasking => hin ?_) (hact rfl h)
      exact hsound.watched.inv.notified.symm.trans hasking.watched
    · simp only [hp] at h
      refine hbroken (fun hasking => ?_) (hact (u := { s with toChild := rest }) rfl h)
      exact (hs.child hasking).2 (Or.inl (by simp [hp]))

/-- A confirmation goes to the authentication service. -/
theorem hopeless_confirm {s : Sys} (hs : Hopeless s)
    (hclicks : s.dialog.promptEdit.takesClicks = true) :
    Hopeless (s.confirm env s.dialog.promptEdit.slotConfirm) := by
  obtain ⟨hvisible, henabled⟩ := PromptEdit.slotConfirm_flags s.dialog.promptEdit
  have hsame : s.dialog.promptEdit.slotConfirm.1.takesClicks = s.dialog.promptEdit.takesClicks := by
    rw [PromptEdit.takesClicks, hvisible, henabled]
    rfl
  rcases hr : s.dialog.promptEdit.slotConfirm with ⟨e, _ | text⟩ <;> rw [hr] at hsame
  · exact hs.stays
      { replies := fun _ hr =>
          replies_of hr rfl rfl (fun e he _ => he) fun h1 h2 => ⟨h1, hsame ▸ h2⟩ }
  · rw [confirm_eq]
    refine ⟨hs.silent, hs.button, hs.flag, hs.frames, fun hasking => ?_⟩
    obtain ⟨hwaits, hno⟩ := hs.child ⟨hasking.watched, hasking.whole, hasking.alive⟩
    refine ⟨hwaits, fun hr => hno ?_⟩
    have hservice : s.proxy.m_promptFrom = .AUTH_SERVICE := by
      rcases hfrom : s.proxy.m_promptFrom with _ | _
      · exact absurd (Or.inr (Or.inr (Or.inr ⟨hfrom, hclicks⟩))) hno
      · rfl
    refine replies_of hr ?_ rfl (fun e he _ => he) fun h1 h2 => ⟨h1, hsame ▸ h2⟩
    simp [hservice]

/-- What is read ends the attempt without a word, or leaves it as it is. -/
theorem hopeless_pipe {s t : Sys} {k : ForkAnswer} {reply : Option (String × String)}
    {o : List Output} (hs : Hopeless s) (hsound : Sound s)
    (h : s.mainStep env (.pipeActivated k reply) = some (t, o)) : Hopeless t ∧ o = [] := by
  simp only [Sys.mainStep, Option.map_eq_some_iff, Prod.exists] at h
  obtain ⟨f, s1, hr, heq⟩ := h
  obtain ⟨⟨fd, hfd⟩, hread⟩ := readPipe_cases hr
  have hn : s.pam.m_socketNotifier.isSome = true := by simp [hfd]
  have hsame : s1.pam = s.pam ∧ s1.queue = s.queue ∧ s1.dialog = s.dialog := by
    obtain ⟨fs, -, rfl⟩ | ⟨-, -, -, rfl⟩ := hread <;> exact ⟨rfl, rfl, rfl⟩
  obtain ⟨hpam, hqueue, hdialog⟩ := hsame
  rcases f with _ | event
  · have hsent : s1.pam.m_hasSendCompleteSignal = true := hpam ▸ hs.flag hn
    unfold Sys.handleFrame AuthPam.handlePipeActivated Sys.hear at heq
    simp only [handleChildExit_signal, hsent, if_true, Prod.mk.injEq] at heq
    obtain ⟨rfl, rfl⟩ := heq
    have hnone : s1.pam.handleChildExit.1.m_socketNotifier.isSome = true → False := by
      intro hsome
      cases hsome
    exact ⟨⟨hqueue ▸ hs.silent, hdialog ▸ hs.button, fun hsome => (hnone hsome).elim,
      fun hsome => (hnone hsome).elim, fun hasking => (hnone hasking.watched).elim⟩, rfl⟩
  · obtain ⟨fs, hp, rfl⟩ | ⟨-, -, hf, -⟩ := hread
    · have hc : completes (some event) = false := by
        by_cases hwhole : none ∈ s.toParent
        · -- a completion is the last frame
          rw [hp] at hwhole
          rcases List.mem_cons.mp hwhole with hno | hmem
          · cases hno
          · have hframes := hsound.watched.inv.frames
            rw [hp] at hframes
            exact (List.pairwise_cons.mp hframes).1 _ hmem
        · exact hs.frames hn hwhole _ (hp ▸ List.mem_cons_self)
      obtain ⟨htakes, rfl⟩ := handleFrame_takes env (s := { s with toParent := fs })
        hsound.watched.inv.hasQueue hc heq
      have hmem : ∀ {g : Frame}, g ∈ fs → g ∈ s.toParent := fun hg =>
        hp ▸ List.mem_cons_of_mem _ hg
      have hwhole : none ∉ fs → none ∉ s.toParent := by
        intro hno hnone
        rw [hp] at hnone
        rcases List.mem_cons.mp hnone with hnone | hnone
        · cases hnone
        · exact hno hnone
      refine ⟨⟨htakes.silent.mpr hs.silent, ?_, ?_, ?_, ?_⟩, rfl⟩
      · rw [htakes.dialog]
        exact hs.button
      · rw [htakes.pam]
        exact hs.flag
      · rw [htakes.pam, htakes.toParent]
        exact fun hn hno g hg => hs.frames hn (hwhole hno) g (hmem hg)
      · rintro ⟨h1, h2, h3⟩
        rw [htakes.pam] at h1
        rw [htakes.toParent] at h2
        rw [htakes.childAlive] at h3
        obtain ⟨hwaits, hno⟩ := hs.child ⟨h1, hwhole h2, h3⟩
        rw [htakes.child]
        refine ⟨hwaits, fun hreply => hno ?_⟩
        have hquiet : requests (some event) = false := by
          by_contra hrequest
          exact hno (Or.inr (Or.inl ⟨_, hp ▸ List.mem_cons_self, by simpa using hrequest⟩))
        obtain ⟨hchild, hflight⟩ := htakes.quiet hquiet
        rcases hreply with hr | ⟨g, hg, hgr⟩ | ⟨e, he, hpe⟩ | ⟨hfrom, hclicks⟩
        · exact Or.inl (hchild ▸ hr)
        · rw [htakes.toParent] at hg
          exact Or.inr (Or.inl ⟨g, hmem hg, hgr⟩)
        · exact Or.inr (Or.inr (Or.inl ⟨e, hflight e he hpe, hpe⟩))
        · refine Or.inr (Or.inr (Or.inr ⟨?_, ?_⟩))
          · rw [← hfrom]
            exact htakes.promptFrom.symm
          · rw [htakes.dialog] at hclicks
            exact hclicks
    · cases hf

/-- What is delivered is shown, and is no prompt of PAM when the child waits. -/
theorem hopeless_deliver {s t : Sys} {k : ForkAnswer} {o : List Output} (hs : Hopeless s)
    (h : dialogStep env s (.deliver k) = some (t, o)) : Hopeless t ∧ o = [] := by
  obtain ⟨e, d, hd⟩ : ∃ e d, s.queue.deliver = some (e, d) := by
    have hmain := dialogStep_eq env h
    unfold step at hmain
    dsimp only at hmain
    split_ifs at hmain
    simp only [Sys.mainStep, Option.map_eq_some_iff, Prod.exists] at hmain
    obtain ⟨e, d, hd, -⟩ := hmain
    exact ⟨e, d, hd⟩
  have hflight := Dispatch.flight_deliver hd
  have hsilent : Silent s.queue → Silent d := by
    intro hall x hx
    exact hall x (hflight ▸ List.mem_cons_of_mem _ hx)
  have hmem : ∀ x ∈ d.flight, isPamPrompt x = true → x ∈ s.queue.flight := by
    intro x hx _
    exact hflight ▸ List.mem_cons_of_mem _ hx
  obtain ⟨m, heq⟩ := dialogStep_deliver env k hd
  rw [h] at heq
  rcases hm : e.msg with ⟨f, type, text⟩ | ⟨type, text⟩ | b
  · rw [hm] at heq
    cases heq
    refine ⟨hs.stays { silent := hsilent, replies := fun hasking hr => ?_ }, rfl⟩
    obtain ⟨-, hno⟩ := hs.child hasking
    cases f with
    | PAM =>
      have hprompt : isPamPrompt e = true := by simp [isPamPrompt, hm]
      have hin : e ∈ s.queue.flight := by simp [hflight]
      exact absurd (Or.inr (Or.inr (Or.inl ⟨e, hin, hprompt⟩))) hno
    | AUTH_SERVICE => exact replies_of hr rfl rfl hmem fun h1 _ => by cases h1
  · rw [hm] at heq
    cases heq
    have hreplies : ∀ u : Sys, u.toChild = s.toChild → u.toParent = s.toParent → u.queue = d →
        u.proxy = s.proxy → u.dialog.promptEdit = s.dialog.promptEdit → Replies u → Replies s := by
      intro u h1 h2 h3 h4 h5 hr
      refine replies_of hr h1 h2 (h3 ▸ hmem) ?_
      rw [h4, h5]
      exact fun hfrom hclicks => ⟨hfrom, hclicks⟩
    exact ⟨hs.stays { silent := hsilent, replies := fun _ => hreplies _ rfl rfl rfl rfl rfl }, rfl⟩
  · have hno := hs.silent e (by simp [hflight])
    simp [isComplete, hm] at hno

theorem hopeless_main {s t : Sys} {e : Event} {o : List Output} (hs : Hopeless s)
    (hsound : Sound s) (h : dialogStep env s e = some (t, o)) (hmain : s.mainStep env e = some (t, o)) :
    Hopeless t ∧ o = [] := by
  cases e with
  | type text =>
    obtain ⟨e, he, heq⟩ := Option.map_eq_some_iff.mp hmain
    cases heq
    unfold PromptEdit.type at he
    split_ifs at he
    cases he
    refine ⟨hs.stays { replies := fun _ hr => ?_ }, rfl⟩
    exact replies_of hr rfl rfl (fun e he _ => he) fun h1 h2 => ⟨h1, h2⟩
  | pressReturn =>
    obtain ⟨r, hr, heq⟩ := Option.map_eq_some_iff.mp hmain
    cases heq
    unfold PromptEdit.pressReturn at hr
    split_ifs at hr with hkeys
    cases hr
    exact ⟨hopeless_confirm env hs (PromptEdit.takesClicks_of_takesKeys hkeys), rfl⟩
  | clickButton =>
    obtain ⟨r, hr, heq⟩ := Option.map_eq_some_iff.mp hmain
    cases heq
    unfold PromptEdit.click at hr
    split_ifs at hr with hclicks
    cases hr
    exact ⟨hopeless_confirm env hs hclicks, rfl⟩
  | clickReAuth k => simp [Sys.mainStep, hs.button] at hmain
  | pipeActivated k reply => exact hopeless_pipe env hs hsound hmain
  | serviceMessages k msg type sid =>
    obtain ⟨ops, hplain, heq⟩ :=
      dispatch_serviceMessages k s.userOrigin s.note env hsound.watched.inv.hasQueue msg type sid
    obtain ⟨rfl, rfl⟩ := Prod.mk.inj (heq.symm.trans (Option.some.inj hmain))
    have hsilent : Silent (s.queue.call ops) :=
      (silent_call fun e he => (hplain e he).1).mpr hs.silent
    refine ⟨hs.stays { silent := fun _ => hsilent, replies := fun _ hr => ?_ }, rfl⟩
    refine replies_of hr rfl rfl (fun e he hp => ?_) fun h1 h2 => ⟨h1, h2⟩
    rw [Dispatch.flight_call] at he
    rcases List.mem_append.mp he with he | he
    · exact he
    · exact absurd (hplain e he) (prompt_not_plain hp)
  | serviceMethod k authType method sid =>
    have heq := dispatch_serviceMethod (s := s) k s.userOrigin s.note env authType method sid
    obtain ⟨rfl, rfl⟩ := Prod.mk.inj (heq.symm.trans (Option.some.inj hmain))
    exact ⟨hs, rfl⟩
  | deliver k => exact hopeless_deliver env hs h
  | cancelAuthentication k => cases h
  | thread t => simp [Sys.mainStep] at hmain
  | child e => simp [Sys.mainStep] at hmain

/-- Once nothing is left, nothing comes. -/
theorem hopeless_step {s t : Sys} {e : Event} {o : List Output} (hs : Hopeless s)
    (hsound : Sound s) (h : dialogStep env s e = some (t, o)) : Hopeless t ∧ o = [] := by
  have hstep := dialogStep_eq env h
  unfold step at hstep
  split at hstep
  · obtain ⟨d, hd, heq⟩ := Option.map_eq_some_iff.mp hstep
    cases heq
    obtain ⟨-, hsilent⟩ := hsound.watched.settled.step hd
    refine ⟨hs.stays { silent := hsilent.mpr, replies := fun _ hr => ?_ }, rfl⟩
    exact replies_of hr rfl rfl (fun e he _ => (Dispatch.step_flight hd).subset he)
      fun h1 h2 => ⟨h1, h2⟩
  · split_ifs at hstep with halive
    obtain ⟨t, ht, heq⟩ := Option.map_eq_some_iff.mp hstep
    cases heq
    exact ⟨hopeless_child hs hsound halive ht, rfl⟩
  · split_ifs at hstep
    exact hopeless_main env hs hsound h hstep

/-- A main thread that waits for a permit in vain handles nothing. -/
theorem blocked_step {s t : Sys} {e : Event} {o : List Output} (hs : Blocked s.queue)
    (h : dialogStep env s e = some (t, o)) : Blocked t.queue ∧ o = [] := by
  obtain ⟨n, rest, hops, hlt⟩ := hs
  replace h := dialogStep_eq env h
  unfold step at h
  split at h
  · rename_i th
    obtain ⟨d, hd, heq⟩ := Option.map_eq_some_iff.mp h
    cases heq
    have hthread : queue_deadlock.step s.queue (.thread th) = some (d, []) := by
      simp [queue_deadlock.step, hd]
    exact ⟨queue_deadlock.blocked_forever ⟨n, rest, hops, hlt⟩ hthread, rfl⟩
  · split_ifs at h
    obtain ⟨t, ht, heq⟩ := Option.map_eq_some_iff.mp h
    cases heq
    refine ⟨?_, rfl⟩
    rw [(childStep_apart ht).2.1]
    exact ⟨n, rest, hops, hlt⟩
  · split_ifs at h with hloop
    cases hops.symm.trans hloop

/-- In every state that the lock screen gets to, some run goes on to unlock it exactly when the main
thread does not wait for a permit in vain and something is left: a completion on its way, the
button, an attempt whose end still counts, or a child that can still report its success. -/
theorem it_can_be_unlocked_iff (m_userName : String) (k : ForkAnswer) (es : List Event) {s : Sys}
    {o : List Output} (h : run (dialogStep env) (.init env m_userName k) es = some (s, o)) :
    Offers (dialogStep env) .authenticationPassed s ↔ ¬ Blocked s.queue ∧ Hopeful s := by
  have hs : Sound s := run_inv (I := Sound)
    (fun _ _ _ _ hs hstep => (dialogStep_sound env hs hstep).1) (init_sound env m_userName k) h
  constructor
  · intro hoffers
    constructor
    · intro hblocked
      refine not_offers (I := fun s : Sys => Blocked s.queue) ?_ hblocked hoffers
      intro s1 e t o1 hb hstep
      obtain ⟨hb1, rfl⟩ := blocked_step env hb hstep
      exact ⟨hb1, List.not_mem_nil⟩
    · by_contra hno
      refine not_offers (I := fun s : Sys => Sound s ∧ Hopeless s) ?_
        ⟨hs, not_hopeful_iff.mp hno⟩ hoffers
      rintro s1 e t o1 ⟨hs1, hless⟩ hstep
      obtain ⟨hless1, rfl⟩ := hopeless_step env hless hs1 hstep
      exact ⟨⟨(dialogStep_sound env hs1 hstep).1, hless1⟩, List.not_mem_nil⟩
  · rintro ⟨hfree, hhope⟩
    exact hopeful_unlocks env hs hfree hhope

/-- A new lock screen can be unlocked. After a failure and a crash it cannot. -/
theorem a_crash_loses_the_lock_screen :
    Offers (dialogStep sampleEnv) .authenticationPassed (.init sampleEnv "root" forked) ∧
      ∃ s o, run (dialogStep sampleEnv) (.init sampleEnv "root" forked) failThenCrash = some (s, o) ∧
        ¬ Offers (dialogStep sampleEnv) .authenticationPassed s := by
  constructor
  · refine (it_can_be_unlocked_iff sampleEnv "root" forked [] rfl).mpr ⟨?_, .unsent rfl rfl⟩
    rintro ⟨n, rest, hops, -⟩
    cases hops
  · refine ⟨_, _, rfl, fun hoffers => ?_⟩
    obtain ⟨-, hhope⟩ :=
      (it_can_be_unlocked_iff sampleEnv "root" forked failThenCrash rfl).mp hoffers
    cases hhope with
    | completes h => exact h (List.forall_mem_nil _)
    | button h => cases h
    | unsent hn h => cases hn
    | sent hn hwhole f hf hc => cases hn
    | child h hgo => cases h.watched

end session_guard.lock_screen
