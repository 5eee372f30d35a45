-- The law of the talk: every run ends, and at the end the talk is transparent
-- if and only if every reply is ASCII. The buffer for a reply is measured in
-- UTF-16 units, and filled with UTF-8 bytes.
import SessionGuard.AuthPamLaws
import SessionGuard.PamTalk

open machine

namespace session_guard.pam_talk

open pam_message auth_pam checkpass unicode

variable (k : Script)

/-! ## What the child has done -/

/-- The entries of `reply` for the messages, where `n` prompts came before. -/
def responses (n : Nat) : List Msg → List PamResponse
  | [] => []
  | m :: ms =>
    if m.isPrompt then ⟨some (Conv.respBlock (k.replies n)), PAM_SUCCESS⟩ :: responses (n + 1) ms
    else ⟨none, PAM_SUCCESS⟩ :: responses n ms

/-- What the calls return, where `n` prompts came before. -/
def returned (n : Nat) : List (List Msg) → List (Int × List PamResponse)
  | [] => []
  | c :: cs => (PAM_SUCCESS, responses k n c) :: returned (n + prompts c) cs

@[simp] theorem prompts_append (xs ys : List Msg) :
    prompts (xs ++ ys) = prompts xs + prompts ys := by simp [prompts]

theorem prompts_cons (m : Msg) (ms : List Msg) :
    prompts (m :: ms) = prompts ms + if m.isPrompt then 1 else 0 := by
  simp [prompts, List.countP_cons]

theorem responses_append (n : Nat) (xs ys : List Msg) :
    responses k n (xs ++ ys) = responses k n xs ++ responses k (n + prompts xs) ys := by
  induction xs generalizing n with
  | nil => simp [responses, prompts]
  | cons m ms ih =>
    simp only [List.cons_append, responses, ih, prompts_cons]
    split_ifs
    · simp [Nat.add_assoc, Nat.add_comm 1]
    · simp

theorem returned_append (n : Nat) (xs : List (List Msg)) (c : List Msg) :
    returned k n (xs ++ [c]) =
      returned k n xs ++ [(PAM_SUCCESS, responses k (n + prompts xs.flatten) c)] := by
  induction xs generalizing n with
  | nil => simp [returned, prompts]
  | cons x xs ih => simp [returned, ih, Nat.add_assoc]

/-- Where the child stands: the calls that have returned, the messages of the
current call that are sent, the calls that are still to come, and how many
replies the child has received. -/
inductive At : List (List Msg) → List Msg → Pc → List (List Msg) → Nat → Prop
  | start : At [] [] .start k.calls 0
  | stack {past calls : List (List Msg)} (script : k.calls = past ++ calls) :
      At past [] .stack calls (prompts past.flatten)
  | conv {past calls : List (List Msg)} {sent : List Msg} {v : Conv}
      (script : k.calls = past ++ (sent ++ v.rest) :: calls)
      (done : v.done = responses k (prompts past.flatten) sent) :
      At past sent (.conv v) calls (prompts (past.flatten ++ sent))
  | waiting {past calls : List (List Msg)} {sent rest : List Msg} {m : Msg} {v : Conv}
      (current : v.rest = m :: rest) (prompt : m.isPrompt = true)
      (script : k.calls = past ++ (sent ++ m :: rest) :: calls)
      (done : v.done = responses k (prompts past.flatten) sent) :
      At past (sent ++ [m]) (.waiting v) calls (prompts (past.flatten ++ sent))
  | exit : At k.calls [] .exit [] (prompts k.calls.flatten)

/-! ## What the frames say -/

def Script.complete : PamEvent :=
  .CompleteEvent true (k.authRes = PAM_SUCCESS) k.authResultString

/-- The signal that a frame of the child causes. -/
def signalOf : PamEvent → Option Signal
  | .PromptRequestEvent secret text =>
    some (.showPrompt text (if secret then .Secret else .Question))
  | .MessageEvent isError text => some (.showMessage text (if isError then .Error else .Info))
  | .CompleteEvent _ _ _ => some .authenticationComplete
  | _ => none

def isComplete : PamEvent → Bool
  | .CompleteEvent _ _ _ => true
  | _ => false

/-- A message and its frame cause the same signal. -/
theorem signalOf_event (m : Msg) : m.event.bind signalOf = said m := by
  rcases m with ⟨style, text⟩
  cases style <;> rfl

theorem frames_say (ms : List Msg) :
    (ms.filterMap Msg.event).filterMap signalOf = ms.filterMap said := by
  rw [List.filterMap_filterMap]
  exact congrArg (List.filterMap · ms) (funext signalOf_event)

theorem said_prompts (ms : List Msg) : (ms.filterMap said).countP isPrompt = prompts ms := by
  induction ms with
  | nil => rfl
  | cons m ms ih =>
    rcases m with ⟨style, text⟩
    cases style <;>
      simp [List.filterMap_cons, List.countP_cons, said, isPrompt, prompts_cons, Msg.isPrompt, ih]

/-- The frame of a message is a request or a message. -/
theorem event_kind {m : Msg} {ev : PamEvent} (h : m.event = some ev) :
    isComplete ev = false ∧ (∀ b t, ev ≠ .PromptReplyEvent b t) ∧
      ((signalOf ev).any isPrompt = m.isPrompt) := by
  rcases m with ⟨style, text⟩
  cases style <;> cases h <;> exact ⟨rfl, nofun, rfl⟩

section hear

variable (t : Talk) (pamEvent : Option PamEvent)

@[simp] theorem hear_child : (hear t pamEvent).1.child = t.child := rfl
@[simp] theorem hear_calls : (hear t pamEvent).1.calls = t.calls := rfl
@[simp] theorem hear_toParent : (hear t pamEvent).1.toParent = t.toParent := rfl
@[simp] theorem hear_answered : (hear t pamEvent).1.answered = t.answered := rfl

end hear

theorem recv_reply (text : String) :
    kiranPamMessageRecvEvent (kiranPamMessageSendEvent (.PromptReplyEvent true text)) =
      some (.PromptReplyEvent true text) := recvEvent_sendEvent _ nofun

/-- What the parent does with a frame of the child. -/
theorem hear_frame (t : Talk) {ev : PamEvent} (hev : ∀ b x, ev ≠ .PromptReplyEvent b x) :
    (hear t (some ev)).1.signals = t.signals ++ (signalOf ev).toList ∧
      (hear t (some ev)).1.pam.m_hasSendCompleteSignal =
        (t.pam.m_hasSendCompleteSignal || isComplete ev) ∧
      (isComplete ev = false →
        (hear t (some ev)).1.pam.m_isAuthenticated = t.pam.m_isAuthenticated) ∧
      (hear t (some ev)).1.pam.m_socketNotifier = t.pam.m_socketNotifier ∧
      (hear t (some ev)).1.pam.m_inAuthenticating = t.pam.m_inAuthenticating := by
  cases ev with
  | PromptReplyEvent b x => exact absurd rfl (hev b x)
  | _ => simp [hear, AuthPam.handlePipeActivated, signalOf, isComplete, emitted]

/-! ## The invariant and the work -/

/-- How far the talk has come: `heard` are the frames that the parent has
read, and `flying` those in the pipe. -/
structure TalkAt (t : Talk) (past : List (List Msg)) (sent : List Msg) (received : Nat)
    (heard flying : List PamEvent) : Prop where
  child : At k past sent t.child.pc t.calls received
  returns : t.child.returns.map (fun r => (r.ret, r.resp)) = returned k 0 past
  frames : heard ++ flying = (past.flatten ++ sent).filterMap Msg.event ++
    if hasExited t.child.pc then [k.complete] else []
  toParent : t.toParent = flying.map kiranPamMessageSendEvent
  signals : t.signals = heard.filterMap signalOf
  toChild : (t.answered = received ∧ t.toChild = []) ∨ (t.answered = received + 1 ∧
    t.toChild = [kiranPamMessageSendEvent (.PromptReplyEvent true (k.replies received))])
  answered : t.answered ≤ t.signals.countP isPrompt
  completed : t.pam.m_hasSendCompleteSignal = heard.any isComplete
  result : t.pam.m_isAuthenticated =
    (t.pam.m_hasSendCompleteSignal && decide (k.authRes = PAM_SUCCESS))
  live : (t.pam.m_socketNotifier.isSome = true ∧ t.pam.m_inAuthenticating = true) ∨
    (t.pam.m_socketNotifier = none ∧ hasExited t.child.pc = true ∧ flying = [])

def TalkInv (t : Talk) : Prop :=
  ∃ past sent received heard flying, TalkAt k t past sent received heard flying

/-- The steps that a message still takes: its send and its frame, and for a
prompt the answer and the receive. -/
def msgWork (m : Msg) : Nat := if m.isPrompt then 4 else if m.event.isSome then 2 else 1

def msgsWork (msgs : List Msg) : Nat := (msgs.map msgWork).sum

def callsWork (calls : List (List Msg)) : Nat := (calls.map fun c => msgsWork c + 2).sum + 2

def childWork : Pc → List (List Msg) → Nat
  | .start, calls => callsWork calls + 1
  | .stack, calls => callsWork calls
  | .conv v, calls => msgsWork v.rest + 1 + callsWork calls
  | .waiting v, calls => msgsWork v.rest.tail + 2 + callsWork calls
  | .exit, _ => 0

def isRequest (doc : JsonDocument) : Bool :=
  match kiranPamMessageRecvEvent doc with
  | some (.PromptRequestEvent _ _) => true
  | _ => false

/-- The steps that the talk can still take. -/
def work (t : Talk) : Nat :=
  childWork t.child.pc t.calls + t.toParent.length + t.toParent.countP isRequest +
    (t.signals.countP isPrompt - t.answered) + if t.pam.m_socketNotifier.isSome then 1 else 0

/-! ## The steps of the talk -/

theorem isRequest_event {m : Msg} {ev : PamEvent} (h : m.event = some ev) :
    isRequest (kiranPamMessageSendEvent ev) = m.isPrompt := by
  rcases m with ⟨style, text⟩
  cases style <;> cases h <;> rfl

/-- A frame is counted as long as its prompt is not shown. -/
theorem frame_prompt {ev : PamEvent} (hev : ∀ b x, ev ≠ .PromptReplyEvent b x) :
    (signalOf ev).toList.countP isPrompt =
      if isRequest (kiranPamMessageSendEvent ev) then 1 else 0 := by
  cases ev with
  | PromptReplyEvent b x => exact absurd rfl (hev b x)
  | _ => rfl

theorem isRequest_complete (a b : Bool) (text : String) :
    isRequest (kiranPamMessageSendEvent (.CompleteEvent a b text)) = false := rfl

theorem msgsWork_cons (m : Msg) (ms : List Msg) : msgsWork (m :: ms) = msgWork m + msgsWork ms := by
  simp [msgsWork]

theorem callsWork_cons (c : List Msg) (cs : List (List Msg)) :
    callsWork (c :: cs) = msgsWork c + 2 + callsWork cs := by
  simp [callsWork]
  omega

theorem not_prompt_of_event_none {m : Msg} (h : m.event = none) : m.isPrompt = false := by
  rcases m with ⟨style, text⟩
  cases style <;> first | rfl | cases h

/-- The entry of one more message. -/
theorem responses_snoc (n : Nat) (ms : List Msg) (m : Msg) :
    responses k n (ms ++ [m]) = responses k n ms ++
      [if m.isPrompt then ⟨some (Conv.respBlock (k.replies (n + prompts ms))), PAM_SUCCESS⟩
        else ⟨none, PAM_SUCCESS⟩] := by
  rw [responses_append]
  simp only [responses]
  split_ifs <;> rfl

/-- The current message is no prompt: the next one is the current one. -/
theorem At.next {past calls : List (List Msg)} {sent rest : List Msg} {m : Msg} {v : Conv}
    (hrest : v.rest = m :: rest) (hm : m.isPrompt = false)
    (hscript : k.calls = past ++ (sent ++ v.rest) :: calls)
    (hdone : v.done = responses k (prompts past.flatten) sent) :
    At k past (sent ++ [m]) (.conv v.next) calls (prompts (past.flatten ++ sent)) := by
  have : At k past (sent ++ [m]) (.conv v.next) calls (prompts (past.flatten ++ (sent ++ [m]))) :=
    .conv (by simpa [Conv.next, hrest] using hscript)
      (by simp [Conv.next, hdone, responses_snoc, hm])
  have hn : prompts (past.flatten ++ (sent ++ [m])) = prompts (past.flatten ++ sent) := by
    simp [prompts, hm]
  exact hn ▸ this

/-- The child goes on in the loop of `conversation`. -/
theorem child_conv {t t1 : Talk} {v : Conv} {past : List (List Msg)} {sent : List Msg}
    {received : Nat} {heard flying : List PamEvent} {o : List Signal}
    (h : TalkAt k t past sent received heard flying) (hpc : t.child.pc = .conv v)
    (hs : talkStep k t .child = some (t1, o)) : TalkInv k t1 ∧ work t1 < work t := by
  obtain ⟨pam, ⟨pc, returns⟩, calls, toParent, toChild, signals, answered⟩ := t
  obtain ⟨hchild, hret, hframes, hparent, hsig, htoc, hans, hcomp, hres, hlive⟩ := h
  obtain rfl : pc = .conv v := hpc
  have hlive' := hlive.resolve_right (by simp [hasExited])
  simp only [hasExited, Bool.false_eq_true, if_false, List.append_nil] at hframes
  cases hchild with
  | conv hscript hdone =>
    rcases hrest : v.rest with _ | ⟨m, rest⟩
    · -- the loop is over
      simp only [talkStep, childAct, hrest, Child.step, if_true, Option.map_some, Option.some.injEq,
        Prod.mk.injEq] at hs
      obtain ⟨rfl, -⟩ := hs
      refine ⟨⟨past ++ [sent], [], _, heard, flying, ?_, ?_, ?_, ?_, hsig, htoc, hans, hcomp,
        hres, Or.inl hlive'⟩, ?_⟩
      · have : At k (past ++ [sent]) [] .stack calls (prompts (past ++ [sent]).flatten) :=
          .stack (by simpa [hrest] using hscript)
        change At k _ _ .stack _ _
        simpa using this
      · simp only [Child.returnWith, List.map_append, List.map_cons, List.map_nil, returned_append,
          Nat.zero_add, hret]
        simp [Conv.success, Conv.reply, hrest, hdone]
      · simpa [hasExited, Child.returnWith] using hframes
      · simpa using hparent
      · simp [work, childWork, hrest, msgsWork, Child.returnWith]
    · rcases hev : m.event with _ | ev
      · -- a message of another style
        have hm := not_prompt_of_event_none hev
        simp only [talkStep, childAct, hrest, hev, Option.isSome_none, Bool.false_eq_true, if_false,
          Child.step, Option.isNone_none, if_true, Option.map_some, Option.some.injEq,
          Prod.mk.injEq] at hs
        obtain ⟨rfl, -⟩ := hs
        refine ⟨⟨past, sent ++ [m], _, heard, flying, At.next k hrest hm hscript hdone, hret, ?_,
          ?_, hsig, htoc, hans, hcomp, hres, Or.inl hlive'⟩, ?_⟩
        · simpa [hasExited, hev] using hframes
        · simpa using hparent
        · simp [work, childWork, hrest, msgsWork_cons, msgWork, hm, hev, Conv.next]
      · have hnew :
            heard ++ (flying ++ [ev]) = (past.flatten ++ (sent ++ [m])).filterMap Msg.event := by
          simp [← List.append_assoc, hframes, hev]
        have hdoc := isRequest_event hev
        by_cases hm : m.isPrompt = true
        · -- a prompt
          simp only [talkStep, childAct, hrest, hev, Option.isSome_some, if_true, Child.step,
            Bool.not_true, Bool.false_eq_true, if_false, hm, Option.map_some, Option.some.injEq,
            Prod.mk.injEq] at hs
          obtain ⟨rfl, -⟩ := hs
          refine ⟨⟨past, sent ++ [m], _, heard, flying ++ [ev],
            .waiting hrest hm (hrest ▸ hscript) hdone, hret, ?_, ?_, hsig, htoc, hans, hcomp, hres,
            Or.inl hlive'⟩, ?_⟩
          · simpa [hasExited] using hnew
          · simpa using hparent
          · simp [work, childWork, hrest, msgsWork_cons, msgWork, hm, hdoc, List.countP_append]
            omega
        · -- an info or an error message
          simp only [Bool.not_eq_true] at hm
          simp only [talkStep, childAct, hrest, hev, Option.isSome_some, if_true, Child.step,
            Bool.not_true, Bool.false_eq_true, if_false, hm, Option.map_some, Option.some.injEq,
            Prod.mk.injEq] at hs
          obtain ⟨rfl, -⟩ := hs
          refine ⟨⟨past, sent ++ [m], _, heard, flying ++ [ev], At.next k hrest hm hscript hdone,
            hret, ?_, ?_, hsig, htoc, hans, hcomp, hres, Or.inl hlive'⟩, ?_⟩
          · simpa [hasExited] using hnew
          · simpa using hparent
          · simp [work, childWork, hrest, msgsWork_cons, msgWork, hm, hdoc, hev, List.countP_append,
              Conv.next]
            omega

/-- The child goes on outside the loop of `conversation`. -/
theorem child_other {t t1 : Talk} {past : List (List Msg)} {sent : List Msg}
    {received : Nat} {heard flying : List PamEvent} {o : List Signal}
    (h : TalkAt k t past sent received heard flying) (hpc : ∀ v, t.child.pc ≠ .conv v)
    (hs : talkStep k t .child = some (t1, o)) : TalkInv k t1 ∧ work t1 < work t := by
  obtain ⟨pam, ⟨pc, returns⟩, calls, toParent, toChild, signals, answered⟩ := t
  obtain ⟨hchild, hret, hframes, hparent, hsig, htoc, hans, hcomp, hres, hlive⟩ := h
  cases hchild with
  | start =>
    have hlive' := hlive.resolve_right (by simp [hasExited])
    simp only [talkStep, childAct, Child.step, if_true, Option.map_some, Option.some.injEq,
      Prod.mk.injEq] at hs
    obtain ⟨rfl, -⟩ := hs
    refine ⟨⟨[], [], 0, heard, flying, .stack rfl, hret, hframes, ?_, hsig, htoc, hans, hcomp, hres,
      Or.inl hlive'⟩, ?_⟩
    · simpa using hparent
    · simp [work, childWork]
  | stack hscript =>
    have hlive' := hlive.resolve_right (by simp [hasExited])
    rcases calls with _ | ⟨c, cs⟩
    · -- `pam_authenticate` returns
      simp only [talkStep, childAct, Child.step, if_true, Option.map_some, Option.some.injEq,
        Prod.mk.injEq] at hs
      obtain ⟨rfl, -⟩ := hs
      obtain rfl : k.calls = past := by simpa using hscript
      refine ⟨⟨k.calls, [], _, heard, flying ++ [k.complete], .exit, hret, ?_, ?_, hsig, htoc, hans,
        hcomp, hres, Or.inl hlive'⟩, ?_⟩
      · simpa [hasExited, ← List.append_assoc] using hframes
      · simpa [Script.complete] using hparent
      · simp [work, childWork, callsWork, List.countP_append, isRequest_complete]
        omega
    · -- the next call of `conversation`
      simp only [talkStep, childAct, Child.step, Option.map_some, Option.some.injEq,
        Prod.mk.injEq] at hs
      obtain ⟨rfl, -⟩ := hs
      refine ⟨⟨past, [], _, heard, flying, ?_, hret, ?_, ?_, hsig, htoc, hans, hcomp, hres,
        Or.inl hlive'⟩, ?_⟩
      · have : At k past [] (.conv { rest := c, heap := [.callocReply c.length] }) cs
            (prompts (past.flatten ++ [])) := .conv (by simpa using hscript) rfl
        simpa using this
      · simpa [hasExited] using hframes
      · simpa using hparent
      · simp [work, childWork, callsWork_cons]
  | conv hscript hdone => exact absurd rfl (hpc _)
  | @waiting past calls sent rest m v hrest hm hscript hdone =>
    have hlive' := hlive.resolve_right (by simp [hasExited])
    rcases htoc with ⟨-, hnil⟩ | ⟨hanswered, hdoc⟩
    · obtain rfl : toChild = [] := hnil
      simp [talkStep, childAct] at hs
    · -- the reply to the prompt
      obtain rfl : toChild = _ := hdoc
      simp only [talkStep, childAct, recv_reply, Child.step, Option.map_some, Option.some.injEq,
        Prod.mk.injEq] at hs
      obtain ⟨rfl, -⟩ := hs
      have hn : prompts (past.flatten ++ (sent ++ [m])) = prompts (past.flatten ++ sent) + 1 := by
        simp [prompts, hm, Nat.add_assoc]
      refine ⟨⟨past, sent ++ [m], prompts (past.flatten ++ (sent ++ [m])), heard, flying, ?_, hret,
        ?_, ?_, hsig, Or.inl ⟨?_, rfl⟩, hans, hcomp, hres, Or.inl hlive'⟩, ?_⟩
      · refine At.conv (by simpa [Conv.answer, hrest] using hscript) ?_
        simp [Conv.answer, hdone, responses_snoc, hm]
      · simpa [hasExited] using hframes
      · simpa using hparent
      · exact hanswered.trans hn.symm
      · simp [work, childWork, hrest, Conv.answer]
  | exit => simp [talkStep, childAct] at hs

/-- A frame of the child is a message or the completion of the script. -/
theorem frame_cases {msgs : List Msg} {b : Bool} {heard flying : List PamEvent} {ev : PamEvent}
    (h : heard ++ ev :: flying = msgs.filterMap Msg.event ++ if b then [k.complete] else []) :
    ev = k.complete ∨ ∃ m : Msg, m.event = some ev := by
  have hmem : ev ∈ msgs.filterMap Msg.event ++ if b then [k.complete] else [] := by
    rw [← h]
    simp
  rcases List.mem_append.mp hmem with hm | hm
  · obtain ⟨m, -, hm⟩ := List.mem_filterMap.mp hm
    exact Or.inr ⟨m, hm⟩
  · split_ifs at hm
    · exact Or.inl (List.mem_singleton.mp hm)
    · simp at hm

/-- The parent reads a frame. -/
theorem frame_step {t t1 : Talk} {past : List (List Msg)} {sent : List Msg}
    {received : Nat} {heard flying : List PamEvent} {o : List Signal}
    (h : TalkAt k t past sent received heard flying)
    (hs : talkStep k t .frame = some (t1, o)) : TalkInv k t1 ∧ work t1 < work t := by
  simp only [talkStep] at hs
  split at hs
  case h_2 => cases hs
  case h_1 fd doc docs hfd hdocs =>
    rcases flying with _ | ⟨ev, flying⟩
    · simp [h.toParent] at hdocs
    · obtain ⟨rfl, hrest⟩ := List.cons.inj (hdocs.symm.trans h.toParent)
      have hcases := frame_cases k h.frames
      have hnot : ∀ b x, ev ≠ .PromptReplyEvent b x := by
        rcases hcases with rfl | ⟨m, hm⟩
        · exact nofun
        · exact (event_kind hm).2.1
      rw [recvEvent_sendEvent ev fun x => hnot false x] at hs
      obtain rfl : (hear { t with toParent := docs } (some ev)).1 = t1 :=
        congrArg Prod.fst (Option.some.inj hs)
      obtain ⟨hsig, hsend, hauth, hnotifier, hin⟩ := hear_frame { t with toParent := docs } hnot
      refine ⟨⟨past, sent, received, heard ++ [ev], flying, h.child, h.returns, ?_, hrest, ?_,
        h.toChild, ?_, ?_, ?_, ?_⟩, ?_⟩
      · rw [hear_child, ← h.frames]
        simp
      · rw [hsig, List.filterMap_append, h.signals]
        cases hev : signalOf ev <;> simp [hev]
      · rw [hsig, List.countP_append]
        exact h.answered.trans (Nat.le_add_right _ _)
      · rw [hsend, h.completed]
        simp
      · rcases hcases with rfl | ⟨m, hm⟩
        · simp [hear, Script.complete, AuthPam.handlePipeActivated]
        · have hno := (event_kind hm).1
          rw [hauth hno, hsend, hno, Bool.or_false]
          exact h.result
      · rcases h.live with ⟨hn, hi⟩ | ⟨hn, -, -⟩
        · exact Or.inl ⟨hnotifier ▸ hn, hin ▸ hi⟩
        · simp [hn] at hfd
      · have hprompt := frame_prompt hnot
        have hans := h.answered
        simp only [work, hsig, hnotifier, hdocs, hear_child, hear_calls, hear_answered,
          hear_toParent, List.length_cons, List.countP_cons, List.countP_append, hprompt]
        omega

/-- The parent reads the end of the pipe. -/
theorem eof_step {t t1 : Talk} {past : List (List Msg)} {sent : List Msg}
    {received : Nat} {heard flying : List PamEvent} {o : List Signal}
    (h : TalkAt k t past sent received heard flying)
    (hs : talkStep k t .eof = some (t1, o)) : TalkInv k t1 ∧ work t1 < work t := by
  simp only [talkStep] at hs
  split at hs
  case h_2 => cases hs
  case h_1 fd hfd hnil =>
    split_ifs at hs with hexit
    obtain rfl : (hear t none).1 = t1 := congrArg Prod.fst (Option.some.inj hs)
    -- the pipe is empty, so the completion has been heard
    have hflying : flying = [] := by simpa [hnil] using h.toParent.symm
    have hsent : t.pam.m_hasSendCompleteSignal = true := by
      have hframes := h.frames
      rw [hexit, hflying] at hframes
      simp only [List.append_nil, if_true] at hframes
      simp [h.completed, hframes, Script.complete, isComplete]
    have hemit : emitted (t.pam.handlePipeActivated none).2 = [] := by
      simp only [AuthPam.handlePipeActivated, AuthPam.handleChildExit, hsent, emitted]
      split_ifs <;> simp_all
    have hsig : (hear t none).1.signals = t.signals := by simp [hear, hemit]
    refine ⟨⟨past, sent, received, heard, flying, h.child, h.returns, h.frames, h.toParent,
      hsig.trans h.signals, h.toChild, ?_, h.completed, h.result, Or.inr ⟨rfl, hexit, hflying⟩⟩, ?_⟩
    · rw [hsig]
      exact h.answered
    · have hgone : (hear t none).1.pam.m_socketNotifier = none := rfl
      simp only [work, hsig, hgone, hfd, hear_child, hear_calls, hear_answered, hear_toParent]
      simp

/-- Each prompt that was sent is shown, or its frame is in the pipe. -/
theorem shown_add_flying {t : Talk} {past : List (List Msg)} {sent : List Msg} {received : Nat}
    {heard flying : List PamEvent} (h : TalkAt k t past sent received heard flying) :
    t.signals.countP isPrompt + (flying.filterMap signalOf).countP isPrompt =
      prompts (past.flatten ++ sent) := by
  have hframes := congrArg (fun evs => (evs.filterMap signalOf).countP isPrompt) h.frames
  simp only [List.filterMap_append, List.countP_append] at hframes
  rw [h.signals, hframes, ← List.countP_append, ← List.filterMap_append, ← List.filterMap_append,
    frames_say, said_prompts]
  split_ifs <;> simp [Script.complete, signalOf, isPrompt]

/-- The child has received a reply to each prompt that it sent, but for the
one that it waits for. -/
theorem At.received {past calls : List (List Msg)} {sent : List Msg} {pc : Pc} {received : Nat}
    (h : At k past sent pc calls received) :
    received = prompts (past.flatten ++ sent) ∨
      (received + 1 = prompts (past.flatten ++ sent) ∧ hasExited pc = false) := by
  cases h with
  | start => exact Or.inl rfl
  | stack script => exact Or.inl (by simp)
  | conv script done => exact Or.inl rfl
  | waiting current prompt script done =>
    exact Or.inr ⟨by simp [prompts, prompt, Nat.add_assoc], rfl⟩
  | exit => exact Or.inl (by simp)

theorem At.of_exit {past calls : List (List Msg)} {sent : List Msg} {pc : Pc} {received : Nat}
    (h : At k past sent pc calls received) (hexit : hasExited pc = true) :
    past = k.calls ∧ sent = [] := by
  cases h <;> first | exact ⟨rfl, rfl⟩ | cases hexit

/-- The user answers a prompt. -/
theorem respond_step {t t1 : Talk} {past : List (List Msg)} {sent : List Msg}
    {received : Nat} {heard flying : List PamEvent} {o : List Signal}
    (h : TalkAt k t past sent received heard flying)
    (hs : talkStep k t .respond = some (t1, o)) : TalkInv k t1 ∧ work t1 < work t := by
  simp only [talkStep] at hs
  split_ifs at hs with hlt
  obtain ⟨rfl, -⟩ := Prod.mk.inj (Option.some.inj hs)
  have hshown := shown_add_flying k h
  obtain ⟨hans, htoc⟩ | ⟨hans, -⟩ := h.toChild
  · rcases h.child.received with heq | ⟨-, hexit⟩
    · omega
    · -- the child waits for this reply
      have hin := (h.live.resolve_right (by simp [hexit])).2
      refine ⟨⟨past, sent, received, heard, flying, h.child, h.returns, h.frames, h.toParent,
        h.signals, Or.inr ⟨by rw [hans], ?_⟩, hlt, h.completed, h.result, h.live⟩, ?_⟩
      · simp [htoc, AuthPam.respond, AuthPam.inAuthentication, hin, written, hans]
      · simp only [work]
        omega
  · have := h.child.received
    omega

theorem talk_step {t t1 : Talk} {e : TalkEvent} {o : List Signal} (h : TalkInv k t)
    (hs : talkStep k t e = some (t1, o)) : TalkInv k t1 ∧ work t1 < work t := by
  obtain ⟨past, sent, received, heard, flying, hat⟩ := h
  cases e with
  | child =>
    by_cases hpc : ∃ v, t.child.pc = .conv v
    · obtain ⟨v, hv⟩ := hpc
      exact child_conv k hat hv hs
    · exact child_other k hat (not_exists.mp hpc) hs
  | frame => exact frame_step k hat hs
  | eof => exact eof_step k hat hs
  | respond => exact respond_step k hat hs

/-! ## The end of the talk -/

/-- A talk in which nothing can happen any more has come to its end: the child
has exited, and the parent has read everything. -/
theorem stuck_at_the_end {t : Talk} {past : List (List Msg)} {sent : List Msg} {received : Nat}
    {heard flying : List PamEvent} (h : TalkAt k t past sent received heard flying)
    (hstuck : Stuck (talkStep k) t) :
    hasExited t.child.pc = true ∧ flying = [] ∧ t.pam.m_socketNotifier = none := by
  have hchild := hstuck .child
  have hframe := hstuck .frame
  have heof := hstuck .eof
  have hrespond := hstuck .respond
  -- the pipe to the parent is empty
  have hflying : flying = [] := by
    rcases h.live with ⟨hn, -⟩ | ⟨-, -, hf⟩
    · obtain ⟨fd, hfd⟩ := Option.isSome_iff_exists.mp hn
      rcases flying with _ | ⟨ev, flying⟩
      · rfl
      · simp [talkStep, hfd, h.toParent] at hframe
    · exact hf
  have hexit : hasExited t.child.pc = true := by
    have hshown := shown_add_flying k h
    have hwaits := h.child.received
    have hchild' := h.child
    have htoChild := h.toChild
    obtain ⟨pam, ⟨pc, returns⟩, calls, toParent, toChild, signals, answered⟩ := t
    cases hchild' with
    | start => simp [talkStep, childAct, Child.step] at hchild
    | stack script =>
      rcases calls with _ | ⟨c, cs⟩ <;> simp [talkStep, childAct, Child.step] at hchild
    | @conv past calls sent v script done =>
      rcases hrest : v.rest with _ | ⟨m, rest⟩
      · simp [talkStep, childAct, Child.step, hrest] at hchild
      · rcases hev : m.event with _ | ev <;>
          simp [talkStep, childAct, Child.step, hrest, hev] at hchild
    | waiting current prompt script done =>
      obtain ⟨hans, -⟩ | ⟨-, hdoc⟩ := htoChild
      · -- the prompt is shown, and the user can answer it
        simp only [talkStep] at hrespond
        split_ifs at hrespond with hlt
        simp only [hflying, List.filterMap_nil, List.countP_nil] at hshown
        simp only [prompts_append, prompts_cons, prompt, if_true] at hshown hans
        have : prompts ([] : List Msg) = 0 := rfl
        omega
      · obtain rfl : toChild = _ := hdoc
        simp [talkStep, childAct, recv_reply, Child.step] at hchild
    | exit => rfl
  refine ⟨hexit, hflying, ?_⟩
  rcases h.live with ⟨hn, -⟩ | ⟨hn, -, -⟩
  · obtain ⟨fd, hfd⟩ := Option.isSome_iff_exists.mp hn
    simp [talkStep, hfd, h.toParent, hflying, hexit] at heof
  · exact hn

/-- The block for a reply holds the reply if and only if the reply is ASCII. -/
theorem holds_iff {text : String} (h : NoNul text) :
    Holds (Conv.respBlock text) (utf8 text) ↔ IsAscii text := by
  have hbytes := cString_utf8 h
  rw [← utf8_length_le_iff]
  simp [Holds, Conv.respBlock, hbytes]

theorem answered_iff (hnul : ∀ i, NoNul (k.replies i)) (n : Nat) (ms : List Msg) :
    Answered k n ms (responses k n ms) ↔
      ∀ i, n ≤ i → i < n + prompts ms → IsAscii (k.replies i) := by
  induction ms generalizing n with
  | nil => simp only [responses, Answered, true_iff]; intro i h1 h2; simp [prompts] at h2; omega
  | cons m ms ih =>
    by_cases hm : m.isPrompt = true
    · simp only [responses, hm, if_true, Answered, Option.some.injEq, exists_eq_left',
        holds_iff (hnul n), ih, prompts_cons]
      constructor
      · rintro ⟨hn, hrest⟩ i h1 h2
        rcases Nat.eq_or_lt_of_le h1 with rfl | h3
        · exact hn
        · exact hrest i h3 (by omega)
      · exact fun h => ⟨h n le_rfl (by omega), fun i h1 h2 => h i (by omega) (by omega)⟩
    · simp [responses, hm, Answered, ih, prompts_cons]

theorem allAnswered_iff (hnul : ∀ i, NoNul (k.replies i)) (n : Nat) (cs : List (List Msg))
    {rs : List Return} (hrs : rs.map (fun r => (r.ret, r.resp)) = returned k n cs) :
    AllAnswered k n cs rs ↔
      ∀ i, n ≤ i → i < n + prompts cs.flatten → IsAscii (k.replies i) := by
  induction cs generalizing n rs with
  | nil =>
    obtain rfl : rs = [] := by simpa [returned] using hrs
    simp only [AllAnswered, true_iff]
    intro i h1 h2
    simp [prompts] at h2
    omega
  | cons c cs ih =>
    rcases rs with _ | ⟨r, rs⟩
    · simp [returned] at hrs
    · simp only [returned, List.map_cons, List.cons.injEq, Prod.mk.injEq] at hrs
      obtain ⟨⟨hret, hresp⟩, hrest⟩ := hrs
      simp only [AllAnswered, hret, hresp, true_and, answered_iff k hnul, ih _ hrest,
        List.flatten_cons, prompts_append]
      constructor
      · rintro ⟨hc, hcs⟩ i h1 h2
        by_cases hi : i < n + prompts c
        · exact hc i h1 hi
        · exact hcs i (by omega) (by omega)
      · exact fun h => ⟨fun i h1 h2 => h i h1 (by omega), fun i h1 h2 => h i (by omega) (by omega)⟩

/-- Right after `authenticate` of a new or a cancelled object. -/
theorem talk_start {a : AuthPam} {userName : String} {answer : ForkAnswer}
    (ha : a = fresh ∨ ∃ b : AuthPam, a = b.cancelAuthentication.1)
    (hstart : (a.authenticate userName answer).2.2 = true) :
    TalkInv k (.start k (a.authenticate userName answer).1) := by
  have hflags : a.m_hasSendCompleteSignal = false ∧ a.m_isAuthenticated = false := by
    rcases ha with rfl | ⟨b, rfl⟩ <;> exact ⟨rfl, rfl⟩
  have hsend := AuthPam.authenticate_hasSendCompleteSignal a userName answer
  have hauth := AuthPam.authenticate_isAuthenticated a userName answer
  obtain ⟨fd, hfd⟩ := AuthPam.authenticate_notifier hstart
  refine ⟨[], [], 0, [], [], .start, rfl, rfl, rfl, rfl, Or.inl ⟨rfl, rfl⟩, le_rfl, ?_, ?_,
    Or.inl ⟨?_, AuthPam.authenticate_inAuthenticating hstart⟩⟩
  · simp [Talk.start, hsend, hflags.1]
  · simp [Talk.start, hsend, hauth, hflags.1, hflags.2]
  · simp [Talk.start, hfd]

/-- From a new or a cancelled object, every talk ends after at most so many
steps as the script has work. When it has ended it is transparent if and only
if every reply is ASCII. -/
theorem a_talk_is_transparent_iff {a : AuthPam} {userName : String} {answer : ForkAnswer}
    (ha : a = fresh ∨ ∃ b : AuthPam, a = b.cancelAuthentication.1)
    (hstart : (a.authenticate userName answer).2.2 = true)
    (hnul : ∀ i, NoNul (k.replies i)) {es : List TalkEvent} {t : Talk} {o : List Signal}
    (h : run (talkStep k) (.start k (a.authenticate userName answer).1) es = some (t, o)) :
    es.length ≤ work (.start k (a.authenticate userName answer).1) ∧
      (Stuck (talkStep k) t →
        (Transparent k t ↔ ∀ i < prompts k.calls.flatten, IsAscii (k.replies i))) := by
  have hinit := talk_start k ha hstart
  have hlen := run_length_le (fun s e s1 o1 hi hs => talk_step k hi hs) hinit h
  obtain ⟨past, sent, received, heard, flying, hat⟩ :=
    run_inv (fun s e s1 o1 hi hs => (talk_step k hi hs).1) hinit h
  refine ⟨by omega, fun hstuck => ?_⟩
  obtain ⟨hexit, hflying, -⟩ := stuck_at_the_end k hat hstuck
  have hframes := hat.frames
  obtain ⟨rfl, rfl⟩ := hat.child.of_exit k hexit
  simp only [hflying, hexit, if_true, List.append_nil] at hframes
  have hsignals : t.signals = k.calls.flatten.filterMap said ++ [.authenticationComplete] := by
    rw [hat.signals, hframes, List.filterMap_append, frames_say]
    rfl
  have hsent : t.pam.m_hasSendCompleteSignal = true := by
    simp [hat.completed, hframes, Script.complete, isComplete]
  have hresult : t.pam.isAuthenticated = decide (k.authRes = PAM_SUCCESS) := by
    change t.pam.m_isAuthenticated = _
    simpa [hsent] using hat.result
  have hreplies := allAnswered_iff k hnul 0 k.calls hat.returns
  simp only [Nat.zero_le, true_implies, Nat.zero_add] at hreplies
  simp only [Transparent, hsignals, hresult, hreplies, true_and, and_true]

/-- One prompt for a password. -/
def passwordScript (reply : String) : Script where
  calls := [[⟨.PAM_PROMPT_ECHO_OFF, "Password: "⟩]]
  authRes := PAM_SUCCESS
  authResultString := "Success"
  replies := fun _ => reply

/-- The talk of one prompt from its start to its end. -/
def passwordTalk : List TalkEvent :=
  [.child, .child, .child, .frame, .respond, .child, .child, .child, .frame, .eof]

/-- The reply "é" has one UTF-16 unit and two UTF-8 bytes, and does not fit. -/
theorem an_accented_reply_does_not_fit :
    ¬ ∀ (a : AuthPam) userName answer, (a = fresh ∨ ∃ b : AuthPam, a = b.cancelAuthentication.1) →
      (a.authenticate userName answer).2.2 = true → ∀ es t o,
      run (talkStep (passwordScript "é")) (.start (passwordScript "é")
        (a.authenticate userName answer).1) es = some (t, o) →
      Stuck (talkStep (passwordScript "é")) t → Transparent (passwordScript "é") t := by
  intro h
  obtain ⟨-, hall, -⟩ := h fresh "root" forked (Or.inl rfl) rfl passwordTalk _ _ rfl
    (by intro e; cases e <;> rfl)
  obtain ⟨-, ⟨⟨b, hb, -, hsize⟩, -⟩, -⟩ := hall
  cases hb
  exact absurd hsize (by decide)

/-- The reply "secret" fits. -/
theorem an_ascii_reply_is_transparent :
    ∃ t o, run (talkStep (passwordScript "secret")) (.start (passwordScript "secret")
        (fresh.authenticate "root" forked).1) passwordTalk = some (t, o) ∧
      Stuck (talkStep (passwordScript "secret")) t ∧ Transparent (passwordScript "secret") t := by
  have hstuck : ∀ t o, run (talkStep (passwordScript "secret")) (.start (passwordScript "secret")
      (fresh.authenticate "root" forked).1) passwordTalk = some (t, o) →
      Stuck (talkStep (passwordScript "secret")) t := by
    intro t o h
    cases h
    intro e
    cases e <;> rfl
  have hnul : NoNul "secret" := by decide
  have hascii : IsAscii "secret" := by decide
  exact ⟨_, _, rfl, hstuck _ _ rfl, ((@a_talk_is_transparent_iff (passwordScript "secret") fresh
    "root" forked (Or.inl rfl) rfl (fun _ => hnul) passwordTalk _ _ rfl).2 (hstuck _ _ rfl)).mpr
    fun _ _ => hascii⟩

end session_guard.pam_talk
