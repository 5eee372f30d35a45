-- The law of the talk over bytes: when no read is cut off it is the talk over frames, and no read
-- is when each frame fits into one atomic write.
import SessionGuard.ByteTalk
import SessionGuard.Simulation

open machine

namespace session_guard.byte_talk

open byte_stream pam_message pam_frame auth_pam checkpass
open pam_talk hiding work

variable (json : JsonText JsonDocument) (k : Script)

/-! ## What is sent -/

/-- The messages that were sent are messages of the script. -/
theorem sent_mem {past calls : List (List Msg)} {sent : List Msg} {pc : Pc} {received : Nat}
    (h : At k past sent pc calls received) : ∀ m ∈ past.flatten ++ sent, m ∈ k.calls.flatten := by
  intro m hm
  cases h with
  | start => simp at hm
  | stack script =>
    rw [script, List.flatten_append]
    exact List.mem_append_left _ (by simpa using hm)
  | conv script done =>
    rw [script]
    simp only [List.flatten_append, List.flatten_cons, List.mem_append] at hm ⊢
    tauto
  | waiting current prompt script done =>
    rw [script]
    simp only [List.flatten_append, List.flatten_cons, List.mem_append, List.mem_cons] at hm ⊢
    tauto
  | exit => simpa using hm

/-- The frames in the pipes are those of events that the script sends. -/
theorem frames_sent {t : Talk} (h : TalkInv k t) :
    ∀ doc ∈ t.toParent ++ t.toChild, ∃ event, Sends k event ∧
      doc = kiranPamMessageSendEvent event := by
  obtain ⟨past, sent, received, heard, flying, hat⟩ := h
  intro doc hdoc
  rcases List.mem_append.mp hdoc with hdoc | hdoc
  · rw [hat.toParent] at hdoc
    obtain ⟨event, hevent, rfl⟩ := List.mem_map.mp hdoc
    refine ⟨event, ?_, rfl⟩
    have hmem : event ∈ (past.flatten ++ sent).filterMap Msg.event ++
        if hasExited t.child.pc then [k.complete] else [] := by
      rw [← hat.frames]
      exact List.mem_append_right _ hevent
    rcases List.mem_append.mp hmem with hm | hm
    · obtain ⟨m, hm, heq⟩ := List.mem_filterMap.mp hm
      exact Or.inl ⟨m, sent_mem k hat.child m hm, heq⟩
    · split_ifs at hm
      · exact Or.inr (Or.inl (List.mem_singleton.mp hm))
      · cases hm
  · rcases hat.toChild with ⟨-, hnil⟩ | ⟨-, hone⟩
    · rw [hnil] at hdoc
      cases hdoc
    · rw [hone] at hdoc
      exact ⟨_, Or.inr (Or.inr ⟨_, rfl⟩), List.mem_singleton.mp hdoc⟩

/-- The talk over bytes stands where the one over these frames does. -/
structure Abstracts (b : ByteTalk) (ps cs : List JsonDocument) : Prop where
  inv : TalkInv k (b.talk ps cs)
  toParent : Carries json b.parentLength b.toParent ps
  toChild : Carries json b.childLength b.toChild cs
  watched : b.parentLength.isSome = true → ∃ fd, b.pam.m_socketNotifier = some fd
  ended : b.parentLength.isSome = true → ps = [] → hasExited b.child.pc = true
  waits : b.childLength.isSome = true → cs ≠ []

section Steps

variable {json k} {b b1 : ByteTalk} {ps cs : List JsonDocument} {o : List Signal}

theorem Abstracts.roundTrips (h : Abstracts json k b ps cs) (hjson : Readable json k) :
    ∀ doc ∈ ps ++ cs, RoundTrips json doc ∧ (json.toJson doc).length < 2 ^ 31 := by
  intro doc hdoc
  obtain ⟨event, hsends, rfl⟩ := frames_sent k h.inv doc hdoc
  exact ⟨hjson.roundTrips event hsends, hjson.length_lt event hsends⟩

theorem events_length {c c1 : Child} {act : Act} {events : List PamEvent}
    (h : c.step act = some (c1, events)) : events.length ≤ 1 := by
  cases Child.steps_of_step h with
  | finishes authRes getItem text => cases getItem <;> simp
  | _ => simp

theorem recv_sends_nothing {c c1 : Child} {recvReply : Option PamEvent} {events : List PamEvent}
    (h : c.step (.recv recvReply) = some (c1, events)) : events = [] := by
  cases Child.steps_of_step h <;> rfl

theorem written_respond_length (a : AuthPam) (text : String) :
    (written (a.respond text)).length ≤ 1 := by
  unfold AuthPam.respond
  split_ifs <;> simp [written]

/-- What the child does when it reads nothing does not depend on the pipe. -/
theorem childAct_talk {r : Act × List JsonDocument × List (List Msg)} (ps cs : List JsonDocument)
    (h : childAct k (b.talk [] []) = some r) :
    childAct k (b.talk ps cs) = some (r.1, cs, r.2.2) := by
  unfold childAct ByteTalk.talk at h ⊢
  dsimp only at h ⊢
  split at h
  · cases h
    rfl
  · split at h <;> cases h <;> rfl
  · split at h <;> cases h <;> rfl
  · cases h
  · cases h

theorem child_exited_stays {act : Act} {c c1 : Child} {events : List PamEvent}
    (h : c.step act = some (c1, events)) : hasExited c.pc = false := by
  cases Child.steps_of_step h with
  | starts _ hpc => simp [hpc, hasExited]
  | calls _ hpc => simp [hpc, hasExited]
  | sendFails hpc => simp [hpc, hasExited]
  | sends hpc => simp [hpc, hasExited]
  | skips hpc => simp [hpc, hasExited]
  | returns hpc => simp [hpc, hasExited]
  | receives _ hpc => simp [hpc, hasExited]
  | recvFails hpc => simp [hpc, hasExited]
  | finishes _ _ _ hpc => simp [hpc, hasExited]

theorem child_follows (h : Abstracts json k b ps cs)
    (hstep : byteStep json k b .child = some (b1, o)) :
    ∃ new, talkStep k (b.talk ps cs) .child = some (b1.talk (ps ++ new) cs, o) ∧
      Abstracts json k b1 (ps ++ new) cs ∧ b1.toParent = writes json b.toParent new ∧
        b1.toChild = b.toChild := by
  simp only [byteStep] at hstep
  split_ifs at hstep with hwriting
  simp only [Bool.not_eq_true', Bool.not_eq_false, List.isEmpty_iff] at hwriting
  split at hstep
  · cases hstep
  · rename_i act docs calls hact
    obtain ⟨⟨child, events⟩, hchild, heq⟩ := Option.map_eq_some_iff.mp hstep
    cases heq
    have htalk : talkStep k (b.talk ps cs) .child = some
        (({ b with child := child, calls := calls } : ByteTalk).talk
          (ps ++ events.map kiranPamMessageSendEvent) cs, []) := by
      simp only [talkStep, childAct_talk ps cs hact]
      have : (b.talk ps cs).child = b.child := rfl
      rw [this, hchild]
      rfl
    refine ⟨events.map kiranPamMessageSendEvent, htalk, ?_, rfl, rfl⟩
    have hrunning := child_exited_stays hchild
    have hone : (events.map kiranPamMessageSendEvent).length ≤ 1 := by
      rw [List.length_map]
      exact events_length hchild
    have hbytes := @writes_bytes json b.toParent _ hwriting hone
    exact
      { inv := (talk_step k h.inv htalk).1
        toParent := h.toParent.append hbytes fun hsome hnil => by
          rw [h.ended hsome hnil] at hrunning
          cases hrunning
        toChild := h.toChild
        watched := h.watched
        ended := fun hsome hnil => by
          rw [h.ended hsome (List.append_eq_nil_iff.mp hnil).1] at hrunning
          cases hrunning
        waits := h.waits }

/-- How many of the two readers are between two frames. -/
def unread (b : ByteTalk) : Nat :=
  (if b.parentLength.isSome then 0 else 1) + if b.childLength.isSome then 0 else 1

theorem unread_le (b : ByteTalk) : unread b ≤ 2 := by
  unfold unread
  split_ifs <;> omega

theorem childLength_follows (h : Abstracts json k b ps cs) (hjson : Readable json k)
    (hwhole : ReadsWhole b .childLength) (hstep : byteStep json k b .childLength = some (b1, o)) :
    Abstracts json k b1 ps cs ∧ b1.talk ps cs = b.talk ps cs ∧ o = [] ∧ unread b1 < unread b := by
  simp only [byteStep] at hstep
  split at hstep
  · rename_i v hpc hnone
    obtain ⟨⟨data, pipe⟩, hread, heq⟩ := Option.map_eq_some_iff.mp hstep
    cases heq
    have hchild := h.toChild
    rw [hnone] at hchild
    obtain ⟨hcarries, hclosed⟩ := hchild.reads_length
      (fun doc hdoc => (h.roundTrips hjson doc (List.mem_append_right _ hdoc)).2) hread
      (Or.inr hwhole)
    refine ⟨{ h with toChild := hcarries, waits := fun _ hnil => ?_ }, rfl, rfl, ?_⟩
    · cases hclosed hnil
    · simp [unread, hnone]
  · cases hstep

theorem parentLength_follows (h : Abstracts json k b ps cs) (hjson : Readable json k)
    (hwhole : ReadsWhole b .parentLength) (hstep : byteStep json k b .parentLength = some (b1, o)) :
    Abstracts json k b1 ps cs ∧ b1.talk ps cs = b.talk ps cs ∧ o = [] ∧ unread b1 < unread b := by
  simp only [byteStep] at hstep
  split at hstep
  · rename_i fd hfd hnone
    split_ifs at hstep
    obtain ⟨⟨data, pipe⟩, hread, heq⟩ := Option.map_eq_some_iff.mp hstep
    cases heq
    have hparent := h.toParent
    rw [hnone] at hparent
    obtain ⟨hcarries, hclosed⟩ := hparent.reads_length
      (fun doc hdoc => (h.roundTrips hjson doc (List.mem_append_left _ hdoc)).2) hread hwhole
    exact ⟨{ h with
      toParent := hcarries
      watched := fun _ => ⟨fd, hfd⟩
      ended := fun _ hnil => hclosed hnil }, rfl, rfl, by simp [unread, hnone]⟩
  · cases hstep

theorem childText_follows (h : Abstracts json k b ps cs) (hjson : Readable json k)
    (hwhole : ReadsWhole b .childText) (hstep : byteStep json k b .childText = some (b1, o)) :
    ∃ cs1, talkStep k (b.talk ps cs) .child = some (b1.talk ps cs1, o) ∧
      Abstracts json k b1 ps cs1 := by
  simp only [byteStep] at hstep
  split at hstep
  · rename_i v n hpc hn
    obtain ⟨⟨text, pipe⟩, hread, hrecv⟩ := Option.bind_eq_some_iff.mp hstep
    obtain ⟨⟨child, events⟩, hchild, heq⟩ := Option.map_eq_some_iff.mp hrecv
    cases heq
    have hcarries := h.toChild
    rw [hn] at hcarries
    obtain ⟨hnil, -⟩ | ⟨doc, rest, rfl, rfl, rfl, hrest⟩ :=
      hcarries.reads_text hread (hwhole n hn)
    · exact absurd hnil (h.waits (by rw [hn]; rfl))
    · have hround := (h.roundTrips hjson doc (by simp)).1
      rw [recvText_whole hround] at hchild
      obtain rfl := recv_sends_nothing hchild
      have htalk : talkStep k (b.talk ps (doc :: rest)) .child = some
          (({ b with child := child, toChild := pipe, childLength := none } : ByteTalk).talk ps rest,
            []) := by
        simp only [talkStep, childAct, ByteTalk.talk, hpc, hchild]
        simp
      refine ⟨rest, htalk, ?_⟩
      have hrunning := child_exited_stays hchild
      exact
        { inv := (talk_step k h.inv htalk).1
          toParent := h.toParent
          toChild := hrest
          watched := h.watched
          ended := fun hsome hnil => by
            rw [h.ended hsome hnil] at hrunning
            cases hrunning
          waits := by simp }
  · cases hstep

theorem parentText_follows (h : Abstracts json k b ps cs) (hjson : Readable json k)
    (hwhole : ReadsWhole b .parentText) (hstep : byteStep json k b .parentText = some (b1, o)) :
    ∃ e ps1, talkStep k (b.talk ps cs) e = some (b1.talk ps1 cs, o) ∧
      Abstracts json k b1 ps1 cs := by
  simp only [byteStep] at hstep
  split at hstep
  · rename_i n hn
    obtain ⟨⟨text, pipe⟩, hread, heq⟩ := Option.map_eq_some_iff.mp hstep
    cases heq
    have hsome : b.parentLength.isSome = true := by rw [hn]; rfl
    obtain ⟨fd, hfd⟩ := h.watched hsome
    have hcarries := h.toParent
    rw [hn] at hcarries
    obtain ⟨rfl, rfl, rfl, hrest⟩ | ⟨doc, rest, rfl, rfl, rfl, hrest⟩ :=
      hcarries.reads_text hread (hwhole n hn)
    · -- the end of the pipe
      have hnone : recvText json 0 [] = none := by simp [recvText, hjson.fromJson_nil]
      have hexited := h.ended hsome rfl
      have htalk : talkStep k (b.talk [] cs) .eof = some
          ((byteHear { b with toParent := pipe, parentLength := none } none).1.talk [] cs,
            (byteHear { b with toParent := pipe, parentLength := none } none).2) := by
        simp only [talkStep, ByteTalk.talk, hfd, hexited, if_true]
        rfl
      rw [hnone]
      exact ⟨.eof, [], htalk,
        { inv := (talk_step k h.inv htalk).1
          toParent := hrest
          toChild := h.toChild
          watched := by simp
          ended := by simp
          waits := h.waits }⟩
    · have hround := (h.roundTrips hjson doc (by simp)).1
      rw [recvText_whole hround]
      have htalk : talkStep k (b.talk (doc :: rest) cs) .frame = some
          ((byteHear { b with toParent := pipe, parentLength := none }
            (kiranPamMessageRecvEvent doc)).1.talk rest cs,
            (byteHear { b with toParent := pipe, parentLength := none }
              (kiranPamMessageRecvEvent doc)).2) := by
        simp only [talkStep, ByteTalk.talk, hfd]
        rfl
      exact ⟨.frame, rest, htalk,
        { inv := (talk_step k h.inv htalk).1
          toParent := hrest
          toChild := h.toChild
          watched := by simp
          ended := by simp
          waits := h.waits }⟩
  · cases hstep

theorem respond_follows (h : Abstracts json k b ps cs)
    (hstep : byteStep json k b .respond = some (b1, o)) :
    ∃ new, talkStep k (b.talk ps cs) .respond = some (b1.talk ps (cs ++ new), o) ∧
      Abstracts json k b1 ps (cs ++ new) ∧ b1.toChild = writes json b.toChild new ∧
        b1.toParent = b.toParent := by
  simp only [byteStep] at hstep
  split_ifs at hstep with hready
  cases hstep
  simp only [Bool.and_eq_true, decide_eq_true_eq, List.isEmpty_iff] at hready
  obtain ⟨⟨hlt, hnone⟩, hwriting⟩ := hready
  have htalk : talkStep k (b.talk ps cs) .respond = some
      (({ b with
        toChild := writes json b.toChild (written (b.pam.respond (k.replies b.answered)))
        answered := b.answered + 1 } : ByteTalk).talk ps
          (cs ++ written (b.pam.respond (k.replies b.answered))), []) := by
    simp only [talkStep, ByteTalk.talk, hlt, if_true]
  refine ⟨_, htalk, ?_, rfl, rfl⟩
  exact
    { inv := (talk_step k h.inv htalk).1
      toParent := h.toParent
      toChild := h.toChild.append (writes_bytes hwriting (written_respond_length _ _))
        fun hsome hnil => absurd hnil (h.waits hsome)
      watched := h.watched
      ended := h.ended
      waits := fun hsome hnil => h.waits hsome (List.append_eq_nil_iff.mp hnil).1 }

/-- The kernel takes bytes from a writer. -/
def isFlow : ByteEvent → Bool
  | .flowToParent _ => true
  | .flowToChild _ => true
  | _ => false

theorem flow_follows {e : ByteEvent} (h : Abstracts json k b ps cs) (he : isFlow e = true)
    (hstep : byteStep json k b e = some (b1, o)) :
    Abstracts json k b1 ps cs ∧ b1.talk ps cs = b.talk ps cs ∧ o = [] := by
  cases e with
  | flowToParent n =>
    obtain ⟨pipe, hflow, heq⟩ := Option.map_eq_some_iff.mp hstep
    cases heq
    exact ⟨{ h with toParent := h.toParent.same (Pipe.flow_bytes hflow) }, rfl, rfl⟩
  | flowToChild n =>
    obtain ⟨pipe, hflow, heq⟩ := Option.map_eq_some_iff.mp hstep
    cases heq
    exact ⟨{ h with toChild := h.toChild.same (Pipe.flow_bytes hflow) }, rfl, rfl⟩
  | _ => cases he

/-- A step over bytes whose read is whole is a step over frames, or it changes nothing there. -/
theorem byteStep_follows {e : ByteEvent} (h : Abstracts json k b ps cs) (hjson : Readable json k)
    (hwhole : ReadsWhole b e) (hstep : byteStep json k b e = some (b1, o)) :
    ∃ ps1 cs1, Abstracts json k b1 ps1 cs1 ∧
      ((b1.talk ps1 cs1 = b.talk ps cs ∧ o = [] ∧ (isFlow e = true ∨ unread b1 < unread b)) ∨
        ∃ e1, talkStep k (b.talk ps cs) e1 = some (b1.talk ps1 cs1, o)) := by
  cases e with
  | child =>
    obtain ⟨new, htalk, h1, -⟩ := child_follows h hstep
    exact ⟨ps ++ new, cs, h1, Or.inr ⟨_, htalk⟩⟩
  | childLength =>
    obtain ⟨h1, hsame, ho, hless⟩ := childLength_follows h hjson hwhole hstep
    exact ⟨ps, cs, h1, Or.inl ⟨hsame, ho, Or.inr hless⟩⟩
  | childText =>
    obtain ⟨cs1, htalk, h1⟩ := childText_follows h hjson hwhole hstep
    exact ⟨ps, cs1, h1, Or.inr ⟨_, htalk⟩⟩
  | parentLength =>
    obtain ⟨h1, hsame, ho, hless⟩ := parentLength_follows h hjson hwhole hstep
    exact ⟨ps, cs, h1, Or.inl ⟨hsame, ho, Or.inr hless⟩⟩
  | parentText =>
    obtain ⟨e1, ps1, htalk, h1⟩ := parentText_follows h hjson hwhole hstep
    exact ⟨ps1, cs, h1, Or.inr ⟨_, htalk⟩⟩
  | respond =>
    obtain ⟨new, htalk, h1, -⟩ := respond_follows h hstep
    exact ⟨ps, cs ++ new, h1, Or.inr ⟨_, htalk⟩⟩
  | flowToParent n =>
    obtain ⟨h1, hsame, ho⟩ := flow_follows h rfl hstep
    exact ⟨ps, cs, h1, Or.inl ⟨hsame, ho, Or.inl rfl⟩⟩
  | flowToChild n =>
    obtain ⟨h1, hsame, ho⟩ := flow_follows h rfl hstep
    exact ⟨ps, cs, h1, Or.inl ⟨hsame, ho, Or.inl rfl⟩⟩

/-! ## Frames that are written at once -/

/-- Each frame that the script has the processes send fits into one atomic write. -/
def Atomic (json : JsonText JsonDocument) (k : Script) : Prop :=
  ∀ event, Sends k event → (frame json (kiranPamMessageSendEvent event)).length ≤ PIPE_BUF

/-- No writer is in `write`. -/
def Idle (b : ByteTalk) : Prop := b.toParent.writing = [] ∧ b.toChild.writing = []

theorem Abstracts.reads_whole {e : ByteEvent} (h : Abstracts json k b ps cs) (hidle : Idle b)
    (hstep : byteStep json k b e = some (b1, o)) : ReadsWhole b e := by
  cases e with
  | childLength =>
    simp only [byteStep] at hstep
    split at hstep
    · rename_i v hpc hnone
      obtain ⟨⟨data, pipe⟩, hread, -⟩ := Option.map_eq_some_iff.mp hstep
      have hchild := h.toChild
      rw [hnone] at hchild
      rcases hchild.whole_length hidle.2 with ⟨-, hnil⟩ | ⟨-, hfour⟩
      · -- the read blocks
        obtain ⟨hclosed, -⟩ := Pipe.read_end hread (by decide) hnil
        cases hclosed
      · exact hfour
    · cases hstep
  | childText =>
    intro n hn
    have hchild := h.toChild
    rw [hn] at hchild
    exact hchild.whole_text hidle.2
  | parentLength =>
    simp only [byteStep] at hstep
    split at hstep
    · rename_i fd hfd hnone
      have hparent := h.toParent
      rw [hnone] at hparent
      exact (hparent.whole_length hidle.1).imp And.right And.right
    · cases hstep
  | parentText =>
    intro n hn
    have hparent := h.toParent
    rw [hn] at hparent
    exact hparent.whole_text hidle.1
  | _ => trivial

theorem Abstracts.small {new : List JsonDocument} (h : Abstracts json k b ps cs)
    (hatomic : Atomic json k) (hnew : ∀ doc ∈ new, doc ∈ ps ++ cs) :
    ∀ doc ∈ new, (frame json doc).length ≤ PIPE_BUF := by
  intro doc hdoc
  obtain ⟨event, hsends, rfl⟩ := frames_sent k h.inv doc (hnew doc hdoc)
  exact hatomic event hsends

theorem idle_step {e : ByteEvent} (h : Abstracts json k b ps cs) (hatomic : Atomic json k)
    (hidle : Idle b) (hstep : byteStep json k b e = some (b1, o)) : Idle b1 := by
  cases e with
  | child =>
    obtain ⟨new, -, h1, hparent, hchild⟩ := child_follows h hstep
    refine ⟨?_, hchild ▸ hidle.2⟩
    rw [hparent]
    exact writes_idle json hidle.1 (h1.small hatomic fun doc hdoc => by simp [hdoc])
  | respond =>
    obtain ⟨new, -, h1, hchild, hparent⟩ := respond_follows h hstep
    refine ⟨hparent ▸ hidle.1, ?_⟩
    rw [hchild]
    exact writes_idle json hidle.2 (h1.small hatomic fun doc hdoc => by simp [hdoc])
  | childLength =>
    simp only [byteStep] at hstep
    split at hstep
    · obtain ⟨⟨data, pipe⟩, hread, heq⟩ := Option.map_eq_some_iff.mp hstep
      cases heq
      exact ⟨hidle.1, (Pipe.read_writing hread).trans hidle.2⟩
    · cases hstep
  | childText =>
    simp only [byteStep] at hstep
    split at hstep
    · obtain ⟨⟨text, pipe⟩, hread, hrecv⟩ := Option.bind_eq_some_iff.mp hstep
      obtain ⟨⟨child, events⟩, -, heq⟩ := Option.map_eq_some_iff.mp hrecv
      cases heq
      exact ⟨hidle.1, (Pipe.read_writing hread).trans hidle.2⟩
    · cases hstep
  | parentLength =>
    simp only [byteStep] at hstep
    split at hstep
    · split_ifs at hstep
      obtain ⟨⟨data, pipe⟩, hread, heq⟩ := Option.map_eq_some_iff.mp hstep
      cases heq
      exact ⟨(Pipe.read_writing hread).trans hidle.1, hidle.2⟩
    · cases hstep
  | parentText =>
    simp only [byteStep] at hstep
    split at hstep
    · obtain ⟨⟨text, pipe⟩, hread, heq⟩ := Option.map_eq_some_iff.mp hstep
      cases heq
      exact ⟨(Pipe.read_writing hread).trans hidle.1, hidle.2⟩
    · cases hstep
  | flowToParent n => simp [byteStep, Pipe.flow_idle hidle.1] at hstep
  | flowToChild n => simp [byteStep, Pipe.flow_idle hidle.2] at hstep

/-- Where the talk over frames can go on, so can the one over bytes. -/
theorem Abstracts.goes_on {e : TalkEvent} {t : Talk} (h : Abstracts json k b ps cs)
    (hidle : Idle b) (htalk : talkStep k (b.talk ps cs) e = some (t, o)) :
    ∃ e1 r, byteStep json k b e1 = some r := by
  have hidleParent : (!b.toParent.writing.isEmpty) = false := by rw [hidle.1]; rfl
  have hidleChild : (!b.toChild.writing.isEmpty) = false := by rw [hidle.2]; rfl
  -- the parent that has read a length can read the text
  have htext : ∀ n, b.parentLength = some n → ∃ e1 r, byteStep json k b e1 = some r := by
    intro n hn
    have hparent := h.toParent
    rw [hn] at hparent
    obtain ⟨text, pipe, hread⟩ := Pipe.read_isSome (hasExited b.child.pc)
      (hparent.whole_text hidle.1)
    exact ⟨.parentText, _, by simp only [byteStep, hn, hread]; rfl⟩
  -- and the parent that has not can read a length, when there is a frame or the end of the pipe
  have hlength : b.pam.m_socketNotifier.isSome = true → (ps ≠ [] ∨ hasExited b.child.pc = true) →
      ∃ e1 r, byteStep json k b e1 = some r := by
    intro hfd hmore
    obtain ⟨fd, hfd⟩ := Option.isSome_iff_exists.mp hfd
    rcases hn : b.parentLength with _ | n
    · have hparent := h.toParent
      rw [hn] at hparent
      have hread : ∃ data p1, b.toParent.read 4 (hasExited b.child.pc) = some (data, p1) := by
        rcases hparent.whole_length hidle.1 with ⟨hnil, hbuffer⟩ | ⟨-, hfour⟩
        · have hexited := hmore.resolve_left fun hne => hne hnil
          refine ⟨[], b.toParent, ?_⟩
          rw [Pipe.read, hbuffer, hidle.1, hexited]
          rfl
        · exact Pipe.read_isSome _ hfour
      obtain ⟨data, pipe, hread⟩ := hread
      refine ⟨.parentLength, ({ b with
        toParent := pipe, parentLength := some (ofLittleEndian data) }, []), ?_⟩
      simp only [byteStep, hfd, hn, hidleChild, hread]
      rfl
    · exact htext n hn
  cases e with
  | child =>
    by_cases hwaits : ∃ v, b.child.pc = .waiting v
    · obtain ⟨v, hpc⟩ := hwaits
      have hcs : cs ≠ [] := by
        rintro rfl
        simp [talkStep, childAct, ByteTalk.talk, hpc] at htalk
      have hchild := h.toChild
      rcases hn : b.childLength with _ | n
      · rw [hn] at hchild
        obtain ⟨-, hfour⟩ := (hchild.whole_length hidle.2).resolve_left fun hnil => hcs hnil.1
        obtain ⟨data, pipe, hread⟩ := Pipe.read_isSome false hfour
        refine ⟨.childLength, ({ b with
          toChild := pipe, childLength := some (ofLittleEndian data) }, []), ?_⟩
        simp only [byteStep, hpc, hn, hread]
        rfl
      · rw [hn] at hchild
        obtain ⟨text, pipe, hread⟩ := Pipe.read_isSome false
          (hchild.whole_text hidle.2)
        obtain ⟨c, hc⟩ : ∃ c, b.child.step (.recv (recvText json n text)) = some c := by
          simp only [Child.step, hpc]
          split <;> exact ⟨_, rfl⟩
        refine ⟨.childText, ({ b with child := c.1, toChild := pipe, childLength := none }, []), ?_⟩
        simp only [byteStep, hpc, hn, hread, Option.bind_some, hc]
        rfl
    · rcases hact : childAct k (b.talk [] []) with _ | ⟨act, docs, calls⟩
      · -- what the child does does not depend on the pipe
        have hnone : childAct k (b.talk ps cs) = none := by
          unfold childAct ByteTalk.talk at hact ⊢
          dsimp only at hact ⊢
          split at hact
          · cases hact
          · split at hact <;> cases hact
          · split at hact <;> cases hact
          · rename_i v hpc
            exact absurd ⟨v, hpc⟩ hwaits
          · rfl
        simp [talkStep, hnone] at htalk
      · simp only [talkStep, childAct_talk ps cs hact] at htalk
        obtain ⟨⟨child, events⟩, hchild, -⟩ := Option.map_eq_some_iff.mp htalk
        have hchild : b.child.step act = some (child, events) := hchild
        refine ⟨.child, ({ b with
          child := child
          calls := calls
          toParent := writes json b.toParent (events.map kiranPamMessageSendEvent) }, []), ?_⟩
        simp only [byteStep, hidleParent, hact, hchild]
        rfl
  | frame =>
    simp only [talkStep, ByteTalk.talk] at htalk
    split at htalk
    · rename_i fd doc docs hfd
      exact hlength (by rw [hfd]; rfl) (Or.inl (List.cons_ne_nil doc docs))
    · cases htalk
  | eof =>
    simp only [talkStep, ByteTalk.talk] at htalk
    split at htalk
    · rename_i fd hfd
      by_cases hexited : hasExited b.child.pc = true
      · exact hlength (by rw [hfd]; rfl) (Or.inr hexited)
      · simp [hexited] at htalk
    · cases htalk
  | respond =>
    simp only [talkStep, ByteTalk.talk] at htalk
    by_cases hlt : b.answered < b.signals.countP isPrompt
    · rcases hn : b.parentLength with _ | n
      · refine ⟨.respond, ({ b with
          toChild := writes json b.toChild (written (b.pam.respond (k.replies b.answered)))
          answered := b.answered + 1 }, []), ?_⟩
        have hidle2 : b.toChild.writing.isEmpty = true := by rw [hidle.2]; rfl
        simp only [byteStep, hlt, hn, hidle2, decide_true, Option.isNone_none, Bool.and_self,
          if_true]
      · exact htext n hn
    · simp [hlt] at htalk

end Steps

/-! ## The bytes do not matter -/

theorem start_abstracts {a : AuthPam} {userName : String} {answer : ForkAnswer}
    (ha : a = fresh ∨ ∃ b : AuthPam, a = b.cancelAuthentication.1)
    (hstart : (a.authenticate userName answer).2.2 = true) :
    Abstracts json k (.start k (a.authenticate userName answer).1) [] [] where
  inv := talk_start k ha hstart
  toParent := .between rfl
  toChild := .between rfl
  watched := by simp [ByteTalk.start]
  ended := by simp [ByteTalk.start]
  waits := by simp [ByteTalk.start]

/-- A run over bytes in which each read finds all that it asks for, however the kernel moves the
bytes and the two processes take turns, is a run over frames with the same signals. -/
theorem whole_reads_are_frames {a : AuthPam} {userName : String} {answer : ForkAnswer}
    (hjson : Readable json k) (ha : a = fresh ∨ ∃ b : AuthPam, a = b.cancelAuthentication.1)
    (hstart : (a.authenticate userName answer).2.2 = true) {es : List ByteEvent} {b : ByteTalk}
    {o : List Signal}
    (hwhole : Meets (byteStep json k) ReadsWhole (.start k (a.authenticate userName answer).1) es)
    (h : run (byteStep json k) (.start k (a.authenticate userName answer).1) es = some (b, o)) :
    ∃ fs ps cs, run (talkStep k) (.start k (a.authenticate userName answer).1) fs =
        some (b.talk ps cs, o) ∧
      Carries json b.parentLength b.toParent ps ∧ Carries json b.childLength b.toChild cs := by
  have hfollows : Follows (byteStep json k) (talkStep k) ReadsWhole
      (fun b t => ∃ ps cs, t = b.talk ps cs ∧ Abstracts json k b ps cs) := by
    rintro b t e b1 o ⟨ps, cs, rfl, hb⟩ hwhole hstep
    obtain ⟨ps1, cs1, h1, ⟨hsame, rfl, -⟩ | ⟨e1, htalk⟩⟩ := byteStep_follows hb hjson hwhole hstep
    · exact ⟨[], _, rfl, ps1, cs1, hsame.symm, h1⟩
    · exact ⟨[e1], _, run_cons_iff.mpr ⟨_, o, [], htalk, rfl, by simp⟩, ps1, cs1, rfl, h1⟩
  obtain ⟨fs, t, hfs, ps, cs, rfl, hb⟩ := run_follows hfollows
    ⟨[], [], rfl, start_abstracts json k ha hstart⟩ hwhole h
  exact ⟨fs, ps, cs, hfs, hb.toParent, hb.toChild⟩

/-- When every frame fits into one atomic write, each read finds all that it asks for. -/
theorem atomic_meets {a : AuthPam} {userName : String} {answer : ForkAnswer}
    (hjson : Readable json k) (hatomic : Atomic json k)
    (ha : a = fresh ∨ ∃ b : AuthPam, a = b.cancelAuthentication.1)
    (hstart : (a.authenticate userName answer).2.2 = true) (es : List ByteEvent) :
    Meets (byteStep json k) ReadsWhole (.start k (a.authenticate userName answer).1) es := by
  refine always_of_inv (I := fun b => ∃ ps cs, Abstracts json k b ps cs ∧ Idle b)
    (G := fun _ _ => True) ?_ ⟨[], [], start_abstracts json k ha hstart, rfl, rfl⟩ meets_true
  rintro b e b1 o ⟨ps, cs, hb, hidle⟩ - hstep
  have hwhole := hb.reads_whole hidle hstep
  obtain ⟨ps1, cs1, h1, -⟩ := byteStep_follows hb hjson hwhole hstep
  exact ⟨⟨ps1, cs1, h1, idle_step hb hatomic hidle hstep⟩, hwhole⟩

/-- When every frame fits into one atomic write, no read is cut off: each run over bytes is a run
over frames with the same signals, it comes to an end, and when it can go no further the run over
frames cannot either. -/
theorem atomic_frames_are_read_whole {a : AuthPam} {userName : String} {answer : ForkAnswer}
    (hjson : Readable json k) (hatomic : Atomic json k)
    (ha : a = fresh ∨ ∃ b : AuthPam, a = b.cancelAuthentication.1)
    (hstart : (a.authenticate userName answer).2.2 = true) {es : List ByteEvent} {b : ByteTalk}
    {o : List Signal}
    (h : run (byteStep json k) (.start k (a.authenticate userName answer).1) es = some (b, o)) :
    ∃ fs ps cs, run (talkStep k) (.start k (a.authenticate userName answer).1) fs =
        some (b.talk ps cs, o) ∧
      es.length ≤ 3 * pam_talk.work (.start k (a.authenticate userName answer).1) + 2 ∧
      (Stuck (byteStep json k) b → Stuck (talkStep k) (b.talk ps cs)) := by
  have hfollows : ∀ b t e b1 o, (∃ ps cs, t = b.talk ps cs ∧ Abstracts json k b ps cs ∧ Idle b) →
      byteStep json k b e = some (b1, o) → ∃ fs t1, run (talkStep k) t fs = some (t1, o) ∧
        (∃ ps cs, t1 = b1.talk ps cs ∧ Abstracts json k b1 ps cs ∧ Idle b1) ∧
          3 * pam_talk.work t1 + unread b1 < 3 * pam_talk.work t + unread b := by
    rintro b t e b1 o ⟨ps, cs, rfl, hb, hidle⟩ hstep
    have hidle1 := idle_step hb hatomic hidle hstep
    obtain ⟨ps1, cs1, h1, ⟨hsame, rfl, hless⟩ | ⟨e1, htalk⟩⟩ :=
      byteStep_follows hb hjson (hb.reads_whole hidle hstep) hstep
    · refine ⟨[], _, rfl, ⟨ps1, cs1, hsame.symm, h1, hidle1⟩, ?_⟩
      rcases hless with hflow | hless
      · cases e with
        | flowToParent n => simp [byteStep, Pipe.flow_idle hidle.1] at hstep
        | flowToChild n => simp [byteStep, Pipe.flow_idle hidle.2] at hstep
        | _ => cases hflow
      · omega
    · refine ⟨[e1], _, run_cons_iff.mpr ⟨_, o, [], htalk, rfl, by simp⟩,
        ⟨ps1, cs1, rfl, h1, hidle1⟩, ?_⟩
      have hlt := (talk_step k hb.inv htalk).2
      have := unread_le b1
      omega
  obtain ⟨fs, t, hfs, ⟨ps, cs, rfl, hb, hidle⟩, hle⟩ :=
    @run_follows_le _ _ _ _ _ _ _ _ (fun b t => 3 * pam_talk.work t + unread b) hfollows _ _ _ _ _
      ⟨[], [], rfl, start_abstracts json k ha hstart, rfl, rfl⟩ h
  refine ⟨fs, ps, cs, hfs, ?_, ?_⟩
  · have : unread (.start k (a.authenticate userName answer).1) = 2 := rfl
    exact le_trans (Nat.le_add_right _ _) hle
  · intro hstuck e
    by_contra hmore
    obtain ⟨⟨t, o⟩, htalk⟩ := Option.ne_none_iff_exists'.mp hmore
    obtain ⟨e1, r, hstep⟩ := hb.goes_on hidle htalk
    rw [hstuck e1] at hstep
    cases hstep

/-! ## A talk of one prompt -/

/-- The events of `passwordScript`, their texts as Qt writes them, and the documents that it reads
from these. -/
def talkTexts : List (PamEvent × String × JsonDocument) :=
  [(.PromptRequestEvent true "Password: ",
      "\x7b\n    \"event\": 1,\n    \"secret\": true,\n    \"text\": \"Password: \"\n\x7d\n",
      .object [("event", .double 1), ("secret", .bool true), ("text", .string "Password: ")]),
    (.PromptReplyEvent true "secret",
      "\x7b\n    \"event\": 2,\n    \"reply_result\": true,\n    \"text\": \"secret\"\n\x7d\n",
      .object [("event", .double 2), ("reply_result", .bool true), ("text", .string "secret")]),
    (.CompleteEvent true true "Success",
      "\x7b\n    \"auth_result\": true,\n    \"complete\": true,\n    \"event\": 4,\n" ++
        "    \"text\": \"Success\"\n\x7d\n",
      .object [("auth_result", .bool true), ("complete", .bool true), ("event", .double 4),
        ("text", .string "Success")])]

/-- Qt, as far as these texts go. -/
def talkText : JsonText JsonDocument where
  toJson doc :=
    match talkTexts.find? fun sample => kiranPamMessageSendEvent sample.1 = doc with
    | none => []
    | some sample => ascii sample.2.1
  fromJson text := (talkTexts.find? fun sample => ascii sample.2.1 = text).map (·.2.2)

theorem passwordScript_sends {event : PamEvent} (h : Sends (passwordScript "secret") event) :
    event ∈ talkTexts.map (·.1) := by
  rcases h with ⟨m, hm, heq⟩ | rfl | ⟨i, rfl⟩
  · obtain rfl : m = ⟨.PAM_PROMPT_ECHO_OFF, "Password: "⟩ := by
      simpa [passwordScript] using hm
    cases heq
    decide
  · decide
  · show PamEvent.PromptReplyEvent true "secret" ∈ talkTexts.map (·.1)
    decide

/-- The members of a completion, as they are written and as they are read. -/
theorem lookup_complete (key : String) :
    [("auth_result", JsonValue.bool true), ("complete", .bool true), ("event", .double 4),
        ("text", .string "Success")].lookup key =
      (kiranPamMessageSendEvent (.CompleteEvent true true "Success")).toObject.lookup key := by
  by_cases h1 : key = "event"
  · subst h1
    rfl
  · by_cases h2 : key = "text"
    · subst h2
      rfl
    · by_cases h3 : key = "complete"
      · subst h3
        rfl
      · have e1 : (key == "event") = false := beq_false_of_ne h1
        have e2 : (key == "text") = false := beq_false_of_ne h2
        have e3 : (key == "complete") = false := beq_false_of_ne h3
        simp [kiranPamMessageSendEvent, PamEvent.members, JsonDocument.toObject, List.lookup_cons,
          e1, e2, e3]

theorem talkText_readable : Readable talkText (passwordScript "secret") where
  roundTrips event h := by
    have hmem := passwordScript_sends h
    simp only [talkTexts, List.map_cons, List.map_nil, List.mem_cons, List.not_mem_nil,
      or_false] at hmem
    rcases hmem with rfl | rfl | rfl
    · refine ⟨_, rfl, fun key => lookup_swap key ("event", .double 1) ("secret", .bool true)
        ("text", .string "Password: ") (show "secret" ≠ "text" by decide)⟩
    · refine ⟨_, rfl, fun key => lookup_swap key ("event", .double 2) ("reply_result", .bool true)
        ("text", .string "secret") (show "reply_result" ≠ "text" by decide)⟩
    · exact ⟨_, rfl, fun key => lookup_complete key⟩
  length_lt event h := by
    have hsmall : ∀ event ∈ talkTexts.map (·.1),
        (talkText.toJson (kiranPamMessageSendEvent event)).length < 2 ^ 31 := by decide
    exact hsmall event (passwordScript_sends h)
  fromJson_nil := rfl

/-- The talk of one prompt, with the two reads of each frame. -/
def passwordBytes : List ByteEvent :=
  [.child, .child, .child, .parentLength, .parentText, .respond, .childLength, .childText,
    .child, .child, .parentLength, .parentText, .parentLength, .parentText]

theorem talkText_atomic : Atomic talkText (passwordScript "secret") := by
  intro event h
  have hsmall : ∀ event ∈ talkTexts.map (·.1),
      (frame talkText (kiranPamMessageSendEvent event)).length ≤ PIPE_BUF := by decide
  exact hsmall event (passwordScript_sends h)

theorem passwordBytes_run : ∃ r, run (byteStep talkText (passwordScript "secret"))
    (.start (passwordScript "secret") (fresh.authenticate "root" forked).1) passwordBytes =
      some r := ⟨_, rfl⟩

theorem a_password_in_whole_reads :
    ∃ b o fs ps cs, run (byteStep talkText (passwordScript "secret"))
        (.start (passwordScript "secret") (fresh.authenticate "root" forked).1) passwordBytes =
          some (b, o) ∧
      run (talkStep (passwordScript "secret")) (.start (passwordScript "secret")
        (fresh.authenticate "root" forked).1) fs = some (b.talk ps cs, o) := by
  obtain ⟨⟨b, o⟩, hrun⟩ := passwordBytes_run
  have hwhole := @atomic_meets talkText (passwordScript "secret") fresh "root" forked
    talkText_readable talkText_atomic (Or.inl rfl) rfl passwordBytes
  obtain ⟨fs, ps, cs, h, -⟩ := whole_reads_are_frames talkText (passwordScript "secret")
    talkText_readable (Or.inl rfl) rfl hwhole hrun
  exact ⟨b, o, fs, ps, cs, hrun, h⟩

theorem a_password_in_atomic_frames :
    ∃ b o fs ps cs, run (byteStep talkText (passwordScript "secret"))
        (.start (passwordScript "secret") (fresh.authenticate "root" forked).1) passwordBytes =
          some (b, o) ∧
      run (talkStep (passwordScript "secret")) (.start (passwordScript "secret")
        (fresh.authenticate "root" forked).1) fs = some (b.talk ps cs, o) := by
  obtain ⟨⟨b, o⟩, hrun⟩ := passwordBytes_run
  obtain ⟨fs, ps, cs, h, -⟩ := atomic_frames_are_read_whole talkText (passwordScript "secret")
    talkText_readable talkText_atomic (Or.inl rfl) rfl hrun
  exact ⟨b, o, fs, ps, cs, hrun, h⟩

end session_guard.byte_talk
