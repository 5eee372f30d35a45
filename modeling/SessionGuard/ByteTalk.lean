-- The talk of `AuthPam` and its child over pipes of bytes. A frame is written in one call, and
-- read in two, first its length and then its text.
import SessionGuard.BytePipe
import SessionGuard.PamFrame
import SessionGuard.PamTalkLaws

open machine

namespace session_guard.byte_talk

open byte_stream pam_message pam_frame auth_pam checkpass
open pam_talk

/-! ## Frames in a pipe -/

variable (json : JsonText JsonDocument) (k : Script)

/-- The frames are written, one after the other. -/
def writes (p : Pipe) (docs : List JsonDocument) : Pipe :=
  docs.foldl (fun p doc => p.write (frame json doc)) p

/-- What `kiran_pam_message_recv_event` makes of a length and of what the second read gave. -/
def recvText (length : Nat) (byteArray : List UInt8) : Option PamEvent :=
  (if byteArray.length < length then none else json.fromJson byteArray).bind kiranPamMessageRecvEvent

section Frames

variable {json}

/-- The bytes of the frames. -/
def stream (json : JsonText JsonDocument) (docs : List JsonDocument) : List UInt8 :=
  docs.flatMap (frame json)

variable (json) in
theorem frame_length_pos (doc : JsonDocument) : 4 ≤ (frame json doc).length := by
  simp [frame]

/-- No process writes two frames at once. -/
theorem writes_bytes {p : Pipe} {docs : List JsonDocument} (h : p.writing = [])
    (hone : docs.length ≤ 1) : (writes json p docs).bytes = p.bytes ++ stream json docs := by
  rcases docs with _ | ⟨doc, _ | ⟨doc2, docs⟩⟩
  · simp [writes, stream]
  · simpa [writes, stream] using Pipe.write_bytes h
  · simp at hone

theorem stream_nil_iff {docs : List JsonDocument} : stream json docs = [] ↔ docs = [] := by
  constructor
  · intro h
    rcases docs with _ | ⟨doc, docs⟩
    · rfl
    · have := frame_length_pos json doc
      simp only [stream, List.flatMap_cons, List.append_eq_nil_iff] at h
      rw [h.1] at this
      simp at this
  · rintro rfl
    rfl

/-- The two reads of `kiran_pam_message_recv_event`, and what it makes of them. -/
theorem recvEvent_of_reads {c c1 c2 : Channel} {length text : List UInt8}
    (h1 : c.read 4 = (some length, c1)) (h2 : c1.read (ofLittleEndian length) = (some text, c2)) :
    kiranPamMessageRecvEventBytes json c = (recvText json (ofLittleEndian length) text, c2) := by
  unfold kiranPamMessageRecvEventBytes kiranPamMessageRecv recvText
  simp only [h1, h2]
  split_ifs <;> rfl

theorem recvText_whole {doc : JsonDocument} (h : RoundTrips json doc) :
    recvText json (json.toJson doc).length (json.toJson doc) = kiranPamMessageRecvEvent doc := by
  obtain ⟨doc', hfrom, hsame⟩ := h
  simp [recvText, hfrom, recvEvent_congr hsame]

end Frames

/-- The pipe carries these frames. Of the first one, its reader may have read the length; and a
reader that has come to the end of the pipe has read 0. -/
inductive Carries : Option Nat → Pipe → List JsonDocument → Prop
  | between {p : Pipe} {docs : List JsonDocument} (bytes : p.bytes = stream json docs) :
    Carries none p docs
  | within {p : Pipe} {doc : JsonDocument} {docs : List JsonDocument}
    (bytes : p.bytes = json.toJson doc ++ stream json docs) :
    Carries (some (json.toJson doc).length) p (doc :: docs)
  | atEnd {p : Pipe} (bytes : p.bytes = []) : Carries (some 0) p []

section Carries

variable {json} {n : Option Nat} {p p1 : Pipe} {docs : List JsonDocument}

theorem Carries.append {new : List JsonDocument} (h : Carries json n p docs)
    (hbytes : p1.bytes = p.bytes ++ stream json new)
    (hmore : n.isSome = true → docs = [] → new = []) : Carries json n p1 (docs ++ new) := by
  cases h with
  | between bytes =>
    refine .between ?_
    rw [hbytes, bytes]
    simp [stream]
  | within bytes =>
    refine .within ?_
    rw [hbytes, bytes]
    simp [stream]
  | atEnd bytes =>
    obtain rfl := hmore rfl rfl
    refine .atEnd ?_
    rw [hbytes, bytes]
    rfl

theorem Carries.same (h : Carries json n p docs) (hbytes : p1.bytes = p.bytes) :
    Carries json n p1 docs := by
  have hnil : p1.bytes = p.bytes ++ stream json [] := by
    rw [hbytes]
    simp [stream]
  simpa using h.append hnil fun _ _ => rfl

/-- A length that is read whole is that of the first frame, or there is none and the pipe is
closed. -/
theorem Carries.reads_length {closed : Bool} {data : List UInt8} (h : Carries json none p docs)
    (hlen : ∀ doc ∈ docs, (json.toJson doc).length < 2 ^ 31)
    (hread : p.read 4 closed = some (data, p1)) (hwhole : p.buffer = [] ∨ 4 ≤ p.buffer.length) :
    Carries json (some (ofLittleEndian data)) p1 docs ∧ (docs = [] → closed = true) := by
  cases h with
  | between bytes =>
    rcases hwhole with hnil | hfour
    · obtain ⟨hclosed, hempty, rfl, rfl⟩ := Pipe.read_end hread (by decide) hnil
      obtain rfl := stream_nil_iff.mp (bytes.symm.trans hempty)
      exact ⟨.atEnd hempty, fun _ => hclosed⟩
    · obtain ⟨rfl, hrest⟩ := Pipe.read_whole hread hfour
      rcases docs with _ | ⟨doc, docs⟩
      · have hshort := congrArg List.length bytes
        simp only [Pipe.bytes, List.length_append, stream, List.flatMap_nil, List.length_nil]
          at hshort
        omega
      · have hsplit : p.bytes = littleEndian 4 (json.toJson doc).length ++
            (json.toJson doc ++ stream json docs) := by
          rw [bytes, stream, List.flatMap_cons, frame, List.append_assoc]
          rfl
        have hfirst : p.bytes.take 4 = littleEndian 4 (json.toJson doc).length := by
          rw [hsplit, List.take_append_of_le_length (by simp), List.take_of_length_le (by simp)]
        have hlater : p.bytes.drop 4 = json.toJson doc ++ stream json docs := by
          rw [hsplit, List.drop_append_of_le_length (by simp), List.drop_of_length_le (by simp)]
          rfl
        rw [hfirst, ofLittleEndian_header (hlen doc List.mem_cons_self)]
        exact ⟨.within (hrest.trans hlater), by simp⟩

/-- A text that is read whole is that of the first frame, or there is none. -/
theorem Carries.reads_text {closed : Bool} {length : Nat} {data : List UInt8}
    (h : Carries json (some length) p docs) (hread : p.read length closed = some (data, p1))
    (hwhole : length ≤ p.buffer.length) :
    (docs = [] ∧ length = 0 ∧ data = [] ∧ Carries json none p1 []) ∨
      ∃ doc rest, docs = doc :: rest ∧ length = (json.toJson doc).length ∧
        data = json.toJson doc ∧ Carries json none p1 rest := by
  obtain ⟨rfl, hrest⟩ := Pipe.read_whole hread hwhole
  cases h with
  | within bytes =>
    refine Or.inr ⟨_, _, rfl, rfl, ?_, .between ?_⟩
    · rw [bytes, List.take_left]
    · rw [hrest, bytes, List.drop_left]
  | atEnd bytes =>
    refine Or.inl ⟨rfl, rfl, rfl, .between ?_⟩
    rw [hrest, bytes]
    rfl

/-- A pipe whose writer is idle holds the next length whole, or nothing. -/
theorem Carries.whole_length {p : Pipe} {docs : List JsonDocument} (h : Carries json none p docs)
    (hidle : p.writing = []) :
    (docs = [] ∧ p.buffer = []) ∨ (docs ≠ [] ∧ 4 ≤ p.buffer.length) := by
  cases h with
  | between bytes =>
    rw [Pipe.bytes, hidle, List.append_nil] at bytes
    rcases docs with _ | ⟨doc, docs⟩
    · exact Or.inl ⟨rfl, bytes⟩
    · have := frame_length_pos json doc
      refine Or.inr ⟨by simp, ?_⟩
      rw [bytes, stream, List.flatMap_cons, List.length_append]
      omega

/-- It holds the text whole whose length was read. -/
theorem Carries.whole_text {p : Pipe} {n : Nat} {docs : List JsonDocument}
    (h : Carries json (some n) p docs) (hidle : p.writing = []) : n ≤ p.buffer.length := by
  cases h with
  | within bytes =>
    rw [Pipe.bytes, hidle, List.append_nil] at bytes
    rw [bytes, List.length_append]
    omega
  | atEnd bytes => omega

end Carries

theorem writes_idle {p : Pipe} {docs : List JsonDocument} (h : p.writing = [])
    (hsmall : ∀ doc ∈ docs, (frame json doc).length ≤ PIPE_BUF) :
    (writes json p docs).writing = [] := by
  induction docs generalizing p with
  | nil => exact h
  | cons doc docs ih =>
    exact ih (Pipe.write_idle h (hsmall doc List.mem_cons_self))
      fun d hd => hsmall d (List.mem_cons_of_mem _ hd)

/-! ## The talk -/

structure ByteTalk where
  pam : AuthPam
  child : Child := {}
  calls : List (List Msg)
  toParent : Pipe := {}
  toChild : Pipe := {}
  /-- The length that the parent has read, when it has not read the text. -/
  parentLength : Option Nat := none
  childLength : Option Nat := none
  signals : List Signal := []
  answered : Nat := 0

inductive ByteEvent
  /-- The child goes on, and reads nothing. -/
  | child
  /-- The child reads a length. -/
  | childLength
  /-- The child reads a text, and has its reply. -/
  | childText
  /-- The notifier fires, and the parent reads a length. -/
  | parentLength
  /-- The parent reads a text, and handles the event. -/
  | parentText
  /-- The user answers the first prompt that has no answer. -/
  | respond
  | flowToParent (n : Nat)
  | flowToChild (n : Nat)

/-- The talk over frames, with these frames in the pipes. -/
def ByteTalk.talk (b : ByteTalk) (toParent toChild : List JsonDocument) : Talk where
  pam := b.pam
  child := b.child
  calls := b.calls
  toParent := toParent
  toChild := toChild
  signals := b.signals
  answered := b.answered

/-- The parent handles what it read. -/
def byteHear (b : ByteTalk) (pamEvent : Option PamEvent) : ByteTalk × List Signal :=
  let r := b.pam.handlePipeActivated pamEvent
  ({ b with pam := r.1, signals := b.signals ++ emitted r.2 }, emitted r.2)

/-- The writer of a pipe is blocked while it has bytes to hand over, and a reader until there are
some. The parent has one thread for the notifier and the user. -/
def byteStep : Step ByteTalk ByteEvent Signal
  | b, .child =>
    if !b.toParent.writing.isEmpty then none
    else
      match childAct k (b.talk [] []) with
      | none => none
      | some (act, _, calls) =>
        (b.child.step act).map fun (child, events) =>
          ({ b with
            child := child
            calls := calls
            toParent := writes json b.toParent (events.map kiranPamMessageSendEvent) }, [])
  | b, .childLength =>
    match b.child.pc, b.childLength with
    | .waiting _, none =>
      (b.toChild.read 4 false).map fun (length, pipe) =>
        ({ b with toChild := pipe, childLength := some (ofLittleEndian length) }, [])
    | _, _ => none
  | b, .childText =>
    match b.child.pc, b.childLength with
    | .waiting _, some n =>
      (b.toChild.read n false).bind fun (text, pipe) =>
        (b.child.step (.recv (recvText json n text))).map fun (child, _) =>
          ({ b with child := child, toChild := pipe, childLength := none }, [])
    | _, _ => none
  | b, .parentLength =>
    match b.pam.m_socketNotifier, b.parentLength with
    | some _, none =>
      if !b.toChild.writing.isEmpty then none
      else
        (b.toParent.read 4 (hasExited b.child.pc)).map fun (length, pipe) =>
          ({ b with toParent := pipe, parentLength := some (ofLittleEndian length) }, [])
    | _, _ => none
  | b, .parentText =>
    match b.parentLength with
    | some n =>
      (b.toParent.read n (hasExited b.child.pc)).map fun (text, pipe) =>
        byteHear { b with toParent := pipe, parentLength := none } (recvText json n text)
    | none => none
  | b, .respond =>
    if b.answered < b.signals.countP isPrompt && b.parentLength.isNone &&
        b.toChild.writing.isEmpty then
      some ({ b with
        toChild := writes json b.toChild (written (b.pam.respond (k.replies b.answered)))
        answered := b.answered + 1 }, [])
    else none
  | b, .flowToParent n => (b.toParent.flow n).map fun pipe => ({ b with toParent := pipe }, [])
  | b, .flowToChild n => (b.toChild.flow n).map fun pipe => ({ b with toChild := pipe }, [])

/-- The start of the talk, right after `authenticate`. -/
def ByteTalk.start (a : AuthPam) : ByteTalk where
  pam := a
  calls := k.calls

/-- The read that the event makes finds all that it asks for, or the end of the pipe. -/
def ReadsWhole (b : ByteTalk) : ByteEvent → Prop
  | .childLength => 4 ≤ b.toChild.buffer.length
  | .childText => ∀ n, b.childLength = some n → n ≤ b.toChild.buffer.length
  | .parentLength => b.toParent.buffer = [] ∨ 4 ≤ b.toParent.buffer.length
  | .parentText => ∀ n, b.parentLength = some n → n ≤ b.toParent.buffer.length
  | _ => True

/-- The events that the script has the two processes send. -/
def Sends (event : PamEvent) : Prop :=
  (∃ m ∈ k.calls.flatten, m.event = some event) ∨ event = k.complete ∨
    ∃ i, event = .PromptReplyEvent true (k.replies i)

/-- Qt gives each of the events back, no text is empty for it, and no frame is too long. -/
structure Readable (json : JsonText JsonDocument) (k : Script) : Prop where
  roundTrips : ∀ event, Sends k event → RoundTrips json (kiranPamMessageSendEvent event)
  length_lt : ∀ event, Sends k event →
    (json.toJson (kiranPamMessageSendEvent event)).length < 2 ^ 31
  fromJson_nil : json.fromJson [] = none

end session_guard.byte_talk
