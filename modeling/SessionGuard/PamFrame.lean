-- The frames on the two pipes: the length of a JSON text in four bytes, then
-- the text (`checkpass-common/pam-message`). A stream of frames comes back in
-- order, and one frame comes back as far as `read` gives it in two pieces.
import SessionGuard.ByteStream
import SessionGuard.PamMessage

namespace session_guard.pam_frame

open byte_stream pam_message

/-! ## The functions -/

/-- `QJsonDocument::toJson` and `QJsonDocument::fromJson`, where `none` is a
null document. -/
structure JsonText (Doc : Type) where
  toJson : Doc → List UInt8
  fromJson : List UInt8 → Option Doc

section Frame

variable {Doc : Type} (json : JsonText Doc)

/-- The bytes that `kiran_pam_message_send` writes in one call. The length is a
`uint32_t` of a little-endian machine. -/
def frame (content : Doc) : List UInt8 :=
  littleEndian 4 (json.toJson content).length ++ json.toJson content

/-- `kiran_pam_message_send`, with the bytes that go on the channel. `written` is
what `write` gives: how many bytes it took, or `none` for an error. -/
def kiranPamMessageSend (content : Doc) (written : Option Nat) : Bool × List UInt8 :=
  (written = some (frame json content).length, (frame json content).take (written.getD 0))

/-- `kiran_pam_message_recv`, with the document, or `none` for false. -/
def kiranPamMessageRecv (c : Channel) : Option Doc × Channel :=
  let header := c.read 4
  match header.1 with
  | none => (none, header.2)
  | some bytes =>
    -- the bytes of `length` that a short read does not fill are 0
    let length := ofLittleEndian bytes
    let body := header.2.read length
    match body.1 with
    | none => (none, body.2)
    | some byteArray =>
      if byteArray.length < length then (none, body.2) else (json.fromJson byteArray, body.2)

end Frame

variable (json : JsonText JsonDocument)

/-- `kiran_pam_message_send_event`. What the send gives is not looked at. -/
def kiranPamMessageSendEventBytes (event : PamEvent) (written : Option Nat) :
    Bool × List UInt8 :=
  (true, (kiranPamMessageSend json (kiranPamMessageSendEvent event) written).2)

/-- `kiran_pam_message_recv_event`, with the event, or `none` for false. -/
def kiranPamMessageRecvEventBytes (c : Channel) : Option PamEvent × Channel :=
  let received := kiranPamMessageRecv json c
  (received.1.bind kiranPamMessageRecvEvent, received.2)

/-! ## One frame -/

section Frame

variable {Doc : Type} {json : JsonText Doc} {content : Doc} {rest : List UInt8}
  {answers : List ReadAnswer}

theorem header_length (n : Nat) : (littleEndian 4 n).length = 4 := littleEndian_length 4 n

theorem ofLittleEndian_header {n : Nat} (h : n < 2 ^ 31) :
    ofLittleEndian (littleEndian 4 n) = n := by
  apply ofLittleEndian_littleEndian
  omega

theorem read_header (herr : Channel.NoError answers) (hhead : Channel.Whole answers 4) :
    Channel.read ⟨frame json content ++ rest, answers⟩ 4 =
      (some (littleEndian 4 (json.toJson content).length),
        ⟨json.toJson content ++ rest, answers.tail⟩) := by
  have hread := @Channel.read_whole (littleEndian 4 (json.toJson content).length)
    (json.toJson content ++ rest) answers herr (by rwa [header_length])
  rwa [header_length, ← List.append_assoc] at hread

/-- Two reads that are not cut off read one frame and leave the rest. -/
theorem recv_frame (herr : Channel.NoError answers)
    (hlen : (json.toJson content).length < 2 ^ 31) (hhead : Channel.Whole answers 4)
    (hbody : Channel.Whole answers.tail (json.toJson content).length) :
    kiranPamMessageRecv json ⟨frame json content ++ rest, answers⟩ =
      (json.fromJson (json.toJson content), ⟨rest, answers.tail.tail⟩) := by
  have hread := @Channel.read_whole _ rest _ herr.tail hbody
  unfold kiranPamMessageRecv
  simp only [read_header herr hhead, ofLittleEndian_header hlen, hread, lt_irrefl, if_false]

/-- `kiran_pam_message_recv` takes no more bytes than the header says. -/
theorem recv_bytes_le {c c1 : Channel} {bytes : List UInt8} (h : c.read 4 = (some bytes, c1)) :
    c1.bytes.length ≤ (kiranPamMessageRecv json c).2.bytes.length + ofLittleEndian bytes := by
  have hbody := Channel.read_length_le c1 (ofLittleEndian bytes)
  unfold kiranPamMessageRecv
  simp only [h]
  split
  · exact hbody
  · split_ifs <;> exact hbody

/-- A header that is cut off leaves bytes of the frame on the channel. -/
theorem recv_short_header (hlen : (json.toJson content).length < 2 ^ 31)
    (hhead : ¬ Channel.Whole answers 4) :
    rest.length <
      (kiranPamMessageRecv json ⟨frame json content ++ rest, answers⟩).2.bytes.length := by
  obtain ⟨limit, hlt, hread⟩ := @Channel.read_short ⟨frame json content ++ rest, answers⟩ 4 hhead
  have htake : (frame json content ++ rest).take limit =
      (littleEndian 4 (json.toJson content).length).take limit := by
    have := header_length (json.toJson content).length
    rw [frame, List.append_assoc, List.take_append_of_le_length (by omega)]
  rw [Channel.taken, htake] at hread
  have hle := @recv_bytes_le _ json _ _ _ hread
  have hsmall := ofLittleEndian_take_le (littleEndian 4 (json.toJson content).length) limit
  have htotal : (frame json content ++ rest).length =
      4 + (json.toJson content).length + rest.length := by
    simp [frame, Nat.add_assoc]
  rw [ofLittleEndian_header hlen] at hsmall
  rw [List.length_drop, htotal] at hle
  omega

/-- A text that is cut off is turned away. -/
theorem recv_short_text (herr : Channel.NoError answers)
    (hlen : (json.toJson content).length < 2 ^ 31) (hhead : Channel.Whole answers 4)
    (hbody : ¬ Channel.Whole answers.tail (json.toJson content).length) :
    (kiranPamMessageRecv json ⟨frame json content ++ rest, answers⟩).1 = none := by
  obtain ⟨limit, hlt, hread⟩ :=
    @Channel.read_short ⟨json.toJson content ++ rest, answers.tail⟩ _ hbody
  have hshort : ((json.toJson content ++ rest).take limit).length <
      (json.toJson content).length := by
    rw [List.length_take]
    omega
  unfold kiranPamMessageRecv
  simp only [read_header herr hhead, ofLittleEndian_header hlen, hread, Channel.taken,
    if_pos hshort]

end Frame

/-! ## Events through a JSON text -/

/-- The objects of the two documents have the same members, in any order. -/
def SameMembers (doc doc' : JsonDocument) : Prop :=
  ∀ key, doc'.toObject.lookup key = doc.toObject.lookup key

/-- The text of the document gives a document with the same members. -/
def RoundTrips (json : JsonText JsonDocument) (doc : JsonDocument) : Prop :=
  ∃ doc', json.fromJson (json.toJson doc) = some doc' ∧ SameMembers doc doc'

theorem isEmpty_iff_lookup (o : JsonObject) : o.isEmpty = true ↔ ∀ key, o.lookup key = none := by
  cases o with
  | nil => simp
  | cons m o =>
    obtain ⟨key, value⟩ := m
    simp only [List.isEmpty_cons, Bool.false_eq_true, false_iff, not_forall]
    exact ⟨key, by simp⟩

/-- The decoder looks at the members only. -/
theorem recvEvent_congr {doc doc' : JsonDocument} (h : SameMembers doc doc') :
    kiranPamMessageRecvEvent doc' = kiranPamMessageRecvEvent doc := by
  have hvalue : ∀ key, doc'.toObject.value key = doc.toObject.value key := by
    intro key
    rw [JsonObject.value, JsonObject.value, h key]
  have hempty : doc'.toObject.isEmpty = doc.toObject.isEmpty := by
    rw [Bool.eq_iff_iff, isEmpty_iff_lookup, isEmpty_iff_lookup]
    exact forall_congr' fun key => by rw [h key]
  unfold kiranPamMessageRecvEvent
  simp only [hvalue, hempty]

/-- An event comes back exactly when it is no negative reply. -/
theorem recvEvent_sendEvent_iff (event : PamEvent) :
    kiranPamMessageRecvEvent (kiranPamMessageSendEvent event) = some event ↔
      ∀ text, event ≠ .PromptReplyEvent false text := by
  constructor
  · rintro h text rfl
    cases h
  · exact recvEvent_sendEvent event

/-! ## Sample texts -/

/-- Some events, their texts as Qt writes them, and the documents that it reads
from these, which have their members in order of their keys. -/
def sampleTexts : List (PamEvent × String × JsonDocument) :=
  [(.ErrorEvent "no",
      "\x7b\n    \"event\": 0,\n    \"text\": \"no\"\n\x7d\n",
      .object [("event", .double 0), ("text", .string "no")]),
    (.PromptReplyEvent true "ok",
      "\x7b\n    \"event\": 2,\n    \"reply_result\": true,\n    \"text\": \"ok\"\n\x7d\n",
      .object [("event", .double 2), ("reply_result", .bool true), ("text", .string "ok")]),
    (.PromptReplyEvent false "no",
      "\x7b\n    \"event\": 2,\n    \"reply_result\": false,\n    \"text\": \"no\"\n\x7d\n",
      .object [("event", .double 2), ("reply_result", .bool false), ("text", .string "no")])]

/-- The bytes of an ASCII text. -/
def ascii (text : String) : List UInt8 := text.toList.map fun c => UInt8.ofNat c.toNat

/-- Qt, as far as the sample texts go. -/
def sampleText : JsonText JsonDocument where
  toJson doc :=
    match sampleTexts.find? fun sample => kiranPamMessageSendEvent sample.1 = doc with
    | none => []
    | some sample => ascii sample.2.1
  fromJson text := (sampleTexts.find? fun sample => ascii sample.2.1 = text).map (·.2.2)

/-- Two members with different keys may change places behind a third one. -/
theorem lookup_swap (key : String) (first m n : String × JsonValue) (h : m.1 ≠ n.1) :
    [first, m, n].lookup key = [first, n, m].lookup key := by
  obtain ⟨mkey, mvalue⟩ := m
  obtain ⟨nkey, nvalue⟩ := n
  obtain ⟨fkey, fvalue⟩ := first
  by_cases hm : key = mkey
  · have hn : (key == nkey) = false := beq_false_of_ne (hm ▸ h)
    simp only [List.lookup_cons, hn]
  · have hne : (key == mkey) = false := beq_false_of_ne hm
    simp only [List.lookup_cons, hne]

theorem sampleTexts_roundTrip :
    ∀ event ∈ sampleTexts.map (·.1), RoundTrips sampleText (kiranPamMessageSendEvent event) := by
  have hsame : ∀ result text, SameMembers
      (kiranPamMessageSendEvent (.PromptReplyEvent result text))
      (.object [("event", .double 2), ("reply_result", .bool result), ("text", .string text)]) :=
    fun result text key => lookup_swap key ("event", .double 2) ("reply_result", .bool result)
      ("text", .string text) (show "reply_result" ≠ "text" by decide)
  simp only [sampleTexts, List.map_cons, List.map_nil, List.forall_mem_cons, List.not_mem_nil,
    false_imp_iff, implies_true, and_true]
  exact ⟨⟨_, rfl, fun key => rfl⟩, ⟨_, rfl, hsame true "ok"⟩, ⟨_, rfl, hsame false "no"⟩⟩

/-! ## Streams of frames -/

/-- The frames of the events, each written whole. -/
def sendEvents (json : JsonText JsonDocument) (events : List PamEvent) : List UInt8 :=
  events.flatMap fun event =>
    (kiranPamMessageSendEventBytes json event
      (some (frame json (kiranPamMessageSendEvent event)).length)).2

/-- `kiran_pam_message_recv_event`, called `n` times. -/
def recvEvents (json : JsonText JsonDocument) : Nat → Channel → List (Option PamEvent) × Channel
  | 0, c => ([], c)
  | n + 1, c =>
    let first := kiranPamMessageRecvEventBytes json c
    let later := recvEvents json n first.2
    (first.1 :: later.1, later.2)

theorem sendEvents_cons (json : JsonText JsonDocument) (event : PamEvent) (events : List PamEvent) :
    sendEvents json (event :: events) =
      frame json (kiranPamMessageSendEvent event) ++ sendEvents json events := by
  simp [sendEvents, kiranPamMessageSendEventBytes, kiranPamMessageSend]

section Stream

variable {json : JsonText JsonDocument} {rest : List UInt8}

/-- From a frame of an event, the decoder gives what it gives for the event's
document. -/
theorem recvEventBytes_frame {event : PamEvent}
    (hjson : RoundTrips json (kiranPamMessageSendEvent event))
    (hlen : (json.toJson (kiranPamMessageSendEvent event)).length < 2 ^ 31) :
    kiranPamMessageRecvEventBytes json
        { bytes := frame json (kiranPamMessageSendEvent event) ++ rest } =
      (kiranPamMessageRecvEvent (kiranPamMessageSendEvent event), { bytes := rest }) := by
  obtain ⟨doc', hfrom, hsame⟩ := hjson
  have hrecv := @recv_frame _ json (kiranPamMessageSendEvent event) rest []
    (by simp [Channel.NoError]) hlen (by simp [Channel.Whole]) (by simp [Channel.Whole])
  unfold kiranPamMessageRecvEventBytes
  simp only [hrecv, hfrom, Option.bind_some, recvEvent_congr hsame, List.tail_nil]

/-- A stream of frames gives, one call for each frame, what the decoder gives for
the events' documents. -/
theorem recvEvents_sendEvents {events : List PamEvent}
    (hjson : ∀ event ∈ events, RoundTrips json (kiranPamMessageSendEvent event))
    (hlen : ∀ event ∈ events, (json.toJson (kiranPamMessageSendEvent event)).length < 2 ^ 31) :
    recvEvents json events.length { bytes := sendEvents json events ++ rest } =
      (events.map fun event => kiranPamMessageRecvEvent (kiranPamMessageSendEvent event),
        { bytes := rest }) := by
  induction events with
  | nil => rfl
  | cons event events ih =>
    have hfirst := @recvEventBytes_frame json (sendEvents json events ++ rest) event
      (hjson event List.mem_cons_self) (hlen event List.mem_cons_self)
    have hlater := ih (fun e he => hjson e (List.mem_cons_of_mem _ he))
      (fun e he => hlen e (List.mem_cons_of_mem _ he))
    rw [sendEvents_cons, List.append_assoc, List.length_cons]
    simp only [recvEvents, hfirst, hlater, List.map_cons]

/-- A stream of frames comes back event by event, and leaves what is behind it,
exactly when none of the events is a negative reply. -/
theorem a_stream_comes_back_iff (json : JsonText JsonDocument) (events : List PamEvent)
    (rest : List UInt8)
    (hjson : ∀ event ∈ events, RoundTrips json (kiranPamMessageSendEvent event))
    (hlen : ∀ event ∈ events, (json.toJson (kiranPamMessageSendEvent event)).length < 2 ^ 31) :
    recvEvents json events.length { bytes := sendEvents json events ++ rest } =
        (events.map some, { bytes := rest }) ↔
      ∀ event ∈ events, ∀ text, event ≠ .PromptReplyEvent false text := by
  rw [recvEvents_sendEvents hjson hlen]
  constructor
  · intro h event he
    have hmap := List.map_inj_left.mp (Prod.mk.inj h).1
    exact (recvEvent_sendEvent_iff event).mp (hmap event he)
  · intro h
    rw [List.map_congr_left fun event he => (recvEvent_sendEvent_iff event).mpr (h event he)]

end Stream

/-- Two events come back, and one byte stays behind them. -/
theorem two_events_come_back :
    recvEvents sampleText 2
        { bytes := sendEvents sampleText [.ErrorEvent "no", .PromptReplyEvent true "ok"] ++ [7] } =
      ([some (.ErrorEvent "no"), some (.PromptReplyEvent true "ok")], { bytes := [7] }) := by
  refine (a_stream_comes_back_iff sampleText [.ErrorEvent "no", .PromptReplyEvent true "ok"] [7]
    ?_ ?_).mpr ?_
  · simp only [List.forall_mem_cons]
    exact ⟨sampleTexts_roundTrip _ (by decide), sampleTexts_roundTrip _ (by decide), by simp⟩
  · decide
  · simp

/-- A negative reply is turned away, although its text round-trips. -/
theorem a_negative_reply_is_turned_away :
    RoundTrips sampleText (kiranPamMessageSendEvent (.PromptReplyEvent false "no")) ∧
      recvEvents sampleText 1 { bytes := sendEvents sampleText [.PromptReplyEvent false "no"] } =
        ([none], { bytes := [] }) := by
  refine ⟨sampleTexts_roundTrip _ (by decide), ?_⟩
  decide

/-! ## Frames in pieces -/

/-- A frame is read, and nothing else, exactly when neither of the two reads is cut
off. -/
theorem a_split_frame_is_read_iff {Doc : Type} (json : JsonText Doc) (content : Doc)
    (rest : List UInt8) (answers : List ReadAnswer)
    (hjson : json.fromJson (json.toJson content) = some content)
    (hlen : (json.toJson content).length < 2 ^ 31) (herr : Channel.NoError answers) :
    (∃ later, kiranPamMessageRecv json ⟨frame json content ++ rest, answers⟩ =
        (some content, ⟨rest, later⟩)) ↔
      Channel.Whole answers 4 ∧ Channel.Whole answers.tail (json.toJson content).length := by
  constructor
  · rintro ⟨later, hrecv⟩
    have hhead : Channel.Whole answers 4 := by
      by_contra hhead
      have hmore := @recv_short_header _ json content rest _ hlen hhead
      rw [hrecv] at hmore
      exact lt_irrefl _ hmore
    refine ⟨hhead, ?_⟩
    by_contra hbody
    have hnone := @recv_short_text _ json content rest _ herr hlen hhead hbody
    rw [hrecv] at hnone
    cases hnone
  · rintro ⟨hhead, hbody⟩
    exact ⟨answers.tail.tail, by rw [recv_frame herr hlen hhead hbody, hjson]⟩

/-- The header comes whole and the text in one piece, and a frame is behind them. -/
theorem a_frame_in_two_pieces_is_read :
    ∃ later,
      kiranPamMessageRecv sampleText
          ⟨frame sampleText (kiranPamMessageSendEvent (.ErrorEvent "no")) ++ [7],
            [.atMost 4, .atMost 100]⟩ =
        (some (kiranPamMessageSendEvent (.ErrorEvent "no")), ⟨[7], later⟩) :=
  (a_split_frame_is_read_iff sampleText (kiranPamMessageSendEvent (.ErrorEvent "no")) [7]
    [.atMost 4, .atMost 100] rfl (by decide) (by simp [Channel.NoError])).mpr
    ⟨by simp [Channel.Whole], by simp [Channel.Whole]; decide⟩

/-- The first read gives two of the four bytes: no document is read, and the end of
the frame stays on the channel. -/
theorem a_split_header_loses_the_frame :
    kiranPamMessageRecv sampleText
        ⟨frame sampleText (kiranPamMessageSendEvent (.ErrorEvent "no")), [.atMost 2]⟩ =
      (none, ⟨ascii "\x7d\n", []⟩) := by
  decide

end session_guard.pam_frame
