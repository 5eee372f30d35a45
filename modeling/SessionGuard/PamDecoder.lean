-- The decoder `kiran_pam_message_recv_event` against the documents of the encoder: which
-- documents it takes, and what it makes of them. It takes some that no encoder writes, where
-- a member has a wrong type, and it turns away the negative replies that the encoder writes.
import SessionGuard.PamMessage

namespace session_guard.pam_decoder

open pam_message

/-! ## The decoder and its out parameter -/

/-- `kiran_pam_message_recv_event` on a document that was read whole, where `event` is
`*event` before the call: what it returns, and `*event` after the call. -/
def kiranPamMessageRecvEventInto (event : Option PamEvent) (doc : JsonDocument) :
    Bool × Option PamEvent :=
  let jsonObject := doc.toObject
  if jsonObject.isEmpty ∨ (jsonObject.value "event").isNull then (false, event)
  else
    let eventType := (jsonObject.value "event").toInt
    if eventType < 0 ∨ LAST ≤ eventType ∨ (jsonObject.value "text").isNull then (false, event)
    else
      let textInfo := (jsonObject.value "text").toString
      if eventType = 0 then (true, some (.ErrorEvent textInfo))
      else if eventType = 1 then
        let secret := jsonObject.value "secret"
        if secret.isNull || !secret.isBool then (false, event)
        else (true, some (.PromptRequestEvent secret.toBool textInfo))
      else if eventType = 2 then
        let result := jsonObject.value "reply_result"
        if result.isNull || !result.toBool then (false, event)
        else (true, some (.PromptReplyEvent result.toBool textInfo))
      else if eventType = 3 then
        let isError := jsonObject.value "error_info"
        if isError.isNull || !isError.isBool then (false, event)
        else (true, some (.MessageEvent isError.toBool textInfo))
      else
        let isComplete := jsonObject.value "complete"
        let authResult := jsonObject.value "auth_result"
        if isComplete.isNull || authResult.isNull || !isComplete.isBool || !authResult.isBool
        then (false, event)
        else (true, some (.CompleteEvent isComplete.toBool authResult.toBool textInfo))

/-- The out parameter is set exactly when an event is given. -/
theorem recvEventInto_eq (event : Option PamEvent) (doc : JsonDocument) :
    kiranPamMessageRecvEventInto event doc =
      match kiranPamMessageRecvEvent doc with
      | none => (false, event)
      | some received => (true, some received) := by
  unfold kiranPamMessageRecvEventInto kiranPamMessageRecvEvent
  dsimp only
  split_ifs <;> rfl

/-! ## What the encoder writes -/

/-- The members that an event of each kind has beside 'event' and 'text'. -/
def kindMembers (eventType : Int) : List String :=
  if eventType = 1 then ["secret"]
  else if eventType = 2 then ["reply_result"]
  else if eventType = 3 then ["error_info"]
  else if eventType = 4 then ["complete", "auth_result"]
  else []

/-- The document is an object with the members of an event, each of its type. -/
def WellFormed (doc : JsonDocument) : Prop :=
  ∃ o eventType text, doc = .object o ∧ 0 ≤ eventType ∧ eventType < LAST ∧
    o.value "event" = .double (eventType : Int) ∧ o.value "text" = .string text ∧
    ∀ key ∈ kindMembers eventType, (o.value key).isBool = true

/-- The encoder gives the event the values that the document has. -/
def SameValues (doc : JsonDocument) (event : PamEvent) : Prop :=
  ∀ key ∈ ["event", "text"] ++ kindMembers event.type,
    (kiranPamMessageSendEvent event).toObject.value key = doc.toObject.value key

/-- The decoder takes the document exactly when it is well formed, gives an event with its
values, and leaves `*event` as it is when it turns the document away. -/
def DecodesExactly (doc : JsonDocument) : Prop :=
  ∀ event,
    ((kiranPamMessageRecvEventInto event doc).1 = true ↔ WellFormed doc) ∧
    ((kiranPamMessageRecvEventInto event doc).1 = true →
      ∃ received, (kiranPamMessageRecvEventInto event doc).2 = some received ∧
        SameValues doc received) ∧
    ((kiranPamMessageRecvEventInto event doc).1 = false →
      (kiranPamMessageRecvEventInto event doc).2 = event)

/-! ## Values -/

/-- A number that is a whole `int`. -/
def IsInt (x : JsonValue) : Prop := ∃ n : Int, -2 ^ 31 ≤ n ∧ n < 2 ^ 31 ∧ x = .double n

theorem toInt_double {n : Int} (hlo : -2 ^ 31 ≤ n) (hhi : n < 2 ^ 31) :
    (JsonValue.double n).toInt = n := by
  unfold JsonValue.toInt
  exact if_pos ⟨Rat.den_intCast n, hlo, hhi⟩

/-- `toInt` gives 0 for what is no whole `int`. -/
theorem toInt_of_not_isInt {x : JsonValue} (h : ¬ IsInt x) : x.toInt = 0 := by
  cases x with
  | double d =>
    refine if_neg ?_
    rintro ⟨hden, hlo, hhi⟩
    refine h ⟨d.num, hlo, hhi, ?_⟩
    rw [(Rat.den_eq_one_iff d).mp hden]
  | _ => rfl

theorem isInt_eq {x : JsonValue} (h : IsInt x) : x = .double (x.toInt : Int) := by
  obtain ⟨n, hlo, hhi, rfl⟩ := h
  rw [toInt_double hlo hhi]

theorem isBool_eq {x : JsonValue} (h : x.isBool = true) : x = .bool x.toBool := by
  cases x <;> simp_all [JsonValue.isBool, JsonValue.toBool]

theorem toBool_eq {x : JsonValue} (h : x.toBool = true) : x = .bool true := by
  cases x <;> simp_all [JsonValue.toBool]

theorem isBool_of_check {x : JsonValue} (h : ¬ (x.isNull || !x.isBool) = true) :
    x.isBool = true := by
  cases hx : x.isBool <;> simp_all

/-! ## What the decoder takes -/

/-- What the decoder asks of an object: a text that is not null, and an event that is not null
and whose number as an `int`, with its members, is in order. A reply must be positive. -/
structure Reads (o : JsonObject) : Prop where
  event : (o.value "event").isNull = false
  text : (o.value "text").isNull = false
  lower : 0 ≤ (o.value "event").toInt
  upper : (o.value "event").toInt < LAST
  members : ∀ key ∈ kindMembers (o.value "event").toInt, (o.value key).isBool = true
  positive : (o.value "event").toInt = 2 → o.value "reply_result" = .bool true

/-- What the decoder makes of an object. -/
structure Decoded (o : JsonObject) (event : PamEvent) : Prop where
  type : event.type = (o.value "event").toInt
  text : event.text = (o.value "text").toString
  members : ∀ key ∈ kindMembers event.type, event.members.value key = o.value key

theorem recvEvent_spec {o : JsonObject} {event : PamEvent}
    (h : kiranPamMessageRecvEvent (.object o) = some event) : Reads o ∧ Decoded o event := by
  unfold kiranPamMessageRecvEvent at h
  dsimp only [JsonDocument.toObject] at h
  split_ifs at h with hnull htype h0 h1 hsecret h2 hresult h3 herror hcomplete
  all_goals
    obtain ⟨-, hevent⟩ := not_or.mp hnull
    obtain ⟨hlo, hhi, htext⟩ : ¬ _ ∧ ¬ _ ∧ ¬ _ := by simpa only [not_or] using htype
    rw [Bool.not_eq_true] at hevent htext
    rw [not_lt] at hlo
    rw [not_le] at hhi
    cases h
  · refine ⟨⟨hevent, htext, hlo, hhi, by simp [h0, kindMembers], by omega⟩, h0.symm, rfl, ?_⟩
    simp [PamEvent.type, kindMembers]
  · have hbool := isBool_of_check hsecret
    refine ⟨⟨hevent, htext, hlo, hhi, by simpa [h1, kindMembers] using hbool, by omega⟩,
      h1.symm, rfl, ?_⟩
    simp only [PamEvent.type, kindMembers, if_true, List.forall_mem_singleton]
    exact (isBool_eq hbool).symm
  · have htrue : (o.value "reply_result").toBool = true := by
      cases hx : (o.value "reply_result").toBool <;> simp_all
    have hvalue := toBool_eq htrue
    have hbool : (o.value "reply_result").isBool = true := by rw [hvalue]; rfl
    refine ⟨⟨hevent, htext, hlo, hhi, by simpa [h2, kindMembers] using hbool, fun _ => hvalue⟩,
      h2.symm, rfl, ?_⟩
    have hkey : kindMembers 2 = ["reply_result"] := rfl
    simp only [PamEvent.type, hkey, List.forall_mem_singleton]
    exact (isBool_eq hbool).symm
  · have hbool := isBool_of_check herror
    refine ⟨⟨hevent, htext, hlo, hhi, by simpa [h3, kindMembers] using hbool, by omega⟩,
      h3.symm, rfl, ?_⟩
    have hkey : kindMembers 3 = ["error_info"] := rfl
    simp only [PamEvent.type, hkey, List.forall_mem_singleton]
    exact (isBool_eq hbool).symm
  · have h4 : (o.value "event").toInt = 4 := by
      unfold LAST at hhi
      omega
    simp only [Bool.or_eq_true, not_or, Bool.not_eq_true, Bool.not_eq_false'] at hcomplete
    obtain ⟨⟨-, hbool⟩, hbool'⟩ := hcomplete
    refine ⟨⟨hevent, htext, hlo, hhi, by simpa [h4, kindMembers] using ⟨hbool, hbool'⟩, by omega⟩,
      h4.symm, rfl, ?_⟩
    have hkey : kindMembers 4 = ["complete", "auth_result"] := rfl
    simp only [PamEvent.type, hkey, List.forall_mem_cons, List.not_mem_nil, false_imp_iff,
      implies_true, and_true]
    exact ⟨(isBool_eq hbool).symm, (isBool_eq hbool').symm⟩

theorem check_of_isBool {x : JsonValue} (h : x.isBool = true) :
    ¬ (x.isNull || !x.isBool) = true := by
  cases x <;> simp_all [JsonValue.isBool, JsonValue.isNull]

/-- What the decoder reads, it takes. -/
theorem Reads.taken {o : JsonObject} (h : Reads o) :
    ∃ event, kiranPamMessageRecvEvent (.object o) = some event := by
  have hnull : ¬ (List.isEmpty o = true ∨ (o.value "event").isNull = true) := by
    rintro (hnil | hnull)
    · have hevent := h.event
      rw [List.isEmpty_iff.mp hnil] at hevent
      cases hevent
    · rw [h.event] at hnull
      cases hnull
  have htype : ¬ ((o.value "event").toInt < 0 ∨ LAST ≤ (o.value "event").toInt ∨
      (o.value "text").isNull = true) := by
    rintro (hlo | hhi | htext)
    · exact absurd h.lower (not_le.mpr hlo)
    · exact absurd h.upper (not_lt.mpr hhi)
    · rw [h.text] at htext
      cases htext
  have hmembers := h.members
  have hupper : (o.value "event").toInt < 5 := h.upper
  have hlower := h.lower
  unfold kiranPamMessageRecvEvent
  dsimp only [JsonDocument.toObject]
  rw [if_neg hnull, if_neg htype]
  split_ifs with h0 h1 hsecret h2 hresult h3 herror hcomplete
  · exact ⟨_, rfl⟩
  · rw [h1] at hmembers
    exact absurd hsecret (check_of_isBool (hmembers "secret" (by decide)))
  · exact ⟨_, rfl⟩
  · rw [h.positive h2] at hresult
    cases hresult
  · exact ⟨_, rfl⟩
  · rw [h3] at hmembers
    exact absurd herror (check_of_isBool (hmembers "error_info" (by decide)))
  · exact ⟨_, rfl⟩
  · have h4 : (o.value "event").toInt = 4 := by omega
    rw [h4] at hmembers
    have hc := check_of_isBool (hmembers "complete" (by decide))
    have ha := check_of_isBool (hmembers "auth_result" (by decide))
    simp_all
  · exact ⟨_, rfl⟩

theorem recvEvent_isSome_iff (o : JsonObject) :
    (∃ event, kiranPamMessageRecvEvent (.object o) = some event) ↔ Reads o :=
  ⟨fun ⟨_, h⟩ => (recvEvent_spec h).1, Reads.taken⟩

/-! ## Where the two differ -/

/-- The event is no whole `int`, and is read as the number of `Error`. -/
def MistypedEvent (o : JsonObject) : Prop :=
  (o.value "event").isNull = false ∧ ¬ IsInt (o.value "event") ∧ (o.value "text").isNull = false

/-- The text is no string, and is read as an empty one; the rest is as the decoder asks. -/
def MistypedText (o : JsonObject) : Prop :=
  ∃ n : Int, 0 ≤ n ∧ n < LAST ∧ o.value "event" = .double n ∧
    (o.value "text").isNull = false ∧ (∀ text, o.value "text" ≠ .string text) ∧
    (∀ key ∈ kindMembers n, (o.value key).isBool = true) ∧
    (n = 2 → o.value "reply_result" = .bool true)

/-- The reply is negative, and is turned away. -/
def NegativeReply (o : JsonObject) : Prop :=
  o.value "event" = .double 2 ∧ (∃ text, o.value "text" = .string text) ∧
    o.value "reply_result" = .bool false

theorem toInt_kind {n : Int} (hlo : 0 ≤ n) (hhi : n < LAST) : (JsonValue.double n).toInt = n := by
  unfold LAST at hhi
  exact toInt_double (by omega) (by omega)

theorem isInt_kind {n : Int} (hlo : 0 ≤ n) (hhi : n < LAST) : IsInt (.double n) := by
  unfold LAST at hhi
  exact ⟨n, by omega, by omega, rfl⟩

/-- The decoder takes a document that is not well formed only for a wrong type. -/
theorem reads_malformed_iff (o : JsonObject) :
    Reads o ∧ ¬ WellFormed (.object o) ↔ MistypedEvent o ∨ MistypedText o := by
  constructor
  · rintro ⟨hreads, hbad⟩
    by_cases hint : IsInt (o.value "event")
    · right
      refine ⟨_, hreads.lower, hreads.upper, isInt_eq hint, hreads.text, ?_, hreads.members,
        hreads.positive⟩
      intro text htext
      exact hbad ⟨o, _, text, rfl, hreads.lower, hreads.upper, isInt_eq hint, htext,
        hreads.members⟩
    · exact Or.inl ⟨hreads.event, hint, hreads.text⟩
  · rintro (⟨hevent, hint, htext⟩ | ⟨n, hlo, hhi, hevent, htext, hstring, hmembers, hpositive⟩)
    · have hzero := toInt_of_not_isInt hint
      refine ⟨⟨hevent, htext, hzero.ge, by rw [hzero]; decide, by simp [hzero, kindMembers],
        by omega⟩, ?_⟩
      rintro ⟨o', n, text, ho, hlo, hhi, hvalue, -⟩
      cases ho
      exact hint (hvalue ▸ isInt_kind hlo hhi)
    · have hn : (o.value "event").toInt = n := by rw [hevent, toInt_kind hlo hhi]
      refine ⟨⟨by rw [hevent]; rfl, htext, hn ▸ hlo, hn ▸ hhi, hn ▸ hmembers,
        hn ▸ hpositive⟩, ?_⟩
      rintro ⟨o', n', text, ho, -, -, -, hvalue, -⟩
      cases ho
      exact hstring text hvalue

/-- The decoder turns away a well-formed document only for a negative reply. -/
theorem wellFormed_refused_iff (o : JsonObject) :
    WellFormed (.object o) ∧ ¬ Reads o ↔ NegativeReply o := by
  constructor
  · rintro ⟨⟨o', n, text, ho, hlo, hhi, hevent, htext, hmembers⟩, hrefused⟩
    cases ho
    have hn : (o.value "event").toInt = n := by rw [hevent, toInt_kind hlo hhi]
    have hreads : (n = 2 → o.value "reply_result" = .bool true) → Reads o := fun hpositive =>
      ⟨by rw [hevent]; rfl, by rw [htext]; rfl, hn ▸ hlo, hn ▸ hhi, hn ▸ hmembers,
        hn ▸ hpositive⟩
    obtain ⟨rfl, hvalue⟩ := Classical.not_imp.mp (mt hreads hrefused)
    have hbool := isBool_eq (hmembers "reply_result" (by decide))
    refine ⟨hevent, ⟨text, htext⟩, ?_⟩
    rcases hb : (o.value "reply_result").toBool with _ | _
    · rwa [hb] at hbool
    · exact absurd (toBool_eq hb) hvalue
  · rintro ⟨hevent, ⟨text, htext⟩, hvalue⟩
    have hn : (o.value "event").toInt = 2 := by
      rw [hevent]
      exact toInt_kind (n := 2) (by decide) (by decide)
    refine ⟨⟨o, 2, text, rfl, by decide, by decide, hevent, htext, ?_⟩, ?_⟩
    · intro key hkey
      obtain rfl := List.mem_singleton.mp hkey
      rw [hvalue]
      rfl
    · intro hreads
      have hpositive := hreads.positive hn
      rw [hvalue] at hpositive
      cases hpositive

/-! ## The encoder again -/

/-- The members of its kind are behind the two of every event. -/
theorem sendEvent_value_kind {event : PamEvent} {key : String}
    (h : key ∈ kindMembers event.type) :
    (kiranPamMessageSendEvent event).toObject.value key = event.members.value key := by
  cases event with
  | ErrorEvent text => cases h
  | PromptRequestEvent secret text =>
    obtain rfl := List.mem_singleton.mp h
    rfl
  | PromptReplyEvent result text =>
    obtain rfl := List.mem_singleton.mp h
    rfl
  | MessageEvent isError text =>
    obtain rfl := List.mem_singleton.mp h
    rfl
  | CompleteEvent isComplete authResult text =>
    rcases List.mem_cons.mp h with rfl | h
    · rfl
    · obtain rfl := List.mem_singleton.mp h
      rfl

/-- A well-formed document gives an event with its values. -/
theorem decoded_sameValues {o : JsonObject} {event : PamEvent} (h : Decoded o event)
    (hwell : WellFormed (.object o)) : SameValues (.object o) event := by
  obtain ⟨o', n, text, ho, hlo, hhi, hevent, htext, -⟩ := hwell
  cases ho
  have hn : event.type = n := by rw [h.type, hevent, toInt_kind hlo hhi]
  intro key hkey
  rcases List.mem_append.mp hkey with hfirst | hmember
  · rcases List.mem_cons.mp hfirst with rfl | hfirst
    · show JsonValue.double event.type = o.value "event"
      rw [hevent, hn]
    · obtain rfl := List.mem_singleton.mp hfirst
      show JsonValue.string event.text = o.value "text"
      rw [h.text, htext]
      rfl
  · rw [sendEvent_value_kind hmember]
    exact h.members key hmember

/-- With its out parameter, the decoder is exact when it takes the well-formed documents. -/
theorem decodesExactly_object_iff (o : JsonObject) :
    DecodesExactly (.object o) ↔ (Reads o ↔ WellFormed (.object o)) := by
  unfold DecodesExactly
  simp only [recvEventInto_eq]
  rcases hrecv : kiranPamMessageRecvEvent (.object o) with _ | received
  · have hrefused : ¬ Reads o := fun h => by
      obtain ⟨event, htaken⟩ := h.taken
      simp [hrecv] at htaken
    simp [hrefused]
  · obtain ⟨hreads, hdecoded⟩ := recvEvent_spec hrecv
    simp only [forall_const, true_iff, hreads, Option.some.injEq, exists_eq_left',
      Bool.true_eq_false, false_imp_iff, and_true]
    exact ⟨fun h => h.1, fun h => ⟨h, decoded_sameValues hdecoded h⟩⟩

/-- A document that is no object is turned away. -/
theorem decodesExactly_array : DecodesExactly .array := by
  intro event
  refine ⟨⟨fun h => Bool.noConfusion h, ?_⟩, fun h => Bool.noConfusion h, fun _ => rfl⟩
  rintro ⟨o, n, text, ho, -⟩
  cases ho

/-- The decoder takes exactly what the encoder writes, but for members of a wrong type and for
negative replies. -/
theorem the_decoder_is_exact_iff (doc : JsonDocument) :
    DecodesExactly doc ↔ ¬ MistypedEvent doc.toObject ∧ ¬ MistypedText doc.toObject ∧
      ¬ NegativeReply doc.toObject := by
  cases doc with
  | array =>
    refine iff_of_true decodesExactly_array ⟨?_, ?_, ?_⟩
    · rintro ⟨hevent, -⟩
      cases hevent
    · rintro ⟨n, -, -, hevent, -⟩
      cases hevent
    · rintro ⟨hevent, -⟩
      cases hevent
  | object o =>
    rw [decodesExactly_object_iff, JsonDocument.toObject, ← wellFormed_refused_iff, ← and_assoc,
      ← not_or, ← reads_malformed_iff]
    tauto

/-- An object whose type is a text is taken for an error, an array is taken for an empty text,
and a negative reply is turned away. -/
theorem three_documents_are_not_decoded :
    ¬ DecodesExactly (.object [("event", .string "prompt"), ("text", .string "no")]) ∧
      ¬ DecodesExactly (.object [("event", .double 0), ("text", .array)]) ∧
      ¬ DecodesExactly
        (.object
          [("event", .double 2), ("text", .string "no"), ("reply_result", .bool false)]) := by
  refine ⟨?_, ?_, ?_⟩
  · intro h
    obtain ⟨o, n, text, ho, -, -, hevent, -⟩ := (h none).1.mp rfl
    cases ho
    cases hevent
  · intro h
    obtain ⟨o, n, text, ho, -, -, -, htext, -⟩ := (h none).1.mp rfl
    cases ho
    cases htext
  · intro h
    have hwell : WellFormed
        (.object [("event", .double 2), ("text", .string "no"), ("reply_result", .bool false)]) :=
      ⟨_, 2, "no", rfl, by decide, by decide, rfl, rfl, by decide⟩
    have htaken := (h none).1.mpr hwell
    cases htaken

end session_guard.pam_decoder
