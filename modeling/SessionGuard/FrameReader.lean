-- `kiran_pam_message_recv` on any bytes, with the buffers that it reads into. The length is a
-- `uint32_t` for `read`, and an `int` for the buffer, and the read of the length itself may
-- give fewer than its four bytes.
import SessionGuard.PamFrame

namespace session_guard.frame_reader

open byte_stream pam_message pam_frame

variable {Doc : Type} (json : JsonText Doc)

/-! ## The function with its buffers -/

/-- What `read` is asked for: so many bytes, into a buffer of this size. -/
structure Request where
  size : Nat
  count : Nat
  deriving DecidableEq

/-- The size after `resize(length)`: the `uint32_t` as an `int`, and 0 for a negative one. -/
def resize (length : Nat) : Nat := (BitVec.ofNat 32 length).toInt.toNat

/-- What `kiran_pam_message_recv` returns, `content` and the channel after it, and what it
asked `read` for. -/
structure Received (Doc : Type) where
  ret : Bool
  content : Option Doc
  channel : Channel
  requests : List Request
  deriving DecidableEq

/-- `kiran_pam_message_recv`, where `content` is the document before the call and `none` is a
null document. -/
def kiranPamMessageRecvInto (content : Option Doc) (c : Channel) : Received Doc :=
  let header := c.read 4
  match header.1 with
  | none => ⟨false, content, header.2, [⟨4, 4⟩]⟩
  | some bytes =>
    let length := ofLittleEndian bytes
    let body := header.2.read length
    let requests : List Request := [⟨4, 4⟩, ⟨resize length, length⟩]
    match body.1 with
    | none => ⟨false, content, body.2, requests⟩
    | some byteArray =>
      if byteArray.length < length then ⟨false, content, body.2, requests⟩
      else
        -- `read` gave at most `length` bytes, and `byteArray` holds `resize length`
        match json.fromJson (byteArray.take (resize length)) with
        | none => ⟨false, content, body.2, requests⟩
        | some doc => ⟨true, some doc, body.2, requests⟩

/-! ## What is safe -/

/-- The length that the call has read. -/
def lengthRead (c : Channel) : Nat := ofLittleEndian ((c.read 4).1.getD [])

/-- No read is asked for more than its buffer holds, the call takes no more than the prefix
and the text off the channel, it returns true only for a whole frame that parses, and
otherwise leaves `content` as it is. -/
structure ReadsSafely (content : Option Doc) (c : Channel) : Prop where
  fits : ∀ q ∈ (kiranPamMessageRecvInto json content c).requests, q.count ≤ q.size
  consumes : c.bytes.length ≤
    (kiranPamMessageRecvInto json content c).channel.bytes.length + (4 + lengthRead c)
  whole : (kiranPamMessageRecvInto json content c).ret = true →
    ∃ header text doc,
      c.bytes = header ++ text ++ (kiranPamMessageRecvInto json content c).channel.bytes ∧
      header.length = 4 ∧ text.length = ofLittleEndian header ∧
      json.fromJson text = some doc ∧
      (kiranPamMessageRecvInto json content c).content = some doc
  refused : (kiranPamMessageRecvInto json content c).ret = false →
    (kiranPamMessageRecvInto json content c).content = content

/-- The length is below 2^31; and when not all of its four bytes are read, no whole text that
parses comes behind those that are. -/
def Readable (c : Channel) : Prop :=
  ∀ header c1, c.read 4 = (some header, c1) → ofLittleEndian header < 2 ^ 31 ∧
    (header.length < 4 → ∀ text c2, c1.read (ofLittleEndian header) = (some text, c2) →
      text.length = ofLittleEndian header → json.fromJson text = none)

/-! ## The size of the buffer -/

theorem resize_eq {length : Nat} (h : length < 2 ^ 31) : resize length = length := by
  unfold resize
  rw [BitVec.toInt_eq_toNat_of_lt]
  · simp only [BitVec.toNat_ofNat, Int.toNat_natCast]
    omega
  · simp only [BitVec.toNat_ofNat]
    omega

/-- From 2^31 on, the buffer is empty. -/
theorem resize_eq_zero {length : Nat} (hlo : 2 ^ 31 ≤ length) (hhi : length < 2 ^ 32) :
    resize length = 0 := by
  unfold resize
  rw [BitVec.toInt_eq_toNat_cond]
  simp only [BitVec.toNat_ofNat]
  split_ifs <;> omega

theorem length_lt {c c1 : Channel} {header : List UInt8} (h : c.read 4 = (some header, c1)) :
    ofLittleEndian header < 2 ^ 32 := by
  have hle := (Channel.read_eq_some h).2
  calc ofLittleEndian header < 256 ^ header.length := ofLittleEndian_lt header
    _ ≤ 256 ^ 4 := Nat.pow_le_pow_right (by decide) hle
    _ = 2 ^ 32 := by decide

/-- The buffer holds what it is asked for exactly below 2^31. -/
theorem le_resize_iff {c c1 : Channel} {header : List UInt8} (h : c.read 4 = (some header, c1)) :
    ofLittleEndian header ≤ resize (ofLittleEndian header) ↔ ofLittleEndian header < 2 ^ 31 := by
  constructor
  · intro hle
    by_contra hhi
    rw [resize_eq_zero (by omega) (length_lt h)] at hle
    omega
  · intro hlo
    exact (resize_eq hlo).ge

/-! ## What the function does -/

section Spec

variable {json} {content : Option Doc} {c c1 : Channel} {header : List UInt8}

variable (json content) in
theorem recv_no_header (h : c.read 4 = (none, c1)) :
    kiranPamMessageRecvInto json content c = ⟨false, content, c1, [⟨4, 4⟩]⟩ := by
  unfold kiranPamMessageRecvInto
  simp only [h]

variable (json content) in
/-- After the length, the text is asked for, and the call returns true for a whole text that
parses. -/
theorem recv_header (h : c.read 4 = (some header, c1)) :
    (kiranPamMessageRecvInto json content c).requests =
        [⟨4, 4⟩, ⟨resize (ofLittleEndian header), ofLittleEndian header⟩] ∧
      (kiranPamMessageRecvInto json content c).channel = (c1.read (ofLittleEndian header)).2 ∧
      (((kiranPamMessageRecvInto json content c).ret = false ∧
          (kiranPamMessageRecvInto json content c).content = content) ∨
        (kiranPamMessageRecvInto json content c).ret = true) := by
  unfold kiranPamMessageRecvInto
  simp only [h]
  rcases (c1.read (ofLittleEndian header)).1 with _ | text
  · exact ⟨rfl, rfl, Or.inl ⟨rfl, rfl⟩⟩
  · dsimp only
    split_ifs
    · exact ⟨rfl, rfl, Or.inl ⟨rfl, rfl⟩⟩
    · rcases json.fromJson (text.take (resize (ofLittleEndian header))) with _ | doc
      · exact ⟨rfl, rfl, Or.inl ⟨rfl, rfl⟩⟩
      · exact ⟨rfl, rfl, Or.inr rfl⟩

/-- Below 2^31, the call returns true exactly for a whole text that parses. -/
theorem recv_true_iff (h : c.read 4 = (some header, c1)) (hlo : ofLittleEndian header < 2 ^ 31) :
    (kiranPamMessageRecvInto json content c).ret = true ↔
      ∃ text c2 doc, c1.read (ofLittleEndian header) = (some text, c2) ∧
        text.length = ofLittleEndian header ∧ json.fromJson text = some doc ∧
        (kiranPamMessageRecvInto json content c).content = some doc := by
  unfold kiranPamMessageRecvInto
  simp only [h]
  rcases hbody : c1.read (ofLittleEndian header) with ⟨_ | text, c2⟩
  · refine iff_of_false Bool.false_ne_true ?_
    rintro ⟨text, c2', doc, heq, -⟩
    cases heq
  · have hle := (Channel.read_eq_some hbody).2
    have htake : text.take (resize (ofLittleEndian header)) = text := by
      rw [resize_eq hlo]
      exact List.take_of_length_le hle
    dsimp only
    split_ifs with hshort
    · refine iff_of_false not_false ?_
      rintro ⟨text', c2', doc, heq, hlen, -⟩
      cases heq
      omega
    · rw [htake]
      rcases hdoc : json.fromJson text with _ | doc
      · refine iff_of_false Bool.false_ne_true ?_
        rintro ⟨text', c2', doc, heq, -, hsome, -⟩
        cases heq
        simp [hdoc] at hsome
      · exact iff_of_true rfl ⟨text, c2, doc, rfl, by omega, hdoc, rfl⟩

/-- Below 2^31, the buffer is no matter, and the call is `kiranPamMessageRecv`. -/
theorem recv_eq (h : c.read 4 = (some header, c1)) (hlo : ofLittleEndian header < 2 ^ 31) :
    kiranPamMessageRecv json c =
      (if (kiranPamMessageRecvInto json content c).ret then
          (kiranPamMessageRecvInto json content c).content
        else none,
        (kiranPamMessageRecvInto json content c).channel) := by
  unfold kiranPamMessageRecv kiranPamMessageRecvInto
  simp only [h]
  rcases hbody : c1.read (ofLittleEndian header) with ⟨_ | text, c2⟩
  · rfl
  · have hle := (Channel.read_eq_some hbody).2
    have htake : text.take (resize (ofLittleEndian header)) = text := by
      rw [resize_eq hlo]
      exact List.take_of_length_le hle
    simp only [htake]
    by_cases hshort : text.length < ofLittleEndian header
    · simp only [if_pos hshort]
      rfl
    · simp only [if_neg hshort]
      rcases json.fromJson text with _ | doc <;> rfl

/-- The call takes no more than the prefix and the text. -/
theorem recv_consumes : c.bytes.length ≤
    (kiranPamMessageRecvInto json content c).channel.bytes.length + (4 + lengthRead c) := by
  unfold lengthRead
  rcases h : c.read 4 with ⟨_ | header, c1⟩
  · rw [recv_no_header json content h, ← Channel.read_eq_none h]
    simp
  · obtain ⟨-, hchannel, -⟩ := recv_header json content h
    have hbody := Channel.read_length_le c1 (ofLittleEndian header)
    obtain ⟨hbytes, hle⟩ := Channel.read_eq_some h
    rw [hchannel, hbytes, List.length_append]
    simp only [Option.getD_some]
    omega

/-- When only a part of the prefix was read, what was read is no frame. -/
theorem short_header_no_frame {text rest header' text' : List UInt8}
    (hshort : header.length < 4) (htext : text.length = ofLittleEndian header)
    (hheader : header'.length = 4) (hlen : text'.length = ofLittleEndian header')
    (heq : header ++ text ++ rest = header' ++ text' ++ rest) : False := by
  have hcancel : header ++ text = header' ++ text' := List.append_cancel_right heq
  have hprefix : header = header'.take header.length := by
    have := congrArg (List.take header.length) hcancel
    rwa [List.take_left, List.take_append_of_le_length (by omega)] at this
  have hle := ofLittleEndian_take_le header' header.length
  have htotal := congrArg List.length hcancel
  rw [← hprefix] at hle
  simp only [List.length_append] at htotal
  omega

end Spec

/-- The call is safe exactly when its length is below 2^31 and no text that parses comes behind
a prefix that is cut off. -/
theorem a_read_is_safe_iff (content : Option Doc) (c : Channel) :
    ReadsSafely json content c ↔ Readable json c := by
  constructor
  · intro hsafe header c1 h
    obtain ⟨hrequests, hchannel, -⟩ := recv_header json content h
    have hlo : ofLittleEndian header < 2 ^ 31 := by
      rw [← le_resize_iff h]
      exact hsafe.fits ⟨resize (ofLittleEndian header), ofLittleEndian header⟩ (by simp [hrequests])
    refine ⟨hlo, fun hshort text c2 hbody hlen => ?_⟩
    by_contra hparses
    obtain ⟨doc, hdoc⟩ := Option.ne_none_iff_exists'.mp hparses
    have hcontent : (kiranPamMessageRecvInto json content c).content = some doc := by
      unfold kiranPamMessageRecvInto
      simp only [h, hbody, hlen, lt_irrefl, if_false]
      rw [resize_eq hlo, ← hlen, List.take_length, hdoc]
    obtain ⟨header', text', doc', hbytes, hheader', hlen', -⟩ :=
      hsafe.whole ((recv_true_iff h hlo).mpr ⟨text, c2, doc, hbody, hlen, hdoc, hcontent⟩)
    have hframe : header ++ text ++ c2.bytes = header' ++ text' ++ c2.bytes := by
      rw [hchannel, hbody] at hbytes
      rw [← hbytes, (Channel.read_eq_some h).1, (Channel.read_eq_some hbody).1, List.append_assoc]
    exact short_header_no_frame hshort hlen hheader' hlen' hframe
  · intro hreadable
    rcases h : c.read 4 with ⟨_ | header, c1⟩
    · have heq := recv_no_header json content h
      refine ⟨?_, recv_consumes, ?_, ?_⟩
      · simp [heq]
      · simp [heq]
      · simp [heq]
    · obtain ⟨hlo, hwhole⟩ := hreadable header c1 h
      obtain ⟨hrequests, hchannel, hret⟩ := recv_header json content h
      refine ⟨?_, recv_consumes, ?_, ?_⟩
      · intro q hq
        rw [hrequests] at hq
        rcases List.mem_cons.mp hq with rfl | hq
        · exact le_refl 4
        · obtain rfl := List.mem_singleton.mp hq
          exact (le_resize_iff h).mpr hlo
      · intro htrue
        obtain ⟨text, c2, doc, hbody, hlen, hdoc, hcontent⟩ := (recv_true_iff h hlo).mp htrue
        obtain ⟨hbytes, hle⟩ := Channel.read_eq_some h
        refine ⟨header, text, doc, ?_, ?_, hlen, hdoc, hcontent⟩
        · rw [hchannel, hbody, hbytes, (Channel.read_eq_some hbody).1, List.append_assoc]
        · by_contra hshort
          have hnone := hwhole (by omega) text c2 hbody hlen
          rw [hdoc] at hnone
          cases hnone
      · intro hfalse
        rcases hret with ⟨-, hcontent⟩ | htrue
        · exact hcontent
        · rw [hfalse] at htrue
          cases htrue

/-- The text of an event. -/
def sampleBytes : List UInt8 := sampleText.toJson (kiranPamMessageSendEvent (.ErrorEvent "no"))

/-- The length 2^31 asks for 2^31 bytes into an empty buffer; and where the first read gives
one byte, this is taken for the length. -/
theorem two_reads_are_not_safe :
    ¬ ReadsSafely sampleText none ⟨[0, 0, 0, 0x80], []⟩ ∧
      ¬ ReadsSafely sampleText none ⟨37 :: sampleBytes, [.atMost 1]⟩ := by
  constructor
  · intro h
    have hfits := h.fits ⟨0, 2 ^ 31⟩ (by decide)
    revert hfits
    decide
  · intro h
    obtain ⟨header, text, doc, hbytes, hheader, htext, -⟩ := h.whole (by decide)
    have hrest : (kiranPamMessageRecvInto sampleText none
        ⟨37 :: sampleBytes, [.atMost 1]⟩).channel.bytes = [] := by decide
    rw [hrest] at hbytes
    have hframe : [37] ++ sampleBytes ++ [] = header ++ text ++ [] := by
      rw [← hbytes]
      rfl
    exact short_header_no_frame (by decide) (by decide) hheader htext hframe

end session_guard.frame_reader
