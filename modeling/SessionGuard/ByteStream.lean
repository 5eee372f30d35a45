-- Bytes on a channel: unsigned integers as little-endian bytes, and `read`
-- calls that may give fewer bytes than they are asked for.
import Mathlib.Data.PNat.Basic
import Mathlib.Tactic.Common

namespace byte_stream

/-! ## Little-endian integers -/

/-- The low `width` bytes of an integer, lowest first. -/
def littleEndian : Nat → Nat → List UInt8
  | 0, _ => []
  | width + 1, n => UInt8.ofNat n :: littleEndian width (n / 256)

/-- The integer of little-endian bytes. -/
def ofLittleEndian : List UInt8 → Nat
  | [] => 0
  | b :: bs => b.toNat + 256 * ofLittleEndian bs

@[simp] theorem littleEndian_length (width n : Nat) : (littleEndian width n).length = width := by
  induction width generalizing n with
  | zero => rfl
  | succ width ih => simp [littleEndian, ih]

/-- An integer comes back from its bytes when it fits in them. -/
theorem ofLittleEndian_littleEndian {width n : Nat} (h : n < 256 ^ width) :
    ofLittleEndian (littleEndian width n) = n := by
  induction width generalizing n with
  | zero =>
    rw [pow_zero] at h
    simp only [littleEndian, ofLittleEndian]
    omega
  | succ width ih =>
    have hdiv : n / 256 < 256 ^ width := by
      rw [pow_succ] at h
      exact Nat.div_lt_of_lt_mul (by omega)
    simp only [littleEndian, ofLittleEndian, ih hdiv, UInt8.toNat_ofNat']
    omega

/-- The first bytes of an integer, with zeros for the others, are no larger. -/
theorem ofLittleEndian_take_le (bs : List UInt8) (k : Nat) :
    ofLittleEndian (bs.take k) ≤ ofLittleEndian bs := by
  induction bs generalizing k with
  | nil => simp
  | cons b bs ih =>
    cases k with
    | zero => simp [ofLittleEndian]
    | succ k =>
      have := ih k
      simp only [List.take_succ_cons, ofLittleEndian]
      omega

theorem ofLittleEndian_lt (bs : List UInt8) : ofLittleEndian bs < 256 ^ bs.length := by
  induction bs with
  | nil => simp [ofLittleEndian]
  | cons b bs ih =>
    have hb := b.toNat_lt
    simp only [ofLittleEndian, List.length_cons, pow_succ]
    omega

/-! ## Channels -/

/-- What the kernel answers to one `read`: an error, or some bytes but no more
than `limit`. -/
inductive ReadAnswer
  | error
  | atMost (limit : ℕ+)
  deriving DecidableEq

/-- The bytes on a channel, and the answers to the next reads. A read after them
gives all that it is asked for, as far as it is there. -/
structure Channel where
  bytes : List UInt8
  answers : List ReadAnswer := []
  deriving DecidableEq

namespace Channel

/-- A read takes `n` bytes off the channel. -/
def taken (c : Channel) (n : Nat) : Option (List UInt8) × Channel :=
  (some (c.bytes.take n), ⟨c.bytes.drop n, c.answers.tail⟩)

/-- `read`, with the bytes that it gives, or `none` for an error. -/
def read (c : Channel) (count : Nat) : Option (List UInt8) × Channel :=
  match c.answers.head? with
  | none => c.taken count
  | some .error => (none, { c with answers := c.answers.tail })
  | some (.atMost limit) => c.taken (min count limit)

/-- The next read gives `count` bytes when it is asked for them. -/
def Whole (answers : List ReadAnswer) (count : Nat) : Prop :=
  ∀ limit, answers.head? = some (.atMost limit) → count ≤ limit

/-- No read fails. -/
def NoError (answers : List ReadAnswer) : Prop := ∀ a ∈ answers, a ≠ .error

theorem NoError.tail {answers : List ReadAnswer} (h : NoError answers) : NoError answers.tail :=
  fun a ha => h a (List.mem_of_mem_tail ha)

/-- A read that gives all its bytes takes exactly these off the channel. -/
theorem read_whole {xs rest : List UInt8} {answers : List ReadAnswer} (hn : NoError answers)
    (hw : Whole answers xs.length) :
    read ⟨xs ++ rest, answers⟩ xs.length = (some xs, ⟨rest, answers.tail⟩) := by
  unfold read
  rcases ha : answers.head? with _ | a
  · simp [taken]
  · cases a with
    | error => exact absurd rfl (hn _ (List.mem_of_head? ha))
    | atMost limit =>
      have hmin : min xs.length limit = xs.length := by
        have := hw limit ha
        omega
      simp [taken, hmin]

/-- A read that does not give all its bytes is cut off by its limit. -/
theorem read_short {c : Channel} {count : Nat} (hw : ¬ Whole c.answers count) :
    ∃ limit : ℕ+, (limit : Nat) < count ∧ c.read count = c.taken limit := by
  unfold Whole at hw
  push Not at hw
  obtain ⟨limit, ha, hlt⟩ := hw
  refine ⟨limit, hlt, ?_⟩
  have hmin : min count limit = limit := by omega
  simp [read, ha, hmin]

/-- What a read gives, it takes off the channel, and it is no more than it was asked for. -/
theorem read_eq_some {c c1 : Channel} {count : Nat} {bytes : List UInt8}
    (h : c.read count = (some bytes, c1)) : c.bytes = bytes ++ c1.bytes ∧ bytes.length ≤ count := by
  unfold read at h
  rcases ha : c.answers.head? with _ | ⟨_ | limit⟩ <;> simp only [ha, taken] at h <;> cases h
  · exact ⟨(List.take_append_drop count c.bytes).symm, List.length_take_le count c.bytes⟩
  · refine ⟨(List.take_append_drop _ c.bytes).symm, ?_⟩
    have := List.length_take_le (min count limit) c.bytes
    omega

/-- A read that fails leaves the bytes on the channel. -/
theorem read_eq_none {c c1 : Channel} {count : Nat} (h : c.read count = (none, c1)) :
    c1.bytes = c.bytes := by
  unfold read at h
  rcases ha : c.answers.head? with _ | ⟨_ | limit⟩ <;> simp only [ha, taken] at h <;> cases h
  rfl

/-- No read takes more bytes off the channel than it is asked for. -/
theorem read_length_le (c : Channel) (count : Nat) :
    c.bytes.length ≤ (c.read count).2.bytes.length + count := by
  rcases h : c.read count with ⟨_ | bytes, c1⟩
  · have hbytes := read_eq_none h
    dsimp only
    rw [hbytes]
    omega
  · obtain ⟨hbytes, hle⟩ := read_eq_some h
    dsimp only
    rw [hbytes, List.length_append]
    omega

end Channel

end byte_stream
