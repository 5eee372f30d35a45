-- A pipe between two processes: a small write goes in at once and a large one piece by piece, and a
-- read gives what is there.
import Mathlib.Data.List.Basic
import Mathlib.Tactic.Common

namespace byte_stream

/-- The bytes that the kernel holds, and those that the writer, which is still in `write`, has
not handed over. -/
structure Pipe where
  buffer : List UInt8 := []
  writing : List UInt8 := []
  deriving DecidableEq

/-- A `write` of no more bytes is atomic. -/
def PIPE_BUF : Nat := 4096

namespace Pipe

/-- All bytes that are to be read, in order. -/
def bytes (p : Pipe) : List UInt8 := p.buffer ++ p.writing

/-- `write`, where the writer is not in another one. -/
def write (p : Pipe) (data : List UInt8) : Pipe :=
  if data.length ≤ PIPE_BUF then { p with buffer := p.buffer ++ data } else { p with writing := data }

/-- The kernel takes `n` bytes from the writer. -/
def flow (p : Pipe) (n : Nat) : Option Pipe :=
  if 0 < n ∧ n ≤ p.writing.length then
    some { buffer := p.buffer ++ p.writing.take n, writing := p.writing.drop n }
  else none

/-- `read`, where `closed` says that the writer is gone. It blocks on an empty pipe that is not
closed. -/
def read (p : Pipe) (count : Nat) (closed : Bool) : Option (List UInt8 × Pipe) :=
  if count = 0 then some ([], p)
  else if p.buffer.isEmpty then if closed && p.writing.isEmpty then some ([], p) else none
  else some (p.buffer.take count, { p with buffer := p.buffer.drop count })

/-! ## What the reads and writes do -/

variable {p p1 : Pipe} {data : List UInt8} {count : Nat} {closed : Bool}

theorem write_bytes (h : p.writing = []) : (p.write data).bytes = p.bytes ++ data := by
  unfold write bytes
  split_ifs
  · simp [h]
  · simp [h]

theorem flow_bytes {n : Nat} (h : p.flow n = some p1) : p1.bytes = p.bytes := by
  unfold flow at h
  split_ifs at h
  cases h
  simp [bytes, List.append_assoc]

/-- A read that finds all its bytes takes these off the pipe. -/
theorem read_whole (h : p.read count closed = some (data, p1)) (hle : count ≤ p.buffer.length) :
    data = p.bytes.take count ∧ p1.bytes = p.bytes.drop count := by
  unfold read at h
  split_ifs at h with hzero hempty hclosed
  · cases h
    simp [hzero]
  · rw [List.isEmpty_iff] at hempty
    rw [hempty, List.length_nil] at hle
    omega
  · cases h
    refine ⟨?_, ?_⟩
    · rw [bytes, List.take_append_of_le_length hle]
    · rw [bytes, bytes, List.drop_append_of_le_length hle]

/-- A read that finds no byte has come to the end of the pipe. -/
theorem read_end (h : p.read count closed = some (data, p1)) (hpos : 0 < count)
    (hnil : p.buffer = []) : closed = true ∧ p.bytes = [] ∧ data = [] ∧ p1 = p := by
  unfold read at h
  rw [if_neg (by omega), hnil, List.isEmpty_nil, if_pos rfl] at h
  split_ifs at h with hclosed
  cases h
  rw [Bool.and_eq_true, List.isEmpty_iff] at hclosed
  exact ⟨hclosed.1, by simp [bytes, hnil, hclosed.2], rfl, rfl⟩

theorem write_idle {p : Pipe} {data : List UInt8} (h : p.writing = [])
    (hsmall : data.length ≤ PIPE_BUF) : (p.write data).writing = [] := by
  unfold write
  rw [if_pos hsmall]
  exact h

theorem read_writing {p p1 : Pipe} {count : Nat} {closed : Bool} {data : List UInt8}
    (h : p.read count closed = some (data, p1)) : p1.writing = p.writing := by
  unfold read at h
  split_ifs at h <;> cases h <;> rfl

theorem flow_idle {p : Pipe} {n : Nat} (h : p.writing = []) : p.flow n = none := by
  rw [flow, h, List.length_nil, if_neg (by omega)]

/-- A read that finds all its bytes does not block. -/
theorem read_isSome {p : Pipe} {count : Nat} (closed : Bool) (h : count ≤ p.buffer.length) :
    ∃ data p1, p.read count closed = some (data, p1) := by
  unfold read
  by_cases hzero : count = 0
  · rw [if_pos hzero]
    exact ⟨_, _, rfl⟩
  · have hsome : p.buffer.isEmpty = false := by
      rcases hp : p.buffer with _ | ⟨x, xs⟩
      · rw [hp, List.length_nil] at h
        omega
      · rfl
    rw [if_neg hzero, hsome, if_neg (by simp)]
    exact ⟨_, _, rfl⟩

end Pipe

end byte_stream
