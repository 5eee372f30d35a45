-- The two lengths of a text: the bytes of its UTF-8 encoding and its UTF-16
-- code units. They agree exactly on ASCII texts, and a text with no NUL has
-- no zero byte, so that C string functions see all of it.
import Mathlib.Algebra.GroupWithZero.Nat
import Mathlib.Data.List.TakeWhile
import Mathlib.Tactic.Common

namespace unicode

/-! ## The two encodings -/

/-- The bytes of the UTF-8 encoding of a text. -/
def utf8 (s : String) : List UInt8 := s.toList.flatMap String.utf8EncodeChar

/-- The UTF-16 code units of a character. -/
def utf16Units (c : Char) : Nat := if c.toNat ≤ 0xffff then 1 else 2

/-- The UTF-16 code units of a text. -/
def utf16Length (s : String) : Nat := (s.toList.map utf16Units).sum

/-- Every character of the text is ASCII. -/
def IsAscii (s : String) : Prop := ∀ c ∈ s.toList, c.toNat ≤ 0x7f

instance (s : String) : Decidable (IsAscii s) :=
  List.decidableBAll (fun c : Char => c.toNat ≤ 0x7f) s.toList

/-- No character of the text is NUL. -/
def NoNul (s : String) : Prop := ∀ c ∈ s.toList, c.toNat ≠ 0

instance (s : String) : Decidable (NoNul s) :=
  List.decidableBAll (fun c : Char => c.toNat ≠ 0) s.toList

/-! ## The bytes against the units -/

theorem utf8EncodeChar_length (c : Char) :
    (String.utf8EncodeChar c).length =
      if c.toNat ≤ 0x7f then 1 else if c.toNat ≤ 0x7ff then 2 else
        if c.toNat ≤ 0xffff then 3 else 4 := by
  unfold String.utf8EncodeChar
  dsimp only
  split_ifs <;> first | rfl | contradiction

theorem utf16Units_le (c : Char) : utf16Units c ≤ (String.utf8EncodeChar c).length := by
  rw [utf8EncodeChar_length, utf16Units]
  split_ifs <;> omega

/-- A character takes no more bytes than units exactly when it is ASCII. -/
theorem utf8EncodeChar_length_le_iff (c : Char) :
    (String.utf8EncodeChar c).length ≤ utf16Units c ↔ c.toNat ≤ 0x7f := by
  rw [utf8EncodeChar_length, utf16Units]
  split_ifs <;> omega

theorem utf16_sum_le (cs : List Char) :
    (cs.map utf16Units).sum ≤ (cs.flatMap String.utf8EncodeChar).length := by
  induction cs with
  | nil => simp
  | cons c cs ih =>
    have := utf16Units_le c
    simp only [List.map_cons, List.sum_cons, List.flatMap_cons, List.length_append]
    omega

/-- A text takes no more bytes than units exactly when it is ASCII. -/
theorem utf8_length_le_iff (s : String) : (utf8 s).length ≤ utf16Length s ↔ IsAscii s := by
  unfold utf8 utf16Length IsAscii
  induction s.toList with
  | nil => simp
  | cons c cs ih =>
    have hc := utf16Units_le c
    have hcs := utf16_sum_le cs
    have hiff := utf8EncodeChar_length_le_iff c
    simp only [List.map_cons, List.sum_cons, List.flatMap_cons, List.length_append,
      List.forall_mem_cons, ← ih, ← hiff]
    omega

/-! ## C strings -/

/-- What `strcpy` copies: the bytes up to the first NUL, and the NUL. -/
def cString (bytes : List UInt8) : List UInt8 := bytes.takeWhile (· ≠ 0) ++ [0]

/-- Only NUL has a zero byte in its encoding. -/
theorem utf8EncodeChar_ne_zero (c : Char) (hc : c.toNat ≠ 0) :
    ∀ b ∈ String.utf8EncodeChar c, b ≠ 0 := by
  intro b hb
  have hne : ∀ n : Nat, n < 256 → n ≠ 0 → UInt8.ofNat n ≠ 0 := by
    intro n hn h0 h
    have := congrArg UInt8.toNat h
    simp [UInt8.toNat_ofNat'] at this
    omega
  unfold String.utf8EncodeChar at hb
  dsimp only at hb
  split_ifs at hb <;> simp only [List.mem_cons, List.not_mem_nil, or_false] at hb
  · rename_i hle
    have hle : c.toNat ≤ 127 := hle
    exact hb ▸ hne c.toNat (by omega) hc
  · rcases hb with rfl | rfl <;> exact hne _ (by omega) (by omega)
  · rcases hb with rfl | rfl | rfl <;> exact hne _ (by omega) (by omega)
  · rcases hb with rfl | rfl | rfl | rfl <;> exact hne _ (by omega) (by omega)

theorem cString_utf8 {s : String} (h : NoNul s) : cString (utf8 s) = utf8 s ++ [0] := by
  unfold cString
  rw [List.takeWhile_eq_self_iff.mpr]
  intro b hb
  obtain ⟨c, hc, hb⟩ := List.mem_flatMap.mp hb
  simpa using utf8EncodeChar_ne_zero c (h c hc) b hb

end unicode
