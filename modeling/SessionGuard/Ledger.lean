-- A ledger of resources: what is acquired, used and released, in order. A
-- lawful ledger touches only what is held, so that it releases nothing twice.
import Mathlib.Data.List.Basic
import Mathlib.Tactic.Common

namespace ledger

variable {R : Type*} [DecidableEq R]

/-! ## Entries -/

inductive Entry (R : Type*)
  | acquire (r : R)
  | use (r : R)
  | release (r : R)
  deriving DecidableEq

/-- What is held after one more entry. -/
def post (held : List R) : Entry R → List R
  | .acquire r => r :: held
  | .use _ => held
  | .release r => held.erase r

/-- What is held after the entries. -/
def balance (held : List R) (entries : List (Entry R)) : List R := entries.foldl post held

@[simp] theorem balance_nil (held : List R) : balance held [] = held := rfl

@[simp] theorem balance_cons (held : List R) (e : Entry R) (es : List (Entry R)) :
    balance held (e :: es) = balance (post held e) es := rfl

@[simp] theorem balance_append (held : List R) (xs ys : List (Entry R)) :
    balance held (xs ++ ys) = balance (balance held xs) ys := List.foldl_append

/-! ## Laws along the entries -/

/-- Each entry meets `P` with what is held before it. -/
def Along (P : List R → Entry R → Prop) : List R → List (Entry R) → Prop
  | _, [] => True
  | held, e :: es => P held e ∧ Along P (post held e) es

theorem along_append {P : List R → Entry R → Prop} {held : List R} {xs ys : List (Entry R)} :
    Along P held (xs ++ ys) ↔ Along P held xs ∧ Along P (balance held xs) ys := by
  induction xs generalizing held with
  | nil => simp [Along]
  | cons e xs ih => simp [Along, ih, and_assoc]

instance decidableAlong (P : List R → Entry R → Prop) [∀ held e, Decidable (P held e)] :
    (held : List R) → (es : List (Entry R)) → Decidable (Along P held es)
  | _, [] => isTrue trivial
  | held, e :: es => @instDecidableAnd _ _ _ (decidableAlong P (post held e) es)

/-- What is acquired is held neither here nor elsewhere. -/
def IsFresh (others held : List R) : Entry R → Prop
  | .acquire r => r ∉ others ∧ r ∉ held
  | _ => True

instance (others held : List R) : (e : Entry R) → Decidable (IsFresh others held e)
  | .acquire _ => inferInstanceAs (Decidable (_ ∧ _))
  | .use _ => isTrue trivial
  | .release _ => isTrue trivial

/-- What is used or released is held. -/
def IsLawful (held : List R) : Entry R → Prop
  | .acquire _ => True
  | .use r => r ∈ held
  | .release r => r ∈ held

instance (held : List R) : (e : Entry R) → Decidable (IsLawful held e)
  | .acquire _ => isTrue trivial
  | .use _ => inferInstanceAs (Decidable (_ ∈ _))
  | .release _ => inferInstanceAs (Decidable (_ ∈ _))

def Fresh (others : List R) : List R → List (Entry R) → Prop := Along (IsFresh others)

def Lawful : List R → List (Entry R) → Prop := Along IsLawful

instance (others held : List R) (es : List (Entry R)) : Decidable (Fresh others held es) :=
  inferInstanceAs (Decidable (Along _ _ _))

instance (held : List R) (es : List (Entry R)) : Decidable (Lawful held es) :=
  inferInstanceAs (Decidable (Along _ _ _))

theorem lawful_append {held : List R} {xs ys : List (Entry R)} :
    Lawful held (xs ++ ys) ↔ Lawful held xs ∧ Lawful (balance held xs) ys := along_append

theorem fresh_append {others held : List R} {xs ys : List (Entry R)} :
    Fresh others held (xs ++ ys) ↔ Fresh others held xs ∧ Fresh others (balance held xs) ys :=
  along_append

/-! ## Releases -/

/-- Releasing a part of what is held, each thing once, is lawful and leaves the rest. -/
theorem release_part {held rs rest : List R} (h : held.Perm (rs ++ rest)) :
    Lawful held (rs.map .release) ∧ (balance held (rs.map .release)).Perm rest := by
  induction rs generalizing held with
  | nil => exact ⟨trivial, h⟩
  | cons r rs ih =>
    have herase : (held.erase r).Perm (rs ++ rest) := by
      have := h.erase r
      rwa [List.cons_append, List.erase_cons_head] at this
    obtain ⟨hlaw, hperm⟩ := ih herase
    exact ⟨⟨h.mem_iff.mpr List.mem_cons_self, hlaw⟩, hperm⟩

/-- Releasing all that is held leaves nothing. -/
theorem release_all {held rs : List R} (h : held.Perm rs) :
    Lawful held (rs.map .release) ∧ balance held (rs.map .release) = [] := by
  have hpart : held.Perm (rs ++ []) := by rwa [List.append_nil]
  obtain ⟨hlaw, hperm⟩ := release_part hpart
  exact ⟨hlaw, hperm.eq_nil⟩

theorem acquire_all (held rs : List R) :
    Lawful held (rs.map .acquire) ∧ (balance held (rs.map .acquire)).Perm (rs ++ held) := by
  induction rs generalizing held with
  | nil => exact ⟨trivial, List.Perm.refl _⟩
  | cons r rs ih =>
    obtain ⟨hlaw, hperm⟩ := ih (r :: held)
    exact ⟨⟨trivial, hlaw⟩, hperm.trans List.perm_middle⟩

/-- Acquiring, and then releasing a part of it, leaves the rest. -/
theorem acquire_release {as rs rest : List R} (h : as.Perm (rs ++ rest)) :
    Lawful [] (as.map .acquire ++ rs.map .release) ∧
      (balance [] (as.map .acquire ++ rs.map .release)).Perm rest := by
  obtain ⟨hacq, hheld⟩ := acquire_all [] as
  rw [List.append_nil] at hheld
  obtain ⟨hrel, hrest⟩ := release_part (hheld.trans h)
  exact ⟨lawful_append.mpr ⟨hacq, hrel⟩, by rwa [balance_append]⟩

/-! ## Nothing is released twice -/

/-- A lawful ledger releases a resource no more often than it was held or
acquired. -/
theorem lawful_count_release {held : List R} {es : List (Entry R)} (h : Lawful held es) (r : R) :
    es.count (.release r) + (balance held es).count r = held.count r + es.count (.acquire r) := by
  induction es generalizing held with
  | nil => simp
  | cons e es ih =>
    obtain ⟨he, hes⟩ := h
    have hrest := ih hes
    rw [balance_cons]
    cases e with
    | acquire q =>
      simp only [post, List.count_cons] at hrest ⊢
      by_cases hq : q = r <;> simp [hq] at hrest ⊢ <;> omega
    | use q =>
      simpa [post, List.count_cons] using hrest
    | release q =>
      have hpos : q ∈ held := he
      simp only [post, List.count_cons, List.count_erase] at hrest ⊢
      by_cases hq : q = r
      · have := List.count_pos_iff.mpr hpos
        subst hq
        simp at hrest ⊢
        omega
      · simp [hq] at hrest ⊢
        omega

end ledger
