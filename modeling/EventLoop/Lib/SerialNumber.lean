import Mathlib.Data.BitVec
import Mathlib.Tactic.Ring

/-!
# Counters that wrap around

A `w`-bit counter runs around a circle of `2 ^ w` values. Comparing two values by the sign of
their difference is not a transitive relation on the whole circle; it is an order on the half of
it ahead of a reference point `now`. This file has that order, and what happens to it when the
reference point moves forward.
-/

namespace Lib

variable {w : ℕ}

/-- How far `a` lies ahead of `now`. -/
def ahead (now a : BitVec w) : ℕ := (a - now).toNat

/-- `a` lies strictly ahead of `now`, by less than half the circle. -/
def InWindow (now a : BitVec w) : Prop := 0 < ahead now a ∧ 2 * ahead now a < 2 ^ w

instance (now a : BitVec w) : Decidable (InWindow now a) := inferInstanceAs (Decidable (_ ∧ _))

theorem toNat_sub_eq (a b : BitVec w) :
    (a - b).toNat = if b.toNat ≤ a.toNat then a.toNat - b.toNat
      else a.toNat + 2 ^ w - b.toNat := by
  have ha := a.isLt
  have hb := b.isLt
  rw [BitVec.toNat_sub]
  split
  · next hle =>
    have hsum : 2 ^ w - b.toNat + a.toNat = a.toNat - b.toNat + 2 ^ w := by omega
    rw [hsum, Nat.add_mod_right, Nat.mod_eq_of_lt (by omega)]
  · rw [Nat.mod_eq_of_lt (by omega)]
    omega

/-- Moving the reference point forward by `t`. -/
theorem ahead_add (now t a : BitVec w) :
    ahead (now + t) a = if t.toNat ≤ ahead now a then ahead now a - t.toNat
      else ahead now a + 2 ^ w - t.toNat := by
  have hsub : a - (now + t) = (a - now) - t := by
    exact sub_add_eq_sub_sub a now t
  rw [ahead, hsub, toNat_sub_eq]
  rfl

/-- The sign of a difference, by the distances from a common reference point. -/
theorem toInt_sub_neg_iff {now a b : BitVec w} (ha : 2 * ahead now a < 2 ^ w)
    (hb : 2 * ahead now b < 2 ^ w) : (a - b).toInt < 0 ↔ ahead now a < ahead now b := by
  have hsub : a - b = (a - now) - (b - now) := (sub_sub_sub_cancel_right a b now).symm
  have hdiff := toNat_sub_eq (a - now) (b - now)
  rw [← hsub] at hdiff
  change 2 * (a - now).toNat < 2 ^ w at ha
  change 2 * (b - now).toNat < 2 ^ w at hb
  change _ ↔ (a - now).toNat < (b - now).toNat
  rw [BitVec.toInt_eq_toNat_cond, hdiff]
  split_ifs <;> omega

/-- `a` is at or before `now` in the sense of the sign of the difference exactly if it is not in
the window ahead. -/
theorem toInt_sub_nonpos_iff {now a : BitVec w} : (a - now).toInt ≤ 0 ↔ ¬ InWindow now a := by
  have hlt := (a - now).isLt
  change _ ↔ ¬ (0 < (a - now).toNat ∧ 2 * (a - now).toNat < 2 ^ w)
  rw [BitVec.toInt_eq_toNat_cond]
  split_ifs <;> omega

/-- After an advance of at most half the circle, what was in the window is still in it exactly
if it was further ahead than the advance. -/
theorem InWindow.advance_iff {now a t : BitVec w} (h : InWindow now a)
    (ht : 2 * t.toNat ≤ 2 ^ w) : InWindow (now + t) a ↔ t.toNat < ahead now a := by
  obtain ⟨hpos, hhalf⟩ := h
  simp only [InWindow, ahead_add]
  split_ifs <;> omega

theorem ahead_advance {now a t : BitVec w} (h : t.toNat ≤ ahead now a) :
    ahead (now + t) a = ahead now a - t.toNat := by rw [ahead_add, if_pos h]

/-! ## True counts

Two counters that started together at `start` and have since counted `m` and `n` in truth. -/

variable {start : BitVec w} {m n : ℕ}

theorem ahead_count_of_le (h : m ≤ n) (hfar : n < m + 2 ^ w) :
    ahead (start + BitVec.ofNat w m) (start + BitVec.ofNat w n) = n - m := by
  have hsum : BitVec.ofNat w n = BitVec.ofNat w (n - m) + BitVec.ofNat w m := by
    rw [← BitVec.ofNat_add, Nat.sub_add_cancel h]
  rw [ahead, add_sub_add_left_eq_sub, hsum, add_sub_cancel_right, BitVec.toNat_ofNat,
    Nat.mod_eq_of_lt (by omega)]

theorem ahead_count_of_lt (h : n < m) (hnear : m ≤ n + 2 ^ w) :
    ahead (start + BitVec.ofNat w m) (start + BitVec.ofNat w n) = (n + 2 ^ w) - m := by
  have hturn : BitVec.ofNat w n = BitVec.ofNat w (n + 2 ^ w) := by
    apply BitVec.eq_of_toNat_eq
    rw [BitVec.toNat_ofNat, BitVec.toNat_ofNat, Nat.add_mod_right]
  rw [hturn, ahead_count_of_le hnear (by omega)]

/-- With the counts less than half the circle apart, the window is the order of the counts. -/
theorem inWindow_count_iff (hfar : 2 * n < 2 * m + 2 ^ w) (hnear : 2 * m ≤ 2 * n + 2 ^ w) :
    InWindow (start + BitVec.ofNat w m) (start + BitVec.ofNat w n) ↔ m < n := by
  rcases Nat.lt_or_ge n m with h | h
  · rw [InWindow, ahead_count_of_lt h (by omega)]
    omega
  · rw [InWindow, ahead_count_of_le h (by omega)]
    omega

end Lib
