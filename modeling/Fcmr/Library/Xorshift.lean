import Mathlib.Data.Nat.ModEq
import Mathlib.Logic.Function.Basic
import Mathlib.Tactic.Linarith

/-! Words that are mixed without loss: a word xored with itself shifted, and a word
multiplied by an odd one. -/
namespace Xorshift

variable {w : Nat}

theorem eq_zero_of_shift {shift : BitVec w → Nat → BitVec w}
    (hadd : ∀ x m n, shift x (m + n) = shift (shift x m) n) (hall : ∀ x n, w ≤ n → shift x n = 0)
    {x : BitVec w} {n : Nat} (hn : 0 < n) (h : shift x n = x) : x = 0 := by
  have hmany (k : Nat) : shift x (k * n + n) = x := by
    induction k with
    | zero => rw [Nat.zero_mul, Nat.zero_add, h]
    | succ k ih => rw [Nat.succ_mul, hadd, ih, h]
  rw [← hmany w, hall x]
  exact Nat.le_add_right_of_le (Nat.le_mul_of_pos_right w hn)

theorem xor_shift_injective (shift : BitVec w → Nat → BitVec w)
    (hadd : ∀ x m n, shift x (m + n) = shift (shift x m) n) (hall : ∀ x n, w ≤ n → shift x n = 0)
    (hxor : ∀ x y n, shift (x ^^^ y) n = shift x n ^^^ shift y n) {n : Nat} (hn : 0 < n) :
    Function.Injective fun x => x ^^^ shift x n := by
  intro x y h
  have hshift : shift (x ^^^ y) n = x ^^^ y := by
    have hxy : x ^^^ shift x n = y ^^^ shift y n := h
    calc
      shift (x ^^^ y) n = x ^^^ (x ^^^ shift x n) ^^^ shift y n := by
        rw [hxor, ← BitVec.xor_assoc x x, BitVec.xor_self, BitVec.zero_xor]
      _ = x ^^^ y := by
        rw [hxy, BitVec.xor_assoc, BitVec.xor_assoc, BitVec.xor_self, BitVec.xor_zero]
  exact BitVec.xor_eq_zero_iff.mp (eq_zero_of_shift hadd hall hn hshift)

theorem xor_shiftRight_injective {n : Nat} (hn : 0 < n) :
    Function.Injective fun x : BitVec w => x ^^^ x >>> n := by
  apply xor_shift_injective (fun x n => x >>> n) _ _ _ hn
  · exact BitVec.shiftRight_add
  · intro x n hle
    exact BitVec.ushiftRight_eq_zero hle
  · intro x y n
    exact BitVec.ushiftRight_xor_distrib x y n

theorem xor_shiftLeft_injective {n : Nat} (hn : 0 < n) :
    Function.Injective fun x : BitVec w => x ^^^ x <<< n := by
  apply xor_shift_injective (fun x n => x <<< n) _ _ _ hn
  · exact BitVec.shiftLeft_add
  · intro x n hle
    exact BitVec.shiftLeft_eq_zero hle
  · intro x y n
    exact BitVec.shiftLeft_xor_distrib x y n

theorem mul_odd_injective {m : BitVec w} (hodd : m.toNat % 2 = 1) :
    Function.Injective fun x : BitVec w => x * m := by
  have hcoprime : Nat.gcd (2 ^ w) m.toNat = 1 := by
    apply Nat.Coprime.pow_left
    rw [Nat.Coprime, Nat.gcd_rec, hodd, Nat.gcd_one_left]
  intro x y h
  have hmod : x.toNat * m.toNat ≡ y.toNat * m.toNat [MOD 2 ^ w] := by
    have hnat := congrArg BitVec.toNat h
    rwa [BitVec.toNat_mul, BitVec.toNat_mul] at hnat
  have hcancel := Nat.ModEq.cancel_right_of_coprime hcoprime hmod
  apply BitVec.eq_of_toNat_eq
  rwa [Nat.ModEq, Nat.mod_eq_of_lt x.isLt, Nat.mod_eq_of_lt y.isLt] at hcancel

end Xorshift
