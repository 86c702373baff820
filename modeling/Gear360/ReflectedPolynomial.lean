import Gear360.ShiftRegister

/-! A feedback shift register as division of polynomials over GF(2): bits are read lowest first,
and the first one is the highest coefficient. -/
namespace ShiftRegister

open Function
open Polynomial

/-- The `n` lowest bits of `x`, the least significant one as the highest coefficient. -/
noncomputable def reflected (n x : ℕ) : (ZMod 2)[X] :=
  ∑ k ∈ Finset.range n, if x.testBit (n-1-k) then X^k else 0

theorem coeff_reflected (n x k : ℕ) :
    (reflected n x).coeff k = if k < n ∧ x.testBit (n-1-k) = true then 1 else 0 := by
  have hterm (i : ℕ) : (if x.testBit (n-1-i) then (X^i : (ZMod 2)[X]) else 0).coeff k =
      if k = i then (if x.testBit (n-1-i) then 1 else 0) else 0 := by
    split_ifs <;> simp [coeff_X_pow, *]
  simp only [reflected, finsetSum_coeff, hterm, Finset.sum_ite_eq, Finset.mem_range, ite_and]

theorem degree_reflected_lt (n x : ℕ) : (reflected n x).degree < n := by
  rw [degree_lt_iff_coeff_zero]
  intro k hk
  rw [coeff_reflected, if_neg (by omega)]

theorem reflected_xor (n x y : ℕ) : reflected n (x ^^^ y) = reflected n x + reflected n y := by
  ext k
  simp only [coeff_add, coeff_reflected, Nat.testBit_xor]
  -- two ones cancel in characteristic two
  have htwo : (1+1 : ZMod 2) = 0 := rfl
  by_cases hk : k < n
  · cases x.testBit (n-1-k) <;> cases y.testBit (n-1-k) <;> simp [hk, htwo]
  · simp [hk]

/-- The first bit is the highest coefficient. -/
theorem reflected_bit (n : ℕ) (b : Bool) (x : ℕ) :
    reflected (n+1) (Nat.bit b x) = (if b then X^n else 0) + reflected n x := by
  rw [reflected, Finset.sum_range_succ, add_comm]
  congr 1
  · simp
  · apply Finset.sum_congr rfl
    intro k hk
    have hplace : n+1-1-k = (n-1-k)+1 := by have := Finset.mem_range.mp hk; omega
    rw [hplace, Nat.testBit_bit_succ]

/-- Zeros above the highest bit are low coefficients. -/
theorem reflected_add {w x : ℕ} (m : ℕ) (h : x < 2^w) :
    reflected (m+w) x = X^m * reflected w x := by
  ext k
  rw [coeff_X_pow_mul', coeff_reflected]
  by_cases hk : m ≤ k
  · have hplace : m+w-1-k = w-1-(k-m) := by omega
    have hrange : k < m+w ↔ k-m < w := by omega
    simp only [if_pos hk, coeff_reflected, hplace, hrange]
  · have hbit : x.testBit (m+w-1-k) = false :=
      Nat.testBit_lt_two_pow (h.trans_le (Nat.pow_le_pow_right (by norm_num) (by omega)))
    rw [if_neg hk, hbit, if_neg (by simp)]

/-- The coefficients below `w` as a number, the highest one its least significant bit. -/
def reversal (w : ℕ) (p : (ZMod 2)[X]) : ℕ := Nat.ofBits (fun i : Fin w => p.coeff (w-1-i) = 1)

theorem reversal_reflected {w x : ℕ} (h : x < 2^w) : reversal w (reflected w x) = x := by
  have hbits : (fun i : Fin w => decide ((reflected w x).coeff (w-1-i) = 1)) =
      fun i : Fin w => x.testBit i := by
    funext i
    have hlt : w-1-i < w := by have := i.isLt; omega
    have hplace : w-1-(w-1-i) = (i : ℕ) := by have := i.isLt; omega
    rw [coeff_reflected, hplace]
    cases x.testBit i <;> simp [hlt]
  rw [reversal, hbits, Nat.ofBits_testBit, Nat.mod_eq_of_lt h]

namespace Feedback

variable {w : ℕ} (F : Feedback w)

/-- The polynomial that the register divides by. -/
noncomputable def generator : (ZMod 2)[X] := X^w + reflected w F.poly

theorem generator_monic : F.generator.Monic := monic_X_pow_add (degree_reflected_lt w F.poly)

theorem degree_generator : F.generator.degree = w := by
  rw [generator, degree_add_eq_left_of_degree_lt, degree_X_pow]
  rw [degree_X_pow]
  exact degree_reflected_lt w F.poly

/-- A one that falls out of the register takes a multiple of the generator away. -/
theorem reflected_shift (m x : ℕ) :
    reflected (m+w+1) x = reflected (m+w) (F.shift x) +
      (if x.bodd then X^m * F.generator else 0) := by
  have hpoly : reflected (m+w) F.poly = X^m * reflected w F.poly := reflected_add m F.poly_lt
  have hshift : F.shift x = if x.bodd then x.div2 ^^^ F.poly else x.div2 := by
    conv_lhs => rw [shift, ← Nat.bit_bodd_div2 x, step_bit]
  conv_lhs => rw [← Nat.bit_bodd_div2 x, reflected_bit]
  rw [hshift]
  cases x.bodd with
  | false => simp
  | true =>
    -- the fed-back bits are added on one side and cancelled on the other
    have htwice : X^m * reflected w F.poly + X^m * reflected w F.poly = 0 :=
      CharTwo.add_self_eq_zero _
    simp only [if_true, reflected_xor, hpoly, generator]
    linear_combination -htwice

theorem generator_dvd (n x : ℕ) :
    F.generator ∣ reflected (n+w) x - reflected w (F.shift^[n] x) := by
  induction n generalizing x with
  | zero => simp
  | succ n ih =>
    -- the first shift takes at most one multiple of the generator away
    have hstep : F.generator ∣ reflected (n+1+w) x - reflected (n+w) (F.shift x) := by
      rw [Nat.add_right_comm, F.reflected_shift, add_sub_cancel_left]
      split_ifs
      · exact Dvd.intro_left _ rfl
      · exact dvd_zero _
    rw [iterate_succ_apply]
    have hsum := dvd_add hstep (ih (F.shift x))
    rwa [sub_add_sub_cancel] at hsum

/-- Shifting all bits of a message out leaves, reflected, the remainder of the message times
`X^w`. -/
theorem reflected_iterate {n x : ℕ} (h : x < 2^n) :
    reflected w (F.shift^[n] x) = (reflected n x * X^w) %ₘ F.generator := by
  obtain ⟨q, hq⟩ := F.generator_dvd n x
  have hdivide : reflected w (F.shift^[n] x) + F.generator * q = reflected n x * X^w := by
    calc reflected w (F.shift^[n] x) + F.generator * q
      _ = reflected w (F.shift^[n] x) + (reflected (n+w) x - reflected w (F.shift^[n] x)) := by
        rw [hq]
      _ = reflected (n+w) x := add_sub_cancel _ _
      _ = reflected n x * X^w := by rw [Nat.add_comm, reflected_add w h, mul_comm]
  have hdegree : (reflected w (F.shift^[n] x)).degree < F.generator.degree := by
    rw [degree_generator]
    exact degree_reflected_lt w _
  -- quotient and remainder are the only ones
  exact ((div_modByMonic_unique q _ F.generator_monic ⟨hdivide, hdegree⟩).2).symm

end Feedback

end ShiftRegister
