import Mathlib

namespace NearestEven

/-- The nearest integer, the even one of two. -/
def toInt (q : ℚ) : ℤ :=
  if 2*(q-⌊q⌋) < 1 then ⌊q⌋
  else if 1 < 2*(q-⌊q⌋) then ⌊q⌋+1
  else if ⌊q⌋%2 = 0 then ⌊q⌋ else ⌊q⌋+1

theorem floor_le_toInt (q : ℚ) : ⌊q⌋ ≤ toInt q := by
  unfold toInt
  split_ifs <;> omega

theorem toInt_le (q : ℚ) : (toInt q : ℚ) ≤ q+1/2 := by
  have hfloor := Int.floor_le q
  unfold toInt
  split_ifs <;> push_cast <;> linarith

/-- An integer is never passed from above. -/
theorem le_toInt {q : ℚ} {z : ℤ} (h : (z : ℚ) ≤ q) : z ≤ toInt q :=
  (Int.le_floor.mpr h).trans (floor_le_toInt q)

section
variable (precision : ℕ) (emin : ℤ)

/-- The exponent of the last place of `q` in a format with so many significant bits. -/
def exponent (q : ℚ) : ℤ := max (Int.log 2 |q| + 1 - precision) emin

/-- The number of the format nearest to `q`, when the largest exponent is not reached. -/
def round (q : ℚ) : ℚ :=
  toInt (q / 2^exponent precision emin q) * 2^exponent precision emin q

variable {precision emin}

theorem round_le (q : ℚ) :
    round precision emin q ≤ q + 2^exponent precision emin q/2 := by
  have hpos : (0:ℚ) < 2^exponent precision emin q := by positivity
  have hq : q / 2^exponent precision emin q * 2^exponent precision emin q = q :=
    div_mul_cancel₀ q hpos.ne'
  calc round precision emin q
      ≤ (q / 2^exponent precision emin q + 1/2) * 2^exponent precision emin q :=
        mul_le_mul_of_nonneg_right (toInt_le _) hpos.le
    _ = q + 2^exponent precision emin q/2 := by rw [add_mul, hq]; ring

/-- Where the last place is at most a one, no integer is passed from above. -/
theorem intCast_le_round {q : ℚ} {z : ℤ} (he : exponent precision emin q ≤ 0)
    (h : (z : ℚ) ≤ q) : (z : ℚ) ≤ round precision emin q := by
  have hpos : (0:ℚ) < 2^exponent precision emin q := by positivity
  -- the integer is a multiple of the last place
  have hscale : ((z*2^(-exponent precision emin q).toNat : ℤ) : ℚ) =
      z / 2^exponent precision emin q := by
    rw [Int.cast_mul, Int.cast_pow, Int.cast_ofNat, ← zpow_natCast, Int.toNat_of_nonneg (by omega),
      zpow_neg, div_eq_mul_inv]
  have hmultiple : z*2^(-exponent precision emin q).toNat ≤
      toInt (q / 2^exponent precision emin q) := by
    apply le_toInt
    rw [hscale]
    exact div_le_div_of_nonneg_right h hpos.le
  have hcast : (z : ℚ) / 2^exponent precision emin q ≤
      toInt (q / 2^exponent precision emin q) := by
    rw [← hscale]
    exact_mod_cast hmultiple
  exact (div_le_iff₀ hpos).mp hcast

/-- The last place is small against the number, unless the number is too small for the format. -/
theorem exponent_le {q : ℚ} (hq : 0 < q) (hemin : 2^emin*2^precision ≤ 2*q) :
    2^exponent precision emin q*2^precision ≤ 2*q := by
  have htwo : (2:ℚ) ≠ 0 := by norm_num
  rcases max_choice (Int.log 2 |q| + 1 - precision) emin with h | h
  · have hlog : (2:ℚ)^Int.log 2 q ≤ q := Int.zpow_log_le_self (by norm_num) hq
    calc (2:ℚ)^exponent precision emin q*2^precision
        = 2^(Int.log 2 q + 1) := by
          rw [exponent, h, abs_of_pos hq, ← zpow_natCast, ← zpow_add₀ htwo]
          congr 1
          omega
      _ = 2*2^Int.log 2 q := by rw [zpow_add_one₀ htwo, mul_comm]
      _ ≤ 2*q := by linarith
  · rw [exponent, h]
    exact hemin

end

/-- The next multiple of `1/d` is at most the next integer. -/
theorem div_add_one_div_le (n : ℕ) {d : ℕ} (hd : 0 < d) :
    (n:ℚ)/d + 1/d ≤ ((n/d : ℕ) : ℚ) + 1 := by
  have hdpos : (0:ℚ) < d := by exact_mod_cast hd
  rw [← add_div, div_le_iff₀ hdpos]
  have hnat : n+1 ≤ (n/d+1)*d := by
    have hmod := Nat.mod_lt n hd
    have hsplit := Nat.div_add_mod n d
    rw [Nat.add_mul, one_mul, Nat.mul_comm (n/d) d]
    omega
  exact_mod_cast hnat

section
variable {precision : ℕ} {emin : ℤ} {n d : ℕ} (hn : n < 2^precision) (hpos : 0 < n) (hd : 0 < d)
  (hemin : (d:ℚ)*(2^emin*2^precision) ≤ 2)
include hpos hd hemin

theorem exponent_div_le :
    (2:ℚ)^exponent precision emin (n/d)*2^precision ≤ 2*(n/d) := by
  have hdpos : (0:ℚ) < d := by exact_mod_cast hd
  have hone : (1:ℚ) ≤ n := by exact_mod_cast hpos
  apply exponent_le (div_pos (by linarith) hdpos)
  rw [← mul_div_assoc, le_div_iff₀ hdpos, mul_comm]
  linarith

include hn

/-- The last place of the quotient is at most a one. -/
theorem exponent_div_nonpos : exponent precision emin (n/d : ℚ) ≤ 0 := by
  have hnlt : (n:ℚ) < 2^precision := by exact_mod_cast hn
  have hdiv : (n:ℚ)/d ≤ n := div_le_self (Nat.cast_nonneg n) (by exact_mod_cast hd)
  have hsmall : (2:ℚ)^exponent precision emin (n/d)*2^precision ≤ 2*(n/d) :=
    exponent_div_le hpos hd hemin
  have hlt : (2:ℚ)^exponent precision emin (n/d) < 2^(1:ℤ) := by
    apply lt_of_mul_lt_mul_right _ (by positivity : (0:ℚ) ≤ 2^precision)
    calc (2:ℚ)^exponent precision emin (n/d)*2^precision ≤ 2*n := by linarith
      _ < 2^(1:ℤ)*2^precision := by rw [zpow_one]; linarith
  have hlog := (zpow_lt_zpow_iff_right₀ (by norm_num : (1:ℚ) < 2)).mp hlt
  omega

/-- The error is less than what the quotient misses to the next integer. -/
theorem half_place_lt : (2:ℚ)^exponent precision emin (n/d)/2 < 1/d := by
  have hdpos : (0:ℚ) < d := by exact_mod_cast hd
  have hnlt : (n:ℚ) < 2^precision := by exact_mod_cast hn
  have hlt : (2:ℚ)^exponent precision emin (n/d)*d*2^precision < 2*2^precision := by
    calc (2:ℚ)^exponent precision emin (n/d)*d*2^precision
        = 2^exponent precision emin (n/d)*2^precision*d := by ring
      _ ≤ 2*(n/d)*d := mul_le_mul_of_nonneg_right (exponent_div_le hpos hd hemin) hdpos.le
      _ = 2*n := by rw [mul_assoc, div_mul_cancel₀ _ hdpos.ne']
      _ < 2*2^precision := by linarith
  rw [div_lt_div_iff₀ (by norm_num) hdpos, one_mul]
  exact lt_of_mul_lt_mul_right hlt (by positivity)

end

/-- The quotient of integers that the format has is rounded without reaching the next integer. -/
theorem floor_round_div {precision : ℕ} {emin : ℤ} {n d : ℕ} (hn : n < 2^precision) (hd : 0 < d)
    (hemin : (d:ℚ)*(2^emin*2^precision) ≤ 2) :
    ⌊round precision emin (n/d)⌋ = (n/d : ℕ) := by
  rcases Nat.eq_zero_or_pos n with rfl | hpos
  · simp [round, toInt]
  have hround : round precision emin (n/d : ℚ) ≤ n/d + 2^exponent precision emin (n/d)/2 :=
    round_le _
  have herror : (2:ℚ)^exponent precision emin (n/d)/2 < 1/d := half_place_lt hn hpos hd hemin
  have hnext := div_add_one_div_le n hd
  rw [Int.floor_eq_iff]
  constructor
  · exact intCast_le_round (exponent_div_nonpos hn hpos hd hemin)
      (by exact_mod_cast Nat.cast_div_le)
  · rw [Int.cast_natCast]
    linarith

end NearestEven
