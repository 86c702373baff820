import Mathlib

/-! Feedback shift registers over bits, on natural numbers with exclusive or: how many bit errors
the register's remainder shows, from the period of its shift. -/
namespace ShiftRegister

open Function

/-- The number of ones among the bits of `x`. -/
def weight (x : ℕ) : ℕ := x.bitIndices.length

@[simp] theorem weight_zero : weight 0 = 0 := by simp [weight]

theorem weight_bit (b : Bool) (x : ℕ) : weight (Nat.bit b x) = b.toNat + weight x := by
  cases b with
  | false => simp [weight]
  | true => simp [weight, Nat.add_comm 1]

theorem weight_eq_zero_iff {x : ℕ} : weight x = 0 ↔ x = 0 := by
  constructor
  · intro h
    have hsum := Nat.sum_map_two_pow_bitIndices x
    rw [weight, List.length_eq_zero_iff] at h
    rw [h] at hsum
    simpa using hsum.symm
  · rintro rfl
    exact weight_zero

theorem eq_two_pow_of_weight {x : ℕ} (h : weight x = 1) : ∃ k, x = 2^k := by
  obtain ⟨k, hk⟩ := List.length_eq_one_iff.mp h
  have hsum := Nat.sum_map_two_pow_bitIndices x
  rw [hk] at hsum
  exact ⟨k, by simpa using hsum.symm⟩

theorem eq_two_pow_add_of_weight {x : ℕ} (h : weight x = 2) :
    ∃ j k, j < k ∧ x = 2^j + 2^k := by
  obtain ⟨j, k, hjk⟩ := List.length_eq_two.mp h
  have hsum := Nat.sum_map_two_pow_bitIndices x
  have hsorted := (Nat.bitIndices_sorted (n := x)).pairwise
  rw [hjk] at hsum hsorted
  exact ⟨j, k, by simpa using hsorted, by simpa using hsum.symm⟩

/-- Exclusive or adds the ones up to an even number. -/
theorem weight_xor (x y : ℕ) : weight (x ^^^ y) % 2 = (weight x + weight y) % 2 := by
  induction x using Nat.binaryRec' generalizing y with
  | zero => simp
  | bit a x _ ih =>
    rw [← Nat.bit_bodd_div2 y, Nat.xor_bit]
    simp only [weight_bit]
    have hx := ih y.div2
    cases a <;> cases y.bodd <;> simp <;> omega

theorem weight_add_two_pow_mul (k : ℕ) {x : ℕ} (y : ℕ) (h : x < 2^k) :
    weight (x+2^k*y) = weight x + weight y := by
  induction k generalizing x with
  | zero =>
    have hx : x = 0 := by simpa using h
    simp [hx]
  | succ k ih =>
    have hbit : x+2^(k+1)*y = Nat.bit x.bodd (x.div2 + 2^k*y) := by
      conv_lhs => rw [← Nat.bit_bodd_div2 x]
      rw [Nat.bit_val, Nat.bit_val, pow_succ]
      ring
    have hhalf : x.div2 < 2^k := by
      rw [Nat.div2_val]
      rw [pow_succ] at h
      omega
    rw [hbit, weight_bit, ih hhalf]
    conv_rhs => rw [← Nat.bit_bodd_div2 x]
    rw [weight_bit, Nat.add_assoc]

/-- The ones of a number of at most `n` bits, counted by their places. -/
theorem weight_eq_card {x n : ℕ} (h : x < 2^n) :
    weight x = ((Finset.range n).filter (fun i => x.testBit i = true)).card := by
  have hset : (Finset.range n).filter (fun i => x.testBit i = true) = x.bitIndices.toFinset := by
    ext i
    rw [Finset.mem_filter, Finset.mem_range, List.mem_toFinset, Nat.mem_bitIndices,
      and_iff_right_iff_imp]
    intro hi
    by_contra hge
    rw [Nat.testBit_lt_two_pow (h.trans_le (Nat.pow_le_pow_right (by norm_num) (not_lt.mp hge)))]
      at hi
    exact absurd hi (by decide)
  rw [hset, List.toFinset_card_of_nodup Nat.bitIndices_nodup, weight]

/-- A number whose ones lie in a window of `w` places. -/
theorem exists_eq_two_pow_mul {x k w : ℕ} (h : ∀ i, x.testBit i = true → k ≤ i ∧ i < k+w) :
    ∃ b, b < 2^w ∧ x = 2^k*b := by
  refine ⟨x >>> k, Nat.lt_pow_two_of_testBit _ fun i hi => ?_, Nat.eq_of_testBit_eq fun i => ?_⟩
  · rw [Nat.testBit_shiftRight, ← Bool.not_eq_true]
    intro hx
    have hlt := (h _ hx).2
    omega
  · rw [Nat.testBit_two_pow_mul, Nat.testBit_shiftRight]
    by_cases hi : k ≤ i
    · simp [hi]
    · simp only [hi, decide_false, Bool.false_and, ← Bool.not_eq_true]
      exact fun hx => hi (h i hx).1

/-- One shift down; a one that falls out is fed back. -/
def step (poly x : ℕ) : ℕ := if x &&& 1 ≠ 0 then (x >>> 1) ^^^ poly else x >>> 1

theorem step_bit (poly : ℕ) (b : Bool) (x : ℕ) :
    step poly (Nat.bit b x) = if b then x ^^^ poly else x := by
  have hlow : Nat.bit b x &&& 1 = b.toNat := by
    rw [Nat.and_one_is_mod, Nat.bit_val]
    cases b <;> simp
  have hhigh : Nat.bit b x >>> 1 = x := by
    rw [Nat.shiftRight_eq_div_pow, Nat.bit_val, pow_one]
    cases b <;> simp only [Bool.toNat_true, Bool.toNat_false] <;> omega
  rw [step, hlow, hhigh]
  cases b <;> rfl

theorem step_xor (poly x y : ℕ) : step poly (x ^^^ y) = step poly x ^^^ step poly y := by
  rw [← Nat.bit_bodd_div2 x, ← Nat.bit_bodd_div2 y, Nat.xor_bit]
  simp only [step_bit]
  cases x.bodd <;> cases y.bodd
  · rfl
  · exact Nat.xor_assoc _ _ _
  · change x.div2 ^^^ y.div2 ^^^ poly = x.div2 ^^^ poly ^^^ y.div2
    rw [Nat.xor_assoc, Nat.xor_comm y.div2, ← Nat.xor_assoc]
  · -- two ones fall out together, and their feedback cancels
    change x.div2 ^^^ y.div2 = x.div2 ^^^ poly ^^^ (y.div2 ^^^ poly)
    rw [Nat.xor_comm y.div2, Nat.xor_assoc, ← Nat.xor_assoc poly, Nat.xor_self, Nat.zero_xor]

theorem iterate_xor (poly n x y : ℕ) :
    (step poly)^[n] (x ^^^ y) = (step poly)^[n] x ^^^ (step poly)^[n] y := by
  induction n generalizing x y with
  | zero => rfl
  | succ n ih => simp only [iterate_succ_apply, step_xor, ih]

@[simp] theorem iterate_zero_right (poly n : ℕ) : (step poly)^[n] 0 = 0 :=
  iterate_fixed rfl n

/-- While only zeros fall out, a shift halves. -/
theorem iterate_two_pow_mul (poly k x : ℕ) : (step poly)^[k] (2^k*x) = x := by
  induction k with
  | zero => simp
  | succ k ih =>
    have hbit : 2^(k+1)*x = Nat.bit false (2^k*x) := by
      rw [Nat.bit_false, pow_succ, mul_comm (2^k), mul_assoc]
    rw [hbit, iterate_succ_apply, step_bit, if_neg (by simp), ih]

theorem iterate_two_pow (poly k : ℕ) : (step poly)^[k] (2^k) = 1 := by
  simpa using iterate_two_pow_mul poly k 1

theorem add_two_pow_mul_eq_xor {k b : ℕ} (h : b < 2^k) (m : ℕ) : b+2^k*m = b ^^^ (2^k*m) := by
  rw [Nat.add_comm, Nat.two_pow_add_eq_or_of_lt h, Nat.or_comm]
  apply Nat.eq_of_testBit_eq
  intro i
  rw [Nat.testBit_or, Nat.testBit_xor, Nat.testBit_two_pow_mul]
  -- below place `k` the one has no ones, from there on the other
  rcases lt_or_ge i k with hi | hi
  · simp [not_le.mpr hi]
  · simp [Nat.testBit_lt_two_pow (h.trans_le (Nat.pow_le_pow_right (by norm_num) hi))]

/-- The parts below and above place `k` are added up apart. -/
theorem add_two_pow_mul_xor {k x y : ℕ} (hx : x < 2^k) (hy : y < 2^k) (u v : ℕ) :
    (x+2^k*u) ^^^ (y+2^k*v) = (x ^^^ y) + 2^k*(u ^^^ v) := by
  apply Nat.eq_of_testBit_eq
  intro i
  have hxy := Nat.xor_lt_two_pow hx hy
  simp only [Nat.add_comm _ (2^k*_), Nat.testBit_xor, Nat.testBit_two_pow_mul_add _ hx,
    Nat.testBit_two_pow_mul_add _ hy, Nat.testBit_two_pow_mul_add _ hxy]
  split_ifs <;> rfl

/-- Take in words of `k` bits, each before `k` shifts. -/
def absorb (poly k : ℕ) (words : List ℕ) (x : ℕ) : ℕ :=
  words.foldl (fun x b => (step poly)^[k] (x ^^^ b)) x

/-- Taking words in is shifting the number that they are the digits of. -/
theorem absorb_eq (poly k : ℕ) {words : List ℕ} (h : ∀ b ∈ words, b < 2^k) (x : ℕ) :
    absorb poly k words x = (step poly)^[k*words.length] (x ^^^ Nat.ofDigits (2^k) words) := by
  induction words generalizing x with
  | nil => simp [absorb]
  | cons b words ih =>
    have hb : b < 2^k := h b List.mem_cons_self
    have htail : ∀ c ∈ words, c < 2^k := fun c hc => h c (List.mem_cons_of_mem _ hc)
    have hdigits : Nat.ofDigits (2^k) (b :: words) = b ^^^ (2^k*Nat.ofDigits (2^k) words) := by
      rw [Nat.ofDigits_cons, add_two_pow_mul_eq_xor hb]
    -- the later words fall into place during the first `k` shifts
    have hfirst : (step poly)^[k] (x ^^^ (b ^^^ (2^k*Nat.ofDigits (2^k) words))) =
        (step poly)^[k] (x ^^^ b) ^^^ Nat.ofDigits (2^k) words := by
      rw [← Nat.xor_assoc, iterate_xor, iterate_two_pow_mul]
    calc absorb poly k (b :: words) x
      _ = absorb poly k words ((step poly)^[k] (x ^^^ b)) := rfl
      _ = (step poly)^[k*words.length]
          ((step poly)^[k] (x ^^^ b) ^^^ Nat.ofDigits (2^k) words) := ih htail _
      _ = (step poly)^[k*(b :: words).length] (x ^^^ Nat.ofDigits (2^k) (b :: words)) := by
        rw [hdigits, ← hfirst, ← iterate_add_apply, List.length_cons, Nat.mul_succ]

/-- A register of `w` bits whose feedback reaches its top bit. -/
structure Feedback (w : ℕ) where
  poly : ℕ
  poly_lt : poly < 2^w
  poly_top : poly.testBit (w-1) = true

namespace Feedback

variable {w : ℕ} (F : Feedback w)

def shift : ℕ → ℕ := step F.poly

theorem shift_lt {x : ℕ} (h : x < 2^w) : F.shift x < 2^w := by
  have hs : x >>> 1 < 2^w := by rw [Nat.shiftRight_eq_div_pow]; omega
  unfold shift step
  split_ifs
  · exact Nat.xor_lt_two_pow hs F.poly_lt
  · exact hs

theorem iterate_lt {x : ℕ} (n : ℕ) (h : x < 2^w) : F.shift^[n] x < 2^w :=
  Iterate.rec (fun c => c < 2^w) h (fun _ hc => F.shift_lt hc) n

include F in
theorem width_pos : 0 < w := by
  rcases Nat.eq_zero_or_pos w with rfl | h
  · have hzero : F.poly = 0 := by simpa using F.poly_lt
    have htop := F.poly_top
    rw [hzero] at htop
    simp at htop
  · exact h

/-- Only the empty register shifts to the empty register. -/
theorem shift_eq_zero {x : ℕ} (h : x < 2^w) (hx : F.shift x = 0) : x = 0 := by
  have hw := F.width_pos
  have hhalf : x.div2 < 2^(w-1) := by
    obtain ⟨v, rfl⟩ : ∃ v, w = v+1 := ⟨w-1, by omega⟩
    rw [pow_succ] at h
    rw [Nat.div2_val, Nat.add_sub_cancel]
    omega
  rw [← Nat.bit_bodd_div2 x, shift, step_bit] at hx
  rw [← Nat.bit_bodd_div2 x]
  cases hb : x.bodd with
  | false =>
    rw [hb, if_neg (by simp)] at hx
    rw [hx]
    rfl
  | true =>
    -- a fed-back one leaves the top bit set
    rw [hb, if_pos rfl, Nat.xor_eq_zero_iff] at hx
    have htop := F.poly_top
    rw [← hx, Nat.testBit_lt_two_pow hhalf] at htop
    exact absurd htop (by decide)

theorem iterate_eq_zero {x : ℕ} (n : ℕ) (h : x < 2^w) (hx : F.shift^[n] x = 0) : x = 0 := by
  induction n with
  | zero => exact hx
  | succ n ih =>
    rw [iterate_succ_apply'] at hx
    exact ih (F.shift_eq_zero (F.iterate_lt n h) hx)

/-- A burst no wider than the register leaves a remainder. -/
theorem burst_ne_zero {k n x : ℕ} (hx : x < 2^w) (hne : x ≠ 0) (hn : 2^k*x < 2^n) :
    F.shift^[n] (2^k*x) ≠ 0 := by
  intro h
  have hk : 2^k < 2^n := (Nat.le_mul_of_pos_right _ (Nat.pos_of_ne_zero hne)).trans_lt hn
  rw [Nat.pow_lt_pow_iff_right (by norm_num)] at hk
  obtain ⟨m, rfl⟩ := Nat.exists_eq_add_of_le' hk.le
  rw [iterate_add_apply] at h
  have hburst : F.shift^[k] (2^k*x) = x := iterate_two_pow_mul F.poly k x
  rw [hburst] at h
  exact hne (F.iterate_eq_zero m hx h)

/-- No power of the shift before the period gives one back. -/
theorem iterate_one_ne {m n : ℕ} (hn : n+w ≤ minimalPeriod F.shift 1) (hm : 0 < m)
    (hlt : m < n+w) : F.shift^[m] 1 ≠ 1 := fun h =>
  not_isPeriodicPt_of_pos_of_lt_minimalPeriod hm.ne' (hlt.trans_le hn) h

/-- Two ones in the message leave a remainder. -/
theorem iterate_ne_zero_of_two {n x : ℕ} (hn : n+w ≤ minimalPeriod F.shift 1) (hx : x < 2^n)
    (hw : weight x = 2) : F.shift^[n] x ≠ 0 := by
  intro hr
  obtain ⟨j, k, hjk, hsum⟩ := eq_two_pow_add_of_weight hw
  obtain ⟨d, rfl⟩ := Nat.exists_eq_add_of_lt hjk
  have hle : 2^(j+d+1) ≤ x := Nat.le.intro ((Nat.add_comm _ _).trans hsum.symm)
  have hk : j+d+1 < n := (Nat.pow_lt_pow_iff_right (by norm_num)).mp (hle.trans_lt hx)
  -- the remainder is that of `1 + 2^(d+1)`, shifted on
  have hfactor : x = 2^j*(1 ^^^ 2^(d+1)) := by
    have hxor := add_two_pow_mul_eq_xor (k := d+1) (b := 1) (Nat.one_lt_two_pow (by omega)) 1
    rw [mul_one] at hxor
    rw [hsum, ← hxor]
    ring
  have hshifted : F.shift^[d+1+j] x = F.shift^[d+1] 1 ^^^ 1 := by
    have hsplit : F.shift^[j] (2^j*(1 ^^^ 2^(d+1))) = 1 ^^^ 2^(d+1) :=
      iterate_two_pow_mul F.poly j _
    have hxor : F.shift^[d+1] (1 ^^^ 2^(d+1)) = F.shift^[d+1] 1 ^^^ F.shift^[d+1] (2^(d+1)) :=
      iterate_xor F.poly (d+1) 1 (2^(d+1))
    have hone : F.shift^[d+1] (2^(d+1)) = 1 := iterate_two_pow F.poly (d+1)
    rw [hfactor, iterate_add_apply, hsplit, hxor, hone]
  obtain ⟨m, rfl⟩ : ∃ m, n = m+(d+1+j) := ⟨n-(d+1+j), by omega⟩
  rw [iterate_add_apply, hshifted] at hr
  have hone : 1 < 2^w := Nat.one_lt_two_pow F.width_pos.ne'
  have hzero := F.iterate_eq_zero m (Nat.xor_lt_two_pow (F.iterate_lt (d+1) hone) hone) hr
  exact F.iterate_one_ne hn (by omega) (by omega) (Nat.xor_eq_zero_iff.mp hzero)

/-- A single one in the message leaves more than a single one. -/
theorem weight_iterate_ne_one_of_one {n x : ℕ} (hn : n+w ≤ minimalPeriod F.shift 1)
    (hx : x < 2^n) (hw : weight x = 1) : weight (F.shift^[n] x) ≠ 1 := by
  intro hr
  obtain ⟨k, rfl⟩ := eq_two_pow_of_weight hw
  obtain ⟨i, hi⟩ := eq_two_pow_of_weight hr
  have hk : k < n := (Nat.pow_lt_pow_iff_right (by norm_num)).mp hx
  obtain ⟨m, rfl⟩ : ∃ m, n = m+1+k := ⟨n-k-1, by omega⟩
  have hshift (k : ℕ) : F.shift^[k] (2^k) = 1 := iterate_two_pow F.poly k
  -- the one left in the register takes `i` more shifts back to where it started
  have hone : 1 < 2^w := Nat.one_lt_two_pow F.width_pos.ne'
  rw [iterate_add_apply, hshift] at hi
  have hlow : i < w := by
    have hlt := F.iterate_lt (m+1) hone
    rw [hi] at hlt
    exact (Nat.pow_lt_pow_iff_right (by norm_num)).mp hlt
  apply F.iterate_one_ne hn (m := i+(m+1)) (by omega) (by omega)
  rw [iterate_add_apply, hi, hshift]

section
variable (hodd : Odd (weight F.poly))
include hodd

theorem weight_shift (x : ℕ) : weight (F.shift x) % 2 = weight x % 2 := by
  have hp := Nat.odd_iff.mp hodd
  rw [← Nat.bit_bodd_div2 x, shift, step_bit, weight_bit]
  cases x.bodd with
  | false => simp
  | true =>
    rw [if_pos rfl, weight_xor, Bool.toNat_true]
    omega

/-- The register keeps the parity of what it takes in. -/
theorem weight_iterate (n x : ℕ) : weight (F.shift^[n] x) % 2 = weight x % 2 := by
  induction n with
  | zero => rfl
  | succ n ih => rw [iterate_succ_apply', F.weight_shift hodd, ih]

/-- Up to the period of the shift, a message with its remainder has at least four ones. -/
theorem four_le_weight {n x : ℕ} (hn : n+w ≤ minimalPeriod F.shift 1) (hx : x < 2^n)
    (hne : x ≠ 0) : 4 ≤ weight x + weight (F.shift^[n] x) := by
  have hpos : weight x ≠ 0 := fun h => hne (weight_eq_zero_iff.mp h)
  have heven := F.weight_iterate hodd n x
  by_contra hlt
  -- the number of ones is even, so two in all: both in the message, or one in each part
  have hcases : (weight x = 2 ∧ weight (F.shift^[n] x) = 0) ∨
      (weight x = 1 ∧ weight (F.shift^[n] x) = 1) := by omega
  rcases hcases with ⟨hw, hr⟩ | ⟨hw, hr⟩
  · exact F.iterate_ne_zero_of_two hn hx hw (weight_eq_zero_iff.mp hr)
  · exact F.weight_iterate_ne_one_of_one hn hx hw hr

end

/-- A shift repeated `n` times, by what it makes of each single bit. -/
def columns (n : ℕ) : List ℕ := (List.range w).map (fun i => F.shift^[n] (2^i))

end Feedback

/-- The exclusive or of the columns that stand under the ones of `x`. -/
def combine : List ℕ → ℕ → ℕ
  | [], _ => 0
  | c :: cols, x => (if x%2 = 1 then c else 0) ^^^ combine cols (x/2)

/-- An additive map is given by its columns. -/
theorem combine_columns {f : ℕ → ℕ} (hf : ∀ x y, f (x ^^^ y) = f x ^^^ f y) (h0 : f 0 = 0)
    (w : ℕ) {x : ℕ} (h : x < 2^w) :
    combine ((List.range w).map (fun i => f (2^i))) x = f x := by
  induction w generalizing f x with
  | zero =>
    have hx : x = 0 := by simpa using h
    rw [hx, h0]
    rfl
  | succ w ih =>
    -- the columns above the first are those of `f` at even numbers
    have hdouble (y z : ℕ) : f (2*(y ^^^ z)) = f (2*y) ^^^ f (2*z) := by
      have hx := Nat.xor_bit false y false z
      simp only [Nat.bit_false_apply, bne_self_eq_false] at hx
      rw [← hf, hx]
    have hhalf : x/2 < 2^w := by rw [pow_succ] at h; omega
    have htail := ih (f := fun y => f (2*y)) hdouble h0 hhalf
    have hsplit : f x = (if x%2 = 1 then f 1 else 0) ^^^ f (2*(x/2)) := by
      have hx := add_two_pow_mul_eq_xor (k := 1) (Nat.mod_lt x (by norm_num)) (x/2)
      rw [pow_one, Nat.mod_add_div] at hx
      conv_lhs => rw [hx, hf]
      rcases Nat.mod_two_eq_zero_or_one x with h | h <;> rw [h]
      · rw [h0]; rfl
      · rfl
    rw [List.range_succ_eq_map, List.map_cons, List.map_map, combine, hsplit, ← htail]
    simp only [Function.comp_def, Nat.succ_eq_add_one, pow_succ', pow_zero]

theorem Feedback.iterate_mul_eq_combine {w : ℕ} (F : Feedback w) (n k : ℕ) {x : ℕ}
    (h : x < 2^w) : F.shift^[n*k] x = (combine (F.columns n))^[k] x := by
  have hcolumns {y : ℕ} (hy : y < 2^w) : combine (F.columns n) y = F.shift^[n] y :=
    combine_columns (iterate_xor F.poly n) (iterate_zero_right F.poly n) w hy
  induction k with
  | zero => rfl
  | succ k ih =>
    rw [Nat.mul_succ, Nat.add_comm, iterate_add_apply, iterate_succ_apply', ← ih,
      hcolumns (F.iterate_lt _ h)]

/-- A period that no quotient by a prime divides into is the least one. -/
theorem minimalPeriod_eq_of_div_prime {α : Type} {f : α → α} {x : α} {n : ℕ}
    (hx : IsPeriodicPt f n x) (hd : ∀ p, p.Prime → p ∣ n → ¬IsPeriodicPt f (n/p) x) :
    minimalPeriod f x = n := by
  obtain ⟨k, hk⟩ := hx.minimalPeriod_dvd
  by_contra hne
  have hk1 : k ≠ 1 := by
    rintro rfl
    exact hne (by rw [hk, mul_one])
  obtain ⟨p, hp, c, rfl⟩ := Nat.exists_prime_and_dvd hk1
  apply hd p hp ⟨minimalPeriod f x*c, by rw [hk]; ring⟩
  rw [isPeriodicPt_iff_minimalPeriod_dvd, hk]
  exact ⟨c, Nat.div_eq_of_eq_mul_left hp.pos (by ring)⟩

end ShiftRegister
