import Gear360.ReflectedPolynomial
import Gear360.CrcErrors

namespace Gear360

open Function
open Polynomial
open ShiftRegister

/-- The message as a polynomial, the least significant bit of the first byte as the highest
coefficient. -/
noncomputable def messagePolynomial (data : Bytes) : (ZMod 2)[X] :=
  ∑ p ∈ Finset.range (8*data.length), if bitAt data p then X^(8*data.length-1-p) else 0

theorem messagePolynomial_eq (data : Bytes) :
    messagePolynomial data = reflected (8*data.length) (bitNumber data) := by
  have hplace (k : ℕ) (hk : k < 8*data.length) :
      8*data.length-1-(8*data.length-1-k) = k := by omega
  calc messagePolynomial data
    _ = ∑ k ∈ Finset.range (8*data.length), if bitAt data (8*data.length-1-k) then
        X^(8*data.length-1-(8*data.length-1-k)) else 0 := (Finset.sum_range_reflect _ _).symm
    _ = reflected (8*data.length) (bitNumber data) := by
      apply Finset.sum_congr rfl
      intro k hk
      rw [hplace k (Finset.mem_range.mp hk), testBit_bitNumber]

/-- 0xA001 is the polynomial of CRC-16/ARC without its highest term, read backwards. -/
theorem crcFeedback_generator : crcFeedback.generator = X^16+X^15+X^2+1 := by
  have hlow : reflected 16 0xA001 = 1+X^2+X^15 := by
    simp [reflected, Finset.sum_range_succ, Nat.testBit_eq_decide_div_mod_eq]
  rw [Feedback.generator, crcFeedback, hlow]
  ring

theorem bitNumber_zipWith_xor {a b : Bytes} (h : b.length = a.length) :
    bitNumber (List.zipWith (· ^^^ ·) a b) = bitNumber a ^^^ bitNumber b := by
  induction a generalizing b with
  | nil => rw [List.length_eq_zero_iff.mp h]; rfl
  | cons x a ih =>
    cases b with
    | nil => cases h
    | cons y b =>
      rw [List.zipWith_cons_cons, bitNumber_cons, bitNumber_cons, bitNumber_cons,
        ih (Nat.succ.inj h), add_two_pow_mul_xor x.toNat_lt y.toNat_lt, UInt8.toNat_xor]

/-- The register stays within its 16 bits while the bits of a byte are shifted out. -/
theorem crc16Bit_iterate_lt {crc : ℕ} (byte : UInt8) (k : ℕ) (h : crc < 2^16) :
    crc16Bit^[k] (crc ^^^ byte.toNat) < 2^16 :=
  crcFeedback.iterate_lt k (Nat.xor_lt_two_pow h (byte.toNat_lt.trans (by norm_num)))

/-- The register at the end holds the remainder, its highest coefficient in the lowest bit. -/
theorem reflected_crc16 (data : Bytes) : reflected 16 (crc16 data) =
    (messagePolynomial data * X^16) %ₘ (X^16+X^15+X^2+1) := by
  calc reflected 16 (crc16 data)
    _ = reflected 16 (crcFeedback.shift^[8*data.length] (bitNumber data)) := by
      rw [crc16_eq_iterate]
    _ = (reflected (8*data.length) (bitNumber data) * X^16) %ₘ crcFeedback.generator :=
      crcFeedback.reflected_iterate (bitNumber_lt data)
    _ = (messagePolynomial data * X^16) %ₘ (X^16+X^15+X^2+1) := by
      rw [messagePolynomial_eq, crcFeedback_generator]

/-- `crc16` is the reversed remainder of the message times `x^16`; its register keeps to 16 bits
before, between and after the bits of each byte; and it is additive on messages of one length. -/
theorem crc16_arc (data : Bytes) :
    crc16 data = reversal 16 ((messagePolynomial data * X^16) %ₘ (X^16+X^15+X^2+1)) ∧
    crc16 data < 2^16 ∧
    (∀ done byte rest, data = done ++ byte :: rest →
      ∀ k, crc16Bit^[k] (crc16 done ^^^ byte.toNat) < 2^16) ∧
    ∀ other : Bytes, other.length = data.length →
      crc16 (List.zipWith (· ^^^ ·) data other) = crc16 data ^^^ crc16 other := by
  refine ⟨?_, crc16_lt data, ?_, ?_⟩
  · rw [← reflected_crc16, reversal_reflected (crc16_lt data)]
  · intro done byte rest _ k
    exact crc16Bit_iterate_lt byte k (crc16_lt done)
  · intro other hlen
    have hzip : (List.zipWith (· ^^^ ·) data other).length = data.length := by
      rw [List.length_zipWith, hlen, min_self]
    rw [crc16_eq_iterate, crc16_eq_iterate, crc16_eq_iterate, hzip, hlen,
      bitNumber_zipWith_xor hlen]
    exact iterate_xor crcFeedback.poly _ _ _

/-- The register while the second of two bytes goes in, and the sum of two messages. -/
theorem crc16_arc_sample :
    crc16Bit^[3] (crc16 [0x31] ^^^ (0x32 : UInt8).toNat) < 2^16 ∧
      crc16 [0x31 ^^^ 0xFF, 0x32 ^^^ 0x80] = crc16 [0x31, 0x32] ^^^ crc16 [0xFF, 0x80] := by
  obtain ⟨-, -, hregister, hxor⟩ := crc16_arc [0x31, 0x32]
  exact ⟨hregister [0x31] 0x32 [] rfl 3, hxor [0xFF, 0x80] rfl⟩

end Gear360
