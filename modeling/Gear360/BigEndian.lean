import Mathlib

namespace BigEndian

/-- The `k` low base-256 digits of `v`, highest first. -/
def encode : ℕ → ℕ → List UInt8
  | 0, _ => []
  | k+1, v => encode k (v/256) ++ [UInt8.ofNat (v%256)]

def decode (bs : List UInt8) : ℕ := bs.foldl (fun acc b => acc*256 + b.toNat) 0

@[simp] theorem encode_length (k v : ℕ) : (encode k v).length = k := by
  induction k generalizing v with
  | zero => rfl
  | succ k ih => simp only [encode, List.length_append, ih, List.length_singleton]

@[simp] theorem decode_nil : decode [] = 0 := rfl

theorem decode_concat (bs : List UInt8) (b : UInt8) :
    decode (bs ++ [b]) = decode bs*256 + b.toNat := by
  simp only [decode, List.foldl_append, List.foldl_cons, List.foldl_nil]

theorem decode_encode {k v : ℕ} (h : v < 256^k) : decode (encode k v) = v := by
  induction k generalizing v with
  | zero => simp only [pow_zero] at h; simp only [encode, decode_nil]; omega
  | succ k ih =>
    have hq : v/256 < 256^k := by
      apply Nat.div_lt_of_lt_mul
      rwa [pow_succ, mul_comm] at h
    rw [encode, decode_concat, ih hq, UInt8.toNat_ofNat',
      Nat.mod_eq_of_lt (Nat.mod_lt _ (by norm_num))]
    omega

theorem decode_lt (bs : List UInt8) : decode bs < 256^bs.length := by
  induction bs using List.reverseRecOn with
  | nil => simp
  | append_singleton bs b ih =>
    have hb : b.toNat < 256 := b.toNat_lt
    rw [decode_concat, List.length_append, List.length_singleton, pow_succ]
    omega

theorem encode_decode (bs : List UInt8) : encode bs.length (decode bs) = bs := by
  induction bs using List.reverseRecOn with
  | nil => rfl
  | append_singleton bs b ih =>
    have hb : b.toNat < 256 := b.toNat_lt
    have hq : (decode bs*256 + b.toNat)/256 = decode bs := by omega
    have hr : (decode bs*256 + b.toNat)%256 = b.toNat := by omega
    rw [List.length_append, List.length_singleton, encode, decode_concat, hq, hr, ih,
      UInt8.ofNat_toNat]

end BigEndian
