import Gear360.Json

namespace Gear360

theorem toNat_ofNat {b : ℕ} (h : b < 256) : (UInt8.ofNat b).toNat = b := by
  rw [UInt8.toNat_ofNat', Nat.mod_eq_of_lt h]

theorem isContinuation_ofNat {lo hi : UInt8} {b : ℕ} (h : b < 256) (hlo : lo.toNat ≤ b)
    (hhi : b ≤ hi.toNat) : isContinuation lo hi (some (UInt8.ofNat b)) = true := by
  simp only [isContinuation, UInt8.le_iff_toNat_le, toNat_ofNat h, hlo, hhi, decide_true,
    Bool.and_self]

/-- The six low bits of a continuation byte. -/
theorem low_ofNat {b : ℕ} (h : b < 64) : (UInt8.ofNat (b+0x80)).toNat &&& 0x3F = b := by
  rw [toNat_ofNat (by omega), Nat.and_two_pow_sub_one_eq_mod _ 6]
  omega

/-- A byte that may follow any first byte but four. -/
theorem continuation_ofNat {b : ℕ} (h : b < 64) :
    isContinuation 0x80 0xBF (some (UInt8.ofNat (b+0x80))) = true :=
  isContinuation_ofNat (by omega) (by simp) (by simp; omega)

theorem decodeNext_ascii {v : ℕ} (h : v < 0x80) (rest : Bytes) :
    decodeNext (UInt8.ofNat v) rest = (v, 0) := by
  have hv := toNat_ofNat (show v < 256 by omega)
  have hlt : UInt8.ofNat v < 0x80 := UInt8.lt_iff_toNat_lt.mpr (by rw [hv]; exact h)
  rw [decodeNext, if_pos hlt, hv]

theorem decodeNext_two {a b : ℕ} (ha : 2 ≤ a) (ha' : a < 32) (hb : b < 64) (rest : Bytes) :
    decodeNext (UInt8.ofNat (a+0xC0)) (UInt8.ofNat (b+0x80) :: rest) = (a*64+b, 1) := by
  have hfirst := toNat_ofNat (show a+0xC0 < 256 by omega)
  have hbounds : secondBounds (UInt8.ofNat (a+0xC0)) = (0x80, 0xBF) := by
    simp only [secondBounds, ← UInt8.toNat_inj, hfirst]
    rw [if_neg (by simp; omega), if_neg (by simp; omega), if_neg (by simp; omega),
      if_neg (by simp; omega)]
  have hhead : ((a+0xC0) &&& 0x1F) = a := by
    rw [Nat.and_two_pow_sub_one_eq_mod _ 5]
    omega
  unfold decodeNext
  simp only [UInt8.lt_iff_toNat_lt, UInt8.le_iff_toNat_le, hfirst, hbounds, List.getElem?_cons_zero,
    continuation_ofNat hb, hhead, List.getD_cons_zero, low_ofNat hb]
  rw [if_neg (by simp), if_pos (by simp; omega), if_pos trivial,
    ← Nat.shiftLeft_add_eq_or_of_lt hb, Nat.shiftLeft_eq]

/-- A continuation byte brings six more bits. -/
theorem shift_six {a b : ℕ} (hb : b < 64) (i : ℕ) :
    a <<< (i+6) ||| b <<< i = (a*64+b) <<< i := by
  rw [Nat.add_comm i 6, Nat.shiftLeft_add, ← Nat.shiftLeft_or_distrib,
    ← Nat.shiftLeft_add_eq_or_of_lt hb, Nat.shiftLeft_eq a 6]

/-- The first continuation byte is bounded further where the code point would be too small or a
surrogate. -/
theorem decodeNext_three {a b c : ℕ} (ha : a < 16) (hb : b < 64) (hc : c < 64)
    (hsmall : a = 0 → 32 ≤ b) (hsurrogate : a = 13 → b < 32) (rest : Bytes) :
    decodeNext (UInt8.ofNat (a+0xE0)) (UInt8.ofNat (b+0x80) :: UInt8.ofNat (c+0x80) :: rest) =
      (a*4096+b*64+c, 2) := by
  have hfirst := toNat_ofNat (show a+0xE0 < 256 by omega)
  -- of the second byte the bounds depend on the first
  have hsecond : isContinuation (secondBounds (UInt8.ofNat (a+0xE0))).1
      (secondBounds (UInt8.ofNat (a+0xE0))).2 (some (UInt8.ofNat (b+0x80))) = true := by
    simp only [secondBounds, ← UInt8.toNat_inj, hfirst]
    split_ifs with h₀ h₁₃ h h
    · exact isContinuation_ofNat (by omega) (by simp at h₀ ⊢; omega) (by simp; omega)
    · exact isContinuation_ofNat (by omega) (by simp) (by simp at h₁₃ ⊢; omega)
    · simp at h; omega
    · simp at h; omega
    · exact continuation_ofNat hb
  have hhead : ((a+0xE0) &&& 0x0F) = a := by
    rw [Nat.and_two_pow_sub_one_eq_mod _ 4]
    omega
  have hvalue : a <<< 12 ||| b <<< 6 ||| c = a*4096+b*64+c := by
    rw [shift_six hb 6, ← Nat.shiftLeft_add_eq_or_of_lt hc, Nat.shiftLeft_eq]
    omega
  unfold decodeNext
  simp only [UInt8.lt_iff_toNat_lt, UInt8.le_iff_toNat_le, hfirst, hsecond,
    List.getElem?_cons_zero, List.getElem?_cons_succ, continuation_ofNat hc, hhead,
    List.getD_cons_zero, List.getD_cons_succ, low_ofNat hb, low_ofNat hc, hvalue]
  rw [if_neg (by simp), if_neg (by simp), if_pos (by simp; omega)]
  rfl

theorem decodeNext_four {a b c d : ℕ} (ha : a < 5) (hb : b < 64) (hc : c < 64) (hd : d < 64)
    (hsmall : a = 0 → 16 ≤ b) (hlarge : a = 4 → b < 16) (rest : Bytes) :
    decodeNext (UInt8.ofNat (a+0xF0))
      (UInt8.ofNat (b+0x80) :: UInt8.ofNat (c+0x80) :: UInt8.ofNat (d+0x80) :: rest) =
      (a*262144+b*4096+c*64+d, 3) := by
  have hfirst := toNat_ofNat (show a+0xF0 < 256 by omega)
  have hsecond : isContinuation (secondBounds (UInt8.ofNat (a+0xF0))).1
      (secondBounds (UInt8.ofNat (a+0xF0))).2 (some (UInt8.ofNat (b+0x80))) = true := by
    simp only [secondBounds, ← UInt8.toNat_inj, hfirst]
    split_ifs with h h h₀ h₄
    · simp at h
    · simp at h
    · exact isContinuation_ofNat (by omega) (by simp at h₀ ⊢; omega) (by simp; omega)
    · exact isContinuation_ofNat (by omega) (by simp) (by simp at h₄ ⊢; omega)
    · exact continuation_ofNat hb
  have hhead : ((a+0xF0) &&& 0x07) = a := by
    rw [Nat.and_two_pow_sub_one_eq_mod _ 3]
    omega
  have hvalue : a <<< 18 ||| b <<< 12 ||| c <<< 6 ||| d = a*262144+b*4096+c*64+d := by
    rw [shift_six hb 12, shift_six hc 6, ← Nat.shiftLeft_add_eq_or_of_lt hd, Nat.shiftLeft_eq]
    omega
  unfold decodeNext
  simp only [UInt8.lt_iff_toNat_lt, UInt8.le_iff_toNat_le, hfirst, hsecond,
    List.getElem?_cons_zero, List.getElem?_cons_succ, continuation_ofNat hc, continuation_ofNat hd,
    hhead, List.getD_cons_zero, List.getD_cons_succ, low_ofNat hb, low_ofNat hc, low_ofNat hd,
    hvalue]
  rw [if_neg (by simp), if_neg (by simp), if_neg (by simp), if_pos (by simp; omega)]
  rfl

/-- One character is decoded from its own bytes. -/
theorem decodeAfter_char (c : Char) (rest : Bytes) :
    decodeAfter 0 (String.utf8EncodeChar c ++ rest) = c.toNat :: decodeAfter 0 rest := by
  have hscalar : c.toNat < 0xD800 ∨ 0xDFFF < c.toNat ∧ c.toNat < 0x110000 := c.valid
  have hv : c.val.toNat = c.toNat := rfl
  generalize c.toNat = v at hscalar hv ⊢
  unfold String.utf8EncodeChar
  simp only [hv]
  -- one, two, three or four bytes; the digits of the code point come back in each case
  split_ifs with h₁ h₂ h₃
  · rw [List.singleton_append, decodeAfter, decodeNext_ascii (by omega)]
  · rw [List.cons_append, List.singleton_append, decodeAfter,
      decodeNext_two (by omega) (by omega) (by omega)]
    exact congrArg (· :: decodeAfter 0 rest) (by omega)
  · rw [List.cons_append, List.cons_append, List.singleton_append, decodeAfter,
      decodeNext_three (by omega) (by omega) (by omega) (by omega) (by omega)]
    exact congrArg (· :: decodeAfter 0 rest) (by omega)
  · rw [List.cons_append, List.cons_append, List.cons_append, List.singleton_append, decodeAfter,
      decodeNext_four (by omega) (by omega) (by omega) (by omega) (by omega) (by omega)]
    exact congrArg (· :: decodeAfter 0 rest) (by omega)

theorem toList_loop (data : ByteArray) (i : ℕ) (front : Bytes) :
    ByteArray.toList.loop data i front = front.reverse ++ data.data.toList.drop i := by
  fun_induction ByteArray.toList.loop data i front with
  | case1 i front h ih =>
    have hlt : i < data.data.toList.length := h
    have hget : data.get! i = data.data.toList[i] := getElem!_pos data.data i h
    rw [ih, List.reverse_cons, List.append_assoc, hget, List.drop_eq_getElem_cons hlt]
    rfl
  | case2 i front h =>
    have hle : data.data.toList.length ≤ i := not_lt.mp h
    rw [List.drop_of_length_le hle, List.append_nil]

/-- The bytes of a text are those of its characters. -/
theorem utf8_eq (text : String) : utf8 text = text.toList.flatMap String.utf8EncodeChar := by
  have hbytes : text.toUTF8 = (text.toList.flatMap String.utf8EncodeChar).toByteArray :=
    String.utf8Encode_toList.symm
  rw [utf8, hbytes, ByteArray.toList, toList_loop, List.toList_data_toByteArray]
  rfl

/-- `text.encode("utf-8").decode("utf-8", errors="replace") == text` -/
theorem decodeReplace_utf8 (text : String) : decodeReplace (utf8 text) = pyStr text := by
  rw [utf8_eq, decodeReplace, pyStr]
  induction text.toList with
  | nil => rfl
  | cons c chars ih => rw [List.flatMap_cons, decodeAfter_char, ih, List.map_cons]

end Gear360
