import Gear360.ShiftRegister
import Gear360.SlpStream

namespace Gear360

open Function
open Interaction
open ChunkedSource
open ShiftRegister

/-- The bit at place `p`, in the order `crc16` takes them in: the least significant bit of each
byte first. -/
def bitAt (data : Bytes) (p : ℕ) : Bool := (data.getD (p/8) 0).toNat.testBit (p%8)

/-- In how many bits two byte strings of one length differ. -/
def bitDistance (a b : Bytes) : ℕ :=
  ((Finset.range (8*a.length)).filter (fun p => bitAt a p ≠ bitAt b p)).card

/-- The number whose binary digits, lowest first, are the bits of `data`. -/
def bitNumber (data : Bytes) : ℕ := Nat.ofDigits (2^8) (data.map UInt8.toNat)

@[simp] theorem bitNumber_nil : bitNumber [] = 0 := rfl

theorem bitNumber_cons (b : UInt8) (data : Bytes) :
    bitNumber (b :: data) = b.toNat + 2^8*bitNumber data := Nat.ofDigits_cons

theorem bitNumber_append (a b : Bytes) :
    bitNumber (a ++ b) = bitNumber a + 2^(8*a.length)*bitNumber b := by
  rw [bitNumber, List.map_append, Nat.ofDigits_append, List.length_map, ← pow_mul]
  rfl

theorem bitNumber_lt (data : Bytes) : bitNumber data < 2^(8*data.length) := by
  have hdigit : ∀ d ∈ data.map UInt8.toNat, d < 2^8 := by
    intro d hd
    obtain ⟨b, -, rfl⟩ := List.mem_map.mp hd
    exact b.toNat_lt
  have hlt := Nat.ofDigits_lt_base_pow_length (by norm_num) hdigit
  rwa [List.length_map, ← pow_mul] at hlt

theorem testBit_bitNumber (data : Bytes) (p : ℕ) : (bitNumber data).testBit p = bitAt data p := by
  induction data generalizing p with
  | nil => simp [bitAt]
  | cons b data ih =>
    rw [bitNumber_cons, Nat.add_comm, Nat.testBit_two_pow_mul_add _ b.toNat_lt]
    rcases lt_or_ge p 8 with hp | hp
    · rw [if_pos hp, bitAt, Nat.div_eq_of_lt hp, Nat.mod_eq_of_lt hp]
      rfl
    · obtain ⟨q, rfl⟩ := Nat.exists_eq_add_of_le hp
      have hdiv : (8+q)/8 = q/8+1 := by omega
      have hmod : (8+q)%8 = q%8 := by omega
      rw [if_neg (by omega), Nat.add_sub_cancel_left, ih, bitAt, bitAt, hdiv, hmod]
      rfl

theorem bitAt_of_length_le {data : Bytes} {p : ℕ} (h : 8*data.length ≤ p) :
    bitAt data p = false := by
  rw [← testBit_bitNumber]
  exact Nat.testBit_lt_two_pow
    ((bitNumber_lt data).trans_le (Nat.pow_le_pow_right (by norm_num) h))

theorem bitNumber_injective {a b : Bytes} (hlen : a.length = b.length)
    (h : bitNumber a = bitNumber b) : a = b := by
  induction a generalizing b with
  | nil => exact (List.length_eq_zero_iff.mp hlen.symm).symm
  | cons x a ih =>
    cases b with
    | nil => cases hlen
    | cons y b =>
      have hx := x.toNat_lt
      have hy := y.toNat_lt
      rw [bitNumber_cons, bitNumber_cons] at h
      have hhead : x.toNat = y.toNat := by omega
      rw [UInt8.toNat_inj.mp hhead, ih (Nat.succ.inj hlen) (by omega)]

/-- Where two byte strings of one length differ, as a number. -/
def difference (a b : Bytes) : ℕ := bitNumber a ^^^ bitNumber b

theorem difference_lt {a b : Bytes} (hlen : b.length = a.length) :
    difference a b < 2^(8*a.length) :=
  Nat.xor_lt_two_pow (bitNumber_lt a) (hlen ▸ bitNumber_lt b)

theorem difference_eq_zero_iff {a b : Bytes} (hlen : b.length = a.length) :
    difference a b = 0 ↔ b = a := by
  rw [difference, Nat.xor_eq_zero_iff]
  constructor
  · intro h
    exact (bitNumber_injective hlen.symm h).symm
  · rintro rfl
    rfl

theorem testBit_difference (a b : Bytes) (p : ℕ) :
    (difference a b).testBit p = true ↔ bitAt a p ≠ bitAt b p := by
  rw [difference, Nat.testBit_xor, testBit_bitNumber, testBit_bitNumber, bne_iff_ne]

theorem bitDistance_eq_weight {a b : Bytes} (hlen : b.length = a.length) :
    bitDistance a b = weight (difference a b) := by
  rw [weight_eq_card (difference_lt hlen), bitDistance]
  simp only [testBit_difference]

theorem bitDistance_append {a b : Bytes} (hlen : b.length = a.length) {c d : Bytes}
    (hlen' : d.length = c.length) :
    bitDistance (a ++ c) (b ++ d) = bitDistance a b + bitDistance c d := by
  have hsplit : difference (a ++ c) (b ++ d) =
      difference a b + 2^(8*a.length)*difference c d := by
    rw [difference, bitNumber_append, bitNumber_append, hlen]
    exact add_two_pow_mul_xor (bitNumber_lt a) (hlen ▸ bitNumber_lt b) _ _
  have happ : (b ++ d).length = (a ++ c).length := by simp only [List.length_append, hlen, hlen']
  rw [bitDistance_eq_weight happ, bitDistance_eq_weight hlen, bitDistance_eq_weight hlen', hsplit,
    weight_add_two_pow_mul _ _ (difference_lt hlen)]

theorem bitNumber_encode {x : ℕ} (h : x < 2^16) :
    bitNumber (BigEndian.encode 2 x) = x/2^8 + 2^8*(x%2^8) := by
  have hhigh : x/256%256 = x/256 := Nat.mod_eq_of_lt (by omega)
  simp [BigEndian.encode, bitNumber_cons, hhigh]

/-- The byte order of a 16-bit field only moves its bits. -/
theorem bitDistance_encode {x y : ℕ} (hx : x < 2^16) (hy : y < 2^16) :
    bitDistance (BigEndian.encode 2 x) (BigEndian.encode 2 y) = weight (x ^^^ y) := by
  have hlow (z : ℕ) : z%2^8 < 2^8 := Nat.mod_lt _ (by norm_num)
  have hhigh {z : ℕ} (hz : z < 2^16) : z/2^8 < 2^8 := by omega
  have hsplit : x ^^^ y = (x%2^8 ^^^ y%2^8) + 2^8*(x/2^8 ^^^ y/2^8) := by
    rw [← add_two_pow_mul_xor (hlow x) (hlow y), Nat.mod_add_div, Nat.mod_add_div]
  have hfields : difference (BigEndian.encode 2 x) (BigEndian.encode 2 y) =
      (x/2^8 ^^^ y/2^8) + 2^8*(x%2^8 ^^^ y%2^8) := by
    rw [difference, bitNumber_encode hx, bitNumber_encode hy,
      add_two_pow_mul_xor (hhigh hx) (hhigh hy)]
  have hlen : (BigEndian.encode 2 y).length = (BigEndian.encode 2 x).length := rfl
  rw [bitDistance_eq_weight hlen, hfields, hsplit,
    weight_add_two_pow_mul _ _ (Nat.xor_lt_two_pow (hhigh hx) (hhigh hy)),
    weight_add_two_pow_mul _ _ (Nat.xor_lt_two_pow (hlow x) (hlow y)), Nat.add_comm]

/-- The register of `crc16`. -/
def crcFeedback : Feedback 16 where
  poly := 0xA001
  poly_lt := by norm_num
  poly_top := by decide

theorem crcFeedback_odd : Odd (weight crcFeedback.poly) := by
  rw [weight_eq_card crcFeedback.poly_lt]
  decide

/-- The shift takes one through 32767 values. -/
theorem crcFeedback_period : minimalPeriod crcFeedback.shift 1 = 32767 := by
  have hrun (n k : ℕ) : crcFeedback.shift^[n*k] 1 = (combine (crcFeedback.columns n))^[k] 1 :=
    crcFeedback.iterate_mul_eq_combine n k (by norm_num)
  apply minimalPeriod_eq_of_div_prime
  · exact (hrun 151 217).trans (by decide +kernel)
  · intro p hp hdvd h
    have hfactors : p ∣ 7*31*151 := hdvd
    rw [hp.dvd_mul, hp.dvd_mul, Nat.prime_dvd_prime_iff_eq hp (by norm_num),
      Nat.prime_dvd_prime_iff_eq hp (by norm_num),
      Nat.prime_dvd_prime_iff_eq hp (by norm_num)] at hfactors
    rcases hfactors with (rfl | rfl) | rfl
    · exact absurd ((hrun 151 31).symm.trans h) (by decide +kernel)
    · exact absurd ((hrun 151 7).symm.trans h) (by decide +kernel)
    · exact absurd ((hrun 31 7).symm.trans h) (by decide +kernel)

theorem crc16_eq_iterate (data : Bytes) :
    crc16 data = crcFeedback.shift^[8*data.length] (bitNumber data) := by
  have hdigit : ∀ d ∈ data.map UInt8.toNat, d < 2^8 := by
    intro d hd
    obtain ⟨b, -, rfl⟩ := List.mem_map.mp hd
    exact b.toNat_lt
  have habsorb := absorb_eq crcFeedback.poly 8 hdigit 0
  rw [Nat.zero_xor, List.length_map, absorb, List.foldl_map] at habsorb
  exact habsorb

theorem crc16_xor {a b : Bytes} (hlen : b.length = a.length) :
    crc16 a ^^^ crc16 b = crcFeedback.shift^[8*a.length] (difference a b) := by
  rw [crc16_eq_iterate, crc16_eq_iterate, hlen]
  exact (iterate_xor crcFeedback.poly _ _ _).symm

/-- The inner bytes and their CRC, as they go out in CRC mode. -/
def codeword (inner : Bytes) : Bytes := inner ++ BigEndian.encode 2 (crc16 inner)

/-- Bytes whose CRC field is right differ from those sent where the inner bytes do, and in what
is left of that difference in the register. -/
theorem bitDistance_codeword {inner inner' field : Bytes} (hlen : inner'.length = inner.length)
    (hfield : field.length = 2) (hcrc : BigEndian.decode field = crc16 inner') :
    bitDistance (codeword inner) (inner' ++ field) = weight (difference inner inner') +
      weight (crcFeedback.shift^[8*inner.length] (difference inner inner')) := by
  have hencode : field = BigEndian.encode 2 (crc16 inner') := by
    rw [← hcrc, ← hfield, BigEndian.encode_decode]
  rw [codeword, bitDistance_append hlen (by simpa using hfield), bitDistance_eq_weight hlen,
    hencode, bitDistance_encode (crc16_lt _) (crc16_lt _), crc16_xor hlen]

/-- Equal lengths within the period: four bits at least lie between two codewords. -/
theorem four_le_bitDistance {inner inner' field : Bytes} (hsize : 8*inner.length+16 ≤ 32767)
    (hlen : inner'.length = inner.length) (hfield : field.length = 2)
    (hcrc : BigEndian.decode field = crc16 inner') (hne : inner' ≠ inner) :
    4 ≤ bitDistance (codeword inner) (inner' ++ field) := by
  rw [bitDistance_codeword hlen hfield hcrc]
  apply crcFeedback.four_le_weight crcFeedback_odd _ (difference_lt hlen)
  · rw [ne_eq, difference_eq_zero_iff hlen]
    exact hne
  · rwa [crcFeedback_period]

theorem even_bitDistance {inner inner' field : Bytes} (hlen : inner'.length = inner.length)
    (hfield : field.length = 2) (hcrc : BigEndian.decode field = crc16 inner') :
    Even (bitDistance (codeword inner) (inner' ++ field)) := by
  have hparity := crcFeedback.weight_iterate crcFeedback_odd (8*inner.length)
    (difference inner inner')
  rw [bitDistance_codeword hlen hfield hcrc, Nat.even_iff]
  omega

theorem slpWire_codeword {payload wire : Bytes} {sessionId frameType : ℕ}
    (h : SapSession.slpWire true payload sessionId frameType = .ok wire) :
    wire = BigEndian.encode 2 (packedInner payload sessionId frameType).length ++
      (BigEndian.encode 2 (crc16
        (BigEndian.encode 2 (packedInner payload sessionId frameType).length)) ++
        codeword (packedInner payload sessionId frameType)) := by
  obtain ⟨-, hlen, rfl⟩ := slpWire_ok_iff.mp h
  rfl

/-- A payload CRC that does not fit is reported, whatever the length CRC is. -/
theorem readSlpFrame_reports {σ : Type} (src : Source UInt8 Empty σ) (fd timeout : ℕ)
    {f : RawFrame} (hcrc : BigEndian.decode f.innerCrc ≠ crc16 f.inner) {rest : Bytes}
    (ready : List Bool) {s : σ} (hs : src.pending s = f.wire true ++ rest) :
    ∃ t s' line, exec (readHandler src) (SapSession.readSlpFrame ⟨fd, true⟩ timeout)
        (true :: ready, s) = ⟨t, .ok (SapSession.decodeInner f.inner), (ready, s')⟩ ∧
      crcLines "payload" (BigEndian.decode f.innerCrc) (crc16 f.inner) = [line] ∧
      line ∈ reported t := by
  obtain ⟨t, s', he, -, ht⟩ := exec_readSlpFrame_ready ⟨fd, true⟩ timeout
    (Reads.readInner ⟨fd, true⟩ f rest) ready s hs
  have hline : crcLines "payload" (BigEndian.decode f.innerCrc) (crc16 f.inner) = [_] :=
    if_pos hcrc
  refine ⟨t, s', _, he, hline, ?_⟩
  rw [ht, RawFrame.lines, if_pos rfl, hline]
  exact List.mem_append_right _ List.mem_cons_self

/-- Up to 32767 bits, what `send_slp_frame` puts on the wire for two inner byte strings of one
length differs in at least four bits, and `read_slp_frame` finds a payload CRC wrong after any
one, two or three bits of the inner bytes and their CRC field have changed. -/
theorem slp_crc_distance (inner : Bytes) (hsize : 8*inner.length+16 ≤ 32767) :
    (∀ payload sessionId frameType wire,
      SapSession.slpWire true payload sessionId frameType = .ok wire →
      packedInner payload sessionId frameType = inner →
        wire = BigEndian.encode 2 inner.length ++
          (BigEndian.encode 2 (crc16 (BigEndian.encode 2 inner.length)) ++ codeword inner)) ∧
    (∀ inner', inner'.length = inner.length → inner' ≠ inner →
      4 ≤ bitDistance (codeword inner) (codeword inner')) ∧
    ∀ f : RawFrame, f.inner.length = inner.length →
      1 ≤ bitDistance (codeword inner) (f.inner ++ f.innerCrc) →
      bitDistance (codeword inner) (f.inner ++ f.innerCrc) ≤ 3 →
        BigEndian.decode f.innerCrc ≠ crc16 f.inner ∧
        ∀ {σ : Type} (src : Source UInt8 Empty σ) (fd timeout : ℕ) (ready : List Bool) (s : σ)
          (rest : Bytes), src.pending s = f.wire true ++ rest →
          ∃ t s' line, exec (readHandler src) (SapSession.readSlpFrame ⟨fd, true⟩ timeout)
              (true :: ready, s) = ⟨t, .ok (SapSession.decodeInner f.inner), (ready, s')⟩ ∧
            crcLines "payload" (BigEndian.decode f.innerCrc) (crc16 f.inner) = [line] ∧
            line ∈ reported t := by
  refine ⟨?_, ?_, ?_⟩
  · rintro payload sessionId frameType wire hwire rfl
    exact slpWire_codeword hwire
  · intro inner' hlen hne
    exact four_le_bitDistance hsize hlen (BigEndian.encode_length _ _)
      (BigEndian.decode_encode (crc16_lt inner')) hne
  · intro f hlen hpos hthree
    have hcrc : BigEndian.decode f.innerCrc ≠ crc16 f.inner := by
      intro hcrc
      by_cases hsame : f.inner = inner
      · -- then the CRC field is the one sent too, and no bit has changed
        rw [bitDistance_codeword hlen f.innerCrc_length hcrc,
          (difference_eq_zero_iff hlen).mpr hsame] at hpos
        have hzero : crcFeedback.shift^[8*inner.length] 0 = 0 :=
          iterate_zero_right crcFeedback.poly _
        rw [hzero, weight_zero] at hpos
        omega
      -- else the two code words are four bits apart, and no more than three have changed
      · have hfour := four_le_bitDistance hsize hlen f.innerCrc_length hcrc hsame
        omega
    exact ⟨hcrc, fun src fd timeout ready s rest hs =>
      readSlpFrame_reports src fd timeout hcrc ready hs⟩

/-- An empty message received with one bit of its header and one of its CRC field flipped. -/
def flippedFrame : RawFrame := ⟨[0x01, 0x7C], [0xC1, 0xC0], [0xD0, 0x01], by decide, rfl, rfl⟩

theorem slp_crc_distance_flipped :
    4 ≤ bitDistance (codeword [0x01, 0xFC]) (codeword [0x01, 0x7C]) ∧
      BigEndian.decode flippedFrame.innerCrc ≠ crc16 flippedFrame.inner := by
  obtain ⟨-, hdistance, hflip⟩ := slp_crc_distance [0x01, 0xFC] (by decide)
  exact ⟨hdistance [0x01, 0x7C] rfl (by decide),
    (hflip flippedFrame rfl (by decide +kernel) (by decide +kernel)).1⟩

/-- At any length, a burst of up to 16 bits, in the order `crc16` takes them in, changes the
checksum, and after an odd number of flips the stored and the recomputed checksum differ. -/
theorem slp_crc_bursts_and_odd (inner inner' : Bytes) (hlen : inner'.length = inner.length) :
    (inner' ≠ inner → (∃ k, ∀ p, bitAt inner p ≠ bitAt inner' p → k ≤ p ∧ p < k+16) →
      crc16 inner' ≠ crc16 inner) ∧
    ∀ field : Bytes, field.length = 2 → Odd (bitDistance (codeword inner) (inner' ++ field)) →
      BigEndian.decode field ≠ crc16 inner' := by
  constructor
  · rintro hne ⟨k, hburst⟩ hcrc
    have hbits (i : ℕ) (hi : (difference inner inner').testBit i = true) : k ≤ i ∧ i < k+16 :=
      hburst i ((testBit_difference inner inner' i).mp hi)
    -- the difference is a short pattern at some place, which the register does not cancel
    obtain ⟨b, hb, hdiff⟩ := exists_eq_two_pow_mul hbits
    have hlt := difference_lt hlen
    have hpos : b ≠ 0 := by
      rintro rfl
      exact hne ((difference_eq_zero_iff hlen).mp hdiff)
    have hzero := crc16_xor hlen
    rw [hdiff] at hlt hzero
    rw [hcrc, Nat.xor_self] at hzero
    exact crcFeedback.burst_ne_zero hb hpos hlt hzero.symm
  · intro field hfield hodd hcrc
    exact Nat.not_even_iff_odd.mpr hodd (even_bitDistance hlen hfield hcrc)

/-- A burst across two bytes, and three bits of the inner bytes and the CRC field. -/
theorem slp_crc_bursts_and_odd_sample :
    crc16 [0x01, 0xFF, 0x81] ≠ crc16 [0x01, 0xF0, 0x7F] ∧
      BigEndian.decode [0xD0, 0x01] ≠ crc16 [0x03, 0x7C] := by
  constructor
  · apply (slp_crc_bursts_and_odd [0x01, 0xF0, 0x7F] [0x01, 0xFF, 0x81] rfl).1 (by decide)
    have hwindow : ∀ p < 24, bitAt [0x01, 0xF0, 0x7F] p ≠ bitAt [0x01, 0xFF, 0x81] p →
        8 ≤ p ∧ p < 8+16 := by decide
    refine ⟨8, fun p hp => hwindow p (not_le.mp fun hge => hp ?_) hp⟩
    rw [bitAt_of_length_le hge, bitAt_of_length_le hge]
  · exact (slp_crc_bursts_and_odd [0x01, 0xFC] [0x03, 0x7C] rfl).2 _ rfl (by decide +kernel)

end Gear360
