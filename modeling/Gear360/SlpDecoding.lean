import Gear360.SlpStream

namespace Gear360

open Interaction
open ChunkedSource

namespace RawFrame

/-- Both CRC fields carry the checksum of what they stand for. -/
def Intact (f : RawFrame) : Prop :=
  BigEndian.decode f.lengthCrc = crc16 f.header ∧ BigEndian.decode f.innerCrc = crc16 f.inner

instance (f : RawFrame) : Decidable f.Intact := inferInstanceAs (Decidable (_ ∧ _))

theorem header_length (f : RawFrame) : f.header.length = 2 := BigEndian.encode_length _ _

theorem wire_length (f : RawFrame) (useCrc : Bool) :
    (f.wire useCrc).length = f.inner.length + (if useCrc then 6 else 2) := by
  cases useCrc with
  | false => simp [wire, header_length, Nat.add_comm]
  | true =>
    simp only [wire, if_true, List.length_append, header_length, f.lengthCrc_length,
      f.innerCrc_length]
    omega

theorem lines_eq_nil_iff (f : RawFrame) : f.lines true = [] ↔ f.Intact := by
  have hline (label : String) (expected actual : ℕ) :
      crcLines label expected actual = [] ↔ expected = actual := by
    unfold crcLines
    split_ifs with h
    · exact iff_of_false (fun hnil => nomatch hnil) h
    · exact iff_of_true rfl (not_not.mp h)
  simp only [lines, if_true, List.append_eq_nil_iff, hline, Intact]

/-- Two frames with inner bytes of one length are the same on the wire if their inner bytes are
and, in CRC mode, their CRC fields too. -/
theorem wire_inj_iff {f g : RawFrame} (useCrc : Bool) (hlen : f.inner.length = g.inner.length) :
    f.wire useCrc = g.wire useCrc ↔
      f.inner = g.inner ∧
        (useCrc = true → f.lengthCrc = g.lengthCrc ∧ f.innerCrc = g.innerCrc) := by
  have hheader : f.header = g.header := by rw [header, header, hlen]
  cases useCrc with
  | false => simp [wire, hheader]
  | true =>
    have hcrc : f.lengthCrc.length = g.lengthCrc.length :=
      f.lengthCrc_length.trans g.lengthCrc_length.symm
    simp only [wire, hheader, if_true, List.append_cancel_left_eq, forall_const]
    constructor
    · intro h
      obtain ⟨h₁, h⟩ := List.append_inj h hcrc
      obtain ⟨h₂, h₃⟩ := List.append_inj h hlen
      exact ⟨h₂, h₁, h₃⟩
    · intro h
      rw [h.1, h.2.1, h.2.2]

/-- A frame is sealed exactly if it is intact. -/
theorem sealing_crc_iff (f : RawFrame) :
    (sealing f.inner f.inner_length).lengthCrc = f.lengthCrc ∧
      (sealing f.inner f.inner_length).innerCrc = f.innerCrc ↔ f.Intact := by
  have hfield {crc : ℕ} {field : Bytes} (hcrc : crc < 2^16) (hlen : field.length = 2) :
      BigEndian.encode 2 crc = field ↔ BigEndian.decode field = crc := by
    constructor
    · rintro rfl
      exact BigEndian.decode_encode (by simpa using hcrc)
    · rintro rfl
      rw [← hlen]
      exact BigEndian.encode_decode field
  exact and_congr (hfield (crc16_lt _) f.lengthCrc_length) (hfield (crc16_lt _) f.innerCrc_length)

end RawFrame

theorem decodeInner_eq_none_iff (inner : Bytes) :
    SapSession.decodeInner inner = none ↔ inner.length < 2 := by
  match inner with
  | [] | [_] => exact iff_of_true rfl (by simp)
  | p₀ :: p₁ :: payload =>
    exact iff_of_false (fun h => nomatch h) (by simp)

/-- The version bits and the fragmentation bits, which `send_slp_frame` never sets. -/
def ReservedClear (inner : Bytes) : Prop :=
  (inner.getD 0 0).toNat >>> 5 = 0 ∧ (inner.getD 1 0).toNat &&& 0x03 = 0

instance (inner : Bytes) : Decidable (ReservedClear inner) := inferInstanceAs (Decidable (_ ∧ _))

/-- Packing what was decoded gives the inner bytes back if no reserved bit was set. -/
theorem packedInner_decodeInner {inner : Bytes} {frame : SlpFrame}
    (h : SapSession.decodeInner inner = some frame) :
    packedInner frame.payload frame.sessionId frame.frameType = inner ↔ ReservedClear inner := by
  match inner with
  | [] | [_] => cases h
  | p₀ :: p₁ :: payload =>
    rw [decodeInner_eq] at h
    cases h
    -- both sides say something about the two header bytes only
    have hp := p₀.toNat_lt
    have hq := p₁.toNat_lt
    have hversion : p₀.toNat >>> 5 = p₀.toNat/32 := Nat.shiftRight_eq_div_pow _ 5
    have hfragment : p₁.toNat &&& 0x03 = p₁.toNat%4 := Nat.and_two_pow_sub_one_eq_mod _ 2
    have hbyte (n : ℕ) (b : UInt8) (hn : n < 256) : UInt8.ofNat n = b ↔ n = b.toNat := by
      rw [← UInt8.toNat_inj, UInt8.toNat_ofNat_of_lt' (by exact hn)]
    simp only [packedInner, ReservedClear, List.cons.injEq, and_true, List.getD_cons_zero,
      List.getD_cons_succ, hversion, hfragment]
    rw [hbyte _ _ (by omega), hbyte _ _ (by omega)]
    omega

section
variable {σ : Type} {src : Source UInt8 Empty σ}

/-- Decoding is exact up to the reserved bits: the frame is consumed whole whatever its content, an
undersized one is no message, and any other comes back from `send_slp_frame` byte for byte exactly
if its reserved bits are clear and its checksums right. -/
theorem slp_decoding_exact (src : Source UInt8 Empty σ) (useCrc : Bool) (fd timeout : ℕ)
    (f : RawFrame) (rest : Bytes) (ready : List Bool) (s : σ)
    (hs : src.pending s = f.wire useCrc ++ rest) :
    (f.wire useCrc).length = f.inner.length + (if useCrc then 6 else 2) ∧
    ∃ t s' out, exec (readHandler src) (SapSession.readSlpFrame ⟨fd, useCrc⟩ timeout)
        (true :: ready, s) = ⟨t, .ok out, (ready, s')⟩ ∧
      src.pending s' = rest ∧ (out = none ↔ f.inner.length < 2) ∧
      ∀ frame, out = some frame → ∀ fd',
        (exec wireHandler (SapSession.sendSlpFrame ⟨fd', useCrc⟩ frame.payload frame.sessionId
            frame.frameType) []).state = f.wire useCrc ↔
          ReservedClear f.inner ∧ (useCrc = true → f.Intact) := by
  obtain ⟨t, s', he, hs', -⟩ := exec_readSlpFrame_ready ⟨fd, useCrc⟩ timeout
    (Reads.readInner ⟨fd, useCrc⟩ f rest) ready s hs
  refine ⟨f.wire_length useCrc, t, s', SapSession.decodeInner f.inner, he, hs',
    decodeInner_eq_none_iff f.inner, ?_⟩
  intro frame hframe fd'
  have hpacked := packedInner_decodeInner hframe
  have hsize : (packedInner frame.payload frame.sessionId frame.frameType).length =
      f.inner.length ∧ frame.frameType < 16 := by
    match hinner : f.inner with
    | [] | [_] => rw [hinner] at hframe; cases hframe
    | p₀ :: p₁ :: payload =>
      rw [hinner, decodeInner_eq] at hframe
      cases hframe
      exact ⟨rfl, (Nat.mod_lt _ (by norm_num)).trans (by norm_num)⟩
  have hlen := hsize.1.trans_lt f.inner_length
  -- what goes out is sealed, so only the inner bytes and the CRC fields can differ
  have hsent : (exec wireHandler (SapSession.sendSlpFrame ⟨fd', useCrc⟩ frame.payload
      frame.sessionId frame.frameType) []).state =
      (RawFrame.sealing (packedInner frame.payload frame.sessionId frame.frameType) hlen).wire
        useCrc := by
    rw [SapSession.sendSlpFrame, slpWire_packed hsize.2 hlen]
    rfl
  rw [hsent, RawFrame.wire_inj_iff useCrc hsize.1, ← hpacked]
  apply and_congr_right
  intro hsame
  have hinner : packedInner frame.payload frame.sessionId frame.frameType = f.inner := hsame
  rw [← f.sealing_crc_iff]
  simp only [hinner]

/-- A version bit and a fragmentation bit, under a wrong payload CRC: the message behind them is
read, and cannot be sent as it came. -/
def strangeFrame : RawFrame :=
  ⟨[0x3f, 0xfd, 0x41], [0x01, 0x40], [0, 0], by decide, rfl, rfl⟩

theorem slp_decoding_exact_strange :
    ∃ t s', exec (readHandler scripted) (SapSession.readSlpFrame ⟨4, true⟩ 5000)
        ([true], (strangeFrame.wire true ++ [0, 2], [0, 3, 1])) =
        ⟨t, .ok (some ⟨1023, 1, [0x41]⟩), ([], s')⟩ ∧
      scripted.pending s' = [0, 2] ∧
      (exec wireHandler (SapSession.sendSlpFrame ⟨5, true⟩ [0x41] 1023 1) []).state ≠
        strangeFrame.wire true := by
  obtain ⟨-, t, s', out, he, hs', -, hagain⟩ := slp_decoding_exact scripted true 4 5000 strangeFrame
    [0, 2] [] (strangeFrame.wire true ++ [0, 2], [0, 3, 1]) rfl
  have hout : out = some ⟨1023, 1, [0x41]⟩ := by
    have hrun : (exec (readHandler scripted) (SapSession.readSlpFrame ⟨4, true⟩ 5000)
        ([true], (strangeFrame.wire true ++ [0, 2], [0, 3, 1]))).result =
        .ok (some ⟨1023, 1, [0x41]⟩) := by decide +kernel
    rw [he] at hrun
    exact Except.ok.inj hrun
  subst hout
  refine ⟨t, s', he, hs', fun h => ?_⟩
  exact absurd ((hagain _ rfl 5).mp h).1 (by decide)

/-- A frame is delivered whatever its CRC fields are, each field that differs is reported by one
line, and the next frame is left to be read; it is delivered without a complaint exactly if it is
intact. -/
theorem slp_reported_iff (src : Source UInt8 Empty σ) (fd timeout : ℕ) (f : RawFrame)
    (rest : Bytes) (ready : List Bool) (s : σ) (hs : src.pending s = f.wire true ++ rest) :
    ∃ t s' out, exec (readHandler src) (SapSession.readSlpFrame ⟨fd, true⟩ timeout)
        (true :: ready, s) = ⟨t, .ok out, (ready, s')⟩ ∧
      out = SapSession.decodeInner f.inner ∧ (out = none ↔ f.inner.length < 2) ∧
      src.pending s' = rest ∧ reported t = f.lines true ∧
      ((∃ frame, out = some frame) ∧ reported t = [] ↔ 2 ≤ f.inner.length ∧
        BigEndian.decode f.lengthCrc = crc16 f.header ∧
        BigEndian.decode f.innerCrc = crc16 f.inner) := by
  obtain ⟨t, s', he, hrest, ht⟩ := exec_readSlpFrame_ready ⟨fd, true⟩ timeout
    (Reads.readInner ⟨fd, true⟩ f rest) ready s hs
  have hnone := decodeInner_eq_none_iff f.inner
  refine ⟨t, s', SapSession.decodeInner f.inner, he, rfl, hnone, hrest, ht, ?_⟩
  have hsome : (∃ frame, SapSession.decodeInner f.inner = some frame) ↔ 2 ≤ f.inner.length := by
    rw [← Option.ne_none_iff_exists', ne_eq, hnone, not_lt]
  rw [ht]
  exact and_congr hsome f.lines_eq_nil_iff

theorem slp_reported_sample :
    ∃ t s' out, exec (readHandler scripted) (SapSession.readSlpFrame ⟨4, true⟩ 5000)
        ([true], (strangeFrame.wire true ++ [0, 2], [])) = ⟨t, .ok out, ([], s')⟩ ∧
      out = some ⟨1023, 1, [0x41]⟩ ∧ scripted.pending s' = [0, 2] ∧ (reported t).length = 1 ∧
      ¬((∃ frame, out = some frame) ∧ reported t = []) := by
  obtain ⟨t, s', out, he, hout, -, hrest, hlines, hiff⟩ := slp_reported_iff scripted 4 5000
    strangeFrame [0, 2] [] (strangeFrame.wire true ++ [0, 2], []) rfl
  refine ⟨t, s', out, he, hout, hrest, ?_, fun h => absurd (hiff.mp h).2.2 (by decide +kernel)⟩
  rw [hlines]
  decide +kernel

/-- The payload CRC is wrong, and the message is returned. -/
theorem corrupted_frame_delivered :
    BigEndian.decode strangeFrame.innerCrc ≠ crc16 strangeFrame.inner ∧
      (exec (readHandler scripted) (SapSession.readSlpFrame ⟨4, true⟩ 5000)
        ([true], (strangeFrame.wire true, []))).result = .ok (some ⟨1023, 1, [0x41]⟩) := by
  decide +kernel

/-- One field of a stream that is cut after `k` bytes. -/
theorem Reads.readN_cut (src : Source UInt8 Empty σ) (session : SapSession) {field : Bytes}
    {count : ℕ} (hlen : field.length = count) (more : Bytes) (k : ℕ) :
    Reads src (session.readN count) ((field ++ more).take k)
      (if k < count then none else some field) (if k < count then [] else more.take (k-count))
      [] := by
  subst hlen
  by_cases h : k < field.length
  · rw [if_pos h, if_pos h, List.take_append_of_le_length h.le]
    exact Reads.readN_short session (by rw [List.length_take]; omega)
  · rw [if_neg h, if_neg h, List.take_append, List.take_of_length_le (by omega)]
    exact Reads.readN session field _

/-- The length CRC of a stream that is cut after `k` bytes. -/
theorem Reads.readLengthCrc_cut (src : Source UInt8 Empty σ) (session : SapSession) (f : RawFrame)
    (more : Bytes) (k : ℕ) :
    ∃ lines, Reads src (session.readLengthCrc f.header)
      (((if session.useCrc then f.lengthCrc else []) ++ more).take k)
      (if k < (if session.useCrc then 2 else 0) then none else some ())
      (if k < (if session.useCrc then 2 else 0) then []
        else more.take (k - if session.useCrc then 2 else 0)) lines := by
  unfold SapSession.readLengthCrc
  cases session.useCrc with
  | false =>
    refine ⟨[], ?_⟩
    simp only [Bool.false_eq_true, if_false, List.nil_append, Nat.not_lt_zero, Nat.sub_zero]
    exact Reads.ret (some ()) (more.take k)
  | true =>
    have hread := Reads.readN_cut src session f.lengthCrc_length more k
    simp only [if_true]
    by_cases h : k < 2
    · rw [if_pos h, if_pos h] at hread ⊢
      refine ⟨[], hread.quiet_bind ?_⟩
      exact Reads.ret none []
    · rw [if_neg h, if_neg h] at hread ⊢
      refine ⟨_, hread.quiet_bind ((Reads.fromResult (unpackH_ok f.lengthCrc_length) _).quiet_bind
        ((Reads.warnCrc "length" _ _ _).bind_ret (some ())))⟩

/-- With less than a payload CRC left, the payload CRC is given up without a word. -/
theorem Reads.readPayloadCrc_short (src : Source UInt8 Empty σ) (session : SapSession)
    (payload : Bytes) {bytes : Bytes} (h : bytes.length < 2) :
    ∃ rest, Reads src (session.readPayloadCrc payload) bytes () rest [] := by
  unfold SapSession.readPayloadCrc
  cases session.useCrc with
  | false => exact ⟨bytes, Reads.ret () bytes⟩
  | true =>
    refine ⟨[], (Reads.readN_short session h).quiet_bind ?_⟩
    exact Reads.ret () []

/-- Only a cut inside the payload CRC goes unnoticed. -/
theorem Reads.readInner_cut (src : Source UInt8 Empty σ) (session : SapSession) (f : RawFrame)
    {k : ℕ} (hk : k < (f.wire session.useCrc).length) :
    ∃ rest lines, Reads src session.readInner ((f.wire session.useCrc).take k)
      (if session.useCrc = true ∧ (f.wire session.useCrc).length ≤ k+2 then some f.inner else none)
      rest lines := by
  have hlength := f.wire_length session.useCrc
  have hheader := Reads.readN_cut src session f.header_length
    ((if session.useCrc then f.lengthCrc else []) ++
      (f.inner ++ if session.useCrc then f.innerCrc else [])) k
  -- the cut is inside the length, the length CRC or the inner bytes, or else it goes unnoticed
  have hcut : ¬(session.useCrc = true ∧ (f.wire session.useCrc).length ≤ k+2) ↔
      k < 2 ∨ k-2 < (if session.useCrc then 2 else 0) ∨
        k-2-(if session.useCrc then 2 else 0) < f.inner.length := by
    cases hcrc : session.useCrc <;>
      simp only [hcrc, if_true, Bool.false_eq_true, if_false, false_and, true_and,
        not_false_eq_true, not_le, true_iff] at hlength hk ⊢ <;>
      omega
  by_cases h₁ : k < 2
  · rw [if_pos h₁, if_pos h₁] at hheader
    rw [if_neg (hcut.mpr (.inl h₁))]
    refine ⟨[], [], hheader.quiet_bind ?_⟩
    exact Reads.ret none []
  rw [if_neg h₁, if_neg h₁] at hheader
  obtain ⟨lines, hcrc⟩ := Reads.readLengthCrc_cut src session f
    (f.inner ++ if session.useCrc then f.innerCrc else []) (k-2)
  have hlen (bytes : Bytes) : Reads src (Prog.fromResult (unpackH f.header)) bytes f.inner.length
      bytes [] := Reads.fromResult (unpackH_encode f.inner_length) bytes
  by_cases h₂ : k-2 < (if session.useCrc then 2 else 0)
  · rw [if_pos h₂, if_pos h₂] at hcrc
    rw [if_neg (hcut.mpr (.inr (.inl h₂)))]
    refine ⟨[], lines ++ [], hheader.quiet_bind ((hlen _).quiet_bind (hcrc.bind ?_))⟩
    exact Reads.ret none []
  rw [if_neg h₂, if_neg h₂] at hcrc
  have hinner := Reads.readN_cut src session (rfl : f.inner.length = f.inner.length)
    (if session.useCrc then f.innerCrc else []) (k-2-if session.useCrc then 2 else 0)
  by_cases h₃ : k-2-(if session.useCrc then 2 else 0) < f.inner.length
  · rw [if_pos h₃, if_pos h₃] at hinner
    rw [if_neg (hcut.mpr (.inr (.inr h₃)))]
    refine ⟨[], lines ++ [],
      hheader.quiet_bind ((hlen _).quiet_bind (hcrc.bind (hinner.quiet_bind ?_)))⟩
    exact Reads.ret none []
  rw [if_neg h₃, if_neg h₃] at hinner
  -- all inner bytes are there, and fewer than two of the payload CRC
  have hpast : session.useCrc = true ∧ (f.wire session.useCrc).length ≤ k+2 :=
    not_not.mp fun h => (hcut.mp h).elim h₁ fun h => h.elim h₂ h₃
  have hleft : ((if session.useCrc then f.innerCrc else []).take
      (k-2-(if session.useCrc then 2 else 0)-f.inner.length)).length < 2 := by
    rw [hlength, hpast.1] at hk
    rw [List.length_take, hpast.1]
    simp only [if_true] at hk ⊢
    omega
  obtain ⟨rest, hlast⟩ := Reads.readPayloadCrc_short src session f.inner hleft
  rw [if_pos hpast]
  refine ⟨rest, lines ++ [], hheader.quiet_bind ((hlen _).quiet_bind (hcrc.bind
    (hinner.quiet_bind (hlast.quiet_bind ?_))))⟩
  exact Reads.ret (some f.inner) rest

/-- A frame whose last bytes are missing is delivered all the same exactly if it is only the payload
CRC that is cut. -/
theorem slp_truncated_iff (src : Source UInt8 Empty σ) (useCrc : Bool) (fd timeout : ℕ)
    {payload wire : Bytes} {sessionId frameType : ℕ}
    (hwire : SapSession.slpWire useCrc payload sessionId frameType = .ok wire) {k : ℕ}
    (hk : k < wire.length) (ready : List Bool) (s : σ) (hs : src.pending s = wire.take k) :
    (exec (readHandler src) (SapSession.readSlpFrame ⟨fd, useCrc⟩ timeout)
        (true :: ready, s)).result = .ok none ↔ ¬(useCrc = true ∧ wire.length ≤ k+2) := by
  obtain ⟨htype, hlen, rfl⟩ := slpWire_ok_iff.mp hwire
  obtain ⟨rest, lines, hread⟩ := Reads.readInner_cut src ⟨fd, useCrc⟩
    (RawFrame.sealing (packedInner payload sessionId frameType) hlen) hk
  obtain ⟨t, s', he, -, -⟩ := exec_readSlpFrame_ready ⟨fd, useCrc⟩ timeout hread ready s hs
  rw [he]
  -- the last two bytes are the payload CRC, and its read is not checked
  by_cases hcut : useCrc = true ∧ ((RawFrame.sealing (packedInner payload sessionId frameType)
      hlen).wire useCrc).length ≤ k+2
  · have hdelivered : SapSession.decodeInner (RawFrame.sealing
        (packedInner payload sessionId frameType) hlen).inner ≠ none := by
      rw [RawFrame.sealing, decodeInner_packedInner payload sessionId htype]
      exact Option.some_ne_none _
    rw [if_pos hcut, Option.bind_some]
    exact iff_of_false (fun h => hdelivered (Except.ok.inj h)) (fun h => h hcut)
  · rw [if_neg hcut, Option.bind_none]
    exact iff_of_true rfl hcut

theorem slp_truncated_sample :
    (exec (readHandler scripted) (SapSession.readSlpFrame ⟨4, true⟩ 5000)
      ([true], ([0x00,0x03,0x01,0x40,0x0f,0xfc], [1,0]))).result = .ok none :=
  (slp_truncated_iff scripted true 4 5000 (k := 6)
    (show SapSession.slpWire true [0x41] 1023 0 =
      .ok [0x00,0x03,0x01,0x40,0x0f,0xfc,0x41,0x33,0xb1] by decide +kernel) (by decide) []
    ([0x00,0x03,0x01,0x40,0x0f,0xfc], [1,0]) rfl).mpr (by decide)

/-- The last byte is missing, and the message is returned. -/
theorem truncated_frame_delivered :
    SapSession.slpWire true [0x41] 1023 0 =
      .ok [0x00,0x03,0x01,0x40,0x0f,0xfc,0x41,0x33,0xb1] ∧
    (exec (readHandler scripted) (SapSession.readSlpFrame ⟨4, true⟩ 5000)
      ([true], ([0x00,0x03,0x01,0x40,0x0f,0xfc,0x41,0x33,0xb1].take 8, []))).result =
      .ok (some ⟨1023, 0, [0x41]⟩) := by
  decide +kernel

end

end Gear360
