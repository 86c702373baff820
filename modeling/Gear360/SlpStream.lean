import Gear360.SlpReader

namespace Gear360

open Interaction
open Interaction.Prog (perform fromResult)
open ChunkedSource

/-- A frame that fits the wire format. -/
structure SlpMessage extends SlpFrame where
  sessionId_lt : sessionId < 1024
  frameType_lt : frameType < 2
  payload_le : payload.length ≤ 65533

namespace SapSession

def sendAll (session : SapSession) : List SlpMessage → Fd Unit
  | [] => return ()
  | f :: fs => do
    session.sendSlpFrame f.payload f.sessionId f.frameType
    session.sendAll fs

def readCalls (session : SapSession) (timeout : ℕ) : ℕ → Fd (List (Option SlpFrame))
  | 0 => return []
  | n+1 => do
    let f ← session.readSlpFrame timeout
    let fs ← session.readCalls timeout n
    return f :: fs

end SapSession

/-- A peer whose state is the bytes on the wire: `os.write` writes the whole buffer. -/
def wireHandler : Handler FdAns PyErr Bytes
  | .select _ _, wire => (.ok false, wire)
  | .osRead _ _, wire => (.ok [], wire)
  | .osWrite _ data, wire => (.ok data.length, wire ++ data)
  | .logError _, wire => (.ok (), wire)

/-- The results of successive reads: nothing where `select` timed out, else the next
frame, and nothing again once the frames are used up. -/
def deliveries : List Bool → List SlpFrame → List (Option SlpFrame)
  | [], _ => []
  | false :: ready, fs => none :: deliveries ready fs
  -- `os.read` gives `b""` at the end of the stream
  | true :: ready, [] => none :: deliveries ready []
  | true :: ready, f :: fs => some f :: deliveries ready fs

namespace SlpMessage

def inner (f : SlpMessage) : Bytes :=
  UInt8.ofNat (f.frameType*16+f.sessionId/64) :: UInt8.ofNat (f.sessionId%64*4) :: f.payload

theorem inner_length (f : SlpMessage) : f.inner.length = f.payload.length+2 := rfl

theorem inner_lt (f : SlpMessage) : f.inner.length < 2^16 := by
  have hlen := f.payload_le
  rw [inner_length]
  omega

/-- The frame as it goes out, with both CRC fields right. -/
def raw (f : SlpMessage) : RawFrame := RawFrame.sealing f.inner f.inner_lt

/-- Below 1024 the mask of the four high session bits changes nothing. -/
theorem packedInner_eq (f : SlpMessage) :
    packedInner f.payload f.sessionId f.frameType = f.inner := by
  have hs := f.sessionId_lt
  have hm : f.sessionId/64%16 = f.sessionId/64 := by omega
  rw [packedInner, hm]
  rfl

theorem slpWire_eq (f : SlpMessage) (useCrc : Bool) :
    SapSession.slpWire useCrc f.payload f.sessionId f.frameType = .ok (f.raw.wire useCrc) := by
  have ht := f.frameType_lt
  apply slpWire_ok_iff.mpr
  simp only [packedInner_eq]
  exact ⟨by omega, f.raw.inner_length, rfl⟩

/-- A frame with its own checksums reads without a complaint. -/
theorem raw_lines (f : SlpMessage) (useCrc : Bool) : f.raw.lines useCrc = [] := by
  have hl : BigEndian.decode f.raw.lengthCrc = crc16 f.raw.header :=
    BigEndian.decode_encode (by simpa using crc16_lt _)
  have hi : BigEndian.decode f.raw.innerCrc = crc16 f.raw.inner :=
    BigEndian.decode_encode (by simpa using crc16_lt _)
  simp [RawFrame.lines, hl, hi, crcLines]

theorem decodeInner_inner (f : SlpMessage) :
    SapSession.decodeInner f.inner = some f.toSlpFrame := by
  have ht := f.frameType_lt
  rw [← f.packedInner_eq, decodeInner_packedInner _ _ (by omega), Nat.mod_eq_of_lt f.sessionId_lt,
    Nat.mod_eq_of_lt ht]

end SlpMessage

theorem exec_sendSlpFrame (session : SapSession) (f : SlpMessage) (wire : Bytes) :
    ∃ t, exec wireHandler (session.sendSlpFrame f.payload f.sessionId f.frameType) wire =
      ⟨t, .ok (), wire ++ f.raw.wire session.useCrc⟩ := by
  rw [SapSession.sendSlpFrame, f.slpWire_eq]
  exact ⟨_, rfl⟩

theorem exec_sendAll (session : SapSession) (frames : List SlpMessage) (wire : Bytes) :
    ∃ t, exec wireHandler (session.sendAll frames) wire =
      ⟨t, .ok (), wire ++ frames.flatMap (fun f => f.raw.wire session.useCrc)⟩ := by
  induction frames generalizing wire with
  | nil => exact ⟨[], by simp [SapSession.sendAll, Prog.pure_eq]⟩
  | cons f frames ih =>
    obtain ⟨t, ht⟩ := exec_sendSlpFrame session f wire
    obtain ⟨u, hu⟩ := ih (wire ++ f.raw.wire session.useCrc)
    refine ⟨t ++ u, ?_⟩
    rw [SapSession.sendAll, exec_bind_ok ht, hu, List.flatMap_cons, List.append_assoc]

section
variable {σ : Type} {src : Source UInt8 Empty σ}

/-- A call whose `select` times out touches nothing but the clock. -/
theorem exec_readSlpFrame_timeout (session : SapSession) (timeout : ℕ) (ready : List Bool) (s : σ) :
    exec (readHandler src) (session.readSlpFrame timeout) (false :: ready, s) =
      ⟨[⟨.select session.fd timeout, .ok false⟩], .ok none, (ready, s)⟩ := rfl

theorem exec_readSlpFrame_ready (session : SapSession) (timeout : ℕ) {bytes rest : Bytes}
    {inner : Option Bytes} {lines : List String}
    (h : Reads src session.readInner bytes inner rest lines) (ready : List Bool) (s : σ)
    (hs : src.pending s = bytes) :
    ∃ t s', exec (readHandler src) (session.readSlpFrame timeout) (true :: ready, s) =
      ⟨t, .ok (inner.bind SapSession.decodeInner), (ready, s')⟩ ∧ src.pending s' = rest ∧
      reported t = lines := by
  obtain ⟨t, s', he, hs', ht⟩ := h ready s hs
  have hsel : exec (readHandler src) (select session.fd timeout) (true :: ready, s) =
      ⟨[⟨.select session.fd timeout, .ok true⟩], .ok true, (ready, s)⟩ := rfl
  refine ⟨⟨.select session.fd timeout, .ok true⟩ :: (t ++ []), s', ?_, hs', ?_⟩
  · rw [SapSession.readSlpFrame, exec_bind_ok hsel]
    simp only [Bool.not_true, Bool.false_eq_true, if_false]
    rw [exec_bind_ok (exec_tryExcept_ok _ he)]
    rfl
  · rw [List.append_nil]
    exact ht

theorem Reads.readInner_eof (session : SapSession) : Reads src session.readInner [] none [] [] := by
  have h : Reads src (session.readN 2) [] none [] [] := Reads.readN_short session (by simp)
  apply h.quiet_bind
  exact Reads.ret none []

/-- One step of the reading side: what is read next, and what stays on the wire. -/
theorem exec_readCalls (session : SapSession) (timeout : ℕ) (ready : List Bool)
    (frames : List SlpMessage) (s : σ)
    (hs : src.pending s = frames.flatMap (fun f => f.raw.wire session.useCrc)) :
    ∃ t s', exec (readHandler src) (session.readCalls timeout ready.length) (ready, s) =
        ⟨t, .ok (deliveries ready (frames.map SlpMessage.toSlpFrame)), ([], s')⟩ ∧
      src.pending s' = (frames.drop (ready.count true)).flatMap
        (fun f => f.raw.wire session.useCrc) ∧ reported t = [] := by
  induction ready generalizing frames s with
  | nil => exact ⟨[], s, rfl, by simpa using hs, rfl⟩
  | cons flag ready ih =>
    -- one call and then the induction hypothesis, for whatever that call leaves behind
    have hstep {t : List FdEvent} {f : Option SlpFrame} {s' : σ} {rest : List SlpMessage}
        (hread : exec (readHandler src) (session.readSlpFrame timeout) (flag :: ready, s) =
          ⟨t, .ok f, (ready, s')⟩) (hs' : src.pending s' = rest.flatMap
            (fun f => f.raw.wire session.useCrc)) (ht : reported t = []) :
        ∃ t s', exec (readHandler src) (session.readCalls timeout (ready.length+1))
            (flag :: ready, s) =
          ⟨t, .ok (f :: deliveries ready (rest.map SlpMessage.toSlpFrame)), ([], s')⟩ ∧
          src.pending s' = (rest.drop (ready.count true)).flatMap
            (fun f => f.raw.wire session.useCrc) ∧ reported t = [] := by
      obtain ⟨u, s'', hu, hs'', hl⟩ := ih rest s' hs'
      refine ⟨t ++ (u ++ []), s'', ?_, hs'', by rw [List.append_nil, reported_append, ht, hl]; rfl⟩
      rw [SapSession.readCalls, exec_bind_ok hread, exec_bind_ok hu]
      rfl
    cases flag with
    | false =>
      simpa [deliveries] using hstep (exec_readSlpFrame_timeout session timeout ready s) hs rfl
    | true =>
      cases frames with
      -- ready and no frame left: the end of the stream is read
      | nil =>
        obtain ⟨t, s', he, hs', ht⟩ := exec_readSlpFrame_ready session timeout
          (Reads.readInner_eof session) ready s hs
        have hnil : src.pending s' =
            ([] : List SlpMessage).flatMap (fun f => f.raw.wire session.useCrc) := hs'
        simpa [deliveries] using hstep he hnil ht
      | cons f frames =>
        obtain ⟨t, s', he, hs', ht⟩ := exec_readSlpFrame_ready session timeout
          (Reads.readInner session f.raw _) ready s hs
        have h := hstep he hs' (ht.trans (f.raw_lines session.useCrc))
        have hd : (some f.raw.inner).bind SapSession.decodeInner = some f.toSlpFrame :=
          f.decodeInner_inner
        simpa [deliveries, hd] using h

end

/-- What one session writes with `send_slp_frame`, a session with the same `use_crc`
reads back frame by frame, for every cutting of the byte stream and every interleaving
with timeouts. -/
theorem slp_stream_round_trip {σ : Type} (src : Source UInt8 Empty σ) (useCrc : Bool)
    (fd fd' timeout : ℕ) (frames : List SlpMessage) (ready : List Bool) (s : σ)
    (hs : src.pending s = (exec wireHandler (SapSession.sendAll ⟨fd, useCrc⟩ frames) []).state) :
    (exec wireHandler (SapSession.sendAll ⟨fd, useCrc⟩ frames) []).result = .ok () ∧
    (∃ t s', exec (readHandler src)
        (SapSession.readCalls ⟨fd', useCrc⟩ timeout ready.length) (ready, s) =
        ⟨t, .ok (deliveries ready (frames.map SlpMessage.toSlpFrame)), ([], s')⟩ ∧
      reported t = [] ∧
      src.pending s' = (exec wireHandler (SapSession.sendAll ⟨fd, useCrc⟩
        (frames.drop (ready.count true))) []).state ∧
      (frames.length ≤ ready.count true → src.pending s' = [])) ∧
    ∀ ready' s', exec (readHandler src) (SapSession.readSlpFrame ⟨fd', useCrc⟩ timeout)
      (false :: ready', s') = ⟨[⟨.select fd' timeout, .ok false⟩], .ok none, (ready', s')⟩ := by
  obtain ⟨t, ht⟩ := exec_sendAll ⟨fd, useCrc⟩ frames []
  rw [ht] at hs ⊢
  -- by the induction over the calls, from the bytes that were written
  obtain ⟨u, s', hu, hs', hl⟩ := exec_readCalls ⟨fd', useCrc⟩ timeout ready frames s hs
  obtain ⟨v, hv⟩ := exec_sendAll ⟨fd, useCrc⟩ (frames.drop (ready.count true)) []
  refine ⟨rfl, ⟨u, s', hu, hl, by rw [hv]; exact hs', ?_⟩,
    fun ready' s' => exec_readSlpFrame_timeout ⟨fd', useCrc⟩ timeout ready' s'⟩
  intro hle
  rw [hs', List.drop_eq_nil_of_le hle, List.flatMap_nil]

/-- Two frames in CRC mode, cut into pieces of different sizes, with a timeout between. -/
theorem slp_stream_round_trip_two_frames :
    ∃ t s', exec (readHandler scripted) (SapSession.readCalls ⟨4, true⟩ 5000 3)
        ([true,false,true], ([0x00,0x03,0x01,0x40,0x0f,0xfc,0x41,0x33,0xb1,
          0x00,0x02,0xc1,0x81,0x10,0x28,0xde,0x0d], [0,0,7,1])) =
      ⟨t, .ok [some ⟨1023, 0, [0x41]⟩, none, some ⟨10, 1, []⟩], ([], s')⟩ ∧ reported t = [] := by
  obtain ⟨-, ⟨t, s', h, hl, -⟩, -⟩ := slp_stream_round_trip scripted true 3 4 5000
    [⟨⟨1023, 0, [0x41]⟩, by decide, by decide, by decide⟩,
      ⟨⟨10, 1, []⟩, by decide, by decide, by decide⟩] [true,false,true]
    ([0x00,0x03,0x01,0x40,0x0f,0xfc,0x41,0x33,0xb1,
      0x00,0x02,0xc1,0x81,0x10,0x28,0xde,0x0d], [0,0,7,1]) (by decide +kernel)
  exact ⟨t, s', h, hl⟩

end Gear360
