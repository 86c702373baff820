import Gear360.SapSession

namespace Gear360

open Interaction
open Interaction.Prog (perform fromResult)
open ChunkedSource

theorem session_msb (sessionId : ℕ) : (sessionId >>> 6) &&& 0x0F = sessionId/64%16 := by
  rw [show (0x0F:ℕ) = 2^4-1 from rfl, Nat.and_two_pow_sub_one_eq_mod, Nat.shiftRight_eq_div_pow]

theorem session_lsb (sessionId : ℕ) : (sessionId &&& 0x3F) <<< 2 = sessionId%64*4 := by
  rw [show (0x3F:ℕ) = 2^6-1 from rfl, Nat.and_two_pow_sub_one_eq_mod, Nat.shiftLeft_eq]

theorem pack_type (frameType msb : ℕ) (h : msb < 16) :
    (frameType <<< 4) ||| msb = frameType*16+msb := by
  rw [← Nat.shiftLeft_add_eq_or_of_lt (by simpa using h), Nat.shiftLeft_eq]

theorem unpack_type (p : ℕ) : (p >>> 4) &&& 0x01 = p/16%2 := by
  rw [show (0x01:ℕ) = 2^1-1 from rfl, Nat.and_two_pow_sub_one_eq_mod, Nat.shiftRight_eq_div_pow]

theorem unpack_session (p q : ℕ) :
    ((p &&& 0x0F) <<< 6) ||| ((q >>> 2) &&& 0x3F) = p%16*64+q/4%64 := by
  have hq : (q >>> 2) &&& 0x3F = q/4%64 := by
    rw [show (0x3F:ℕ) = 2^6-1 from rfl, Nat.and_two_pow_sub_one_eq_mod,
      Nat.shiftRight_eq_div_pow]
  rw [hq, ← Nat.shiftLeft_add_eq_or_of_lt (by omega), Nat.shiftLeft_eq,
    show (0x0F:ℕ) = 2^4-1 from rfl, Nat.and_two_pow_sub_one_eq_mod]

/-- The lines `log.error` printed. -/
def reported (t : List FdEvent) : List String :=
  t.filterMap (fun
    | ⟨.logError text, _⟩ => some text
    | _ => none)

@[simp] theorem reported_append (t t' : List FdEvent) :
    reported (t ++ t') = reported t ++ reported t' := List.filterMap_append

/-- A camera that sends the bytes of a source: `select` answers from a list of readiness
flags, `os.read` from the source, and writes are taken whole. -/
def readHandler {σ : Type} (src : Source UInt8 Empty σ) : Handler FdAns PyErr (List Bool × σ)
  | .select _ _, (ready, s) => (.ok (ready.headD false), (ready.tail, s))
  | .osRead _ count, (ready, s) =>
    match (src.read s count).1 with
    | .ok chunk => (.ok chunk, (ready, (src.read s count).2))
    | .error e => e.elim
  | .osWrite _ data, st => (.ok data.length, st)
  | .logError _, st => (.ok (), st)

section
variable {σ α β : Type} (src : Source UInt8 Empty σ)

/-- With `bytes` pending, `p` returns `a`, leaves `rest` pending and prints `lines`,
however the single reads are cut. -/
def Reads (p : Fd α) (bytes : Bytes) (a : α) (rest : Bytes) (lines : List String) : Prop :=
  ∀ ready s, src.pending s = bytes →
    ∃ t s', exec (readHandler src) p (ready, s) = ⟨t, .ok a, (ready, s')⟩ ∧
      src.pending s' = rest ∧ reported t = lines

variable {src}

theorem Reads.ret (a : α) (bytes : Bytes) : Reads src (.ret a) bytes a bytes [] :=
  fun _ s hs => ⟨[], s, rfl, hs, rfl⟩

theorem Reads.bind {p : Fd α} {f : α → Fd β} {bytes mid rest : Bytes} {a : α} {b : β}
    {l l' : List String} (hp : Reads src p bytes a mid l) (hf : Reads src (f a) mid b rest l') :
    Reads src (p >>= f) bytes b rest (l ++ l') := by
  intro ready s hs
  obtain ⟨t, s', he, hs', ht⟩ := hp ready s hs
  obtain ⟨t', s'', he', hs'', ht'⟩ := hf ready s' hs'
  exact ⟨t ++ t', s'', exec_bind he he', hs'', by rw [reported_append, ht, ht']⟩

/-- A first step that prints nothing. -/
theorem Reads.quiet_bind {p : Fd α} {f : α → Fd β} {bytes mid rest : Bytes} {a : α} {b : β}
    {l : List String} (hp : Reads src p bytes a mid []) (hf : Reads src (f a) mid b rest l) :
    Reads src (p >>= f) bytes b rest l := hp.bind hf

/-- A last step that returns without doing anything. -/
theorem Reads.bind_ret {p : Fd α} {bytes rest : Bytes} {a : α} {l : List String}
    (hp : Reads src p bytes a rest l) (b : β) :
    Reads src (p >>= fun _ => .ret b) bytes b rest l := by
  have h : Reads src (p >>= fun _ => .ret b) bytes b rest (l ++ []) :=
    hp.bind (Reads.ret b rest)
  rwa [List.append_nil] at h

theorem Reads.fromResult {x : Except PyErr α} {a : α} (h : x = .ok a) (bytes : Bytes) :
    Reads src (fromResult x) bytes a bytes [] := by
  subst h
  exact Reads.ret a bytes

theorem Reads.logError (text : String) (bytes : Bytes) :
    Reads src (logError text) bytes () bytes [text] :=
  fun _ s hs => ⟨_, s, rfl, hs, rfl⟩

theorem exec_osRead (src : Source UInt8 Empty σ) (fd count : ℕ) (ready : List Bool) (s : σ)
    {chunk : Bytes} {s' : σ} (h : src.read s count = (.ok chunk, s')) :
    exec (readHandler src) (osRead fd count) (ready, s) =
      ⟨[⟨.osRead fd count, .ok chunk⟩], .ok chunk, (ready, s')⟩ := by
  simp only [osRead, exec_perform, readHandler, h]

/-- The loop of `_read_n` is the gathering loop of the source. -/
theorem exec_readNLoop (src : Source UInt8 Empty σ) (session : SapSession) (count : ℕ)
    (data : Bytes) (ready : List Bool) (s : σ) :
    ∃ t, exec (readHandler src) (session.readNLoop count data) (ready, s) =
      ⟨t, .ok (gather src count data s).1, (ready, (gather src count data s).2)⟩ ∧
      reported t = [] := by
  -- both loops take the same turns, so the recursion of `gather` carries the induction
  induction data, s using gather.induct src count with
  | case1 data s h e s' hr => exact e.elim
  | case2 data s h s' hr =>
    rw [SapSession.readNLoop, dif_pos h, gather_step src s h, hr]
    exact ⟨_, exec_bind (exec_osRead src _ _ ready s hr) rfl, rfl⟩
  | case3 data s h c cs s' hr ih =>
    obtain ⟨t, ht, hl⟩ := ih
    rw [SapSession.readNLoop, dif_pos h, gather_step src s h, hr,
      exec_bind_ok (exec_osRead src _ _ ready s hr)]
    dsimp only
    rw [ht]
    exact ⟨_, rfl, hl⟩
  | case4 data s h =>
    rw [SapSession.readNLoop, dif_neg h, gather_done src s (by omega)]
    exact ⟨[], rfl, rfl⟩

/-- `_read_n` returns exactly the next bytes when there are enough of them. -/
theorem Reads.readN (session : SapSession) (data rest : Bytes) :
    Reads src (session.readN data.length) (data ++ rest) (some data) rest [] := by
  intro ready s hs
  obtain ⟨t, ht, hl⟩ := exec_readNLoop src session data.length [] ready s
  obtain ⟨h1, h2⟩ := gather_spec src data.length [] s (Nat.zero_le _)
  rw [hs] at h1 h2
  -- there are enough bytes pending, so the gathering ends by being complete
  rw [if_pos (by simp only [List.length_append]; omega)] at h1
  simp only [List.length_nil, Nat.sub_zero, List.take_left, List.drop_left, List.nil_append]
    at h1 h2
  rw [h1] at ht
  exact ⟨t, _, ht, h2, hl⟩

/-- Short of `count` bytes, `_read_n` swallows what is left and returns nothing. -/
theorem Reads.readN_short (session : SapSession) {count : ℕ} {bytes : Bytes}
    (h : bytes.length < count) : Reads src (session.readN count) bytes none [] [] := by
  intro ready s hs
  obtain ⟨t, ht, hl⟩ := exec_readNLoop src session count [] ready s
  obtain ⟨h1, h2⟩ := gather_spec src count [] s (Nat.zero_le _)
  rw [hs] at h1 h2
  -- too few bytes: the gathering ends with the stream
  rw [if_neg (by simp only [List.length_nil]; omega)] at h1
  rw [h1] at ht
  exact ⟨t, _, ht, by rw [h2, List.drop_eq_nil_of_le]; simpa using h.le, hl⟩

/-- The line printed for a CRC field, if its value is wrong. -/
def crcLines (label : String) (expected actual : ℕ) : List String :=
  if expected ≠ actual then
    [s!"CRC mismatch on {label}: expected 0x{hex4 expected}, got 0x{hex4 actual}"] else []

theorem Reads.warnCrc (label : String) (expected actual : ℕ) (bytes : Bytes) :
    Reads src (SapSession.warnCrc label expected actual) bytes () bytes
      (crcLines label expected actual) := by
  unfold SapSession.warnCrc crcLines
  split_ifs
  · exact Reads.logError _ bytes
  · exact Reads.ret () bytes

/-- A frame on the wire with arbitrary inner bytes and arbitrary CRC fields. -/
structure RawFrame where
  inner : Bytes
  lengthCrc : Bytes
  innerCrc : Bytes
  inner_length : inner.length < 2^16
  lengthCrc_length : lengthCrc.length = 2
  innerCrc_length : innerCrc.length = 2

namespace RawFrame

def header (f : RawFrame) : Bytes := BigEndian.encode 2 f.inner.length

def wire (useCrc : Bool) (f : RawFrame) : Bytes :=
  f.header ++ ((if useCrc then f.lengthCrc else []) ++
    (f.inner ++ if useCrc then f.innerCrc else []))

/-- What `read_slp_frame` prints while it reads the frame. -/
def lines (useCrc : Bool) (f : RawFrame) : List String :=
  if useCrc then
    crcLines "length" (BigEndian.decode f.lengthCrc) (crc16 f.header) ++
      crcLines "payload" (BigEndian.decode f.innerCrc) (crc16 f.inner) else []

end RawFrame

theorem Reads.readLengthCrc (session : SapSession) (f : RawFrame) (rest : Bytes) :
    Reads src (session.readLengthCrc f.header)
      ((if session.useCrc then f.lengthCrc else []) ++ rest) (some ()) rest
      (if session.useCrc then
        crcLines "length" (BigEndian.decode f.lengthCrc) (crc16 f.header) else []) := by
  unfold SapSession.readLengthCrc
  cases session.useCrc with
  | false => exact Reads.ret _ rest
  | true =>
    have hread : Reads src (session.readN f.lengthCrc.length) (f.lengthCrc ++ rest)
        (some f.lengthCrc) rest [] := Reads.readN session f.lengthCrc rest
    rw [f.lengthCrc_length] at hread
    apply hread.quiet_bind
    apply (Reads.fromResult (unpackH_ok f.lengthCrc_length) rest).quiet_bind
    exact (Reads.warnCrc "length" _ _ rest).bind_ret (some ())

theorem Reads.readPayloadCrc (session : SapSession) (f : RawFrame) (rest : Bytes) :
    Reads src (session.readPayloadCrc f.inner)
      ((if session.useCrc then f.innerCrc else []) ++ rest) () rest
      (if session.useCrc then
        crcLines "payload" (BigEndian.decode f.innerCrc) (crc16 f.inner) else []) := by
  unfold SapSession.readPayloadCrc
  cases session.useCrc with
  | false => exact Reads.ret _ rest
  | true =>
    have hread : Reads src (session.readN f.innerCrc.length) (f.innerCrc ++ rest)
        (some f.innerCrc) rest [] := Reads.readN session f.innerCrc rest
    rw [f.innerCrc_length] at hread
    apply hread.quiet_bind
    apply (Reads.fromResult (unpackH_ok f.innerCrc_length) rest).quiet_bind
    exact Reads.warnCrc "payload" _ _ rest

/-- A whole frame is consumed exactly, up to the next frame's first byte. -/
theorem Reads.readInner (session : SapSession) (f : RawFrame) (rest : Bytes) :
    Reads src session.readInner (f.wire session.useCrc ++ rest) (some f.inner) rest
      (f.lines session.useCrc) := by
  have hheader (bytes : Bytes) : Reads src (session.readN f.header.length) (f.header ++ bytes)
      (some f.header) bytes [] := Reads.readN session f.header bytes
  simp only [RawFrame.header, BigEndian.encode_length] at hheader
  have hlines : f.lines session.useCrc =
      (if session.useCrc then
        crcLines "length" (BigEndian.decode f.lengthCrc) (crc16 f.header) else []) ++
      (if session.useCrc then
        crcLines "payload" (BigEndian.decode f.innerCrc) (crc16 f.inner) else []) := by
    unfold RawFrame.lines
    split_ifs <;> rfl
  -- the four reads in turn: length, length CRC, inner bytes, payload CRC
  rw [hlines, RawFrame.wire]
  simp only [List.append_assoc]
  apply (hheader _).quiet_bind
  apply (Reads.fromResult (unpackH_encode f.inner_length) _).quiet_bind
  apply (Reads.readLengthCrc session f _).bind
  apply (Reads.readN session f.inner _).quiet_bind
  exact (Reads.readPayloadCrc session f rest).bind_ret (some f.inner)

end

/-- The inner bytes with the CRC fields that `send_slp_frame` gives them. -/
def RawFrame.sealing (inner : Bytes) (h : inner.length < 2^16) : RawFrame where
  inner := inner
  lengthCrc := BigEndian.encode 2 (crc16 (BigEndian.encode 2 inner.length))
  innerCrc := BigEndian.encode 2 (crc16 inner)
  inner_length := h
  lengthCrc_length := BigEndian.encode_length _ _
  innerCrc_length := BigEndian.encode_length _ _

/-- The inner bytes of a frame: four session bits and the type, the other six session bits, and
the payload. -/
def packedInner (payload : Bytes) (sessionId frameType : ℕ) : Bytes :=
  UInt8.ofNat (frameType*16+sessionId/64%16) :: UInt8.ofNat (sessionId%64*4) :: payload

theorem packedInner_length (payload : Bytes) (sessionId frameType : ℕ) :
    (packedInner payload sessionId frameType).length = payload.length+2 := rfl

theorem bytesOf_packed (sessionId frameType : ℕ) :
    bytesOf [(frameType <<< 4) ||| ((sessionId >>> 6) &&& 0x0F), (sessionId &&& 0x3F) <<< 2] =
      if frameType < 16 then
        .ok [UInt8.ofNat (frameType*16+sessionId/64%16), UInt8.ofNat (sessionId%64*4)]
      else .error (.valueError "bytes must be in range(0, 256)") := by
  rw [session_msb, session_lsb, pack_type _ _ (Nat.mod_lt _ (by norm_num))]
  simp only [bytesOf]
  by_cases h : frameType < 16
  · rw [if_pos (by omega), if_pos (by omega), if_pos h]
    rfl
  · rw [if_neg (by omega), if_neg h]

theorem slpWire_packed {useCrc : Bool} {payload : Bytes} {sessionId frameType : ℕ}
    (htype : frameType < 16) (hlen : (packedInner payload sessionId frameType).length < 2^16) :
    SapSession.slpWire useCrc payload sessionId frameType = .ok
      ((RawFrame.sealing (packedInner payload sessionId frameType) hlen).wire useCrc) := by
  have hinner : [UInt8.ofNat (frameType*16+sessionId/64%16), UInt8.ofNat (sessionId%64*4)] ++
      payload = packedInner payload sessionId frameType := rfl
  rw [SapSession.slpWire, bytesOf_packed, if_pos htype]
  simp only [bind, Except.bind, hinner, be16_ok hlen, be16_ok (crc16_lt _)]
  cases useCrc <;> simp [RawFrame.wire, RawFrame.header, RawFrame.sealing, pure, Except.pure]

/-- The length field has no room for more. -/
theorem slpWire_overflow {useCrc : Bool} {payload : Bytes} {sessionId frameType : ℕ}
    (htype : frameType < 16) (hlen : 2^16 ≤ (packedInner payload sessionId frameType).length) :
    SapSession.slpWire useCrc payload sessionId frameType = .error .structError := by
  have hbe : be16 ([UInt8.ofNat (frameType*16+sessionId/64%16), UInt8.ofNat (sessionId%64*4)] ++
      payload).length = .error .structError := be16_error hlen
  rw [SapSession.slpWire, bytesOf_packed, if_pos htype]
  simp only [bind, Except.bind, hbe]

/-- Whatever `send_slp_frame` writes is a sealed frame. -/
theorem slpWire_ok_iff {useCrc : Bool} {payload wire : Bytes} {sessionId frameType : ℕ} :
    SapSession.slpWire useCrc payload sessionId frameType = .ok wire ↔
      frameType < 16 ∧ ∃ h, wire =
        (RawFrame.sealing (packedInner payload sessionId frameType) h).wire useCrc := by
  by_cases htype : frameType < 16
  · by_cases hlen : (packedInner payload sessionId frameType).length < 2^16
    · rw [slpWire_packed htype hlen, Except.ok.injEq]
      constructor
      · rintro rfl
        exact ⟨htype, hlen, rfl⟩
      · rintro ⟨-, -, rfl⟩
        rfl
    · rw [slpWire_overflow htype (not_lt.mp hlen)]
      exact iff_of_false (fun h => nomatch h) (fun h => hlen h.2.1)
  · rw [SapSession.slpWire, bytesOf_packed, if_neg htype]
    exact iff_of_false (fun h => nomatch h) (fun h => htype h.1)

theorem decodeInner_eq (p₀ p₁ : UInt8) (payload : Bytes) :
    SapSession.decodeInner (p₀ :: p₁ :: payload) =
      some ⟨p₀.toNat%16*64+p₁.toNat/4%64, p₀.toNat/16%2, payload⟩ := by
  simp only [SapSession.decodeInner, unpack_type, unpack_session]

/-- Ten bits of the session id and one bit of the type come back. -/
theorem decodeInner_packedInner (payload : Bytes) (sessionId : ℕ) {frameType : ℕ}
    (htype : frameType < 16) :
    SapSession.decodeInner (packedInner payload sessionId frameType) =
      some ⟨sessionId%1024, frameType%2, payload⟩ := by
  have hp : (UInt8.ofNat (frameType*16+sessionId/64%16)).toNat =
      frameType*16+sessionId/64%16 := UInt8.toNat_ofNat_of_lt' (by change _ < 256; omega)
  have hq : (UInt8.ofNat (sessionId%64*4)).toNat = sessionId%64*4 :=
    UInt8.toNat_ofNat_of_lt' (by change _ < 256; omega)
  rw [packedInner, decodeInner_eq, hp, hq]
  congr 2 <;> omega

end Gear360
