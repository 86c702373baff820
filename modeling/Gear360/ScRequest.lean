import Gear360.CapexParser

namespace Gear360

open PrefixDecoder

structure Channel.InRange (channel : Channel) : Prop where
  sessionId_lt : channel.sessionId < 2^16
  channelId_lt : channel.channelId < 2^16
  qosTrafficClass_lt : channel.qosTrafficClass < 256
  qosDataRate_lt : channel.qosDataRate < 256
  qosPriorityClass_lt : channel.qosPriorityClass < 256
  payloadType_lt : channel.payloadType < 256

/-- Arguments that fit their fields, with a profile id that does not contain the terminator. -/
structure ScRanges (profileId : String) (channels : List Channel) (initiatorId acceptorId : ℕ) :
    Prop where
  profileId_free : ';' ∉ profileId.toList
  channels_length : channels.length ≤ 65535
  channels_inRange : ∀ channel ∈ channels, channel.InRange
  initiatorId_lt : initiatorId < 2^16
  acceptorId_lt : acceptorId < 2^16

/-- The columns of the request, in the order they are written. -/
structure Columns where
  sessionIds : List ℕ
  channelIds : List ℕ
  qos : List (ℕ × ℕ × ℕ)
  payloadTypes : List ℕ

def columns (channels : List Channel) : Columns where
  sessionIds := channels.map Channel.sessionId
  channelIds := channels.map Channel.channelId
  qos := channels.map fun channel =>
    (channel.qosTrafficClass, channel.qosDataRate, channel.qosPriorityClass)
  payloadTypes := channels.map Channel.payloadType

/-- The rows can be put together again. -/
theorem columns_injective : Function.Injective columns := by
  intro channels channels' h
  rw [columns, columns, Columns.mk.injEq] at h
  obtain ⟨hsession, hchannel, hqos, hpayload⟩ := h
  induction channels generalizing channels' with
  | nil =>
    cases channels' with
    | nil => rfl
    | cons => cases hsession
  | cons channel channels ih =>
    cases channels' with
    | nil => cases hsession
    | cons channel' channels' =>
      simp only [List.map_cons, List.cons.injEq, Prod.mk.injEq] at hsession hchannel hqos hpayload
      have hrow : channel = channel' := by
        cases channel
        cases channel'
        simp_all
      rw [hrow, ih hsession.2 hchannel.2 hqos.2 hpayload.2]

def u8 : Reader UInt8 ℕ := do
  let field ← Reader.take 1
  return BigEndian.decode field

theorem u8_reads {v : ℕ} (h : v < 256) : u8.run [UInt8.ofNat v] = some (v, []) := by
  have hone : [UInt8.ofNat v].length = 1 := rfl
  refine (Reader.run_bind (Reader.take_reads hone)).trans ?_
  rw [Reader.run_pure, BigEndian.decode, List.foldl_cons, List.foldl_nil, toNat_ofNat h,
    Nat.zero_mul, Nat.zero_add]

def qosReader : Reader UInt8 (ℕ × ℕ × ℕ) := do
  let trafficClass ← u8
  let dataRate ← u8
  let priorityClass ← u8
  return (trafficClass, dataRate, priorityClass)

/-- Acceptor id, initiator id, profile id and channels. -/
def scReader : Reader UInt8 (ℕ × ℕ × PyStr × Columns) := do
  let _ ← u8
  let acceptorId ← u16
  let initiatorId ← u16
  let profileId ← Reader.upTo FIELD_SEPARATOR
  let n ← u16
  let sessionIds ← u16.times n
  let channelIds ← u16.times n
  let qos ← qosReader.times n
  let payloadTypes ← u8.times n
  return (acceptorId, initiatorId, decodeReplace profileId,
    ⟨sessionIds, channelIds, qos, payloadTypes⟩)

/-- The terminator is one byte, and no other character's encoding contains it. -/
theorem separator_notMem_utf8 {text : String} (h : ';' ∉ text.toList) :
    FIELD_SEPARATOR ∉ utf8 text := by
  rw [utf8_eq, List.mem_flatMap]
  rintro ⟨c, hc, hsep⟩
  have hscalar : c.toNat < 0xD800 ∨ 0xDFFF < c.toNat ∧ c.toNat < 0x110000 := c.valid
  have hv : c.val.toNat = c.toNat := rfl
  have hbyte {b : ℕ} (hb : b < 256) : FIELD_SEPARATOR = UInt8.ofNat b ↔ b = 0x3B := by
    rw [← UInt8.toNat_inj, toNat_ofNat hb, eq_comm]
    rfl
  -- a character of more than one byte has none below 0x80
  have hchar : c.toNat = 0x3B := by
    unfold String.utf8EncodeChar at hsep
    simp only [hv] at hsep
    generalize c.toNat = v at hscalar hsep ⊢
    split_ifs at hsep with h₁ h₂ h₃
    · rw [List.mem_singleton, hbyte (by omega)] at hsep
      exact hsep
    · simp only [List.mem_cons, List.not_mem_nil, or_false] at hsep
      rw [hbyte (by omega), hbyte (by omega)] at hsep
      omega
    · simp only [List.mem_cons, List.not_mem_nil, or_false] at hsep
      rw [hbyte (by omega), hbyte (by omega), hbyte (by omega)] at hsep
      omega
    · simp only [List.mem_cons, List.not_mem_nil, or_false] at hsep
      rw [hbyte (by omega), hbyte (by omega), hbyte (by omega), hbyte (by omega)] at hsep
      omega
  have hsemi : c = ';' := Char.toNat_inj.mp hchar
  exact h (hsemi ▸ hc)

def qosBytes (channel : Channel) : Bytes :=
  [UInt8.ofNat channel.qosTrafficClass] ++ ([UInt8.ofNat channel.qosDataRate] ++
    [UInt8.ofNat channel.qosPriorityClass])

/-- The bytes of the request when every argument fits. -/
def scRequest (profileId : String) (channels : List Channel) (initiatorId acceptorId : ℕ) : Bytes :=
  [MSG_SERVICE_CONNECTION_REQUEST] ++ (BigEndian.encode 2 acceptorId ++
    (BigEndian.encode 2 initiatorId ++ (terminated profileId ++
      (BigEndian.encode 2 channels.length ++
        (channels.flatMap (fun channel => BigEndian.encode 2 channel.sessionId) ++
          (channels.flatMap (fun channel => BigEndian.encode 2 channel.channelId) ++
            (channels.flatMap qosBytes ++
              channels.flatMap (fun channel => [UInt8.ofNat channel.payloadType]))))))))

section
variable {profileId : String} {channels : List Channel} {initiatorId acceptorId : ℕ}
  (h : ScRanges profileId channels initiatorId acceptorId)
include h

theorem makeServiceConnectionRequest_ok :
    makeServiceConnectionRequest profileId channels initiatorId acceptorId =
      .ok (scRequest profileId channels initiatorId acceptorId) := by
  have hlength : channels.length < 2^16 := Nat.lt_succ_of_le h.channels_length
  have happended {v : ℕ} (hv : v < 256) : appended v = .ok [UInt8.ofNat v] := if_pos hv
  -- every field is in range, so each column packs
  have hmap {field : Channel → Except PyErr Bytes} {bytes : Channel → Bytes}
      (hfield : ∀ channel ∈ channels, field channel = .ok (bytes channel)) :
      channels.map field = (channels.map bytes).map Except.ok := by
    rw [List.map_map]
    exact List.map_congr_left hfield
  have hsession := hmap fun channel hc => be16_ok (h.channels_inRange channel hc).sessionId_lt
  have hchannel := hmap fun channel hc => be16_ok (h.channels_inRange channel hc).channelId_lt
  have hpayload := hmap fun channel hc => happended (h.channels_inRange channel hc).payloadType_lt
  -- the three bytes of a channel stand together in one column
  have hqos : channels.flatMap (fun channel => [appended channel.qosTrafficClass,
      appended channel.qosDataRate, appended channel.qosPriorityClass]) =
      (channels.flatMap fun channel => [[UInt8.ofNat channel.qosTrafficClass],
        [UInt8.ofNat channel.qosDataRate], [UInt8.ofNat channel.qosPriorityClass]]).map
        Except.ok := by
    rw [List.map_flatMap]
    apply List.flatMap_congr
    intro channel hc
    have hrange := h.channels_inRange channel hc
    rw [happended hrange.qosTrafficClass_lt, happended hrange.qosDataRate_lt,
      happended hrange.qosPriorityClass_lt]
    rfl
  have hhead : [.ok [MSG_SERVICE_CONNECTION_REQUEST], be16 acceptorId, be16 initiatorId,
      .ok (terminated profileId), be16 channels.length] =
      ([[MSG_SERVICE_CONNECTION_REQUEST], BigEndian.encode 2 acceptorId,
        BigEndian.encode 2 initiatorId, terminated profileId,
        BigEndian.encode 2 channels.length]).map Except.ok := by
    rw [be16_ok h.acceptorId_lt, be16_ok h.initiatorId_lt, be16_ok hlength]
    rfl
  have hcolumns : (channels.flatMap fun channel => [[UInt8.ofNat channel.qosTrafficClass],
      [UInt8.ofNat channel.qosDataRate], [UInt8.ofNat channel.qosPriorityClass]]).flatten =
      channels.flatMap qosBytes := by
    rw [List.flatMap_def, List.flatten_flatten, List.map_map]
    rfl
  rw [makeServiceConnectionRequest, hhead, hsession, hchannel, hqos, hpayload, ← List.map_append,
    ← List.map_append, ← List.map_append, ← List.map_append, frameOfParts_ok]
  simp only [List.flatten_append, hcolumns, List.flatten_cons, List.flatten_nil, List.append_nil,
    ← List.flatMap_def, List.append_assoc, scRequest]

theorem scReader_reads :
    scReader.run (scRequest profileId channels initiatorId acceptorId) =
      some ((acceptorId, initiatorId, pyStr profileId, columns channels), []) := by
  have hkind : u8.run [MSG_SERVICE_CONNECTION_REQUEST] = some (1, []) := u8_reads (by decide)
  have hqos : ∀ channel ∈ channels, qosReader.run (qosBytes channel) =
      some ((channel.qosTrafficClass, channel.qosDataRate, channel.qosPriorityClass), []) := by
    intro channel hchannel
    have hrange := h.channels_inRange channel hchannel
    refine Reader.bind_reads (u8_reads hrange.qosTrafficClass_lt) ?_
    refine Reader.bind_reads (u8_reads hrange.qosDataRate_lt) ?_
    exact (Reader.run_bind (u8_reads hrange.qosPriorityClass_lt)).trans (Reader.run_pure _ _)
  -- the fields in the order in which the request has them
  refine Reader.bind_reads hkind ?_
  refine Reader.bind_reads (u16_reads h.acceptorId_lt) ?_
  refine Reader.bind_reads (u16_reads h.initiatorId_lt) ?_
  refine Reader.bind_reads (Reader.upTo_reads (separator_notMem_utf8 h.profileId_free)) ?_
  refine Reader.bind_reads (u16_reads (Nat.lt_succ_of_le h.channels_length)) ?_
  refine Reader.bind_reads (Reader.times_reads fun channel hchannel =>
    u16_reads (h.channels_inRange channel hchannel).sessionId_lt) ?_
  refine Reader.bind_reads (Reader.times_reads fun channel hchannel =>
    u16_reads (h.channels_inRange channel hchannel).channelId_lt) ?_
  refine Reader.bind_reads (Reader.times_reads hqos) ?_
  refine (Reader.run_bind (Reader.times_reads fun channel hchannel =>
    u8_reads (h.channels_inRange channel hchannel).payloadType_lt)).trans ?_
  rw [Reader.run_pure, decodeReplace_utf8]
  rfl

end

/-- No two requests have the same encoding, and none is a proper prefix of another: what follows
them is the same as well. -/
theorem service_connection_request_unambiguous {profileId profileId' : String}
    {channels channels' : List Channel} {initiatorId initiatorId' acceptorId acceptorId' : ℕ}
    (h : ScRanges profileId channels initiatorId acceptorId)
    (h' : ScRanges profileId' channels' initiatorId' acceptorId') :
    ∃ request request',
      makeServiceConnectionRequest profileId channels initiatorId acceptorId = .ok request ∧
      makeServiceConnectionRequest profileId' channels' initiatorId' acceptorId' = .ok request' ∧
      ∀ x y, request ++ x = request' ++ y →
        profileId = profileId' ∧ channels = channels' ∧ initiatorId = initiatorId' ∧
          acceptorId = acceptorId' ∧ x = y := by
  refine ⟨_, _, makeServiceConnectionRequest_ok h, makeServiceConnectionRequest_ok h', ?_⟩
  intro x y heq
  obtain ⟨hvalue, hrest⟩ := Reader.reads_unique (scReader_reads h) (scReader_reads h') heq
  simp only [Prod.mk.injEq] at hvalue
  obtain ⟨hacceptor, hinitiator, hprofile, hcolumns⟩ := hvalue
  exact ⟨pyStr_inj.mp hprofile, columns_injective hcolumns, hinitiator, hacceptor, hrest⟩

/-- Two channels whose channel ids are exchanged. -/
theorem service_connection_request_unambiguous_swapped :
    ∃ request request',
      makeServiceConnectionRequest "/p" [⟨1, 204, 0, 1, 2, 3⟩, ⟨2, 205, 0, 1, 2, 3⟩] 0 5 =
        .ok request ∧
      makeServiceConnectionRequest "/p" [⟨1, 205, 0, 1, 2, 3⟩, ⟨2, 204, 0, 1, 2, 3⟩] 0 5 =
        .ok request' ∧
      ∀ x y, request ++ x ≠ request' ++ y := by
  have hranges (c d : ℕ) (hc : c < 2^16) (hd : d < 2^16) :
      ScRanges "/p" [⟨1, c, 0, 1, 2, 3⟩, ⟨2, d, 0, 1, 2, 3⟩] 0 5 := by
    refine ⟨by decide, by simp, ?_, by decide, by decide⟩
    simp only [List.mem_cons, List.not_mem_nil, or_false]
    rintro channel (rfl | rfl)
    · exact ⟨by norm_num, hc, by norm_num, by norm_num, by norm_num, by norm_num⟩
    · exact ⟨by norm_num, hd, by norm_num, by norm_num, by norm_num, by norm_num⟩
  obtain ⟨request, request', h, h', hunique⟩ := service_connection_request_unambiguous
    (hranges 204 205 (by decide) (by decide)) (hranges 205 204 (by decide) (by decide))
  refine ⟨request, request', h, h', fun x y heq => ?_⟩
  exact absurd (hunique x y heq).2.1 (by decide)

end Gear360
