import Gear360.PrefixDecoder
import Gear360.Utf8
import Gear360.SapMessages

namespace Gear360

open PrefixDecoder

/-- A 16-bit field. -/
def u16 : Reader UInt8 ℕ := do
  let field ← Reader.take 2
  return BigEndian.decode field

def agentReader (uuid : ℕ) (friendlyName : PyStr) : Reader UInt8 CapexService := do
  let componentId ← u16
  let profileId ← Reader.upTo FIELD_SEPARATOR
  let fields ← Reader.take 5
  return {
    uuid := uuid
    friendlyName := friendlyName
    componentId := componentId
    profileId := decodeReplace profileId
    aspVersion := BigEndian.decode (slice fields 0 2)
    role := (fields.getD 2 0).toNat
    connTimeout := BigEndian.decode (slice fields 3 5) }

/-- Uuid, name and number of agents of a record. -/
def recordHead : Reader UInt8 (ℕ × PyStr × ℕ) := do
  let uuid ← u16
  let friendlyName ← Reader.upTo FIELD_SEPARATOR
  let nAgents ← u16
  return (uuid, decodeReplace friendlyName, nAgents)

def agentsDecoder (uuid : ℕ) (friendlyName : PyStr) : ℕ → Decoder UInt8 CapexService :=
  (Decoder.emit (agentReader uuid friendlyName)).times

def recordDecoder : Decoder UInt8 CapexService :=
  .read recordHead fun head => agentsDecoder head.1 head.2.1 head.2.2

/-- The number of records. -/
def capexHead : Reader UInt8 ℕ := do
  let kind ← Reader.take 1
  Reader.guard (kind = [MSG_CAPEX_RESPONSE])
  let queryType ← Reader.take 1
  let _ ← Reader.take (if queryType = [2] ∨ queryType = [3] then 4 else 0)
  u16

def capexDecoder : Decoder UInt8 CapexService := .read capexHead recordDecoder.times

section
variable {msg : Bytes} {offset : ℕ}

theorem take_drop_eq {n : ℕ} (h : offset+n ≤ msg.length) :
    (Reader.take n).run (msg.drop offset) =
      some (slice msg offset (offset+n), msg.drop (offset+n)) := by
  have hlen : n ≤ (msg.drop offset).length := by rw [List.length_drop]; omega
  rw [slice, ← List.take_drop, ← List.drop_drop]
  exact Reader.run_take hlen

theorem u16_drop (h : offset+2 ≤ msg.length) : u16.run (msg.drop offset) =
    some (BigEndian.decode (slice msg offset (offset+2)), msg.drop (offset+2)) :=
  Reader.run_bind (take_drop_eq h)

theorem u16_short {input : Bytes} (h : input.length < 2) : u16.run input = none :=
  Reader.run_bind_none (Reader.run_take_none h)

theorem upTo_some {sepEnd : ℕ} (h : findByte msg FIELD_SEPARATOR offset = some sepEnd) :
    (Reader.upTo FIELD_SEPARATOR).run (msg.drop offset) =
      some (slice msg offset sepEnd, msg.drop (sepEnd+1)) := by
  obtain ⟨i, hi, rfl⟩ := Option.map_eq_some_iff.mp h
  change ((msg.drop offset).findIdx? _).map _ = _
  rw [hi, Option.map_some, slice, List.drop_drop, List.take_drop, Nat.add_comm i offset,
    Nat.add_assoc]

theorem upTo_none (h : findByte msg FIELD_SEPARATOR offset = none) :
    (Reader.upTo FIELD_SEPARATOR).run (msg.drop offset) = none := by
  change ((msg.drop offset).findIdx? _).map _ = _
  rw [Option.map_eq_none_iff.mp h, Option.map_none]

theorem slice_slice {n i j : ℕ} (h : j ≤ n) :
    slice (slice msg offset (offset+n)) i j = slice msg (offset+i) (offset+j) := by
  simp only [slice]
  rw [List.take_drop, List.take_take, List.drop_drop, Nat.min_eq_left (by omega)]

end

/-- The fields of an agent as the source cuts them out of the message. -/
theorem agentReader_drop (uuid : ℕ) (friendlyName : PyStr) {profileEnd : ℕ}
    (hid : offset+2 ≤ msg.length)
    (hprofile : findByte msg FIELD_SEPARATOR (offset+2) = some profileEnd)
    (hfields : profileEnd+1+5 ≤ msg.length) :
    (agentReader uuid friendlyName).run (msg.drop offset) = some (
      { uuid := uuid
        friendlyName := friendlyName
        componentId := BigEndian.decode (slice msg offset (offset+2))
        profileId := decodeReplace (slice msg (offset+2) profileEnd)
        aspVersion := BigEndian.decode (slice msg (profileEnd+1) (profileEnd+1+2))
        role := (msg.getD (profileEnd+1+2) 0).toNat
        connTimeout := BigEndian.decode (slice msg (profileEnd+1+3) (profileEnd+1+5)) },
      msg.drop (profileEnd+1+5)) := by
  have hrole : (slice msg (profileEnd+1) (profileEnd+1+5)).getD 2 0 =
      msg.getD (profileEnd+1+2) 0 := by
    simp only [slice, List.getD_eq_getElem?_getD, List.getElem?_drop]
    rw [List.getElem?_take_of_lt (by omega)]
  refine (Reader.run_bind (u16_drop hid)).trans ((Reader.run_bind (upTo_some hprofile)).trans
    ((Reader.run_bind (take_drop_eq hfields)).trans ?_))
  rw [Reader.run_pure, slice_slice (by omega), slice_slice (by omega), hrole]

theorem recordHead_drop {nameEnd : ℕ} (huuid : offset+2 ≤ msg.length)
    (hname : findByte msg FIELD_SEPARATOR (offset+2) = some nameEnd)
    (hcount : nameEnd+1+2 ≤ msg.length) :
    recordHead.run (msg.drop offset) = some (
      (BigEndian.decode (slice msg offset (offset+2)),
        decodeReplace (slice msg (offset+2) nameEnd),
        BigEndian.decode (slice msg (nameEnd+1) (nameEnd+1+2))),
      msg.drop (nameEnd+1+2)) :=
  (Reader.run_bind (u16_drop huuid)).trans ((Reader.run_bind (upTo_some hname)).trans
    (Reader.run_bind (u16_drop hcount)))

/-- Without a separator there is no further record. -/
theorem recordHead_noSeparator {input : Bytes}
    (h : (Reader.upTo FIELD_SEPARATOR).run input = none) : recordHead.run input = none := by
  by_cases hlen : 2 ≤ input.length
  · have hfirst : u16.run input = some (BigEndian.decode (input.take 2), input.drop 2) :=
      Reader.run_bind (Reader.run_take hlen)
    have hno : (input.drop 2).findIdx? (· = FIELD_SEPARATOR) = none := by
      have hall := List.findIdx?_eq_none_iff.mp (Option.map_eq_none_iff.mp h)
      exact List.findIdx?_eq_none_iff.mpr fun x hx => hall x (List.mem_of_mem_drop hx)
    refine (Reader.run_bind hfirst).trans (Reader.run_bind_none ?_)
    change ((input.drop 2).findIdx? _).map _ = _
    rw [hno, Option.map_none]
  · exact Reader.run_bind_none (u16_short (by omega))

/-- A record has two bytes, a separator and two bytes at least. -/
theorem recordHead_short {input : Bytes} (h : input.length < 5) : recordHead.run input = none := by
  by_cases hlen : 2 ≤ input.length
  · have hfirst : u16.run input = some (BigEndian.decode (input.take 2), input.drop 2) :=
      Reader.run_bind (Reader.run_take hlen)
    refine (Reader.run_bind hfirst).trans ?_
    match hname : (Reader.upTo FIELD_SEPARATOR).run (input.drop 2) with
    | none => exact Reader.run_bind_none hname
    | some (name, rest) =>
      -- the separator leaves at most one byte
      have hrest : rest.length < 2 := by
        obtain ⟨i, -, hfound⟩ := Option.map_eq_some_iff.mp hname
        obtain ⟨-, rfl⟩ := Prod.mk.inj hfound
        simp only [List.length_drop]
        omega
      exact (Reader.run_bind hname).trans (Reader.run_bind_none (u16_short hrest))
  · exact Reader.run_bind_none (u16_short (by omega))

/-- The agent loop leaves the offset where its decoder stands, or, if it broke off, where no
further record can be read. -/
def Stands (rest : Option Bytes) (left : Bytes) : Prop :=
  rest = some left ∨ rest = none ∧ recordHead.run left = none

theorem parseAgents_eq (msg : Bytes) (uuid : ℕ) (friendlyName : PyStr) (nAgents offset : ℕ)
    (services : List CapexService) : ∃ offset',
      parseAgents msg uuid friendlyName nAgents offset services = .ok (offset',
        services ++ ((agentsDecoder uuid friendlyName nAgents).run (msg.drop offset)).1) ∧
      Stands ((agentsDecoder uuid friendlyName nAgents).run (msg.drop offset)).2
        (msg.drop offset') := by
  induction nAgents generalizing offset services with
  | zero =>
    refine ⟨offset, ?_, .inl rfl⟩
    rw [parseAgents]
    exact congrArg (fun out => Except.ok (offset, out)) (List.append_nil services).symm
  | succ nAgents ih =>
    -- a reader that fails stops the decoder without output
    have hstopped (hagent : (agentReader uuid friendlyName).run (msg.drop offset) = none) :
        (agentsDecoder uuid friendlyName (nAgents+1)).run (msg.drop offset) = ([], none) :=
      Decoder.run_times_stopped nAgents (Decoder.run_emit_none hagent)
    unfold parseAgents
    by_cases hid : msg.length < offset+2
    · have hlen : (msg.drop offset).length < 2 := by rw [List.length_drop]; omega
      rw [hstopped (Reader.run_bind_none (u16_short hlen)), if_pos hid, List.append_nil]
      exact ⟨offset, rfl, .inr ⟨rfl, recordHead_short (by omega)⟩⟩
    have hcomponent := u16_drop (not_lt.mp hid)
    rw [if_neg hid, unpackH_slice (not_lt.mp hid)]
    simp only [bind, Except.bind]
    cases hprofile : findByte msg FIELD_SEPARATOR (offset+2) with
    | none =>
      have hno := upTo_none hprofile
      rw [hstopped ((Reader.run_bind hcomponent).trans (Reader.run_bind_none hno)),
        List.append_nil]
      exact ⟨offset+2, rfl, .inr ⟨rfl, recordHead_noSeparator hno⟩⟩
    | some profileEnd =>
      have hsep := upTo_some hprofile
      dsimp only
      by_cases htail : msg.length < profileEnd+1+5
      · have hlen : (msg.drop (profileEnd+1)).length < 5 := by rw [List.length_drop]; omega
        rw [hstopped ((Reader.run_bind hcomponent).trans ((Reader.run_bind hsep).trans
          (Reader.run_bind_none (Reader.run_take_none hlen)))), if_pos htail, List.append_nil]
        exact ⟨profileEnd+1, rfl, .inr ⟨rfl, recordHead_short hlen⟩⟩
      · have hfields := not_lt.mp htail
        have hrole : byteAt msg (profileEnd+1+2) = .ok (msg.getD (profileEnd+1+2) 0).toNat := by
          rw [byteAt, List.getD_eq_getElem?_getD, List.getElem?_eq_getElem (by omega)]
          rfl
        have hrun := Decoder.run_times_succ nAgents (Decoder.run_emit
          (agentReader_drop uuid friendlyName (not_lt.mp hid) hprofile hfields))
        rw [if_neg htail, unpackH_slice (by omega), hrole,
          unpackH_slice (show profileEnd+1+3+2 ≤ msg.length by omega)]
        obtain ⟨offset', hloop, hstands⟩ := ih (profileEnd+1+5) (services ++ [_])
        refine ⟨offset', ?_, ?_⟩
        · exact hloop.trans (by rw [agentsDecoder, hrun, List.append_assoc])
        · rw [agentsDecoder, hrun]
          exact hstands

/-- One turn of the record loop. -/
theorem parseRecords_succ (msg : Bytes) (nRecords offset : ℕ) (services : List CapexService) :
    recordHead.run (msg.drop offset) = none ∧
        parseRecords msg (nRecords+1) offset services = .ok services ∨
      ∃ uuid friendlyName nAgents offset', recordHead.run (msg.drop offset) =
          some ((uuid, friendlyName, nAgents), msg.drop offset') ∧
        parseRecords msg (nRecords+1) offset services = (do
          let (offset, services) ← parseAgents msg uuid friendlyName nAgents offset' services
          parseRecords msg nRecords offset services) := by
  rw [parseRecords]
  -- the early exits in the order of the source, each where the reader stops too
  by_cases huuid : msg.length < offset+2
  · have hlen : (msg.drop offset).length < 2 := by rw [List.length_drop]; omega
    exact .inl ⟨Reader.run_bind_none (u16_short hlen), if_pos huuid⟩
  have hfirst := u16_drop (not_lt.mp huuid)
  rw [if_neg huuid, unpackH_slice (not_lt.mp huuid)]
  simp only [bind, Except.bind]
  cases hname : findByte msg FIELD_SEPARATOR (offset+2) with
  | none =>
    exact .inl ⟨(Reader.run_bind hfirst).trans (Reader.run_bind_none (upTo_none hname)), rfl⟩
  | some nameEnd =>
    dsimp only
    by_cases hcount : msg.length < nameEnd+1+2
    · have hlen : (msg.drop (nameEnd+1)).length < 2 := by rw [List.length_drop]; omega
      rw [if_pos hcount]
      exact .inl ⟨(Reader.run_bind hfirst).trans ((Reader.run_bind (upTo_some hname)).trans
        (Reader.run_bind_none (u16_short hlen))), rfl⟩
    · rw [if_neg hcount, unpackH_slice (not_lt.mp hcount)]
      exact .inr ⟨_, _, _, _, recordHead_drop (not_lt.mp huuid) hname (not_lt.mp hcount), rfl⟩

/-- Where no record can be read nothing more is added. -/
theorem parseRecords_none {msg : Bytes} {offset : ℕ}
    (h : recordHead.run (msg.drop offset) = none) (nRecords : ℕ) (services : List CapexService) :
    parseRecords msg nRecords offset services = .ok services := by
  cases nRecords with
  | zero => rfl
  | succ nRecords =>
    rcases parseRecords_succ msg nRecords offset services with ⟨-, hstop⟩ | ⟨_, _, _, _, hhead, -⟩
    · exact hstop
    · rw [h] at hhead
      cases hhead

theorem parseRecords_eq (msg : Bytes) (nRecords offset : ℕ) (services : List CapexService) :
    parseRecords msg nRecords offset services =
      .ok (services ++ ((recordDecoder.times nRecords).run (msg.drop offset)).1) := by
  induction nRecords generalizing offset services with
  | zero => exact congrArg Except.ok (List.append_nil services).symm
  | succ nRecords ih =>
    rcases parseRecords_succ msg nRecords offset services with
      ⟨hhead, hstop⟩ | ⟨uuid, friendlyName, nAgents, offset', hhead, hturn⟩
    · have hrecord : recordDecoder.run (msg.drop offset) = ([], none) :=
        Decoder.run_read_none hhead
      rw [hstop, Decoder.run_times_stopped nRecords hrecord, List.append_nil]
    have hrecord : recordDecoder.run (msg.drop offset) =
        (agentsDecoder uuid friendlyName nAgents).run (msg.drop offset') := Decoder.run_read hhead
    obtain ⟨offset'', hagents, hstands⟩ :=
      parseAgents_eq msg uuid friendlyName nAgents offset' services
    rw [hturn, hagents]
    simp only [bind, Except.bind]
    rcases hstands with hrest | ⟨hrest, hnone⟩
    -- all agents were there: the next record follows
    · rw [Decoder.run_times_succ nRecords (hrecord.trans (Prod.ext rfl hrest)), ih,
        List.append_assoc]
    -- the agents broke off: the remaining turns of the outer loop read nothing
    · rw [Decoder.run_times_stopped nRecords (hrecord.trans (Prod.ext rfl hrest)),
        parseRecords_none hnone]

theorem take_one (first : UInt8) (rest : Bytes) :
    (Reader.take 1).run (first :: rest) = some ([first], rest) :=
  Reader.run_take (Nat.le_add_left 1 rest.length)

/-- A message of another kind has no records, and neither has one without a query type. -/
theorem capexHead_none {kind : UInt8} {rest : Bytes} (h : kind ≠ MSG_CAPEX_RESPONSE ∨ rest = []) :
    capexHead.run (kind :: rest) = none := by
  refine (Reader.run_bind (take_one kind rest)).trans ?_
  by_cases hkind : [kind] = [MSG_CAPEX_RESPONSE]
  · have hrest : rest = [] := h.resolve_left (not_not.mpr (List.singleton_inj.mp hkind))
    rw [hrest]
    exact (Reader.run_bind (Reader.run_guard hkind [])).trans (Reader.run_bind_none rfl)
  · exact Reader.run_bind_none (Reader.run_guard_none hkind rest)

/-- The length of the checksum. -/
def checksumLength (queryType : UInt8) : ℕ := if queryType = 2 ∨ queryType = 3 then 4 else 0

theorem capexHead_response (queryType : UInt8) (rest : Bytes) :
    capexHead.run (MSG_CAPEX_RESPONSE :: queryType :: rest) =
      (Reader.take (checksumLength queryType) >>= fun _ => u16).run rest := by
  have hsum : (if [queryType] = [2] ∨ [queryType] = [3] then 4 else 0) =
      checksumLength queryType := by
    simp only [List.cons.injEq, and_true, checksumLength]
  refine (Reader.run_bind (take_one _ _)).trans ?_
  refine (Reader.run_bind (Reader.run_guard rfl _)).trans ?_
  refine (Reader.run_bind (take_one queryType rest)).trans ?_
  rw [hsum]

theorem parseRecords_head {msg : Bytes} {n : ℕ}
    (h : capexHead.run msg = (Reader.take n >>= fun _ => u16).run (msg.drop 2)) :
    (if msg.length < 2+n+2 then .ok [] else do
      let nRecords ← unpackH (slice msg (2+n) (2+n+2))
      parseRecords msg nRecords (2+n+2) []) = .ok (capexDecoder.run msg).1 := by
  by_cases hcount : msg.length < 2+n+2
  · have hnone : capexHead.run msg = none := by
      rw [h]
      by_cases hsum : n ≤ (msg.drop 2).length
      · have hlen : ((msg.drop 2).drop n).length < 2 := by simp only [List.length_drop]; omega
        exact (Reader.run_bind (Reader.run_take hsum)).trans (u16_short hlen)
      · exact Reader.run_bind_none (Reader.run_take_none (not_le.mp hsum))
    rw [if_pos hcount, capexDecoder, Decoder.run_read_none hnone]
  · have hsum : 2+n ≤ msg.length := by omega
    have hcount := not_lt.mp hcount
    have hhead := h.trans ((Reader.run_bind (take_drop_eq hsum)).trans (u16_drop hcount))
    rw [if_neg (not_lt.mpr hcount), unpackH_slice hcount, capexDecoder, Decoder.run_read hhead]
    exact parseRecords_eq msg _ _ []

/-- `parse_capex_response` never raises, and returns what the decoder puts out. -/
theorem parseCapexResponse_eq (msg : Bytes) :
    parseCapexResponse msg = .ok (capexDecoder.run msg).1 := by
  match msg with
  | [] => rfl
  | [kind] =>
    rw [capexDecoder, Decoder.run_read_none (capexHead_none (.inr rfl))]
    rfl
  | kind :: queryType :: rest =>
    unfold parseCapexResponse
    -- two bytes are there; another type has no records
    by_cases hkind : kind ≠ MSG_CAPEX_RESPONSE
    · rw [capexDecoder, Decoder.run_read_none (capexHead_none (.inl hkind))]
      exact if_pos hkind
    rw [not_not.mp hkind]
    have hoffset : (if queryType = 2 ∨ queryType = 3 then 6 else 2) =
        2+checksumLength queryType := by
      unfold checksumLength
      split_ifs <;> rfl
    dsimp only
    rw [if_neg (by simp), hoffset]
    exact parseRecords_head (capexHead_response queryType rest)

/-- The parser returns on every byte string, and a cut message gives a front part of the services
of the whole one. -/
theorem parse_capex_truncation_safe (m : Bytes) : ∃ services, parseCapexResponse m = .ok services ∧
    ∀ p : Bytes, p <+: m → ∃ front, parseCapexResponse p = .ok front ∧ front <+: services := by
  refine ⟨_, parseCapexResponse_eq m, ?_⟩
  intro p hp
  exact ⟨_, parseCapexResponse_eq p, capexDecoder.run_prefix hp⟩

/-- A service agent of a record. Its profile id is any byte string without the separator. -/
structure AgentEntry where
  componentId : ℕ
  profileId : Bytes
  aspVersion : ℕ
  role : UInt8
  connTimeout : ℕ
  componentId_lt : componentId < 2^16
  profileId_free : FIELD_SEPARATOR ∉ profileId
  aspVersion_lt : aspVersion < 2^16
  connTimeout_lt : connTimeout < 2^16

/-- A record: one endpoint and its service agents. -/
structure RecordEntry where
  uuid : ℕ
  friendlyName : Bytes
  agents : List AgentEntry
  uuid_lt : uuid < 2^16
  friendlyName_free : FIELD_SEPARATOR ∉ friendlyName
  agents_length : agents.length < 2^16

structure CapexMessage where
  queryType : UInt8
  checksum : ℕ
  records : List RecordEntry
  checksum_lt : checksum < 2^32
  records_length : records.length < 2^16

/-- The fields of an agent in the order of `make_capex_response`. -/
def AgentEntry.layout (agent : AgentEntry) : Bytes :=
  BigEndian.encode 2 agent.componentId ++ ((agent.profileId ++ [FIELD_SEPARATOR]) ++
    (BigEndian.encode 2 agent.aspVersion ++ ([agent.role] ++
      BigEndian.encode 2 agent.connTimeout)))

def RecordEntry.layout (record : RecordEntry) : Bytes :=
  BigEndian.encode 2 record.uuid ++ ((record.friendlyName ++ [FIELD_SEPARATOR]) ++
    BigEndian.encode 2 record.agents.length) ++ record.agents.flatMap AgentEntry.layout

/-- Only query types 2 and 3 carry the checksum. -/
def CapexMessage.layout (message : CapexMessage) : Bytes :=
  [MSG_CAPEX_RESPONSE] ++ ([message.queryType] ++
    ((if message.queryType = 2 ∨ message.queryType = 3 then BigEndian.encode 4 message.checksum
      else []) ++ BigEndian.encode 2 message.records.length)) ++
  message.records.flatMap RecordEntry.layout

def AgentEntry.service (uuid : ℕ) (friendlyName : PyStr) (agent : AgentEntry) : CapexService where
  uuid := uuid
  friendlyName := friendlyName
  componentId := agent.componentId
  profileId := decodeReplace agent.profileId
  aspVersion := agent.aspVersion
  role := agent.role.toNat
  connTimeout := agent.connTimeout

/-- The agents of a record, each with the record's uuid and name. -/
def RecordEntry.services (record : RecordEntry) : List CapexService :=
  record.agents.map (AgentEntry.service record.uuid (decodeReplace record.friendlyName))

def CapexMessage.services (message : CapexMessage) : List CapexService :=
  message.records.flatMap RecordEntry.services

theorem u16_reads {v : ℕ} (h : v < 2^16) : u16.run (BigEndian.encode 2 v) = some (v, []) := by
  refine (Reader.run_bind (Reader.take_reads (BigEndian.encode_length 2 v))).trans ?_
  rw [Reader.run_pure, BigEndian.decode_encode (by simpa using h)]

theorem AgentEntry.reads (uuid : ℕ) (friendlyName : PyStr) (agent : AgentEntry) :
    (agentReader uuid friendlyName).run agent.layout =
      some (agent.service uuid friendlyName, []) := by
  let version := BigEndian.encode 2 agent.aspVersion
  let timeout := BigEndian.encode 2 agent.connTimeout
  have hversion : slice (version ++ ([agent.role] ++ timeout)) 0 2 = version :=
    slice_append [] version _ rfl (by simp [version])
  have htimeout : slice (version ++ ([agent.role] ++ timeout)) 3 5 = timeout := by
    have h := slice_append (version ++ [agent.role]) timeout [] (i := 3) (j := 5)
      (by simp [version]) (by simp [timeout])
    rwa [List.append_nil, List.append_assoc] at h
  have hrole : (version ++ ([agent.role] ++ timeout)).getD 2 0 = agent.role := rfl
  refine Reader.bind_reads (u16_reads agent.componentId_lt) ?_
  refine Reader.bind_reads (Reader.upTo_reads agent.profileId_free) ?_
  refine (Reader.run_bind (Reader.take_reads (by simp))).trans ?_
  rw [Reader.run_pure, hversion, htimeout, hrole, BigEndian.decode_encode agent.aspVersion_lt,
    BigEndian.decode_encode agent.connTimeout_lt]
  rfl

theorem RecordEntry.reads (record : RecordEntry) :
    recordDecoder.run record.layout = (record.services, some []) := by
  have hhead : recordHead.run (BigEndian.encode 2 record.uuid ++
      ((record.friendlyName ++ [FIELD_SEPARATOR]) ++ BigEndian.encode 2 record.agents.length)) =
      some ((record.uuid, decodeReplace record.friendlyName, record.agents.length), []) := by
    refine Reader.bind_reads (u16_reads record.uuid_lt) ?_
    refine Reader.bind_reads (Reader.upTo_reads record.friendlyName_free) ?_
    exact (Reader.run_bind (u16_reads record.agents_length)).trans (Reader.run_pure _ _)
  refine Decoder.read_reads hhead ?_
  have hagents := Decoder.times_reads fun agent (_ : agent ∈ record.agents) =>
    Decoder.run_emit (agent.reads record.uuid (decodeReplace record.friendlyName))
  rw [RecordEntry.services, List.map_eq_flatMap]
  exact hagents

theorem CapexMessage.reads (message : CapexMessage) :
    capexDecoder.run message.layout = (message.services, some []) := by
  have hhead : capexHead.run ([MSG_CAPEX_RESPONSE] ++ ([message.queryType] ++
      ((if message.queryType = 2 ∨ message.queryType = 3 then BigEndian.encode 4 message.checksum
        else []) ++ BigEndian.encode 2 message.records.length))) =
      some (message.records.length, []) := by
    rw [List.singleton_append, List.singleton_append, capexHead_response]
    refine Reader.bind_reads (Reader.take_reads ?_) (u16_reads message.records_length)
    unfold checksumLength
    split_ifs
    · exact BigEndian.encode_length 4 message.checksum
    · rfl
  refine Decoder.read_reads hhead ?_
  exact Decoder.times_reads fun record _ => record.reads

/-- What our own response lays out: one record with one agent. -/
def ourCapexMessage (queryType : UInt8) (checksum : ℕ) (h : checksum < 2^32) : CapexMessage where
  queryType := queryType
  checksum := checksum
  records := [{
    uuid := 0
    friendlyName := utf8 SERVER_FRIENDLY_NAME
    agents := [{
      componentId := 0
      profileId := utf8 DEVICE_PROFILE
      aspVersion := ASP_VERSION
      role := UInt8.ofNat ROLE_PROVIDER
      connTimeout := 10
      componentId_lt := by decide
      profileId_free := by decide +kernel
      aspVersion_lt := by decide
      connTimeout_lt := by decide }]
    uuid_lt := by decide
    friendlyName_free := by decide +kernel
    agents_length := by decide }]
  checksum_lt := h
  records_length := by decide

theorem makeCapexResponse_layout (queryType : UInt8) {checksum : ℕ} (h : checksum < 2^32) :
    makeCapexResponse queryType.toNat checksum =
      .ok (ourCapexMessage queryType checksum h).layout := by
  have htype : appended queryType.toNat = .ok [queryType] := by
    rw [appended, if_pos queryType.toNat_lt, UInt8.ofNat_toNat]
  have hkind : queryType.toNat = 2 ∨ queryType.toNat = 3 ↔ queryType = 2 ∨ queryType = 3 := by
    simp only [← UInt8.toNat_inj]
    rfl
  -- every part of the response can be encoded; the layout groups them otherwise
  have hparts (sum : Bytes) := frameOfParts_ok
    [[MSG_CAPEX_RESPONSE], [queryType], sum, BigEndian.encode 2 1, BigEndian.encode 2 0,
      terminated SERVER_FRIENDLY_NAME, BigEndian.encode 2 1, BigEndian.encode 2 0,
      terminated DEVICE_PROFILE, BigEndian.encode 2 ASP_VERSION, [UInt8.ofNat ROLE_PROVIDER],
      BigEndian.encode 2 10]
  rw [makeCapexResponse, htype, checksumField]
  by_cases hsum : queryType = 2 ∨ queryType = 3
  · rw [if_pos (hkind.mpr hsum), be32, if_pos h]
    refine (hparts _).trans ?_
    simp [CapexMessage.layout, ourCapexMessage, RecordEntry.layout, AgentEntry.layout, terminated,
      hsum]
  · rw [if_neg (mt hkind.mp hsum)]
    refine (hparts _).trans ?_
    simp [CapexMessage.layout, ourCapexMessage, RecordEntry.layout, AgentEntry.layout, terminated,
      hsum]

/-- The parser inverts the layout, whatever follows the message. -/
theorem parse_capex_inverts_layout :
    (∀ (message : CapexMessage) (trailing : Bytes),
      parseCapexResponse (message.layout ++ trailing) = .ok message.services) ∧
    (∀ (queryType : UInt8) (checksum : ℕ) (h : checksum < 2^32),
      makeCapexResponse queryType.toNat checksum =
        .ok (ourCapexMessage queryType checksum h).layout) ∧
    ∀ text : String, decodeReplace (utf8 text) = pyStr text := by
  refine ⟨?_, fun queryType checksum h => makeCapexResponse_layout queryType h, decodeReplace_utf8⟩
  intro message trailing
  rw [parseCapexResponse_eq, capexDecoder.append message.reads trailing]

end Gear360
