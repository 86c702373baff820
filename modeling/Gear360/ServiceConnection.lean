import Gear360.CapexLaw
import Gear360.TraceLaw

namespace Gear360

open Interaction
open Interaction.Prog (perform fromResult)
open Session

theorem findByte_some {msg : Bytes} {byte : UInt8} {start i : ℕ}
    (h : findByte msg byte start = some i) :
    start ≤ i ∧ i < msg.length ∧ msg[i]? = some byte ∧ byte ∉ slice msg start i := by
  obtain ⟨j, hj, rfl⟩ := Option.map_eq_some_iff.mp h
  obtain ⟨hlt, hbyte, hbefore⟩ := List.findIdx?_eq_some_iff_getElem.mp hj
  rw [List.length_drop] at hlt
  have hget : msg[j+start]? = some byte := by
    rw [List.getElem_drop, decide_eq_true_eq] at hbyte
    rw [List.getElem?_eq_getElem (by omega), ← hbyte]
    simp only [Nat.add_comm]
  refine ⟨Nat.le_add_left start j, by omega, hget, fun hmem => ?_⟩
  obtain ⟨k, hk, hkey⟩ := List.getElem_of_mem hmem
  simp only [slice, List.length_drop, List.length_take] at hk
  have hno := hbefore k (by omega)
  simp only [slice, List.getElem_drop, List.getElem_take] at hkey
  simp [hkey] at hno

/-- The separator's place in a frame that is taken for a service-connection response. -/
def responseAt (frame : SlpFrame) : Option ℕ :=
  if frame.payload.head? = some 2 ∧ frame.sessionId = DEFAULT_SESSION then
    findByte frame.payload 0x3B 5
  else none

/-- A response without a status byte. -/
def EndsAtSeparator (frame : SlpFrame) : Prop := responseAt frame = some (frame.payload.length-1)

instance (frame : SlpFrame) : Decidable (EndsAtSeparator frame) :=
  inferInstanceAs (Decidable (_ = _))

theorem readSessions_ok (msg : Bytes) (sessionCount offset : ℕ) :
    ∃ sessions, readSessions msg sessionCount offset = .ok sessions := by
  induction sessionCount generalizing offset with
  | zero => exact ⟨[], rfl⟩
  | succ sessionCount ih =>
    unfold readSessions
    split_ifs with h
    · obtain ⟨sessions, hs⟩ := ih (offset+2)
      exact ⟨_, by rw [unpackH_slice h, hs]; rfl⟩
    · exact ih offset

/-- A response can be parsed exactly if it goes on after its separator. -/
theorem parseConnectionResponse_ok_iff (msg : Bytes) (semicolon : ℕ) :
    (∃ out, parseConnectionResponse msg semicolon = .ok out) ↔ semicolon+1 < msg.length := by
  unfold parseConnectionResponse
  by_cases h : semicolon+1 < msg.length
  · refine iff_of_true ?_ h
    have hstatus : byteAt msg (semicolon+1) = .ok (msg[semicolon+1]).toNat := by
      rw [byteAt, List.getElem?_eq_getElem h]
    rw [hstatus]
    by_cases hfour : semicolon+4 ≤ msg.length
    · obtain ⟨sessions, hsessions⟩ := readSessions_ok msg
        (BigEndian.decode (slice msg (semicolon+2) (semicolon+4))) (semicolon+4)
      simp only [if_pos hfour, unpackH_slice (show semicolon+2+2 ≤ msg.length from hfour), bind,
        Except.bind, hsessions]
      exact ⟨_, rfl⟩
    -- too short for a count: no sessions are read
    · simp only [if_neg hfour, bind, Except.bind, readSessions]
      exact ⟨_, rfl⟩
  · refine iff_of_false ?_ h
    have hstatus : byteAt msg (semicolon+1) = .error .indexError := by
      rw [byteAt, List.getElem?_eq_none (not_lt.mp h)]
    rw [hstatus]
    rintro ⟨out, hout⟩
    cases hout

/-- Parsing a response fails exactly if it ends at its separator. -/
theorem parseConnectionResponse_isOk {frame : SlpFrame} {semicolon : ℕ}
    (h : responseAt frame = some semicolon) :
    (∃ out, parseConnectionResponse frame.payload semicolon = .ok out) ↔
      ¬EndsAtSeparator frame := by
  have hfind : findByte frame.payload 0x3B 5 = some semicolon := by
    unfold responseAt at h
    split_ifs at h
    exact h
  obtain ⟨-, hlt, -⟩ := findByte_some hfind
  rw [parseConnectionResponse_ok_iff, EndsAtSeparator, h, Option.some.injEq]
  omega

/-- What a response says: whether its status is zero, and its sessions. -/
def connectionOutcome (frame : SlpFrame) : Option (Except PyErr (Bool × List ℕ)) :=
  (responseAt frame).map (parseConnectionResponse frame.payload)

/-- A byte string that is taken for a response: type 2 on the default session, with a separator at
index 5 or later. -/
def IsResponse (frame : SlpFrame) : Prop :=
  frame.payload.head? = some 2 ∧ frame.sessionId = DEFAULT_SESSION ∧ 0x3B ∈ frame.payload.drop 5

theorem responseAt_isSome {frame : SlpFrame} :
    (responseAt frame).isSome = true ↔ IsResponse frame := by
  have hfind : (findByte frame.payload 0x3B 5).isSome = true ↔ 0x3B ∈ frame.payload.drop 5 := by
    rw [findByte, Option.isSome_map, List.findIdx?_isSome]
    simp
  unfold responseAt
  split_ifs with h
  · rw [hfind, IsResponse, ← and_assoc, and_iff_right h]
  · exact iff_of_false Bool.false_ne_true fun h' => h ⟨h'.1, h'.2.1⟩

/-- A service-connection response. The ids of the two sides can be any bytes. -/
structure ScResponse where
  acceptorId : ℕ
  initiatorId : ℕ
  profile : Bytes
  status : UInt8
  sessions : List ℕ
  acceptorId_lt : acceptorId < 2^16
  initiatorId_lt : initiatorId < 2^16
  profile_free : 0x3B ∉ profile
  sessions_lt : ∀ sessionId ∈ sessions, sessionId < 2^16
  sessions_length : sessions.length < 2^16

/-- What comes before the status byte. -/
def ScResponse.head (response : ScResponse) : Bytes :=
  [2] ++ BigEndian.encode 2 response.acceptorId ++ BigEndian.encode 2 response.initiatorId ++
    response.profile ++ [0x3B]

def ScResponse.layout (response : ScResponse) : Bytes :=
  response.head ++ ([response.status] ++ (BigEndian.encode 2 response.sessions.length ++
    response.sessions.flatMap (BigEndian.encode 2)))

theorem findByte_append {body : Bytes} {byte : UInt8} (h : byte ∉ body) (front rest : Bytes) :
    findByte (front ++ (body ++ byte :: rest)) byte front.length =
      some (front.length+body.length) := by
  have hbody : body.findIdx? (· = byte) = none :=
    List.findIdx?_eq_none_iff.mpr fun x hx => decide_eq_false fun heq => h (heq ▸ hx)
  rw [findByte, List.drop_left, List.findIdx?_append, hbody, Option.none_or, List.findIdx?_cons]
  simp [Nat.add_comm]

theorem ScResponse.responseAt (response : ScResponse) (frameType : ℕ) (trailing : Bytes) :
    Gear360.responseAt ⟨DEFAULT_SESSION, frameType, response.layout ++ trailing⟩ =
      some (5+response.profile.length) := by
  have hfront : ([2] ++ BigEndian.encode 2 response.acceptorId ++
      BigEndian.encode 2 response.initiatorId).length = 5 := rfl
  have hfind := findByte_append response.profile_free
    ([2] ++ BigEndian.encode 2 response.acceptorId ++ BigEndian.encode 2 response.initiatorId)
    ([response.status] ++ (BigEndian.encode 2 response.sessions.length ++
      (response.sessions.flatMap (BigEndian.encode 2) ++ trailing)))
  rw [hfront] at hfind
  rw [Gear360.responseAt, if_pos ⟨rfl, rfl⟩, ← hfind]
  simp [ScResponse.layout, ScResponse.head]

theorem readSessions_layout {sessions : List ℕ} (h : ∀ sessionId ∈ sessions, sessionId < 2^16)
    (front trailing : Bytes) :
    readSessions (front ++ (sessions.flatMap (BigEndian.encode 2) ++ trailing)) sessions.length
      front.length = .ok sessions := by
  induction sessions generalizing front with
  | nil => rfl
  | cons sessionId sessions ih =>
    have hfield := slice_append front (BigEndian.encode 2 sessionId)
      (sessions.flatMap (BigEndian.encode 2) ++ trailing) (j := front.length+2) rfl rfl
    have hrest := ih (fun id hid => h id (List.mem_cons_of_mem _ hid))
      (front ++ BigEndian.encode 2 sessionId)
    rw [List.append_assoc, List.length_append, BigEndian.encode_length] at hrest
    have hthere : front.length+2 ≤ (front ++ (BigEndian.encode 2 sessionId ++
        (sessions.flatMap (BigEndian.encode 2) ++ trailing))).length := by
      simp only [List.length_append, BigEndian.encode_length]
      omega
    rw [List.length_cons, readSessions, List.flatMap_cons, List.append_assoc, if_pos hthere, hfield,
      unpackH_encode (h sessionId List.mem_cons_self)]
    simp only [bind, Except.bind, hrest]
    rfl

theorem ScResponse.parse (response : ScResponse) (trailing : Bytes) :
    parseConnectionResponse (response.layout ++ trailing) (5+response.profile.length) =
      .ok (response.status = 0, response.sessions) := by
  have hhead : response.head.length = 5+response.profile.length+1 := by
    simp only [ScResponse.head, List.length_append, List.length_singleton, BigEndian.encode_length]
  rw [ScResponse.layout]
  simp only [List.append_assoc]
  -- the head ends at the separator; what follows is found by its offset from there
  set rest := BigEndian.encode 2 response.sessions.length ++
    (response.sessions.flatMap (BigEndian.encode 2) ++ trailing) with hrest
  have hstatus : byteAt (response.head ++ ([response.status] ++ rest))
      (5+response.profile.length+1) = .ok response.status.toNat := by
    rw [byteAt, ← hhead, List.getElem?_append_right le_rfl, Nat.sub_self]
    rfl
  have hcount : slice (response.head ++ ([response.status] ++ rest))
      (5+response.profile.length+2) (5+response.profile.length+4) =
      BigEndian.encode 2 response.sessions.length := by
    rw [← List.append_assoc, hrest]
    exact slice_append _ _ _ (by rw [List.length_append, hhead]; rfl) rfl
  have hthere : 5+response.profile.length+4 ≤
      (response.head ++ ([response.status] ++ rest)).length := by
    simp only [hrest, List.length_append, List.length_singleton, hhead, BigEndian.encode_length]
    omega
  have hsessions := readSessions_layout response.sessions_lt
    (response.head ++ [response.status] ++ BigEndian.encode 2 response.sessions.length) trailing
  have hoffset : (response.head ++ [response.status] ++
      BigEndian.encode 2 response.sessions.length).length = 5+response.profile.length+4 := by
    simp only [List.length_append, List.length_singleton, hhead, BigEndian.encode_length]
  rw [hoffset] at hsessions
  simp only [List.append_assoc] at hsessions
  rw [parseConnectionResponse, hstatus]
  simp only [if_pos hthere, hcount, unpackH_encode response.sessions_length, bind, Except.bind]
  have hzero : response.status.toNat = 0 ↔ response.status = 0 := by
    rw [← UInt8.toNat_inj]
    rfl
  rw [hsessions, decide_eq_decide.mpr hzero]
  rfl

/-- The reply to a frame, on the frame's own session. -/
def capexReplies (frame : SlpFrame) : List WireEvent :=
  if isCapexQuery frame.payload then
    (capexReply frame.payload).toOption.toList.map fun reply => .sent reply frame.sessionId
  else []

/-- A read with the reply to it. -/
def answered (input : Option SlpFrame) : List WireEvent :=
  .read input :: input.elim [] capexReplies

/-- A read that ends the wait. -/
def EndsWait (input : Option SlpFrame) : Prop := (input.bind responseAt).isSome = true

/-- What the wait returns: what the first response says. -/
def waitOutcome (inputs : List (Option SlpFrame)) : Except PyErr (Bool × List ℕ) :=
  (inputs.findSome? fun input => input.bind connectionOutcome).getD (.ok (false, []))

theorem waitOutcome_cons {input : Option SlpFrame} (h : ¬EndsWait input)
    (inputs : List (Option SlpFrame)) : waitOutcome (input :: inputs) = waitOutcome inputs := by
  have hnone : input.bind connectionOutcome = none := by
    cases input with
    | none => rfl
    | some frame =>
      rw [EndsWait, Option.bind_some, Option.not_isSome_iff_eq_none] at h
      rw [Option.bind_some, connectionOutcome, h, Option.map_none]
  rw [waitOutcome, List.findSome?_cons, hnone, waitOutcome]

theorem waitOutcome_append {front : List (Option SlpFrame)}
    (hno : ∀ input ∈ front, ¬EndsWait input) (rest : List (Option SlpFrame)) :
    waitOutcome (front ++ rest) = waitOutcome rest := by
  induction front with
  | nil => rfl
  | cons input front ih =>
    rw [List.cons_append, waitOutcome_cons (hno input List.mem_cons_self),
      ih fun input hinput => hno input (List.mem_cons_of_mem _ hinput)]

theorem waitOutcome_response {frame : SlpFrame} {semicolon : ℕ}
    (h : responseAt frame = some semicolon) :
    waitOutcome [some frame] = parseConnectionResponse frame.payload semicolon := by
  rw [waitOutcome, List.findSome?_singleton, Option.bind_some, connectionOutcome, h]
  rfl

/-- The wait ran out of attempts, or its last input is its only response. -/
theorem waitOutcome_cases {attempts : ℕ} {inputs : List (Option SlpFrame)}
    (h : StopsAt EndsWait attempts inputs) :
    (∀ input ∈ inputs, ¬EndsWait input) ∧ waitOutcome inputs = .ok (false, []) ∨
      ∃ front frame semicolon, inputs = front ++ [some frame] ∧ (∀ input ∈ front, ¬EndsWait input) ∧
        responseAt frame = some semicolon ∧
        waitOutcome inputs = parseConnectionResponse frame.payload semicolon := by
  rcases h.cases with ⟨-, hno⟩ | ⟨front, input, rfl, hstop, hno⟩
  · refine .inl ⟨hno, ?_⟩
    have h := waitOutcome_append hno []
    rwa [List.append_nil] at h
  · obtain ⟨semicolon, hbind⟩ := Option.isSome_iff_exists.mp hstop
    obtain ⟨frame, rfl, hat⟩ := Option.bind_eq_some_iff.mp hbind
    exact .inr ⟨front, frame, semicolon, rfl, hno, hat,
      (waitOutcome_append hno _).trans (waitOutcome_response hat)⟩

/-- A response is no query, so nothing is sent for it. -/
theorem capexReplies_response {frame : SlpFrame} (h : frame.payload.head? = some 2) :
    capexReplies frame = [] := by
  apply if_neg
  intro hquery
  exact query_head hquery 2 (by decide) (by decide) h

/-- Some operation of the run raised, and the run with it. -/
def Failed {α : Type} (t : List SessionEvent) (r : Except PyErr α) : Prop :=
  (∃ e, r = .error e) ∧ ∃ e ∈ t, e.2.isOk = false

theorem Failed.append {α : Type} {t : List SessionEvent} {r : Except PyErr α} (h : Failed t r)
    (front : List SessionEvent) : Failed (front ++ t) r := by
  obtain ⟨hr, e, he, hbad⟩ := h
  exact ⟨hr, e, List.mem_append_right front he, hbad⟩

section
variable {session : SapSession}

/-- Answering a query is one operation, which fails or sends the reply. -/
theorem run_handleCapex {frame : SlpFrame} (h : isCapexQuery frame.payload = true)
    {t : List SessionEvent} {r : Except PyErr Unit}
    (hr : Run (handleCapex session frame.payload frame.sessionId) t r) :
    Failed t r ∨ r = .ok () ∧ wire t = capexReplies frame := by
  obtain ⟨reply, hreply, -, -, hfits⟩ := capexReply_ok frame.payload
  rw [handleCapex_query h hreply hfits, run_perform_iff] at hr
  match r with
  | .error e => exact .inl ⟨⟨e, rfl⟩, _, by rw [hr]; exact List.mem_singleton_self _, rfl⟩
  | .ok () =>
    refine .inr ⟨rfl, ?_⟩
    rw [hr, capexReplies, if_pos h, hreply]
    rfl

/-- The wait reads up to the first response, answers the queries before it, and returns or raises
what comes of the response. -/
theorem run_waitServiceConnection {timeoutPer attempts : ℕ} {t : List SessionEvent}
    {r : Except PyErr (Bool × List ℕ)}
    (hr : Run (waitServiceConnection session timeoutPer attempts) t r) :
    Failed t r ∨ ∃ inputs, StopsAt EndsWait attempts inputs ∧ r = waitOutcome inputs ∧
      wire t = inputs.flatMap answered := by
  induction attempts generalizing t with
  | zero =>
    obtain ⟨rfl, rfl⟩ := run_ret_iff.mp hr
    exact .inr ⟨[], stopsAt_zero, rfl, rfl⟩
  | succ attempts ih =>
    rcases run_bind_cases hr with ⟨e, he, rfl⟩ | ⟨t₁, input, t₂, h₁, h₂, rfl⟩
    · rw [run_perform_iff.mp he]
      exact .inl ⟨⟨e, rfl⟩, _, List.mem_singleton_self _, rfl⟩
    rw [run_perform_iff.mp h₁]
    -- a turn that does not end the wait puts its input in front of the others'
    have hnext (u v : List SessionEvent) (hinput : ¬EndsWait input)
        (hu : wire u = input.elim [] capexReplies)
        (hv : Run (waitServiceConnection session timeoutPer attempts) v r) :
        Failed ([⟨.readSlpFrame session timeoutPer, .ok input⟩] ++ (u ++ v)) r ∨
          ∃ inputs, StopsAt EndsWait (attempts+1) inputs ∧ r = waitOutcome inputs ∧
            wire ([⟨.readSlpFrame session timeoutPer, .ok input⟩] ++ (u ++ v)) =
              inputs.flatMap answered := by
      rcases ih hv with hfail | ⟨inputs, hstops, hout, hw⟩
      · exact .inl ((hfail.append u).append _)
      · refine .inr ⟨input :: inputs, hstops.cons hinput, ?_, ?_⟩
        · rw [hout, waitOutcome_cons hinput]
        · rw [wire_append, wire_append, hu, hw]
          rfl
    cases input with
    | none => exact hnext [] t₂ nofun rfl h₂
    | some frame =>
      dsimp only at h₂
      by_cases hkind : frame.payload.head? = some 2 ∧ frame.sessionId = DEFAULT_SESSION
      · have hreplies := capexReplies_response hkind.1
        have hat : responseAt frame = findByte frame.payload 0x3B 5 := if_pos hkind
        rw [if_pos hkind] at h₂
        cases hfind : findByte frame.payload 0x3B 5 with
        | none =>
          rw [hfind] at h₂ hat
          exact hnext [] t₂ (by simp [EndsWait, hat]) hreplies.symm h₂
        | some semicolon =>
          rw [hfind] at h₂ hat
          obtain ⟨rfl, hout⟩ := run_fromResult_iff.mp h₂
          refine .inr ⟨[some frame], stopsAt_stop (by simp [EndsWait, hat]), ?_, ?_⟩
          · rw [hout, waitOutcome_response hat]
          · rw [List.flatMap_singleton, answered, Option.elim_some, hreplies]
            rfl
      · have hat : responseAt frame = none := if_neg hkind
        have hinput : ¬EndsWait (some frame) := by simp [EndsWait, hat]
        rw [if_neg hkind] at h₂
        by_cases hquery : isCapexQuery frame.payload = true
        · rw [if_pos hquery] at h₂
          rcases run_bind_cases h₂ with ⟨e, he, rfl⟩ | ⟨u, _, v, hu, hv, rfl⟩
          · rcases run_handleCapex hquery he with ⟨-, hfail⟩ | ⟨h, -⟩
            · exact .inl (Failed.append ⟨⟨e, rfl⟩, hfail⟩ _)
            · cases h
          · rcases run_handleCapex hquery hu with ⟨⟨e, he⟩, -⟩ | ⟨-, hw⟩
            · cases he
            · exact hnext u v hinput hw hv
        · rw [if_neg hquery] at h₂
          exact hnext [] t₂ hinput (if_neg hquery).symm h₂

/-- The read results of a run. -/
def readsOf (w : List WireEvent) : List (Option SlpFrame) :=
  w.filterMap fun
    | .read answer => some answer
    | .sent _ _ => none

theorem readsOf_answered (inputs : List (Option SlpFrame)) :
    readsOf (inputs.flatMap answered) = inputs := by
  induction inputs with
  | nil => rfl
  | cons input inputs ih =>
    have hreplies (frame : SlpFrame) : readsOf (capexReplies frame) = [] := by
      unfold capexReplies
      split_ifs
      · cases capexReply frame.payload <;> rfl
      · rfl
    have hhead : readsOf (answered input) = [input] := by
      cases input with
      | none => rfl
      | some frame => exact congrArg (some frame :: ·) (hreplies frame)
    rw [List.flatMap_cons, readsOf, List.filterMap_append]
    exact congrArg₂ (· ++ ·) hhead ih

theorem mem_readsOf_wire {t : List SessionEvent} {frame : SlpFrame} :
    some frame ∈ readsOf (wire t) ↔ frame ∈ framesRead t := by
  rw [mem_framesRead, readsOf, List.mem_filterMap]
  constructor
  · rintro ⟨v, hv, hread⟩
    obtain ⟨e, he, hwire⟩ := List.mem_filterMap.mp hv
    split at hread
    · cases hread
      -- only a read that returned is seen as one
      unfold wireEvent at hwire
      split at hwire
      · cases hwire
        exact ⟨_, _, he⟩
      · cases hwire
      · cases hwire
    · cases hread
  · rintro ⟨s, timeout, he⟩
    exact ⟨.read (some frame), List.mem_filterMap.mpr ⟨_, he, rfl⟩, rfl⟩

theorem EndsAtSeparator.endsWait {frame : SlpFrame} (h : EndsAtSeparator frame) :
    EndsWait (some frame) := by
  rw [EndsWait, Option.bind_some, h]
  rfl

/-- With operations that all succeed, the wait returns exactly if no frame that it reads is a
response ending at its separator. -/
theorem wait_survives_iff {timeoutPer attempts : ℕ} {t : List SessionEvent}
    {r : Except PyErr (Bool × List ℕ)}
    (hr : Run (waitServiceConnection session timeoutPer attempts) t r)
    (hok : ∀ e ∈ t, e.2.isOk = true) :
    (∃ out, r = .ok out) ↔ ∀ frame ∈ framesRead t, ¬EndsAtSeparator frame := by
  rcases run_waitServiceConnection hr with ⟨-, e, he, hbad⟩ | ⟨inputs, hstops, rfl, hw⟩
  · exact absurd (hok e he) (by rw [hbad]; exact Bool.false_ne_true)
  have hframes (frame : SlpFrame) : frame ∈ framesRead t ↔ some frame ∈ inputs := by
    rw [← mem_readsOf_wire, hw, readsOf_answered]
  simp only [hframes]
  -- no response at all, or the last frame is the only one
  rcases waitOutcome_cases hstops with ⟨hno, hout⟩ | ⟨front, last, semicolon, rfl, hno, hat, hout⟩
  · exact iff_of_true ⟨_, hout⟩ fun frame hframe hend => hno _ hframe hend.endsWait
  · rw [hout, parseConnectionResponse_isOk hat]
    constructor
    · intro hlast frame hframe hend
      rcases List.mem_append.mp hframe with hframe | hframe
      · exact hno _ hframe hend.endsWait
      · cases List.mem_singleton.mp hframe
        exact hlast hend
    · intro h
      exact h last (List.mem_append_right _ (List.mem_singleton_self _))

def acceptedResponse : SlpFrame := ⟨1023, 0, [2, 0, 0, 0, 0, 0x2F, 0x3B, 0, 0, 1, 0, 10]⟩

theorem wait_survives_sample :
    ∃ out, (exec playback (waitServiceConnection ⟨3, false⟩ 3000 10)
      ⟨[], [none, some acceptedResponse]⟩).result = .ok out :=
  (wait_survives_iff (exec_run _ _ _) (by decide)).mpr (by decide)

def cutResponse : SlpFrame := ⟨1023, 0, [2, 0, 0, 0, 0, 0x3B]⟩

/-- A response cut after its separator: `msg[semicolon + 1]` is out of range. -/
theorem cut_response_raises : ∃ t,
    SapSession.decodeInner [0x0F, 0xFC, 2, 0, 0, 0, 0, 0x3B] = some cutResponse ∧
    Run (waitServiceConnection ⟨3, false⟩ 3000 10) t (.error .indexError) ∧
    (∀ e ∈ t, e.2.isOk = true) ∧ framesRead t = [cutResponse] := by
  have hrun := exec_run playback (waitServiceConnection ⟨3, false⟩ 3000 10)
    ⟨[], [some cutResponse]⟩
  exact ⟨_, rfl, hrun, by decide, rfl⟩

/-- The frames that were sent, with their sessions. -/
def sentOf (w : List WireEvent) : List (Bytes × ℕ) :=
  w.filterMap fun
    | .read _ => none
    | .sent payload sessionId => some (payload, sessionId)

/-- The capability queries among the read results. -/
def queriesOf (inputs : List (Option SlpFrame)) : List SlpFrame :=
  inputs.filterMap fun input => input.filter fun frame => isCapexQuery frame.payload

theorem queriesOf_query {frame : SlpFrame} (h : isCapexQuery frame.payload = true)
    (inputs : List (Option SlpFrame)) :
    queriesOf (some frame :: inputs) = frame :: queriesOf inputs := by
  rw [queriesOf, List.filterMap_cons, Option.filter_some, if_pos h]
  rfl

theorem queriesOf_other {frame : SlpFrame} (h : ¬isCapexQuery frame.payload = true)
    (inputs : List (Option SlpFrame)) : queriesOf (some frame :: inputs) = queriesOf inputs := by
  rw [queriesOf, List.filterMap_cons, Option.filter_some, if_neg h]
  rfl

/-- Each query has its own reply, in order. -/
theorem sentOf_answered (inputs : List (Option SlpFrame)) :
    List.Forall₂ (fun query sent => Answers query sent.1 sent.2) (queriesOf inputs)
      (sentOf (inputs.flatMap answered)) := by
  induction inputs with
  | nil => exact List.Forall₂.nil
  | cons input inputs ih =>
    have hsplit : sentOf ((input :: inputs).flatMap answered) =
        sentOf (input.elim [] capexReplies) ++ sentOf (inputs.flatMap answered) := by
      rw [List.flatMap_cons, sentOf, List.filterMap_append]
      rfl
    rw [hsplit]
    cases input with
    | none => exact ih
    | some frame =>
      rw [Option.elim_some, capexReplies]
      by_cases hquery : isCapexQuery frame.payload = true
      · obtain ⟨reply, hreply, htype, -⟩ := capexReply_ok frame.payload
        rw [queriesOf_query hquery, if_pos hquery, hreply]
        exact List.Forall₂.cons ⟨htype, hreply, rfl⟩ ih
      · rw [queriesOf_other hquery, if_neg hquery]
        exact ih

theorem endsWait_some {frame : SlpFrame} : EndsWait (some frame) ↔ IsResponse frame :=
  responseAt_isSome

/-- Whatever comes before it, a response is read exactly, and only the queries before it are
answered. -/
theorem wait_reads_response {timeoutPer attempts : ℕ} {t : List SessionEvent}
    {r : Except PyErr (Bool × List ℕ)} {before : List (Option SlpFrame)}
    (response : ScResponse) (frameType : ℕ) (trailing : Bytes) (later : List (Option SlpFrame))
    (hr : Run (waitServiceConnection session timeoutPer attempts) t r)
    (hok : ∀ e ∈ t, e.2.isOk = true)
    (hreads : readsOf (wire t) <+:
      before ++ some ⟨DEFAULT_SESSION, frameType, response.layout ++ trailing⟩ :: later)
    (hlen : before.length < attempts) (hbefore : ∀ frame, some frame ∈ before → ¬IsResponse frame) :
    r = .ok (response.status = 0, response.sessions) ∧
    readsOf (wire t) =
      before ++ [some ⟨DEFAULT_SESSION, frameType, response.layout ++ trailing⟩] ∧
    List.Forall₂ (fun query sent => Answers query sent.1 sent.2) (queriesOf before)
      (sentOf (wire t)) := by
  rcases run_waitServiceConnection hr with ⟨-, e, he, hbad⟩ | ⟨inputs, hstops, rfl, hw⟩
  · exact absurd (hok e he) (by rw [hbad]; exact Bool.false_ne_true)
  have hat := response.responseAt frameType trailing
  generalize hlast : (⟨DEFAULT_SESSION, frameType, response.layout ++ trailing⟩ : SlpFrame) = last
    at hreads hat ⊢
  have hno : ∀ input ∈ before, ¬EndsWait input := by
    intro input hinput
    cases input with
    | none => exact nofun
    | some frame => exact fun h => hbefore frame hinput (endsWait_some.mp h)
  have hends : EndsWait (some last) := by
    rw [EndsWait, Option.bind_some, hat]
    rfl
  rw [hw, readsOf_answered] at hreads ⊢
  -- the wait stops at the response, and not before it
  have hinputs := hstops.eq_of_prefix hreads hno hends hlen
  have hparse := response.parse trailing
  have hquery : ¬isCapexQuery last.payload = true := by
    rw [← hlast]
    exact Bool.false_ne_true
  have hqueries : queriesOf (before ++ [some last]) = queriesOf before := by
    rw [queriesOf, List.filterMap_append]
    exact (congrArg (queriesOf before ++ ·) (queriesOf_other hquery [])).trans (List.append_nil _)
  have hsent := sentOf_answered inputs
  rw [hinputs, hqueries] at hsent
  refine ⟨?_, hinputs, by rw [hinputs]; exact hsent⟩
  rw [hinputs, waitOutcome_append hno, waitOutcome_response hat, ← hlast, hparse]

end

/-- Its ids contain separators. -/
def sampleResponse : ScResponse where
  acceptorId := 0x3B3B
  initiatorId := 0x003B
  profile := [0x2F]
  status := 0
  sessions := [10, 0x3B3B]
  acceptorId_lt := by decide
  initiatorId_lt := by decide
  profile_free := by decide
  sessions_lt := by decide
  sessions_length := by decide

/-- A timeout, a query and the response. -/
def sampleReads : List (Option SlpFrame) :=
  [none, some ⟨1, 0, [1, 2]⟩, some ⟨1023, 0, sampleResponse.layout ++ [7]⟩]

theorem wait_reads_response_sample :
    let run := exec playback (waitServiceConnection ⟨3, false⟩ 3000 10) ⟨[], sampleReads⟩
    run.result = .ok (sampleResponse.status = 0, sampleResponse.sessions) ∧
    readsOf (wire run.trace) = sampleReads ∧
    List.Forall₂ (fun query sent => Answers query sent.1 sent.2)
      (queriesOf [none, some ⟨1, 0, [1, 2]⟩]) (sentOf (wire run.trace)) := by
  have hbefore : ∀ frame, some frame ∈ [none, some ⟨1, 0, [1, 2]⟩] → ¬IsResponse frame := by
    intro frame hframe
    simp only [List.mem_cons, reduceCtorEq, false_or, List.not_mem_nil, or_false,
      Option.some.injEq] at hframe
    rw [hframe]
    exact fun h => absurd h.1 (by decide)
  exact wait_reads_response sampleResponse 0 [7] [] (exec_run _ _ _) (by decide +kernel)
    (by decide +kernel) (by decide) hbefore

end Gear360
