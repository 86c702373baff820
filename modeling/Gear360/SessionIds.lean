import Gear360.ResponseMatching
import Gear360.SlpDecoding

namespace Gear360

open Interaction
open Interaction.Prog (perform fromResult)
open ChunkedSource
open Session

/-- However its bytes are cut, `read_slp_frame` finds the frame on this session. -/
def ArrivesOn (useCrc : Bool) (payload : Bytes) (sessionId target : ℕ) : Prop :=
  ∀ wire, SapSession.slpWire useCrc payload sessionId 0 = .ok wire →
    ∀ (σ : Type) (src : Source UInt8 Empty σ) (fd timeout : ℕ) (rest : Bytes) (ready : List Bool)
      (s : σ), src.pending s = wire ++ rest →
      ∃ frame, (exec (readHandler src) (SapSession.readSlpFrame ⟨fd, useCrc⟩ timeout)
          (true :: ready, s)).result = .ok (some frame) ∧
        frame.sessionId = target ∧ frame.payload = payload

/-- Only ten bits of the session id go out. -/
theorem arrivesOn_mod (useCrc : Bool) (payload : Bytes) (sessionId : ℕ) :
    ArrivesOn useCrc payload sessionId (sessionId%1024) := by
  intro wire hwire σ src fd timeout rest ready s hs
  obtain ⟨htype, hlen, rfl⟩ := slpWire_ok_iff.mp hwire
  obtain ⟨t, s', he, -⟩ := exec_readSlpFrame_ready ⟨fd, useCrc⟩ timeout
    (Reads.readInner ⟨fd, useCrc⟩ (RawFrame.sealing _ hlen) rest) ready s hs
  refine ⟨⟨sessionId%1024, 0, payload⟩, ?_, rfl, rfl⟩
  rw [he]
  exact congrArg Except.ok (decodeInner_packedInner payload sessionId htype)

theorem arrivesOn_self_iff (useCrc : Bool) {payload : Bytes} (h : payload.length ≤ 65533)
    (sessionId : ℕ) : ArrivesOn useCrc payload sessionId sessionId ↔ sessionId < 1024 := by
  have hmod := arrivesOn_mod useCrc payload sessionId
  constructor
  · intro hself
    have hlen : (packedInner payload sessionId 0).length < 2^16 := by
      rw [packedInner_length]
      omega
    obtain ⟨wire, hwire⟩ : ∃ wire, SapSession.slpWire useCrc payload sessionId 0 = .ok wire :=
      ⟨_, slpWire_packed (by decide) hlen⟩
    have hpending : scripted.pending (wire, []) = wire ++ [] := (List.append_nil wire).symm
    -- both hold of one stream, so the two ids are the same
    obtain ⟨frame, hframe, hid, -⟩ := hself wire hwire _ scripted 0 0 [] [] _ hpending
    obtain ⟨frame', hframe', hid', -⟩ := hmod wire hwire _ scripted 0 0 [] [] _ hpending
    rw [hframe] at hframe'
    cases hframe'
    omega
  · intro hlt
    rwa [Nat.mod_eq_of_lt hlt] at hmod

theorem readSessions_lt {msg : Bytes} {sessionCount offset : ℕ} {sessions : List ℕ}
    (h : readSessions msg sessionCount offset = .ok sessions) :
    ∀ sessionId ∈ sessions, sessionId < 2^16 := by
  induction sessionCount generalizing offset sessions with
  | zero =>
    cases h
    exact List.forall_mem_nil _
  | succ sessionCount ih =>
    unfold readSessions at h
    -- an id that is there is two bytes wide
    split_ifs at h with hthere
    · obtain ⟨rest, hrest⟩ := readSessions_ok msg sessionCount (offset+2)
      rw [unpackH_slice hthere, hrest] at h
      cases h
      intro sessionId hid
      rcases List.mem_cons.mp hid with rfl | hid
      · exact decode_slice_lt hthere
      · exact ih hrest sessionId hid
    · exact ih h

theorem parseConnectionResponse_sessions {msg : Bytes} {semicolon : ℕ} {accepted : Bool}
    {sessions : List ℕ} (h : parseConnectionResponse msg semicolon = .ok (accepted, sessions)) :
    ∃ sessionCount, readSessions msg sessionCount (semicolon+4) = .ok sessions := by
  unfold parseConnectionResponse at h
  cases hstatus : byteAt msg (semicolon+1) with
  | error e =>
    rw [hstatus] at h
    cases h
  | ok status =>
    rw [hstatus] at h
    by_cases hfour : semicolon+4 ≤ msg.length
    · obtain ⟨found, hfound⟩ := readSessions_ok msg
        (BigEndian.decode (slice msg (semicolon+2) (semicolon+4))) (semicolon+4)
      simp only [if_pos hfour, unpackH_slice (show semicolon+2+2 ≤ msg.length from hfour), bind,
        Except.bind, hfound] at h
      cases h
      exact ⟨_, hfound⟩
    -- too short for a count: no sessions are read
    · simp only [if_neg hfour, bind, Except.bind, readSessions] at h
      cases h
      exact ⟨0, rfl⟩

theorem Accepts.sessions_lt {frame : SlpFrame} {sessions : List ℕ} (h : Accepts frame sessions) :
    ∀ sessionId ∈ sessions, sessionId < 2^16 := by
  obtain ⟨semicolon, -, hparse⟩ := Option.map_eq_some_iff.mp h
  obtain ⟨sessionCount, hread⟩ := parseConnectionResponse_sessions hparse
  exact readSessions_lt hread

/-- The device information goes out first. -/
theorem deviceInfo_sent (jsonLoads : Bytes → Option Json) {session : SapSession} {cmdSession : ℕ}
    {t : List SessionEvent} {r : Except PyErr Unit}
    (hr : Run (runDeviceInfoAndStream jsonLoads session cmdSession) t r) :
    ∃ x, (⟨.sendSlpFrame session (SDK_HEADER ++ makeDeviceInfoJson "false") cmdSession, x⟩ :
      SessionEvent) ∈ t := by
  unfold runDeviceInfoAndStream exchangeDeviceInfo at hr
  rw [sendSlpFrame_fits (sdk_fits deviceInfo_length)] at hr
  obtain ⟨x, t', rfl, -⟩ := run_call_iff.mp hr
  exact ⟨x, List.mem_cons_self⟩

/-- The frames of a command session arrive on the session that the response to the service request
lists first exactly if its id has no more than ten bits. The response is the frame that ends the
second wait, the first response after the request. -/
theorem command_session_kept_iff (jsonLoads : Bytes → Option Json) {session : SapSession}
    {cmdSession : ℕ} {t t' : List SessionEvent} {r : Except PyErr Unit}
    (hr : Run (runServiceConnection session) t (.ok (some cmdSession)))
    (hr' : Run (runDeviceInfoAndStream jsonLoads session cmdSession) t' r) :
    ∃ (run : Phase3Run) (front : List (Option SlpFrame)) (frame : SlpFrame) (sessions : List ℕ),
      wire t = run.wire ∧ run.serviceWait = front ++ [some frame] ∧
      (∀ f, some f ∈ front → ¬IsResponse f) ∧ frame ∈ framesRead t ∧ Accepts frame sessions ∧
      (∀ sessionId ∈ sessions, sessionId < 2^16) ∧ cmdSession = sessions.headD 10 ∧
      ((∀ s payload x, (⟨.sendSlpFrame s payload cmdSession, x⟩ : SessionEvent) ∈ t' →
          ArrivesOn s.useCrc payload cmdSession cmdSession) ↔ sessions.headD 10 < 1024) := by
  obtain ⟨run, hw, rfl, htaken⟩ := phase3_takenInOrder hr
  obtain ⟨front, frame, hwait, hfirst, haccepts⟩ := htaken.command
  -- the frames of the second wait are the last ones of the run
  have hframe : frame ∈ framesRead t := by
    apply mem_readsOf_wire.mp
    rw [hw, Phase3Run.wire, readsOf, List.filterMap_append]
    apply List.mem_append_right
    change some frame ∈ readsOf (run.serviceWait.flatMap answered)
    rw [readsOf_answered, hwait]
    exact List.mem_append_right _ (List.mem_singleton_self _)
  refine ⟨run, front, frame, run.serviceSessions, hw, hwait, hfirst, hframe, haccepts,
    haccepts.sessions_lt, rfl, ?_⟩
  constructor
  · intro hall
    obtain ⟨x, hsent⟩ := deviceInfo_sent jsonLoads hr'
    have hself := hall session _ x hsent
    exact (arrivesOn_self_iff session.useCrc (sdk_fits deviceInfo_length) _).mp hself
  · intro hlt s payload x _
    have hmod := arrivesOn_mod s.useCrc payload (run.serviceSessions.headD 10)
    rwa [Nat.mod_eq_of_lt hlt] at hmod

theorem command_session_kept_sample : ∃ (t t' : List SessionEvent) (run : Phase3Run),
    ∃ front frame sessions, wire t = run.wire ∧ run.serviceWait = front ++ [some frame] ∧
    Accepts frame sessions ∧ sessions.headD 10 = 10 ∧
    ∀ s payload x, (⟨.sendSlpFrame s payload 10, x⟩ : SessionEvent) ∈ t' →
      ArrivesOn s.useCrc payload 10 10 := by
  have hrun := exec_run playback (runServiceConnection ⟨3, false⟩)
    (phase3Script (responseTo CAPEX_PROFILE [1]) (some ⟨1, 0, [6, 0]⟩)
      (responseTo SERVICE_PROFILE [10, 11, 12]))
  have hresult : (exec playback (runServiceConnection ⟨3, false⟩)
      (phase3Script (responseTo CAPEX_PROFILE [1]) (some ⟨1, 0, [6, 0]⟩)
        (responseTo SERVICE_PROFILE [10, 11, 12]))).result = .ok (some 10) := by
    decide +kernel
  rw [hresult] at hrun
  obtain ⟨run, front, frame, sessions, hw, hwait, -, -, haccepts, -, hid, hkept⟩ :=
    command_session_kept_iff (fun _ => none) hrun
      (exec_run playback (runDeviceInfoAndStream (fun _ => none) ⟨3, false⟩ 10) ⟨[], []⟩)
  refine ⟨_, _, run, front, frame, sessions, hw, hwait, haccepts, hid.symm, hkept.mpr ?_⟩
  rw [← hid]
  decide

/-- A response that lists session 1034 first is accepted, and the device information then goes out
on session 10. -/
theorem wide_session_id_truncated : ∃ t t' frame r,
    Run (runServiceConnection ⟨3, false⟩) t (.ok (some 1034)) ∧
    frame ∈ framesRead t ∧ Accepts frame [1034, 11, 12] ∧
    Run (runDeviceInfoAndStream (fun _ => none) ⟨3, false⟩ 1034) t' r ∧
    ∃ payload x, (⟨.sendSlpFrame ⟨3, false⟩ payload 1034, x⟩ : SessionEvent) ∈ t' ∧
      ArrivesOn false payload 1034 10 ∧ ¬ArrivesOn false payload 1034 1034 := by
  have hrun := exec_run playback (runServiceConnection ⟨3, false⟩)
    (phase3Script (responseTo CAPEX_PROFILE [1]) (some ⟨1, 0, [6, 0]⟩)
      (responseTo SERVICE_PROFILE [1034, 11, 12]))
  have hresult : (exec playback (runServiceConnection ⟨3, false⟩)
      (phase3Script (responseTo CAPEX_PROFILE [1]) (some ⟨1, 0, [6, 0]⟩)
        (responseTo SERVICE_PROFILE [1034, 11, 12]))).result = .ok (some 1034) := by
    decide +kernel
  rw [hresult] at hrun
  -- nothing needs to be read for the device information to go out
  have hstream :=
    exec_run playback (runDeviceInfoAndStream (fun _ => none) ⟨3, false⟩ 1034) ⟨[], []⟩
  obtain ⟨x, hsent⟩ := deviceInfo_sent _ hstream
  refine ⟨_, _, ((responseTo SERVICE_PROFILE [1034, 11, 12]).getD ⟨0, 0, []⟩), _, hrun, ?_, ?_,
    hstream, _, x, hsent, arrivesOn_mod false _ 1034, ?_⟩
  · decide +kernel
  · unfold Accepts
    decide +kernel
  · rw [arrivesOn_self_iff false (sdk_fits deviceInfo_length)]
    decide

end Gear360
