import Gear360.PeerDescription
import Gear360.ServiceOps

namespace Gear360

open Interaction
open Interaction.Prog (perform fromResult tryFinally)

/-- The connection-layer mode byte of a PD_RESPONSE. -/
def announcedMode (response : Bytes) : Option UInt8 := response[20]?

/-- The connection-layer mode byte of a PD_REQUEST asks for CRC. -/
def RequestsCrc (request : Bytes) : Prop := 20 ≤ request.length ∧ request.getD 19 0 = 1

instance (request : Bytes) : Decidable (RequestsCrc request) :=
  inferInstanceAs (Decidable (_ ∧ _))

theorem encode_two (value : ℕ) : ∃ hi lo, BigEndian.encode 2 value = [hi, lo] :=
  List.length_eq_two.mp (BigEndian.encode_length 2 value)

/-- The announced mode is always CRC. -/
theorem announcedMode_response {protoVersion swVersion : ℕ} {response : Bytes}
    (h : makePeerDescriptionResponse protoVersion swVersion = .ok response) :
    announcedMode response = some 1 := by
  by_cases hproto : protoVersion < 2^16
  · by_cases hsw : swVersion < 2^16
    · obtain ⟨p₁, p₀, hp⟩ := encode_two protoVersion
      obtain ⟨s₁, s₀, hs⟩ := encode_two swVersion
      rw [makePeerDescriptionResponse, be16_ok hproto, be16_ok hsw, hp, hs] at h
      cases h
      rfl
    · rw [makePeerDescriptionResponse, be16_ok hproto, be16_error (not_lt.mp hsw)] at h
      cases h
  · rw [makePeerDescriptionResponse, be16_error (not_lt.mp hproto)] at h
    cases h

/-- What an onlooker notes of the CRC mode: the first frame read, the first frame written, and
the mode of every SLP frame that is read or written. -/
structure ModeNotes where
  request : Option Bytes := none
  response : Option Bytes := none
  slpModes : List Bool := []

def ModeNotes.note (seen : ModeNotes) : SessionEvent → ModeNotes
  | ⟨.readFrame _ _, .ok (some payload)⟩ => { seen with request := seen.request.or (some payload) }
  | ⟨.sendFrame _ payload, _⟩ => { seen with response := seen.response.or (some payload) }
  | ⟨.readSlpFrame session _, _⟩ => { seen with slpModes := seen.slpModes ++ [session.useCrc] }
  | ⟨.sendSlpFrame session _ _, _⟩ => { seen with slpModes := seen.slpModes ++ [session.useCrc] }
  | _ => seen

def modeNotes (t : List SessionEvent) : ModeNotes := t.foldl ModeNotes.note {}

/-- Both ends are in one mode for all the SLP frames of the run. -/
def ModesAgree (seen : ModeNotes) (response : Bytes) : Prop :=
  ∀ useCrc ∈ seen.slpModes, announcedMode response = some 1 ↔ useCrc = true

instance (seen : ModeNotes) (response : Bytes) : Decidable (ModesAgree seen response) :=
  inferInstanceAs (Decidable (∀ _ ∈ _, _))

/-- The announced mode is CRC, the mode in use is the one requested. -/
def ModeFollows (seen : ModeNotes) : Prop :=
  ∀ request response, seen.request = some request → seen.response = some response →
    announcedMode response = some 1 ∧ ∀ useCrc ∈ seen.slpModes, useCrc = true ↔ RequestsCrc request

/-- No SLP frame yet, and a response that announces CRC if there is one. -/
structure BeforeSlp (seen : ModeNotes) : Prop where
  slpModes : seen.slpModes = []
  response : ∀ response, seen.response = some response → announcedMode response = some 1

theorem BeforeSlp.follows {seen : ModeNotes} (h : BeforeSlp seen) : ModeFollows seen := by
  intro request response _ hresponse
  refine ⟨h.response response hresponse, fun useCrc hmem => ?_⟩
  rw [h.slpModes] at hmem
  cases hmem

/-- After the exchange: all SLP frames are in the session's mode. -/
structure Settled (session : SapSession) (request response : Bytes) (seen : ModeNotes) : Prop where
  request : seen.request = some request
  response : seen.response = some response
  slpModes : ∀ useCrc ∈ seen.slpModes, useCrc = session.useCrc

/-- The session is in the mode that the request asks for, and the response announces CRC. -/
def Exchanged (session : SapSession) (request response : Bytes) : Prop :=
  announcedMode response = some 1 ∧ (session.useCrc = true ↔ RequestsCrc request)

theorem Settled.follows {session : SapSession} {request response : Bytes} {seen : ModeNotes}
    (h : Settled session request response seen) (he : Exchanged session request response) :
    ModeFollows seen := by
  intro request' response' hrequest hresponse
  obtain rfl : request = request' := Option.some.inj (h.request.symm.trans hrequest)
  obtain rfl : response = response' := Option.some.inj (h.response.symm.trans hresponse)
  refine ⟨he.1, fun useCrc hmem => ?_⟩
  rw [h.slpModes useCrc hmem]
  exact he.2

theorem useCrc_iff_requestsCrc (request : Bytes) :
    decide ((if 20 ≤ request.length then (request.getD 19 0).toNat else 0) = 1) = true ↔
      RequestsCrc request := by
  rw [decide_eq_true_eq]
  unfold RequestsCrc
  by_cases hlen : 20 ≤ request.length
  · rw [if_pos hlen]
    constructor
    · intro h
      exact ⟨hlen, UInt8.toNat_inj.mp h⟩
    · intro h
      rw [h.2]
      rfl
  · rw [if_neg hlen]
    exact iff_of_false (by decide) (fun h => hlen h.1)

theorem exchangePeerDescription_modes (session : SapSession) :
    wp ModeNotes.note (exchangePeerDescription session) (fun seen r => BeforeSlp seen ∧
      ∀ session', r = .ok (some session') → ∃ request response,
        Exchanged session' request response ∧ Settled session' request response seen) {} := by
  apply wp_iff_run.mpr
  intro t r hrun
  -- by the kinds of run: it ended at the request, or the response was sent
  cases run_exchangePeerDescription hrun with
  | @ended x lines _ hlines hr =>
    have hnotes : ∃ request, (⟨.readFrame session 15000, x⟩ :: lines).foldl ModeNotes.note {} =
        { request := request } := by
      rcases hlines with rfl | ⟨text, y, rfl⟩ <;>
        match x with
        | .error e | .ok none => exact ⟨none, rfl⟩
        | .ok (some payload) => exact ⟨some payload, rfl⟩
    obtain ⟨request, hrequest⟩ := hnotes
    rw [hrequest]
    exact ⟨⟨rfl, fun _ h => nomatch h⟩, fun session' h => absurd h (hr session')⟩
  | @answered request response protoVersion swVersion y hkind hproto hsw hresponse =>
    have hannounced := announcedMode_response hresponse
    refine ⟨⟨rfl, fun _ h => Option.some.inj h ▸ hannounced⟩, fun session' h => ?_⟩
    have hsession : crcSession session request = session' := by
      cases y with
      | ok _ => exact Option.some.inj (Except.ok.inj h)
      | error e => cases h
    refine ⟨request, response, ⟨hannounced, ?_⟩, rfl, rfl, fun _ h => nomatch h⟩
    rw [← hsession]
    exact useCrc_iff_requestsCrc request

/-- SLP frames, if any, are on this session. -/
def SessionOp.OnSession (session : SapSession) : SessionOp → Prop
  | .readSlpFrame s _ => s = session
  | .sendSlpFrame s _ _ => s = session
  | _ => True

theorem SessionOp.Serves.onSession {session : SapSession} {o : SessionOp} (h : o.Serves session) :
    o.OnSession session := by
  cases o <;> first | exact h | exact trivial

theorem SessionOp.Plain.onSession {session : SapSession} {o : SessionOp} (h : o.Plain) :
    o.OnSession session := by
  cases o <;> first | exact h.elim | exact trivial

/-- Once request and response are noted, only the SLP modes can still change. -/
theorem settled_invariant {α : Type} {session : SapSession} {request response : Bytes}
    {seen : ModeNotes} {p : Session α} (h : Settled session request response seen)
    (hp : Performs (SessionOp.OnSession session) p) :
    wp ModeNotes.note p (fun seen _ => Settled session request response seen) seen := by
  apply wp_invariant hp h
  clear h seen
  intro seen o x ho h
  -- both SLP operations append the mode of the session they are on
  have hmodes (useCrc : Bool) (hsame : useCrc = session.useCrc) :
      ∀ mode ∈ seen.slpModes ++ [useCrc], mode = session.useCrc := by
    intro mode hmem
    rcases List.mem_append.mp hmem with hmem | hmem
    · exact h.slpModes mode hmem
    · rw [List.mem_singleton.mp hmem, hsame]
  cases o with
  | readSlpFrame s timeout =>
    exact ⟨h.request, h.response, hmodes _ (congrArg SapSession.useCrc ho)⟩
  | sendSlpFrame s payload sessionId =>
    exact ⟨h.request, h.response, hmodes _ (congrArg SapSession.useCrc ho)⟩
  | readFrame s timeout =>
    match x with
    | .error e => exact h
    | .ok none => exact h
    | .ok (some payload) =>
      -- a later plain frame is not the request: the first one is already noted
      refine ⟨?_, h.response, h.slpModes⟩
      change seen.request.or (some payload) = some request
      rw [h.request]
      rfl
  | sendFrame s payload =>
    refine ⟨h.request, ?_, h.slpModes⟩
    change seen.response.or (some payload) = some response
    rw [h.response]
    rfl
  | makeAuthenticator _ _ | processChallenge _ | verifyConfirm _ | closeAuthenticator
  | openConnection | closeConnection | now | sleep _ | logError _ | connectToWifi _ _
  | resolveCameraIp | ssdpProbe _ | fetchUpnpServices _ | startLiveStream _ _ => exact h

theorem awaitChallenge_onSession (session session' : SapSession) :
    Performs (SessionOp.OnSession session) (awaitChallenge session') :=
  (awaitChallenge_plain session').mono fun _ => SessionOp.Plain.onSession

theorem authenticateAndServe_onSession (jsonLoads : Bytes → Option Json) (session : SapSession)
    (challenge : Bytes) :
    Performs (SessionOp.OnSession session) (authenticateAndServe jsonLoads session challenge) := by
  apply performs_bind
  · intro t r hr
    obtain ⟨x, t', rfl, hplain⟩ := authenticate_plain hr
    intro e he
    rcases List.mem_cons.mp he with rfl | he
    · exact trivial
    · exact (hplain e he).onSession
  · intro verified
    split_ifs
    · exact (runServices_serves jsonLoads).mono fun _ => SessionOp.Serves.onSession
    · exact performs_ret _ _

theorem awaitAuthRequest_modes :
    wp ModeNotes.note awaitAuthRequest (fun seen r => ModeFollows seen ∧
      ∀ session challenge, r = .ok (some (session, challenge)) → ∃ request response,
        Exchanged session request response ∧ Settled session request response seen) {} := by
  -- without a frame sent the law says nothing
  have hempty : ModeFollows {} := fun _ _ h => nomatch h
  apply wp_bind.mpr
  apply wp_perform.mpr
  intro opened
  match opened with
  | .error e => exact ⟨hempty, fun _ _ h => nomatch h⟩
  | .ok none => exact ⟨hempty, fun _ _ h => nomatch h⟩
  | .ok (some fd) =>
    apply wp_seq (exchangePeerDescription_modes _)
    · rintro seen session ⟨hbefore, hsession⟩
      match session with
      | none => exact ⟨hbefore.follows, fun _ _ h => nomatch h⟩
      | some session =>
        obtain ⟨request, response, hexchanged, hsettled⟩ := hsession session rfl
        -- once the exchange is over its mode stays as it is
        apply wp_seq (settled_invariant hsettled (awaitChallenge_onSession session session))
        · intro seen challenge hsettled
          match challenge with
          | none => exact ⟨hsettled.follows hexchanged, fun _ _ h => nomatch h⟩
          | some challenge =>
            refine ⟨hsettled.follows hexchanged, fun _ _ h => ?_⟩
            cases h
            exact ⟨request, response, hexchanged, hsettled⟩
        · intro seen e hsettled
          exact ⟨hsettled.follows hexchanged, fun _ _ h => nomatch h⟩
    · rintro seen e ⟨hbefore, -⟩
      exact ⟨hbefore.follows, fun _ _ h => nomatch h⟩

/-- Closing is neither reading nor writing. -/
theorem cleanup_modes {seen : ModeNotes} (h : ModeFollows seen) (authenticator : Bool) :
    wp ModeNotes.note (cleanup authenticator) (fun seen _ => ModeFollows seen) seen := by
  cases authenticator with
  | false =>
    apply wp_perform.mpr
    intro x
    exact h
  | true =>
    apply wp_bind.mpr
    apply wp_perform.mpr
    rintro (e | _)
    · exact h
    · apply wp_perform.mpr
      intro x
      exact h

/-- Every run: our PD_RESPONSE announces CRC, our frames follow the request. -/
theorem runWifiSession_modes (jsonLoads : Bytes → Option Json) {t : List SessionEvent}
    {r : Except PyErr Unit} (hrun : Run (runWifiSession jsonLoads) t r) :
    ModeFollows (modeNotes t) := by
  have hwp : wp ModeNotes.note (runWifiSession jsonLoads) (fun seen _ => ModeFollows seen) {} := by
    apply wp_bind.mpr
    apply wp_attempt.mpr
    apply wp_mono awaitAuthRequest_modes
    rintro seen found ⟨hfollows, hfound⟩
    match found with
    | .error e =>
      apply wp_tryFinally.mpr
      apply wp_mono (cleanup_modes hfollows false)
      rintro seen (e | _) h <;> exact h
    -- no request: nothing was sent in the mode
    | .ok none => exact cleanup_modes hfollows false
    | .ok (some (session, challenge)) =>
      obtain ⟨request, response, hexchanged, hsettled⟩ := hfound session challenge rfl
      apply wp_bind.mpr
      apply wp_attempt.mpr
      apply wp_perform.mpr
      intro made
      match made with
      | .error e =>
        apply wp_tryFinally.mpr
        apply wp_mono (cleanup_modes hfollows false)
        rintro seen (e | _) h <;> exact h
      | .ok () =>
        apply wp_tryFinally.mpr
        -- from here on the mode is settled, and every frame is in it
        apply wp_mono (settled_invariant hsettled
          (authenticateAndServe_onSession jsonLoads session challenge))
        intro seen x hsettled
        apply wp_mono (cleanup_modes (hsettled.follows hexchanged) true)
        rintro seen (e | _) h <;> exact h
  exact wp_run hwp hrun

/-- The two ends agree exactly when the camera asked for CRC in a request that is long enough to
say so (or when no SLP frame follows at all). -/
theorem crc_modes_agree_iff (jsonLoads : Bytes → Option Json) {t : List SessionEvent}
    {r : Except PyErr Unit} (hrun : Run (runWifiSession jsonLoads) t r) {request response : Bytes}
    (hrequest : (modeNotes t).request = some request)
    (hresponse : (modeNotes t).response = some response) :
    ModesAgree (modeNotes t) response ↔ RequestsCrc request ∨ (modeNotes t).slpModes = [] := by
  obtain ⟨hannounced, hmodes⟩ := runWifiSession_modes jsonLoads hrun request response hrequest
    hresponse
  constructor
  · intro h
    -- one SLP frame is enough to tell the mode in use
    match hslp : (modeNotes t).slpModes with
    | [] => exact .inr rfl
    | useCrc :: rest =>
      have hmem : useCrc ∈ (modeNotes t).slpModes := by rw [hslp]; exact List.mem_cons_self
      exact .inl ((hmodes useCrc hmem).mp ((h useCrc hmem).mp hannounced))
  · rintro (hcrc | hnone) useCrc hmem
    · exact iff_of_true hannounced ((hmodes useCrc hmem).mpr hcrc)
    · rw [hnone] at hmem
      cases hmem

/-- The notes of a session with a camera that asks for the given mode. -/
def sampleModeNotes (mode : UInt8) : ModeNotes :=
  modeNotes (exec playback (runWifiSession fun _ => none)
    ⟨[[5, 2, 1, 2, 1] ++ List.replicate 14 0 ++ [mode], [9], 16 :: 0 :: List.replicate 70 1,
      18 :: 0 :: List.replicate 35 2], []⟩).trace

theorem crc_modes_agree_sample :
    ∃ response, makePeerDescriptionResponse 0x0201 0x0201 = .ok response ∧
    (sampleModeNotes 1).slpModes ≠ [] ∧ ModesAgree (sampleModeNotes 1) response := by
  refine ⟨_, rfl, by decide +kernel, ?_⟩
  have hrequest : (sampleModeNotes 1).request =
      some ([5, 2, 1, 2, 1] ++ List.replicate 14 0 ++ [1]) := by decide +kernel
  exact (crc_modes_agree_iff (fun _ => none) (exec_run playback (runWifiSession fun _ => none)
    ⟨[[5, 2, 1, 2, 1] ++ List.replicate 14 0 ++ [1], [9], 16 :: 0 :: List.replicate 70 1,
      18 :: 0 :: List.replicate 35 2], []⟩) hrequest (by decide +kernel)).mpr
      (.inl (by decide +kernel))

/-- A camera without CRC: we announce it all the same, and send without it. -/
theorem crc_modes_differ : ∃ response, makePeerDescriptionResponse 0x0201 0x0201 = .ok response ∧
    (sampleModeNotes 0).request = some ([5, 2, 1, 2, 1] ++ List.replicate 14 0 ++ [0]) ∧
    (sampleModeNotes 0).response = some response ∧ ¬ModesAgree (sampleModeNotes 0) response :=
  ⟨_, rfl, by decide +kernel, by decide +kernel, by decide +kernel⟩

end Gear360
