import Gear360.RunCost
import Gear360.WifiSession

namespace Gear360

open Interaction
open Interaction.Prog (perform fromResult tryFinally)

/-- Reads and pauses have a price by their time, and one each opening the connection, the two
operations of the authenticator that may take time, and the network operations; all else is free. -/
structure Prices where
  opening : ℕ
  challenge : ℕ
  confirm : ℕ
  read : ℕ → ℕ
  pause : ℕ → ℕ
  join : ℕ
  resolve : ℕ
  probe : ℕ
  fetch : ℕ
  stream : ℕ

namespace Prices

variable (P : Prices) {session : SapSession} {cmdSession : ℕ} {α : Type}

def opPrice : SessionOp → ℕ
  | .openConnection => P.opening
  | .processChallenge _ => P.challenge
  | .verifyConfirm _ => P.confirm
  | .readFrame _ timeout | .readSlpFrame _ timeout => P.read timeout
  | .sleep pause => P.pause pause
  | .connectToWifi _ _ => P.join
  | .resolveCameraIp => P.resolve
  | .ssdpProbe _ => P.probe
  | .fetchUpnpServices _ => P.fetch
  | .startLiveStream _ _ => P.stream
  | _ => 0

def price (e : SessionEvent) : ℕ := P.opPrice e.1

theorem perform_costs (o : SessionOp) :
    Costs P.price (P.opPrice o) (perform o : Session (SessionAns o)) :=
  costs_perform fun _ => le_rfl

theorem sendSlpFrame_free (payload : Bytes) (sessionId : ℕ) :
    Costs P.price 0 (Session.sendSlpFrame session payload sessionId) :=
  costs_free_bind (costs_fromResult _) fun _ =>
    P.perform_costs (.sendSlpFrame session payload sessionId)

theorem logError_free (text : String) : Costs P.price 0 (Session.logError text) :=
  P.perform_costs (.logError text)

/-- A turn of a wait: a read, and then at most the turns that are left. -/
theorem turn {f : Option SlpFrame → Session α} {timeout attempts : ℕ}
    (hf : ∀ frame, Costs P.price (attempts*P.read timeout) (f frame)) :
    Costs P.price ((attempts+1)*P.read timeout)
      (Session.readSlpFrame session timeout >>= f) := by
  exact (costs_bind (P.perform_costs (.readSlpFrame session timeout)) hf).mono
    (by rw [Nat.succ_mul, Nat.add_comm]; exact le_rfl)

theorem handleCapex_free (msg : Bytes) (sessionId : ℕ) :
    Costs P.price 0 (handleCapex session msg sessionId) := by
  apply costs_free_bind (costs_fromResult _)
  intro kind
  split_ifs
  · apply costs_free_bind (costs_fromResult _)
    intro queryType
    exact costs_free_bind (costs_fromResult _) fun reply => P.sendSlpFrame_free reply sessionId
  · exact costs_free_bind (costs_fromResult _) fun reply => P.sendSlpFrame_free reply sessionId
  · exact costs_ret ()

theorem waitServiceConnection_costs (timeoutPer attempts : ℕ) :
    Costs P.price (attempts*P.read timeoutPer)
      (waitServiceConnection session timeoutPer attempts) := by
  induction attempts with
  | zero => exact costs_ret _
  | succ attempts ih =>
    apply P.turn
    intro frame
    split
    · exact ih
    · split_ifs
      · split
        · exact costs_fromResult _
        · exact ih
      · exact costs_free_bind (P.handleCapex_free _ _) fun _ => ih
      · exact ih

theorem answerCapexQueries_costs (attempts capexHandled : ℕ) :
    Costs P.price (attempts*P.read 3000) (answerCapexQueries session attempts capexHandled) := by
  induction attempts generalizing capexHandled with
  | zero => exact costs_ret _
  | succ attempts ih =>
    apply P.turn
    intro frame
    split
    · split_ifs
      · exact costs_ret ()
      · exact ih _
    · split_ifs
      · exact costs_free_bind (P.handleCapex_free _ _) fun _ => ih _
      · exact ih _

theorem findComponentId_costs (attempts : ℕ) :
    Costs P.price (attempts*P.read 3000) (findComponentId session attempts) := by
  induction attempts with
  | zero => exact costs_ret _
  | succ attempts ih =>
    apply P.turn
    intro frame
    split
    · exact ih
    · split_ifs
      · exact costs_free_bind (costs_fromResult _) fun _ => costs_ret _
      · exact costs_ret _
      · exact costs_free_bind (P.handleCapex_free _ _) fun _ => ih
      · exact ih

theorem runServiceConnection_costs :
    Costs P.price (35*P.read 3000 + 15*P.read 5000) (runServiceConnection session) := by
  -- read by read, in the order of the phase
  have hcosts : Costs P.price (10*P.read 3000 + (15*P.read 3000 + (10*P.read 3000 +
      15*P.read 5000))) (runServiceConnection session) := by
    apply costs_free_bind (costs_fromResult _)
    intro capexRequest
    apply costs_free_bind (P.sendSlpFrame_free _ _)
    intro _
    apply costs_bind (P.waitServiceConnection_costs 3000 10)
    rintro ⟨capexOk, capexSessions⟩
    simp only
    split_ifs
    · exact costs_free_bind (P.logError_free _) fun _ => costs_ret _
    apply costs_bind (P.answerCapexQueries_costs 15 0)
    intro _
    apply costs_free_bind (costs_fromResult _)
    intro query
    apply costs_free_bind (P.sendSlpFrame_free _ _)
    intro _
    apply costs_bind (P.findComponentId_costs 10)
    intro cameraComponentId
    apply costs_free_bind (costs_fromResult _)
    intro serviceRequest
    apply costs_free_bind (P.sendSlpFrame_free _ _)
    intro _
    apply (costs_bind (m := 0) (P.waitServiceConnection_costs 5000 15) ?_).mono le_rfl
    rintro ⟨ok, serviceSessions⟩
    simp only
    split_ifs
    · exact costs_free_bind (P.logError_free _) fun _ => costs_ret _
    · exact costs_ret _
  exact hcosts.mono (by omega)

section
variable (jsonLoads : Bytes → Option Json)

theorem handleBtMessage_free (msg : Bytes) :
    Costs P.price 0 (handleBtMessage jsonLoads session cmdSession msg) := by
  unfold handleBtMessage
  split
  · split_ifs
    · exact costs_free_bind (P.handleCapex_free _ _) fun _ => costs_ret _
    · exact costs_ret _
  · apply costs_free_bind (costs_fromResult _)
    intro props
    apply costs_free_bind (costs_fromResult _)
    intro msgId
    split_ifs
    · apply costs_free_bind (P.perform_costs .now)
      intro now
      exact costs_free_bind (P.sendSlpFrame_free _ _) fun _ => costs_ret _
    · exact costs_free_bind (P.sendSlpFrame_free _ _) fun _ => costs_ret _
    · apply costs_free_bind (costs_fromResult _)
      intro action
      apply costs_free_bind (costs_fromResult _)
      intro description
      exact costs_free_bind (P.sendSlpFrame_free _ _) fun _ => costs_ret _
    · exact costs_ret _

theorem waitInfo_costs (attempts : ℕ) :
    Costs P.price (attempts*P.read 3000) (waitInfo jsonLoads session cmdSession attempts) := by
  induction attempts with
  | zero => exact costs_ret _
  | succ attempts ih =>
    apply P.turn
    intro frame
    split
    · exact ih
    · apply costs_free_bind (P.handleBtMessage_free jsonLoads _)
      rintro ⟨msgId, props⟩
      simp only
      split_ifs
      · apply costs_free_bind (costs_fromResult _)
        intro wifiInfo
        exact costs_free_bind (P.sendSlpFrame_free _ _) fun _ => costs_ret _
      · exact ih

theorem drain_costs (attempts : ℕ) :
    Costs P.price (attempts*P.read 200) (drain jsonLoads session cmdSession attempts) := by
  induction attempts with
  | zero => exact costs_ret _
  | succ attempts ih =>
    apply P.turn
    intro frame
    split
    · exact ih
    · exact costs_free_bind (P.handleBtMessage_free jsonLoads _) fun _ => ih

theorem waitLiveview_costs (attempts : ℕ) :
    Costs P.price (attempts*P.read 1000)
      (waitLiveview jsonLoads session cmdSession attempts) := by
  induction attempts with
  | zero => exact costs_ret _
  | succ attempts ih =>
    apply P.turn
    intro frame
    split
    · exact ih
    · apply costs_free_bind (P.handleBtMessage_free jsonLoads _)
      rintro ⟨msgId, props⟩
      simp only
      split_ifs
      · exact costs_free_bind (costs_fromResult _) fun _ => costs_ret _
      · exact ih

theorem exchangeDeviceInfo_costs :
    Costs P.price (P.pause 100 + (30*P.read 3000 + (75*P.read 200 + 30*P.read 1000)))
      (exchangeDeviceInfo jsonLoads session cmdSession) := by
  apply costs_free_bind (P.sendSlpFrame_free _ _)
  intro _
  apply costs_bind (P.perform_costs (.sleep 100))
  intro _
  apply costs_free_bind (P.sendSlpFrame_free _ _)
  intro _
  apply costs_bind (P.waitInfo_costs jsonLoads 30)
  intro wifiInfo
  have hrest : Costs P.price (75*P.read 200 + 30*P.read 1000) (do
      drain jsonLoads session cmdSession 75
      Session.sendSlpFrame session (SDK_HEADER ++ makeCmdRequestJson "liveview") cmdSession
      waitLiveview jsonLoads session cmdSession 30
      return wifiInfo) := by
    apply costs_bind (P.drain_costs jsonLoads 75)
    intro _
    apply costs_free_bind (P.sendSlpFrame_free _ _)
    intro _
    exact (costs_bind (m := 0) (P.waitLiveview_costs jsonLoads 30) fun _ => costs_ret _).mono le_rfl
  split_ifs
  · exact costs_free_bind (P.logError_free _) fun _ => hrest
  · exact hrest

theorem waitDeviceUrl_costs (attempts : ℕ) :
    Costs P.price (attempts*P.read 200)
      (waitDeviceUrl jsonLoads session cmdSession attempts) := by
  induction attempts with
  | zero => exact costs_ret _
  | succ attempts ih =>
    apply P.turn
    intro frame
    split
    · exact ih
    · apply costs_free_bind (P.handleBtMessage_free jsonLoads _)
      rintro ⟨msgId, props⟩
      simp only
      split_ifs
      · exact costs_free_bind (costs_fromResult _) fun _ => costs_ret _
      · exact ih

theorem probeSsdp_costs (cameraIp : PyStr) (attempts : ℕ) :
    Costs P.price (attempts*P.probe) (probeSsdp cameraIp attempts) := by
  induction attempts with
  | zero => exact costs_ret _
  | succ attempts ih =>
    have hprobe := P.perform_costs (.ssdpProbe cameraIp)
    refine (costs_bind hprobe fun found => ?_).mono
      (by rw [Nat.succ_mul, Nat.add_comm]; exact le_rfl)
    split
    · split_ifs
      · exact ih
      · exact costs_ret _
    · exact ih

/-- What phases 5 to 7 cost. -/
def streaming : ℕ :=
  P.join + (P.pause 2000 + (P.resolve + (50*P.read 200 + 5*P.probe + (P.fetch + P.stream))))

theorem discoverDeviceUrl_costs (cameraIp : PyStr) :
    Costs P.price (50*P.read 200 + 5*P.probe)
      (discoverDeviceUrl jsonLoads session cmdSession cameraIp) := by
  apply costs_bind (P.waitDeviceUrl_costs jsonLoads 50)
  intro found
  split
  · exact costs_ret _
  · exact P.probeSsdp_costs cameraIp 5

theorem joinAndStream_costs (wifiInfo : WifiInfo) :
    Costs P.price P.streaming (joinAndStream jsonLoads session cmdSession wifiInfo) := by
  unfold joinAndStream
  extract_lets ssid password
  split
  · split
    · exact (costs_free_bind (P.logError_free _) fun _ => costs_ret _)
    · exact costs_ret _
  · apply costs_bind (P.perform_costs (.connectToWifi ssid password))
    intro connected
    split
    · exact costs_ret _
    apply costs_bind (P.perform_costs (.sleep 2000))
    intro _
    apply costs_bind (P.perform_costs .resolveCameraIp)
    intro cameraIp
    apply costs_bind (P.discoverDeviceUrl_costs jsonLoads cameraIp)
    intro deviceUrl
    split
    · exact (P.logError_free _).mono (Nat.zero_le _)
    · split_ifs
      · exact (P.logError_free _).mono (Nat.zero_le _)
      · apply costs_bind (P.perform_costs (.fetchUpnpServices _))
        intro services
        exact P.perform_costs (.startLiveStream cameraIp services)

/-- What phases 3 and 4 cost. -/
def serving : ℕ :=
  35*P.read 3000 + 15*P.read 5000 +
    (P.pause 100 + (30*P.read 3000 + (75*P.read 200 + 30*P.read 1000)))

theorem runServices_costs :
    Costs P.price (P.serving + P.streaming) (runServices jsonLoads session) := by
  have hcosts : Costs P.price (35*P.read 3000 + 15*P.read 5000 +
      (P.pause 100 + (30*P.read 3000 + (75*P.read 200 + 30*P.read 1000)) + P.streaming))
      (runServices jsonLoads session) := by
    apply costs_bind P.runServiceConnection_costs
    intro cmdSession
    split
    · exact costs_ret ()
    · apply costs_bind (P.exchangeDeviceInfo_costs jsonLoads)
      intro wifiInfo
      split
      · exact costs_ret ()
      · exact P.joinAndStream_costs jsonLoads _
  exact hcosts.mono (by rw [serving]; omega)

end

theorem readFrame_costs (timeout : ℕ) :
    Costs P.price (P.read timeout) (Session.readFrame session timeout) :=
  P.perform_costs (.readFrame session timeout)

theorem sendFrame_free (payload : Bytes) : Costs P.price 0 (Session.sendFrame session payload) :=
  costs_free_bind (costs_fromResult _) fun _ => P.perform_costs (.sendFrame session payload)

theorem report_free (text : String) (a : α) :
    Costs P.price 0 (Session.logError text >>= fun _ => pure a) :=
  costs_free_bind (P.logError_free text) fun _ => costs_ret a

theorem exchangePeerDescription_costs :
    Costs P.price (P.read 15000) (exchangePeerDescription session) := by
  apply (costs_bind (m := 0) (P.readFrame_costs 15000) ?_).mono le_rfl
  intro payload
  match payload with
  | none | some [] => exact P.report_free _ _
  | some (kind :: rest) =>
    by_cases hkind : kind ≠ 5
    · simp only [if_pos hkind]
      exact P.report_free _ _
    · simp only [if_neg hkind]
      apply costs_free_bind (costs_fromResult _)
      intro protoVersion
      apply costs_free_bind (costs_fromResult _)
      intro swVersion
      apply costs_free_bind (costs_fromResult _)
      intro response
      exact costs_free_bind (P.sendFrame_free _) fun _ => costs_ret _

theorem awaitChallenge_costs :
    Costs P.price (P.read 5000 + P.read 5000) (awaitChallenge session) := by
  have hauth (kind : UInt8) (rest : Bytes) : Costs P.price 0
      (if kind ≠ 16 then
        (do Session.logError s!"Expected AUTH_REQUEST (16), got {kind}"; return none)
      else (do
        let _ ← fromResult (byteAt (kind :: rest) 1)
        return some (rest.drop 1)) : Session (Option Bytes)) := by
    split_ifs
    · exact P.report_free _ _
    · exact costs_free_bind (costs_fromResult _) fun _ => costs_ret _
  apply costs_bind (P.readFrame_costs 5000)
  intro payload
  obtain _ | _ | ⟨kind, rest⟩ := payload
  · exact (P.report_free _ _).mono (Nat.zero_le _)
  · exact (P.report_free _ _).mono (Nat.zero_le _)
  by_cases hkind : kind = 9
  · simp only [if_pos hkind]
    apply (costs_bind (m := 0) (P.readFrame_costs 5000) ?_).mono le_rfl
    intro payload
    obtain _ | _ | ⟨kind, rest⟩ := payload
    · exact P.report_free _ _
    · exact P.report_free _ _
    · exact hauth kind rest
  · simp only [if_neg hkind]
    exact (hauth kind rest).mono (Nat.zero_le _)

theorem awaitAuthRequest_costs :
    Costs P.price (P.opening + (P.read 15000 + (P.read 5000 + P.read 5000))) awaitAuthRequest := by
  apply costs_bind (P.perform_costs .openConnection)
  rintro (_ | fd)
  · exact costs_ret _
  apply costs_bind P.exchangePeerDescription_costs
  rintro (_ | session)
  · exact costs_ret _
  apply (costs_bind (m := 0) P.awaitChallenge_costs ?_).mono le_rfl
  rintro (_ | challenge)
  · exact costs_ret _
  · exact costs_ret _

theorem authenticate_costs (challenge : Bytes) :
    Costs P.price (P.challenge + (P.read 10000 + P.confirm)) (authenticate session challenge) := by
  apply costs_bind (P.perform_costs (.processChallenge challenge))
  rintro (_ | response)
  · exact costs_ret _
  apply costs_free_bind (P.sendFrame_free _)
  intro _
  apply costs_bind (P.readFrame_costs 10000)
  intro payload
  match payload with
  | none | some [] => exact (P.report_free _ _).mono (Nat.zero_le _)
  | some (kind :: rest) =>
    by_cases hkind : kind ≠ 18
    · simp only [if_pos hkind]
      exact (P.report_free _ _).mono (Nat.zero_le _)
    · simp only [if_neg hkind]
      exact P.perform_costs (.verifyConfirm (rest.drop 1))

theorem cleanup_free (authenticator : Bool) : Costs P.price 0 (cleanup authenticator) := by
  rw [cleanup]
  split_ifs
  · exact costs_free_bind (P.perform_costs .closeAuthenticator) fun _ =>
      P.perform_costs .closeConnection
  · exact P.perform_costs .closeConnection

/-- What phase 1 costs, and phase 2 up to the challenge. -/
def meeting : ℕ := P.opening + (P.read 15000 + (P.read 5000 + P.read 5000))

/-- What the authentication costs. -/
def proving : ℕ := P.challenge + (P.read 10000 + P.confirm)

theorem runWifiSession_costs (jsonLoads : Bytes → Option Json) :
    Costs P.price (P.meeting + (P.proving + (P.serving + P.streaming)))
      (runWifiSession jsonLoads) := by
  -- the clean-up is free, and so is all that ends early
  have hclean (authenticator : Bool) : Costs P.price (P.proving + (P.serving + P.streaming))
      (cleanup authenticator) := (P.cleanup_free authenticator).mono (Nat.zero_le _)
  have hraise (e : PyErr) : Costs P.price (P.proving + (P.serving + P.streaming))
      (tryFinally (.raise e) (cleanup false) : Session Unit) :=
    (costs_tryFinally (costs_raise e) (P.cleanup_free false)).mono (Nat.zero_le _)
  apply costs_bind (costs_attempt P.awaitAuthRequest_costs)
  intro found
  match found with
  | .error e => exact hraise e
  | .ok none => exact hclean false
  | .ok (some (session, challenge)) =>
    apply costs_free_bind
      (costs_attempt (P.perform_costs (.makeAuthenticator CAMERA_MAC PHONE_MAC)))
    intro made
    match made with
    | .error e => exact hraise e
    | .ok () =>
      refine (costs_tryFinally ?_ (P.cleanup_free true)).mono le_rfl
      apply costs_bind (P.authenticate_costs challenge)
      intro confirmed
      split_ifs
      · exact P.runServices_costs jsonLoads
      · exact costs_ret ()

end Prices

end Gear360
