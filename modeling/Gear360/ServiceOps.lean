import Gear360.Observer
import Gear360.SlpReader
import Gear360.WifiSession

namespace Gear360

open Interaction
open Interaction.Prog (perform fromResult)

/-- An operation with plain frames, or with none. -/
def SessionOp.Plain : SessionOp → Prop
  | .readFrame _ _ | .sendFrame _ _ | .verifyConfirm _ | .logError _ => True
  | _ => False

theorem plain_logError {α : Type} (text : String) (a : α) :
    Performs SessionOp.Plain (Session.logError text >>= fun _ => pure a) :=
  performs_bind (performs_perform (show SessionOp.Plain (.logError text) from trivial))
    fun _ => performs_ret _ a

theorem plain_readFrame (session : SapSession) (timeout : ℕ) :
    Performs SessionOp.Plain (Session.readFrame session timeout) :=
  performs_perform (show SessionOp.Plain (.readFrame session timeout) from trivial)

theorem plain_sendFrame (session : SapSession) (payload : Bytes) :
    Performs SessionOp.Plain (Session.sendFrame session payload) :=
  performs_bind (performs_fromResult _ _) fun _ =>
    performs_perform (show SessionOp.Plain (.sendFrame session payload) from trivial)

theorem awaitChallenge_plain (session : SapSession) :
    Performs SessionOp.Plain (awaitChallenge session) := by
  have hauth (kind : UInt8) (rest : Bytes) : Performs SessionOp.Plain
      (if kind ≠ 16 then
        (do Session.logError s!"Expected AUTH_REQUEST (16), got {kind}"; return none)
      else (do
        let _ ← fromResult (byteAt (kind :: rest) 1)
        return some (rest.drop 1)) : Session (Option Bytes)) := by
    split_ifs
    · exact plain_logError _ _
    · exact performs_bind (performs_fromResult _ _) fun _ => performs_ret _ _
  apply performs_bind (plain_readFrame session 5000)
  intro payload
  match payload with
  | none | some [] => exact plain_logError _ _
  | some (kind :: rest) =>
    by_cases hkind : kind = 9
    · simp only [if_pos hkind]
      apply performs_bind (plain_readFrame session 5000)
      intro payload
      match payload with
      | none | some [] => exact plain_logError _ _
      | some (kind :: rest) => exact hauth kind rest
    · simp only [if_neg hkind]
      exact hauth kind rest

/-- The challenge is processed first, and only once. -/
theorem authenticate_plain {session : SapSession} {challenge : Bytes} {t : List SessionEvent}
    {r : Except PyErr Bool} (h : Run (authenticate session challenge) t r) :
    ∃ x t', t = ⟨.processChallenge challenge, x⟩ :: t' ∧ ∀ e ∈ t', e.1.Plain := by
  rcases run_bind_cases h with ⟨e, hp, -⟩ | ⟨t₁, answer, t₂, hp, hf, rfl⟩
  · rw [run_perform_iff.mp hp]
    exact ⟨_, [], rfl, fun _ he => nomatch he⟩
  · rw [run_perform_iff.mp hp]
    refine ⟨_, t₂, rfl, ?_⟩
    have hplain {p : Session Bool} (hp : Performs SessionOp.Plain p) (h : Run p t₂ r) :
        ∀ e ∈ t₂, e.1.Plain := hp t₂ r h
    apply hplain _ hf
    match answer with
    | none => exact performs_ret _ _
    | some response =>
      apply performs_bind (plain_sendFrame session _)
      intro _
      apply performs_bind (plain_readFrame session 10000)
      intro payload
      match payload with
      | none | some [] => exact plain_logError _ _
      | some (kind :: rest) =>
        by_cases hkind : kind ≠ 18
        · simp only [if_pos hkind]
          exact plain_logError _ _
        · simp only [if_neg hkind]
          exact performs_perform (show SessionOp.Plain (.verifyConfirm (rest.drop 1)) from trivial)

/-- An operation of the phases after authentication. -/
def SessionOp.Serves (session : SapSession) : SessionOp → Prop
  | .readSlpFrame s _ => s = session
  | .sendSlpFrame s _ _ => s = session
  | .now | .sleep _ | .logError _ => True
  | .connectToWifi _ _ | .resolveCameraIp | .ssdpProbe _ => True
  | .fetchUpnpServices _ | .startLiveStream _ _ => True
  | _ => False

namespace Session

variable {session : SapSession} {α : Type}

/-- Programs of the phases after authentication. -/
abbrev Serves (session : SapSession) (p : Session α) : Prop := Performs (SessionOp.Serves session) p

theorem serves_ret (a : α) : Serves session (.ret a) := performs_ret _ a

theorem serves_fromResult (x : Except PyErr α) : Serves session (fromResult x) :=
  performs_fromResult _ x

theorem serves_logError (text : String) : Serves session (Session.logError text) :=
  performs_perform (show SessionOp.Serves session (.logError text) from trivial)

theorem serves_readSlpFrame (timeout : ℕ) : Serves session (readSlpFrame session timeout) :=
  performs_perform (show SessionOp.Serves session (.readSlpFrame session timeout) from rfl)

theorem serves_sendSlpFrame (payload : Bytes) (sessionId : ℕ) :
    Serves session (sendSlpFrame session payload sessionId) := by
  apply performs_bind (serves_fromResult _)
  intro wire
  exact performs_perform
    (show SessionOp.Serves session (.sendSlpFrame session payload sessionId) from rfl)

end Session

open Session

variable {session : SapSession}

/-- An answer to one message: a frame, or the clock that the frame is to tell. -/
def SessionOp.Replies (session : SapSession) : SessionOp → Prop
  | .sendSlpFrame s _ _ => s = session
  | .now => True
  | _ => False

theorem SessionOp.Replies.serves {o : SessionOp} (h : o.Replies session) : o.Serves session := by
  cases o <;> first | exact h | trivial

theorem replies_sendSlpFrame (payload : Bytes) (sessionId : ℕ) :
    Propagates (SessionOp.Replies session) (sendSlpFrame session payload sessionId) := by
  apply propagates_bind (propagates_fromResult (SessionOp.Replies session) _)
  intro wire
  exact propagates_perform
    (show SessionOp.Replies session (.sendSlpFrame session payload sessionId) from rfl)

theorem handleCapex_replies (msg : Bytes) (sessionId : ℕ) :
    Propagates (SessionOp.Replies session) (handleCapex session msg sessionId) := by
  apply propagates_bind (propagates_fromResult (SessionOp.Replies session) _)
  intro kind
  split_ifs
  · apply propagates_bind (propagates_fromResult (SessionOp.Replies session) _)
    intro queryType
    apply propagates_bind (propagates_fromResult (SessionOp.Replies session) _)
    intro reply
    exact replies_sendSlpFrame reply sessionId
  · apply propagates_bind (propagates_fromResult (SessionOp.Replies session) _)
    intro reply
    exact replies_sendSlpFrame reply sessionId
  · exact propagates_ret _ ()

theorem handleCapex_serves (msg : Bytes) (sessionId : ℕ) :
    Serves session (handleCapex session msg sessionId) :=
  (handleCapex_replies msg sessionId).performs.mono fun _ h => h.serves

theorem waitServiceConnection_serves (timeoutPer attempts : ℕ) :
    Serves session (waitServiceConnection session timeoutPer attempts) := by
  induction attempts with
  | zero => exact serves_ret _
  | succ attempts ih =>
    apply performs_bind (serves_readSlpFrame timeoutPer)
    intro frame
    split
    · exact ih
    · split_ifs
      · split
        · exact serves_fromResult _
        · exact ih
      · exact performs_bind (handleCapex_serves _ _) fun _ => ih
      · exact ih

theorem answerCapexQueries_serves (attempts capexHandled : ℕ) :
    Serves session (answerCapexQueries session attempts capexHandled) := by
  induction attempts generalizing capexHandled with
  | zero => exact serves_ret _
  | succ attempts ih =>
    apply performs_bind (serves_readSlpFrame 3000)
    intro frame
    split
    · split_ifs
      · exact serves_ret ()
      · exact ih _
    · split_ifs
      · exact performs_bind (handleCapex_serves _ _) fun _ => ih _
      · exact ih _

theorem findComponentId_serves (attempts : ℕ) :
    Serves session (findComponentId session attempts) := by
  induction attempts with
  | zero => exact serves_ret _
  | succ attempts ih =>
    apply performs_bind (serves_readSlpFrame 3000)
    intro frame
    split
    · exact ih
    · split_ifs
      · exact performs_bind (serves_fromResult _) fun _ => serves_ret _
      · exact serves_ret _
      · exact performs_bind (handleCapex_serves _ _) fun _ => ih
      · exact ih

theorem runServiceConnection_serves : Serves session (runServiceConnection session) := by
  -- statement by statement
  apply performs_bind (serves_fromResult _)
  intro capexRequest
  apply performs_bind (serves_sendSlpFrame _ _)
  intro _
  apply performs_bind (waitServiceConnection_serves 3000 10)
  rintro ⟨capexOk, capexSessions⟩
  dsimp only
  split_ifs
  · exact performs_bind (serves_logError _) fun _ => serves_ret _
  apply performs_bind (answerCapexQueries_serves 15 0)
  intro _
  apply performs_bind (serves_fromResult _)
  intro query
  apply performs_bind (serves_sendSlpFrame _ _)
  intro _
  apply performs_bind (findComponentId_serves 10)
  intro cameraComponentId
  apply performs_bind (serves_fromResult _)
  intro serviceRequest
  apply performs_bind (serves_sendSlpFrame _ _)
  intro _
  apply performs_bind (waitServiceConnection_serves 5000 15)
  rintro ⟨ok, serviceSessions⟩
  dsimp only
  split_ifs
  · exact performs_bind (serves_logError _) fun _ => serves_ret _
  · exact serves_ret _

theorem sendSlpFrame_fits {payload : Bytes} (h : payload.length ≤ 65533) (sessionId : ℕ) :
    sendSlpFrame session payload sessionId =
      perform (SessionOp.sendSlpFrame session payload sessionId) := by
  have hlen : (packedInner payload sessionId 0).length < 2^16 := by
    rw [packedInner_length]
    omega
  rw [Session.sendSlpFrame, slpWire_packed (by decide) hlen]
  rfl

/-- Nothing is written of a payload that is too long. -/
theorem sendSlpFrame_overflow {payload : Bytes} (h : 65533 < payload.length) (sessionId : ℕ) :
    sendSlpFrame session payload sessionId = .raise .structError := by
  have hlen : 2^16 ≤ (packedInner payload sessionId 0).length := by
    rw [packedInner_length]
    omega
  rw [Session.sendSlpFrame, slpWire_overflow (by decide) hlen]
  rfl

/-- A message with the SDK header in front. -/
theorem sdk_length (message : Bytes) : (SDK_HEADER ++ message).length = message.length+1 := by
  rw [List.length_append, Nat.add_comm]
  rfl

theorem sdk_fits {message : Bytes} (h : message.length ≤ 65532) :
    (SDK_HEADER ++ message).length ≤ 65533 := by
  rw [sdk_length]
  omega

/-- The two first requests of phase 4 have room for the SDK header. -/
theorem deviceInfo_length : (makeDeviceInfoJson "false").length ≤ 65532 := by decide +kernel

theorem widgetInfoRequest_length : makeWidgetInfoRequestJson.length ≤ 65532 := by decide +kernel

/-- The visible part of a run: the reads that returned and the SLP frames that were sent. -/
inductive WireEvent where
  | read (answer : Option SlpFrame)
  | sent (payload : Bytes) (sessionId : ℕ)
deriving DecidableEq

def wireEvent : SessionEvent → Option WireEvent
  | ⟨.readSlpFrame _ _, .ok answer⟩ => some (.read answer)
  | ⟨.sendSlpFrame _ payload sessionId, .ok _⟩ => some (.sent payload sessionId)
  | _ => none

def wire (t : List SessionEvent) : List WireEvent := t.filterMap wireEvent

theorem wire_append (t t' : List SessionEvent) : wire (t ++ t') = wire t ++ wire t' :=
  List.filterMap_append

def framesRead (t : List SessionEvent) : List SlpFrame :=
  t.filterMap fun
    | ⟨.readSlpFrame _ _, .ok (some frame)⟩ => some frame
    | _ => none

theorem mem_framesRead {t : List SessionEvent} {frame : SlpFrame} :
    frame ∈ framesRead t ↔
      ∃ s timeout, (⟨.readSlpFrame s timeout, .ok (some frame)⟩ : SessionEvent) ∈ t := by
  rw [framesRead, List.mem_filterMap]
  constructor
  · intro h
    obtain ⟨e, he, hframe⟩ := h
    split at hframe
    · cases hframe
      exact ⟨_, _, he⟩
    · cases hframe
  · intro h
    obtain ⟨s, timeout, he⟩ := h
    exact ⟨_, he, rfl⟩

section
variable (jsonLoads : Bytes → Option Json) (cmdSession : ℕ)

theorem handleBtMessage_replies (msg : Bytes) :
    Propagates (SessionOp.Replies session) (handleBtMessage jsonLoads session cmdSession msg) := by
  unfold handleBtMessage
  split
  · split_ifs
    · exact propagates_bind (handleCapex_replies _ _) fun _ => propagates_ret _ _
    · exact propagates_ret _ _
  · apply propagates_bind (propagates_fromResult (SessionOp.Replies session) _)
    intro props
    apply propagates_bind (propagates_fromResult (SessionOp.Replies session) _)
    intro msgId
    split_ifs
    · apply propagates_bind (propagates_perform (show SessionOp.Replies session .now from trivial))
      intro now
      exact propagates_bind (replies_sendSlpFrame _ _) fun _ => propagates_ret _ _
    · exact propagates_bind (replies_sendSlpFrame _ _) fun _ => propagates_ret _ _
    · apply propagates_bind (propagates_fromResult (SessionOp.Replies session) _)
      intro action
      apply propagates_bind (propagates_fromResult (SessionOp.Replies session) _)
      intro description
      exact propagates_bind (replies_sendSlpFrame _ _) fun _ => propagates_ret _ _
    · exact propagates_ret _ _

theorem handleBtMessage_serves (msg : Bytes) :
    Serves session (handleBtMessage jsonLoads session cmdSession msg) :=
  (handleBtMessage_replies jsonLoads cmdSession msg).performs.mono fun _ h => h.serves

theorem waitInfo_serves (attempts : ℕ) :
    Serves session (waitInfo jsonLoads session cmdSession attempts) := by
  induction attempts with
  | zero => exact serves_ret _
  | succ attempts ih =>
    apply performs_bind (serves_readSlpFrame 3000)
    intro frame
    -- no frame within the timeout, or a message
    split
    · exact ih
    · apply performs_bind (handleBtMessage_serves jsonLoads cmdSession _)
      rintro ⟨msgId, props⟩
      dsimp only
      split_ifs
      · apply performs_bind (serves_fromResult _)
        intro wifiInfo
        exact performs_bind (serves_sendSlpFrame _ _) fun _ => serves_ret _
      · exact ih

theorem drain_serves (attempts : ℕ) :
    Serves session (drain jsonLoads session cmdSession attempts) := by
  induction attempts with
  | zero => exact serves_ret _
  | succ attempts ih =>
    apply performs_bind (serves_readSlpFrame 200)
    intro frame
    split
    · exact ih
    · exact performs_bind (handleBtMessage_serves jsonLoads cmdSession _) fun _ => ih

theorem waitLiveview_serves (attempts : ℕ) :
    Serves session (waitLiveview jsonLoads session cmdSession attempts) := by
  induction attempts with
  | zero => exact serves_ret _
  | succ attempts ih =>
    apply performs_bind (serves_readSlpFrame 1000)
    intro frame
    split
    · exact ih
    · apply performs_bind (handleBtMessage_serves jsonLoads cmdSession _)
      rintro ⟨msgId, props⟩
      dsimp only
      split_ifs
      · exact performs_bind (serves_fromResult _) fun _ => serves_ret _
      · exact ih

theorem exchangeDeviceInfo_serves :
    Serves session (exchangeDeviceInfo jsonLoads session cmdSession) := by
  apply performs_bind (serves_sendSlpFrame _ _)
  intro _
  apply performs_bind (performs_perform (show SessionOp.Serves session (.sleep 100) from trivial))
  intro _
  apply performs_bind (serves_sendSlpFrame _ _)
  intro _
  apply performs_bind (waitInfo_serves jsonLoads cmdSession 30)
  intro wifiInfo
  -- the part after the info wait, which the error line comes before or does not
  have hrest : Serves session (drain jsonLoads session cmdSession 75 >>= fun _ =>
      sendSlpFrame session (SDK_HEADER ++ makeCmdRequestJson "liveview") cmdSession >>= fun _ =>
      waitLiveview jsonLoads session cmdSession 30 >>= fun _ => pure wifiInfo) := by
    apply performs_bind (drain_serves jsonLoads cmdSession 75)
    intro _
    apply performs_bind (serves_sendSlpFrame _ _)
    intro _
    exact performs_bind (waitLiveview_serves jsonLoads cmdSession 30) fun _ => serves_ret _
  dsimp only
  split_ifs
  · exact performs_bind (serves_logError _) fun _ => hrest
  · exact hrest

theorem waitDeviceUrl_serves (attempts : ℕ) :
    Serves session (waitDeviceUrl jsonLoads session cmdSession attempts) := by
  induction attempts with
  | zero => exact serves_ret _
  | succ attempts ih =>
    apply performs_bind (serves_readSlpFrame 200)
    intro frame
    split
    · exact ih
    · apply performs_bind (handleBtMessage_serves jsonLoads cmdSession _)
      rintro ⟨msgId, props⟩
      dsimp only
      split_ifs
      · exact performs_bind (serves_fromResult _) fun _ => serves_ret _
      · exact ih

theorem probeSsdp_serves (cameraIp : PyStr) (attempts : ℕ) :
    Serves session (probeSsdp cameraIp attempts) := by
  induction attempts with
  | zero => exact serves_ret _
  | succ attempts ih =>
    apply performs_bind
      (performs_perform (show SessionOp.Serves session (.ssdpProbe cameraIp) from trivial))
    intro found
    split
    · split_ifs
      · exact ih
      · exact serves_ret _
    · exact ih

theorem joinAndStream_serves (wifiInfo : WifiInfo) :
    Serves session (joinAndStream jsonLoads session cmdSession wifiInfo) := by
  -- statement by statement: nothing here reads or sends a plain frame
  unfold joinAndStream
  extract_lets ssid password
  split
  · split
    · exact performs_bind (serves_logError _) fun _ => serves_ret _
    · exact serves_ret _
  · apply performs_bind
      (performs_perform (show SessionOp.Serves session (.connectToWifi _ _) from trivial))
    intro connected
    split
    · exact serves_ret _
    apply performs_bind (performs_perform
      (show SessionOp.Serves session (.sleep 2000) from trivial))
    intro _
    apply performs_bind
      (performs_perform (show SessionOp.Serves session .resolveCameraIp from trivial))
    intro cameraIp
    apply performs_bind
    · apply performs_bind (waitDeviceUrl_serves jsonLoads cmdSession 50)
      intro found
      split
      · exact serves_ret _
      · exact probeSsdp_serves cameraIp 5
    · intro deviceUrl
      split
      · exact serves_logError _
      · split_ifs
        · exact serves_logError _
        · apply performs_bind
            (performs_perform (show SessionOp.Serves session (.fetchUpnpServices _) from trivial))
          intro services
          exact performs_perform
            (show SessionOp.Serves session (.startLiveStream cameraIp services) from trivial)

/-- The phases after authentication keep to their session. -/
theorem runServices_serves : Serves session (runServices jsonLoads session) := by
  apply performs_bind runServiceConnection_serves
  intro cmdSession
  split
  · exact serves_ret ()
  · apply performs_bind (exchangeDeviceInfo_serves jsonLoads _)
    intro wifiInfo
    split
    · exact serves_ret ()
    · exact joinAndStream_serves jsonLoads _ _

end

end Gear360
