import Gear360.SapMessages
import Gear360.SapSession

/-! `run_wifi_session` and the phases under it, as programs over frames. Progress lines are
left out, error lines are kept. -/
namespace Gear360

open Interaction
open Interaction.Prog (perform fromResult tryFinally)

/-- What a session asks of its connection, its authenticator, the clock and the network.
Timeouts and pauses are in milliseconds. -/
inductive SessionOp where
  | openConnection
  | closeConnection
  | readFrame (session : SapSession) (timeout : ℕ)
  | sendFrame (session : SapSession) (payload : Bytes)
  | readSlpFrame (session : SapSession) (timeout : ℕ)
  | sendSlpFrame (session : SapSession) (payload : Bytes) (sessionId : ℕ)
  | makeAuthenticator (cameraMac phoneMac : String)
  | processChallenge (challenge : Bytes)
  | verifyConfirm (confirm : Bytes)
  | closeAuthenticator
  | now
  | sleep (pause : ℕ)
  | logError (text : String)
  | connectToWifi (ssid password : Json)
  | resolveCameraIp
  | ssdpProbe (cameraIp : PyStr)
  | fetchUpnpServices (deviceUrl : Json)
  | startLiveStream (cameraIp : PyStr) (services : List (PyStr × PyStr))

@[reducible] def SessionAns : SessionOp → Type
  | .openConnection => Option ℕ
  | .readFrame _ _ => Option Bytes
  | .readSlpFrame _ _ => Option SlpFrame
  | .processChallenge _ => Option Bytes
  | .verifyConfirm _ => Bool
  | .now => LocalTime
  | .connectToWifi _ _ => Bool
  | .resolveCameraIp => PyStr
  | .ssdpProbe _ => Option PyStr
  | .fetchUpnpServices _ => List (PyStr × PyStr)
  | _ => Unit

abbrev Session (α : Type) : Type := Prog SessionAns PyErr α

abbrev SessionEvent : Type := Event SessionAns PyErr

def CAMERA_MAC : String := "C8:38:70:3F:97:75"
def PHONE_MAC : String := "A8:3B:76:BA:B2:FE"

def CAPEX_PROFILE : String := "/System/Reserved/ServiceCapabilityDiscovery"
def SERVICE_PROFILE : String := "/system/DI_360_2D"
def DEFAULT_SESSION : ℕ := 1023
def SDK_HEADER : Bytes := [0x00]

namespace Session

def readFrame (session : SapSession) (timeout : ℕ) : Session (Option Bytes) :=
  perform (SessionOp.readFrame session timeout)

def readSlpFrame (session : SapSession) (timeout : ℕ) : Session (Option SlpFrame) :=
  perform (SessionOp.readSlpFrame session timeout)

/-- A payload whose length does not fit its field is never written. -/
def sendFrame (session : SapSession) (payload : Bytes) : Session Unit := do
  let _ ← fromResult (be16 payload.length)
  perform (SessionOp.sendFrame session payload)

def sendSlpFrame (session : SapSession) (payload : Bytes) (sessionId : ℕ) : Session Unit := do
  let _ ← fromResult (SapSession.slpWire session.useCrc payload sessionId 0)
  perform (SessionOp.sendSlpFrame session payload sessionId)

def logError (text : String) : Session Unit := perform (SessionOp.logError text)

end Session

open Session

/-- A capability query: at least two bytes, the first of them 1 or 5. -/
def isCapexQuery (msg : Bytes) : Bool :=
  match msg with
  | kind :: _ :: _ => kind = 1 ∨ kind = 5
  | _ => false

/-- `_handle_capex` -/
def handleCapex (session : SapSession) (msg : Bytes) (sessionId : ℕ) : Session Unit := do
  let kind ← fromResult (byteAt msg 0)
  if kind = 1 then
    let queryType ← fromResult (byteAt msg 1)
    -- the answer goes out on the session the query came on
    let reply ← fromResult (makeCapexResponse queryType 0)
    sendSlpFrame session reply sessionId
  else if kind = 5 then
    let reply ← fromResult makeCapexResponseLegacy
    sendSlpFrame session reply sessionId

/-- The session ids of a service-connection response, as far as they are there. -/
def readSessions (msg : Bytes) : ℕ → ℕ → Except PyErr (List ℕ)
  | 0, _ => .ok []
  | sessionCount+1, offset =>
    if offset+2 ≤ msg.length then do
      let sessionId ← unpackH (slice msg offset (offset+2))
      let sessions ← readSessions msg sessionCount (offset+2)
      return sessionId :: sessions
    -- the source goes through the remaining turns without reading anything
    else readSessions msg sessionCount offset

/-- Status and sessions of a service-connection response with its terminator at `semicolon`. -/
def parseConnectionResponse (msg : Bytes) (semicolon : ℕ) : Except PyErr (Bool × List ℕ) := do
  let status ← byteAt msg (semicolon+1)
  let sessionCount ←
    if semicolon+4 ≤ msg.length then unpackH (slice msg (semicolon+2) (semicolon+4)) else .ok 0
  let sessions ← readSessions msg sessionCount (semicolon+4)
  return (status = 0, sessions)

/-- `_wait_service_connection` -/
def waitServiceConnection (session : SapSession) (timeoutPer : ℕ) : ℕ → Session (Bool × List ℕ)
  | 0 => return (false, [])
  | attempts+1 => do
    match ← readSlpFrame session timeoutPer with
    | none => waitServiceConnection session timeoutPer attempts
    | some frame =>
      if frame.payload.head? = some 2 ∧ frame.sessionId = DEFAULT_SESSION then
        -- the profile id starts at byte 5
        match findByte frame.payload 0x3B 5 with
        | some semicolon => fromResult (parseConnectionResponse frame.payload semicolon)
        | none => waitServiceConnection session timeoutPer attempts
      else
        if isCapexQuery frame.payload then
          handleCapex session frame.payload frame.sessionId
        waitServiceConnection session timeoutPer attempts

/-- The camera's own queries, until a timeout after the first of them. -/
def answerCapexQueries (session : SapSession) : ℕ → ℕ → Session Unit
  | 0, _ => return ()
  | attempts+1, capexHandled => do
    match ← readSlpFrame session 3000 with
    -- a timeout before the first query does not end the wait
    | none =>
      if capexHandled > 0 then return () else answerCapexQueries session attempts capexHandled
    | some frame =>
      if isCapexQuery frame.payload then
        handleCapex session frame.payload frame.sessionId
        answerCapexQueries session attempts (capexHandled+1)
      else answerCapexQueries session attempts capexHandled

/-- The component id of the last service that matches. -/
def matchingComponentId (services : List CapexService) : Option ℕ :=
  services.foldl (fun found service =>
    if service.profileId = pyStr SERVICE_PROFILE ∨ pyStr "DI_360" <:+: service.profileId then
      some service.componentId
    else found) none

/-- Wait for the answer to our query, answering the camera's. -/
def findComponentId (session : SapSession) : ℕ → Session (Option ℕ)
  | 0 => return none
  | attempts+1 => do
    match ← readSlpFrame session 3000 with
    | none => findComponentId session attempts
    | some frame =>
      if 2 ≤ frame.payload.length ∧ frame.payload.head? = some 2 then
        let services ← fromResult (parseCapexResponse frame.payload)
        return matchingComponentId services
      -- a legacy response has no component id to look for
      else if 2 ≤ frame.payload.length ∧ frame.payload.head? = some 6 then
        return none
      else
        if isCapexQuery frame.payload then
          handleCapex session frame.payload frame.sessionId
        findComponentId session attempts

def capexChannels : List Channel := [⟨1, 255, 3, 1, 3, 0⟩]

def serviceChannels : List Channel :=
  [⟨10, 204, 0, 0, 0, 0⟩, ⟨11, 222, 0, 0, 0, 0⟩, ⟨12, 230, 0, 0, 0, 0⟩]

/-- `_run_service_connection` -/
def runServiceConnection (session : SapSession) : Session (Option ℕ) := do
  let capexRequest ←
    fromResult (makeServiceConnectionRequest CAPEX_PROFILE capexChannels 0xFFFF 0xFFFF)
  sendSlpFrame session capexRequest DEFAULT_SESSION
  let (capexOk, capexSessions) ← waitServiceConnection session 3000 10
  if !capexOk then
    Session.logError "CAPEX service connection failed"
    return none
  -- an empty list of sessions falls back to the id we asked for
  let capexSessionId := capexSessions.headD 1
  answerCapexQueries session 15 0
  let query ← fromResult (makeCapexQuery 2 0 [])
  sendSlpFrame session query capexSessionId
  let cameraComponentId ← findComponentId session 10
  let serviceRequest ← fromResult
    (makeServiceConnectionRequest SERVICE_PROFILE serviceChannels 0 (cameraComponentId.getD 0))
  sendSlpFrame session serviceRequest DEFAULT_SESSION
  let (ok, serviceSessions) ← waitServiceConnection session 5000 15
  if !ok then
    Session.logError "Service connection failed"
    return none
  return some (serviceSessions.headD 10)

section
-- `json.loads(data.decode("utf-8"))`, with `none` where either raises a `ValueError`
variable (jsonLoads : Bytes → Option Json)

/-- The application data of a message, without the SDK header. -/
def appData (msg : Bytes) : Bytes :=
  if msg.length > 1 ∧ msg.head? = some 0x00 then msg.drop 1 else msg

/-- `_handle_bt_message`: the message id and the properties, or `None` and an empty dictionary. -/
def handleBtMessage (session : SapSession) (cmdSession : ℕ) (msg : Bytes) :
    Session (Json × Json) := do
  match jsonLoads (appData msg) with
  | none =>
    if isCapexQuery msg then
      -- the session the query came on is not at hand
      handleCapex session msg 0
    return (.null, .obj [])
  | some value =>
    let props ← fromResult (value.get "properties" (.obj []))
    let msgId ← fromResult (props.get "msgId" (.strOf ""))
    -- three message ids are answered at once; `info` is left to the caller
    if msgId.isStr "date-time-req" then
      let now ← perform SessionOp.now
      sendSlpFrame session (SDK_HEADER ++ makeDateTimeResponseJson now) cmdSession
    else if msgId.isStr "config-info" then
      sendSlpFrame session (SDK_HEADER ++ makeConfigInfoAckJson) cmdSession
    else if msgId.isStr "cmd-req" then
      let action ← fromResult (props.get "action" (.obj []))
      let description ← fromResult (action.get "description" (.strOf ""))
      sendSlpFrame session (SDK_HEADER ++ makeCmdResponseJson description) cmdSession
    return (msgId, props)

structure WifiInfo where
  softapSsid : Json
  softapPw : Json
  wifiSsid : Json
  model : Json
  version : Json

/-- `props.get(name, {}).get(key, "")` -/
def nested (props : Json) (name key : String) : Except PyErr Json := do
  let field ← props.get name (.obj [])
  field.get key (.strOf "")

def wifiInfoOf (props : Json) : Except PyErr WifiInfo := do
  return {
    softapSsid := ← nested props "softap-ssid" "description"
    softapPw := ← nested props "softap-psword" "description"
    wifiSsid := ← nested props "wifi-direct-ssid" "description"
    model := ← nested props "model-name" "description"
    version := ← nested props "model-version" "description" }

/-- The info wait: up to the first `info` message, which is acknowledged. -/
def waitInfo (session : SapSession) (cmdSession : ℕ) : ℕ → Session (Option WifiInfo)
  | 0 => return none
  | attempts+1 => do
    match ← readSlpFrame session 3000 with
    | none => waitInfo session cmdSession attempts
    | some frame =>
      let (msgId, props) ← handleBtMessage jsonLoads session cmdSession frame.payload
      -- what comes after the first one is left to the drain
      if msgId.isStr "info" then
        let wifiInfo ← fromResult (wifiInfoOf props)
        sendSlpFrame session (SDK_HEADER ++ makeDeviceInfoAckJson) cmdSession
        return some wifiInfo
      else waitInfo session cmdSession attempts

def drain (session : SapSession) (cmdSession : ℕ) : ℕ → Session Unit
  | 0 => return ()
  | attempts+1 => do
    match ← readSlpFrame session 200 with
    | none => drain session cmdSession attempts
    | some frame =>
      let _ ← handleBtMessage jsonLoads session cmdSession frame.payload
      drain session cmdSession attempts

/-- The liveview wait: up to the first command response. -/
def waitLiveview (session : SapSession) (cmdSession : ℕ) : ℕ → Session Unit
  | 0 => return ()
  | attempts+1 => do
    match ← readSlpFrame session 1000 with
    | none => waitLiveview session cmdSession attempts
    | some frame =>
      let (msgId, props) ← handleBtMessage jsonLoads session cmdSession frame.payload
      -- the result is only printed, but to look for it may raise
      if msgId.isStr "cmd-rsp" then
        let _ ← fromResult (nested props "result" "enum")
        return ()
      else waitLiveview session cmdSession attempts

/-- Phase 4 of `_run_device_info_and_stream`. -/
def exchangeDeviceInfo (session : SapSession) (cmdSession : ℕ) : Session (Option WifiInfo) := do
  sendSlpFrame session (SDK_HEADER ++ makeDeviceInfoJson "false") cmdSession
  perform (SessionOp.sleep 100)
  sendSlpFrame session (SDK_HEADER ++ makeWidgetInfoRequestJson) cmdSession
  let wifiInfo ← waitInfo jsonLoads session cmdSession 30
  if wifiInfo.isNone then
    Session.logError "No WiFi AP info received from camera"
  -- the camera's queue is emptied before the liveview command, info or no info
  drain jsonLoads session cmdSession 75
  sendSlpFrame session (SDK_HEADER ++ makeCmdRequestJson "liveview") cmdSession
  waitLiveview jsonLoads session cmdSession 30
  return wifiInfo

def waitDeviceUrl (session : SapSession) (cmdSession : ℕ) : ℕ → Session (Option Json)
  | 0 => return none
  | attempts+1 => do
    match ← readSlpFrame session 200 with
    | none => waitDeviceUrl session cmdSession attempts
    | some frame =>
      let (msgId, props) ← handleBtMessage jsonLoads session cmdSession frame.payload
      -- the URL may be missing or empty, and is returned all the same
      if msgId.isStr "device-desc-url" then
        let deviceUrl ← fromResult (nested props "url" "description")
        return some deviceUrl
      else waitDeviceUrl session cmdSession attempts

def probeSsdp (cameraIp : PyStr) : ℕ → Session (Option Json)
  | 0 => return none
  | attempts+1 => do
    let found : Option PyStr ← perform (SessionOp.ssdpProbe cameraIp)
    match found with
    | some deviceUrl =>
      if deviceUrl = [] then probeSsdp cameraIp attempts else return some (.str deviceUrl)
    | none => probeSsdp cameraIp attempts

/-- `_discover_device_url` -/
def discoverDeviceUrl (session : SapSession) (cmdSession : ℕ) (cameraIp : PyStr) :
    Session (Option Json) := do
  match ← waitDeviceUrl jsonLoads session cmdSession 50 with
  | some deviceUrl => return some deviceUrl
  | none => probeSsdp cameraIp 5

/-- Phases 5 to 7, for the WiFi network that phase 4 learned of. -/
def joinAndStream (session : SapSession) (cmdSession : ℕ) (wifiInfo : WifiInfo) : Session Unit := do
  -- an empty string is as good as none, as Python's `or` has it
  let ssid := if wifiInfo.softapSsid.truthy then wifiInfo.softapSsid else wifiInfo.wifiSsid
  let password := wifiInfo.softapPw
  if !(ssid.truthy && password.truthy) then
    if ssid.truthy then
      Session.logError "WiFi Direct not supported, use SoftAP mode"
    return ()
  if !(← perform (SessionOp.connectToWifi ssid password)) then
    return ()
  perform (SessionOp.sleep 2000)
  let cameraIp ← perform SessionOp.resolveCameraIp
  match ← discoverDeviceUrl jsonLoads session cmdSession cameraIp with
  | none => Session.logError "No device URL found"
  | some deviceUrl =>
    if !deviceUrl.truthy then
      Session.logError "No device URL found"
    else
      let services ← perform (SessionOp.fetchUpnpServices deviceUrl)
      perform (SessionOp.startLiveStream cameraIp services)

/-- `_run_device_info_and_stream` -/
def runDeviceInfoAndStream (session : SapSession) (cmdSession : ℕ) : Session Unit := do
  match ← exchangeDeviceInfo jsonLoads session cmdSession with
  | none => return ()
  | some wifiInfo => joinAndStream jsonLoads session cmdSession wifiInfo

/-- Everything after authentication. -/
def runServices (session : SapSession) : Session Unit := do
  match ← runServiceConnection session with
  | none => return ()
  | some cmdSession => runDeviceInfoAndStream jsonLoads session cmdSession

/-- The `finally` block, with the authenticator if there is one. -/
def cleanup (authenticator : Bool) : Session Unit := do
  if authenticator then
    perform SessionOp.closeAuthenticator
  perform SessionOp.closeConnection

/-- PD exchange: the camera's request sets the CRC mode, our response is sent. -/
def exchangePeerDescription (session : SapSession) : Session (Option SapSession) := do
  match ← readFrame session 15000 with
  | none | some [] =>
    Session.logError "No data from camera"
    return none
  | some (kind :: rest) =>
    let payload := kind :: rest
    if kind ≠ 5 then
      Session.logError s!"Expected PD_REQUEST (5), got {kind}"
      return none
    let protoVersion ← fromResult (unpackH (slice payload 1 3))
    let swVersion ← fromResult (unpackH (slice payload 3 5))
    -- the mode byte is not there in a short request
    let cameraClMode := if 20 ≤ payload.length then (payload.getD 19 0).toNat else 0
    let session := { session with useCrc := cameraClMode = 1 }
    let response ← fromResult (makePeerDescriptionResponse protoVersion swVersion)
    sendFrame session response
    return some session

/-- The challenge of the AUTH_REQUEST, after an optional PD_SUCCESS. -/
def awaitChallenge (session : SapSession) : Session (Option Bytes) := do
  match ← readFrame session 5000 with
  | none | some [] =>
    Session.logError "No PD_SUCCESS from camera"
    return none
  | some (kind :: rest) =>
    let payload ←
      if kind = 9 then readFrame session 5000
      else pure (some (kind :: rest))
    match payload with
    | none | some [] =>
      Session.logError "No auth request after PD_SUCCESS"
      return none
    | some (kind :: rest) =>
      if kind ≠ 16 then
        Session.logError s!"Expected AUTH_REQUEST (16), got {kind}"
        return none
      -- the auth type is only printed, but reading it raises on a frame of one byte
      let _ ← fromResult (byteAt (kind :: rest) 1)
      return some (rest.drop 1)

/-- Everything before the authenticator is made. -/
def awaitAuthRequest : Session (Option (SapSession × Bytes)) := do
  let opened : Option ℕ ← perform SessionOp.openConnection
  match opened with
  | none => return none
  | some fd =>
    match ← exchangePeerDescription ⟨fd, false⟩ with
    | none => return none
    | some session =>
      match ← awaitChallenge session with
      | none => return none
      | some challenge => return some (session, challenge)

/-- True once `verify_confirm` has returned True. -/
def authenticate (session : SapSession) (challenge : Bytes) : Session Bool := do
  let answer : Option Bytes ← perform (SessionOp.processChallenge challenge)
  match answer with
  | none => return false
  | some response =>
    sendFrame session ([17, 0] ++ response)
    match ← readFrame session 10000 with
    | none | some [] =>
      Session.logError "No AUTH_CONFIRM from camera"
      return false
    | some (kind :: rest) =>
      if kind ≠ 18 then
        Session.logError s!"Expected AUTH_CONFIRM (18), got {kind}"
        return false
      perform (SessionOp.verifyConfirm (rest.drop 1))

def authenticateAndServe (session : SapSession) (challenge : Bytes) : Session Unit := do
  if ← authenticate session challenge then
    runServices jsonLoads session

/-- `run_wifi_session` -/
def runWifiSession : Session Unit := do
  match ← awaitAuthRequest.attempt with
  -- `finally` sees an exception of these phases before there is an authenticator
  | .error e => tryFinally (.raise e) (cleanup false)
  | .ok none => cleanup false
  | .ok (some (session, challenge)) =>
    let made : Except PyErr Unit ←
      (perform (SessionOp.makeAuthenticator CAMERA_MAC PHONE_MAC)).attempt
    match made with
    | .error e => tryFinally (.raise e) (cleanup false)
    | .ok () => tryFinally (authenticateAndServe jsonLoads session challenge) (cleanup true)

end

/-- What is still to be read: plain frames, and SLP reads with their timeouts. -/
structure Script where
  frames : List Bytes
  slpReads : List (Option SlpFrame)

/-- The camera plays back its script and the authenticator accepts everything. -/
def playback : Handler SessionAns PyErr Script
  | .openConnection, s => (.ok (some 3), s)
  | .closeConnection, s => (.ok (), s)
  | .readFrame _ _, s => (.ok s.frames.head?, { s with frames := s.frames.tail })
  | .sendFrame _ _, s => (.ok (), s)
  | .readSlpFrame _ _, s => (.ok s.slpReads.head?.join, { s with slpReads := s.slpReads.tail })
  | .sendSlpFrame _ _ _, s => (.ok (), s)
  | .makeAuthenticator _ _, s => (.ok (), s)
  | .processChallenge _, s => (.ok (some (List.replicate 102 0)), s)
  | .verifyConfirm _, s => (.ok true, s)
  | .closeAuthenticator, s => (.ok (), s)
  | .now, s => (.ok ⟨2016, 4, 29, 12, 0, 0, false, 2, 0⟩, s)
  | .sleep _, s => (.ok (), s)
  | .logError _, s => (.ok (), s)
  | .connectToWifi _ _, s => (.ok true, s)
  | .resolveCameraIp, s => (.ok (pyStr "192.168.43.1"), s)
  | .ssdpProbe _, s => (.ok none, s)
  | .fetchUpnpServices _, s => (.ok [], s)
  | .startLiveStream _ _, s => (.ok (), s)

end Gear360
