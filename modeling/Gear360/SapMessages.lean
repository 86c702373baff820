import Gear360.Json

namespace Gear360

def FIELD_SEPARATOR : UInt8 := 0x3B

def MSG_SERVICE_CONNECTION_REQUEST : UInt8 := 1
def MSG_CAPEX_QUERY : UInt8 := 1
def MSG_CAPEX_RESPONSE : UInt8 := 2
def MSG_PEER_DESCRIPTION_RESPONSE : UInt8 := 6
def MSG_CAPEX_RESPONSE_LEGACY : UInt8 := 6

def ROLE_PROVIDER : ℕ := 2
def ASP_VERSION : ℕ := 0x0100

def PHONE_MODEL : String := "SM-G930F"
def PHONE_MANUFACTURER : String := "samsung"
def PHONE_FRIENDLY_NAME : String := "SAMSUNG"
def PHONE_WIFI_MAC : String := "A8:3B:76:BA:B2:FE"
def DEVICE_PROFILE : String := "/system/DI_360_2D"
def DEVICE_UUID : String := "00000000-0000-0000-0000-000000000001"
def SERVER_FRIENDLY_NAME : String := "NX360_SERVER"

structure Channel where
  sessionId : ℕ
  channelId : ℕ
  qosTrafficClass : ℕ
  qosDataRate : ℕ
  qosPriorityClass : ℕ
  payloadType : ℕ
deriving DecidableEq

/-- A text field with its terminator. -/
def terminated (text : String) : Bytes := utf8 text ++ [FIELD_SEPARATOR]

/-- `frame.append(value)` -/
def appended (value : ℕ) : Except PyErr Bytes :=
  if value < 256 then .ok [UInt8.ofNat value]
  else .error (.valueError "byte must be in range(0, 256)")

/-- The parts of a frame in order; the first part that cannot be encoded raises. -/
def frameOfParts (parts : List (Except PyErr Bytes)) : Except PyErr Bytes := do
  let parts ← parts.mapM id
  return parts.flatten

/-- Parts that can all be encoded. -/
theorem frameOfParts_ok (parts : List Bytes) :
    frameOfParts (parts.map Except.ok) = .ok parts.flatten := by
  have hparts : (parts.map Except.ok).mapM id = (.ok parts : Except PyErr (List Bytes)) := by
    induction parts with
    | nil => rfl
    | cons part parts ih =>
      rw [List.map_cons, List.mapM_cons, ih]
      rfl
  rw [frameOfParts, hparts]
  rfl

/-- `make_peer_description_response` -/
def makePeerDescriptionResponse (protoVersion swVersion : ℕ) : Except PyErr Bytes :=
  frameOfParts
    [ .ok [MSG_PEER_DESCRIPTION_RESPONSE],
      be16 protoVersion,
      be16 swVersion,
      appended 0, -- status: accept
      appended 2, -- config code
      be32 0x000FFAAA, -- APDU size
      be16 0xF0AA, -- SSDU size
      be16 0x03FE, -- concurrent sessions
      be16 0xFFFF, -- session-layer timeout
      appended 2, -- transport-layer mode
      be16 10, -- transport-layer window size
      appended 1, -- connection-layer mode
      .ok (terminated PHONE_MODEL),
      .ok (terminated PHONE_MANUFACTURER),
      .ok (terminated PHONE_FRIENDLY_NAME),
      .ok (terminated DEVICE_PROFILE),
      .ok (utf8 DEVICE_UUID),
      appended 0 ] -- device category

/-- `make_service_connection_request`: the channel fields are laid out column by column. -/
def makeServiceConnectionRequest (profileId : String) (channels : List Channel)
    (initiatorId acceptorId : ℕ) : Except PyErr Bytes :=
  frameOfParts (
    [ .ok [MSG_SERVICE_CONNECTION_REQUEST],
      be16 acceptorId,
      be16 initiatorId,
      .ok (terminated profileId),
      be16 channels.length ] ++
    channels.map (fun channel => be16 channel.sessionId) ++
    channels.map (fun channel => be16 channel.channelId) ++
    channels.flatMap (fun channel =>
      [ appended channel.qosTrafficClass,
        appended channel.qosDataRate,
        appended channel.qosPriorityClass ]) ++
    channels.map (fun channel => appended channel.payloadType))

/-- The checksum that only query types 2 and 3 carry. -/
def checksumField (queryType checksum : ℕ) : Except PyErr Bytes :=
  if queryType = 2 ∨ queryType = 3 then be32 checksum else .ok []

def makeCapexQuery (queryType checksum : ℕ) (profiles : List String) : Except PyErr Bytes :=
  frameOfParts (
    [ .ok [MSG_CAPEX_QUERY],
      appended queryType,
      checksumField queryType checksum,
      appended profiles.length ] ++
    profiles.map (fun profile => .ok (terminated profile)))

def makeCapexResponse (queryType checksum : ℕ) : Except PyErr Bytes :=
  frameOfParts
    [ .ok [MSG_CAPEX_RESPONSE],
      appended queryType, -- echo the query type back
      checksumField queryType checksum,
      be16 1, -- one record
      be16 0, -- uuid
      .ok (terminated SERVER_FRIENDLY_NAME),
      be16 1, -- one service agent
      be16 0, -- component id
      .ok (terminated DEVICE_PROFILE),
      be16 ASP_VERSION,
      appended ROLE_PROVIDER,
      be16 10 ] -- connection timeout

def makeCapexResponseLegacy : Except PyErr Bytes :=
  frameOfParts
    [ .ok [MSG_CAPEX_RESPONSE_LEGACY],
      be32 1, -- 32-bit record count
      be16 0, -- uuid
      .ok (terminated SERVER_FRIENDLY_NAME),
      appended 0x00, -- padding
      appended 0x01, -- one service agent
      be16 0, -- component id
      .ok (terminated DEVICE_PROFILE),
      be16 ASP_VERSION,
      appended (ROLE_PROVIDER <<< 6) ]

structure CapexService where
  uuid : ℕ
  friendlyName : PyStr
  componentId : ℕ
  profileId : PyStr
  aspVersion : ℕ
  role : ℕ
  connTimeout : ℕ
deriving DecidableEq

/-- `msg.find(byte, start)`, with `none` for -1. -/
def findByte (msg : Bytes) (byte : UInt8) (start : ℕ) : Option ℕ :=
  ((msg.drop start).findIdx? (· = byte)).map (· + start)

/-- The agents of one record. A break leaves the record, and the next one starts where the
offset stands. -/
def parseAgents (msg : Bytes) (uuid : ℕ) (friendlyName : PyStr) :
    ℕ → ℕ → List CapexService → Except PyErr (ℕ × List CapexService)
  | 0, offset, services => .ok (offset, services)
  | nAgents+1, offset, services =>
    -- each early exit is a `break` of the inner loop, with the offset where it stood
    if msg.length < offset+2 then .ok (offset, services)
    else do
      let componentId ← unpackH (slice msg offset (offset+2))
      let offset := offset+2
      match findByte msg FIELD_SEPARATOR offset with
      | none => return (offset, services)
      | some profileEnd =>
        let profileId := decodeReplace (slice msg offset profileEnd)
        let offset := profileEnd+1
        if msg.length < offset+5 then return (offset, services)
        else
          let aspVersion ← unpackH (slice msg offset (offset+2))
          let role ← byteAt msg (offset+2)
          let connTimeout ← unpackH (slice msg (offset+3) (offset+5))
          parseAgents msg uuid friendlyName nAgents (offset+5)
            (services ++
              [⟨uuid, friendlyName, componentId, profileId, aspVersion, role, connTimeout⟩])

def parseRecords (msg : Bytes) : ℕ → ℕ → List CapexService → Except PyErr (List CapexService)
  | 0, _, services => .ok services
  | nRecords+1, offset, services =>
    if msg.length < offset+2 then .ok services
    else do
      let uuid ← unpackH (slice msg offset (offset+2))
      let offset := offset+2
      match findByte msg FIELD_SEPARATOR offset with
      | none => return services
      | some nameEnd =>
        let friendlyName := decodeReplace (slice msg offset nameEnd)
        let offset := nameEnd+1
        if msg.length < offset+2 then return services
        else
          let nAgents ← unpackH (slice msg offset (offset+2))
          let (offset, services) ← parseAgents msg uuid friendlyName nAgents (offset+2) services
          parseRecords msg nRecords offset services

def parseCapexResponse (msg : Bytes) : Except PyErr (List CapexService) :=
  match msg with
  | kind :: queryType :: _ =>
    if kind ≠ MSG_CAPEX_RESPONSE then .ok []
    else
      -- types 2 and 3 carry a checksum before the record count
      let offset := if queryType = 2 ∨ queryType = 3 then 6 else 2
      if msg.length < offset+2 then .ok []
      else do
        let nRecords ← unpackH (slice msg offset (offset+2))
        parseRecords msg nRecords (offset+2) []
  | _ => .ok []

/-- The wall clock and its UTC offset. -/
structure LocalTime where
  year : Fin 10000
  month : Fin 13
  day : Fin 32
  hour : Fin 24
  minute : Fin 60
  second : Fin 60
  offsetNegative : Bool
  offsetHours : Fin 24
  offsetMinutes : Fin 60
deriving DecidableEq, Inhabited

/-- `%m`, `%d`, `%H`, `%M` and `%S`. -/
def twoDigits (n : ℕ) : String := String.ofList [Nat.digitChar (n/10%10), Nat.digitChar (n%10)]

def strfDate (now : LocalTime) : String :=
  toString now.year.val ++ "/" ++ twoDigits now.month ++ "/" ++ twoDigits now.day

def strfTime (now : LocalTime) : String :=
  twoDigits now.hour ++ ":" ++ twoDigits now.minute ++ ":" ++ twoDigits now.second

/-- `%z` cut into hours and minutes. -/
def utcRegion (now : LocalTime) : String :=
  (if now.offsetNegative then "-" else "+") ++ twoDigits now.offsetHours ++ ":" ++
    twoDigits now.offsetMinutes

def makeMessageJson (title description : String) (properties : List (String × Json)) : Bytes :=
  dumps (.dict
    [ ("title", .strOf title),
      ("description", .strOf description),
      ("type", .strOf "object"),
      ("properties", .dict properties) ])

def makeDeviceInfoJson (wifiDirect : String) : Bytes :=
  makeMessageJson "Phone Device information Message"
    "Message structure in JSON for Phone Device information"
    [ ("msgId", .strOf "info"),
      ("wifi-direct", .dict [("enum", .strOf wifiDirect), ("description", .strOf "100")]),
      ("wifi-mac-address",
        .dict [("type", .strOf "string"), ("description", .strOf PHONE_WIFI_MAC)]),
      ("device-name", .dict [("type", .strOf "string"), ("description", .strOf PHONE_MODEL)]) ]

def makeWidgetInfoRequestJson : Bytes :=
  makeMessageJson "Widget info request Message"
    "Message structure in JSON for Widget Info request"
    [ ("msgId", .strOf "widget-info-req") ]

def makeDateTimeResponseJson (now : LocalTime) : Bytes :=
  makeMessageJson "Date-Time response Message" "Message structure in JSON for Date-Time response"
    [ ("msgId", .strOf "date-time-rsp"),
      ("date", .dict [("type", .strOf "string"), ("description", .strOf (strfDate now))]),
      ("time", .dict [("type", .strOf "string"), ("description", .strOf (strfTime now))]),
      ("region", .dict [("type", .strOf "string"), ("description", .strOf (utcRegion now))]),
      ("summer", .dict [("type", .strOf "string"), ("description", .strOf "false")]) ]

def makeDeviceInfoAckJson : Bytes :=
  makeMessageJson "Camera Device info response Message"
    "Message structure in JSON for Camera Device info response"
    [ ("msgId", .strOf "info"),
      ("result", .dict [("enum", .strOf "success"), ("description", .strOf "100")]) ]

def makeConfigInfoAckJson : Bytes :=
  makeMessageJson "Camera Config information Message"
    "Message structure in JSON for Camera Config Info response"
    [ ("msgId", .strOf "config-info"),
      ("result", .dict [("enum", .strOf "success"), ("description", .strOf "100")]) ]

/-- The description is echoed as it came, whatever JSON value it is. -/
def makeCmdResponseJson (description : Json) : Bytes :=
  makeMessageJson "Command response Message" "Message structure in JSON for Command response"
    [ ("msgId", .strOf "cmd-rsp"),
      ("result", .dict [("enum", .strOf "success"), ("description", description)]),
      ("r-code", .dict [("type", .strOf "number"), ("description", .int 100)]) ]

def makeCmdRequestJson (description : String) : Bytes :=
  makeMessageJson "Command request Message" "Message structure in JSON for Command request"
    [ ("msgId", .strOf "cmd-req"),
      ("action", .dict [("enum", .strOf "execute"), ("description", .strOf description)]) ]

end Gear360
