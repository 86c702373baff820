import Gear360.CapexLaw
import Gear360.TraceLaw

namespace Gear360

open Interaction
open Interaction.Prog (perform fromResult)
open Session

theorem escapeChar_length (c : ℕ) : (escapeChar c).length ≤ 12 := by
  unfold escapeChar unicodeEscape
  split_ifs <;> simp

theorem dumpsStr_length (text : PyStr) : (dumpsStr text).length ≤ 12*text.length+2 := by
  have h : (text.flatMap escapeChar).length ≤ 12*text.length := by
    induction text with
    | nil => exact le_refl 0
    | cons c text ih =>
      have hc := escapeChar_length c
      simp only [List.flatMap_cons, List.length_append, List.length_cons]
      omega
  simp only [dumpsStr, List.length_append, List.length_singleton]
  omega

theorem pyStr_length (text : String) : (pyStr text).length = text.length := by
  rw [pyStr, List.length_map, String.length_toList]

theorem twoDigits_length (n : ℕ) : (twoDigits n).length = 2 := String.length_ofList

theorem strfDate_length (now : LocalTime) : (strfDate now).length ≤ 10 := by
  have hyear : (toString now.year.val).length ≤ 4 :=
    Nat.repr_length _ 4 (by norm_num) now.year.isLt
  have hslash : "/".length = 1 := rfl
  simp only [strfDate, String.length_append, twoDigits_length]
  omega

theorem strfTime_length (now : LocalTime) : (strfTime now).length = 8 := by
  simp only [strfTime, String.length_append, twoDigits_length]
  rfl

theorem utcRegion_length (now : LocalTime) : (utcRegion now).length = 6 := by
  simp only [utcRegion, String.length_append, twoDigits_length]
  split_ifs <;> rfl

theorem makeDateTimeResponseJson_length (now : LocalTime) :
    (makeDateTimeResponseJson now).length ≤ 700 := by
  -- the closed parts are as long as in one sample; the date, time and region are bounded
  let sample : LocalTime := ⟨2016, 4, 29, 12, 0, 0, false, 2, 0⟩
  have hsample : (makeDateTimeResponseJson sample).length = 359 := by decide +kernel
  have hdate := dumpsStr_length (pyStr (strfDate now))
  have htime := dumpsStr_length (pyStr (strfTime now))
  have hregion := dumpsStr_length (pyStr (utcRegion now))
  rw [pyStr_length] at hdate htime hregion
  rw [strfTime_length] at htime
  rw [utcRegion_length] at hregion
  have hten := strfDate_length now
  simp only [makeDateTimeResponseJson, makeMessageJson, Json.dict, Json.strOf, List.map_cons,
    List.map_nil, dumps, dumpsFields, List.length_append] at hsample ⊢
  linarith

/-- An echo is as long as the text of the description, and the frame around it. -/
theorem makeCmdResponseJson_length (description : Json) :
    (makeCmdResponseJson description).length = 236 + (dumps description).length := by
  -- the frame around the description, measured once
  have hnull : (makeCmdResponseJson .null).length = 240 := by decide +kernel
  have hdumps : (dumps .null).length = 4 := by decide +kernel
  simp only [makeCmdResponseJson, makeMessageJson, Json.dict, List.map_cons, List.map_nil, dumps,
    dumpsFields, List.length_append] at hnull hdumps ⊢
  linarith

/-! ### Messages and their replies -/

namespace Json

def isObj : Json → Bool
  | obj _ => true
  | _ => false

/-- What `value.get(key, default)` returns for a dictionary. -/
def field (value : Json) (key : String) (default : Json) : Json :=
  (value.get key default).toOption.getD default

theorem get_of_isObj {value : Json} (h : value.isObj = true) (key : String) (default : Json) :
    value.get key default = .ok (value.field key default) := by
  cases value with
  | obj fields => rfl
  | _ => cases h

theorem isStr_unique {value : Json} {text text' : String} (h : value.isStr text = true)
    (h' : value.isStr text' = true) : pyStr text = pyStr text' := by
  cases value with
  | str s => exact (of_decide_eq_true h).symm.trans (of_decide_eq_true h')
  | _ => cases h

@[simp] theorem field_dict_nil (key : String) (default : Json) :
    (dict []).field key default = default := rfl

@[simp] theorem field_dict_cons (name key : String) (value default : Json)
    (fields : List (String × Json)) : (dict ((name, value) :: fields)).field key default =
      if name = key then value else (dict fields).field key default := by
  by_cases h : name = key
  · simp [field, dict, get, lookup, h, Except.toOption]
  · have hname : pyStr name ≠ pyStr key := fun hname => h (pyStr_inj.mp hname)
    simp [field, dict, get, lookup, h, hname, Except.toOption]

@[simp] theorem isObj_dict (fields : List (String × Json)) : (dict fields).isObj = true := rfl

@[simp] theorem isStr_strOf (text text' : String) :
    (strOf text).isStr text' = decide (text = text') := decide_eq_decide.mpr pyStr_inj

end Json

/-- The fields whose own fields are looked at. -/
def NESTED_FIELDS : List String :=
  ["action", "softap-ssid", "softap-psword", "wifi-direct-ssid", "model-name", "model-version",
    "result"]

section
variable (jsonLoads : Bytes → Option Json) (cmdSession : ℕ)

/-- The properties of a JSON message. -/
def properties (value : Json) : Json := value.field "properties" (.obj [])

/-- A frame is not JSON, or its value, its properties and their nested fields are objects. -/
def shaped (payload : Bytes) : Bool :=
  match jsonLoads (appData payload) with
  | none => true
  | some value => value.isObj && (properties value).isObj &&
    NESTED_FIELDS.all fun name => ((properties value).field name (.obj [])).isObj

/-- The message id and the properties of a JSON message. -/
def btMessage (payload : Bytes) : Option (Json × Json) :=
  (jsonLoads (appData payload)).map fun value =>
    ((properties value).field "msgId" (.strOf ""), properties value)

/-- The properties of a message with this id. -/
def messageProps (msgId : String) (payload : Bytes) : Option Json :=
  (btMessage jsonLoads payload).bind fun message =>
    if message.1.isStr msgId then some message.2 else none

/-- What `nested` returns for dictionaries. -/
def nestedField (props : Json) (name key : String) : Json :=
  (props.field name (.obj [])).field key (.strOf "")

/-- What a `cmd-req` asks for. -/
def cmdDescription (props : Json) : Json := nestedField props "action" "description"

/-- What an `info` message says of the WiFi network. -/
def credentials (props : Json) : WifiInfo where
  softapSsid := nestedField props "softap-ssid" "description"
  softapPw := nestedField props "softap-psword" "description"
  wifiSsid := nestedField props "wifi-direct-ssid" "description"
  model := nestedField props "model-name" "description"
  version := nestedField props "model-version" "description"

/-- The echo of a `cmd-req` fits a frame. -/
def echoFits (payload : Bytes) : Bool :=
  match messageProps jsonLoads "cmd-req" payload with
  | some props => (dumps (cmdDescription props)).length ≤ 65296
  | none => true

/-- The replies to a frame, by the clock. -/
def replies (now : LocalTime) (payload : Bytes) : List WireEvent :=
  match btMessage jsonLoads payload with
  | none =>
    if isCapexQuery payload then (capexReply payload).toOption.toList.map fun reply => .sent reply 0
    else []
  | some (msgId, props) =>
    if msgId.isStr "date-time-req" then
      [.sent (SDK_HEADER ++ makeDateTimeResponseJson now) cmdSession]
    else if msgId.isStr "config-info" then
      [.sent (SDK_HEADER ++ makeConfigInfoAckJson) cmdSession]
    else if msgId.isStr "cmd-req" then
      [.sent (SDK_HEADER ++ makeCmdResponseJson (cmdDescription props)) cmdSession]
    else []

/-- What a read returned, and the clock when it was answered. -/
abbrev Input : Type := Option SlpFrame × LocalTime

/-- A read with the replies to it. -/
def exchange (input : Input) : List WireEvent :=
  .read input.1 :: (input.1.elim [] fun frame => replies jsonLoads cmdSession input.2 frame.payload)

/-- The properties of the message that was read, if it has this id. -/
def inputProps (msgId : String) (input : Input) : Option Json :=
  input.1.bind fun frame => messageProps jsonLoads msgId frame.payload

/-- What the three loops read: up to the first `info` message in 30 reads, 75 reads, and up to the
first command response in 30 reads. -/
structure Phase4Inputs where
  waited : List Input
  drained : List Input
  watched : List Input
  waited_stops : StopsAt (fun input => (inputProps jsonLoads "info" input).isSome = true) 30 waited
  drained_length : drained.length = 75
  watched_stops :
    StopsAt (fun input => (inputProps jsonLoads "cmd-rsp" input).isSome = true) 30 watched

/-- The first `info` message of the info wait. -/
def firstInfo (waited : List Input) : Option Json := waited.findSome? (inputProps jsonLoads "info")

/-- The acknowledgement of an `info` message. -/
def infoAck (info : Option Json) : List WireEvent :=
  info.elim [] fun _ => [.sent (SDK_HEADER ++ makeDeviceInfoAckJson) cmdSession]

/-- The frames of phase 4, in order. -/
def Phase4Inputs.wire (inputs : Phase4Inputs jsonLoads) : List WireEvent :=
  [.sent (SDK_HEADER ++ makeDeviceInfoJson "false") cmdSession,
    .sent (SDK_HEADER ++ makeWidgetInfoRequestJson) cmdSession] ++
  inputs.waited.flatMap (exchange jsonLoads cmdSession) ++
  infoAck cmdSession (firstInfo jsonLoads inputs.waited) ++
  inputs.drained.flatMap (exchange jsonLoads cmdSession) ++
  [.sent (SDK_HEADER ++ makeCmdRequestJson "liveview") cmdSession] ++
  inputs.watched.flatMap (exchange jsonLoads cmdSession)

/-- What is noted of phase 4: its frames, the shape of its messages, and whether all can go well. -/
def phase4Watch : Watch SessionAns PyErr WireEvent where
  view := wireEvent
  domain
    | ⟨.readSlpFrame _ _, .ok (some frame)⟩ => shaped jsonLoads frame.payload = true
    | _ => True
  good
    | ⟨.readSlpFrame _ _, .ok (some frame)⟩ => echoFits jsonLoads frame.payload = true
    | ⟨_, x⟩ => x.isOk = true

variable {jsonLoads cmdSession} {session : SapSession}

/-- Programs of phase 4. -/
abbrev Phase4 {α : Type} (jsonLoads : Bytes → Option Json) (φ : Prop) (p : Session α)
    (L : List WireEvent → α → Prop) : Prop := Conforms (phase4Watch jsonLoads) φ p L

theorem phase4_send {payload : Bytes} (h : payload.length ≤ 65533) (sessionId : ℕ) :
    Phase4 jsonLoads True (sendSlpFrame session payload sessionId)
      (fun w _ => w = [.sent payload sessionId]) := by
  rw [sendSlpFrame_fits h]
  apply conforms_perform
  · intro e h
    cases h
  · intro x
    rfl
  · intro x
    rfl

/-- A frame that is answered by one other frame. -/
theorem phase4_answer {α : Type} {message : Bytes} (h : message.length ≤ 65532) (a : α) :
    Phase4 jsonLoads True (do
      sendSlpFrame session (SDK_HEADER ++ message) cmdSession
      return a) (fun w b => w = [.sent (SDK_HEADER ++ message) cmdSession] ∧ b = a) := by
  apply (phase4_send (sdk_fits h) cmdSession).bind
  intro w _ hw
  apply conforms_ret
  exact ⟨by rw [hw]; rfl, rfl⟩

theorem messageProps_some {payload : Bytes} {message : Json × Json} {msgId : String}
    (h : btMessage jsonLoads payload = some message) (hid : message.1.isStr msgId = true) :
    messageProps jsonLoads msgId payload = some message.2 := by
  rw [messageProps, h, Option.bind_some, if_pos hid]

theorem messageProps_none {payload : Bytes} {message : Json × Json} {msgId : String}
    (h : btMessage jsonLoads payload = some message) (hid : message.1.isStr msgId = false) :
    messageProps jsonLoads msgId payload = none := by
  rw [messageProps, h, Option.bind_some, if_neg (by simp [hid])]

theorem echoFits_other {payload : Bytes} {message : Json × Json} {msgId : String}
    (h : btMessage jsonLoads payload = some message) (hid : message.1.isStr msgId = true)
    (hne : pyStr msgId ≠ pyStr "cmd-req") : echoFits jsonLoads payload = true := by
  have hcmd : message.1.isStr "cmd-req" = false := by
    apply Bool.eq_false_iff.mpr
    intro hcmd
    exact hne (Json.isStr_unique hid hcmd)
  rw [echoFits, messageProps_none h hcmd]

theorem echo_overflow {description : Json} (h : 65296 < (dumps description).length) :
    65533 < (SDK_HEADER ++ makeCmdResponseJson description).length := by
  have hlen := makeCmdResponseJson_length description
  rw [sdk_length]
  omega

/-- A message whose properties can be looked into. -/
theorem handleBtMessage_object {msg : Bytes} {value : Json}
    (h : jsonLoads (appData msg) = some value) (hvalue : value.isObj = true)
    (hprops : (properties value).isObj = true) :
    handleBtMessage jsonLoads session cmdSession msg =
      if ((properties value).field "msgId" (.strOf "")).isStr "date-time-req" = true then do
        let now ← perform SessionOp.now
        sendSlpFrame session (SDK_HEADER ++ makeDateTimeResponseJson now) cmdSession
        return ((properties value).field "msgId" (.strOf ""), properties value)
      else if ((properties value).field "msgId" (.strOf "")).isStr "config-info" = true then do
        sendSlpFrame session (SDK_HEADER ++ makeConfigInfoAckJson) cmdSession
        return ((properties value).field "msgId" (.strOf ""), properties value)
      else if ((properties value).field "msgId" (.strOf "")).isStr "cmd-req" = true then do
        let description ←
          fromResult (((properties value).field "action" (.obj [])).get "description" (.strOf ""))
        sendSlpFrame session (SDK_HEADER ++ makeCmdResponseJson description) cmdSession
        return ((properties value).field "msgId" (.strOf ""), properties value)
      else return ((properties value).field "msgId" (.strOf ""), properties value) := by
  have hget : value.get "properties" (.obj []) = .ok (properties value) :=
    Json.get_of_isObj hvalue _ _
  have hid := Json.get_of_isObj hprops "msgId" (.strOf "")
  have haction := Json.get_of_isObj hprops "action" (.obj [])
  simp only [handleBtMessage, h, hget, hid, haction, fromResult, Prog.ret_bind]

/-- `_handle_bt_message` on a JSON message whose fields can be read. -/
theorem handleBtMessage_message {payload : Bytes} {msgId props : Json}
    (hshaped : shaped jsonLoads payload = true)
    (hmessage : btMessage jsonLoads payload = some (msgId, props)) :
    handleBtMessage jsonLoads session cmdSession payload =
      if msgId.isStr "date-time-req" = true then do
        let now ← perform SessionOp.now
        sendSlpFrame session (SDK_HEADER ++ makeDateTimeResponseJson now) cmdSession
        return (msgId, props)
      else if msgId.isStr "config-info" = true then do
        sendSlpFrame session (SDK_HEADER ++ makeConfigInfoAckJson) cmdSession
        return (msgId, props)
      else if msgId.isStr "cmd-req" = true then do
        sendSlpFrame session (SDK_HEADER ++ makeCmdResponseJson (cmdDescription props)) cmdSession
        return (msgId, props)
      else return (msgId, props) := by
  cases h : jsonLoads (appData payload) with
  | none =>
    rw [btMessage, h] at hmessage
    cases hmessage
  | some value =>
    rw [shaped, h] at hshaped
    simp only [Bool.and_eq_true, List.all_eq_true] at hshaped
    obtain ⟨⟨hvalue, hprops⟩, hnested⟩ := hshaped
    -- what the lookups look into are dictionaries
    have hdescription : ((properties value).field "action" (.obj [])).get "description"
        (.strOf "") = .ok (cmdDescription (properties value)) :=
      Json.get_of_isObj (hnested "action" (by decide)) _ _
    rw [btMessage, h] at hmessage
    cases hmessage
    rw [handleBtMessage_object h hvalue hprops, hdescription]
    rfl

/-- Not JSON: a capability query is answered, anything else is ignored. -/
theorem undecoded_conforms {payload : Bytes} (h : jsonLoads (appData payload) = none) :
    Phase4 jsonLoads (echoFits jsonLoads payload = true)
      (handleBtMessage jsonLoads session cmdSession payload)
      (fun w message => (∃ now, w = replies jsonLoads cmdSession now payload) ∧
        message = (btMessage jsonLoads payload).getD (.null, .obj [])) := by
  have hmessage : btMessage jsonLoads payload = none := by rw [btMessage, h]; rfl
  have hfits : echoFits jsonLoads payload = true := by rw [echoFits, messageProps, hmessage]; rfl
  apply Conforms.of_true _ hfits
  simp only [handleBtMessage, h, hmessage, replies]
  -- a reply to a query fits its frame, so it is sent
  by_cases hquery : isCapexQuery payload = true
  · obtain ⟨reply, hreply, -, -, hlen⟩ := capexReply_ok payload
    rw [if_pos hquery, handleCapex_query hquery hreply hlen, ← sendSlpFrame_fits hlen]
    apply (phase4_send hlen 0).bind
    intro w _ hw
    apply conforms_ret
    refine ⟨⟨default, ?_⟩, rfl⟩
    rw [hw, if_pos hquery, hreply]
    rfl
  · rw [if_neg hquery]
    apply conforms_ret
    exact ⟨⟨default, (if_neg hquery).symm⟩, rfl⟩

/-- JSON: the message id decides what is sent. -/
theorem message_conforms {payload : Bytes} {msgId props : Json}
    (hshaped : shaped jsonLoads payload = true)
    (hmessage : btMessage jsonLoads payload = some (msgId, props)) :
    Phase4 jsonLoads (echoFits jsonLoads payload = true)
      (handleBtMessage jsonLoads session cmdSession payload)
      (fun w message => (∃ now, w = replies jsonLoads cmdSession now payload) ∧
        message = (btMessage jsonLoads payload).getD (.null, .obj [])) := by
  rw [handleBtMessage_message hshaped hmessage, hmessage]
  simp only [replies, hmessage, Option.getD_some]
  by_cases hdate : msgId.isStr "date-time-req" = true
  · apply Conforms.of_true _ (echoFits_other hmessage hdate (by decide))
    simp only [if_pos hdate]
    apply conforms_perform_bind
    · intro e h
      cases h
    · intro now _
      apply Conforms.of_true _ rfl
      have hlen := makeDateTimeResponseJson_length now
      apply (phase4_answer (by omega) _).mono
      intro w a hw
      exact ⟨⟨now, hw.1⟩, hw.2⟩
  by_cases hconfig : msgId.isStr "config-info" = true
  · apply Conforms.of_true _ (echoFits_other hmessage hconfig (by decide))
    simp only [if_neg hdate, if_pos hconfig]
    apply (phase4_answer (by decide +kernel) _).mono
    intro w a hw
    exact ⟨⟨default, hw.1⟩, hw.2⟩
  by_cases hcmd : msgId.isStr "cmd-req" = true
  · simp only [if_neg hdate, if_neg hconfig, if_pos hcmd, echoFits,
      messageProps_some hmessage hcmd, decide_eq_true_eq]
    -- the one reply whose length is the camera's choice
    by_cases hfits : (dumps (cmdDescription props)).length ≤ 65296
    · apply Conforms.of_true _ hfits
      have hlen := makeCmdResponseJson_length (cmdDescription props)
      apply (phase4_answer (by omega) _).mono
      intro w a hw
      exact ⟨⟨default, hw.1⟩, hw.2⟩
    · rw [sendSlpFrame_overflow (echo_overflow (not_le.mp hfits))]
      exact conforms_raise hfits
  -- any other message id, `info` among them, has no reply here
  · have hfits : echoFits jsonLoads payload = true := by
      rw [echoFits, messageProps_none hmessage (Bool.eq_false_iff.mpr hcmd)]
    apply Conforms.of_true _ hfits
    simp only [if_neg hdate, if_neg hconfig, if_neg hcmd]
    apply conforms_ret
    exact ⟨⟨default, rfl⟩, rfl⟩

/-- `_handle_bt_message` sends the replies to the frame, unless an echo is too long. -/
theorem handleBtMessage_conforms {payload : Bytes} (hshaped : shaped jsonLoads payload = true) :
    Phase4 jsonLoads (echoFits jsonLoads payload = true)
      (handleBtMessage jsonLoads session cmdSession payload)
      (fun w message => (∃ now, w = replies jsonLoads cmdSession now payload) ∧
        message = (btMessage jsonLoads payload).getD (.null, .obj [])) := by
  cases h : jsonLoads (appData payload) with
  | none => exact undecoded_conforms h
  | some value =>
    have hmessage : btMessage jsonLoads payload =
        some ((properties value).field "msgId" (.strOf ""), properties value) := by
      rw [btMessage, h]
      rfl
    exact message_conforms hshaped hmessage

/-! ### The loops -/

theorem messageProps_getD (jsonLoads : Bytes → Option Json) (msgId : String) (payload : Bytes) :
    messageProps jsonLoads msgId payload =
      if ((btMessage jsonLoads payload).getD (.null, .obj [])).1.isStr msgId = true then
        some ((btMessage jsonLoads payload).getD (.null, .obj [])).2 else none := by
  rw [messageProps]
  cases btMessage jsonLoads payload with
  | none => rfl
  | some message => rfl

/-- The nested fields of a message can be read. -/
theorem nested_ok {payload : Bytes} {msgId : String} {props : Json}
    (hshaped : shaped jsonLoads payload = true)
    (hprops : messageProps jsonLoads msgId payload = some props) {name : String}
    (hname : name ∈ NESTED_FIELDS) (key : String) :
    nested props name key = .ok (nestedField props name key) := by
  cases h : jsonLoads (appData payload) with
  | none =>
    rw [messageProps, btMessage, h] at hprops
    cases hprops
  | some value =>
    have hvalue : props = properties value := by
      rw [messageProps, btMessage, h, Option.map_some, Option.bind_some] at hprops
      split_ifs at hprops
      exact (Option.some.inj hprops).symm
    rw [shaped, h] at hshaped
    simp only [Bool.and_eq_true, List.all_eq_true] at hshaped
    obtain ⟨⟨-, hobj⟩, hnested⟩ := hshaped
    rw [nested, hvalue, Json.get_of_isObj hobj]
    exact Json.get_of_isObj (hnested name hname) key (.strOf "")

/-- One turn of a read loop: what it adds to the visible part. -/
theorem phase4_turn {α : Type} {timeout : ℕ} {p : Session α} {f : Json × Json → Session α}
    {N : List WireEvent → α → Prop}
    (hnone : Phase4 jsonLoads True p
      (fun w a => N (exchange jsonLoads cmdSession (none, default) ++ w) a))
    (hsome : ∀ frame now, shaped jsonLoads frame.payload = true →
      Phase4 jsonLoads True (f ((btMessage jsonLoads frame.payload).getD (.null, .obj [])))
        (fun w a => N (exchange jsonLoads cmdSession (some frame, now) ++ w) a)) :
    Phase4 jsonLoads True (do
      match ← readSlpFrame session timeout with
      | none => p
      | some frame =>
        let message ← handleBtMessage jsonLoads session cmdSession frame.payload
        f message) N := by
  apply conforms_perform_bind
  · intro e h
    cases h
  -- a timeout, or a frame and what the handler makes of it
  · intro answer hdomain
    match answer with
    | none => exact hnone.of_true rfl
    | some frame =>
      apply (handleBtMessage_conforms hdomain).bind
      intro w message h
      obtain ⟨⟨now, hw⟩, hmessage⟩ := h
      rw [hw, hmessage]
      exact hsome frame now hdomain

theorem drain_conforms (attempts : ℕ) :
    Phase4 jsonLoads True (drain jsonLoads session cmdSession attempts)
      (fun w _ => ∃ drained : List Input, drained.length = attempts ∧
        w = drained.flatMap (exchange jsonLoads cmdSession)) := by
  induction attempts with
  | zero =>
    apply conforms_ret
    exact ⟨[], rfl, rfl⟩
  | succ attempts ih =>
    -- a timeout is a turn as well, so the drain has as many inputs as turns
    have hcons (input : Input) : Phase4 jsonLoads True (drain jsonLoads session cmdSession attempts)
        (fun w _ => ∃ drained : List Input, drained.length = attempts+1 ∧
          exchange jsonLoads cmdSession input ++ w =
            drained.flatMap (exchange jsonLoads cmdSession)) := by
      apply ih.mono
      intro w _ h
      obtain ⟨drained, hlen, hw⟩ := h
      exact ⟨input :: drained, congrArg (· + 1) hlen, by rw [hw, List.flatMap_cons]⟩
    apply phase4_turn
    · exact hcons _
    · intro frame now _
      exact hcons _

theorem wifiInfoOf_ok {payload : Bytes} {props : Json} (hshaped : shaped jsonLoads payload = true)
    (hprops : messageProps jsonLoads "info" payload = some props) :
    wifiInfoOf props = .ok (credentials props) := by
  have hfield (name : String) (hname : name ∈ NESTED_FIELDS) :=
    nested_ok hshaped hprops hname "description"
  rw [wifiInfoOf, hfield "softap-ssid" (by decide), hfield "softap-psword" (by decide),
    hfield "wifi-direct-ssid" (by decide), hfield "model-name" (by decide),
    hfield "model-version" (by decide)]
  rfl

/-- The info wait sends the replies, and the acknowledgement of the message that ends it. -/
theorem waitInfo_conforms (attempts : ℕ) :
    Phase4 jsonLoads True (waitInfo jsonLoads session cmdSession attempts)
      (fun w wifiInfo => ∃ waited : List Input,
        StopsAt (fun input => (inputProps jsonLoads "info" input).isSome = true) attempts waited ∧
        wifiInfo = (firstInfo jsonLoads waited).map credentials ∧
        w = waited.flatMap (exchange jsonLoads cmdSession) ++
          infoAck cmdSession (firstInfo jsonLoads waited)) := by
  induction attempts with
  | zero =>
    apply conforms_ret
    exact ⟨[], stopsAt_zero, rfl, rfl⟩
  | succ attempts ih =>
    -- a turn that does not end the wait puts its input in front of the others'
    have hcons (input : Input) (hinput : inputProps jsonLoads "info" input = none) :
        Phase4 jsonLoads True (waitInfo jsonLoads session cmdSession attempts)
          (fun w wifiInfo => ∃ waited : List Input,
            StopsAt (fun input => (inputProps jsonLoads "info" input).isSome = true)
              (attempts+1) waited ∧
            wifiInfo = (firstInfo jsonLoads waited).map credentials ∧
            exchange jsonLoads cmdSession input ++ w =
              waited.flatMap (exchange jsonLoads cmdSession) ++
                infoAck cmdSession (firstInfo jsonLoads waited)) := by
      apply ih.mono
      intro w wifiInfo h
      obtain ⟨waited, hstops, hwifi, hw⟩ := h
      have hfirst : firstInfo jsonLoads (input :: waited) = firstInfo jsonLoads waited := by
        rw [firstInfo, List.findSome?_cons, hinput]
        rfl
      refine ⟨input :: waited, hstops.cons (by simp [hinput]), by rw [hfirst, hwifi], ?_⟩
      rw [hfirst, hw, List.flatMap_cons, List.append_assoc]
    apply phase4_turn
    · exact hcons _ rfl
    · intro frame now hshaped
      have hprops := messageProps_getD jsonLoads "info" frame.payload
      by_cases hinfo : ((btMessage jsonLoads frame.payload).getD (.null, .obj [])).1.isStr "info"
      · rw [if_pos hinfo] at hprops
        simp only [if_pos hinfo, wifiInfoOf_ok hshaped hprops]
        -- the turn that ends the wait: its input is the last one and the first `info`
        have hinput : inputProps jsonLoads "info" (some frame, now) = some _ := hprops
        have hlast : firstInfo jsonLoads [(some frame, now)] = some _ :=
          List.findSome?_singleton.trans hinput
        have hack : makeDeviceInfoAckJson.length ≤ 65532 := by decide +kernel
        apply (phase4_answer hack _).mono
        intro w wifiInfo h
        refine ⟨[(some frame, now)], stopsAt_stop (by rw [hinput]; rfl), ?_, ?_⟩
        · rw [hlast, h.2]
          rfl
        · rw [hlast, h.1, List.flatMap_singleton]
          rfl
      · rw [if_neg hinfo] at hprops
        simp only [if_neg hinfo]
        exact hcons _ hprops

theorem waitLiveview_conforms (attempts : ℕ) :
    Phase4 jsonLoads True (waitLiveview jsonLoads session cmdSession attempts)
      (fun w _ => ∃ watched : List Input,
        StopsAt (fun input => (inputProps jsonLoads "cmd-rsp" input).isSome = true) attempts
          watched ∧
        w = watched.flatMap (exchange jsonLoads cmdSession)) := by
  induction attempts with
  | zero =>
    apply conforms_ret
    exact ⟨[], stopsAt_zero, rfl⟩
  | succ attempts ih =>
    -- as in the info wait, but the message that ends it is not acknowledged
    have hcons (input : Input) (hinput : inputProps jsonLoads "cmd-rsp" input = none) :
        Phase4 jsonLoads True (waitLiveview jsonLoads session cmdSession attempts)
          (fun w _ => ∃ watched : List Input,
            StopsAt (fun input => (inputProps jsonLoads "cmd-rsp" input).isSome = true)
              (attempts+1) watched ∧
            exchange jsonLoads cmdSession input ++ w =
              watched.flatMap (exchange jsonLoads cmdSession)) := by
      apply ih.mono
      intro w _ h
      obtain ⟨watched, hstops, hw⟩ := h
      refine ⟨input :: watched, hstops.cons (by simp [hinput]), ?_⟩
      rw [hw, List.flatMap_cons]
    apply phase4_turn
    · exact hcons _ rfl
    · intro frame now hshaped
      have hprops := messageProps_getD jsonLoads "cmd-rsp" frame.payload
      by_cases hrsp : ((btMessage jsonLoads frame.payload).getD (.null, .obj [])).1.isStr "cmd-rsp"
      · rw [if_pos hrsp] at hprops
        have hinput : inputProps jsonLoads "cmd-rsp" (some frame, now) = some _ := hprops
        have hresult := nested_ok hshaped hprops
          (show "result" ∈ NESTED_FIELDS by decide) "enum"
        simp only [if_pos hrsp, hresult]
        apply conforms_ret
        refine ⟨[(some frame, now)], stopsAt_stop (by rw [hinput]; rfl), ?_⟩
        rw [List.append_nil, List.flatMap_singleton]
      · rw [if_neg hrsp] at hprops
        simp only [if_neg hrsp]
        exact hcons _ hprops

theorem phase4_request {message : Bytes} (h : message.length ≤ 65532) (sessionId : ℕ) :
    Phase4 jsonLoads True (sendSlpFrame session (SDK_HEADER ++ message) sessionId)
      (fun w _ => w = [.sent (SDK_HEADER ++ message) sessionId]) :=
  phase4_send (sdk_fits h) sessionId

theorem phase4_sleep (pause : ℕ) :
    Phase4 jsonLoads True (perform (SessionOp.sleep pause)) (fun w _ => w = []) :=
  conforms_perform (fun _ h => nomatch h) (fun _ => rfl) (fun _ => rfl)

theorem phase4_logError (text : String) :
    Phase4 jsonLoads True (Session.logError text) (fun w _ => w = []) :=
  conforms_perform (fun _ h => nomatch h) (fun _ => rfl) (fun _ => rfl)

/-- Drain, liveview request and liveview wait, after the info wait. -/
theorem afterInfo_conforms (cmdSession : ℕ) {α : Type} (a : α) {waited : List Input}
    (hstops : StopsAt (fun input => (inputProps jsonLoads "info" input).isSome = true) 30 waited) :
    Phase4 jsonLoads True (do
      drain jsonLoads session cmdSession 75
      sendSlpFrame session (SDK_HEADER ++ makeCmdRequestJson "liveview") cmdSession
      waitLiveview jsonLoads session cmdSession 30
      return a)
      (fun w b => b = a ∧ ∃ inputs : Phase4Inputs jsonLoads, inputs.waited = waited ∧
        w = inputs.drained.flatMap (exchange jsonLoads cmdSession) ++
          ([.sent (SDK_HEADER ++ makeCmdRequestJson "liveview") cmdSession] ++
          inputs.watched.flatMap (exchange jsonLoads cmdSession))) := by
  apply (drain_conforms 75).bind
  intro w₁ _ h₁
  obtain ⟨drained, hdrained, hw₁⟩ := h₁
  have hliveview : (makeCmdRequestJson "liveview").length ≤ 65532 := by decide +kernel
  apply (phase4_request hliveview cmdSession).bind
  intro w₂ _ hw₂
  apply (waitLiveview_conforms 30).bind
  intro w₃ _ h₃
  obtain ⟨watched, hwatched, hw₃⟩ := h₃
  apply conforms_ret
  refine ⟨rfl, ⟨waited, drained, watched, hstops, hdrained, hwatched⟩, rfl, ?_⟩
  rw [hw₁, hw₂, hw₃, List.append_nil]

theorem exchangeDeviceInfo_conforms :
    Phase4 jsonLoads True (exchangeDeviceInfo jsonLoads session cmdSession)
      (fun w wifiInfo => ∃ inputs : Phase4Inputs jsonLoads,
        wifiInfo = (firstInfo jsonLoads inputs.waited).map credentials ∧
        w = inputs.wire jsonLoads cmdSession) := by
  apply (phase4_request deviceInfo_length cmdSession).bind
  intro w₁ _ hw₁
  apply (phase4_sleep 100).bind
  intro w₂ _ hw₂
  apply (phase4_request widgetInfoRequest_length cmdSession).bind
  intro w₃ _ hw₃
  apply (waitInfo_conforms 30).bind
  intro w₄ wifiInfo h₄
  obtain ⟨waited, hstops, hwifi, hw₄⟩ := h₄
  -- the error line of a wait without `info` is not visible
  have hrest (w₅ : List WireEvent) (hw₅ : w₅ = []) : Phase4 jsonLoads True (do
      drain jsonLoads session cmdSession 75
      sendSlpFrame session (SDK_HEADER ++ makeCmdRequestJson "liveview") cmdSession
      waitLiveview jsonLoads session cmdSession 30
      return wifiInfo)
      (fun w b => ∃ inputs : Phase4Inputs jsonLoads,
        b = (firstInfo jsonLoads inputs.waited).map credentials ∧
        w₁ ++ (w₂ ++ (w₃ ++ (w₄ ++ (w₅ ++ w)))) = inputs.wire jsonLoads cmdSession) := by
    apply (afterInfo_conforms cmdSession wifiInfo hstops).mono
    intro w b h
    obtain ⟨hb, inputs, hwaited, hw⟩ := h
    refine ⟨inputs, by rw [hb, hwifi, hwaited], ?_⟩
    rw [hw₁, hw₂, hw₃, hw₄, hw₅, hw, Phase4Inputs.wire, hwaited]
    simp only [List.append_assoc, List.nil_append]
    rfl
  dsimp only
  split_ifs
  · apply (phase4_logError _).bind
    intro w₅ _ hw₅
    exact hrest w₅ hw₅
  · exact hrest [] rfl

/-! ### Whole runs -/

theorem phase4_domain {t : List SessionEvent}
    (h : ∀ frame ∈ framesRead t, shaped jsonLoads frame.payload = true) :
    ∀ e ∈ t, (phase4Watch jsonLoads).domain e := by
  intro e he
  dsimp only [phase4Watch]
  split
  · exact h _ (mem_framesRead.mpr ⟨_, _, he⟩)
  · trivial

theorem phase4_good_iff {t : List SessionEvent} :
    (∀ e ∈ t, (phase4Watch jsonLoads).good e) ↔ (∀ e ∈ t, e.2.isOk = true) ∧
      ∀ frame ∈ framesRead t, echoFits jsonLoads frame.payload = true := by
  constructor
  · intro h
    refine ⟨fun e he => ?_, fun frame hframe => ?_⟩
    · have hgood := h e he
      dsimp only [phase4Watch] at hgood
      split at hgood
      · rfl
      · exact hgood
    · obtain ⟨s, timeout, he⟩ := mem_framesRead.mp hframe
      exact h _ he
  · intro h e he
    obtain ⟨hok, hfits⟩ := h
    dsimp only [phase4Watch]
    split
    · exact hfits _ (mem_framesRead.mpr ⟨_, _, he⟩)
    · exact hok _ he

/-- Phase 4 sends what it should, and learns of the WiFi network what it should, exactly if no
operation fails and every description that is to be echoed fits. -/
theorem device_info_trace_iff {t : List SessionEvent} {r : Except PyErr (Option WifiInfo)}
    (hrun : Run (exchangeDeviceInfo jsonLoads session cmdSession) t r)
    (hshaped : ∀ frame ∈ framesRead t, shaped jsonLoads frame.payload = true) :
    (∃ inputs : Phase4Inputs jsonLoads,
        r = .ok ((firstInfo jsonLoads inputs.waited).map credentials) ∧
        wire t = inputs.wire jsonLoads cmdSession) ↔
      (∀ e ∈ t, e.2.isOk = true) ∧
        ∀ frame ∈ framesRead t, echoFits jsonLoads frame.payload = true := by
  rw [← phase4_good_iff]
  rcases exchangeDeviceInfo_conforms t r hrun (phase4_domain hshaped) with
    ⟨wifiInfo, hr, -, hgood, inputs, hwifi, hw⟩ | ⟨⟨e, hr⟩, hbad⟩
  · exact iff_of_true ⟨inputs, by rw [hr, hwifi], hw⟩ hgood
  -- a run that raised has no result to compare
  · apply iff_of_false
    · intro h
      obtain ⟨inputs, hok, -⟩ := h
      rw [hr] at hok
      cases hok
    · exact fun h => hbad ⟨trivial, h⟩

end

def sampleMessage (msgId : String) (fields : List (String × Json)) : Json :=
  .dict [("properties", .dict (("msgId", .strOf msgId) :: fields))]

def described (description : Json) : Json := .dict [("description", description)]

def sampleInfo (password : String) : Json :=
  sampleMessage "info" [("softap-ssid", described (.strOf "Gear 360(9775)")),
    ("softap-psword", described (.strOf password))]

/-- A command request that asks for this description. -/
def sampleCmdReq (description : Json) : Json :=
  sampleMessage "cmd-req" [("action", described description)]

def sampleMessages : List Json :=
  [sampleMessage "date-time-req" [], sampleMessage "config-info" [],
    sampleCmdReq (.strOf "capture"), sampleInfo "12345678", sampleInfo "87654321",
    sampleMessage "cmd-rsp" [("result", .dict [("enum", .strOf "success")])]]

/-- `json.loads` of the texts of the sample messages. -/
def sampleLoads (data : Bytes) : Option Json := sampleMessages.find? fun value => dumps value = data

def sampleFrame (value : Json) : Option SlpFrame := some ⟨204, 0, SDK_HEADER ++ dumps value⟩

/-- The exchange with two `info` messages, the second one while draining. -/
def phase4Sample : Outcome SessionAns PyErr Script (Option WifiInfo) :=
  exec playback (exchangeDeviceInfo sampleLoads ⟨3, false⟩ 204)
    ⟨[], [some ⟨7, 0, [5, 0]⟩, sampleFrame (sampleMessage "date-time-req" []), none,
      sampleFrame (sampleInfo "12345678"), sampleFrame (sampleCmdReq (.strOf "capture")),
      sampleFrame (sampleInfo "87654321")] ++ List.replicate 73 none ++
      [sampleFrame (sampleMessage "config-info" []),
        sampleFrame (sampleMessage "cmd-rsp" [("result", .dict [("enum", .strOf "success")])])]⟩

theorem device_info_trace_sample : (wire phase4Sample.trace).length = 89 ∧
    ∃ inputs : Phase4Inputs sampleLoads,
      phase4Sample.result = .ok ((firstInfo sampleLoads inputs.waited).map credentials) ∧
      wire phase4Sample.trace = inputs.wire sampleLoads 204 := by
  have hrun : Run (exchangeDeviceInfo sampleLoads ⟨3, false⟩ 204) phase4Sample.trace
      phase4Sample.result := exec_run playback _ _
  have hsample : (wire phase4Sample.trace).length = 89 ∧
      (∀ frame ∈ framesRead phase4Sample.trace, shaped sampleLoads frame.payload = true) ∧
      (∀ e ∈ phase4Sample.trace, e.2.isOk = true) ∧
      ∀ frame ∈ framesRead phase4Sample.trace, echoFits sampleLoads frame.payload = true := by
    decide +kernel
  obtain ⟨hlen, hshaped, hok, hfits⟩ := hsample
  exact ⟨hlen, (device_info_trace_iff hrun hshaped).mpr ⟨hok, hfits⟩⟩

section
variable {jsonLoads : Bytes → Option Json} {payload : Bytes} {description : Json}
  (h : jsonLoads (appData payload) = some (sampleCmdReq description))
include h

theorem shaped_cmdReq : shaped jsonLoads payload = true := by
  rw [shaped, h]
  have hnil : (Json.obj []).isObj = true := rfl
  simp [properties, sampleCmdReq, sampleMessage, described, NESTED_FIELDS, hnil]

theorem btMessage_cmdReq : btMessage jsonLoads payload =
    some (.strOf "cmd-req", properties (sampleCmdReq description)) := by
  rw [btMessage, h]
  simp [properties, sampleCmdReq, sampleMessage]

theorem handleBtMessage_overlong (session : SapSession) (cmdSession : ℕ)
    (hlong : 65296 < (dumps description).length) :
    handleBtMessage jsonLoads session cmdSession payload = .raise .structError := by
  have hdescription : cmdDescription (properties (sampleCmdReq description)) = description := by
    simp [cmdDescription, nestedField, properties, sampleCmdReq, sampleMessage, described]
  rw [handleBtMessage_message (shaped_cmdReq h) (btMessage_cmdReq h), hdescription,
    sendSlpFrame_overflow (echo_overflow hlong)]
  rfl

end

/-- Letters of two bytes in UTF-8, which take six in the reply. -/
def accents (n : ℕ) : Json := .str (List.replicate n 0xE9)

/-- The text of a command request, not escaped. -/
def accentsText (n : ℕ) : Bytes :=
  utf8 "\x7b\"properties\":\x7b\"msgId\":\"cmd-req\",\"action\":\x7b\"description\":\"" ++
    (List.replicate n [0xC3, 0xA9]).flatten ++ utf8 "\"\x7d\x7d\x7d"

def accentsFrame (n : ℕ) : SlpFrame := ⟨204, 0, SDK_HEADER ++ accentsText n⟩

/-- `json.loads` of this one text. -/
def accentsLoads (n : ℕ) (data : Bytes) : Option Json :=
  if data = accentsText n then some (sampleCmdReq (accents n)) else none

theorem accentsText_length (n : ℕ) : (accentsText n).length = 62 + 2*n := by
  have hempty : (accentsText 0).length = 62 := by decide +kernel
  simp only [accentsText, List.length_append, List.length_flatten, List.map_replicate,
    List.sum_replicate, List.length_cons, List.length_nil] at hempty ⊢
  simp only [smul_eq_mul] at hempty ⊢
  omega

theorem accentsFrame_length (n : ℕ) : (accentsFrame n).payload.length = 63 + 2*n := by
  rw [accentsFrame, sdk_length, accentsText_length]
  omega

theorem dumps_accents_length (n : ℕ) : (dumps (accents n)).length = 6*n+2 := by
  have hescape : (escapeChar 0xE9).length = 6 := rfl
  simp only [accents, dumps, dumpsStr, List.length_append, List.length_flatMap, List.map_replicate,
    List.sum_replicate, hescape, List.length_cons, List.length_nil, smul_eq_mul]
  omega

theorem accentsLoads_frame (n : ℕ) :
    accentsLoads n (appData (accentsFrame n).payload) = some (sampleCmdReq (accents n)) := by
  have hdata : appData (accentsFrame n).payload = accentsText n := by
    have hlen := accentsFrame_length n
    rw [appData, if_pos]
    · rfl
    · exact ⟨by omega, rfl⟩
  rw [accentsLoads, if_pos hdata]

/-- The two first requests, and the read of the command request. -/
def accentsTrace (n : ℕ) (session : SapSession) : List SessionEvent :=
  [⟨.sendSlpFrame session (SDK_HEADER ++ makeDeviceInfoJson "false") 204, .ok ()⟩,
    ⟨.sleep 100, .ok ()⟩,
    ⟨.sendSlpFrame session (SDK_HEADER ++ makeWidgetInfoRequestJson) 204, .ok ()⟩,
    ⟨.readSlpFrame session 3000, .ok (some (accentsFrame n))⟩]

theorem accents_run {n : ℕ} (hlong : 65296 < 6*n+2) (session : SapSession) :
    Run (exchangeDeviceInfo (accentsLoads n) session 204) (accentsTrace n session)
      (.error .structError) := by
  have hsend {message : Bytes} (h : message.length ≤ 65532) :
      Run (sendSlpFrame session (SDK_HEADER ++ message) 204)
        [⟨.sendSlpFrame session (SDK_HEADER ++ message) 204, .ok ()⟩] (.ok ()) := by
    rw [sendSlpFrame_fits (sdk_fits h)]
    exact run_perform_iff.mpr rfl
  have hsleep : Run (perform (SessionOp.sleep 100) : Session Unit) [⟨.sleep 100, .ok ()⟩]
      (.ok ()) := run_perform_iff.mpr rfl
  have hhandle : handleBtMessage (accentsLoads n) session 204 (accentsFrame n).payload =
      .raise .structError := by
    apply handleBtMessage_overlong (accentsLoads_frame n)
    rw [dumps_accents_length]
    exact hlong
  -- the first read of the info wait already raises
  have hwait : Run (waitInfo (accentsLoads n) session 204 30)
      [⟨.readSlpFrame session 3000, .ok (some (accentsFrame n))⟩] (.error .structError) := by
    apply Run.call
    change Run (handleBtMessage (accentsLoads n) session 204 (accentsFrame n).payload >>= _) _ _
    rw [hhandle]
    exact Run.raise _
  exact run_bind (hsend deviceInfo_length) (run_bind hsleep
    (run_bind (hsend widgetInfoRequest_length) (run_bind_error _ hwait)))

theorem accentsTrace_ok (n : ℕ) (session : SapSession) :
    ∀ e ∈ accentsTrace n session, e.2.isOk = true := by
  intro e he
  fin_cases he <;> rfl

theorem framesRead_accentsTrace (n : ℕ) (session : SapSession) :
    framesRead (accentsTrace n session) = [accentsFrame n] := rfl

/-- A command request that `read_slp_frame` returns and whose echo cannot be sent. -/
theorem device_info_trace_fails : ∃ (jsonLoads : Bytes → Option Json) (session : SapSession)
    (t : List SessionEvent) (r : Except PyErr (Option WifiInfo)),
    Run (exchangeDeviceInfo jsonLoads session 204) t r ∧ (∀ e ∈ t, e.2.isOk = true) ∧
      (∀ frame ∈ framesRead t,
        frame.payload.length ≤ 65533 ∧ shaped jsonLoads frame.payload = true) ∧
      ¬∃ inputs : Phase4Inputs jsonLoads,
        r = .ok ((firstInfo jsonLoads inputs.waited).map credentials) ∧
        wire t = inputs.wire jsonLoads 204 := by
  refine ⟨accentsLoads 30000, ⟨3, true⟩, accentsTrace 30000 ⟨3, true⟩, .error .structError,
    accents_run (by norm_num) _, accentsTrace_ok _ _, ?_, ?_⟩
  · intro frame hframe
    rw [framesRead_accentsTrace, List.mem_singleton] at hframe
    rw [hframe, accentsFrame_length]
    exact ⟨by norm_num, shaped_cmdReq (accentsLoads_frame 30000)⟩
  · intro h
    obtain ⟨inputs, hr, -⟩ := h
    cases hr

end Gear360
