import Gear360.HandlerShapes
import Gear360.JsonLoaded

namespace Gear360

open Interaction
open Interaction.Prog (perform fromResult)
open Session

section
variable {F : FloatRepr}

def messageObject (title description : String) (properties : List (String × Json)) : Json :=
  .dict
    [ ("title", .strOf title),
      ("description", .strOf description),
      ("type", .strOf "object"),
      ("properties", .dict properties) ]

theorem makeMessageJson_eq (title description : String) (properties : List (String × Json)) :
    makeMessageJson title description properties =
      dumps (messageObject title description properties) := rfl

/-- A literal has no surrogates. -/
theorem joined_pyStr (text : String) : Joined (pyStr text) := by
  have hscalar : ∀ c ∈ pyStr text, Scalar c := by
    intro c hc
    obtain ⟨x, -, rfl⟩ := List.mem_map.mp hc
    exact scalar_iff.mpr x.valid
  refine ⟨?_, fun c hc => (hscalar c hc).1⟩
  generalize pyStr text = s at hscalar
  induction s with
  | nil => exact .nil
  | cons c s ih =>
    refine List.isChain_cons.mpr ⟨?_, ih fun d hd => hscalar d (List.mem_cons_of_mem _ hd)⟩
    rintro y - ⟨hhigh, -⟩
    rw [(hscalar c List.mem_cons_self).2.1] at hhigh
    cases hhigh

theorem loaded_strOf (text : String) : Loaded F (.strOf text) := .str (joined_pyStr text)

theorem loaded_dict {fields : List (String × Json)} (hkeys : (fields.map Prod.fst).Nodup)
    (h : ∀ field ∈ fields, Loaded F field.2) : Loaded F (.dict fields) := by
  apply Loaded.obj
  · have hnames : (fields.map fun field => (pyStr field.1, field.2)).map Prod.fst =
        (fields.map Prod.fst).map pyStr := by
      rw [List.map_map, List.map_map]
      rfl
    rw [hnames]
    exact hkeys.map fun _ _ => pyStr_inj.mp
  · intro field hfield
    obtain ⟨source, -, rfl⟩ := List.mem_map.mp hfield
    exact joined_pyStr source.1
  · intro field hfield
    obtain ⟨source, hsource, rfl⟩ := List.mem_map.mp hfield
    exact h source hsource

theorem loaded_messageObject (title description : String) {properties : List (String × Json)}
    (hkeys : (properties.map Prod.fst).Nodup) (h : ∀ field ∈ properties, Loaded F field.2) :
    Loaded F (messageObject title description properties) := by
  apply loaded_dict (by simp)
  simp only [List.forall_mem_cons]
  exact ⟨loaded_strOf _, loaded_strOf _, loaded_strOf _, loaded_dict hkeys h, List.forall_mem_nil _⟩

/-- The SDK header is taken off a message that is not empty. -/
theorem appData_sdk {data : Bytes} (h : data ≠ []) : appData (SDK_HEADER ++ data) = data := by
  have hlen : 1 < (SDK_HEADER ++ data).length := by
    have hpos := List.length_pos_iff.mpr h
    rw [sdk_length]
    omega
  rw [appData, if_pos ⟨hlen, rfl⟩]
  rfl

/-- A message is read as the dictionary that it was made from. -/
theorem loads_message (title description : String) {properties : List (String × Json)}
    (hkeys : (properties.map Prod.fst).Nodup) (h : ∀ field ∈ properties, Loaded F field.2) :
    loads F (appData (SDK_HEADER ++ makeMessageJson title description properties)) =
      some (messageObject title description properties) := by
  have hread := (loaded_messageObject title description hkeys h).loads_dumps
  rw [makeMessageJson_eq, appData_sdk, hread]
  intro hnil
  rw [hnil] at hread
  cases hread

theorem properties_messageObject (title description : String)
    (fields : List (String × Json)) :
    properties (messageObject title description fields) = .dict fields := by
  simp [properties, messageObject]

theorem Loaded.of_obj {fields : List (PyStr × Json)} (h : Loaded F (.obj fields)) :
    ∀ field ∈ fields, Loaded F field.2 := by
  generalize hvalue : Json.obj fields = value at h
  cases h with
  | constant hmem =>
    simp only [constants, List.mem_cons, List.not_mem_nil, or_false] at hmem
    rcases hmem with rfl | rfl | rfl | rfl | rfl | rfl <;> cases hvalue
  | obj hkeys hnames hvalues =>
    cases hvalue
    exact hvalues
  | int | float | str | arr => cases hvalue

theorem Loaded.get {value default found : Json} {key : String} (h : Loaded F value)
    (hget : value.get key default = .ok found) (hdefault : Loaded F default) : Loaded F found := by
  cases value with
  | obj fields =>
    cases hget
    cases hlookup : Json.lookup fields key with
    | none => exact hdefault
    | some found =>
      obtain ⟨field, hfield, rfl⟩ := Option.map_eq_some_iff.mp hlookup
      exact h.of_obj field (List.mem_of_find?_eq_some hfield)
  | null | bool | int | float | str | arr => cases hget

theorem loaded_empty : Loaded F (.obj []) :=
  .obj List.nodup_nil (fun _ h => absurd h List.not_mem_nil) fun _ h => absurd h List.not_mem_nil

def cmdResponseProperties (description : Json) : List (String × Json) :=
  [ ("msgId", .strOf "cmd-rsp"),
    ("result", .dict [("enum", .strOf "success"), ("description", description)]),
    ("r-code", .dict [("type", .strOf "number"), ("description", .int 100)]) ]

theorem loads_cmdResponse {description : Json} (h : Loaded F description) :
    loads F (appData (SDK_HEADER ++ makeCmdResponseJson description)) =
      some (messageObject "Command response Message"
        "Message structure in JSON for Command response" (cmdResponseProperties description)) := by
  apply loads_message _ _ (by simp)
  have hresult : Loaded F (.dict [("enum", .strOf "success"), ("description", description)]) := by
    apply loaded_dict (by simp)
    simp only [List.forall_mem_cons]
    exact ⟨loaded_strOf _, h, List.forall_mem_nil _⟩
  have hcode : Loaded F (.dict [("type", .strOf "number"), ("description", .int 100)]) := by
    apply loaded_dict (by simp)
    simp only [List.forall_mem_cons]
    exact ⟨loaded_strOf _, .int (by decide), List.forall_mem_nil _⟩
  simp only [List.forall_mem_cons]
  exact ⟨loaded_strOf _, hresult, hcode, List.forall_mem_nil _⟩

theorem nested_cmdResponse (description : Json) (key : String) :
    nested (.dict (cmdResponseProperties description)) "result" key =
      .ok ((Json.dict [("enum", .strOf "success"), ("description", description)]).field key
        (.strOf "")) := by
  have hresult : (Json.dict (cmdResponseProperties description)).field "result" (.obj []) =
      .dict [("enum", .strOf "success"), ("description", description)] := by
    simp [cmdResponseProperties]
  rw [nested, Json.get_of_isObj (Json.isObj_dict _), hresult]
  exact Json.get_of_isObj (Json.isObj_dict _) _ _

/-- A command response is taken in without an answer. -/
theorem handleBtMessage_cmdResponse {description : Json} (h : Loaded F description)
    (session : SapSession) (cmdSession : ℕ) :
    handleBtMessage (loads F) session cmdSession (SDK_HEADER ++ makeCmdResponseJson description) =
      .ret (.strOf "cmd-rsp", .dict (cmdResponseProperties description)) := by
  rw [handleBtMessage_object (loads_cmdResponse h) rfl (by rw [properties_messageObject]; rfl),
    properties_messageObject]
  simp [cmdResponseProperties]
  rfl

theorem yields_sendSlpFrame (session : SapSession) (payload : Bytes) (sessionId : ℕ) :
    Yields some (sendSlpFrame session payload sessionId)
      fun t _ => t = [⟨.sendSlpFrame session payload sessionId, .ok ()⟩] :=
  yields_fromResult_bind fun _ _ => yields_perform fun _ => rfl

/-- The answer to a `cmd-req` carries its description. -/
theorem handleBtMessage_cmdRequest (session : SapSession) (cmdSession : ℕ) (msg : Bytes) :
    Yields some (handleBtMessage (loads F) session cmdSession msg) fun t out =>
      out.1.isStr "cmd-req" = true → ∃ description, Loaded F description ∧
        nested out.2 "action" "description" = .ok description ∧
        t = [⟨.sendSlpFrame session (SDK_HEADER ++ makeCmdResponseJson description) cmdSession,
          .ok ()⟩] := by
  cases hvalue : loads F (appData msg) with
  | none =>
    simp only [handleBtMessage, hvalue]
    have hnull (t : List SessionEvent) : (Json.null, Json.obj []).1.isStr "cmd-req" = true →
        ∃ description, Loaded F description ∧
          nested (Json.null, Json.obj []).2 "action" "description" = .ok description ∧
          t = [⟨.sendSlpFrame session (SDK_HEADER ++ makeCmdResponseJson description) cmdSession,
            .ok ()⟩] := fun h => by cases h
    split_ifs
    · exact (yields_true _).bind fun t _ _ => yields_ret (hnull _)
    · exact yields_ret (hnull _)
  | some value =>
    have hloaded := loads_loaded hvalue
    simp only [handleBtMessage, hvalue]
    apply yields_fromResult_bind
    intro props hprops
    apply yields_fromResult_bind
    intro msgId hmsgId
    -- another id is not that of a command
    have hother {text : String} (h : msgId.isStr text = true) (hne : pyStr text ≠ pyStr "cmd-req")
        (p : Prop) : msgId.isStr "cmd-req" = true → p :=
      fun hcmd => absurd (Json.isStr_unique h hcmd) hne
    split_ifs with hd hc hcmd
    · apply (yields_true _).bind
      rintro t now -
      apply (yields_sendSlpFrame session _ cmdSession).bind
      rintro t' - -
      exact yields_ret (hother hd (by decide) _)
    · apply (yields_sendSlpFrame session _ cmdSession).bind
      rintro t' - -
      exact yields_ret (hother hc (by decide) _)
    · apply yields_fromResult_bind
      intro action haction
      apply yields_fromResult_bind
      intro description hdescription
      apply (yields_sendSlpFrame session _ cmdSession).bind
      rintro _ - rfl
      refine yields_ret fun _ => ⟨description, ?_, ?_, rfl⟩
      · exact ((hloaded.get hprops loaded_empty).get haction loaded_empty).get hdescription
          (loaded_strOf "")
      · rw [nested, haction]
        exact hdescription
    · exact yields_ret fun h => absurd h hcmd

/-- A `cmd-req` that is taken in is answered by one message. Whoever takes in the answer reads the
description of the request in it, whatever JSON value that was, and answers nothing. -/
theorem command_echoed {session : SapSession} {cmdSession : ℕ} {msg : Bytes}
    {t : List SessionEvent} {msgId props : Json}
    (hr : Run (handleBtMessage (loads F) session cmdSession msg) t (.ok (msgId, props)))
    (hcmd : msgId.isStr "cmd-req" = true) :
    ∃ reply, t = [⟨.sendSlpFrame session reply cmdSession, .ok ()⟩] ∧
      ∀ session' cmdSession' t' r,
        Run (handleBtMessage (loads F) session' cmdSession' reply) t' r →
          t' = [] ∧ ∃ props', r = .ok (.strOf "cmd-rsp", props') ∧
            nested props' "result" "enum" = .ok (.strOf "success") ∧
            nested props' "result" "description" = nested props "action" "description" := by
  obtain ⟨description, hloaded, hdescription, ht⟩ :=
    (handleBtMessage_cmdRequest session cmdSession msg).run t _ hr hcmd
  rw [List.filterMap_some] at ht
  -- the reply is read by the same handler, which finds no request in it
  refine ⟨_, ht, fun session' cmdSession' t' r hr' => ?_⟩
  rw [handleBtMessage_cmdResponse hloaded] at hr'
  obtain ⟨rfl, rfl⟩ := run_ret_iff.mp hr'
  refine ⟨rfl, _, rfl, ?_, ?_⟩
  · rw [nested_cmdResponse]
    simp
  · rw [hdescription, nested_cmdResponse]
    simp

end

section
variable {F : FloatRepr} {session : SapSession} {cmdSession : ℕ}

def cmdRequestProperties (description : String) : List (String × Json) :=
  [ ("msgId", .strOf "cmd-req"),
    ("action", .dict [("enum", .strOf "execute"), ("description", .strOf description)]) ]

theorem loads_cmdRequest (description : String) :
    loads F (appData (SDK_HEADER ++ makeCmdRequestJson description)) =
      some (messageObject "Command request Message"
        "Message structure in JSON for Command request" (cmdRequestProperties description)) := by
  apply loads_message _ _ (by simp)
  have haction : Loaded F
      (.dict [("enum", .strOf "execute"), ("description", .strOf description)]) := by
    apply loaded_dict (by simp)
    simp only [List.forall_mem_cons]
    exact ⟨loaded_strOf _, loaded_strOf _, List.forall_mem_nil _⟩
  simp only [List.forall_mem_cons]
  exact ⟨loaded_strOf _, haction, List.forall_mem_nil _⟩

/-- A host that gets our request answers it, where the answer fits a frame. -/
theorem run_cmdRequest {description : String}
    (hfits : (makeCmdResponseJson (.strOf description)).length ≤ 65532) :
    Run (handleBtMessage (loads F) session cmdSession
        (SDK_HEADER ++ makeCmdRequestJson description))
      [⟨.sendSlpFrame session (SDK_HEADER ++ makeCmdResponseJson (.strOf description)) cmdSession,
        .ok ()⟩]
      (.ok (.strOf "cmd-req", .dict (cmdRequestProperties description))) := by
  have hget : (Json.dict [("enum", .strOf "execute"), ("description", .strOf description)]).get
      "description" (.strOf "") = .ok (.strOf description) := by
    rw [Json.get_of_isObj (Json.isObj_dict _)]
    simp
  rw [handleBtMessage_object (loads_cmdRequest description) rfl
    (by rw [properties_messageObject]; rfl), properties_messageObject]
  simp only [cmdRequestProperties, Json.field_dict_cons, Json.isStr_strOf, reduceIte, hget,
    fromResult, Prog.ret_bind, sendSlpFrame_fits (sdk_fits hfits), String.reduceEq, decide_true,
    decide_false, Bool.false_eq_true]
  exact Run.call _ (Run.ret _)

end

/-- A `repr` for messages without floats. -/
def noFloats : FloatRepr where
  repr _ := "Infinity"
  repr_ascii _ := by decide
  repr_reads _ := .inl rfl

theorem command_echoed_liveview : ∃ reply,
    [⟨.sendSlpFrame ⟨3, true⟩
        (SDK_HEADER ++ makeCmdResponseJson (.strOf "liveview")) 204, .ok ()⟩] =
      ([⟨.sendSlpFrame ⟨3, true⟩ reply 204, .ok ()⟩] : List SessionEvent) ∧
      ∀ session' cmdSession' t' r,
        Run (handleBtMessage (loads noFloats) session' cmdSession' reply) t' r →
          t' = [] ∧ ∃ props', r = .ok (.strOf "cmd-rsp", props') ∧
            nested props' "result" "enum" = .ok (.strOf "success") ∧
            nested props' "result" "description" =
              nested (.dict (cmdRequestProperties "liveview")) "action" "description" :=
  command_echoed (run_cmdRequest (by decide +kernel)) (by decide)

end Gear360
