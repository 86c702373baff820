import Gear360.DeviceInfo

namespace Gear360

open Interaction
open Interaction.Prog (perform fromResult)
open Session

section
variable {Op : Type} {Ans : Op → Type} {ε α β : Type} {p : Prog Ans ε α}

/-- A run in which every operation was answered returns a value. -/
def Steady (p : Prog Ans ε α) : Prop :=
  Ensures p fun t r => (∀ e ∈ t, e.2.isOk = true) → ∃ a, r = .ok a

/-- A run in which every operation was answered raises. -/
def Raises (p : Prog Ans ε α) : Prop :=
  Ensures p fun t r => (∀ e ∈ t, e.2.isOk = true) → ∃ e, r = .error e

theorem steady_ret (a : α) : Steady (.ret a : Prog Ans ε α) := ensures_ret fun _ => ⟨a, rfl⟩

theorem steady_perform (o : Op) : Steady (perform o : Prog Ans ε (Ans o)) := by
  apply ensures_perform
  intro x hok
  have hx := hok _ (List.mem_singleton_self _)
  cases x with
  | ok a => exact ⟨a, rfl⟩
  | error e => cases hx

theorem Steady.bind {f : α → Prog Ans ε β} (hp : Steady p) (hf : ∀ a, Steady (f a)) :
    Steady (p >>= f) := by
  apply ensures_bind
  · intro t e ht hok
    obtain ⟨a, ha⟩ := hp t _ ht hok
    cases ha
  · intro t a _ t' r ht' hok
    exact hf a t' r ht' fun e he => hok e (List.mem_append_right t he)

theorem raises_raise (e : ε) : Raises (.raise e : Prog Ans ε α) := ensures_raise fun _ => ⟨e, rfl⟩

end

/-- The message is not JSON, or it is an object whose properties are one; a `cmd-req` has an object
for its action and a description whose echo fits a frame. -/
def Handleable (jsonLoads : Bytes → Option Json) (msg : Bytes) : Prop :=
  ∀ value, jsonLoads (appData msg) = some value →
    value.isObj = true ∧ (properties value).isObj = true ∧
      (((properties value).field "msgId" (.strOf "")).isStr "cmd-req" = true →
        ((properties value).field "action" (.obj [])).isObj = true ∧
          (dumps (cmdDescription (properties value))).length ≤ 65296)

section
variable {jsonLoads : Bytes → Option Json} {session : SapSession} {cmdSession : ℕ}

theorem steady_answer {α : Type} {message : Bytes} (h : message.length ≤ 65532) (a : α) :
    Steady (do
      sendSlpFrame session (SDK_HEADER ++ message) cmdSession
      return a) := by
  rw [sendSlpFrame_fits (sdk_fits h)]
  exact (steady_perform _).bind fun _ => steady_ret a

/-- What is not JSON is ignored, or answered as a capability query. -/
theorem handleBtMessage_undecoded {msg : Bytes} (h : jsonLoads (appData msg) = none) :
    Steady (handleBtMessage jsonLoads session cmdSession msg) := by
  simp only [handleBtMessage, h]
  by_cases hquery : isCapexQuery msg = true
  · obtain ⟨reply, hreply, -, -, hlen⟩ := capexReply_ok msg
    rw [if_pos hquery, handleCapex_query hquery hreply hlen]
    exact (steady_perform _).bind fun _ => steady_ret _
  · rw [if_neg hquery]
    exact steady_ret _

theorem Json.get_of_not_isObj {value : Json} (h : ¬value.isObj = true) (key : String)
    (default : Json) : value.get key default = .error .attributeError := by
  cases value with
  | obj fields => exact absurd rfl h
  | _ => rfl

theorem handleBtMessage_steady {msg : Bytes} (h : Handleable jsonLoads msg) :
    Steady (handleBtMessage jsonLoads session cmdSession msg) := by
  cases hvalue : jsonLoads (appData msg) with
  | none => exact handleBtMessage_undecoded hvalue
  | some value =>
    obtain ⟨hobj, hprops, hcmd⟩ := h value hvalue
    rw [handleBtMessage_object hvalue hobj hprops]
    split_ifs with hd hc hr
    · apply (steady_perform _).bind
      intro now
      have hlen := makeDateTimeResponseJson_length now
      exact steady_answer (by omega) _
    · exact steady_answer (by decide +kernel) _
    · obtain ⟨haction, hfits⟩ := hcmd hr
      have hlen := makeCmdResponseJson_length (cmdDescription (properties value))
      rw [Json.get_of_isObj haction]
      exact steady_answer (by change (makeCmdResponseJson (cmdDescription _)).length ≤ _; omega) _
    · exact steady_ret _

/-- A lookup in something other than a dictionary, or an echo that does not fit, raises. -/
theorem handleBtMessage_raises {msg : Bytes} (h : ¬Handleable jsonLoads msg) :
    Raises (handleBtMessage jsonLoads session cmdSession msg) := by
  cases hvalue : jsonLoads (appData msg) with
  | none => exact absurd (fun value hv => by rw [hvalue] at hv; cases hv) h
  | some value =>
    by_cases hobj : value.isObj = true
    · by_cases hprops : (properties value).isObj = true
      · rw [handleBtMessage_object hvalue hobj hprops]
        -- only the answer to a `cmd-req` looks further
        have hbad : ∃ _ : ((properties value).field "msgId" (.strOf "")).isStr "cmd-req" = true,
            ((properties value).field "action" (.obj [])).isObj = true →
              65296 < (dumps (cmdDescription (properties value))).length := by
          by_contra hgood
          refine h fun value' hvalue' => ?_
          rw [hvalue] at hvalue'
          cases hvalue'
          refine ⟨hobj, hprops, fun hcmd => ?_⟩
          push Not at hgood
          exact hgood hcmd
        obtain ⟨hcmd, hbad⟩ := hbad
        have hother {text : String} (hne : pyStr text ≠ pyStr "cmd-req") :
            ¬((properties value).field "msgId" (.strOf "")).isStr text = true :=
          fun htext => hne (Json.isStr_unique htext hcmd)
        rw [if_neg (hother (by decide)), if_neg (hother (by decide)), if_pos hcmd]
        by_cases haction : ((properties value).field "action" (.obj [])).isObj = true
        · have hdescription : ((properties value).field "action" (.obj [])).get "description"
              (.strOf "") = .ok (cmdDescription (properties value)) := Json.get_of_isObj haction _ _
          rw [hdescription, fromResult, Prog.ret_bind,
            sendSlpFrame_overflow (echo_overflow (hbad haction))]
          exact raises_raise _
        · rw [Json.get_of_not_isObj haction]
          exact raises_raise _
      · have hget : value.get "properties" (.obj []) = .ok (properties value) :=
          Json.get_of_isObj hobj _ _
        simp only [handleBtMessage, hvalue, hget, fromResult, Prog.ret_bind,
          Json.get_of_not_isObj hprops]
        exact raises_raise _
    · simp only [handleBtMessage, hvalue, Json.get_of_not_isObj hobj]
      exact raises_raise _

end

/-- `_handle_bt_message` returns a message id and properties exactly if the message is not JSON, or
has the shape of the camera's own messages wherever it looks. -/
theorem handle_bt_message_returns_iff (jsonLoads : Bytes → Option Json) (session : SapSession)
    (cmdSession : ℕ) (msg : Bytes) {t : List SessionEvent} {r : Except PyErr (Json × Json)}
    (hr : Run (handleBtMessage jsonLoads session cmdSession msg) t r)
    (hok : ∀ e ∈ t, e.2.isOk = true) : (∃ out, r = .ok out) ↔ Handleable jsonLoads msg := by
  constructor
  · rintro ⟨out, rfl⟩
    by_contra h
    obtain ⟨e, he⟩ := handleBtMessage_raises h t _ hr hok
    cases he
  · intro h
    exact handleBtMessage_steady h t r hr hok

/-- A parser that knows one text. -/
def loadsOnly (text : Bytes) (value : Json) (data : Bytes) : Option Json :=
  if data = text then some value else none

/-- The text of an empty array. -/
def emptyArray : Bytes := [0x5B, 0x5D]

theorem emptyArray_run : Run (handleBtMessage (loadsOnly emptyArray (.arr [])) ⟨3, true⟩ 204
    emptyArray) [] (.error .attributeError) := Run.raise _

theorem handle_bt_message_returns_iff_array :
    ¬Handleable (loadsOnly emptyArray (.arr [])) emptyArray := by
  intro h
  obtain ⟨out, hout⟩ := (handle_bt_message_returns_iff _ _ _ _ emptyArray_run (by simp)).mpr h
  cases hout

/-- An empty array is JSON and makes the handler raise. -/
theorem handle_bt_message_raises : ∃ (jsonLoads : Bytes → Option Json) (session : SapSession)
    (cmdSession : ℕ) (msg : Bytes) (t : List SessionEvent) (r : Except PyErr (Json × Json)),
    Run (handleBtMessage jsonLoads session cmdSession msg) t r ∧ (∀ e ∈ t, e.2.isOk = true) ∧
      ¬∃ out, r = .ok out := by
  refine ⟨_, _, _, _, _, _, emptyArray_run, by simp, ?_⟩
  rintro ⟨out, hout⟩
  cases hout

end Gear360
