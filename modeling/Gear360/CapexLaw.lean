import Gear360.ServiceOps

namespace Gear360

open Interaction
open Interaction.Prog (perform fromResult)
open Session

/-- What a query is owed: its own query type echoed, or the legacy reply. -/
def capexReply (query : Bytes) : Except PyErr Bytes :=
  if query.head? = some MSG_CAPEX_QUERY then makeCapexResponse (query.getD 1 0).toNat 0
  else makeCapexResponseLegacy

def IsCapexReply (payload : Bytes) : Prop :=
  payload.head? = some MSG_CAPEX_RESPONSE ∨ payload.head? = some MSG_CAPEX_RESPONSE_LEGACY

instance (payload : Bytes) : Decidable (IsCapexReply payload) := inferInstanceAs (Decidable (_ ∨ _))

/-- The record that the replies end with, up to the ASP version. -/
theorem makeCapexResponse_ok (queryType : UInt8) : ∃ record, record.length ≤ 50 ∧
    makeCapexResponse queryType.toNat 0 = .ok (MSG_CAPEX_RESPONSE :: queryType :: record) := by
  have htype : appended queryType.toNat = .ok [queryType] := by
    rw [appended, if_pos queryType.toNat_lt, UInt8.ofNat_toNat]
  rw [makeCapexResponse, htype]
  -- with the checksum or without it, the rest of the reply is closed
  by_cases hsum : queryType.toNat = 2 ∨ queryType.toNat = 3
  · rw [checksumField, if_pos hsum]
    exact ⟨_, by decide +kernel, rfl⟩
  · rw [checksumField, if_neg hsum]
    exact ⟨_, by decide +kernel, rfl⟩

theorem makeCapexResponseLegacy_ok : ∃ record, record.length ≤ 50 ∧
    makeCapexResponseLegacy = .ok (MSG_CAPEX_RESPONSE_LEGACY :: record) :=
  ⟨_, by decide +kernel, rfl⟩

/-- The reply is of type 2 and repeats the type that a type-1 query asks for, or is the legacy
one. -/
def RepliesTo (query reply : Bytes) : Prop :=
  if query.head? = some MSG_CAPEX_QUERY then reply.take 2 = [MSG_CAPEX_RESPONSE, query.getD 1 0]
  else reply.head? = some MSG_CAPEX_RESPONSE_LEGACY

instance (query reply : Bytes) : Decidable (RepliesTo query reply) :=
  inferInstanceAs (Decidable (ite _ _ _))

/-- Every reply can be built, is of the right type, and fits a frame. -/
theorem capexReply_ok (query : Bytes) : ∃ reply, capexReply query = .ok reply ∧
    RepliesTo query reply ∧ IsCapexReply reply ∧ reply.length ≤ 65533 := by
  unfold capexReply RepliesTo
  split_ifs
  · obtain ⟨record, hlen, h⟩ := makeCapexResponse_ok (query.getD 1 0)
    refine ⟨_, h, rfl, .inl rfl, ?_⟩
    simp only [List.length_cons]
    omega
  · obtain ⟨record, hlen, h⟩ := makeCapexResponseLegacy_ok
    refine ⟨_, h, rfl, .inr rfl, ?_⟩
    simp only [List.length_cons]
    omega

theorem isCapexQuery_cases {msg : Bytes} (h : isCapexQuery msg = true) :
    ∃ kind second rest, msg = kind :: second :: rest ∧ (kind = 1 ∨ kind = 5) := by
  match msg with
  | kind :: second :: rest => exact ⟨kind, second, rest, rfl, of_decide_eq_true h⟩

/-- `_handle_capex` sends the reply that the query is owed, on the session it is told. -/
theorem handleCapex_query {session : SapSession} {msg reply : Bytes} (h : isCapexQuery msg = true)
    (hreply : capexReply msg = .ok reply) (hfits : reply.length ≤ 65533) (sessionId : ℕ) :
    handleCapex session msg sessionId =
      perform (SessionOp.sendSlpFrame session reply sessionId) := by
  obtain ⟨kind, second, rest, rfl, rfl | rfl⟩ := isCapexQuery_cases h
  · have hmake : makeCapexResponse second.toNat 0 = .ok reply := hreply
    calc handleCapex session (1 :: second :: rest) sessionId
        = fromResult (makeCapexResponse second.toNat 0) >>= fun reply =>
            sendSlpFrame session reply sessionId := rfl
      _ = sendSlpFrame session reply sessionId := by rw [hmake]; rfl
      _ = _ := sendSlpFrame_fits hfits sessionId
  · have hmake : makeCapexResponseLegacy = .ok reply := hreply
    calc handleCapex session (5 :: second :: rest) sessionId
        = fromResult makeCapexResponseLegacy >>= fun reply =>
            sendSlpFrame session reply sessionId := rfl
      _ = sendSlpFrame session reply sessionId := by rw [hmake]; rfl
      _ = _ := sendSlpFrame_fits hfits sessionId

/-- The query that waits for its reply, and whether all went well so far. -/
@[ext] structure CapexNotes where
  owed : Option SlpFrame := none
  lawful : Bool := true
deriving DecidableEq

/-- The reply that the query is owed, on the query's own session. -/
def Answers (query : SlpFrame) (payload : Bytes) (sessionId : ℕ) : Prop :=
  RepliesTo query.payload payload ∧ capexReply query.payload = .ok payload ∧
    sessionId = query.sessionId

instance (query : SlpFrame) (payload : Bytes) (sessionId : ℕ) :
    Decidable (Answers query payload sessionId) := inferInstanceAs (Decidable (_ ∧ _))

/-- A read is lawful when nothing is owed, a capability reply when it is what is owed. -/
def CapexNotes.note (seen : CapexNotes) : SessionEvent → CapexNotes
  | ⟨.readSlpFrame _ _, x⟩ =>
    { owed := x.toOption.join.filter fun frame => isCapexQuery frame.payload
      lawful := seen.lawful && seen.owed.isNone }
  | ⟨.sendSlpFrame _ payload sessionId, _⟩ =>
    if IsCapexReply payload then
      { owed := none
        lawful := seen.lawful && seen.owed.any fun query => Answers query payload sessionId }
    else seen
  | _ => seen

/-- Each query read is answered exactly once before the next read, on its own session, and no
other capability reply is sent. -/
def CapexLaw (t : List SessionEvent) : Prop :=
  (t.foldl CapexNotes.note {}).lawful = true ∧ (t.foldl CapexNotes.note {}).owed = none

instance (t : List SessionEvent) : Decidable (CapexLaw t) := inferInstanceAs (Decidable (_ ∧ _))

/-- The capability query of an event, if it is one. -/
def capexQuery : SessionEvent → Option SlpFrame
  | ⟨.readSlpFrame _ _, x⟩ => x.toOption.join.filter fun frame => isCapexQuery frame.payload
  | _ => none

def capexQueries (t : List SessionEvent) : List SlpFrame := t.filterMap capexQuery

section
variable (meets : SlpFrame → Bool)

/-- The notes, and whether all queries so far met the condition. -/
def noteMeeting (seen : CapexNotes × Bool) (e : SessionEvent) : CapexNotes × Bool :=
  (seen.1.note e, seen.2 && (capexQuery e).all meets)

theorem foldl_noteMeeting (t : List SessionEvent) (seen : CapexNotes × Bool) :
    t.foldl (noteMeeting meets) seen =
      (t.foldl CapexNotes.note seen.1, seen.2 && (capexQueries t).all meets) := by
  induction t generalizing seen with
  | nil => simp [capexQueries]
  | cons e t ih =>
    rw [List.foldl_cons, ih, List.foldl_cons, noteMeeting, Bool.and_assoc]
    -- an event that is no query leaves the condition as it was
    cases h : capexQuery e <;> simp [capexQueries, h]

/-- Nothing is owed, and all went well exactly if the condition was met. -/
def Clean (seen : CapexNotes × Bool) : Prop := seen.1.owed = none ∧ seen.1.lawful = seen.2

/-- The query is owed its reply. -/
def Owing (query : SlpFrame) (seen : CapexNotes × Bool) : Prop :=
  seen.1.owed = some query ∧ (seen.1.lawful && meets query) = seen.2

/-- Programs that leave no query behind. -/
abbrev Keeps {α : Type} (p : Session α) : Prop := Leads (noteMeeting meets) Clean Clean p

/-- Programs that answer the query, and leave no query behind. -/
abbrev Settles {α : Type} (query : SlpFrame) (p : Session α) : Prop :=
  Leads (noteMeeting meets) (Owing meets query) Clean p

/-- Operations that neither read an SLP frame nor send a capability reply. -/
def SessionOp.Quiet : SessionOp → Prop
  | .readSlpFrame _ _ => False
  | .sendSlpFrame _ payload _ => ¬IsCapexReply payload
  | _ => True

variable {meets}

theorem noteMeeting_quiet {o : SessionOp} (ho : o.Quiet) (x : Except PyErr (SessionAns o))
    (seen : CapexNotes × Bool) : noteMeeting meets seen ⟨o, x⟩ = seen := by
  obtain ⟨seen, flag⟩ := seen
  cases o with
  | readSlpFrame session timeout => exact ho.elim
  | sendSlpFrame session payload sessionId =>
    have hnote : seen.note ⟨.sendSlpFrame session payload sessionId, x⟩ = seen := if_neg ho
    rw [noteMeeting, hnote]
    exact congrArg _ (Bool.and_true flag)
  | _ => exact congrArg _ (Bool.and_true flag)

theorem keeps_quiet {o : SessionOp} (ho : o.Quiet) : Keeps meets (perform o) := by
  apply leads_perform
  intro seen x h
  rw [noteMeeting_quiet ho]
  exact h

theorem keeps_logError (text : String) : Keeps meets (Session.logError text) :=
  keeps_quiet (show SessionOp.Quiet (.logError text) from trivial)

theorem keeps_sendSlpFrame {session : SapSession} {payload : Bytes} (h : ¬IsCapexReply payload)
    (sessionId : ℕ) : Keeps meets (sendSlpFrame session payload sessionId) := by
  apply (leads_fromResult _).bind
  intro wire
  exact keeps_quiet (show SessionOp.Quiet (.sendSlpFrame session payload sessionId) from h)

/-- What is known after a read while nothing was owed. -/
def AfterRead (meets : SlpFrame → Bool) (answer : Option SlpFrame) (seen : CapexNotes × Bool) :
    Prop :=
  match answer.filter fun frame => isCapexQuery frame.payload with
  | none => Clean seen
  | some query => Owing meets query seen

theorem noteMeeting_read {session : SapSession} {timeout : ℕ} {seen : CapexNotes × Bool}
    (h : Clean seen) (x : Except PyErr (Option SlpFrame)) :
    noteMeeting meets seen ⟨.readSlpFrame session timeout, x⟩ =
      ({ owed := capexQuery ⟨.readSlpFrame session timeout, x⟩, lawful := seen.2 },
        seen.2 && (capexQuery ⟨.readSlpFrame session timeout, x⟩).all meets) := by
  rw [noteMeeting, CapexNotes.note, h.1, h.2, Option.isNone_none, Bool.and_true]
  rfl

/-- Only a query changes what has to come after a read. -/
theorem keeps_readSlpFrame {α : Type} {session : SapSession} {timeout : ℕ}
    {f : Option SlpFrame → Session α} (hnone : Keeps meets (f none))
    (hother : ∀ frame : SlpFrame, isCapexQuery frame.payload = false → Keeps meets (f (some frame)))
    (hquery : ∀ query : SlpFrame, isCapexQuery query.payload = true →
      Settles meets query (f (some query))) :
    Keeps meets (readSlpFrame session timeout >>= f) := by
  apply leads_perform_bind (K := AfterRead meets)
  · intro seen e h
    rw [noteMeeting_read h]
    exact ⟨rfl, (Bool.and_true _).symm⟩
  · intro seen x h
    rw [noteMeeting_read h, AfterRead]
    -- the notes after the read are known; whether a query is owed is decided by its answer
    have hx : capexQuery ⟨.readSlpFrame session timeout, .ok x⟩ =
        x.filter fun frame => isCapexQuery frame.payload := rfl
    rw [hx]
    cases x.filter fun frame => isCapexQuery frame.payload with
    | none => exact ⟨rfl, (Bool.and_true _).symm⟩
    | some query => exact ⟨rfl, rfl⟩
  · intro x
    match x with
    | none => exact hnone
    | some frame =>
      unfold AfterRead
      cases h : isCapexQuery frame.payload with
      | false => simpa only [Option.filter_some, h, if_neg Bool.false_ne_true] using hother frame h
      | true => simpa only [Option.filter_some, h, if_true] using hquery frame h

/-- Answering on a session settles the query when this is the query's own session exactly if
the condition is met. -/
theorem settles_handleCapex {session : SapSession} {query : SlpFrame} {sessionId : ℕ}
    (hmeets : meets query = decide (sessionId = query.sessionId))
    (hquery : isCapexQuery query.payload = true) :
    Settles meets query (handleCapex session query.payload sessionId) := by
  obtain ⟨reply, hreply, htype, hkind, hfits⟩ := capexReply_ok query.payload
  rw [handleCapex_query hquery hreply hfits]
  apply leads_perform
  intro seen x h
  have hnote : seen.1.note ⟨.sendSlpFrame session reply sessionId, x⟩ =
      { owed := none
        lawful := seen.1.lawful && seen.1.owed.any fun query => Answers query reply sessionId } :=
    if_pos hkind
  -- the reply is the right one, so only its session can be wrong
  have hanswers : Answers query reply sessionId ↔ sessionId = query.sessionId :=
    (and_iff_right htype).trans (and_iff_right hreply)
  rw [noteMeeting, hnote, h.1]
  refine ⟨rfl, ?_⟩
  rw [← h.2, hmeets]
  simp [hanswers, capexQuery]

end

/-- The read loops of phase 3 know the session of a query: no condition. -/
abbrev anyQuery : SlpFrame → Bool := fun _ => true

variable {session : SapSession}

theorem settles_own {query : SlpFrame} (hquery : isCapexQuery query.payload = true) :
    Settles anyQuery query (handleCapex session query.payload query.sessionId) :=
  settles_handleCapex (decide_eq_true rfl).symm hquery

theorem query_head {msg : Bytes} (h : isCapexQuery msg = true) (kind : UInt8) (h₁ : kind ≠ 1)
    (h₅ : kind ≠ 5) : msg.head? ≠ some kind := by
  obtain ⟨first, second, rest, rfl, hfirst⟩ := isCapexQuery_cases h
  intro hhead
  cases hhead
  exact hfirst.elim h₁ h₅

theorem waitServiceConnection_keeps (timeoutPer attempts : ℕ) :
    Keeps anyQuery (waitServiceConnection session timeoutPer attempts) := by
  induction attempts with
  | zero => exact leads_ret _
  | succ attempts ih =>
    apply keeps_readSlpFrame
    · exact ih
    · intro frame h
      dsimp only
      split_ifs
      · split
        · exact leads_fromResult _
        · exact ih
      · exact absurd ‹_› (by simp [h])
      · exact ih
    · intro query h
      -- a query is not taken for the response that is waited for
      have hhead : ¬(query.payload.head? = some 2 ∧ query.sessionId = DEFAULT_SESSION) :=
        fun h₂ => query_head h 2 (by decide) (by decide) h₂.1
      simp only [if_neg hhead, h, if_true]
      exact (settles_own h).bind fun _ => ih

theorem answerCapexQueries_keeps (attempts capexHandled : ℕ) :
    Keeps anyQuery (answerCapexQueries session attempts capexHandled) := by
  induction attempts generalizing capexHandled with
  | zero => exact leads_ret _
  | succ attempts ih =>
    apply keeps_readSlpFrame
    · dsimp only
      split_ifs
      · exact leads_ret _
      · exact ih _
    · intro frame h
      simp only [h, if_neg Bool.false_ne_true]
      exact ih _
    · intro query h
      simp only [h, if_true]
      exact (settles_own h).bind fun _ => ih _

theorem findComponentId_keeps (attempts : ℕ) :
    Keeps anyQuery (findComponentId session attempts) := by
  induction attempts with
  | zero => exact leads_ret _
  | succ attempts ih =>
    apply keeps_readSlpFrame
    · exact ih
    · intro frame h
      dsimp only
      split_ifs
      · exact (leads_fromResult _).bind fun _ => leads_ret _
      · exact leads_ret _
      · exact absurd ‹_› (by simp [h])
      · exact ih
    · intro query h
      -- a query starts like neither of the two capability responses
      have h₂ : ¬(2 ≤ query.payload.length ∧ query.payload.head? = some 2) :=
        fun hhead => query_head h 2 (by decide) (by decide) hhead.2
      have h₆ : ¬(2 ≤ query.payload.length ∧ query.payload.head? = some 6) :=
        fun hhead => query_head h 6 (by decide) (by decide) hhead.2
      simp only [if_neg h₂, if_neg h₆, h, if_true]
      exact (settles_own h).bind fun _ => ih

theorem frameOfParts_head {kind : UInt8} {parts : List (Except PyErr Bytes)} {frame : Bytes}
    (h : frameOfParts (.ok [kind] :: parts) = .ok frame) : frame.head? = some kind := by
  rw [frameOfParts, List.mapM_cons] at h
  cases hparts : parts.mapM id with
  | error e => rw [hparts] at h; cases h
  | ok parts => rw [hparts] at h; cases h; rfl

theorem not_isCapexReply {payload : Bytes} {kind : UInt8} (h : payload.head? = some kind)
    (h₂ : kind ≠ 2) (h₆ : kind ≠ 6) : ¬IsCapexReply payload := by
  intro hreply
  rw [IsCapexReply, h] at hreply
  exact hreply.elim (fun h => h₂ (Option.some.inj h)) (fun h => h₆ (Option.some.inj h))

/-- Our own requests are no replies. -/
theorem keeps_request {kind : UInt8} {parts : List (Except PyErr Bytes)} {sessionId : ℕ}
    {α : Type} {p : Session α} (h₂ : kind ≠ 2) (h₆ : kind ≠ 6) (hp : Keeps anyQuery p) :
    Keeps anyQuery (do
      let request ← fromResult (frameOfParts (.ok [kind] :: parts))
      sendSlpFrame session request sessionId
      p) := by
  cases h : frameOfParts (.ok [kind] :: parts) with
  | error e => exact leads_raise e
  | ok request =>
    have hrequest := not_isCapexReply (frameOfParts_head h) h₂ h₆
    exact (keeps_sendSlpFrame hrequest sessionId).bind fun _ => hp

theorem runServiceConnection_keeps : Keeps anyQuery (runServiceConnection session) := by
  -- a request of ours is no reply, and the waits keep the law
  apply keeps_request (by decide) (by decide)
  apply (waitServiceConnection_keeps 3000 10).bind
  intro capex
  obtain ⟨capexOk, capexSessions⟩ := capex
  dsimp only
  split_ifs
  · exact (keeps_logError _).bind fun _ => leads_ret _
  apply (answerCapexQueries_keeps 15 0).bind
  intro _
  apply keeps_request (by decide) (by decide)
  apply (findComponentId_keeps 10).bind
  intro cameraComponentId
  apply keeps_request (by decide) (by decide)
  apply (waitServiceConnection_keeps 5000 15).bind
  intro service
  obtain ⟨ok, serviceSessions⟩ := service
  dsimp only
  split_ifs
  · exact (keeps_logError _).bind fun _ => leads_ret _
  · exact leads_ret _

/-- `_handle_bt_message` answers on session 0, whatever session the query came on. -/
abbrev onSessionZero : SlpFrame → Bool := fun query => query.sessionId = 0

section
variable {jsonLoads : Bytes → Option Json}

/-- What starts like a query is no JSON text. -/
def RejectsQueries (jsonLoads : Bytes → Option Json) : Prop :=
  ∀ data : Bytes, data.head? = some 1 ∨ data.head? = some 5 → jsonLoads data = none

theorem jsonLoads_query (hloads : RejectsQueries jsonLoads) {msg : Bytes}
    (h : isCapexQuery msg = true) : jsonLoads (appData msg) = none := by
  obtain ⟨kind, second, rest, rfl, rfl | rfl⟩ := isCapexQuery_cases h
  · exact hloads _ (.inl rfl)
  · exact hloads _ (.inr rfl)

theorem keeps_reply {meets : SlpFrame → Bool} (message : Bytes) (sessionId : ℕ) :
    Keeps meets (sendSlpFrame session (SDK_HEADER ++ message) sessionId) :=
  keeps_sendSlpFrame
    (not_isCapexReply (show (SDK_HEADER ++ message).head? = some 0 from rfl)
      (by decide) (by decide))
    sessionId

theorem handleBtMessage_keeps (cmdSession : ℕ) {msg : Bytes} (h : isCapexQuery msg = false) :
    Keeps onSessionZero (handleBtMessage jsonLoads session cmdSession msg) := by
  unfold handleBtMessage
  -- what is no query is not answered by a reply to one
  split
  · simp only [h, if_neg Bool.false_ne_true]
    exact leads_ret _
  · apply (leads_fromResult _).bind
    intro props
    apply (leads_fromResult _).bind
    intro msgId
    split_ifs
    · apply (keeps_quiet (show SessionOp.Quiet .now from trivial)).bind
      intro now
      exact (keeps_reply _ _).bind fun _ => leads_ret _
    · exact (keeps_reply _ _).bind fun _ => leads_ret _
    · apply (leads_fromResult _).bind
      intro action
      apply (leads_fromResult _).bind
      intro description
      exact (keeps_reply _ _).bind fun _ => leads_ret _
    · exact leads_ret _

theorem handleBtMessage_settles (hloads : RejectsQueries jsonLoads) (cmdSession : ℕ)
    {query : SlpFrame} (h : isCapexQuery query.payload = true) :
    Settles onSessionZero query (handleBtMessage jsonLoads session cmdSession query.payload) := by
  have hmeets : onSessionZero query = decide (0 = query.sessionId) :=
    decide_eq_decide.mpr eq_comm
  -- a query is no JSON text, so it reaches the fallback that passes 0
  simp only [handleBtMessage, jsonLoads_query hloads h, h, if_true]
  exact (settles_handleCapex hmeets h).bind fun _ => leads_ret _

/-- A read loop of these phases: every frame goes to `_handle_bt_message` first. -/
theorem keeps_readBtMessage {α : Type} (hloads : RejectsQueries jsonLoads) {cmdSession timeout : ℕ}
    {f : Json × Json → Session α} {p : Session α} (hp : Keeps onSessionZero p)
    (hf : ∀ message, Keeps onSessionZero (f message)) :
    Keeps onSessionZero (do
      match ← readSlpFrame session timeout with
      | none => p
      | some frame =>
        let message ← handleBtMessage jsonLoads session cmdSession frame.payload
        f message) := by
  apply keeps_readSlpFrame
  · exact hp
  · intro frame h
    exact (handleBtMessage_keeps cmdSession h).bind hf
  · intro query h
    exact (handleBtMessage_settles hloads cmdSession h).bind hf

variable (hloads : RejectsQueries jsonLoads) (cmdSession : ℕ)
include hloads

theorem waitInfo_keeps (attempts : ℕ) :
    Keeps onSessionZero (waitInfo jsonLoads session cmdSession attempts) := by
  induction attempts with
  | zero => exact leads_ret _
  | succ attempts ih =>
    apply keeps_readBtMessage hloads ih
    intro message
    obtain ⟨msgId, props⟩ := message
    dsimp only
    split_ifs
    · apply (leads_fromResult _).bind
      intro wifiInfo
      exact (keeps_reply _ _).bind fun _ => leads_ret _
    · exact ih

theorem drain_keeps (attempts : ℕ) :
    Keeps onSessionZero (drain jsonLoads session cmdSession attempts) := by
  induction attempts with
  | zero => exact leads_ret _
  | succ attempts ih => exact keeps_readBtMessage hloads ih fun _ => ih

theorem waitLiveview_keeps (attempts : ℕ) :
    Keeps onSessionZero (waitLiveview jsonLoads session cmdSession attempts) := by
  induction attempts with
  | zero => exact leads_ret _
  | succ attempts ih =>
    apply keeps_readBtMessage hloads ih
    intro message
    obtain ⟨msgId, props⟩ := message
    dsimp only
    split_ifs
    · exact (leads_fromResult _).bind fun _ => leads_ret _
    · exact ih

theorem waitDeviceUrl_keeps (attempts : ℕ) :
    Keeps onSessionZero (waitDeviceUrl jsonLoads session cmdSession attempts) := by
  induction attempts with
  | zero => exact leads_ret _
  | succ attempts ih =>
    apply keeps_readBtMessage hloads ih
    intro message
    obtain ⟨msgId, props⟩ := message
    dsimp only
    split_ifs
    · exact (leads_fromResult _).bind fun _ => leads_ret _
    · exact ih

theorem exchangeDeviceInfo_keeps :
    Keeps onSessionZero (exchangeDeviceInfo jsonLoads session cmdSession) := by
  apply (keeps_reply _ _).bind
  intro _
  apply (keeps_quiet (show SessionOp.Quiet (.sleep 100) from trivial)).bind
  intro _
  apply (keeps_reply _ _).bind
  intro _
  apply (waitInfo_keeps hloads cmdSession 30).bind
  intro wifiInfo
  have hrest : Keeps onSessionZero (drain jsonLoads session cmdSession 75 >>= fun _ =>
      sendSlpFrame session (SDK_HEADER ++ makeCmdRequestJson "liveview") cmdSession >>= fun _ =>
      waitLiveview jsonLoads session cmdSession 30 >>= fun _ => pure wifiInfo) := by
    apply (drain_keeps hloads cmdSession 75).bind
    intro _
    apply (keeps_reply _ _).bind
    intro _
    exact (waitLiveview_keeps hloads cmdSession 30).bind fun _ => leads_ret _
  dsimp only
  split_ifs
  · exact (keeps_logError _).bind fun _ => hrest
  · exact hrest

theorem discoverDeviceUrl_keeps (cameraIp : PyStr) :
    Keeps onSessionZero (discoverDeviceUrl jsonLoads session cmdSession cameraIp) := by
  have hprobe (attempts : ℕ) : Keeps onSessionZero (probeSsdp cameraIp attempts) := by
    induction attempts with
    | zero => exact leads_ret _
    | succ attempts ih =>
      apply (keeps_quiet (show SessionOp.Quiet (.ssdpProbe cameraIp) from trivial)).bind
      intro found
      split
      · split_ifs
        · exact ih
        · exact leads_ret _
      · exact ih
  apply (waitDeviceUrl_keeps hloads cmdSession 50).bind
  intro found
  split
  · exact leads_ret _
  · exact hprobe 5

theorem joinAndStream_keeps (wifiInfo : WifiInfo) :
    Keeps onSessionZero (joinAndStream jsonLoads session cmdSession wifiInfo) := by
  unfold joinAndStream
  extract_lets ssid password
  split
  · split
    · exact (keeps_logError _).bind fun _ => leads_ret _
    · exact leads_ret _
  -- the WiFi side is quiet; only the wait for the device URL reads frames
  · apply (keeps_quiet (show SessionOp.Quiet (.connectToWifi _ _) from trivial)).bind
    intro connected
    split
    · exact leads_ret _
    apply (keeps_quiet (show SessionOp.Quiet (.sleep 2000) from trivial)).bind
    intro _
    apply (keeps_quiet (show SessionOp.Quiet .resolveCameraIp from trivial)).bind
    intro cameraIp
    apply (discoverDeviceUrl_keeps hloads cmdSession cameraIp).bind
    intro deviceUrl
    split
    · exact keeps_logError _
    · split_ifs
      · exact keeps_logError _
      · apply (keeps_quiet (show SessionOp.Quiet (.fetchUpnpServices _) from trivial)).bind
        intro services
        exact keeps_quiet (show SessionOp.Quiet (.startLiveStream cameraIp services) from trivial)

theorem runDeviceInfoAndStream_keeps :
    Keeps onSessionZero (runDeviceInfoAndStream jsonLoads session cmdSession) := by
  apply (exchangeDeviceInfo_keeps hloads cmdSession).bind
  intro wifiInfo
  split
  · exact leads_ret _
  · exact joinAndStream_keeps hloads cmdSession _

end

section
variable (jsonLoads : Bytes → Option Json) (session : SapSession)

/-- Phase 3 of a run, and what follows it if there was a connection. -/
inductive ServicePhases (t₃ t₄ : List SessionEvent) (r : Except PyErr Unit) : Prop where
  | connected {cmdSession : ℕ} (h₃ : Run (runServiceConnection session) t₃ (.ok (some cmdSession)))
      (h₄ : Run (runDeviceInfoAndStream jsonLoads session cmdSession) t₄ r)
  | ended {x : Except PyErr (Option ℕ)} (h₃ : Run (runServiceConnection session) t₃ x)
      (hx : ∀ cmdSession, x ≠ .ok (some cmdSession)) (h₄ : t₄ = [])

variable {jsonLoads session} {t : List SessionEvent} {r : Except PyErr Unit}

theorem runServices_phases (hrun : Run (runServices jsonLoads session) t r) :
    ∃ t₃ t₄, t = t₃ ++ t₄ ∧ ServicePhases jsonLoads session t₃ t₄ r := by
  -- an exception of phase 3 ends the run just as its failure does
  rcases run_bind_cases hrun with ⟨e, he, -⟩ | ⟨t₃, cmdSession, t₄, h₃, h₄, ht⟩
  · exact ⟨t, [], (List.append_nil t).symm, .ended he (fun _ h => nomatch h) rfl⟩
  · cases cmdSession with
    | none =>
      obtain ⟨rfl, -⟩ := run_ret_iff.mp h₄
      exact ⟨t₃, [], ht, .ended h₃ (fun _ h => nomatch h) rfl⟩
    | some cmdSession => exact ⟨t₃, t₄, ht, .connected h₃ h₄⟩

/-- After phase 3 nothing is owed and nothing went wrong. -/
theorem runServiceConnection_lawful {t₃ : List SessionEvent} {x : Except PyErr (Option ℕ)}
    (h₃ : Run (runServiceConnection session) t₃ x) : t₃.foldl CapexNotes.note {} = {} := by
  have h : Clean (t₃.foldl (noteMeeting anyQuery) ({}, true)) :=
    runServiceConnection_keeps.run ⟨rfl, rfl⟩ h₃
  rw [foldl_noteMeeting] at h
  obtain ⟨howed, hlawful⟩ := h
  have hall : ((capexQueries t₃).all anyQuery) = true := List.all_eq_true.mpr fun _ _ => rfl
  rw [hall] at hlawful
  exact CapexNotes.ext howed hlawful

/-- The law holds of a run exactly if the camera asks on session 0 whenever it asks after
phase 3. -/
theorem capex_law_iff (hloads : RejectsQueries jsonLoads)
    (hrun : Run (runServices jsonLoads session) t r) :
    ∃ t₃ t₄, t = t₃ ++ t₄ ∧ ServicePhases jsonLoads session t₃ t₄ r ∧
      (CapexLaw t ↔ ∀ query ∈ capexQueries t₄, query.sessionId = 0) := by
  obtain ⟨t₃, t₄, ht, hphases⟩ := runServices_phases hrun
  refine ⟨t₃, t₄, ht, hphases, ?_⟩
  -- phase 3 leaves the notes as they were at the start, so phase 4 decides
  rw [CapexLaw, ht, List.foldl_append]
  cases hphases with
  | connected h₃ h₄ =>
    have h : Clean (t₄.foldl (noteMeeting onSessionZero) ({}, true)) :=
      (runDeviceInfoAndStream_keeps hloads _).run ⟨rfl, rfl⟩ h₄
    rw [foldl_noteMeeting] at h
    obtain ⟨howed, hlawful⟩ := h
    rw [runServiceConnection_lawful h₃, and_iff_left howed, hlawful, Bool.true_and,
      List.all_eq_true]
    simp only [decide_eq_true_eq]
  | ended h₃ hx h₄ =>
    rw [runServiceConnection_lawful h₃, h₄]
    exact iff_of_true ⟨rfl, rfl⟩ (fun _ h => nomatch h)

end

/-- A camera that asks in phase 3 on session 10, and in phase 4 on the given session. -/
def capexSampleScript (sessionId : ℕ) : Script :=
  ⟨[], [some ⟨1023, 0, [2, 0, 0, 0, 0, 0x3B, 0, 0, 1, 0, 10]⟩, some ⟨10, 0, [5, 0]⟩, none,
    some ⟨10, 0, [6, 0]⟩, some ⟨1023, 0, [2, 0, 0, 0, 0, 0x3B, 0, 0, 1, 0, 11]⟩,
    some ⟨sessionId, 0, [1, 2, 0, 0, 0, 0, 0]⟩]⟩

def capexSampleTrace (sessionId : ℕ) : List SessionEvent :=
  (exec playback (runServices (fun _ => none) ⟨3, false⟩) (capexSampleScript sessionId)).trace

theorem capex_law_sample : capexQueries (capexSampleTrace 0) =
      [⟨10, 0, [5, 0]⟩, ⟨0, 0, [1, 2, 0, 0, 0, 0, 0]⟩] ∧ CapexLaw (capexSampleTrace 0) ∧
    ∃ t₃ t₄, capexSampleTrace 0 = t₃ ++ t₄ ∧
      ServicePhases (fun _ => none) ⟨3, false⟩ t₃ t₄ (.ok ()) ∧
      (CapexLaw (capexSampleTrace 0) ↔ ∀ query ∈ capexQueries t₄, query.sessionId = 0) := by
  have hloads : RejectsQueries (fun _ => none) := fun _ _ => rfl
  have hsample : (exec playback (runServices (fun _ => none) ⟨3, false⟩)
        (capexSampleScript 0)).result = .ok () ∧
      capexQueries (capexSampleTrace 0) = [⟨10, 0, [5, 0]⟩, ⟨0, 0, [1, 2, 0, 0, 0, 0, 0]⟩] ∧
      CapexLaw (capexSampleTrace 0) := by decide +kernel
  obtain ⟨hresult, hqueries, hlaw⟩ := hsample
  have hrun : Run (runServices (fun _ => none) ⟨3, false⟩) (capexSampleTrace 0) (.ok ()) := by
    rw [← hresult]
    exact exec_run playback _ _
  exact ⟨hqueries, hlaw, capex_law_iff hloads hrun⟩

/-- A query on session 7 is answered on session 0. -/
theorem capex_law_fails : (∃ r, Run (runServices (fun _ => none) ⟨3, false⟩)
      (capexSampleTrace 7) r) ∧
    capexQueries (capexSampleTrace 7) =
      [⟨10, 0, [5, 0]⟩, ⟨7, 0, [1, 2, 0, 0, 0, 0, 0]⟩] ∧ ¬CapexLaw (capexSampleTrace 7) := by
  have hsample : capexQueries (capexSampleTrace 7) =
      [⟨10, 0, [5, 0]⟩, ⟨7, 0, [1, 2, 0, 0, 0, 0, 0]⟩] ∧ ¬CapexLaw (capexSampleTrace 7) := by
    decide +kernel
  exact ⟨⟨_, exec_run playback _ _⟩, hsample⟩

end Gear360
