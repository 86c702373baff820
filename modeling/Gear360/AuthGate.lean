import Gear360.PeerDescription
import Gear360.ServiceOps

namespace Gear360

open Interaction
open Interaction.Prog (perform fromResult tryFinally)

inductive Sent where
  | plain (payload : Bytes)
  | slp (payload : Bytes) (sessionId : ℕ)
deriving DecidableEq

/-- A call of the authenticator, with the frames that were read before it. -/
inductive AuthCall where
  | processChallenge (challenge : Bytes) (reads : List Bytes)
  | verifyConfirm (confirm : Bytes) (reads : List Bytes)
deriving DecidableEq

/-- What an onlooker notes of a run of `run_wifi_session`. -/
structure Ledger where
  /-- the payloads that `read_frame` returned -/
  reads : List Bytes := []
  /-- the frames written before `verify_confirm` returned True -/
  written : List Sent := []
  calls : List AuthCall := []
  /-- what `process_challenge` returned -/
  response : Option Bytes := none
  /-- `verify_confirm` returned True -/
  authenticated : Bool := false
  /-- an SLP frame was written -/
  served : Bool := false
  authenticators : ℕ := 0
  authenticatorsClosed : ℕ := 0
  connectionsClosed : ℕ := 0
  closeRaised : Bool := false

namespace Ledger

def write (seen : Ledger) (frame : Sent) : Ledger :=
  if seen.authenticated then seen else { seen with written := seen.written ++ [frame] }

/-- A frame counts as written whether or not the write raised. -/
def note (seen : Ledger) : SessionEvent → Ledger
  | ⟨.readFrame _ _, .ok (some payload)⟩ => { seen with reads := seen.reads ++ [payload] }
  | ⟨.sendFrame _ payload, _⟩ => seen.write (.plain payload)
  | ⟨.sendSlpFrame _ payload sessionId, _⟩ =>
    { seen.write (.slp payload sessionId) with served := true }
  | ⟨.processChallenge challenge, x⟩ =>
    { seen with
      calls := seen.calls ++ [.processChallenge challenge seen.reads]
      response := x.toOption.join }
  | ⟨.verifyConfirm confirm, x⟩ =>
    { seen with
      calls := seen.calls ++ [.verifyConfirm confirm seen.reads]
      authenticated := seen.authenticated || x.toOption = some true }
  | ⟨.makeAuthenticator _ _, .ok ()⟩ => { seen with authenticators := seen.authenticators+1 }
  | ⟨.closeAuthenticator, x⟩ =>
    { seen with
      authenticatorsClosed := seen.authenticatorsClosed+1
      closeRaised := seen.closeRaised || x.toOption.isNone }
  | ⟨.closeConnection, x⟩ =>
    { seen with
      connectionsClosed := seen.connectionsClosed+1
      closeRaised := seen.closeRaised || x.toOption.isNone }
  | _ => seen

end Ledger

/-- The notes after a run. -/
def ledger (t : List SessionEvent) : Ledger := t.foldl Ledger.note {}

/-- `pd` is the PD_RESPONSE to the first frame read. -/
def AnswersRequest (reads : List Bytes) (pd : Bytes) : Prop :=
  ∃ request protoVersion swVersion, reads.head? = some request ∧
    unpackH (slice request 1 3) = .ok protoVersion ∧
    unpackH (slice request 3 5) = .ok swVersion ∧
    makePeerDescriptionResponse protoVersion swVersion = .ok pd

/-- The challenge is the body of a type-16 frame, read after a type-5 frame with at most one
type-9 frame between them. -/
def ChallengeRead (challenge : Bytes) (reads : List Bytes) : Prop :=
  ∃ request skipped auth, reads = request :: skipped ++ [auth] ∧ request.head? = some 5 ∧
    (skipped = [] ∨ ∃ success : Bytes, skipped = [success] ∧ success.head? = some 9) ∧
    auth.head? = some 16 ∧ challenge = auth.drop 2

/-- Only the PD_RESPONSE and the AUTH_RESPONSE, in this order, are written unauthenticated. -/
def WritesInOrder (seen : Ledger) : Prop :=
  seen.written = [] ∨ ∃ pd, AnswersRequest seen.reads pd ∧
    (seen.written = [.plain pd] ∨ ∃ response, seen.response = some response ∧
      seen.written = [.plain pd, .plain ([17, 0] ++ response)])

/-- Each call is made at most once, on the frame it is for. -/
def CallsInOrder (seen : Ledger) : Prop :=
  seen.calls = [] ∨ ∃ challenge reads, ChallengeRead challenge reads ∧
    (seen.calls = [.processChallenge challenge reads] ∨ ∃ frame : Bytes, frame.head? = some 18 ∧
      seen.calls =
        [.processChallenge challenge reads, .verifyConfirm (frame.drop 2) (reads ++ [frame])])

/-- Both resources are released once, unless a release itself raised. -/
def ClosesAll (seen : Ledger) : Prop :=
  seen.closeRaised = false → seen.connectionsClosed = 1 ∧ seen.authenticators ≤ 1 ∧
    seen.authenticatorsClosed = seen.authenticators

section
variable {Q : Ledger → Except PyErr Unit → Prop} {seen : Ledger}

/-- An error line, then `return`. -/
theorem wp_logError_return {α : Type} {text : String} {a : α}
    {R : Ledger → Except PyErr α → Prop} (hraise : ∀ e, R seen (.error e)) (hret : R seen (.ok a)) :
    wp Ledger.note (Session.logError text >>= fun _ => pure a) R seen := by
  apply wp_bind.mpr
  apply wp_perform.mpr
  intro x
  match x with
  | .ok () => exact hret
  | .error e => exact hraise e

theorem wp_sendFrame {session : SapSession} {payload : Bytes} (hraise : ∀ e, Q seen (.error e))
    (hwrite : ∀ x, Q (seen.write (.plain payload)) x) :
    wp Ledger.note (Session.sendFrame session payload) Q seen := by
  apply wp_bind.mpr
  apply wp_fromResult.mpr
  cases be16 payload.length with
  | ok length => exact wp_perform.mpr hwrite
  | error e => exact hraise e

theorem wp_readFrame {session : SapSession} {timeout : ℕ}
    {R : Ledger → Except PyErr (Option Bytes) → Prop} (hraise : ∀ e, R seen (.error e))
    (hnone : R seen (.ok none))
    (hread : ∀ payload, R { seen with reads := seen.reads ++ [payload] } (.ok (some payload))) :
    wp Ledger.note (Session.readFrame session timeout) R seen := by
  apply wp_perform.mpr
  intro x
  match x with
  | .error e => exact hraise e
  | .ok none => exact hnone
  | .ok (some payload) => exact hread payload

end

/-- Nothing but the PD exchange has happened. -/
structure Waiting (seen : Ledger) : Prop where
  written : seen.written = [] ∨ ∃ pd, AnswersRequest seen.reads pd ∧ seen.written = [.plain pd]
  rest : seen = { reads := seen.reads, written := seen.written }

theorem Waiting.quiet (reads : List Bytes) : Waiting { reads := reads } := ⟨.inl rfl, rfl⟩

/-- The PD exchange: with a session it has answered a type-5 frame. -/
theorem exchangePeerDescription_gate (session : SapSession) :
    wp Ledger.note (exchangePeerDescription session) (fun seen r => Waiting seen ∧
      ∀ session', r = .ok (some session') → ∃ request pd, seen.reads = [request] ∧
        request.head? = some 5 ∧ AnswersRequest seen.reads pd ∧ seen.written = [.plain pd]) {} := by
  apply wp_iff_run.mpr
  intro t r hrun
  cases run_exchangePeerDescription hrun with
  | @ended x lines _ hlines hr =>
    -- error lines are not noted, so only what was read is
    have hnotes : ∃ reads, (⟨.readFrame session 15000, x⟩ :: lines).foldl Ledger.note {} =
        { reads := reads } := by
      rcases hlines with rfl | ⟨text, y, rfl⟩ <;>
        match x with
        | .error e | .ok none => exact ⟨[], rfl⟩
        | .ok (some payload) => exact ⟨[payload], rfl⟩
    obtain ⟨reads, hreads⟩ := hnotes
    rw [hreads]
    exact ⟨.quiet reads, fun session' h => absurd h (hr session')⟩
  | @answered request pd protoVersion swVersion y hkind hproto hsw hresponse =>
    have hanswers : AnswersRequest [request] pd :=
      ⟨request, protoVersion, swVersion, rfl, hproto, hsw, hresponse⟩
    exact ⟨⟨.inr ⟨pd, hanswers, rfl⟩, rfl⟩, fun _ _ => ⟨request, pd, rfl, hkind, hanswers, rfl⟩⟩

theorem AnswersRequest.append {request : Bytes} {pd : Bytes} (h : AnswersRequest [request] pd)
    (reads : List Bytes) : AnswersRequest (request :: reads) pd := h

theorem waiting_report {α : Type} {text : String} {seen : Ledger} {C : Ledger → α → Prop}
    (h : Waiting seen) :
    wp Ledger.note (Session.logError text >>= fun _ => pure none) (fun seen r => Waiting seen ∧
      ∀ a, r = .ok (some a) → C seen a) seen := by
  apply wp_logError_return
  · exact fun e => ⟨h, fun _ h => nomatch h⟩
  · exact ⟨h, fun _ h => nomatch h⟩

/-- The frame that must be the AUTH_REQUEST: from here on only its body matters. -/
theorem challengeOf_gate {request pd : Bytes} {skipped : List Bytes}
    (hrequest : request.head? = some 5) (hanswers : AnswersRequest [request] pd)
    (hskipped : skipped = [] ∨ ∃ success : Bytes, skipped = [success] ∧ success.head? = some 9)
    (kind : UInt8) (rest : Bytes) :
    wp Ledger.note (if kind ≠ 16 then
        (do Session.logError s!"Expected AUTH_REQUEST (16), got {kind}"; return none)
      else (do let _ ← fromResult (byteAt (kind :: rest) 1); return some (rest.drop 1)))
      (fun seen r => Waiting seen ∧ ∀ challenge, r = .ok (some challenge) →
        ChallengeRead challenge seen.reads ∧ AnswersRequest seen.reads pd ∧
          seen.written = [.plain pd])
      { reads := request :: skipped ++ [kind :: rest], written := [.plain pd] } := by
  have hwaiting : Waiting
      { reads := request :: skipped ++ [kind :: rest], written := [.plain pd] } :=
    ⟨.inr ⟨pd, hanswers.append _, rfl⟩, rfl⟩
  by_cases hkind : kind ≠ 16
  · rw [if_pos hkind]
    exact waiting_report hwaiting
  rw [if_neg hkind]
  apply wp_bind.mpr
  apply wp_fromResult.mpr
  -- the authentication type must be there, its value is not looked at
  cases byteAt (kind :: rest) 1 with
  | error e => exact ⟨hwaiting, fun _ h => nomatch h⟩
  | ok authType =>
    refine ⟨hwaiting, fun challenge h => ?_⟩
    have hchallenge : rest.drop 1 = challenge := Option.some.inj (Except.ok.inj h)
    refine ⟨⟨request, skipped, kind :: rest, rfl, hrequest, hskipped, ?_, hchallenge.symm⟩,
      hanswers.append _, rfl⟩
    rw [not_not.mp hkind]
    rfl

theorem awaitChallenge_gate {request pd : Bytes} (hrequest : request.head? = some 5)
    (hanswers : AnswersRequest [request] pd) (session : SapSession) :
    wp Ledger.note (awaitChallenge session) (fun seen r => Waiting seen ∧
      ∀ challenge, r = .ok (some challenge) → ChallengeRead challenge seen.reads ∧
        AnswersRequest seen.reads pd ∧ seen.written = [.plain pd])
      { reads := [request], written := [.plain pd] } := by
  -- until the challenge is there nothing but the response was written
  have hwaiting (reads : List Bytes) :
      Waiting { reads := request :: reads, written := [.plain pd] } :=
    ⟨.inr ⟨pd, hanswers.append reads, rfl⟩, rfl⟩
  apply wp_bind.mpr
  apply wp_readFrame
  · exact fun e => ⟨hwaiting [], fun _ h => nomatch h⟩
  · exact waiting_report (hwaiting [])
  intro payload
  match payload with
  | [] => exact waiting_report (hwaiting [[]])
  | kind :: rest =>
    -- a PD_SUCCESS may come before the request
    by_cases hkind : kind = 9
    · simp only [if_pos hkind]
      apply wp_bind.mpr
      apply wp_readFrame
      · exact fun e => ⟨hwaiting [kind :: rest], fun _ h => nomatch h⟩
      · exact waiting_report (hwaiting [kind :: rest])
      intro payload
      match payload with
      | [] => exact waiting_report (hwaiting [kind :: rest, []])
      | kind' :: rest' =>
        have hsuccess : (kind :: rest : Bytes).head? = some 9 := by rw [hkind]; rfl
        exact challengeOf_gate hrequest hanswers (.inr ⟨kind :: rest, rfl, hsuccess⟩) kind' rest'
    · simp only [if_neg hkind]
      exact challengeOf_gate hrequest hanswers (.inl rfl) kind rest

theorem awaitAuthRequest_gate :
    wp Ledger.note awaitAuthRequest (fun seen r => Waiting seen ∧
      ∀ session challenge, r = .ok (some (session, challenge)) →
        ChallengeRead challenge seen.reads ∧
          ∃ pd, AnswersRequest seen.reads pd ∧ seen.written = [.plain pd]) {} := by
  apply wp_bind.mpr
  apply wp_perform.mpr
  intro opened
  match opened with
  | .error e => exact ⟨.quiet _, fun _ _ h => nomatch h⟩
  | .ok none => exact ⟨.quiet _, fun _ _ h => nomatch h⟩
  | .ok (some fd) =>
    apply wp_seq (exchangePeerDescription_gate _)
    · rintro seen session ⟨hwaiting, hsession⟩
      match session with
      | none => exact ⟨hwaiting, fun _ _ h => nomatch h⟩
      | some session =>
        obtain ⟨request, pd, hreads, hrequest, hanswers, hwritten⟩ := hsession session rfl
        rw [hreads] at hanswers
        -- the notes are known exactly here: one frame read, one written
        rw [hwaiting.rest, hreads, hwritten]
        apply wp_seq (awaitChallenge_gate hrequest hanswers session)
        · rintro seen challenge ⟨hwaiting, hchallenge⟩
          match challenge with
          | none => exact ⟨hwaiting, fun _ _ h => nomatch h⟩
          | some challenge =>
            obtain ⟨hread, hanswers, hwritten⟩ := hchallenge challenge rfl
            refine ⟨hwaiting, fun _ _ h => ?_⟩
            cases h
            exact ⟨hread, pd, hanswers, hwritten⟩
        · rintro seen e ⟨hwaiting, -⟩
          exact ⟨hwaiting, fun _ _ h => nomatch h⟩
    · rintro seen e ⟨hwaiting, -⟩
      exact ⟨hwaiting, fun _ _ h => nomatch h⟩

/-- What holds from the first call of the authenticator on, until the clean-up. -/
structure Kept (seen : Ledger) : Prop where
  writes : WritesInOrder seen
  calls : CallsInOrder seen
  gate : seen.authenticated = false → seen.served = false
  connectionsClosed : seen.connectionsClosed = 0
  authenticatorsClosed : seen.authenticatorsClosed = 0
  closeRaised : seen.closeRaised = false

theorem Waiting.kept {seen : Ledger} (h : Waiting seen) : Kept seen where
  writes := by
    rcases h.written with hnone | ⟨pd, hanswers, hpd⟩
    · exact .inl hnone
    · exact .inr ⟨pd, hanswers, .inl hpd⟩
  calls := .inl (congrArg Ledger.calls h.rest)
  gate _ := congrArg Ledger.served h.rest
  connectionsClosed := congrArg Ledger.connectionsClosed h.rest
  authenticatorsClosed := congrArg Ledger.authenticatorsClosed h.rest
  closeRaised := congrArg Ledger.closeRaised h.rest

theorem kept_report {text : String} {seen : Ledger} (h : Kept seen)
    (hcount : seen.authenticators = 1) :
    wp Ledger.note (Session.logError text >>= fun _ => pure false) (fun seen r => Kept seen ∧
      seen.authenticators = 1 ∧ (r = .ok true → seen.authenticated = true)) seen := by
  apply wp_logError_return
  · exact fun e => ⟨h, hcount, fun h => nomatch h⟩
  · exact ⟨h, hcount, fun h => nomatch h⟩

/-- The two calls: `verify_confirm` returned True, or the gate is still shut. -/
theorem authenticate_gate {reads : List Bytes} {pd challenge : Bytes}
    (hread : ChallengeRead challenge reads) (hanswers : AnswersRequest reads pd)
    (session : SapSession) :
    wp Ledger.note (authenticate session challenge) (fun seen r => Kept seen ∧
      seen.authenticators = 1 ∧ (r = .ok true → seen.authenticated = true))
      { reads := reads, written := [.plain pd], authenticators := 1 } := by
  have hfirst : CallsInOrder { calls := [.processChallenge challenge reads] } :=
    .inr ⟨challenge, reads, hread, .inl rfl⟩
  -- after `process_challenge`, whatever it returned
  have hcalled (response : Option Bytes) : Kept
      { reads := reads, written := [.plain pd], calls := [.processChallenge challenge reads],
        response := response, authenticators := 1 } :=
    ⟨.inr ⟨pd, hanswers, .inl rfl⟩, hfirst, fun _ => rfl, rfl, rfl, rfl⟩
  apply wp_bind.mpr
  apply wp_perform.mpr
  intro answer
  match answer with
  | .error e => exact ⟨hcalled none, rfl, fun h => nomatch h⟩
  | .ok none => exact ⟨hcalled none, rfl, fun h => nomatch h⟩
  | .ok (some response) =>
    -- from here on both frames are out
    have hanswered (more : List Bytes) (hmore : AnswersRequest (reads ++ more) pd) : Kept
        { reads := reads ++ more, written := [.plain pd, .plain ([17, 0] ++ response)],
          calls := [.processChallenge challenge reads], response := some response,
          authenticators := 1 } :=
      ⟨.inr ⟨pd, hmore, .inr ⟨response, rfl, rfl⟩⟩, hfirst, fun _ => rfl, rfl, rfl, rfl⟩
    have hmore (more : List Bytes) : AnswersRequest (reads ++ more) pd := by
      obtain ⟨request, protoVersion, swVersion, hhead, hrest⟩ := hanswers
      refine ⟨request, protoVersion, swVersion, ?_, hrest⟩
      rw [List.head?_append, hhead]
      rfl
    have hsent := hanswered [] (hmore [])
    rw [List.append_nil] at hsent
    apply wp_bind.mpr
    apply wp_sendFrame
    · exact fun e => ⟨hcalled (some response), rfl, fun h => nomatch h⟩
    intro x
    match x with
    | .error e => exact ⟨hsent, rfl, fun h => nomatch h⟩
    | .ok () =>
      apply wp_bind.mpr
      apply wp_readFrame
      · exact fun e => ⟨hsent, rfl, fun h => nomatch h⟩
      · exact kept_report hsent rfl
      intro payload
      match payload with
      | [] => exact kept_report (hanswered [[]] (hmore _)) rfl
      | kind :: rest =>
        by_cases hkind : kind ≠ 18
        · simp only [if_pos hkind]
          exact kept_report (hanswered [kind :: rest] (hmore _)) rfl
        simp only [if_neg hkind]
        apply wp_perform.mpr
        intro verified
        have hboth : CallsInOrder { calls := [.processChallenge challenge reads,
            .verifyConfirm (rest.drop 1) (reads ++ [kind :: rest])] } := by
          refine .inr ⟨challenge, reads, hread, .inr ⟨kind :: rest, ?_, rfl⟩⟩
          rw [not_not.mp hkind]
          rfl
        refine ⟨⟨.inr ⟨pd, hmore [kind :: rest], .inr ⟨response, rfl, rfl⟩⟩, hboth, fun _ => rfl,
          rfl, rfl, rfl⟩, rfl, ?_⟩
        rintro rfl
        rfl

/-- Once the gate is open the services change nothing that the gate is about. -/
theorem runServices_gate (jsonLoads : Bytes → Option Json) (session : SapSession) {seen : Ledger}
    (h : Kept seen) (hopen : seen.authenticated = true) :
    wp Ledger.note (runServices jsonLoads session) (fun after _ => Kept after ∧
      after.authenticators = seen.authenticators) seen := by
  -- an SLP write marks the ledger as served, and nothing else changes it
  have hsame : wp Ledger.note (runServices jsonLoads session)
      (fun after _ => ∃ served, after = { seen with served := served }) seen := by
    apply wp_invariant (runServices_serves jsonLoads)
    · exact ⟨seen.served, rfl⟩
    · rintro _ o x ho ⟨served, rfl⟩
      cases o with
      | sendSlpFrame s payload sessionId =>
        refine ⟨true, ?_⟩
        simp only [Ledger.note, Ledger.write, hopen, if_true]
      | readSlpFrame _ _ | now | sleep _ | logError _ | connectToWifi _ _ | resolveCameraIp
      | ssdpProbe _ | fetchUpnpServices _ | startLiveStream _ _ => exact ⟨served, rfl⟩
      | openConnection | closeConnection | readFrame _ _ | sendFrame _ _ | makeAuthenticator _ _
      | processChallenge _ | verifyConfirm _ | closeAuthenticator => exact ho.elim
  apply wp_mono hsame
  rintro _ r ⟨served, rfl⟩
  refine ⟨⟨h.writes, h.calls, fun hshut => ?_, h.connectionsClosed, h.authenticatorsClosed,
    h.closeRaised⟩, rfl⟩
  exact absurd (hopen.symm.trans hshut) (by decide)

/-- What holds of every run. -/
structure Gated (seen : Ledger) : Prop where
  writes : WritesInOrder seen
  calls : CallsInOrder seen
  gate : seen.authenticated = false → seen.served = false
  closes : ClosesAll seen

/-- The clean-up releases exactly what there is. -/
theorem cleanup_gate {seen : Ledger} (h : Kept seen) (authenticator : Bool)
    (hcount : seen.authenticators = if authenticator then 1 else 0) :
    wp Ledger.note (cleanup authenticator) (fun seen _ => Gated seen) seen := by
  cases authenticator with
  | false =>
    apply wp_perform.mpr
    intro x
    refine ⟨h.writes, h.calls, h.gate, fun _ => ?_⟩
    change seen.connectionsClosed+1 = 1 ∧ seen.authenticators ≤ 1 ∧
      seen.authenticatorsClosed = seen.authenticators
    rw [h.connectionsClosed, h.authenticatorsClosed, hcount]
    exact ⟨rfl, Nat.zero_le 1, rfl⟩
  | true =>
    apply wp_bind.mpr
    apply wp_perform.mpr
    intro x
    match x with
    | .error e =>
      -- the connection stays open, but only because a close raised
      refine ⟨h.writes, h.calls, h.gate, fun hclose => ?_⟩
      change (seen.closeRaised || true) = false at hclose
      rw [Bool.or_true] at hclose
      cases hclose
    | .ok () =>
      apply wp_perform.mpr
      intro y
      refine ⟨h.writes, h.calls, h.gate, fun _ => ?_⟩
      change seen.connectionsClosed+1 = 1 ∧ seen.authenticators ≤ 1 ∧
        seen.authenticatorsClosed+1 = seen.authenticators
      rw [h.connectionsClosed, h.authenticatorsClosed, hcount]
      exact ⟨rfl, Nat.le_refl 1, rfl⟩

/-- Authentication gate: over every run, whatever the camera sends and the authenticator does,
only the PD_RESPONSE and the AUTH_RESPONSE are written before `verify_confirm` returns True, no
SLP frame is written without it, the authenticator is called at most once for each of the two
frames, and connection and authenticator are closed exactly once. -/
theorem run_wifi_session_gated (jsonLoads : Bytes → Option Json) {t : List SessionEvent}
    {r : Except PyErr Unit} (hrun : Run (runWifiSession jsonLoads) t r) : Gated (ledger t) := by
  have hwp : wp Ledger.note (runWifiSession jsonLoads) (fun seen _ => Gated seen) {} := by
    apply wp_bind.mpr
    apply wp_attempt.mpr
    apply wp_mono awaitAuthRequest_gate
    rintro seen found ⟨hwaiting, hfound⟩
    have hnone : seen.authenticators = 0 := congrArg Ledger.authenticators hwaiting.rest
    match found with
    | .error e =>
      apply wp_tryFinally.mpr
      apply wp_mono (cleanup_gate hwaiting.kept false hnone)
      rintro seen (e | _) h <;> exact h
    | .ok none => exact cleanup_gate hwaiting.kept false hnone
    | .ok (some (session, challenge)) =>
      obtain ⟨hread, pd, hanswers, hwritten⟩ := hfound session challenge rfl
      apply wp_bind.mpr
      apply wp_attempt.mpr
      apply wp_perform.mpr
      intro made
      match made with
      | .error e =>
        apply wp_tryFinally.mpr
        apply wp_mono (cleanup_gate hwaiting.kept false hnone)
        rintro seen (e | _) h <;> exact h
      | .ok () =>
        apply wp_tryFinally.mpr
        -- only from here on is there an authenticator to close
        have hstart : seen.note ⟨.makeAuthenticator CAMERA_MAC PHONE_MAC, .ok ()⟩ =
            { reads := seen.reads, written := [.plain pd], authenticators := 1 } := by
          rw [hwaiting.rest, hwritten]
          rfl
        have hserved : wp Ledger.note (authenticateAndServe jsonLoads session challenge)
            (fun seen _ => Kept seen ∧ seen.authenticators = 1)
            (seen.note ⟨.makeAuthenticator CAMERA_MAC PHONE_MAC, .ok ()⟩) := by
          rw [hstart]
          apply wp_seq (authenticate_gate hread hanswers session)
          · rintro after verified ⟨hkept, hcount, hopen⟩
            cases verified with
            | false => exact ⟨hkept, hcount⟩
            | true =>
              apply wp_mono (runServices_gate jsonLoads session hkept (hopen rfl))
              rintro last x ⟨hkept, hsame⟩
              exact ⟨hkept, hsame.trans hcount⟩
          · rintro after e ⟨hkept, hcount, -⟩
            exact ⟨hkept, hcount⟩
        apply wp_mono hserved
        rintro seen x ⟨hkept, hcount⟩
        apply wp_mono (cleanup_gate hkept true hcount)
        rintro seen (e | _) h <;> exact h
  exact wp_run hwp hrun

/-- A camera that gets as far as the service connection. -/
theorem run_wifi_session_gated_playback :
    let t := (exec playback (runWifiSession fun _ => none)
      ⟨[[5, 2, 1, 2, 1], [9], 16 :: 0 :: List.replicate 70 1, 18 :: 0 :: List.replicate 35 2],
        []⟩).trace
    (ledger t).authenticated = true ∧ (ledger t).written.length = 2 ∧
      (ledger t).connectionsClosed = 1 := by
  intro t
  have hgated := run_wifi_session_gated _ (exec_run playback (runWifiSession fun _ => none)
    ⟨[[5, 2, 1, 2, 1], [9], 16 :: 0 :: List.replicate 70 1, 18 :: 0 :: List.replicate 35 2], []⟩)
  exact ⟨by decide +kernel, by decide +kernel, (hgated.closes (by decide +kernel)).1⟩

end Gear360
