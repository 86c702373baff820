import Gear360.ServiceOps

namespace Gear360

open Interaction
open Interaction.Prog (perform fromResult tryFinally)

/-- What is noted of a run of `run_wifi_session`. -/
structure Survey where
  opened : Bool := false
  /-- the payloads that `read_frame` returned -/
  reads : List Bytes := []
  /-- what `process_challenge` returned -/
  response : Option Bytes := none
  /-- the authenticator returned None or False -/
  refused : Bool := false
  /-- an error line was written -/
  logged : Bool := false
  /-- an SLP frame was written: the service connection has begun -/
  served : Bool := false
  /-- an operation raised, a close apart -/
  raised : Bool := false
  closeRaised : Bool := false

namespace Survey

def note (seen : Survey) : SessionEvent → Survey
  | ⟨.openConnection, .ok (some _)⟩ => { seen with opened := true }
  | ⟨.readFrame _ _, .ok (some payload)⟩ => { seen with reads := seen.reads ++ [payload] }
  | ⟨.processChallenge _, .ok answer⟩ =>
    { seen with response := answer, refused := seen.refused || answer.isNone }
  | ⟨.verifyConfirm _, .ok verified⟩ => { seen with refused := seen.refused || !verified }
  | ⟨.logError _, .ok ()⟩ => { seen with logged := true }
  | ⟨.sendSlpFrame _ _ _, x⟩ =>
    { seen with served := true, raised := seen.raised || x.toOption.isNone }
  | ⟨.closeAuthenticator, x⟩ | ⟨.closeConnection, x⟩ =>
    { seen with closeRaised := seen.closeRaised || x.toOption.isNone }
  | ⟨_, .ok _⟩ => seen
  | ⟨_, .error _⟩ => { seen with raised := true }

/-- A connection that is open, and nothing but frames and a response. -/
def quiet (reads : List Bytes) (response : Option Bytes) : Survey :=
  { opened := true, reads := reads, response := response }

end Survey

/-- The notes after a run. -/
def survey (t : List SessionEvent) : Survey := t.foldl Survey.note {}

/-- The frame that is taken for the AUTH_REQUEST: the second, or the third after a PD_SUCCESS. -/
def authFrame : List Bytes → Option Bytes
  | _ :: success :: rest => if success.head? = some 9 then rest.head? else some success
  | _ => none

/-- The requests have the bytes that are read of them, and the response fits its length field. -/
@[mk_iff]
structure Sound (reads : List Bytes) (response : Option Bytes) : Prop where
  request : ∀ request ∈ reads.head?, request.head? = some 5 → 5 ≤ request.length
  auth : ∀ auth ∈ authFrame reads, auth.head? = some 16 → 2 ≤ auth.length
  response : ∀ answer ∈ response, answer.length ≤ 65533

instance (reads : List Bytes) (response : Option Bytes) : Decidable (Sound reads response) :=
  decidable_of_iff _ (sound_iff reads response).symm

/-- Phases 1 and 2 survive what they read: unless an operation raises, a run with an open connection
goes on to the service connection, or returns after an error line. After a refusal the line is the
authenticator's, if it writes one. -/
def Survives (logsRefusal : Bool) (seen : Survey) (r : Except PyErr Unit) : Prop :=
  seen.opened = true → seen.raised = false → seen.served = true ∨
    (seen.logged = true ∨ seen.refused = true ∧ logsRefusal = true) ∧
      (seen.closeRaised = false → r = .ok ())

theorem sound_nil : Sound [] none := ⟨nofun, nofun, nofun⟩

theorem sound_first {request : Bytes} (h : request.head? = some 5 → 5 ≤ request.length) :
    Sound [request] none where
  request _ hrequest := Option.some.inj hrequest ▸ h
  auth _ hauth := nomatch hauth
  response _ hresponse := nomatch hresponse

theorem Sound.more {request : Bytes} (h : Sound [request] none) {more : List Bytes}
    (hauth : ∀ auth, authFrame (request :: more) = some auth → auth.head? = some 16 →
      2 ≤ auth.length) : Sound (request :: more) none where
  request := h.request
  auth := hauth
  response _ hresponse := nomatch hresponse

theorem authFrame_append {reads : List Bytes} {auth : Bytes} (h : authFrame reads = some auth)
    (more : List Bytes) : authFrame (reads ++ more) = some auth := by
  match reads with
  | [] | [_] => cases h
  | request :: success :: rest =>
    -- what is appended comes behind the frame that is looked at
    change (if _ then (rest ++ more).head? else _) = _
    change (if _ then _ else _) = _ at h
    split_ifs at h ⊢ with hkind
    · rw [List.head?_append, h]
      rfl
    · exact h

/-- From the AUTH_REQUEST on, only the response matters. -/
theorem Sound.answer {reads : List Bytes} {auth : Bytes} (h : Sound reads none)
    (hauth : authFrame reads = some auth) {response : Option Bytes}
    (hresponse : ∀ answer, response = some answer → answer.length ≤ 65533) (more : List Bytes) :
    Sound (reads ++ more) response where
  request request hrequest := by
    apply h.request request
    match reads with
    | [] => cases hauth
    | _ :: _ => exact hrequest
  auth other hother := by
    rw [authFrame_append hauth more] at hother
    exact h.auth other (hauth.trans hother)
  response := hresponse

/-- How phases 1 and 2 end short of the service connection, and whether they return. -/
inductive Stops : Survey → Bool → Prop where
  | unopened : Stops {} true
  | raised {opened : Bool} {reads : List Bytes} {response : Option Bytes}
      (h : Sound reads response) (returned : Bool) :
      Stops { opened := opened, reads := reads, response := response, raised := true } returned
  | reported {reads : List Bytes} {response : Option Bytes} (h : Sound reads response) :
      Stops { Survey.quiet reads response with logged := true } true
  | refused {reads : List Bytes} {response : Option Bytes} (h : Sound reads response) :
      Stops { Survey.quiet reads response with refused := true } true
  | crashed {reads : List Bytes} {response : Option Bytes} (h : ¬Sound reads response) :
      Stops (Survey.quiet reads response) false

/-- A phase stops the run, or hands something on. -/
def Passes {α : Type} (I : α → Survey → Prop) (seen : Survey) : Except PyErr (Option α) → Prop
  | .ok (some a) => I a seen
  | .ok none => Stops seen true
  | .error _ => Stops seen false

section
variable {α : Type} {reads : List Bytes} {response : Option Bytes}
  {R : Survey → Except PyErr α → Prop}

/-- An error line, then `return`. -/
theorem survey_report {text : String} {a : α} (h : Sound reads response)
    (herror : ∀ seen e, Stops seen false → R seen (.error e))
    (hreturn : ∀ seen, Stops seen true → R seen (.ok a)) :
    wp Survey.note (Session.logError text >>= fun _ => pure a) R (.quiet reads response) := by
  apply wp_bind.mpr
  apply wp_perform.mpr
  intro x
  match x with
  | .ok () => exact hreturn _ (.reported h)
  | .error e => exact herror _ e (.raised h false)

/-- A read: only a payload that is returned is noted. -/
theorem survey_readFrame {session : SapSession} {timeout : ℕ} {f : Option Bytes → Session α}
    (h : Sound reads response) (herror : ∀ seen e, Stops seen false → R seen (.error e))
    (hnone : wp Survey.note (f none) R (.quiet reads response))
    (hread : ∀ payload,
      wp Survey.note (f (some payload)) R (.quiet (reads ++ [payload]) response)) :
    wp Survey.note (Session.readFrame session timeout >>= f) R (.quiet reads response) := by
  apply wp_bind.mpr
  apply wp_perform.mpr
  intro x
  match x with
  | .error e => exact herror _ e (.raised h false)
  | .ok none => exact hnone
  | .ok (some payload) => exact hread payload

theorem survey_sendFrame {session : SapSession} {payload : Bytes} {f : Unit → Session α}
    (h : Sound reads response) (hlen : payload.length < 2^16)
    (herror : ∀ seen e, Stops seen false → R seen (.error e))
    (hsent : wp Survey.note (f ()) R (.quiet reads response)) :
    wp Survey.note (Session.sendFrame session payload >>= f) R (.quiet reads response) := by
  apply wp_bind.mpr
  apply wp_bind.mpr
  apply wp_fromResult.mpr
  rw [be16_ok hlen]
  apply wp_perform.mpr
  intro x
  match x with
  | .error e => exact herror _ e (.raised h false)
  | .ok () => exact hsent

end

/-- The PD_RESPONSE to any two 16-bit versions can be sent. -/
theorem makePeerDescriptionResponse_ok {protoVersion swVersion : ℕ} (hproto : protoVersion < 2^16)
    (hsw : swVersion < 2^16) : ∃ response,
    makePeerDescriptionResponse protoVersion swVersion = .ok response ∧ response.length < 2^16 := by
  rw [makePeerDescriptionResponse, be16_ok hproto, be16_ok hsw]
  refine ⟨_, frameOfParts_ok [[MSG_PEER_DESCRIPTION_RESPONSE], BigEndian.encode 2 protoVersion,
    BigEndian.encode 2 swVersion, _, _, _, _, _, _, _, _, _, _, _, _, _, _, _], ?_⟩
  simp only [List.flatten_cons, List.length_append, BigEndian.encode_length]
  decide +kernel

theorem exchangePeerDescription_survey (session : SapSession) :
    wp Survey.note (exchangePeerDescription session) (fun seen r => Passes (fun _ seen =>
      ∃ request, Sound [request] none ∧ seen = .quiet [request] none) seen r) (.quiet [] none) := by
  apply survey_readFrame sound_nil (fun _ _ h => h)
  · exact survey_report sound_nil (fun _ _ h => h) (fun _ h => h)
  intro payload
  match payload with
  | [] =>
    apply survey_report (sound_first _) (fun _ _ h => h) (fun _ h => h)
    exact nofun
  | kind :: rest =>
    by_cases hkind : kind ≠ 5
    · simp only [if_pos hkind]
      apply survey_report (sound_first _) (fun _ _ h => h) (fun _ h => h)
      exact fun h => absurd (Option.some.inj h) hkind
    simp only [if_neg hkind]
    have hrequest : (kind :: rest : Bytes).head? = some 5 := congrArg some (not_not.mp hkind)
    apply wp_bind.mpr
    apply wp_fromResult.mpr
    by_cases hlen : 5 ≤ (kind :: rest).length
    · have hsound : Sound [kind :: rest] none := sound_first fun _ => hlen
      rw [unpackH_slice (i := 1) (by omega)]
      apply wp_bind.mpr
      apply wp_fromResult.mpr
      rw [unpackH_slice (i := 3) hlen]
      obtain ⟨response, hresponse, hfits⟩ := makePeerDescriptionResponse_ok
        (decode_slice_lt (show 1+2 ≤ (kind :: rest).length by omega))
        (decode_slice_lt (i := 3) hlen)
      apply wp_bind.mpr
      apply wp_fromResult.mpr
      rw [hresponse]
      apply survey_sendFrame hsound hfits (fun _ _ h => h)
      exact ⟨kind :: rest, hsound, rfl⟩
    -- one of the two version fields is cut
    · have hshort : ¬Sound [kind :: rest] none := fun h => hlen (h.request _ rfl hrequest)
      cases unpackH (slice (kind :: rest) 1 3) with
      | error e => exact .crashed hshort
      | ok protoVersion =>
        apply wp_bind.mpr
        apply wp_fromResult.mpr
        rw [unpackH_slice_error (i := 3) (not_le.mp hlen)]
        exact .crashed hshort

/-- The frame that must be the AUTH_REQUEST. -/
theorem challengeOf_survey {request : Bytes} (h : Sound [request] none) (skipped : List Bytes)
    {kind : UInt8} {rest : Bytes} (hauth : authFrame (request :: skipped ++ [kind :: rest]) =
      some (kind :: rest)) :
    wp Survey.note (if kind ≠ 16 then
        (do Session.logError s!"Expected AUTH_REQUEST (16), got {kind}"; return none)
      else (do let _ ← fromResult (byteAt (kind :: rest) 1); return some (rest.drop 1)))
      (fun seen r => Passes (fun _ seen => ∃ reads auth, Sound reads none ∧
        authFrame reads = some auth ∧ seen = .quiet reads none) seen r)
      (.quiet (request :: skipped ++ [kind :: rest]) none) := by
  have hsound (hlen : (kind :: rest).head? = some 16 → 2 ≤ (kind :: rest).length) :
      Sound (request :: skipped ++ [kind :: rest]) none := by
    apply h.more
    intro auth hframe
    rw [← Option.some.inj (hauth.symm.trans hframe)]
    exact hlen
  by_cases hkind : kind ≠ 16
  · rw [if_pos hkind]
    apply survey_report (hsound _) (fun _ _ h => h) (fun _ h => h)
    exact fun h => absurd (Option.some.inj h) hkind
  rw [if_neg hkind]
  apply wp_bind.mpr
  apply wp_fromResult.mpr
  -- the auth type is the second byte, and nothing says that there is one
  match rest with
  | [] =>
    have hshort : ¬Sound (request :: skipped ++ [[kind]]) none := by
      intro h
      have hlen := h.auth _ hauth (congrArg some (not_not.mp hkind))
      exact Nat.not_succ_le_self 1 hlen
    exact .crashed hshort
  | authType :: challenge =>
    refine ⟨_, _, hsound fun _ => ?_, hauth, rfl⟩
    exact Nat.le_add_left 2 challenge.length

theorem awaitChallenge_survey {request : Bytes} (h : Sound [request] none) (session : SapSession) :
    wp Survey.note (awaitChallenge session) (fun seen r => Passes (fun _ seen => ∃ reads auth,
      Sound reads none ∧ authFrame reads = some auth ∧ seen = .quiet reads none) seen r)
      (.quiet [request] none) := by
  apply survey_readFrame h (fun _ _ h => h)
  · exact survey_report h (fun _ _ h => h) (fun _ h => h)
  intro payload
  match payload with
  | [] =>
    apply survey_report (h.more _) (fun _ _ h => h) (fun _ h => h)
    rintro _ ⟨⟩
    exact nofun
  | kind :: rest =>
    -- with a PD_SUCCESS in between the request is in the frame after it
    by_cases hkind : kind = 9
    · have hsuccess : (kind :: rest : Bytes).head? = some 9 := congrArg some hkind
      -- and no frame so far is an authentication request
      have hskipped : Sound [request, kind :: rest] none := by
        apply h.more
        intro auth hauth
        rw [authFrame, if_pos hsuccess] at hauth
        cases hauth
      simp only [if_pos hkind]
      apply survey_readFrame hskipped (fun _ _ h => h)
      · exact survey_report hskipped (fun _ _ h => h) (fun _ h => h)
      intro payload
      match payload with
      | [] =>
        have hempty : Sound [request, kind :: rest, []] none := by
          apply h.more
          intro auth hauth
          rw [authFrame, if_pos hsuccess] at hauth
          cases hauth
          exact nofun
        exact survey_report hempty (fun _ _ h => h) (fun _ h => h)
      | kind' :: rest' =>
        apply challengeOf_survey h [kind :: rest]
        exact if_pos hsuccess
    · simp only [if_neg hkind]
      apply challengeOf_survey h []
      exact if_neg fun h => hkind (Option.some.inj h)

theorem awaitAuthRequest_survey :
    wp Survey.note awaitAuthRequest (fun seen r => Passes (fun _ seen => ∃ reads auth,
      Sound reads none ∧ authFrame reads = some auth ∧ seen = .quiet reads none) seen r) {} := by
  apply wp_bind.mpr
  apply wp_perform.mpr
  intro opened
  match opened with
  | .error e => exact .raised sound_nil false
  | .ok none => exact .unopened
  | .ok (some fd) =>
    apply wp_seq (exchangePeerDescription_survey _)
    · intro seen session h
      match session with
      | none => exact h
      | some session =>
        obtain ⟨request, hsound, rfl⟩ := h
        apply wp_seq (awaitChallenge_survey hsound session)
        · intro seen challenge h
          match challenge with
          | none => exact h
          | some challenge => exact h
        · exact fun _ _ h => h
    · exact fun _ _ h => h

/-- An authentication that succeeds leaves only frames and the response behind. -/
def Verifies (seen : Survey) : Except PyErr Bool → Prop
  | .ok true => ∃ reads response, Sound reads response ∧ seen = .quiet reads response
  | .ok false => Stops seen true
  | .error _ => Stops seen false

theorem authenticate_survey {reads : List Bytes} {auth : Bytes} (h : Sound reads none)
    (hauth : authFrame reads = some auth) (session : SapSession) (challenge : Bytes) :
    wp Survey.note (authenticate session challenge) Verifies (.quiet reads none) := by
  apply wp_bind.mpr
  apply wp_perform.mpr
  intro answer
  match answer with
  | .error e => exact .raised h false
  | .ok none => exact .refused h
  | .ok (some response) =>
    -- noted before the frame around it is packed
    change wp _ _ _ (Survey.quiet reads (some response))
    by_cases hfits : response.length ≤ 65533
    · have hsound (more : List Bytes) : Sound (reads ++ more) (some response) := by
        apply h.answer hauth
        rintro _ ⟨⟩
        exact hfits
      have hlen : ([17, 0] ++ response : Bytes).length < 2^16 := by
        rw [List.length_append]
        exact Nat.lt_of_le_of_lt (Nat.add_le_add_left hfits 2) (by decide)
      have hsent := hsound []
      rw [List.append_nil] at hsent
      apply survey_sendFrame hsent hlen (fun _ _ h => h)
      apply survey_readFrame hsent (fun _ _ h => h)
      · exact survey_report hsent (fun _ _ h => h) (fun _ h => h)
      intro payload
      match payload with
      | [] => exact survey_report (hsound _) (fun _ _ h => h) (fun _ h => h)
      | kind :: rest =>
        by_cases hkind : kind ≠ 18
        · simp only [if_pos hkind]
          exact survey_report (hsound _) (fun _ _ h => h) (fun _ h => h)
        simp only [if_neg hkind]
        apply wp_perform.mpr
        intro verified
        match verified with
        | .error e => exact .raised (hsound _) false
        | .ok false => exact .refused (hsound _)
        | .ok true => exact ⟨_, _, hsound _, rfl⟩
    -- with its two bytes in front the response is too long for the length field
    · have hlong : ¬Sound reads (some response) := fun h => hfits (h.response _ rfl)
      have hlen : 2^16 ≤ ([17, 0] ++ response : Bytes).length := by
        rw [List.length_append]
        exact Nat.add_le_add_left (not_le.mp hfits) 2
      apply wp_bind.mpr
      apply wp_bind.mpr
      apply wp_fromResult.mpr
      rw [be16_error hlen]
      exact .crashed hlong

/-- The service connection has begun. -/
structure Reached (seen : Survey) : Prop where
  served : seen.served = true
  refused : seen.refused = false
  sound : Sound seen.reads seen.response

/-- The first thing that the services do is to write a frame. -/
theorem runServices_sends (jsonLoads : Bytes → Option Json) {session : SapSession}
    {t : List SessionEvent} {r : Except PyErr Unit} (hr : Run (runServices jsonLoads session) t r) :
    ∃ payload x t', t = ⟨.sendSlpFrame session payload DEFAULT_SESSION, x⟩ :: t' := by
  obtain ⟨request, hrequest, hfits⟩ : ∃ request,
      makeServiceConnectionRequest CAPEX_PROFILE capexChannels 0xFFFF 0xFFFF = .ok request ∧
        request.length ≤ 65533 :=
    ⟨(makeServiceConnectionRequest CAPEX_PROFILE capexChannels 0xFFFF 0xFFFF).toOption.getD [],
      by decide +kernel, by decide +kernel⟩
  unfold runServices runServiceConnection at hr
  rw [hrequest] at hr
  change Run ((Session.sendSlpFrame session request DEFAULT_SESSION >>= _) >>= _) t r at hr
  rw [sendSlpFrame_fits hfits] at hr
  obtain ⟨x, t', rfl, -⟩ := run_call_iff.mp hr
  exact ⟨request, x, t', rfl⟩

theorem runServices_survey (jsonLoads : Bytes → Option Json) (session : SapSession)
    {reads : List Bytes} {response : Option Bytes} (h : Sound reads response) :
    wp Survey.note (runServices jsonLoads session) (fun seen _ => Reached seen)
      (.quiet reads response) := by
  apply wp_iff_run.mpr
  intro t r hr
  have hserves := runServices_serves jsonLoads t r hr
  obtain ⟨payload, x, t', rfl⟩ := runServices_sends jsonLoads hr
  have hstart : Reached ((Survey.quiet reads response).note
      ⟨.sendSlpFrame session payload DEFAULT_SESSION, x⟩) := ⟨rfl, rfl, h⟩
  -- from here on no operation of phases 1 and 2 is noted
  apply List.foldlRecOn t' Survey.note hstart
  intro seen hseen e he
  obtain ⟨o, x⟩ := e
  have ho := hserves _ (List.mem_cons_of_mem _ he)
  cases o with
  | sendSlpFrame _ _ _ => exact ⟨rfl, hseen.refused, hseen.sound⟩
  | logError _ => cases x <;> exact ⟨hseen.served, hseen.refused, hseen.sound⟩
  | readSlpFrame _ _ | now | sleep _ | connectToWifi _ _ | resolveCameraIp | ssdpProbe _
  | fetchUpnpServices _ | startLiveStream _ _ =>
    cases x <;> exact ⟨hseen.served, hseen.refused, hseen.sound⟩
  | openConnection | closeConnection | readFrame _ _ | sendFrame _ _ | makeAuthenticator _ _
  | processChallenge _ | verifyConfirm _ | closeAuthenticator => exact ho.elim

theorem authenticateAndServe_survey (jsonLoads : Bytes → Option Json) {reads : List Bytes}
    {auth : Bytes} (h : Sound reads none) (hauth : authFrame reads = some auth)
    (session : SapSession) (challenge : Bytes) :
    wp Survey.note (authenticateAndServe jsonLoads session challenge)
      (fun seen r => Stops seen r.isOk ∨ Reached seen) (.quiet reads none) := by
  apply wp_seq (authenticate_survey h hauth session challenge)
  · intro seen verified h
    match verified with
    | false => exact .inl h
    | true =>
      obtain ⟨reads, response, hsound, rfl⟩ := h
      apply wp_mono (runServices_survey jsonLoads session hsound)
      intro seen r h
      exact .inr h
  · intro seen e h
    exact .inl h

/-- The clean-up only closes. -/
theorem cleanup_survey (authenticator : Bool) (seen : Survey) :
    wp Survey.note (cleanup authenticator) (fun after y =>
      after = { seen with closeRaised := seen.closeRaised || y.toOption.isNone }) seen := by
  cases authenticator with
  | false =>
    apply wp_perform.mpr
    exact fun _ => rfl
  | true =>
    apply wp_bind.mpr
    apply wp_perform.mpr
    intro x
    match x with
    | .error e => rfl
    | .ok () =>
      apply wp_perform.mpr
      intro y
      change { seen with closeRaised := (seen.closeRaised || false) || y.toOption.isNone } = _
      rw [Bool.or_false]

/-- The condition under which phases 1 and 2 survive. -/
def Survivable (logsRefusal : Bool) (seen : Survey) : Prop :=
  Sound seen.reads seen.response ∧ (seen.refused = true → logsRefusal = true)

theorem Stops.verdict {seen : Survey} {returned : Bool} (h : Stops seen returned)
    (logsRefusal closeRaised : Bool) {r : Except PyErr Unit}
    (hr : closeRaised = false → returned = true → r = .ok ()) :
    Survives logsRefusal { seen with closeRaised := closeRaised } r ↔
      Survivable logsRefusal { seen with closeRaised := closeRaised } := by
  -- by the way in which the run stopped
  cases h with
  | unopened => exact iff_of_true nofun ⟨sound_nil, nofun⟩
  | raised h => exact iff_of_true (fun _ => nofun) ⟨h, nofun⟩
  | reported h =>
    apply iff_of_true
    · exact fun _ _ => .inr ⟨.inl rfl, fun hclose => hr hclose rfl⟩
    · exact ⟨h, nofun⟩
  | refused h =>
    constructor
    · intro hsurvives
      refine ⟨h, fun _ => ?_⟩
      rcases hsurvives rfl rfl with hserved | ⟨hlogged | ⟨-, hlogs⟩, -⟩
      · cases hserved
      · cases hlogged
      · exact hlogs
    · intro hsurvivable
      exact fun _ _ => .inr ⟨.inr ⟨rfl, hsurvivable.2 rfl⟩, fun hclose => hr hclose rfl⟩
  | crashed h =>
    apply iff_of_false
    · intro hsurvives
      rcases hsurvives rfl rfl with hserved | ⟨hlogged | ⟨hrefused, -⟩, -⟩
      · cases hserved
      · cases hlogged
      · cases hrefused
    · exact fun hsurvivable => h hsurvivable.1

theorem Reached.verdict {seen : Survey} (h : Reached seen) (logsRefusal : Bool)
    {r : Except PyErr Unit} : Survives logsRefusal seen r ↔ Survivable logsRefusal seen := by
  refine iff_of_true (fun _ _ => .inl h.served) ⟨h.sound, fun hrefused => ?_⟩
  exact absurd (h.refused.symm.trans hrefused) (by decide)

theorem closed_ok {before : Bool} {y : Except PyErr Unit}
    (h : (before || y.toOption.isNone) = false) : y = .ok () := by
  cases y with
  | ok _ => rfl
  | error e =>
    rw [Except.toOption, Option.isNone_none, Bool.or_true] at h
    cases h

/-- The clean-up after a body that stopped or was served. -/
theorem finally_survey {p : Session Unit} {seen : Survey} (logsRefusal authenticator : Bool)
    (h : wp Survey.note p (fun seen r => Stops seen r.isOk ∨ Reached seen) seen) :
    wp Survey.note (tryFinally p (cleanup authenticator))
      (fun seen r => Survives logsRefusal seen r ↔ Survivable logsRefusal seen) seen := by
  apply wp_tryFinally.mpr
  apply wp_mono h
  intro seen x hbody
  apply wp_mono (cleanup_survey authenticator seen)
  rintro _ y rfl
  rcases hbody with hstops | hreached
  · cases y with
    | ok _ =>
      apply hstops.verdict
      intro _ hok
      match x with
      | .ok () => rfl
    | error e =>
      apply hstops.verdict
      exact fun hclose => nomatch closed_ok hclose
  · have hclosed : Reached { seen with closeRaised := seen.closeRaised || y.toOption.isNone } :=
      ⟨hreached.served, hreached.refused, hreached.sound⟩
    cases y <;> exact hclosed.verdict logsRefusal

/-- Phases 1 and 2 survive exactly if the requests have the bytes that are read of them, the
response fits its frame, and no refusal goes without an error line. -/
theorem phases_survive_iff (jsonLoads : Bytes → Option Json) (logsRefusal : Bool)
    {t : List SessionEvent} {r : Except PyErr Unit} (hrun : Run (runWifiSession jsonLoads) t r) :
    Survives logsRefusal (survey t) r ↔ Survivable logsRefusal (survey t) := by
  have hwp : wp Survey.note (runWifiSession jsonLoads)
      (fun seen r => Survives logsRefusal seen r ↔ Survivable logsRefusal seen) {} := by
    apply wp_bind.mpr
    apply wp_attempt.mpr
    apply wp_mono awaitAuthRequest_survey
    intro seen found h
    match found with
    -- the three ways out of phase 1, with the clean-up behind each
    | .error e => exact finally_survey logsRefusal false (.inl h)
    | .ok none =>
      apply wp_mono (cleanup_survey false seen)
      rintro _ y rfl
      apply Stops.verdict h
      exact fun hclose _ => closed_ok hclose
    | .ok (some (session, challenge)) =>
      obtain ⟨reads, auth, hsound, hauth, rfl⟩ := h
      apply wp_bind.mpr
      apply wp_attempt.mpr
      apply wp_perform.mpr
      intro made
      match made with
      | .error e => exact finally_survey logsRefusal false (.inl (.raised hsound false))
      | .ok () =>
        apply finally_survey logsRefusal true
        exact authenticateAndServe_survey jsonLoads hsound hauth session challenge
  exact wp_run hwp hrun

theorem phases_survive_sample : Survives true (survey (exec playback
    (runWifiSession fun _ => none) ⟨[[5, 2, 1, 2, 1], [9], [16, 0, 7]], []⟩).trace) (.ok ()) := by
  have hrun := exec_run playback (runWifiSession fun _ => none)
    ⟨[[5, 2, 1, 2, 1], [9], [16, 0, 7]], []⟩
  have hresult : (exec playback (runWifiSession fun _ => none)
      ⟨[[5, 2, 1, 2, 1], [9], [16, 0, 7]], []⟩).result = .ok () := by decide +kernel
  rw [hresult] at hrun
  apply (phases_survive_iff _ true hrun).mpr
  exact ⟨by decide +kernel, fun _ => rfl⟩

/-- A PD_REQUEST of one byte, and an AUTH_REQUEST of one byte. Every operation returns, no error
line is written, and the session raises. -/
theorem short_requests_raise :
    (∃ t, Run (runWifiSession fun _ => none) t (.error .structError) ∧ (survey t).reads = [[5]] ∧
      (∀ e ∈ t, e.2.isOk = true) ∧ ¬Survives true (survey t) (.error .structError)) ∧
    ∃ t, Run (runWifiSession fun _ => none) t (.error .indexError) ∧
      (survey t).reads = [[5, 2, 1, 2, 1], [16]] ∧ (∀ e ∈ t, e.2.isOk = true) ∧
      ¬Survives true (survey t) (.error .indexError) := by
  -- both runs on a camera that sends these frames and nothing else
  have hfirst := exec_run playback (runWifiSession fun _ => none) ⟨[[5]], []⟩
  have hsecond := exec_run playback (runWifiSession fun _ => none) ⟨[[5, 2, 1, 2, 1], [16]], []⟩
  have hfirstResult : (exec playback (runWifiSession fun _ => none) ⟨[[5]], []⟩).result =
      .error .structError := by decide +kernel
  have hsecondResult : (exec playback (runWifiSession fun _ => none)
      ⟨[[5, 2, 1, 2, 1], [16]], []⟩).result = .error .indexError := by decide +kernel
  rw [hfirstResult] at hfirst
  rw [hsecondResult] at hsecond
  refine ⟨⟨_, hfirst, by decide +kernel, by decide +kernel, ?_⟩,
    ⟨_, hsecond, by decide +kernel, by decide +kernel, ?_⟩⟩
  · unfold Survives
    decide +kernel
  · unfold Survives
    decide +kernel

end Gear360
