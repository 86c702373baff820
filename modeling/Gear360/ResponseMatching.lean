import Gear360.CapexParser
import Gear360.ServiceConnection

namespace Gear360

open Interaction
open Interaction.Prog (perform fromResult)
open Session

/-- The visible part of every run that returns. -/
abbrev Phase3 {α : Type} (p : Session α) (L : List WireEvent → α → Prop) : Prop :=
  Yields wireEvent p L

section
variable {session : SapSession} {α : Type}

theorem phase3_fromResult (x : Except PyErr α) :
    Phase3 (fromResult x) (fun w a => w = [] ∧ x = .ok a) :=
  yields_fromResult fun _ h => ⟨rfl, h⟩

theorem phase3_read (timeout : ℕ) :
    Phase3 (readSlpFrame session timeout) (fun w input => w = [.read input]) :=
  yields_perform fun _ => rfl

theorem phase3_send (payload : Bytes) (sessionId : ℕ) :
    Phase3 (sendSlpFrame session payload sessionId) (fun w _ => w = [.sent payload sessionId]) := by
  apply (phase3_fromResult _).bind
  intro w wire h
  rw [h.1]
  exact yields_perform fun _ => rfl

theorem phase3_handleCapex {frame : SlpFrame} (h : isCapexQuery frame.payload = true) :
    Phase3 (handleCapex session frame.payload frame.sessionId)
      (fun w _ => w = capexReplies frame) := by
  constructor
  intro t u hr
  rcases run_handleCapex h hr with ⟨⟨e, he⟩, -⟩ | ⟨-, hw⟩
  · cases he
  · exact hw

theorem phase3_wait (timeoutPer attempts : ℕ) :
    Phase3 (waitServiceConnection session timeoutPer attempts)
      (fun w out => ∃ inputs, StopsAt EndsWait attempts inputs ∧ waitOutcome inputs = .ok out ∧
        w = inputs.flatMap answered) := by
  constructor
  intro t out hr
  rcases run_waitServiceConnection hr with ⟨⟨e, he⟩, -⟩ | ⟨inputs, hstops, hout, hw⟩
  · cases he
  · exact ⟨inputs, hstops, hout.symm, hw⟩

/-- One turn of a read loop that answers queries on their own session. -/
theorem phase3_turn {timeout : ℕ} {f : Option SlpFrame → Session α} {N : List WireEvent → α → Prop}
    (hnone : Phase3 (f none) (fun w a => N (answered none ++ w) a))
    (hother : ∀ frame, ¬isCapexQuery frame.payload = true →
      Phase3 (f (some frame)) (fun w a => N (answered (some frame) ++ w) a))
    (hquery : ∀ frame, isCapexQuery frame.payload = true → ∃ p,
      f (some frame) = (handleCapex session frame.payload frame.sessionId >>= fun _ => p) ∧
      Phase3 p (fun w a => N (answered (some frame) ++ w) a)) :
    Phase3 (readSlpFrame session timeout >>= f) N := by
  apply (phase3_read timeout).bind
  intro w input hw
  rw [hw]
  -- a timeout, a query with its reply, or a frame that is only looked at
  cases input with
  | none => exact hnone
  | some frame =>
    by_cases h : isCapexQuery frame.payload = true
    · obtain ⟨p, hp, hN⟩ := hquery frame h
      rw [hp]
      apply (phase3_handleCapex h).bind
      intro u _ hu
      rw [hu]
      exact hN
    · have hN := hother frame h
      rw [answered, Option.elim_some, capexReplies, if_neg h] at hN
      exact hN

theorem phase3_answerCapexQueries (attempts capexHandled : ℕ) :
    Phase3 (answerCapexQueries session attempts capexHandled)
      (fun w _ => ∃ inputs : List (Option SlpFrame), w = inputs.flatMap answered) := by
  induction attempts generalizing capexHandled with
  | zero =>
    apply yields_ret
    exact ⟨[], rfl⟩
  | succ attempts ih =>
    -- one more turn puts its frame in front
    have hcons (input : Option SlpFrame) (handled : ℕ) :
        Phase3 (answerCapexQueries session attempts handled)
          (fun w _ => ∃ inputs : List (Option SlpFrame),
            answered input ++ w = inputs.flatMap answered) := by
      apply (ih handled).mono
      intro w _ h
      obtain ⟨inputs, hw⟩ := h
      exact ⟨input :: inputs, by rw [hw, List.flatMap_cons]⟩
    apply phase3_turn
    · dsimp only
      split_ifs
      · apply yields_ret
        exact ⟨[none], rfl⟩
      · exact hcons none _
    · intro frame h
      dsimp only
      rw [if_neg h]
      exact hcons (some frame) _
    · intro frame h
      exact ⟨_, if_pos h, hcons (some frame) _⟩

/-- The services of a capability response. -/
def servicesIn (frame : SlpFrame) : List CapexService :=
  (parseCapexResponse frame.payload).toOption.getD []

/-- A capability response of type 2. -/
def IsCapexResponse (frame : SlpFrame) : Prop :=
  2 ≤ frame.payload.length ∧ frame.payload.head? = some 2

instance (frame : SlpFrame) : Decidable (IsCapexResponse frame) :=
  inferInstanceAs (Decidable (_ ∧ _))

/-- What a frame ends the search with: a legacy response has no component id. -/
def searchAnswer (frame : SlpFrame) : Option (Option ℕ) :=
  if IsCapexResponse frame then some (matchingComponentId (servicesIn frame))
  else if 2 ≤ frame.payload.length ∧ frame.payload.head? = some 6 then some none
  else none

def EndsSearch (input : Option SlpFrame) : Prop := (input.bind searchAnswer).isSome = true

def searchOutcome (inputs : List (Option SlpFrame)) : Option ℕ :=
  (inputs.findSome? fun input => input.bind searchAnswer).join

theorem searchAnswer_query {frame : SlpFrame} (h : isCapexQuery frame.payload = true) :
    searchAnswer frame = none := by
  rw [searchAnswer, if_neg fun h₂ => query_head h 2 (by decide) (by decide) h₂.2,
    if_neg fun h₆ => query_head h 6 (by decide) (by decide) h₆.2]

theorem phase3_findComponentId (attempts : ℕ) :
    Phase3 (findComponentId session attempts)
      (fun w found => ∃ inputs, StopsAt EndsSearch attempts inputs ∧ found = searchOutcome inputs ∧
        w = inputs.flatMap answered) := by
  induction attempts with
  | zero =>
    apply yields_ret
    exact ⟨[], stopsAt_zero, rfl, rfl⟩
  | succ attempts ih =>
    have hcons (input : Option SlpFrame) (hinput : input.bind searchAnswer = none) :
        Phase3 (findComponentId session attempts)
          (fun w found => ∃ inputs, StopsAt EndsSearch (attempts+1) inputs ∧
            found = searchOutcome inputs ∧ answered input ++ w = inputs.flatMap answered) := by
      apply ih.mono
      intro w found h
      obtain ⟨inputs, hstops, hfound, hw⟩ := h
      refine ⟨input :: inputs, hstops.cons (by simp [EndsSearch, hinput]), ?_,
        by rw [hw, List.flatMap_cons]⟩
      rw [hfound, searchOutcome, searchOutcome, List.findSome?_cons, hinput]
    apply phase3_turn
    · exact hcons none rfl
    · intro frame h
      dsimp only
      split_ifs with h₂ h₆
      -- the two kinds of response end the search with this frame
      · have hanswer : searchAnswer frame = some (matchingComponentId (servicesIn frame)) :=
          if_pos h₂
        apply (phase3_fromResult _).bind
        intro w services hparse
        apply yields_ret
        refine ⟨[some frame], stopsAt_stop (by simp [EndsSearch, hanswer]), ?_, ?_⟩
        · rw [searchOutcome, List.findSome?_singleton, Option.bind_some, hanswer, servicesIn,
            hparse.2]
          rfl
        · rw [hparse.1, List.flatMap_singleton, answered, Option.elim_some, capexReplies, if_neg h]
          rfl
      · have hanswer : searchAnswer frame = some none := (if_neg h₂).trans (if_pos h₆)
        apply yields_ret
        refine ⟨[some frame], stopsAt_stop (by simp [EndsSearch, hanswer]), ?_, ?_⟩
        · rw [searchOutcome, List.findSome?_singleton, Option.bind_some, hanswer]
          rfl
        · rw [List.flatMap_singleton, answered, Option.elim_some, capexReplies, if_neg h]
          rfl
      · exact hcons (some frame) ((if_neg h₂).trans (if_neg h₆))
    · intro frame h
      have h₂ : ¬(2 ≤ frame.payload.length ∧ frame.payload.head? = some 2) :=
        fun hhead => query_head h 2 (by decide) (by decide) hhead.2
      have h₆ : ¬(2 ≤ frame.payload.length ∧ frame.payload.head? = some 6) :=
        fun hhead => query_head h 6 (by decide) (by decide) hhead.2
      refine ⟨_, ?_, hcons (some frame) (searchAnswer_query h)⟩
      simp only [if_neg h₂, if_neg h₆, h, if_true]

/-- The inputs and the requests of a run of phase 3 that returns a command session. -/
structure Phase3Run where
  capexWait : List (Option SlpFrame)
  queries : List (Option SlpFrame)
  search : List (Option SlpFrame)
  serviceWait : List (Option SlpFrame)
  capexSessions : List ℕ
  serviceSessions : List ℕ
  capexRequest : Bytes
  query : Bytes
  serviceRequest : Bytes
  capexWait_stops : StopsAt EndsWait 10 capexWait
  capexWait_accepted : waitOutcome capexWait = .ok (true, capexSessions)
  search_stops : StopsAt EndsSearch 10 search
  serviceWait_stops : StopsAt EndsWait 15 serviceWait
  serviceWait_accepted : waitOutcome serviceWait = .ok (true, serviceSessions)
  capexRequest_eq :
    makeServiceConnectionRequest CAPEX_PROFILE capexChannels 0xFFFF 0xFFFF = .ok capexRequest
  query_eq : makeCapexQuery 2 0 [] = .ok query
  serviceRequest_eq : makeServiceConnectionRequest SERVICE_PROFILE serviceChannels 0
    ((searchOutcome search).getD 0) = .ok serviceRequest

namespace Phase3Run

/-- The session that the capability query goes out on. -/
def capexSession (run : Phase3Run) : ℕ := run.capexSessions.headD 1

/-- The acceptor id of the service connection request. -/
def acceptorId (run : Phase3Run) : ℕ := (searchOutcome run.search).getD 0

/-- The session that is returned. -/
def cmdSession (run : Phase3Run) : ℕ := run.serviceSessions.headD 10

/-- The frames of phase 3, in order. -/
def wire (run : Phase3Run) : List WireEvent :=
  [.sent run.capexRequest DEFAULT_SESSION] ++ run.capexWait.flatMap answered ++
    run.queries.flatMap answered ++ [.sent run.query run.capexSession] ++
    run.search.flatMap answered ++ [.sent run.serviceRequest DEFAULT_SESSION] ++
    run.serviceWait.flatMap answered

end Phase3Run

theorem phase3_giveUp (text : String) {L : List WireEvent → ℕ → Prop} :
    Phase3 (Session.logError text >>= fun _ => return none)
      (fun w cmdSession => ∀ id, cmdSession = some id → L w id) := by
  have hline : Phase3 (Session.logError text) (fun _ _ => True) := yields_perform fun _ => trivial
  apply hline.bind
  intro w _ _
  apply yields_ret
  exact nofun

/-- What a run of phase 3 that returns a command session has read and sent. -/
theorem phase3_runServiceConnection :
    Phase3 (runServiceConnection session) (fun w cmdSession => ∀ id, cmdSession = some id →
      ∃ run : Phase3Run, w = run.wire ∧ id = run.cmdSession) := by
  -- the wire is collected step by step, each under a name of its own
  apply (phase3_fromResult _).bind
  rintro w₀ capexRequest ⟨rfl, hcapexRequest⟩
  apply (phase3_send _ _).bind
  rintro w₁ _ rfl
  apply (phase3_wait 3000 10).bind
  rintro w₂ ⟨capexOk, capexSessions⟩ ⟨capexWait, hcapexStops, hcapex, rfl⟩
  dsimp only
  cases capexOk with
  | false => exact phase3_giveUp _
  | true =>
    apply (phase3_answerCapexQueries 15 0).bind
    rintro w₃ _ ⟨queries, rfl⟩
    apply (phase3_fromResult _).bind
    rintro w₄ query ⟨rfl, hquery⟩
    apply (phase3_send _ _).bind
    rintro w₅ _ rfl
    apply (phase3_findComponentId 10).bind
    rintro w₆ found ⟨search, hsearchStops, rfl, rfl⟩
    apply (phase3_fromResult _).bind
    rintro w₇ serviceRequest ⟨rfl, hserviceRequest⟩
    apply (phase3_send _ _).bind
    rintro w₈ _ rfl
    apply (phase3_wait 5000 15).bind
    rintro w₉ ⟨ok, serviceSessions⟩ ⟨serviceWait, hserviceStops, hservice, rfl⟩
    cases ok with
    | false => exact phase3_giveUp _
    | true =>
      apply yields_ret
      intro id hid
      cases hid
      -- all steps were taken: the run is made of what they yielded
      refine ⟨{
        capexWait := capexWait
        queries := queries
        search := search
        serviceWait := serviceWait
        capexSessions := capexSessions
        serviceSessions := serviceSessions
        capexRequest := capexRequest
        query := query
        serviceRequest := serviceRequest
        capexWait_stops := hcapexStops
        capexWait_accepted := hcapex
        search_stops := hsearchStops
        serviceWait_stops := hserviceStops
        serviceWait_accepted := hservice
        capexRequest_eq := hcapexRequest
        query_eq := hquery
        serviceRequest_eq := hserviceRequest }, ?_, rfl⟩
      simp only [Phase3Run.wire, List.append_assoc, List.nil_append, List.append_nil]
      rfl

/-- A response that repeats the profile id of a request. -/
def Echoes (profile : String) (frame : SlpFrame) : Prop :=
  (responseAt frame).map (slice frame.payload 5) = some (utf8 profile)

instance (profile : String) (frame : SlpFrame) : Decidable (Echoes profile frame) :=
  inferInstanceAs (Decidable (_ = _))

/-- A response with status 0 and these sessions. -/
def Accepts (frame : SlpFrame) (sessions : List ℕ) : Prop :=
  connectionOutcome frame = some (.ok (true, sessions))

/-- The component id that the search takes from a frame. -/
def componentFrom (frame : SlpFrame) : ℕ := (matchingComponentId (servicesIn frame)).getD 0

/-- The ids are those of responses to the requests: each of the three is found in a frame that
answers the request it is for. -/
structure Matched (capexFrames searchFrames serviceFrames : List (Option SlpFrame))
    (capexSession acceptorId cmdSession : ℕ) : Prop where
  command : ∃ frame sessions, some frame ∈ serviceFrames ∧ Echoes SERVICE_PROFILE frame ∧
    Accepts frame sessions ∧ cmdSession = sessions.headD 10
  capex : ∃ frame sessions, some frame ∈ capexFrames ∧ Echoes CAPEX_PROFILE frame ∧
    Accepts frame sessions ∧ capexSession = sessions.headD 1
  acceptor : acceptorId ≠ 0 → ∃ frame, some frame ∈ searchFrames ∧ IsCapexResponse frame ∧
    frame.sessionId = capexSession ∧ ∃ service ∈ servicesIn frame, service.componentId = acceptorId

namespace Phase3Run

/-- Each id is taken from the first response after its request, whatever profile it repeats and
whatever session it came on. -/
structure TakenInOrder (run : Phase3Run) : Prop where
  command : ∃ front frame, run.serviceWait = front ++ [some frame] ∧
    (∀ f, some f ∈ front → ¬IsResponse f) ∧ Accepts frame run.serviceSessions
  capex : ∃ front frame, run.capexWait = front ++ [some frame] ∧
    (∀ f, some f ∈ front → ¬IsResponse f) ∧ Accepts frame run.capexSessions
  acceptor : run.acceptorId ≠ 0 → ∃ front frame, run.search = front ++ [some frame] ∧
    (∀ f, some f ∈ front → ¬IsCapexResponse f) ∧ IsCapexResponse frame ∧
    ∃ service ∈ servicesIn frame, service.componentId = run.acceptorId

/-- Each request is answered by a response to it before any other response. -/
structure EachAnswered (run : Phase3Run) : Prop where
  command : ∀ frame, some frame ∈ run.serviceWait → IsResponse frame → Echoes SERVICE_PROFILE frame
  capex : ∀ frame, some frame ∈ run.capexWait → IsResponse frame → Echoes CAPEX_PROFILE frame
  acceptor : ∀ frame, some frame ∈ run.search → IsCapexResponse frame →
    frame.sessionId = run.capexSession ∨ componentFrom frame = 0

end Phase3Run

theorem Accepts.isResponse {frame : SlpFrame} {sessions : List ℕ} (h : Accepts frame sessions) :
    IsResponse frame := by
  obtain ⟨semicolon, hat, -⟩ := Option.map_eq_some_iff.mp h
  exact responseAt_isSome.mp (by rw [hat]; rfl)

/-- A wait that was accepted ended with its only response. -/
theorem accepted_wait {attempts : ℕ} {inputs : List (Option SlpFrame)} {sessions : List ℕ}
    (hstops : StopsAt EndsWait attempts inputs) (h : waitOutcome inputs = .ok (true, sessions)) :
    ∃ front frame, inputs = front ++ [some frame] ∧ (∀ f, some f ∈ front → ¬IsResponse f) ∧
      Accepts frame sessions := by
  rcases waitOutcome_cases hstops with ⟨-, hout⟩ | ⟨front, frame, semicolon, rfl, hno, hat, hout⟩
  · rw [h] at hout
    cases hout
  · refine ⟨front, frame, rfl, fun f hf hresponse => hno _ hf (endsWait_some.mpr hresponse), ?_⟩
    rw [Accepts, connectionOutcome, hat, Option.map_some, ← hout, h]

/-- The accepted response is the only one, so it repeats a profile if all responses do. -/
theorem echoes_iff (profile : String) {attempts : ℕ} {inputs : List (Option SlpFrame)}
    {sessions : List ℕ} (hstops : StopsAt EndsWait attempts inputs)
    (h : waitOutcome inputs = .ok (true, sessions)) (default : ℕ) :
    (∃ frame found, some frame ∈ inputs ∧ Echoes profile frame ∧ Accepts frame found ∧
      sessions.headD default = found.headD default) ↔
    ∀ frame, some frame ∈ inputs → IsResponse frame → Echoes profile frame := by
  constructor
  -- a wait stops at its first response, so there is no second one to tell apart
  · rintro ⟨frame, found, hframe, hechoes, haccepts, -⟩ other hother hresponse'
    have heq := hstops.unique hframe hother (endsWait_some.mpr haccepts.isResponse)
      (endsWait_some.mpr hresponse')
    rwa [← Option.some.inj heq]
  · intro hall
    obtain ⟨front, frame, rfl, -, haccepts⟩ := accepted_wait hstops h
    have hmem : some frame ∈ front ++ [some frame] :=
      List.mem_append_right _ (List.mem_singleton_self _)
    exact ⟨frame, sessions, hmem, hall frame hmem haccepts.isResponse, haccepts, rfl⟩

theorem matchingComponentId_mem {services : List CapexService} {componentId : ℕ}
    (h : matchingComponentId services = some componentId) :
    ∃ service ∈ services, service.componentId = componentId := by
  induction services using List.reverseRecOn with
  | nil => cases h
  | append_singleton services service ih =>
    rw [matchingComponentId, List.foldl_append, List.foldl_cons, List.foldl_nil] at h
    split_ifs at h
    · exact ⟨service, List.mem_append_right _ (List.mem_singleton_self _), Option.some.inj h⟩
    · obtain ⟨found, hfound, hid⟩ := ih h
      exact ⟨found, List.mem_append_left _ hfound, hid⟩

theorem IsCapexResponse.endsSearch {frame : SlpFrame} (h : IsCapexResponse frame) :
    EndsSearch (some frame) := by
  rw [EndsSearch, Option.bind_some, searchAnswer, if_pos h]
  rfl

/-- The search met no capability response, or its last input is its only one. -/
theorem searchOutcome_cases {attempts : ℕ} {inputs : List (Option SlpFrame)}
    (h : StopsAt EndsSearch attempts inputs) :
    searchOutcome inputs = none ∧ (∀ f, some f ∈ inputs → ¬IsCapexResponse f) ∨
      ∃ front frame, inputs = front ++ [some frame] ∧
        (∀ f, some f ∈ front → ¬IsCapexResponse f) ∧ IsCapexResponse frame ∧
        searchOutcome inputs = matchingComponentId (servicesIn frame) := by
  have hnone {inputs : List (Option SlpFrame)} (hno : ∀ input ∈ inputs, ¬EndsSearch input) :
      (inputs.findSome? fun input => input.bind searchAnswer) = none :=
    List.findSome?_eq_none_iff.mpr fun input hinput =>
      Option.not_isSome_iff_eq_none.mp (hno input hinput)
  rcases h.cases with ⟨-, hno⟩ | ⟨front, input, rfl, hstop, hno⟩
  · refine .inl ⟨?_, fun f hf hkind => hno _ hf hkind.endsSearch⟩
    rw [searchOutcome, hnone hno]
    rfl
  · obtain ⟨answer, hbind⟩ := Option.isSome_iff_exists.mp hstop
    obtain ⟨frame, rfl, hanswer⟩ := Option.bind_eq_some_iff.mp hbind
    have hfront (f : SlpFrame) (hf : some f ∈ front) : ¬IsCapexResponse f :=
      fun hkind => hno _ hf hkind.endsSearch
    have hout : searchOutcome (front ++ [some frame]) = answer := by
      rw [searchOutcome, List.findSome?_append, hnone hno, Option.none_or,
        List.findSome?_singleton, hbind]
      rfl
    by_cases hkind : IsCapexResponse frame
    · have heq := (if_pos hkind).symm.trans hanswer
      exact .inr ⟨front, frame, rfl, hfront, hkind, by rw [hout, ← Option.some.inj heq]⟩
    -- a legacy response
    · rw [searchAnswer, if_neg hkind] at hanswer
      split_ifs at hanswer
      refine .inl ⟨by rw [hout, ← Option.some.inj hanswer], fun f hf => ?_⟩
      rcases List.mem_append.mp hf with hf | hf
      · exact hfront f hf
      · rwa [Option.some.inj (List.mem_singleton.mp hf)]

namespace Phase3Run

theorem acceptor_taken (run : Phase3Run) (h : run.acceptorId ≠ 0) :
    ∃ front frame, run.search = front ++ [some frame] ∧
      (∀ f, some f ∈ front → ¬IsCapexResponse f) ∧ IsCapexResponse frame ∧
      ∃ service ∈ servicesIn frame, service.componentId = run.acceptorId := by
  unfold acceptorId at h ⊢
  rcases searchOutcome_cases run.search_stops with
    ⟨hnone, -⟩ | ⟨front, frame, hinputs, hno, hkind, hout⟩
  · rw [hnone] at h
    exact absurd rfl h
  · refine ⟨front, frame, hinputs, hno, hkind, ?_⟩
    rw [hout] at h ⊢
    cases hfound : matchingComponentId (servicesIn frame) with
    | none =>
      rw [hfound] at h
      exact absurd rfl h
    | some componentId => exact matchingComponentId_mem hfound

theorem acceptorId_eq (run : Phase3Run) {frame : SlpFrame} (hframe : some frame ∈ run.search)
    (hkind : IsCapexResponse frame) : run.acceptorId = componentFrom frame := by
  rcases searchOutcome_cases run.search_stops with
    ⟨-, hno⟩ | ⟨front, last, hinputs, -, hlast, hout⟩
  · exact absurd hkind (hno frame hframe)
  · have hmem : some last ∈ run.search := by
      rw [hinputs]
      exact List.mem_append_right _ (List.mem_singleton_self _)
    have heq := run.search_stops.unique hframe hmem hkind.endsSearch hlast.endsSearch
    rw [acceptorId, hout, Option.some.inj heq]
    rfl

/-- The acceptor id is a component of the queried session exactly if the response that the search
takes it from came on that session. -/
theorem acceptor_iff (run : Phase3Run) :
    (run.acceptorId ≠ 0 → ∃ frame, some frame ∈ run.search ∧ IsCapexResponse frame ∧
      frame.sessionId = run.capexSession ∧
      ∃ service ∈ servicesIn frame, service.componentId = run.acceptorId) ↔
    ∀ frame, some frame ∈ run.search → IsCapexResponse frame →
      frame.sessionId = run.capexSession ∨ componentFrom frame = 0 := by
  constructor
  · intro h frame hframe hkind
    by_cases hzero : run.acceptorId = 0
    · exact .inr ((run.acceptorId_eq hframe hkind).symm.trans hzero)
    · obtain ⟨other, hother, hkind', hsession, -⟩ := h hzero
      -- only one frame ends the search
      have heq := run.search_stops.unique hframe hother hkind.endsSearch hkind'.endsSearch
      rw [Option.some.inj heq]
      exact .inl hsession
  · intro h hne
    obtain ⟨front, frame, hinputs, -, hkind, hservice⟩ := run.acceptor_taken hne
    have hmem : some frame ∈ run.search := by
      rw [hinputs]
      exact List.mem_append_right _ (List.mem_singleton_self _)
    rcases h frame hmem hkind with hsession | hzero
    · exact ⟨frame, hmem, hkind, hsession, hservice⟩
    · exact absurd ((run.acceptorId_eq hmem hkind).trans hzero) hne

end Phase3Run

/-- A run that returns a command session took its ids from the first responses. -/
theorem phase3_takenInOrder {t : List SessionEvent} {cmdSession : ℕ}
    (hr : Run (runServiceConnection session) t (.ok (some cmdSession))) :
    ∃ run : Phase3Run, wire t = run.wire ∧ cmdSession = run.cmdSession ∧ run.TakenInOrder := by
  obtain ⟨run, hw, hid⟩ := phase3_runServiceConnection.run t _ hr cmdSession rfl
  have hcommand := accepted_wait run.serviceWait_stops run.serviceWait_accepted
  have hcapex := accepted_wait run.capexWait_stops run.capexWait_accepted
  exact ⟨run, hw, hid, hcommand, hcapex, run.acceptor_taken⟩

/-- Responses are matched to requests by their order; they are responses to these requests exactly
if each request is answered before any other response arrives. -/
theorem responses_taken_in_order {t : List SessionEvent} {cmdSession : ℕ}
    (hr : Run (runServiceConnection session) t (.ok (some cmdSession))) :
    ∃ run : Phase3Run, wire t = run.wire ∧ cmdSession = run.cmdSession ∧ run.TakenInOrder ∧
      (Matched run.capexWait run.search run.serviceWait run.capexSession run.acceptorId
        run.cmdSession ↔ run.EachAnswered) := by
  obtain ⟨run, hw, hid, htaken⟩ := phase3_takenInOrder hr
  have hcommand := echoes_iff SERVICE_PROFILE run.serviceWait_stops run.serviceWait_accepted 10
  have hcapex := echoes_iff CAPEX_PROFILE run.capexWait_stops run.capexWait_accepted 1
  refine ⟨run, hw, hid, htaken, ?_⟩
  constructor
  · intro h
    exact ⟨hcommand.mp h.command, hcapex.mp h.capex, run.acceptor_iff.mp h.acceptor⟩
  · intro h
    exact ⟨hcommand.mpr h.command, hcapex.mpr h.capex, run.acceptor_iff.mpr h.acceptor⟩

end

/-- A response to one of our requests. -/
def responseTo (profile : String) (sessions : List ℕ) : Option SlpFrame :=
  some ⟨DEFAULT_SESSION, 0, [2, 0, 0, 0, 0] ++ terminated profile ++ [0] ++
    BigEndian.encode 2 sessions.length ++ sessions.flatMap (BigEndian.encode 2)⟩

/-- A session without queries: two responses, and what is read between them. -/
def phase3Script (first found last : Option SlpFrame) : Script where
  frames := []
  slpReads := [first] ++ List.replicate 15 none ++ [found, last]

theorem responses_taken_in_order_sample :
    ∃ run : Phase3Run, wire (exec playback (runServiceConnection ⟨3, false⟩)
        (phase3Script (responseTo CAPEX_PROFILE [1]) (some ⟨1, 0, [6, 0]⟩)
          (responseTo SERVICE_PROFILE [10, 11, 12]))).trace = run.wire ∧
      10 = run.cmdSession ∧ run.TakenInOrder := by
  have hrun := exec_run playback (runServiceConnection ⟨3, false⟩)
    (phase3Script (responseTo CAPEX_PROFILE [1]) (some ⟨1, 0, [6, 0]⟩)
      (responseTo SERVICE_PROFILE [10, 11, 12]))
  have hresult : (exec playback (runServiceConnection ⟨3, false⟩)
      (phase3Script (responseTo CAPEX_PROFILE [1]) (some ⟨1, 0, [6, 0]⟩)
        (responseTo SERVICE_PROFILE [10, 11, 12]))).result = .ok (some 10) := by
    decide +kernel
  rw [hresult] at hrun
  obtain ⟨run, hw, hid, htaken, -⟩ := responses_taken_in_order hrun
  exact ⟨run, hw, hid, htaken⟩

/-- Two responses to nobody's request, and services of another session. -/
def strayScript : Script :=
  phase3Script (responseTo "/other" [1])
    (some ⟨77, 0, [2, 1, 0, 1, 0, 0, 0x3B, 0, 1, 0, 5] ++ terminated SERVICE_PROFILE ++
      [1, 0, 2, 0, 10]⟩) (responseTo "/other" [10])

/-- The ids are taken though nothing that was read repeats either profile id, and the services did
not come on the session that was queried. -/
theorem stray_responses_taken : ∃ t query request,
    Run (runServiceConnection ⟨3, false⟩) t (.ok (some 10)) ∧ (∀ e ∈ t, e.2.isOk = true) ∧
    makeCapexQuery 2 0 [] = .ok query ∧ .sent query 1 ∈ wire t ∧
    makeServiceConnectionRequest SERVICE_PROFILE serviceChannels 0 5 = .ok request ∧
    .sent request DEFAULT_SESSION ∈ wire t ∧
    ∀ frame ∈ framesRead t, ¬Echoes SERVICE_PROFILE frame ∧ ¬Echoes CAPEX_PROFILE frame ∧
      (IsCapexResponse frame → frame.sessionId ≠ 1) := by
  have hrun := exec_run playback (runServiceConnection ⟨3, false⟩) strayScript
  have hresult : (exec playback (runServiceConnection ⟨3, false⟩) strayScript).result =
      .ok (some 10) := by decide +kernel
  rw [hresult] at hrun
  refine ⟨_, (makeCapexQuery 2 0 []).toOption.getD [],
    (makeServiceConnectionRequest SERVICE_PROFILE serviceChannels 0 5).toOption.getD [], hrun, ?_⟩
  decide +kernel

end Gear360
