import Gear360.HandlerShapes

namespace Gear360

open Interaction
open Interaction.Prog (perform fromResult)
open Session

section
variable (jsonLoads : Bytes → Option Json)

/-- The URL field of a `device-desc-url` message, empty if the message has none. -/
def messageUrl (read : Option SlpFrame) : Option Json :=
  read.bind fun frame => (messageProps jsonLoads "device-desc-url" frame.payload).map fun props =>
    nestedField props "url" "description"

/-- The value, the properties and the fields that are looked into are dictionaries. -/
def WellShaped (payload : Bytes) : Prop :=
  ∀ value, jsonLoads (appData payload) = some value →
    value.isObj = true ∧ (properties value).isObj = true ∧
      (((properties value).field "msgId" (.strOf "")).isStr "cmd-req" = true →
        ((properties value).field "action" (.obj [])).isObj = true) ∧
      (((properties value).field "msgId" (.strOf "")).isStr "device-desc-url" = true →
        ((properties value).field "url" (.obj [])).isObj = true)

/-- A message carries a URL that is not empty, or a probe finds one. -/
def Findable (reads : List (Option SlpFrame)) (probes : List (Option PyStr)) : Prop :=
  (∃ read ∈ reads, ∃ url, messageUrl jsonLoads read = some url ∧ url.truthy = true) ∨
    ∃ url, some url ∈ probes ∧ url ≠ []

/-- Every echo that is due before the first `device-desc-url` message fits a frame. -/
def EchoesFit (reads : List (Option SlpFrame)) : Prop :=
  ∀ frame, some frame ∈ reads.takeWhile (fun read => (messageUrl jsonLoads read).isNone) →
    echoFits jsonLoads frame.payload = true

/-- The first `device-desc-url` message, if there is one, carries a URL that is not empty. -/
def FirstUrlUsable (reads : List (Option SlpFrame)) : Prop :=
  ∀ url, reads.findSome? (messageUrl jsonLoads) = some url → url.truthy = true

/-- What discovery makes of the reads and the probes. -/
def discovered (reads : List (Option SlpFrame)) (probes : List (Option PyStr)) : Option Json :=
  (reads.findSome? (messageUrl jsonLoads)).or
    ((probes.findSome? (Option.filter (· ≠ []))).map .str)

end

/-- The answers to the reads of a run. -/
def readAnswers (t : List SessionEvent) : List (Except PyErr (Option SlpFrame)) :=
  t.filterMap fun
    | ⟨.readSlpFrame _ _, x⟩ => some x
    | _ => none

/-- The outcomes of the SSDP probes of a run. -/
def probeAnswers (t : List SessionEvent) : List (Except PyErr (Option PyStr)) :=
  t.filterMap fun
    | ⟨.ssdpProbe _, x⟩ => some x
    | _ => none

theorem answers_replies {α : Type} {session : SapSession} {p : Session α}
    (hp : Performs (SessionOp.Replies session) p) {t : List SessionEvent} {r : Except PyErr α}
    (h : Run p t r) :
    readAnswers t = [] ∧ probeAnswers t = [] := by
  constructor
  · refine Performs.filterMap_eq_nil (hp.mono fun o ho x => ?_) h
    cases o <;> first | rfl | cases ho
  · refine Performs.filterMap_eq_nil (hp.mono fun o ho x => ?_) h
    cases o <;> first | rfl | cases ho

theorem Json.field_of_get {value field : Json} {key : String} {default : Json}
    (h : value.get key default = .ok field) : field = value.field key default := by
  rw [Json.field, h]
  rfl

section
variable {jsonLoads : Bytes → Option Json} {session : SapSession} {cmdSession : ℕ}

/-- What the handler returns is the id and the properties of the message. -/
theorem handleBtMessage_yields (msg : Bytes) :
    Yields wireEvent (handleBtMessage jsonLoads session cmdSession msg)
      (fun _ message => message = (btMessage jsonLoads msg).getD (.null, .obj [])) := by
  have hany {α : Type} (p : Session α) : Yields wireEvent p (fun _ _ => True) :=
    ⟨fun _ _ _ => trivial⟩
  unfold handleBtMessage btMessage
  -- no text to parse, then a message: what is sent on the way does not matter here
  split
  · rename_i h
    rw [h]
    split_ifs
    · exact (hany _).bind fun _ _ _ => yields_ret rfl
    · exact yields_ret rfl
  · rename_i value h
    rw [h]
    apply (yields_fromResult (L := fun _ props => props = properties value)
      fun props hprops => Json.field_of_get hprops).bind
    rintro - props rfl
    apply (yields_fromResult
      (L := fun _ msgId => msgId = (properties value).field "msgId" (.strOf ""))
      fun msgId hmsgId => Json.field_of_get hmsgId).bind
    rintro - msgId rfl
    split_ifs
    · exact (hany _).bind fun _ _ _ => (hany _).bind fun _ _ _ => yields_ret rfl
    · exact (hany _).bind fun _ _ _ => yields_ret rfl
    · exact (hany _).bind fun _ _ _ => (hany _).bind fun _ _ _ => (hany _).bind fun _ _ _ =>
        yields_ret rfl
    · exact yields_ret rfl

theorem handleable_iff {payload : Bytes} (h : WellShaped jsonLoads payload) :
    Handleable jsonLoads payload ↔ echoFits jsonLoads payload = true := by
  rw [echoFits, messageProps, btMessage]
  cases hvalue : jsonLoads (appData payload) with
  | none =>
    refine iff_of_true (fun value hv => ?_) rfl
    rw [hvalue] at hv
    cases hv
  | some value =>
    -- the shape settles everything but the length of the echo
    obtain ⟨hobj, hprops, haction, -⟩ := h value hvalue
    rw [Option.map_some, Option.bind_some]
    constructor
    · intro hhandle
      obtain ⟨-, -, hcmd⟩ := hhandle value hvalue
      split_ifs with hid
      · exact decide_eq_true (hcmd hid).2
      · rfl
    · intro hfits value' hvalue'
      rw [hvalue] at hvalue'
      cases hvalue'
      refine ⟨hobj, hprops, fun hid => ⟨haction hid, ?_⟩⟩
      rw [if_pos hid] at hfits
      exact of_decide_eq_true hfits

/-- The handler returns the message, or raises over an echo that does not fit. -/
theorem run_handleBtMessage {payload : Bytes} (hshape : WellShaped jsonLoads payload)
    {t : List SessionEvent} {r : Except PyErr (Json × Json)}
    (h : Run (handleBtMessage jsonLoads session cmdSession payload) t r)
    (hok : ∀ e ∈ t, e.2.isOk = true) :
    (echoFits jsonLoads payload = true ∧
        r = .ok ((btMessage jsonLoads payload).getD (.null, .obj []))) ∨
      (echoFits jsonLoads payload = false ∧ ∃ e, r = .error e) := by
  -- a well-shaped message can only fail over its echo
  by_cases hfits : echoFits jsonLoads payload = true
  · obtain ⟨message, rfl⟩ := handleBtMessage_steady ((handleable_iff hshape).mpr hfits) t r h hok
    exact .inl ⟨hfits, congrArg Except.ok ((handleBtMessage_yields payload).run t message h)⟩
  · refine .inr ⟨Bool.eq_false_iff.mpr hfits, ?_⟩
    exact handleBtMessage_raises (fun hh => hfits ((handleable_iff hshape).mp hh)) t r h hok

/-- What follows a message is told what it said, and has the rest of the reads and probes to
itself. -/
theorem run_message {α : Type} {payload : Bytes} (hshape : WellShaped jsonLoads payload)
    {f : Json × Json → Session α} {t : List SessionEvent} {r : Except PyErr α}
    (h : Run (handleBtMessage jsonLoads session cmdSession payload >>= f) t r)
    (hok : ∀ e ∈ t, e.2.isOk = true) :
    (echoFits jsonLoads payload = true ∧ ∃ u,
        Run (f ((btMessage jsonLoads payload).getD (.null, .obj []))) u r ∧
        readAnswers u = readAnswers t ∧ probeAnswers u = probeAnswers t ∧
        ∀ e ∈ u, e.2.isOk = true) ∨
      (echoFits jsonLoads payload = false ∧ ∃ e, r = .error e) := by
  rcases run_bind_cases h with ⟨e, he, rfl⟩ | ⟨t₁, message, u, h₁, h₂, rfl⟩
  · rcases run_handleBtMessage hshape he hok with ⟨-, he⟩ | ⟨hfits, -⟩
    · cases he
    · exact .inr ⟨hfits, e, rfl⟩
  · obtain ⟨hok₁, hok₂⟩ := List.forall_mem_append.mp hok
    rcases run_handleBtMessage hshape h₁ hok₁ with ⟨hfits, hmessage⟩ | ⟨-, e, he⟩
    · cases hmessage
      -- the replies are neither reads nor probes
      obtain ⟨hread, hprobe⟩ :=
        answers_replies (handleBtMessage_replies jsonLoads cmdSession _).performs h₁
      refine .inl ⟨hfits, u, h₂, ?_, ?_, hok₂⟩
      · rw [readAnswers, readAnswers, List.filterMap_append]
        exact (congrArg (· ++ _) hread).symm
      · rw [probeAnswers, probeAnswers, List.filterMap_append]
        exact (congrArg (· ++ _) hprobe).symm
    · cases he

/-- The URL of a message can be looked up. -/
theorem nested_url {frame : SlpFrame} (hshape : WellShaped jsonLoads frame.payload) {url : Json}
    (h : messageUrl jsonLoads (some frame) = some url) :
    nested ((btMessage jsonLoads frame.payload).getD (.null, .obj [])).2 "url" "description" =
      .ok url := by
  rw [messageUrl, Option.bind_some, messageProps, btMessage] at h
  rw [btMessage]
  cases hvalue : jsonLoads (appData frame.payload) with
  | none =>
    rw [hvalue] at h
    cases h
  | some value =>
    obtain ⟨-, hprops, -, hurl⟩ := hshape value hvalue
    rw [hvalue, Option.map_some, Option.bind_some] at h
    split_ifs at h with hid
    · cases h
      rw [Option.map_some, Option.getD_some, nested, Json.get_of_isObj hprops]
      exact Json.get_of_isObj (hurl hid) "description" (.strOf "")
    · cases h

/-- A message whose echo does not fit is no `device-desc-url` message. -/
theorem messageUrl_of_not_echoFits {frame : SlpFrame}
    (h : echoFits jsonLoads frame.payload = false) : messageUrl jsonLoads (some frame) = none := by
  rw [messageUrl, Option.bind_some, Option.map_eq_none_iff, messageProps]
  cases hmessage : btMessage jsonLoads frame.payload with
  | none => rfl
  | some message =>
    rw [Option.bind_some]
    by_cases hid : message.1.isStr "device-desc-url" = true
    · rw [echoFits_other hmessage hid (by decide)] at h
      cases h
    · rw [if_neg hid]

theorem echoesFit_stop {read : Option SlpFrame} {url : Json} (reads : List (Option SlpFrame))
    (h : messageUrl jsonLoads read = some url) : EchoesFit jsonLoads (read :: reads) := by
  intro frame hframe
  rw [List.takeWhile_cons_of_neg (by simp [h])] at hframe
  cases hframe

theorem echoesFit_cons {read : Option SlpFrame} {reads : List (Option SlpFrame)}
    (h : messageUrl jsonLoads read = none) : EchoesFit jsonLoads (read :: reads) ↔
      (∀ frame, read = some frame → echoFits jsonLoads frame.payload = true) ∧
        EchoesFit jsonLoads reads := by
  rw [EchoesFit, List.takeWhile_cons_of_pos (by simp [h])]
  constructor
  · intro hfit
    exact ⟨fun frame hframe => hfit frame (hframe ▸ List.mem_cons_self),
      fun frame hframe => hfit frame (List.mem_cons_of_mem _ hframe)⟩
  · rintro ⟨hfirst, hrest⟩ frame hframe
    rcases List.mem_cons.mp hframe with hframe | hframe
    · exact hfirst frame hframe.symm
    · exact hrest frame hframe

/-- The Bluetooth wait returns what the first `device-desc-url` message says, or raises over an
echo before it that does not fit. -/
theorem waitDeviceUrl_run {reads : List (Option SlpFrame)}
    (hshape : ∀ frame, some frame ∈ reads → WellShaped jsonLoads frame.payload)
    {t : List SessionEvent} {r : Except PyErr (Option Json)}
    (h : Run (waitDeviceUrl jsonLoads session cmdSession reads.length) t r)
    (hok : ∀ e ∈ t, e.2.isOk = true) (hreads : readAnswers t <+: reads.map .ok) :
    (EchoesFit jsonLoads reads ∧ probeAnswers t = [] ∧
        r = .ok (reads.findSome? (messageUrl jsonLoads))) ∨
      (¬EchoesFit jsonLoads reads ∧ ∃ e, r = .error e) := by
  induction reads generalizing t with
  | nil =>
    obtain ⟨rfl, rfl⟩ := run_ret_iff.mp h
    exact .inl ⟨fun _ hframe => (nomatch hframe), rfl, rfl⟩
  | cons read reads ih =>
    obtain ⟨answer, u, rfl, hturn, hoku⟩ := run_answered h hok
    obtain ⟨hanswer, hrest⟩ := List.cons_prefix_cons.mp hreads
    cases hanswer
    -- a turn that does not end the wait leaves the rest of the reads to the next ones
    have hnext {t' : List SessionEvent} (hshift : readAnswers t' = readAnswers u)
        (hprobes : probeAnswers t' = probeAnswers u)
        (hrun : Run (waitDeviceUrl jsonLoads session cmdSession reads.length) t' r)
        (hok' : ∀ e ∈ t', e.2.isOk = true) (hnone : messageUrl jsonLoads read = none)
        (hfits : ∀ frame, read = some frame → echoFits jsonLoads frame.payload = true) :
        (EchoesFit jsonLoads (read :: reads) ∧ probeAnswers u = [] ∧
            r = .ok ((read :: reads).findSome? (messageUrl jsonLoads))) ∨
          (¬EchoesFit jsonLoads (read :: reads) ∧ ∃ e, r = .error e) := by
      have hcons : EchoesFit jsonLoads (read :: reads) ↔ EchoesFit jsonLoads reads :=
        (echoesFit_cons hnone).trans (and_iff_right hfits)
      rw [hcons, List.findSome?_cons, hnone, ← hprobes]
      exact ih (fun frame hframe => hshape frame (List.mem_cons_of_mem _ hframe)) hrun hok'
        (hshift ▸ hrest)
    match read with
    | none => exact hnext rfl rfl hturn hoku rfl (fun _ hframe => nomatch hframe)
    | some frame =>
      have hshaped := hshape frame List.mem_cons_self
      rcases run_message hshaped hturn hoku with ⟨hfits, v, hv, hreadv, hprobev, hokv⟩ | ⟨hfits, he⟩
      · have hprops := messageProps_getD jsonLoads "device-desc-url" frame.payload
        have hurl : messageUrl jsonLoads (some frame) = (messageProps jsonLoads "device-desc-url"
            frame.payload).map fun props => nestedField props "url" "description" := rfl
        dsimp only at hv
        split_ifs at hv with hid
        -- the first `device-desc-url` message ends the wait, whatever its URL is
        · rw [if_pos hid] at hprops
          rw [hprops, Option.map_some] at hurl
          rw [nested_url hshaped hurl] at hv
          obtain ⟨rfl, rfl⟩ := run_ret_iff.mp hv
          refine .inl ⟨echoesFit_stop reads hurl, hprobev.symm, ?_⟩
          rw [List.findSome?_cons, hurl]
        · rw [if_neg hid] at hprops
          rw [hprops, Option.map_none] at hurl
          apply hnext hreadv hprobev hv hokv hurl
          rintro _ ⟨⟩
          exact hfits
      · refine .inr ⟨fun hall => ?_, he⟩
        have hfit := ((echoesFit_cons (messageUrl_of_not_echoFits hfits)).mp hall).1 frame rfl
        rw [hfits] at hfit
        cases hfit

/-- The probes return the first URL that is not empty. -/
theorem probeSsdp_run {cameraIp : PyStr} {probes : List (Option PyStr)} {t : List SessionEvent}
    {r : Except PyErr (Option Json)} (h : Run (probeSsdp cameraIp probes.length) t r)
    (hok : ∀ e ∈ t, e.2.isOk = true) (hprobes : probeAnswers t <+: probes.map .ok) :
    r = .ok ((probes.findSome? (Option.filter (· ≠ []))).map .str) := by
  induction probes generalizing t with
  | nil =>
    obtain ⟨rfl, rfl⟩ := run_ret_iff.mp h
    rfl
  | cons probe probes ih =>
    obtain ⟨answer, u, rfl, hturn, hoku⟩ := run_answered h hok
    obtain ⟨hanswer, hrest⟩ := List.cons_prefix_cons.mp hprobes
    cases hanswer
    match probe with
    | none => exact ih hturn hoku hrest
    | some url =>
      dsimp only at hturn
      -- an empty location is probed again
      split_ifs at hturn with hempty
      · rw [List.findSome?_cons, Option.filter_some_neg (by simpa using hempty)]
        exact ih hturn hoku hrest
      · obtain ⟨-, rfl⟩ := run_ret_iff.mp hturn
        rw [List.findSome?_cons, Option.filter_some_pos (by simpa using hempty)]
        rfl

theorem waitDeviceUrl_propagates (attempts : ℕ) :
    Propagates (fun _ => True) (waitDeviceUrl jsonLoads session cmdSession attempts) := by
  induction attempts with
  | zero => exact propagates_ret _ _
  | succ attempts ih =>
    apply propagates_bind (propagates_perform trivial)
    intro answer
    match answer with
    | none => exact ih
    | some frame =>
      apply propagates_bind ((handleBtMessage_replies jsonLoads cmdSession _).mono fun _ _ h =>
        ⟨fun _ _ => trivial, h.2⟩)
      intro message
      dsimp only
      split_ifs
      · exact propagates_bind (propagates_fromResult _ _) fun _ => propagates_ret _ _
      · exact ih

theorem probeSsdp_propagates (cameraIp : PyStr) (attempts : ℕ) :
    Propagates (fun _ => True) (probeSsdp cameraIp attempts) := by
  induction attempts with
  | zero => exact propagates_ret _ _
  | succ attempts ih =>
    apply propagates_bind (propagates_perform trivial)
    intro found
    match found with
    | none => exact ih
    | some url =>
      dsimp only
      split_ifs
      · exact ih
      · exact propagates_ret _ _

/-- A URL is returned only by a run in which nothing failed. -/
theorem discoverDeviceUrl_propagates (cameraIp : PyStr) :
    Propagates (fun _ => True) (discoverDeviceUrl jsonLoads session cmdSession cameraIp) := by
  apply propagates_bind (waitDeviceUrl_propagates 50)
  intro found
  match found with
  | none => exact probeSsdp_propagates cameraIp 5
  | some url => exact propagates_ret _ _

/-- Without a failure, discovery returns the URL of the first `device-desc-url` message, or the
first URL that a probe finds, unless an echo does not fit. -/
theorem discoverDeviceUrl_run {cameraIp : PyStr} {reads : List (Option SlpFrame)}
    {probes : List (Option PyStr)} (hreads : reads.length = 50) (hprobes : probes.length = 5)
    (hshape : ∀ frame, some frame ∈ reads → WellShaped jsonLoads frame.payload)
    {t : List SessionEvent} {r : Except PyErr (Option Json)}
    (h : Run (discoverDeviceUrl jsonLoads session cmdSession cameraIp) t r)
    (hok : ∀ e ∈ t, e.2.isOk = true) (hread : readAnswers t <+: reads.map .ok)
    (hprobe : probeAnswers t <+: probes.map .ok) :
    (EchoesFit jsonLoads reads ∧ r = .ok (discovered jsonLoads reads probes)) ∨
      (¬EchoesFit jsonLoads reads ∧ ∃ e, r = .error e) := by
  rw [discoverDeviceUrl, ← hreads] at h
  -- the reads of the wait are the first ones of the run
  have hwait {t' : List SessionEvent} {r' : Except PyErr (Option Json)}
      (h' : Run (waitDeviceUrl jsonLoads session cmdSession reads.length) t' r')
      {t'' : List SessionEvent} (ht : t = t' ++ t'') :=
    waitDeviceUrl_run hshape h' (fun e he => hok e (ht ▸ List.mem_append_left _ he)) (by
      rw [ht, readAnswers, List.filterMap_append] at hread
      exact (List.prefix_append _ _).trans hread)
  rcases run_bind_cases h with ⟨e, he, rfl⟩ | ⟨t₁, found, t₂, h₁, h₂, rfl⟩
  · rcases hwait he (List.append_nil t).symm with ⟨-, -, he⟩ | ⟨hfits, -⟩
    · cases he
    · exact .inr ⟨hfits, e, rfl⟩
  · rcases hwait h₁ rfl with ⟨hfits, hquiet, hfound⟩ | ⟨-, e, he⟩
    · refine .inl ⟨hfits, ?_⟩
      cases hfound
      rw [discovered]
      cases hfirst : reads.findSome? (messageUrl jsonLoads) with
      | some url =>
        rw [hfirst] at h₂
        rw [(run_ret_iff.mp h₂).2]
        rfl
      | none =>
        rw [hfirst] at h₂
        rw [probeAnswers, List.filterMap_append] at hprobe
        -- the wait asked no probe, so all answers are left for the loop behind it
        have hlater : probeAnswers t₂ <+: probes.map .ok := by
          have hnil : List.filterMap _ t₁ = [] := hquiet
          rwa [hnil, List.nil_append] at hprobe
        rw [← hprobes] at h₂
        exact probeSsdp_run h₂ (fun e he => hok e (List.mem_append_right _ he)) hlater
    · cases he

/-- Discovery returns a URL that is not empty, where there is one to find, exactly if nothing
fails on the way, no echo is too long, and the first `device-desc-url` message has its URL. -/
theorem discoverDeviceUrl_finds_iff {cameraIp : PyStr} {reads : List (Option SlpFrame)}
    {probes : List (Option PyStr)} (hreads : reads.length = 50) (hprobes : probes.length = 5)
    (hshape : ∀ frame, some frame ∈ reads → WellShaped jsonLoads frame.payload)
    {t : List SessionEvent} {r : Except PyErr (Option Json)}
    (h : Run (discoverDeviceUrl jsonLoads session cmdSession cameraIp) t r)
    (hread : readAnswers t <+: reads.map .ok) (hprobe : probeAnswers t <+: probes.map .ok) :
    (Findable jsonLoads reads probes → ∃ url, r = .ok (some url) ∧ url.truthy = true) ↔
      ¬Findable jsonLoads reads probes ∨ ((∀ e ∈ t, e.2.isOk = true) ∧
        EchoesFit jsonLoads reads ∧ FirstUrlUsable jsonLoads reads) := by
  rw [← imp_iff_not_or]
  apply imp_congr_right
  intro hfind
  constructor
  · rintro ⟨url, rfl, hurl⟩
    have hok := (discoverDeviceUrl_propagates cameraIp t _ h).2 ⟨_, rfl⟩
    rcases discoverDeviceUrl_run hreads hprobes hshape h hok hread hprobe with
      ⟨hfits, hresult⟩ | ⟨-, e, he⟩
    · refine ⟨hok, hfits, fun first hfirst => ?_⟩
      rw [discovered, hfirst, Option.some_or, Except.ok.injEq, Option.some.injEq] at hresult
      rwa [← hresult]
    · cases he
  · rintro ⟨hok, hfits, husable⟩
    rcases discoverDeviceUrl_run hreads hprobes hshape h hok hread hprobe with
      ⟨-, rfl⟩ | ⟨hnot, -⟩
    · rw [discovered]
      cases hfirst : reads.findSome? (messageUrl jsonLoads) with
      | some url => exact ⟨url, rfl, husable url hfirst⟩
      | none =>
        -- no message has a URL field, so one of the probes finds a URL
        rw [List.findSome?_eq_none_iff] at hfirst
        rcases hfind with ⟨read, hmem, url, hurl, -⟩ | ⟨url, hmem, hne⟩
        · rw [hfirst read hmem] at hurl
          cases hurl
        · cases hprobed : probes.findSome? (Option.filter (· ≠ [])) with
          | none =>
            rw [List.findSome?_eq_none_iff] at hprobed
            have hnone := hprobed _ hmem
            rw [Option.filter_some_pos (by simpa using hne)] at hnone
            cases hnone
          | some url' =>
            obtain ⟨probe, -, hfilter⟩ := List.exists_of_findSome?_eq_some hprobed
            refine ⟨.str url', rfl, ?_⟩
            have hne' := (Option.filter_eq_some_iff.mp hfilter).2
            simpa [Json.truthy] using hne'
    · exact absurd hfits hnot

end

def withoutUrl : Json := sampleMessage "device-desc-url" []

def withUrl : Json :=
  sampleMessage "device-desc-url" [("url", described (.strOf "http://192.168.107.1:7676/smp_2_"))]

/-- `json.loads` of the texts of the two messages. -/
def urlLoads (data : Bytes) : Option Json :=
  [withoutUrl, withUrl].find? fun value => dumps value = data

/-- The two messages, and timeouts after them. -/
def urlReads (first second : Json) : List (Option SlpFrame) :=
  sampleFrame first :: sampleFrame second :: List.replicate 48 none

def discoverySample (first second : Json) : Outcome SessionAns PyErr Script (Option Json) :=
  exec playback (discoverDeviceUrl urlLoads ⟨3, false⟩ 204 (pyStr "192.168.107.1"))
    ⟨[], urlReads first second⟩

theorem urlLoads_wellShaped (payload : Bytes) : WellShaped urlLoads payload := by
  intro value h
  have hmem := List.mem_of_find?_eq_some h
  have hnil : (Json.obj []).isObj = true := rfl
  rcases List.mem_pair.mp hmem with rfl | rfl
  · simp [withoutUrl, properties, sampleMessage, hnil]
  · simp [withUrl, properties, sampleMessage, described, hnil]

theorem urlReads_length (first second : Json) : (urlReads first second).length = 50 := by
  simp [urlReads]

theorem messageUrl_withUrl : messageUrl urlLoads (sampleFrame withUrl) =
    some (.strOf "http://192.168.107.1:7676/smp_2_") := by
  have hdata : appData (SDK_HEADER ++ dumps withUrl) = dumps withUrl := by decide +kernel
  have hne : dumps withoutUrl ≠ dumps withUrl := by decide +kernel
  have hloads : urlLoads (dumps withUrl) = some withUrl := by simp [urlLoads, hne]
  rw [sampleFrame, messageUrl, Option.bind_some, messageProps, btMessage, hdata, hloads]
  simp [withUrl, properties, sampleMessage, described, nestedField]

theorem messageUrl_withoutUrl :
    messageUrl urlLoads (sampleFrame withoutUrl) = some (.strOf "") := by
  have hdata : appData (SDK_HEADER ++ dumps withoutUrl) = dumps withoutUrl := by decide +kernel
  have hloads : urlLoads (dumps withoutUrl) = some withoutUrl := by simp [urlLoads]
  have hnil : (Json.obj []).field "description" (.strOf "") = .strOf "" := rfl
  rw [sampleFrame, messageUrl, Option.bind_some, messageProps, btMessage, hdata, hloads]
  simp [withoutUrl, properties, sampleMessage, nestedField, hnil]

/-- Either message can come first. -/
theorem findable_sample {first second : Json} (h : withUrl = first ∨ withUrl = second) :
    Findable urlLoads (urlReads first second) (List.replicate 5 none) := by
  refine .inl ⟨sampleFrame withUrl, ?_, _, messageUrl_withUrl, by decide⟩
  rcases h with rfl | rfl
  · exact List.mem_cons_self
  · exact List.mem_cons_of_mem _ List.mem_cons_self

theorem discoverySample_run (first second : Json) :
    Run (discoverDeviceUrl urlLoads ⟨3, false⟩ 204 (pyStr "192.168.107.1"))
      (discoverySample first second).trace (discoverySample first second).result :=
  exec_run playback _ _

/-- The message with the URL comes first. -/
theorem discoverDeviceUrl_finds_iff_first :
    ∃ url, (discoverySample withUrl withoutUrl).result = .ok (some url) ∧ url.truthy = true := by
  have hsample : (∀ e ∈ (discoverySample withUrl withoutUrl).trace, e.2.isOk = true) ∧
      readAnswers (discoverySample withUrl withoutUrl).trace <+:
        (urlReads withUrl withoutUrl).map .ok ∧
      probeAnswers (discoverySample withUrl withoutUrl).trace <+:
        (List.replicate 5 none).map .ok := by decide +kernel
  obtain ⟨hok, hread, hprobe⟩ := hsample
  refine (discoverDeviceUrl_finds_iff (urlReads_length _ _) rfl
    (fun frame _ => urlLoads_wellShaped frame.payload) (discoverySample_run _ _) hread hprobe).mpr
    (.inr ⟨hok, echoesFit_stop _ messageUrl_withUrl, ?_⟩) (findable_sample (.inl rfl))
  intro url hfirst
  rw [urlReads, List.findSome?_cons, messageUrl_withUrl] at hfirst
  cases hfirst
  decide

/-- The first message has no URL, and the second one, which has, is not read. -/
theorem discoverDeviceUrl_misses : ¬ ∀ (jsonLoads : Bytes → Option Json) (session : SapSession)
    (cmdSession : ℕ) (cameraIp : PyStr) (reads : List (Option SlpFrame))
    (probes : List (Option PyStr)) (t : List SessionEvent) (r : Except PyErr (Option Json)),
    reads.length = 50 → probes.length = 5 →
    (∀ frame, some frame ∈ reads → WellShaped jsonLoads frame.payload) →
    Run (discoverDeviceUrl jsonLoads session cmdSession cameraIp) t r →
    readAnswers t <+: reads.map .ok → probeAnswers t <+: probes.map .ok →
    Findable jsonLoads reads probes → ∃ url, r = .ok (some url) ∧ url.truthy = true := by
  intro h
  have hsample : (∀ e ∈ (discoverySample withoutUrl withUrl).trace, e.2.isOk = true) ∧
      readAnswers (discoverySample withoutUrl withUrl).trace <+:
        (urlReads withoutUrl withUrl).map .ok ∧
      probeAnswers (discoverySample withoutUrl withUrl).trace <+:
        (List.replicate 5 none).map .ok := by decide +kernel
  obtain ⟨hok, hread, hprobe⟩ := hsample
  obtain ⟨url, hresult, hurl⟩ := h urlLoads _ _ _ _ _ _ _ (urlReads_length _ _) rfl
    (fun frame _ => urlLoads_wellShaped frame.payload) (discoverySample_run _ _) hread hprobe
    (findable_sample (.inr rfl))
  rcases discoverDeviceUrl_run (urlReads_length _ _) rfl
      (fun frame _ => urlLoads_wellShaped frame.payload) (discoverySample_run _ _) hok hread hprobe
    with ⟨-, hfound⟩ | ⟨hfits, -⟩
  -- the URL of the first message is the result, and it is empty
  · rw [hresult, discovered, urlReads, List.findSome?_cons, messageUrl_withoutUrl] at hfound
    cases hfound
    exact absurd hurl (by decide)
  · exact hfits (echoesFit_stop _ messageUrl_withoutUrl)

end Gear360
