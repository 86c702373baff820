import Gear360.DeviceDiscovery
import Gear360.NetworkBudget
import Gear360.Precedence
import Gear360.SessionBudget

namespace Gear360

open Interaction
open Interaction.Prog (perform fromResult)

section
variable (fromString : Bytes → Except PyErr Element) (fuel : ℕ)

/-- The functions behind the network operations of a session. -/
def network : (o : SessionOp) → Net (SessionAns o)
  | .connectToWifi ssid password => connectToWifi ssid password
  | .resolveCameraIp => resolveCameraIp
  | .ssdpProbe cameraIp => ssdpProbe fuel cameraIp
  | .fetchUpnpServices deviceUrl => do
    let services ← fetchUpnpServices fromString deviceUrl
    -- of the URLs of a service only the one for control is used
    return services.map fun service => (service.1, service.2.control)
  | .startLiveStream cameraIp services => startLiveStream fromString fuel cameraIp services
  | o => perform (NetOp.session o)

/-- `run_wifi_session`, down to the network. -/
def hostSession (jsonLoads : Bytes → Option Json) : Net Unit :=
  (runWifiSession jsonLoads).translate (network fromString fuel)

end

/-- The operations that `network` takes apart. -/
def SessionOp.isNetwork : SessionOp → Bool
  | .connectToWifi _ _ | .resolveCameraIp | .ssdpProbe _ | .fetchUpnpServices _
  | .startLiveStream _ _ => true
  | _ => false

section
variable {fromString : Bytes → Except PyErr Element} {fuel : ℕ}

theorem network_session {o : SessionOp} (h : o.isNetwork = false) :
    network fromString fuel o = perform (NetOp.session o) := by
  cases o with
  | connectToWifi _ _ | resolveCameraIp | ssdpProbe _ | fetchUpnpServices _
  | startLiveStream _ _ => cases h
  | _ => rfl

/-- An operation that is not taken apart is one event. -/
theorem run_network_session {o : SessionOp} {u : List NetEvent} {x : Except PyErr (SessionAns o)}
    (h : o.isNetwork = false) (hr : Run (network fromString fuel o) u x) :
    u = [⟨.session o, x⟩] := by
  rw [network_session h] at hr
  exact run_perform_iff.mp hr

/-- A price for the network only. -/
def offline : Prices := ⟨0, 0, 0, fun _ => 0, fun _ => 0, 1, 1, 1, 1, 1⟩

variable {jsonLoads : Bytes → Option Json} {session : SapSession} {cmdSession : ℕ} {α : Type}
  {p : Session α} {t : List SessionEvent} {x : Except PyErr α}

theorem offline_price {e : SessionEvent} (h : offline.price e = 0) : e.1.isNetwork = false := by
  obtain ⟨o, x⟩ := e
  cases o with
  | connectToWifi _ _ | resolveCameraIp | ssdpProbe _ | fetchUpnpServices _
  | startLiveStream _ _ => cases h
  | _ => rfl

/-- The read of a message with this id and these properties. -/
def Said (jsonLoads : Bytes → Option Json) (name : String) (props : Json) (e : SessionEvent) :
    Prop :=
  ∃ session timeout frame, e = ⟨.readSlpFrame session timeout, .ok (some frame)⟩ ∧
    messageProps jsonLoads name frame.payload = some props

variable (jsonLoads) in
/-- The message was read in the course of a run. -/
def Heard (name : String) (props : Json) (t : List SessionEvent) : Prop :=
  ∃ e ∈ t, Said jsonLoads name props e

theorem Heard.left {name : String} {props : Json} (h : Heard jsonLoads name props t)
    (u : List SessionEvent) : Heard jsonLoads name props (t ++ u) := by
  obtain ⟨e, he, hsaid⟩ := h
  exact ⟨e, List.mem_append_left u he, hsaid⟩

theorem Heard.right {name : String} {props : Json} (h : Heard jsonLoads name props t)
    (u : List SessionEvent) : Heard jsonLoads name props (u ++ t) := by
  obtain ⟨e, he, hsaid⟩ := h
  exact ⟨e, List.mem_append_right u he, hsaid⟩

variable (jsonLoads session cmdSession) in
/-- A turn of a wait for a message: with one of this name it is over. -/
def messageTurn (name : String) (timeout : ℕ) (again : Session α) (found : Json → Session α) :
    Session α := do
  match ← Session.readSlpFrame session timeout with
  | none => again
  | some frame =>
    let (msgId, props) ← handleBtMessage jsonLoads session cmdSession frame.payload
    if msgId.isStr name then found props else again

/-- A turn goes on, or the message was heard. -/
theorem run_messageTurn {name : String} {timeout : ℕ} {again : Session α} {found : Json → Session α}
    {a : α}
    (hr : Run (messageTurn jsonLoads session cmdSession name timeout again found) t (.ok a)) :
    ∃ u v, t = u ++ v ∧ (Run again v (.ok a) ∨
      ∃ props, Heard jsonLoads name props u ∧ Run (found props) v (.ok a)) := by
  rcases run_bind_cases hr with ⟨e, -, hbad⟩ | ⟨u, answer, v, hu, hv, rfl⟩
  · cases hbad
  rw [run_perform_iff.mp hu]
  cases answer with
  | none => exact ⟨_, v, rfl, .inl hv⟩
  | some frame =>
    rcases run_bind_cases hv with ⟨e, -, hbad⟩ | ⟨v, message, w, hmsg, hw, rfl⟩
    · cases hbad
    refine ⟨_ ++ v, w, (List.append_assoc _ v w).symm, ?_⟩
    have hmessage := (handleBtMessage_yields frame.payload).run v message hmsg
    have hprops := messageProps_getD jsonLoads name frame.payload
    rw [← hmessage] at hprops
    simp only at hw
    split_ifs at hw with hname
    · rw [if_pos hname] at hprops
      exact .inr ⟨message.2, ⟨_, List.mem_append_left v (List.mem_singleton_self _), session,
        timeout, frame, rfl, hprops⟩, hw⟩
    · exact .inl hw

/-- The info wait gives the credentials of a message that was heard. -/
theorem run_waitInfo {attempts : ℕ} {info : WifiInfo}
    (hr : Run (waitInfo jsonLoads session cmdSession attempts) t (.ok (some info))) :
    ∃ props, Heard jsonLoads "info" props t ∧ wifiInfoOf props = .ok info := by
  induction attempts generalizing t with
  | zero => cases (run_ret_iff.mp hr).2
  | succ attempts ih =>
    -- a turn of the wait is a turn on messages of this name
    have hturn : waitInfo jsonLoads session cmdSession (attempts+1) =
        messageTurn jsonLoads session cmdSession "info" 3000
          (waitInfo jsonLoads session cmdSession attempts) fun props => do
            let wifiInfo ← fromResult (wifiInfoOf props)
            Session.sendSlpFrame session (SDK_HEADER ++ makeDeviceInfoAckJson) cmdSession
            return some wifiInfo := rfl
    rw [hturn] at hr
    obtain ⟨u, v, rfl, hagain | ⟨props, hheard, hfound⟩⟩ := run_messageTurn hr
    · obtain ⟨props, hheard, hinfo⟩ := ih hagain
      exact ⟨props, hheard.right u, hinfo⟩
    · refine ⟨props, hheard.left v, ?_⟩
      rcases run_fromResult_bind_cases hfound with ⟨e, -, -, hbad⟩ | ⟨info', hinfo, hw⟩
      · cases hbad
      rcases run_bind_cases hw with ⟨e, -, hbad⟩ | ⟨_, _, _, -, hret, -⟩
      · cases hbad
      · cases (run_ret_iff.mp hret).2
        exact hinfo

/-- The wait for the device URL gives what a message says that was heard. -/
theorem run_waitDeviceUrl {attempts : ℕ} {url : Json}
    (hr : Run (waitDeviceUrl jsonLoads session cmdSession attempts) t (.ok (some url))) :
    ∃ props, Heard jsonLoads "device-desc-url" props t ∧
      nested props "url" "description" = .ok url := by
  induction attempts generalizing t with
  | zero => cases (run_ret_iff.mp hr).2
  | succ attempts ih =>
    have hturn : waitDeviceUrl jsonLoads session cmdSession (attempts+1) =
        messageTurn jsonLoads session cmdSession "device-desc-url" 200
          (waitDeviceUrl jsonLoads session cmdSession attempts) fun props => do
            let deviceUrl ← fromResult (nested props "url" "description")
            return some deviceUrl := rfl
    rw [hturn] at hr
    obtain ⟨u, v, rfl, hagain | ⟨props, hheard, hfound⟩⟩ := run_messageTurn hr
    · obtain ⟨props, hheard, hurl⟩ := ih hagain
      exact ⟨props, hheard.right u, hurl⟩
    · refine ⟨props, hheard.left v, ?_⟩
      rcases run_fromResult_bind_cases hfound with ⟨e, -, -, hbad⟩ | ⟨url', hurl, hw⟩
      · cases hbad
      · cases (run_ret_iff.mp hw).2
        exact hurl

theorem run_probeSsdp {cameraIp : PyStr} {attempts : ℕ} {url : Json}
    (hr : Run (probeSsdp cameraIp attempts) t (.ok (some url))) :
    ∃ found, url = .str found ∧ (⟨.ssdpProbe cameraIp, .ok (some found)⟩ : SessionEvent) ∈ t := by
  induction attempts generalizing t with
  | zero => cases (run_ret_iff.mp hr).2
  | succ attempts ih =>
    rcases run_bind_cases hr with ⟨e, -, hbad⟩ | ⟨u, answer, v, hu, hv, rfl⟩
    · cases hbad
    rw [run_perform_iff.mp hu]
    have hnext {e : SessionEvent} (h : Run (probeSsdp cameraIp attempts) v (.ok (some url))) :
        ∃ found, url = .str found ∧
          (⟨.ssdpProbe cameraIp, .ok (some found)⟩ : SessionEvent) ∈ e :: v := by
      obtain ⟨found, hurl, hmem⟩ := ih h
      exact ⟨found, hurl, List.mem_cons_of_mem _ hmem⟩
    cases answer with
    | none => exact hnext hv
    | some found =>
      simp only at hv
      split_ifs at hv
      · exact hnext hv
      · cases (run_ret_iff.mp hv).2
        exact ⟨found, rfl, List.mem_cons_self⟩

/-- Phase 4 gives the credentials of an `info` message that was heard. -/
theorem run_exchangeDeviceInfo {info : WifiInfo}
    (hr : Run (exchangeDeviceInfo jsonLoads session cmdSession) t (.ok (some info))) :
    ∃ props, Heard jsonLoads "info" props t ∧ wifiInfoOf props = .ok info := by
  have hwait : Yields some (waitInfo jsonLoads session cmdSession 30) fun t found =>
      ∀ info, found = some info →
        ∃ props, Heard jsonLoads "info" props t ∧ wifiInfoOf props = .ok info := by
    constructor
    intro t found hr info hinfo
    rw [List.filterMap_some]
    exact run_waitInfo (hinfo ▸ hr)
  have hyields : Yields some (exchangeDeviceInfo jsonLoads session cmdSession) fun t found =>
      ∀ info, found = some info →
        ∃ props, Heard jsonLoads "info" props t ∧ wifiInfoOf props = .ok info := by
    apply (yields_true _).bind
    intro w₁ _ _
    apply (yields_true _).bind
    intro w₂ _ _
    apply (yields_true _).bind
    intro w₃ _ _
    apply hwait.bind
    intro w₄ wifiInfo hheard
    -- what comes after the wait returns what was heard
    have hrest (w₅ : List SessionEvent) : Yields some (do
        drain jsonLoads session cmdSession 75
        Session.sendSlpFrame session (SDK_HEADER ++ makeCmdRequestJson "liveview") cmdSession
        waitLiveview jsonLoads session cmdSession 30
        return wifiInfo) fun w found => ∀ info, found = some info → ∃ props,
          Heard jsonLoads "info" props (w₁ ++ (w₂ ++ (w₃ ++ (w₄ ++ (w₅ ++ w))))) ∧
            wifiInfoOf props = .ok info := by
      refine (yields_true _).bind fun _ _ _ => (yields_true _).bind fun _ _ _ =>
        (yields_true _).bind fun _ _ _ => yields_ret fun info hinfo => ?_
      obtain ⟨props, hprops, hok⟩ := hheard info hinfo
      exact ⟨props, (((hprops.left _).right w₃).right w₂).right w₁, hok⟩
    simp only
    split_ifs
    · exact (yields_true _).bind fun w₅ _ _ => hrest w₅
    · exact hrest []
  have hlaw := hyields.run t (some info) hr
  rw [List.filterMap_some] at hlaw
  exact hlaw info rfl

/-- The network that an `info` message means: that of the access point, if it has one. -/
def WifiInfo.ssid (info : WifiInfo) : Json :=
  if info.softapSsid.truthy then info.softapSsid else info.wifiSsid

/-- What entitles a session to a network operation. -/
inductive Licenses (jsonLoads : Bytes → Option Json) : SessionEvent → SessionOp → Prop where
  | heardInfo {props : Json} {info : WifiInfo} {e : SessionEvent}
      (hsaid : Said jsonLoads "info" props e)
      (hinfo : wifiInfoOf props = .ok info) :
      Licenses jsonLoads e (.connectToWifi info.ssid info.softapPw)
  | joined (ssid password : Json) :
      Licenses jsonLoads ⟨.connectToWifi ssid password, .ok true⟩ .resolveCameraIp
  | resolved (cameraIp : PyStr) :
      Licenses jsonLoads ⟨.resolveCameraIp, .ok cameraIp⟩ (.ssdpProbe cameraIp)
  | heardUrl {props url : Json} {e : SessionEvent}
      (hsaid : Said jsonLoads "device-desc-url" props e)
      (hurl : nested props "url" "description" = .ok url) :
      Licenses jsonLoads e (.fetchUpnpServices url)
  | probed (cameraIp found : PyStr) :
      Licenses jsonLoads ⟨.ssdpProbe cameraIp, .ok (some found)⟩ (.fetchUpnpServices (.str found))
  | fetched (url : Json) (cameraIp : PyStr) (services : List (PyStr × PyStr)) :
      Licenses jsonLoads ⟨.fetchUpnpServices url, .ok services⟩ (.startLiveStream cameraIp services)

def Authenticated (t : List SessionEvent) : Prop :=
  ∃ confirm, (⟨.verifyConfirm confirm, .ok true⟩ : SessionEvent) ∈ t

def WifiJoined (t : List SessionEvent) : Prop :=
  ∃ ssid password, (⟨.connectToWifi ssid password, .ok true⟩ : SessionEvent) ∈ t

/-- The address of the camera, for an operation that uses it. -/
def SessionOp.address : SessionOp → Option PyStr
  | .ssdpProbe cameraIp | .startLiveStream cameraIp _ => some cameraIp
  | _ => none

def Resolved (t : List SessionEvent) (cameraIp : PyStr) : Prop :=
  (⟨.resolveCameraIp, .ok cameraIp⟩ : SessionEvent) ∈ t

variable (jsonLoads) in
/-- What a network operation needs of the history. -/
structure Licence (t : List SessionEvent) (o : SessionOp) : Prop where
  authenticated : Authenticated t
  entitled : ∃ e ∈ t, Licenses jsonLoads e o
  joined : (∃ ssid password, o = .connectToWifi ssid password) ∨ WifiJoined t
  resolved : ∀ cameraIp, o.address = some cameraIp → Resolved t cameraIp

variable (jsonLoads) in
def Licensed (t : List SessionEvent) (e : SessionEvent) : Prop :=
  e.1.isNetwork = true → Licence jsonLoads t e.1

theorem Authenticated.left (h : Authenticated t) (u : List SessionEvent) :
    Authenticated (t ++ u) := by
  obtain ⟨confirm, hmem⟩ := h
  exact ⟨confirm, List.mem_append_left u hmem⟩

theorem WifiJoined.left (h : WifiJoined t) (u : List SessionEvent) : WifiJoined (t ++ u) := by
  obtain ⟨ssid, password, hmem⟩ := h
  exact ⟨ssid, password, List.mem_append_left u hmem⟩

/-- What keeps off the network needs no licence. -/
theorem licensed_offline (hp : Costs offline.price 0 p) : Warrants (Licensed jsonLoads) t p := by
  rintro u x hr front e back rfl hnetwork
  have hfree := hp.free _ x hr e (List.mem_append_right front List.mem_cons_self)
  rw [offline_price hfree] at hnetwork
  cases hnetwork

theorem licensed_perform {o : SessionOp} (h : Licence jsonLoads t o) :
    Warrants (Licensed jsonLoads) t (perform o : Session (SessionAns o)) :=
  warrants_perform fun _ _ => h

theorem licensed_probeSsdp {cameraIp : PyStr} (hauth : Authenticated t) (hjoined : WifiJoined t)
    (hresolved : Resolved t cameraIp) (attempts : ℕ) :
    Warrants (Licensed jsonLoads) t (probeSsdp cameraIp attempts) := by
  induction attempts generalizing t with
  | zero => exact warrants_ret _
  | succ attempts ih =>
    have hlicence : Licence jsonLoads t (.ssdpProbe cameraIp) :=
      ⟨hauth, ⟨_, hresolved, .resolved cameraIp⟩, .inr hjoined,
        fun _ h => Option.some.inj h ▸ hresolved⟩
    apply warrants_bind (licensed_perform hlicence)
    intro u found _
    have hnext : Warrants (Licensed jsonLoads) (t ++ u) (probeSsdp cameraIp attempts) :=
      ih (hauth.left u) (hjoined.left u) (List.mem_append_left u hresolved)
    cases found with
    | none => exact hnext
    | some deviceUrl =>
      simp only
      split_ifs
      · exact hnext
      · exact warrants_ret _

theorem licensed_discoverDeviceUrl {cameraIp : PyStr} (hauth : Authenticated t)
    (hjoined : WifiJoined t)
    (hresolved : Resolved t cameraIp) :
    Warrants (Licensed jsonLoads) t (discoverDeviceUrl jsonLoads session cmdSession cameraIp) := by
  apply warrants_bind (licensed_offline (offline.waitDeviceUrl_costs jsonLoads 50))
  intro u found _
  cases found with
  | some deviceUrl => exact warrants_ret _
  | none =>
    exact licensed_probeSsdp (hauth.left u) (hjoined.left u) (List.mem_append_left u hresolved) 5

/-- A device URL comes from a message or a probe. -/
theorem run_discoverDeviceUrl {cameraIp : PyStr} {url : Json}
    (hr : Run (discoverDeviceUrl jsonLoads session cmdSession cameraIp) t (.ok (some url))) :
    ∃ e ∈ t, Licenses jsonLoads e (.fetchUpnpServices url) := by
  rcases run_bind_cases hr with ⟨e, -, hbad⟩ | ⟨u, found, v, hu, hv, rfl⟩
  · cases hbad
  cases found with
  | some deviceUrl =>
    cases (run_ret_iff.mp hv).2
    obtain ⟨props, ⟨e, he, hsaid⟩, hurl⟩ := run_waitDeviceUrl hu
    exact ⟨e, List.mem_append_left v he, .heardUrl hsaid hurl⟩
  | none =>
    obtain ⟨found, rfl, hmem⟩ := run_probeSsdp hv
    exact ⟨_, List.mem_append_right u hmem, .probed cameraIp found⟩

variable (jsonLoads session cmdSession) in
/-- Phases 6 and 7, and the address before them. -/
def findAndStream : Session Unit := do
  let cameraIp ← perform SessionOp.resolveCameraIp
  match ← discoverDeviceUrl jsonLoads session cmdSession cameraIp with
  | none => Session.logError "No device URL found"
  | some deviceUrl =>
    if !deviceUrl.truthy then
      Session.logError "No device URL found"
    else
      let services ← perform (SessionOp.fetchUpnpServices deviceUrl)
      perform (SessionOp.startLiveStream cameraIp services)

theorem licensed_findAndStream {ssid password : Json} (hauth : Authenticated t)
    (hjoin : (⟨.connectToWifi ssid password, .ok true⟩ : SessionEvent) ∈ t) :
    Warrants (Licensed jsonLoads) t (findAndStream jsonLoads session cmdSession) := by
  have hjoined : WifiJoined t := ⟨ssid, password, hjoin⟩
  apply warrants_bind (licensed_perform
    ⟨hauth, ⟨_, hjoin, .joined ssid password⟩, .inr hjoined, nofun⟩)
  intro u cameraIp hrun
  obtain rfl := run_perform_iff.mp hrun
  replace hauth := hauth.left [⟨.resolveCameraIp, .ok cameraIp⟩]
  replace hjoined := hjoined.left [⟨.resolveCameraIp, .ok cameraIp⟩]
  have hresolved : Resolved (t ++ [⟨.resolveCameraIp, .ok cameraIp⟩]) cameraIp :=
    List.mem_append_right t List.mem_cons_self
  -- each operation is licensed by the history up to it, which grows by what the last one did
  apply warrants_bind (licensed_discoverDeviceUrl hauth hjoined hresolved)
  intro v found hrun
  replace hauth := hauth.left v
  replace hjoined := hjoined.left v
  replace hresolved := List.mem_append_left v hresolved
  cases found with
  | none => exact licensed_offline (offline.logError_free _)
  | some url =>
    -- the URL came from a message or from a probe, and either licenses the fetch
    obtain ⟨e, he, hlicense⟩ := run_discoverDeviceUrl hrun
    replace he := List.mem_append_right (t ++ [⟨.resolveCameraIp, .ok cameraIp⟩]) he
    simp only
    split_ifs
    · exact licensed_offline (offline.logError_free _)
    apply warrants_bind (licensed_perform ⟨hauth, ⟨e, he, hlicense⟩, .inr hjoined, nofun⟩)
    intro w services hrun
    obtain rfl := run_perform_iff.mp hrun
    have hfetched := List.mem_append_right (t ++ [⟨.resolveCameraIp, .ok cameraIp⟩] ++ v)
      (List.mem_singleton_self (⟨.fetchUpnpServices url, .ok services⟩ : SessionEvent))
    exact licensed_perform ⟨hauth.left _, ⟨_, hfetched, .fetched url cameraIp services⟩,
      .inr (hjoined.left _), fun _ h => Option.some.inj h ▸ List.mem_append_left _ hresolved⟩

/-- Phases 5 to 7 need the message with the credentials. -/
theorem licensed_joinAndStream {info : WifiInfo} {props : Json} (hauth : Authenticated t)
    (hheard : Heard jsonLoads "info" props t) (hinfo : wifiInfoOf props = .ok info) :
    Warrants (Licensed jsonLoads) t (joinAndStream jsonLoads session cmdSession info) := by
  unfold joinAndStream
  extract_lets ssid password
  split
  · split
    · exact licensed_offline (costs_free_bind (offline.logError_free _) fun _ => costs_ret _)
    · exact warrants_ret ()
  -- the message licenses the join, and the join what comes after it
  obtain ⟨e, he, hsaid⟩ := hheard
  have hlicense : Licenses jsonLoads e (.connectToWifi ssid password) := .heardInfo hsaid hinfo
  apply warrants_bind (licensed_perform
    ⟨hauth, ⟨e, he, hlicense⟩, .inl ⟨ssid, password, rfl⟩, nofun⟩)
  intro u connected hrun
  obtain rfl := run_perform_iff.mp hrun
  split
  · exact warrants_ret ()
  rename_i hconnected
  simp only [Bool.not_eq_true, Bool.not_eq_false'] at hconnected
  subst hconnected
  have hjoin := List.mem_append_right t
    (List.mem_singleton_self (⟨.connectToWifi ssid password, .ok true⟩ : SessionEvent))
  apply warrants_bind (licensed_offline (offline.perform_costs (.sleep 2000)))
  intro v _ _
  exact licensed_findAndStream ((hauth.left _).left v) (List.mem_append_left v hjoin)

theorem licensed_runServices (hauth : Authenticated t) :
    Warrants (Licensed jsonLoads) t (runServices jsonLoads session) := by
  apply warrants_bind (licensed_offline offline.runServiceConnection_costs)
  intro u cmdSession _
  cases cmdSession with
  | none => exact warrants_ret ()
  | some cmdSession =>
    apply warrants_bind (licensed_offline (offline.exchangeDeviceInfo_costs jsonLoads))
    intro v info hrun
    cases info with
    | none => exact warrants_ret ()
    | some info =>
      obtain ⟨props, hheard, hinfo⟩ := run_exchangeDeviceInfo hrun
      exact licensed_joinAndStream ((hauth.left u).left v) (hheard.right _) hinfo

/-- Authentication succeeds with a confirmation that verifies. -/
theorem run_authenticate {challenge : Bytes}
    (hr : Run (authenticate session challenge) t (.ok true)) : Authenticated t := by
  -- an error that is reported gives False
  have hreport {text : String} {u : List SessionEvent}
      (h : Run (Session.logError text >>= fun _ => pure false) u (.ok true)) : False := by
    rcases run_bind_cases h with ⟨e, -, hbad⟩ | ⟨_, _, _, -, hret, -⟩
    · cases hbad
    · cases (run_ret_iff.mp hret).2
  rcases run_bind_cases hr with ⟨e, -, hbad⟩ | ⟨u, answer, v, -, hv, rfl⟩
  · cases hbad
  cases answer with
  | none => cases (run_ret_iff.mp hv).2
  | some response =>
    rcases run_bind_cases hv with ⟨e, -, hbad⟩ | ⟨v, _, w, -, hw, rfl⟩
    · cases hbad
    rcases run_bind_cases hw with ⟨e, -, hbad⟩ | ⟨w, payload, y, -, hy, rfl⟩
    · cases hbad
    match payload with
    | none | some [] => exact (hreport hy).elim
    | some (kind :: rest) =>
      simp only at hy
      by_cases hkind : kind ≠ 18
      · rw [if_pos hkind] at hy
        exact (hreport hy).elim
      · rw [if_neg hkind] at hy
        obtain rfl := run_perform_iff.mp hy
        exact ⟨rest.drop 1, by simp⟩

/-- Every network operation of a session is licensed by what came before it. -/
theorem licensed_runWifiSession : Warrants (Licensed jsonLoads) [] (runWifiSession jsonLoads) := by
  have hclean (t : List SessionEvent) (authenticator : Bool) :
      Warrants (Licensed jsonLoads) t (cleanup authenticator) :=
    licensed_offline (offline.cleanup_free authenticator)
  have hraise (t : List SessionEvent) (e : PyErr) : Warrants (Licensed jsonLoads) t
      ((.raise e : Session Unit).tryFinally (cleanup false)) :=
    warrants_tryFinally (warrants_raise e) fun _ => hclean _ false
  apply warrants_bind (licensed_offline (costs_attempt offline.awaitAuthRequest_costs))
  intro t found _
  match found with
  | .error e => exact hraise _ e
  | .ok none => exact hclean _ false
  | .ok (some (session, challenge)) =>
    apply warrants_bind
      (licensed_offline
        (costs_attempt (offline.perform_costs (.makeAuthenticator CAMERA_MAC PHONE_MAC))))
    intro u made _
    match made with
    | .error e => exact hraise _ e
    | .ok () =>
      apply warrants_tryFinally _ fun _ => hclean _ true
      apply warrants_bind (licensed_offline (offline.authenticate_costs challenge))
      intro v confirmed hrun
      split_ifs with hconfirmed
      · subst hconfirmed
        -- phase 3 is entered with a confirmation that was verified
        obtain ⟨confirm, hmem⟩ := run_authenticate hrun
        exact licensed_runServices ⟨confirm, List.mem_append_right _ hmem⟩
      · exact warrants_ret ()

end

end Gear360
