import Gear360.HostSession
import Gear360.ResponseMatching

namespace Gear360

open Interaction
open Interaction.Prog (perform)

/-- What is left to the connection, the authenticator and the clock. -/
def NetOp.isSession : NetOp → Bool
  | .session _ => true
  | _ => false

/-- What goes out over the network: the socket, HTTP, and the stream with its player. -/
def NetOp.isOnline : NetOp → Bool
  | .session _ | .run _ _ | .sleep _ | .logError _ => false
  | _ => true

/-- A price for what goes out. -/
def outgoing : NetPrices := ⟨fun _ => 0, fun _ => 0, fun _ => 0, 1, 1, 1, fun _ => 1, 1, le_rfl⟩

/-- A price for commands. -/
def commands : NetPrices := ⟨fun _ => 0, fun _ => 1, fun _ => 0, 0, 0, 0, fun _ => 0, 0, le_rfl⟩

section
variable {fromString : Bytes → Except PyErr Element} {fuel : ℕ} {jsonLoads : Bytes → Option Json}
  {α : Type} {p : Net α} {t : List NetEvent} {x : Except PyErr α}

theorem run_not_online (hp : Costs outgoing.price 0 p) (hr : Run p t x) :
    ∀ e ∈ t, e.1.isOnline = false := by
  rintro ⟨o, y⟩ he
  have hfree := hp.free t x hr _ he
  rw [outgoing.price_flat rfl] at hfree
  cases o with
  | session _ | run _ _ | sleep _ | logError _ => rfl
  | _ => cases hfree

theorem run_not_asking (hp : Costs commands.price 0 p) (hr : Run p t x) :
    ∀ e ∈ t, asksToJoin e = false := by
  rintro ⟨o, y⟩ he
  have hfree := hp.free t x hr _ he
  rw [commands.price_flat rfl] at hfree
  cases o with
  | run _ _ => cases hfree
  | _ => rfl

/-- Finding the address joins nothing. -/
theorem resolveCameraIp_not_asking {r : Except PyErr PyStr} (hr : Run resolveCameraIp t r) :
    ∀ e ∈ t, asksToJoin e = false := by
  have hcommand {command : List PyStr} (timeout : ℕ) (h : ¬connectPrefix <+: command) :
      Performs (fun o => ∀ x, asksToJoin ⟨o, x⟩ = false) (Net.run command timeout) :=
    performs_perform fun _ => decide_eq_false h
  -- the name of an interface is in the command, but its first word settles it
  have hroutes (wifiIface : PyStr) : ¬connectPrefix <+: routesCommand wifiIface := by
    rintro ⟨tail, h⟩
    have hhead := congrArg List.head? h
    have hne : pyStr "nmcli" ≠ pyStr "ip" := by decide
    exact hne (Option.some.inj hhead)
  have hperforms : Performs (fun o => ∀ x, asksToJoin ⟨o, x⟩ = false) resolveCameraIp := by
    apply performs_tryExcept
    · apply performs_bind (hcommand 5000 (by decide))
      intro interfaces
      match wifiInterface interfaces.stdout with
      | none | some [] => exact performs_ret _ _
      | some (c :: wifiIface) =>
        exact performs_bind (hcommand 5000 (hroutes _)) fun _ =>
          performs_bind (performs_fromResult _ _) fun _ => performs_ret _ _
    · intro e
      split_ifs
      · exact performs_ret _ _
      · exact performs_raise _ e
  exact fun e he => hperforms t r hr e he e.2

/-- Only the connection goes to `nmcli` with a request to join. -/
theorem network_not_asking {o : SessionOp} {x : Except PyErr (SessionAns o)}
    (ho : ∀ ssid password, o ≠ .connectToWifi ssid password)
    (hr : Run (network fromString fuel o) t x) : ∀ e ∈ t, asksToJoin e = false := by
  cases o with
  | connectToWifi ssid password => exact absurd rfl (ho ssid password)
  | resolveCameraIp => exact resolveCameraIp_not_asking hr
  | ssdpProbe cameraIp =>
    exact run_not_asking ((commands.ssdpProbe_costs fuel cameraIp).mono (by simp [commands])) hr
  | fetchUpnpServices url =>
    exact run_not_asking (costs_free_bind (commands.fetchUpnpServices_costs fromString url) fun _ =>
      costs_ret _) hr
  | startLiveStream cameraIp services =>
    exact run_not_asking (commands.startLiveStream_costs rfl fromString fuel cameraIp services) hr
  | _ =>
    rw [run_network_session rfl hr]
    exact List.forall_mem_singleton.mpr rfl

/-- Joining and finding the address send nothing out themselves. -/
theorem network_not_online {o : SessionOp} {x : Except PyErr (SessionAns o)}
    (ho : o.isNetwork = false ∨ (∃ ssid password, o = .connectToWifi ssid password) ∨
      o = .resolveCameraIp)
    (hr : Run (network fromString fuel o) t x) : ∀ e ∈ t, e.1.isOnline = false := by
  rcases ho with ho | ⟨ssid, password, rfl⟩ | rfl
  · rw [run_network_session ho hr]
    exact List.forall_mem_singleton.mpr rfl
  · exact run_not_online (outgoing.connectToWifi_costs ssid password) hr
  · exact run_not_online outgoing.resolveCameraIp_costs hr

/-- The lower event of an operation that is not taken apart. -/
theorem implements_session_mem {t : List SessionEvent} {t' : List NetEvent}
    (hi : Implements (network fromString fuel) t t') {o : SessionOp}
    {x : Except PyErr (SessionAns o)}
    (ho : o.isNetwork = false) (he : (⟨o, x⟩ : SessionEvent) ∈ t) :
    (⟨.session o, x⟩ : NetEvent) ∈ t' := by
  obtain ⟨u, hu, hsub⟩ := hi.mem he
  rw [run_network_session ho hu] at hsub
  exact hsub List.mem_cons_self

variable (jsonLoads) in
/-- A message with this id and these properties was read. -/
def ToldHost (name : String) (props : Json) (t : List NetEvent) : Prop :=
  ∃ session timeout frame,
    (⟨.session (.readSlpFrame session timeout), .ok (some frame)⟩ : NetEvent) ∈ t ∧
      messageProps jsonLoads name frame.payload = some props

/-- What was heard in the session was read by the host. -/
theorem Said.toldHost {name : String} {props : Json} {e : SessionEvent}
    (h : Said jsonLoads name props e) {t : List SessionEvent} {t' : List NetEvent}
    (hi : Implements (network fromString fuel) t t') (he : e ∈ t) :
    ToldHost jsonLoads name props t' := by
  obtain ⟨session, timeout, frame, rfl, hprops⟩ := h
  exact ⟨session, timeout, frame, implements_session_mem hi rfl he, hprops⟩

/-- An event of the host belongs to an operation of the session, which had its licence by then. -/
theorem hostSession_split {t front back : List NetEvent} {r : Except PyErr Unit} {e : NetEvent}
    (hr : Run (hostSession fromString fuel jsonLoads) t r) (ht : t = front ++ e :: back) :
    ∃ before o x front' u₁ u₂, front = front' ++ u₁ ∧
      Implements (network fromString fuel) before front' ∧
      Run (network fromString fuel o) (u₁ ++ e :: u₂) x ∧ Warranted (Licensed jsonLoads) [] before ∧
      (o.isNetwork = true → Licence jsonLoads before o) := by
  obtain ⟨upper, hupper, hi⟩ := run_translate hr
  obtain ⟨before, o, x, after, front', u₁, u₂, rfl, hfront, hbefore, hrun⟩ := hi.split ht
  have hlaw := licensed_runWifiSession _ r hupper
  refine ⟨before, o, x, front', u₁, u₂, hfront, hbefore, hrun, ?_, hlaw before ⟨o, x⟩ after rfl⟩
  rintro front e back rfl
  exact hlaw front e (back ++ ⟨o, x⟩ :: after) (by rw [List.append_assoc, List.cons_append])

variable (jsonLoads) in
/-- What the host has done before an event of the network. -/
structure Secured (front : List NetEvent) (e : NetEvent) : Prop where
  /-- The camera's confirmation was verified. -/
  authenticated : e.1.isSession = false →
    ∃ confirm, (⟨.session (.verifyConfirm confirm), .ok true⟩ : NetEvent) ∈ front
  /-- The network that is joined and its password are those of an `info` message. -/
  announced : asksToJoin e = true → ∃ props info name key, ToldHost jsonLoads "info" props front ∧
    wifiInfoOf props = .ok info ∧ info.ssid = .str name ∧ info.softapPw = .str key ∧
    e.1 = .run (connectCommand name key) 30000
  /-- The network was joined. -/
  joined : e.1.isOnline = true → ∃ e' ∈ front, joins e' = true

/-- Whatever the camera sends and the network does, in every run of the whole host: it does nothing
on the network before the camera's confirmation was verified, it only ever asks to join the network
of an `info` message that it read, with the password of that message, and it sends nothing out before
a network was joined. -/
theorem host_session_secured {t : List NetEvent} {r : Except PyErr Unit}
    (hr : Run (hostSession fromString fuel jsonLoads) t r) {front back : List NetEvent}
    {e : NetEvent}
    (ht : t = front ++ e :: back) : Secured jsonLoads front e := by
  obtain ⟨before, o, x, front', u₁, u₂, rfl, hi, hrun, -, hlicence⟩ := hostSession_split hr ht
  have hmem : e ∈ u₁ ++ e :: u₂ := List.mem_append_right u₁ List.mem_cons_self
  refine ⟨fun hsession => ?_, fun hasks => ?_, fun honline => ?_⟩
  -- an operation of the session is the event itself; the others have a licence
  · cases ho : o.isNetwork with
    | false =>
      rw [run_network_session ho hrun, List.mem_singleton] at hmem
      rw [hmem] at hsession
      cases hsession
    | true =>
      obtain ⟨confirm, hconfirm⟩ := (hlicence ho).authenticated
      exact ⟨confirm, List.mem_append_left u₁ (implements_session_mem hi rfl hconfirm)⟩
  · by_cases ho : ∀ ssid password, o ≠ .connectToWifi ssid password
    · rw [network_not_asking ho hrun e hmem] at hasks
      cases hasks
    · push Not at ho
      obtain ⟨ssid, password, rfl⟩ := ho
      obtain ⟨p, hp, hlicense⟩ := (hlicence rfl).entitled
      obtain ⟨name, key, scan, result, front, hssid, hpassword, hcommand, -, -⟩ :=
        (run_connectToWifi hrun).kept.justified u₁ e u₂ rfl hasks
      -- the credentials are those of the message that was heard
      cases hlicense with
      | heardInfo hsaid hinfo =>
        have htold := hsaid.toldHost hi hp
        obtain ⟨session, timeout, frame, hread, hprops⟩ := htold
        exact ⟨_, _, name, key, ⟨session, timeout, frame, List.mem_append_left u₁ hread, hprops⟩,
          hinfo, hssid, hpassword, hcommand⟩
  · by_cases ho : o.isNetwork = false ∨ (∃ ssid password, o = .connectToWifi ssid password) ∨
        o = .resolveCameraIp
    · rw [network_not_online ho hrun e hmem] at honline
      cases honline
    · push Not at ho
      obtain ⟨hnetwork, hconnect, -⟩ := ho
      rcases (hlicence (by simpa using hnetwork)).joined with
        ⟨ssid, password, rfl⟩ | ⟨ssid, password, hjoin⟩
      · exact absurd rfl (hconnect ssid password)
      -- a join that the session knows of is a command that came about
      · obtain ⟨u, hu, hsub⟩ := hi.mem hjoin
        obtain ⟨joinFront, e', rfl, he', -⟩ := (run_connectToWifi hu).joined rfl
        exact ⟨e', List.mem_append_left u₁ (hsub (List.mem_append_right _ List.mem_cons_self)), he'⟩

end

def hostMessages : List Json :=
  [ sampleInfo "12345678",
    sampleMessage "device-desc-url"
      [("url", described (.strOf "http://192.168.107.1:7676/smp_2_"))] ]

/-- `json.loads` of the texts of these messages. -/
def hostLoads (data : Bytes) : Option Json := hostMessages.find? fun value => dumps value = data

def hostParser (data : Bytes) : Except PyErr Element :=
  if data = sampleXml then .ok sampleDocument
  else parserOf sampleAnswer sampleAnswerTree data

/-- The camera sends its credentials and then the URL of its description. -/
def hostSessionScript : NetScript where
  session :=
    { frames := [[5, 2, 1, 2, 1], [9], 16 :: 0 :: List.replicate 70 1,
        18 :: 0 :: List.replicate 35 2]
      slpReads := (phase3Script (responseTo CAPEX_PROFILE [1]) (some ⟨1, 0, [6, 0]⟩)
          (responseTo SERVICE_PROFILE [204])).slpReads ++
        (hostMessages.take 1).map sampleFrame ++ List.replicate 105 none ++
        (hostMessages.drop 1).map sampleFrame }
  completed := [⟨0, [], []⟩, ⟨0, pyStr "Gear 360(9775)\n", []⟩, ⟨0, [], []⟩, ⟨0, [], []⟩,
    interfacesOutput, routesOutput]
  datagrams := []
  bodies := [sampleXml, [], sampleAnswer] ++ sampleBodies

def hostSample : Outcome NetAns PyErr NetScript Unit :=
  exec netPlayback (hostSession hostParser 40 hostLoads) hostSessionScript

def opensStream (e : NetEvent) : Bool :=
  match e.1 with
  | .makeConnection _ _ => true
  | _ => false

/-- The network is joined, and the stream opened. -/
theorem hostSample_arrives : (∃ e ∈ hostSample.trace, asksToJoin e = true) ∧
    ∃ e ∈ hostSample.trace, opensStream e = true := by decide +kernel

theorem host_session_secured_sample : ∃ front e back, hostSample.trace = front ++ e :: back ∧
    asksToJoin e = true ∧ Secured hostLoads front e := by
  obtain ⟨e, he, hasks⟩ := hostSample_arrives.1
  obtain ⟨front, back, ht⟩ := List.append_of_mem he
  exact ⟨front, e, back, ht, hasks,
    host_session_secured (exec_run netPlayback _ hostSessionScript) ht⟩

section
variable {fromString : Bytes → Except PyErr Element} {fuel : ℕ} {jsonLoads : Bytes → Option Json}
  {t : List NetEvent}

/-- The address that was found for the camera. -/
def Located (cameraIp : PyStr) (t : List NetEvent) : Prop :=
  ∃ u, Run resolveCameraIp u (.ok cameraIp) ∧ u ⊆ t

/-- A datagram from this address was received. -/
def Received (data : Bytes) (cameraIp : PyStr) (t : List NetEvent) : Prop :=
  ∃ size, (⟨.recvFrom size, .ok (data, cameraIp)⟩ : NetEvent) ∈ t

variable (fromString) in
/-- A description was fetched that has this control URL. -/
def Described (controlUrl : PyStr) (t : List NetEvent) : Prop :=
  ∃ deviceUrl headers timeout size xml services,
    (⟨.httpGet deviceUrl headers timeout size, .ok xml⟩ : NetEvent) ∈ t ∧
      describedServices fromString xml (beforeLastSlash deviceUrl) = .ok services ∧
      (services.lookup (pyStr CONTENT_DIRECTORY_TYPE)).map ServiceUrls.control = some controlUrl

theorem received_mem {n : SocketNotes} {d : Bytes × PyStr}
    (hd : d ∈ (t.foldl SocketNotes.note n).received) :
    d ∈ n.received ∨ ∃ size, (⟨.recvFrom size, .ok d⟩ : NetEvent) ∈ t := by
  induction t generalizing n with
  | nil => exact .inl hd
  | cons e t ih =>
    rcases ih hd with hd | ⟨size, hmem⟩
    · obtain ⟨o, x⟩ := e
      cases o with
      | recvFrom size =>
        cases x with
        | error e => exact .inl hd
        | ok datagram =>
          rcases List.mem_append.mp hd with hd | hd
          · exact .inl hd
          · rw [List.mem_singleton.mp hd]
            exact .inr ⟨size, List.mem_cons_self⟩
      | _ => cases x <;> exact .inl hd
    · exact .inr ⟨size, List.mem_cons_of_mem _ hmem⟩

/-- What a probe finds was in a datagram of the camera. -/
theorem run_ssdpProbe_found {cameraIp found : PyStr}
    (hr : Run (ssdpProbe fuel cameraIp) t (.ok (some found))) :
    ∃ data, Received data cameraIp t ∧ locationOf data = some found := by
  have hfound := (wp_run (wp_ssdpProbe fuel cameraIp) hr).found _ rfl
  obtain ⟨⟨data, host⟩, hd, hanswer⟩ := List.exists_of_findSome?_eq_some hfound.symm
  rw [answerOf] at hanswer
  split_ifs at hanswer with hhost
  subst hhost
  rcases received_mem hd with hd | ⟨size, hmem⟩
  · cases hd
  · exact ⟨data, ⟨size, hmem⟩, hanswer⟩

/-- One request, to the URL that was given; and the services of the answer. -/
theorem run_fetchUpnpServices {url : Json} {r : Except PyErr (List (PyStr × ServiceUrls))}
    (hr : Run (fetchUpnpServices fromString url) t r) :
    (t = [] ∧ ∀ services, r ≠ .ok services) ∨ ∃ deviceUrl headers x logs, url = .str deviceUrl ∧
      t = ⟨.httpGet deviceUrl headers 5000 8192, x⟩ :: logs ∧ Logs logs ∧
      ∀ services, r = .ok services → services = [] ∨ ∃ xml, x = .ok xml ∧
        describedServices fromString xml (beforeLastSlash deviceUrl) = .ok services := by
  -- a URL that is no string breaks the request before it is made
  cases url with
  | str deviceUrl =>
    obtain ⟨x, u, rfl, hu⟩ := run_call_iff.mp hr
    refine .inr ⟨deviceUrl, _, x, u, rfl, rfl, ?_⟩
    cases x with
    | ok xml =>
      obtain ⟨rfl, rfl⟩ := run_fromResult_iff.mp hu
      exact ⟨logs_nil, fun services h => .inr ⟨xml, rfl, h⟩⟩
    | error e =>
      change Run (if e.isOSError then _ else _) u r at hu
      split_ifs at hu
      · rcases run_bind_cases hu with ⟨e', he, rfl⟩ | ⟨u, _, v, hlog, hv, rfl⟩
        · exact ⟨run_logError he, nofun⟩
        · obtain ⟨rfl, rfl⟩ := run_ret_iff.mp hv
          rw [List.append_nil]
          exact ⟨run_logError hlog, fun services h => .inl (Except.ok.inj h).symm⟩
      · obtain ⟨rfl, rfl⟩ := run_raise_iff.mp hu
        exact ⟨logs_nil, nofun⟩
  | null | bool _ | int _ | float _ | arr _ | obj _ =>
    obtain ⟨rfl, rfl⟩ := run_raise_iff.mp hr
    exact .inl ⟨rfl, nofun⟩

theorem fetch_events {url : Json} {x : Except PyErr (List (PyStr × PyStr))}
    (hr : Run (network fromString fuel (.fetchUpnpServices url)) t x) {e : NetEvent} (he : e ∈ t) :
    (∃ text, e.1 = .logError text) ∨
      ∃ deviceUrl headers, url = .str deviceUrl ∧ e.1 = .httpGet deviceUrl headers 5000 8192 := by
  have hfetch : ∃ r, Run (fetchUpnpServices fromString url) t r := by
    rcases run_bind_cases hr with ⟨e, he, -⟩ | ⟨u, services, v, hu, hv, rfl⟩
    · exact ⟨_, he⟩
    · obtain ⟨rfl, -⟩ := run_ret_iff.mp hv
      rw [List.append_nil]
      exact ⟨_, hu⟩
  obtain ⟨r, hfetch⟩ := hfetch
  rcases run_fetchUpnpServices hfetch with
    ⟨rfl, -⟩ | ⟨deviceUrl, headers, x, logs, hurl, rfl, hlogs, -⟩
  · cases he
  · rcases List.mem_cons.mp he with rfl | he
    · exact .inr ⟨deviceUrl, headers, hurl, rfl⟩
    · exact .inl (hlogs e he)

/-- Services come from a description. -/
theorem described_of_fetch {url : Json} {services : List (PyStr × PyStr)} {controlUrl : PyStr}
    (hr : Run (network fromString fuel (.fetchUpnpServices url)) t (.ok services))
    (hlookup : services.lookup (pyStr CONTENT_DIRECTORY_TYPE) = some controlUrl) :
    Described fromString controlUrl t := by
  rcases run_bind_cases hr with ⟨e, -, hbad⟩ | ⟨u, fetched, v, hu, hv, rfl⟩
  · cases hbad
  obtain ⟨rfl, hservices⟩ := run_ret_iff.mp hv
  cases hservices
  -- only the control URLs are passed on, which does not change the lookup
  have hmap (pairs : List (PyStr × ServiceUrls)) (key : PyStr) :
      (pairs.map fun service => (service.1, service.2.control)).lookup key =
        (pairs.lookup key).map ServiceUrls.control := by
    induction pairs with
    | nil => rfl
    | cons pair pairs ih =>
      obtain ⟨serviceType, urls⟩ := pair
      rw [List.map_cons, List.lookup_cons, List.lookup_cons, ih]
      cases key == serviceType <;> rfl
  rw [hmap] at hlookup
  rw [List.append_nil]
  rcases run_fetchUpnpServices hu with ⟨-, hno⟩ | ⟨deviceUrl, headers, x, logs, -, rfl, -, hok⟩
  · exact absurd rfl (hno fetched)
  · rcases hok fetched rfl with rfl | ⟨xml, rfl, hdescribed⟩
    · cases hlookup
    · exact ⟨deviceUrl, headers, 5000, 8192, xml, fetched, List.mem_cons_self, hdescribed, hlookup⟩

variable (fromString) in
/-- What a stream is asked for and opened with. -/
def Streamed (cameraIp : PyStr) (services : List (PyStr × PyStr)) (h : List NetEvent)
    (e : NetEvent) : Prop :=
  (∀ url headers timeout size, e.1 ≠ .httpGet url headers timeout size) ∧
  (∀ url headers data timeout, e.1 = .httpPost url headers data timeout →
    services.lookup (pyStr CONTENT_DIRECTORY_TYPE) = some url) ∧
  ∀ url timeout, e.1 = .makeConnection url timeout → url ≠ [] ∧ ∃ controlUrl answer,
    (⟨infoPost controlUrl, answer⟩ : NetEvent) ∈ h ∧ Chosen fromString cameraIp answer url

theorem warranted_startLiveStream {cameraIp : PyStr} {services : List (PyStr × PyStr)}
    {r : Except PyErr Unit} (hr : Run (startLiveStream fromString fuel cameraIp services) t r) :
    Warranted (Streamed fromString cameraIp services) [] t := by
  have hlogs {logs : List NetEvent} (h : Logs logs) (before : List NetEvent) :
      Warranted (Streamed fromString cameraIp services) before logs := by
    apply Warranted.of_forall
    rintro _ - e he
    obtain ⟨text, htext⟩ := h e he
    rw [Streamed, htext]
    exact ⟨nofun, nofun, nofun⟩
  rcases run_startLiveStream hr with
    ⟨-, rfl⟩ | ⟨controlUrl, state, logs, rest, hlookup, rfl, hquiet, hrest⟩
  · exact hlogs logs_nil []
  -- both requests go to the control URL of the service
  have hpost {o : NetOp} (ho : o = statePost controlUrl ∨ o = infoPost controlUrl)
      (x : Except PyErr (NetAns o)) (before : List NetEvent) :
      Warranted (Streamed fromString cameraIp services) before [⟨o, x⟩] := by
    apply Warranted.of_forall
    rintro _ - e he
    rw [List.mem_singleton.mp he]
    rcases ho with rfl | rfl
    · refine ⟨nofun, fun url _ _ _ hurl => ?_, nofun⟩
      cases hurl
      exact hlookup
    · refine ⟨nofun, fun url _ _ _ hurl => ?_, nofun⟩
      cases hurl
      exact hlookup
  have hfirst := (hpost (.inl rfl) state []).append (hlogs hquiet _)
  rcases hrest with ⟨rfl, -⟩ | ⟨answer, logs', play, rfl, hquiet', hplay⟩
  · rw [List.append_nil]
    exact hfirst
  have hsecond (before : List NetEvent) :=
    (hpost (.inr rfl) answer before).append (hlogs hquiet' _)
  refine hfirst.append ((hsecond _).append ?_)
  rcases hplay with ⟨hquiet, -⟩ | ⟨streamUrl, hchosen, hplay⟩
  · exact hlogs hquiet _
  · apply Warranted.of_forall
    rintro h hsub e he
    -- of what the player does only the connection has a URL
    have hof := performs_playLiveStream fuel streamUrl play r hplay e he
    refine ⟨fun url _ _ _ hurl => ?_, fun url _ _ _ hurl => ?_, fun url _ hopen => ?_⟩
    · rw [hurl] at hof
      exact hof.elim
    · rw [hurl] at hof
      exact hof.elim
    · rw [hopen] at hof
      obtain rfl : url = streamUrl := hof
      exact ⟨hchosen.ne_nil, controlUrl, answer, hsub (by simp), hchosen⟩

/-- A price for what has a URL. -/
def addressed : NetPrices := ⟨fun _ => 0, fun _ => 0, fun _ => 0, 0, 0, 0, fun _ => 1, 1, le_rfl⟩

variable (fromString jsonLoads) in
/-- Where the URLs come from that the host passes to `urlopen`, or opens as a stream. -/
structure Sourced (front : List NetEvent) (e : NetEvent) : Prop where
  /-- That of the description, from a message or from a datagram of the camera. -/
  fetched : ∀ url headers timeout size, e.1 = .httpGet url headers timeout size →
    (∃ props, ToldHost jsonLoads "device-desc-url" props front ∧
        nested props "url" "description" = .ok (.str url)) ∨
      ∃ data cameraIp, Received data cameraIp front ∧ Located cameraIp front ∧
        locationOf data = some url
  /-- The control URL, from what the URL of the description gave. -/
  posted : ∀ url headers data timeout, e.1 = .httpPost url headers data timeout →
    Described fromString url front
  /-- The stream, from the answer to the request for its URLs, or the usual one of the camera. -/
  opened : ∀ url timeout, e.1 = .makeConnection url timeout → url ≠ [] ∧
    ∃ controlUrl answer cameraIp, (⟨infoPost controlUrl, answer⟩ : NetEvent) ∈ front ∧
      Located cameraIp front ∧ Chosen fromString cameraIp answer url

/-- What has no URL needs no source. -/
theorem sourced_of_free {o : SessionOp} {x : Except PyErr (SessionAns o)} {front : List NetEvent}
    (hcost : Costs addressed.price 0 (network fromString fuel o))
    (hr : Run (network fromString fuel o) t x) {e : NetEvent} (he : e ∈ t) :
    Sourced fromString jsonLoads front e := by
  have hfree := hcost.free t x hr e he
  rw [addressed.price_flat rfl] at hfree
  refine ⟨fun _ _ _ _ h => ?_, fun _ _ _ _ h => ?_, fun _ _ h => ?_⟩
  · rw [h] at hfree
    cases hfree
  · rw [h] at hfree
    cases hfree
  · rw [h] at hfree
    cases hfree

theorem Located.append {cameraIp : PyStr} (h : Located cameraIp t) (u : List NetEvent) :
    Located cameraIp (t ++ u) := by
  obtain ⟨v, hv, hsub⟩ := h
  exact ⟨v, hv, List.Subset.trans hsub (List.subset_append_left t u)⟩

/-- Whatever the camera sends and the network does, the host only ever passes on URLs that it was
given: for the description that of a message that it read or of a datagram from the camera's
address; for the requests the control URL of a description that was fetched; and for the stream what
the answer to such a request says, or the usual place at the camera's address. -/
theorem host_session_sourced {t : List NetEvent} {r : Except PyErr Unit}
    (hr : Run (hostSession fromString fuel jsonLoads) t r) {front back : List NetEvent}
    {e : NetEvent}
    (ht : t = front ++ e :: back) : Sourced fromString jsonLoads front e := by
  obtain ⟨before, o, x, front', u₁, u₂, rfl, hi, hrun, hlaw, hlicence⟩ := hostSession_split hr ht
  have hmem : e ∈ u₁ ++ e :: u₂ := List.mem_append_right u₁ List.mem_cons_self
  have hlocated {cameraIp : PyStr} (h : Resolved before cameraIp) :
      Located cameraIp (front' ++ u₁) := by
    obtain ⟨u, hu, hsub⟩ := hi.mem h
    exact Located.append ⟨u, hu, hsub⟩ u₁
  cases o with
  | connectToWifi ssid password =>
    exact sourced_of_free (o := .connectToWifi ssid password)
      (addressed.connectToWifi_costs ssid password) hrun hmem
  | resolveCameraIp =>
    exact sourced_of_free (o := .resolveCameraIp) addressed.resolveCameraIp_costs hrun hmem
  | ssdpProbe cameraIp =>
    exact sourced_of_free (o := .ssdpProbe cameraIp)
      ((addressed.ssdpProbe_costs fuel cameraIp).mono (by simp [addressed])) hrun hmem
  | fetchUpnpServices url =>
    rcases fetch_events hrun hmem with ⟨text, htext⟩ | ⟨deviceUrl, headers, rfl, hget⟩
    · refine ⟨fun _ _ _ _ h => ?_, fun _ _ _ _ h => ?_, fun _ _ h => ?_⟩ <;>
        rw [htext] at h <;> cases h
    refine ⟨fun url _ _ _ h => ?_, fun _ _ _ _ h => ?_, fun _ _ h => ?_⟩
    · rw [hget] at h
      cases h
      obtain ⟨p, hp, hentitled⟩ := (hlicence rfl).entitled
      cases hentitled with
      | heardUrl hsaid hurl =>
        obtain ⟨session, timeout, frame, hread, hprops⟩ := hsaid.toldHost hi hp
        exact .inl ⟨_, ⟨session, timeout, frame, List.mem_append_left u₁ hread, hprops⟩, hurl⟩
      | probed cameraIp =>
        -- the probe had its own licence, and so the address
        obtain ⟨start, rest, hbefore⟩ := List.append_of_mem hp
        have hprobe := (hlaw start _ rest hbefore rfl).resolved cameraIp rfl
        have hresolved : Resolved before cameraIp := by
          rw [hbefore]
          exact List.mem_append_left _ hprobe
        obtain ⟨u, hu, hsub⟩ := hi.mem hp
        obtain ⟨data, ⟨size, hreceived⟩, hlocation⟩ := run_ssdpProbe_found hu
        exact .inr ⟨data, cameraIp, ⟨size, List.mem_append_left u₁ (hsub hreceived)⟩,
          hlocated hresolved, hlocation⟩
    · rw [hget] at h
      cases h
    · rw [hget] at h
      cases h
  | startLiveStream cameraIp services =>
    have hlicence := hlicence rfl
    obtain ⟨hget, hpost, hopen⟩ := warranted_startLiveStream hrun u₁ e u₂ rfl
    refine ⟨fun url _ _ _ h => absurd h (hget _ _ _ _), fun url _ _ _ h => ?_, fun url _ h => ?_⟩
    · obtain ⟨p, hp, hentitled⟩ := hlicence.entitled
      cases hentitled with
      | fetched deviceUrl =>
        obtain ⟨u, hu, hsub⟩ := hi.mem hp
        obtain ⟨deviceUrl, headers, timeout, size, xml, services, hget, hdescribed⟩ :=
          described_of_fetch hu (hpost _ _ _ _ h)
        exact ⟨deviceUrl, headers, timeout, size, xml, services,
          List.mem_append_left u₁ (hsub hget), hdescribed⟩
    · obtain ⟨hne, controlUrl, answer, hinfo, hchosen⟩ := hopen url _ h
      exact ⟨hne, controlUrl, answer, cameraIp, List.mem_append_right front' hinfo,
        hlocated (hlicence.resolved cameraIp rfl), hchosen⟩
  | _ =>
    rw [run_network_session rfl hrun, List.mem_singleton] at hmem
    rw [hmem]
    exact ⟨nofun, nofun, nofun⟩

end

theorem host_session_sourced_sample : ∃ front e back, hostSample.trace = front ++ e :: back ∧
    opensStream e = true ∧ Sourced hostParser hostLoads front e := by
  obtain ⟨e, he, hopens⟩ := hostSample_arrives.2
  obtain ⟨front, back, ht⟩ := List.append_of_mem he
  exact ⟨front, e, back, ht, hopens,
    host_session_sourced (exec_run netPlayback _ hostSessionScript) ht⟩

end Gear360
