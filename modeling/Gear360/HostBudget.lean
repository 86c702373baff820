import Gear360.HostSafety

namespace Gear360

open Interaction

section
variable {fromString : Bytes → Except PyErr Element} {fuel : ℕ}

/-- The time that an operation may take by its own account, in milliseconds: the timeout of a read,
a command or a request, a pause, for a datagram what the socket was set to. Opening the connection
pauses, polls for the camera included, and the helper that answers the challenge and checks the
confirmation has a deadline for each. The stream itself has no end, and is not counted. -/
def waits : NetOp → ℕ
  | .session .openConnection => 500 + (5000 + 20*1000)
  | .session (.processChallenge _) => 15000
  | .session (.verifyConfirm _) => 10000
  | .session (.readFrame _ timeout) | .session (.readSlpFrame _ timeout) => timeout
  | .session (.sleep pause) => pause
  | .run _ timeout => timeout
  | .sleep pause => pause
  | .recvFrom _ => 3000
  | .httpGet _ _ timeout _ | .httpPost _ _ _ timeout => timeout
  | _ => 0

/-- The connection pauses no longer than it is charged for. -/
theorem openConnection_waits (cameraMac : String) :
    Costs busPause (waits (.session .openConnection))
    (SapConnection.openConnection cameraMac 5000 20) := openConnection_pauses cameraMac 5000 20

/-- The waits, without those for datagrams that came. -/
def waitPrices : NetPrices where
  session op := waits (.session op)
  run timeout := timeout
  pause pause := pause
  socket := 0
  receive := 3000
  datagram := 0
  http timeout := timeout
  player := 0
  datagram_le := Nat.zero_le _

theorem price_waitPrices (e : NetEvent) :
    waitPrices.price e + (if NetPrices.received e then 3000 else 0) = waits e.1 := by
  rw [NetPrices.price]
  obtain ⟨o, x⟩ := e
  cases o with
  | recvFrom size => cases x <;> rfl
  | _ => rfl

/-- A datagram that came was waited for no longer than the socket was set to. -/
theorem cost_waits (t : List NetEvent) :
    cost (fun e => waits e.1) t = cost waitPrices.price t + 3000*t.countP NetPrices.received := by
  induction t with
  | nil => rfl
  | cons e t ih =>
    have hevent := price_waitPrices e
    rw [cost_cons, cost_cons, ih, List.countP_cons, ← hevent]
    split_ifs <;> omega

/-- What the operations of a session may take. -/
def sessionWaits : Prices where
  opening := 500 + (5000 + 20*1000)
  challenge := 15000
  confirm := 10000
  read timeout := timeout
  pause pause := pause
  join := 15*waitPrices.scan
  resolve := 10000
  probe := 3000
  fetch := 5000
  stream := 20000

theorem network_waits (o : SessionOp) :
    Costs waitPrices.price (sessionWaits.opPrice o) (network fromString fuel o) := by
  cases o with
  | connectToWifi ssid password => exact waitPrices.connectToWifi_costs ssid password
  | resolveCameraIp => exact waitPrices.resolveCameraIp_costs
  | ssdpProbe cameraIp =>
    apply (waitPrices.ssdpProbe_costs fuel cameraIp).mono
    change 5*0 + (fuel*0 + 3000) ≤ 3000
    omega
  | fetchUpnpServices deviceUrl =>
    exact costs_bind (m := 0) (waitPrices.fetchUpnpServices_costs fromString deviceUrl) fun _ =>
      costs_ret _
  | startLiveStream cameraIp services =>
    exact waitPrices.startLiveStream_costs rfl fromString fuel cameraIp services
  | _ => exact costs_perform fun _ => le_rfl

/-- Whatever the camera and the network do, the timeouts and pauses of a session add up to no more
than 22 minutes and 13 seconds, and three seconds for each datagram that came; the stream apart. -/
theorem host_session_waits {jsonLoads : Bytes → Option Json} {t : List NetEvent}
    {r : Except PyErr Unit} (hr : Run (hostSession fromString fuel jsonLoads) t r) :
    cost (fun e => waits e.1) t ≤ 1332600 + 3000*t.countP NetPrices.received := by
  have hnetwork (o : SessionOp) : Ensures (network fromString fuel o) fun u x =>
      cost waitPrices.price u ≤ sessionWaits.price ⟨o, x⟩ := network_waits o
  have hbound := Costs.translate hnetwork (sessionWaits.runWifiSession_costs jsonLoads) t r hr
  have htotal : sessionWaits.meeting + (sessionWaits.proving +
      (sessionWaits.serving + sessionWaits.streaming)) = 1332600 := by
    simp only [Prices.meeting, Prices.proving, Prices.serving, Prices.streaming, sessionWaits,
      NetPrices.scan, waitPrices]
  rw [cost_waits]
  omega

end

/-- The session that goes all the way reads no datagram. -/
theorem host_session_waits_sample : cost (fun e => waits e.1) hostSample.trace ≤ 1332600 := by
  have hbound := host_session_waits (exec_run netPlayback (hostSession hostParser 40 hostLoads)
    hostSessionScript)
  have hnone : hostSample.trace.countP NetPrices.received = 0 := by decide +kernel
  change cost _ hostSample.trace ≤ 1332600 + 3000*hostSample.trace.countP _ at hbound
  rw [hnone] at hbound
  exact hbound

end Gear360
