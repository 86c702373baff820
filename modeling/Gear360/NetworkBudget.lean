import Gear360.RunCost
import Gear360.SapConnection
import Gear360.Ssdp
import Gear360.Upnp
import Gear360.WifiJoin

namespace Gear360

open Interaction
open Interaction.Prog (perform fromResult)

/-- A pause of the Bluetooth connection. -/
def BusOp.pause : BusOp → ℕ
  | .sleep pause => pause
  | _ => 0

def busPause (e : BusEvent) : ℕ := e.1.pause

theorem busPause_perform (o : BusOp) : Costs busPause o.pause (perform o : Bus (BusAns o)) :=
  costs_perform fun _ => le_rfl

theorem logDBusException_pauses (before after : String) (e : BusErr) :
    Costs busPause 0 (logDBusException before after e) := by
  cases e with
  | dbusException message => exact busPause_perform (.logError _)
  | osError _ | other _ => exact costs_raise _

theorem setupDbus_pauses : Costs busPause 500 setupDbus := by
  have hregister : Costs busPause 0 (do
      perform (BusOp.registerProfile PROFILE_PATH_CLIENT SAP_UUID_CLIENT clientOptions)
      perform (BusOp.registerProfile PROFILE_PATH_SERVER SAP_UUID_SERVER serverOptions)) :=
    costs_free_bind (busPause_perform (.registerProfile _ _ _)) fun _ =>
      busPause_perform (.registerProfile _ _ _)
  apply costs_free_bind (busPause_perform .getProfileManager)
  intro _
  apply costs_free_bind (busPause_perform (.exportProfile _ _))
  intro _
  apply costs_free_bind (busPause_perform (.exportProfile _ _))
  intro _
  apply costs_free_bind
    ((costs_tryExcept hregister (logDBusException_pauses _ _)).mono (Nat.zero_le _))
  intro _
  apply costs_free_bind (busPause_perform .startLoop)
  intro _
  exact busPause_perform (.sleep 500)

theorem awaitConnection_pauses (attempts : ℕ) :
    Costs busPause (attempts*1000) (SapConnection.awaitConnection attempts) := by
  induction attempts with
  | zero => exact costs_ret false
  | succ attempts ih =>
    apply costs_free_bind (busPause_perform (.connectionIsSet .server))
    intro connected
    split_ifs
    · exact costs_ret true
    · exact (costs_bind (busPause_perform (.sleep 1000)) fun _ => ih).mono
        (by change 1000 + attempts*1000 ≤ _; omega)

theorem dropOutbound_pauses : Costs busPause 0 SapConnection.dropOutbound := by
  apply costs_free_bind (busPause_perform (.profileFd .client))
  rintro (_ | _)
  · exact costs_ret ()
  · apply (costs_tryExcept (m := 0) (costs_free_bind (busPause_perform (.profileFd .client)) ?_)
      ?_).mono le_rfl
    · rintro (_ | fd)
      · exact costs_raise _
      · exact busPause_perform (.osClose fd)
    · rintro (_ | _ | _)
      · exact costs_raise _
      · exact costs_ret ()
      · exact costs_raise _

/-- `open` pauses no longer than its delay, half a second more and a second for each poll. -/
theorem openConnection_pauses (cameraMac : String) (connectDelay callbackTimeout : ℕ) :
    Costs busPause (500 + (connectDelay + callbackTimeout*1000))
      (SapConnection.openConnection cameraMac connectDelay callbackTimeout) := by
  -- the delay before the connection, and the polls for the one that comes back
  have hdial : Costs busPause (connectDelay + callbackTimeout*1000)
      (SapConnection.dial cameraMac connectDelay callbackTimeout) := by
    apply costs_bind (busPause_perform (.sleep connectDelay))
    intro _
    apply costs_free_bind (busPause_perform (.getDevice _))
    intro _
    apply costs_free_bind ((costs_tryExcept (busPause_perform (.connectProfile _))
      (logDBusException_pauses _ _)).mono (Nat.zero_le _))
    intro _
    apply (costs_bind (m := 0) (awaitConnection_pauses callbackTimeout) ?_).mono (Nat.add_zero _).le
    intro connected
    apply costs_free_bind dropOutbound_pauses
    intro _
    split_ifs
    · exact costs_free_bind (busPause_perform (.logError _)) fun _ => costs_ret none
    · exact busPause_perform (.profileFd .server)
  apply costs_bind (costs_attempt setupDbus_pauses)
  rintro (e | _)
  · exact costs_ret _
  · apply (costs_bind (m := 0) (costs_attempt hdial) ?_).mono (Nat.add_zero _).le
    rintro (e | fd)
    · exact costs_ret _
    · exact costs_ret _

/-- Commands, pauses and HTTP requests have a price by their time, the operations of the socket and
of the player one each; a datagram costs no more than to wait for it in vain, and logging is
free. -/
structure NetPrices where
  session : SessionOp → ℕ
  run : ℕ → ℕ
  pause : ℕ → ℕ
  socket : ℕ
  receive : ℕ
  datagram : ℕ
  http : ℕ → ℕ
  player : ℕ
  datagram_le : datagram ≤ receive

namespace NetPrices

variable (N : NetPrices)

def opPrice : NetOp → ℕ
  | .session op => N.session op
  | .run _ timeout => N.run timeout
  | .sleep pause => N.pause pause
  | .logError _ => 0
  | .openSocket | .setReuseAddress | .setTimeout _ | .sendTo _ _ _ | .closeSocket => N.socket
  | .recvFrom _ => N.receive
  | .httpGet _ _ timeout _ | .httpPost _ _ _ timeout => N.http timeout
  | .makeConnection _ _ | .sendRequest _ | .getResponse | .readResponse _ | .closeConnection
  | .sudoUser | .spawnPlayer _ | .writePlayer _ | .closePlayerStdin | .terminatePlayer
  | .waitPlayer _ | .killPlayer => N.player

/-- A datagram that came. -/
def received : NetEvent → Bool
  | ⟨.recvFrom _, .ok _⟩ => true
  | _ => false

def price (e : NetEvent) : ℕ := if received e then N.datagram else N.opPrice e.1

theorem price_le (e : NetEvent) : N.price e ≤ N.opPrice e.1 := by
  rw [price]
  split_ifs with h
  · obtain ⟨o, x⟩ := e
    cases o with
    | recvFrom _ => exact N.datagram_le
    | _ => cases h
  · exact le_rfl

/-- Where a datagram has the price of a wait in vain, the result of an operation does not matter. -/
theorem price_flat (h : N.datagram = N.receive) (e : NetEvent) : N.price e = N.opPrice e.1 := by
  rw [price]
  split_ifs with hreceived
  · obtain ⟨o, x⟩ := e
    cases o with
    | recvFrom _ => exact h
    | _ => cases hreceived
  · rfl

theorem perform_costs (o : NetOp) : Costs N.price (N.opPrice o) (perform o : Net (NetAns o)) :=
  costs_perform fun x => N.price_le ⟨o, x⟩

theorem logError_free (text : PyStr) : Costs N.price 0 (Net.logError text) :=
  N.perform_costs (.logError text)

theorem report_free {α : Type} (text : PyStr) (a : α) :
    Costs N.price 0 (Net.logError text >>= fun _ => pure a) :=
  costs_free_bind (N.logError_free text) fun _ => costs_ret a

/-- A handler that only reports, or lets the exception pass. -/
theorem handler_free {α : Type} {c : Prop} [Decidable c] {p : Net α} (hp : Costs N.price 0 p)
    (e : PyErr) : Costs N.price 0 (if c then p else .raise e) := by
  split_ifs
  · exact hp
  · exact costs_raise e

/-- What a scan, and a connection after it, cost. -/
def scan : ℕ := N.run 10000 + (N.pause 3000 + (N.run 10000 + (N.run 5000 + N.run 30000)))

theorem scanAndConnect_costs (ssid password : Json) (attempts : ℕ) :
    Costs N.price (attempts*N.scan) (scanAndConnect ssid password attempts) := by
  induction attempts with
  | zero => exact costs_ret _
  | succ attempts ih =>
    -- a turn is charged for all that it may do, and for the turns after it
    have hcosts : Costs N.price (N.run 10000 + (N.pause 3000 + (N.run 10000 +
        (N.run 5000 + (N.run 30000 + attempts*N.scan)))))
        (scanAndConnect ssid password (attempts+1)) := by
      apply costs_bind (N.perform_costs (.run rescanCommand 10000))
      intro _
      apply costs_bind (N.perform_costs (.sleep 3000))
      intro _
      apply costs_bind (N.perform_costs (.run listCommand 10000))
      intro scan
      apply costs_free_bind (costs_fromResult _)
      intro name
      split_ifs
      · exact ih.mono (by omega)
      apply costs_bind (N.perform_costs (.run (deleteCommand name) 5000))
      intro _
      apply costs_free_bind (costs_fromResult _)
      intro key
      apply costs_bind (N.perform_costs (.run (connectCommand name key) 30000))
      intro result
      split_ifs
      · exact costs_ret _
      · exact costs_free_bind (N.logError_free _) fun _ => ih
    exact hcosts.mono (by rw [Nat.succ_mul, scan]; omega)

theorem connectToWifi_costs (ssid password : Json) :
    Costs N.price (15*N.scan) (connectToWifi ssid password) := by
  apply (costs_tryExcept (m := 0) (costs_bind (m := 0)
    (N.scanAndConnect_costs ssid password 15) ?_) ?_).mono le_rfl
  · intro joined
    split_ifs
    · exact costs_ret _
    · exact N.report_free _ _
  · intro e
    split_ifs
    · exact N.report_free _ _
    · exact N.report_free _ _
    · exact costs_raise e

theorem resolveCameraIp_costs : Costs N.price (N.run 5000 + N.run 5000) resolveCameraIp := by
  apply (costs_tryExcept (m := 0) (costs_bind (N.perform_costs (.run interfacesCommand 5000)) ?_)
    fun e => N.handler_free (costs_ret _) e).mono le_rfl
  intro interfaces
  match wifiInterface interfaces.stdout with
  | none | some [] => exact costs_ret _
  | some (c :: wifiIface) =>
    apply (costs_bind (m := 0)
      (N.perform_costs (.run (routesCommand (c :: wifiIface)) 5000)) ?_).mono le_rfl
    exact fun _ => costs_free_bind (costs_fromResult _) fun _ => costs_ret _

/-- Only the last receive may be in vain. -/
theorem receiveLocation_costs (cameraIp : PyStr) (fuel : ℕ) :
    Costs N.price (fuel*N.datagram + N.receive) (receiveLocation cameraIp fuel) := by
  induction fuel with
  | zero => exact costs_raise _
  | succ fuel ih =>
    intro t r hr
    obtain ⟨x, u, rfl, hu⟩ := run_call_iff.mp hr
    rw [cost_cons, Nat.succ_mul]
    -- to wait in vain ends the loop; a datagram leads to the next turn at most
    cases x with
    | error e =>
      obtain ⟨rfl, -⟩ := run_raise_iff.mp hu
      have hprice : N.price ⟨.recvFrom 2048, .error e⟩ = N.receive := rfl
      rw [hprice, cost_nil]
      omega
    | ok answer =>
      have hprice : N.price ⟨.recvFrom 2048, .ok answer⟩ = N.datagram := rfl
      have hnext : cost N.price u ≤ fuel*N.datagram + N.receive := by
        obtain ⟨data, host⟩ := answer
        change Run (if host ≠ cameraIp then _ else _) u r at hu
        split_ifs at hu
        · exact ih u r hu
        · cases hlocation : locationOf data with
          | none =>
            rw [hlocation] at hu
            exact ih u r hu
          | some location =>
            rw [hlocation] at hu
            rw [(run_ret_iff.mp hu).1, cost_nil]
            exact Nat.zero_le _
      rw [hprice]
      omega

theorem ssdpProbe_costs (fuel : ℕ) (cameraIp : PyStr) :
    Costs N.price (5*N.socket + (fuel*N.datagram + N.receive)) (ssdpProbe fuel cameraIp) := by
  have hfailed (e : PyErr) : Costs N.price 0 (ssdpFailed e) := by
    rw [ssdpFailed]
    split_ifs
    · exact costs_ret _
    · exact N.report_free _ _
    · exact costs_raise e
  have hsearch : Costs N.price
      (N.socket + (N.socket + (N.socket + (fuel*N.datagram + N.receive)))) (search fuel cameraIp) :=
    costs_bind (N.perform_costs .setReuseAddress) fun _ =>
      costs_bind (N.perform_costs (.setTimeout 3000)) fun _ =>
        costs_bind (N.perform_costs (.sendTo (utf8 SSDP_MSEARCH) "239.255.255.250" 1900)) fun _ =>
          N.receiveLocation_costs cameraIp fuel
  have hcosts : Costs N.price (N.socket + (N.socket + (N.socket + (N.socket +
      (fuel*N.datagram + N.receive))) + 0 + N.socket)) (ssdpProbe fuel cameraIp) := by
    apply costs_bind (costs_attempt (N.perform_costs .openSocket))
    rintro (e | _)
    · exact (hfailed e).mono (Nat.zero_le _)
    · exact costs_tryFinally (costs_tryExcept hsearch hfailed) (N.perform_costs .closeSocket)
  exact hcosts.mono (by omega)

theorem fetchUpnpServices_costs (fromString : Bytes → Except PyErr Element) (deviceUrl : Json) :
    Costs N.price (N.http 5000) (fetchUpnpServices fromString deviceUrl) := by
  cases deviceUrl with
  | str url =>
    apply (costs_bind (m := 0) (costs_attempt (N.perform_costs (.httpGet url _ 5000 8192))) ?_).mono
      le_rfl
    rintro (e | xml)
    · exact N.handler_free (N.report_free _ _) e
    · exact costs_fromResult _
  | null | bool _ | int _ | float _ | arr _ | obj _ => exact costs_raise _

/-- The player is not charged for. -/
theorem startLiveStream_costs (hplayer : N.player = 0) (fromString : Bytes → Except PyErr Element)
    (fuel : ℕ) (cameraIp : PyStr) (services : List (PyStr × PyStr)) :
    Costs N.price (N.http 10000 + N.http 10000)
      (startLiveStream fromString fuel cameraIp services) := by
  -- what the player does is neither a command nor a request
  have hplay (streamUrl : PyStr) : Costs N.price 0 (playLiveStream fuel streamUrl) := by
    apply Performs.free ((performs_playLiveStream fuel streamUrl).mono _)
    intro o ho
    cases o with
    | session _ | run _ _ | sleep _ | openSocket | setReuseAddress | setTimeout _ | sendTo _ _ _
    | recvFrom _ | closeSocket | httpGet _ _ _ _ | httpPost _ _ _ _ => exact ho.elim
    | logError _ => exact fun _ => rfl
    | _ => exact fun _ => hplayer
  rw [startLiveStream]
  cases services.lookup (pyStr CONTENT_DIRECTORY_TYPE) with
  | none => exact costs_ret ()
  | some controlUrl =>
    have hask (action : String) (args : List (String × String)) : Costs N.price (N.http 10000)
        (sendSoapAction controlUrl CONTENT_DIRECTORY_TYPE action args) :=
      N.perform_costs (soapPost _ _ _ _)
    apply costs_bind (costs_tryExcept (m := 0)
      (costs_bind (m := 0) (hask _ _) fun _ => costs_ret ()) ?_)
    · intro _
      apply (costs_bind (m := 0)
        (costs_tryExcept (m := 0) (costs_bind (m := 0) (hask _ _) ?_) ?_) ?_).mono le_rfl
      · exact fun _ => costs_free_bind (costs_fromResult _) fun _ => costs_ret _
      · exact fun e => N.handler_free (N.report_free _ _) e
      · intro streamUrl
        obtain _ | _ | ⟨c, streamUrl⟩ := streamUrl
        · exact N.logError_free _
        · exact N.logError_free _
        · exact hplay (c :: streamUrl)
    · exact fun e => N.handler_free (N.logError_free _) e

end NetPrices

end Gear360
