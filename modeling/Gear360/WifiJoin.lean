import Gear360.NetworkOps
import Gear360.Observer

namespace Gear360

open Interaction
open Interaction.Prog (perform fromResult tryExcept)

def rescanCommand : List PyStr := ["nmcli", "device", "wifi", "rescan"].map pyStr

def listCommand : List PyStr := ["nmcli", "-t", "-f", "SSID", "device", "wifi", "list"].map pyStr

def deleteCommand (ssid : PyStr) : List PyStr :=
  ["nmcli", "connection", "delete"].map pyStr ++ [ssid]

def connectCommand (ssid password : PyStr) : List PyStr :=
  ["nmcli", "device", "wifi", "connect"].map pyStr ++ [ssid, pyStr "password", password]

/-- The lines of a terse list, with the colons unescaped. -/
def visibleNetworks (stdout : PyStr) : List PyStr :=
  PyStr.split "\n" (PyStr.strip (PyStr.replace "\\:" ":" stdout))

/-- `any(ssid in candidate for candidate in visible)` -/
def isVisible (ssid stdout : PyStr) : Bool :=
  (visibleNetworks stdout).any fun candidate => PyStr.contains ssid candidate

/-- Text is the only JSON value that can be looked for, or be an argument. -/
def textOf : Json → Except PyErr PyStr
  | .str text => .ok text
  | _ => .error .typeError

/-- The scans; true once `nmcli` has connected. -/
def scanAndConnect (ssid password : Json) : ℕ → Net Bool
  | 0 => return false
  | attempts+1 => do
    let _ ← Net.run rescanCommand 10000
    perform (NetOp.sleep 3000)
    let scan ← Net.run listCommand 10000
    let name ← fromResult (textOf ssid)
    if !isVisible name scan.stdout then scanAndConnect ssid password attempts
    else
      -- a connection of an earlier session may have another password
      let _ ← Net.run (deleteCommand name) 5000
      let key ← fromResult (textOf password)
      let result ← Net.run (connectCommand name key) 30000
      if result.returncode = 0 then return true
      else
        Net.logError (pyStr "nmcli error: " ++ PyStr.strip result.stderr)
        scanAndConnect ssid password attempts

/-- `_connect_to_wifi` -/
def connectToWifi (ssid password : Json) : Net Bool :=
  tryExcept
    (do
      if ← scanAndConnect ssid password 15 then return true
      Net.logError (pyStr "AP not found. Connect manually:")
      return false)
    fun e =>
      if e = .other "FileNotFoundError" then do
        Net.logError (pyStr "nmcli not found. Connect manually:")
        return false
      else if e = .other "TimeoutExpired" then do
        Net.logError (pyStr "WiFi scan/connect timed out")
        return false
      else .raise e

def DEFAULT_CAMERA_IP : PyStr := pyStr "192.168.43.1"

def interfacesCommand : List PyStr :=
  ["nmcli", "-t", "-f", "DEVICE", "connection", "show", "--active"].map pyStr

def routesCommand (wifiIface : PyStr) : List PyStr :=
  ["ip", "route", "show", "dev"].map pyStr ++ [wifiIface]

/-- The first interface whose line starts with `wl`. -/
def wifiInterface (stdout : PyStr) : Option PyStr :=
  ((PyStr.split "\n" (PyStr.strip stdout)).find? fun line => pyStr "wl" <+: line).map PyStr.strip

/-- `line.split("via")[1].strip().split()[0]` -/
def gatewayOf (line : PyStr) : Except PyErr PyStr := do
  let after ← (PyStr.split "via" line)[1]?.elim (.error .indexError) .ok
  (PyStr.words (PyStr.strip after))[0]?.elim (.error .indexError) .ok

/-- The gateway of the first default route. -/
def defaultGateway (stdout : PyStr) : Except PyErr (Option PyStr) :=
  match (PyStr.split "\n" (PyStr.strip stdout)).find? fun line =>
      PyStr.contains (pyStr "default via") line with
  | none => .ok none
  | some line => (gatewayOf line).map some

/-- `_resolve_camera_ip`: what cannot be read leaves the default. -/
def resolveCameraIp : Net PyStr :=
  tryExcept
    (do
      let interfaces ← Net.run interfacesCommand 5000
      match wifiInterface interfaces.stdout with
      | none | some [] => return DEFAULT_CAMERA_IP
      | some wifiIface =>
        let routes ← Net.run (routesCommand wifiIface) 5000
        let gateway ← fromResult (defaultGateway routes.stdout)
        return gateway.getD DEFAULT_CAMERA_IP)
    fun e =>
      if e.isOSError ∨ e.isSubprocessError ∨ e = .indexError then return DEFAULT_CAMERA_IP
      else .raise e

/-! ### What is connected to -/

/-- The arguments that make `nmcli` connect. -/
def connectPrefix : List PyStr := ["nmcli", "device", "wifi", "connect"].map pyStr

def asksToJoin : NetEvent → Bool
  | ⟨.run command _, _⟩ => connectPrefix <+: command
  | _ => false

/-- A connection that came about. -/
def joins : NetEvent → Bool
  | ⟨.run command _, .ok completed⟩ => connectPrefix <+: command ∧ completed.returncode = 0
  | _ => false

def scans : NetEvent → Bool
  | ⟨.run command _, _⟩ => command = listCommand
  | _ => false

/-- A scan that was answered. -/
def listed (scan : Completed) : NetEvent := ⟨.run listCommand 10000, .ok scan⟩

def deleted (name : PyStr) (result : Completed) : NetEvent :=
  ⟨.run (deleteCommand name) 5000, .ok result⟩

/-- The connection is to this network, right after its old profile was deleted, and that right
after a scan that showed it. -/
def Due (ssid password : Json) (before : List NetEvent) (e : NetEvent) : Prop :=
  ∃ name key scan result front, ssid = .str name ∧ password = .str key ∧
    e.1 = .run (connectCommand name key) 30000 ∧ isVisible name scan.stdout = true ∧
    before = front ++ [listed scan, deleted name result]

/-- Every connection was due. -/
def Justified (ssid password : Json) (t : List NetEvent) : Prop :=
  ∀ front e back, t = front ++ e :: back → asksToJoin e = true → Due ssid password front e

section
variable {ssid password : Json} {t : List NetEvent} {e : NetEvent}

theorem justified_nil : Justified ssid password [] := by
  intro front e back h
  simp at h

theorem Justified.snoc (h : Justified ssid password t)
    (he : asksToJoin e = true → Due ssid password t e) : Justified ssid password (t ++ [e]) := by
  intro front e' back happend hconnect
  rcases List.eq_nil_or_concat back with rfl | ⟨back, last, rfl⟩
  · obtain ⟨rfl, heq⟩ := List.append_inj' happend rfl
    cases heq
    exact he hconnect
  · rw [List.concat_eq_append, ← List.cons_append, ← List.append_assoc] at happend
    exact h front e' back (List.append_inj' happend rfl).1 hconnect

theorem asksToJoin_connectCommand (name key : PyStr) (timeout : ℕ) (x : Except PyErr Completed) :
    asksToJoin ⟨.run (connectCommand name key) timeout, x⟩ = true := by
  change decide (connectPrefix <+: connectPrefix ++ [name, pyStr "password", key]) = true
  exact decide_eq_true (List.prefix_append connectPrefix _)

theorem asksToJoin_deleteCommand (name : PyStr) (timeout : ℕ) (x : Except PyErr Completed) :
    asksToJoin ⟨.run (deleteCommand name) timeout, x⟩ = false := by
  change decide (connectPrefix <+: deleteCommand name) = false
  apply decide_eq_false
  rintro ⟨tail, h⟩
  have hsecond := congrArg (·[1]?) h
  have hne : pyStr "device" ≠ pyStr "connection" := by decide
  exact hne (Option.some.inj hsecond)

theorem scans_other {command : List PyStr} (h : command ≠ listCommand) (timeout : ℕ)
    (x : Except PyErr Completed) : scans ⟨.run command timeout, x⟩ = false := decide_eq_false h

theorem joins_of_not_asksToJoin (h : asksToJoin e = false) : joins e = false := by
  obtain ⟨o, x⟩ := e
  cases o with
  | run command timeout =>
    have hno := of_decide_eq_false h
    cases x with
    | error e => rfl
    | ok completed => exact decide_eq_false fun hjoin => hno hjoin.1
  | _ => cases x <;> rfl

variable (ssid password) in
/-- What a run may have done so far, with `left` scans still to make. -/
structure JoinKept (left : ℕ) (t : List NetEvent) : Prop where
  justified : Justified ssid password t
  bounded : t.countP scans + left ≤ 15
  attempts : t.countP asksToJoin ≤ t.countP scans

variable (ssid password) in
/-- What a run has done when it returns: the last event is a connection that came about, or there
was none. -/
structure JoinDone (t : List NetEvent) (r : Except PyErr Bool) : Prop where
  kept : JoinKept ssid password 0 t
  joined : r = .ok true →
    ∃ front e, t = front ++ [e] ∧ joins e = true ∧ ∀ e ∈ front, joins e = false
  refused : r ≠ .ok true → ∀ e ∈ t, joins e = false

theorem countP_snoc (p : NetEvent → Bool) (t : List NetEvent) (e : NetEvent) :
    (t ++ [e]).countP p = t.countP p + if p e then 1 else 0 := by
  rw [List.countP_append, List.countP_singleton]

theorem JoinKept.zero {left : ℕ} (h : JoinKept ssid password left t) :
    JoinKept ssid password 0 t := ⟨h.justified, by have := h.bounded; omega, h.attempts⟩

/-- Neither a connection nor a scan. -/
def Quiet (o : NetOp) : Prop := ∀ x, asksToJoin ⟨o, x⟩ = false ∧ scans ⟨o, x⟩ = false

theorem quiet_other {o : NetOp} (h : ∀ command timeout, o ≠ .run command timeout) : Quiet o := by
  intro x
  cases o with
  | run command timeout => exact absurd rfl (h command timeout)
  | _ => exact ⟨rfl, rfl⟩

theorem JoinKept.quiet {left : ℕ} (h : JoinKept ssid password left t)
    (hconnect : asksToJoin e = false)
    (hscan : scans e = false) : JoinKept ssid password left (t ++ [e]) := by
  refine ⟨h.justified.snoc fun hc => ?_, ?_, ?_⟩
  · rw [hconnect] at hc
    cases hc
  · rw [countP_snoc, hscan]
    exact h.bounded
  · rw [countP_snoc, countP_snoc, hscan, hconnect]
    exact h.attempts

theorem joins_snoc (hno : ∀ e ∈ t, joins e = false) (he : joins e = false) :
    ∀ e' ∈ t ++ [e], joins e' = false := by
  intro e' he'
  rcases List.mem_append.mp he' with he' | he'
  · exact hno e' he'
  · rw [List.mem_singleton.mp he', he]

/-- A run that ends without a connection. -/
theorem JoinKept.done {left : ℕ} (h : JoinKept ssid password left t)
    (hno : ∀ e ∈ t, joins e = false) {r : Except PyErr Bool} (hr : r ≠ .ok true) :
    JoinDone ssid password t r := ⟨h.zero, fun heq => absurd heq hr, fun _ => hno⟩

def history (t : List NetEvent) (e : NetEvent) : List NetEvent := t ++ [e]

/-- One quiet operation of the join. -/
theorem wp_quiet {left : ℕ} {o : NetOp} {f : NetAns o → Net Bool} (hq : Quiet o)
    (h : JoinKept ssid password left t) (hno : ∀ e ∈ t, joins e = false)
    (hf : ∀ x, JoinKept ssid password left (t ++ [⟨o, .ok x⟩]) →
      (∀ e ∈ t ++ [⟨o, .ok x⟩], joins e = false) →
      wp history (f x) (JoinDone ssid password) (t ++ [⟨o, .ok x⟩])) :
    wp history (perform o >>= f) (JoinDone ssid password) t := by
  apply wp_bind.mpr
  apply wp_perform.mpr
  intro x
  have hkept := h.quiet (hq x).1 (hq x).2
  have hnone := joins_snoc hno (joins_of_not_asksToJoin (hq x).1)
  cases x with
  | error e => exact hkept.done hnone (by simp)
  | ok x => exact hf x hkept hnone

theorem quiet_rescan : Quiet (.run rescanCommand 10000) := by
  intro x
  exact ⟨by change decide (connectPrefix <+: rescanCommand) = false; decide,
    scans_other (by decide) _ x⟩

theorem quiet_delete (name : PyStr) : Quiet (.run (deleteCommand name) 5000) := by
  intro x
  refine ⟨asksToJoin_deleteCommand name _ x, scans_other ?_ _ x⟩
  intro h
  have hlen := congrArg List.length h
  simp [deleteCommand, listCommand] at hlen

theorem scans_listCommand (timeout : ℕ) (x : Except PyErr Completed) :
    asksToJoin ⟨.run listCommand timeout, x⟩ = false ∧
      scans ⟨.run listCommand timeout, x⟩ = true := by
  constructor
  · change decide (connectPrefix <+: listCommand) = false
    decide
  · change decide (listCommand = listCommand) = true
    exact decide_eq_true rfl

/-- A turn that connects, after the scan and the deletion. -/
theorem wp_connect {name key : PyStr} {scan result : Completed} {left : ℕ} {again : Net Bool}
    (h : JoinKept (.str name) (.str key) left (t ++ [listed scan] ++ [deleted name result]))
    (hno : ∀ e ∈ t ++ [listed scan] ++ [deleted name result], joins e = false)
    (hstrict : (t ++ [listed scan] ++ [deleted name result]).countP asksToJoin + 1 ≤
      (t ++ [listed scan] ++ [deleted name result]).countP scans)
    (hvisible : isVisible name scan.stdout = true)
    (hagain : ∀ t, JoinKept (.str name) (.str key) left t → (∀ e ∈ t, joins e = false) →
      wp history again (JoinDone (.str name) (.str key)) t) :
    wp history (do
      let result ← Net.run (connectCommand name key) 30000
      if result.returncode = 0 then return true
      else
        Net.logError (pyStr "nmcli error: " ++ PyStr.strip result.stderr)
        again) (JoinDone (.str name) (.str key)) (t ++ [listed scan] ++ [deleted name result]) := by
  apply wp_bind.mpr
  apply wp_perform.mpr
  intro x
  have hconnects := asksToJoin_connectCommand name key 30000 x
  -- the command connects, it does not scan
  have hscans : scans ⟨.run (connectCommand name key) 30000, x⟩ = false := by
    apply scans_other
    intro heq
    have hthird := congrArg (·[1]?) heq
    have hne : pyStr "device" ≠ pyStr "-t" := by decide
    exact hne (Option.some.inj hthird)
  -- this is where the scan and the deletion right before are needed
  have hdue : Due (.str name) (.str key) (t ++ [listed scan] ++ [deleted name result])
      ⟨.run (connectCommand name key) 30000, x⟩ :=
    ⟨name, key, scan, result, t, rfl, rfl, rfl, hvisible, List.append_assoc _ _ _⟩
  have hkept : JoinKept (.str name) (.str key) left (history (t ++ [listed scan] ++
      [deleted name result]) ⟨.run (connectCommand name key) 30000, x⟩) := by
    refine ⟨h.justified.snoc fun _ => hdue, ?_, ?_⟩
    · rw [history, countP_snoc, hscans]
      exact h.bounded
    · rw [history, countP_snoc asksToJoin, countP_snoc scans, hscans, hconnects]
      exact hstrict
  match x with
  | .error e => exact hkept.done (joins_snoc hno rfl) (by simp)
  | .ok completed =>
    change wp history (if completed.returncode = 0 then _ else _) _ _
    split_ifs with hcode
    · refine ⟨hkept.zero, fun _ => ⟨_, _, rfl, ?_, hno⟩, fun h => absurd rfl h⟩
      exact decide_eq_true ⟨of_decide_eq_true hconnects, hcode⟩
    · have hnone := joins_snoc (e := ⟨.run (connectCommand name key) 30000, .ok completed⟩) hno
        (decide_eq_false fun hjoin => hcode hjoin.2)
      apply wp_quiet (quiet_other (by simp)) hkept hnone
      intro _ hkept' hnone'
      exact hagain _ hkept' hnone'

/-- The scans, from any history that keeps to the rules. -/
theorem wp_scanAndConnect (ssid password : Json) (attempts : ℕ) :
    ∀ t, JoinKept ssid password attempts t → (∀ e ∈ t, joins e = false) →
      wp history (scanAndConnect ssid password attempts) (JoinDone ssid password) t := by
  induction attempts with
  | zero => exact fun t h hno => h.done hno (by simp)
  | succ attempts ih =>
    intro t h hno
    apply wp_quiet quiet_rescan h hno
    clear h hno
    intro _ h hno
    apply wp_quiet (quiet_other (by simp)) h hno
    clear h hno
    intro _ h hno
    generalize t ++ _ ++ _ = t at h hno ⊢
    -- the scan
    apply wp_bind.mpr
    apply wp_perform.mpr
    intro x
    have hscans := scans_listCommand 10000 x
    have hnone := joins_snoc hno (joins_of_not_asksToJoin hscans.1)
    have hscanned := countP_snoc scans t ⟨.run listCommand 10000, x⟩
    have hconnected := countP_snoc asksToJoin t ⟨.run listCommand 10000, x⟩
    rw [hscans.2, if_pos rfl] at hscanned
    rw [hscans.1, if_neg (by decide)] at hconnected
    have hbounded := h.bounded
    have hattempts := h.attempts
    have hkept : JoinKept ssid password attempts (t ++ [⟨.run listCommand 10000, x⟩]) := by
      refine ⟨h.justified.snoc fun hc => ?_, by omega, by omega⟩
      rw [hscans.1] at hc
      cases hc
    match x with
    | .error e => exact hkept.done hnone (by simp)
    | .ok scan =>
      apply wp_bind.mpr
      apply wp_fromResult.mpr
      match ssid with
      | .str name =>
        change wp history (if (!isVisible name scan.stdout) = true then _ else _) _ _
        split_ifs with hvisible
        · exact ih _ hkept hnone
        · rw [Bool.not_eq_true, Bool.not_eq_false'] at hvisible
          apply wp_quiet (quiet_delete name) hkept hnone
          intro result hkept' hnone'
          apply wp_bind.mpr
          apply wp_fromResult.mpr
          match password with
          | .str key =>
            refine wp_connect hkept' hnone' ?_ hvisible ih
            have hq := quiet_delete name (.ok result)
            rw [deleted, countP_snoc asksToJoin _ ⟨.run _ _, _⟩,
              countP_snoc scans _ ⟨.run _ _, _⟩, hq.1, hq.2]
            simp only [listed, Bool.false_eq_true, if_false]
            omega
          | .null | .bool _ | .int _ | .float _ | .arr _ | .obj _ =>
            exact hkept'.done hnone' (by simp)
      | .null | .bool _ | .int _ | .float _ | .arr _ | .obj _ => exact hkept.done hnone (by simp)

theorem foldl_history (t u : List NetEvent) : u.foldl history t = t ++ u := by
  induction u generalizing t with
  | nil => exact (List.append_nil t).symm
  | cons e u ih => rw [List.foldl_cons, ih, history, List.append_assoc, List.singleton_append]

/-- The whole of `_connect_to_wifi`. -/
theorem wp_connectToWifi (ssid password : Json) :
    wp history (connectToWifi ssid password) (JoinDone ssid password) [] := by
  have hlog (text : PyStr) (t : List NetEvent) (hkept : JoinKept ssid password 0 t)
      (hno : ∀ e ∈ t, joins e = false) : wp history (do
        Net.logError text
        return false) (JoinDone ssid password) t :=
    wp_quiet (quiet_other (by simp)) hkept hno fun _ hkept hno => hkept.done hno (by simp)
  apply wp_tryExcept.mpr
  apply wp_bind.mpr
  have hstart : JoinKept ssid password 15 [] := ⟨justified_nil, le_rfl, le_rfl⟩
  apply wp_mono (wp_scanAndConnect ssid password 15 [] hstart fun e he =>
    absurd he List.not_mem_nil)
  -- the two exceptions that are handled end without a connection, as does any other
  have hhandler (e : PyErr) (t : List NetEvent) (hkept : JoinKept ssid password 0 t)
      (hno : ∀ e ∈ t, joins e = false) :
      wp history (if e = .other "FileNotFoundError" then do
          Net.logError (pyStr "nmcli not found. Connect manually:")
          return false
        else if e = .other "TimeoutExpired" then do
          Net.logError (pyStr "WiFi scan/connect timed out")
          return false
        else .raise e) (JoinDone ssid password) t := by
    split_ifs
    · exact hlog _ t hkept hno
    · exact hlog _ t hkept hno
    · exact hkept.done hno (by simp)
  intro t r hdone
  match r with
  | .error e => exact hhandler e t hdone.kept (hdone.refused (by simp))
  | .ok true => exact hdone
  | .ok false =>
    have hno := hdone.refused (by simp)
    apply wp_bind.mpr
    apply wp_perform.mpr
    intro x
    have hkept := hdone.kept.quiet (e := ⟨.logError _, x⟩) rfl rfl
    have hnone := joins_snoc (e := ⟨.logError (pyStr "AP not found. Connect manually:"), x⟩) hno
      (joins_of_not_asksToJoin rfl)
    cases x with
    | error e => exact hhandler e _ hkept hnone
    | ok x => exact hkept.done hnone (by simp)

theorem run_connectToWifi {r : Except PyErr Bool} (hr : Run (connectToWifi ssid password) t r) :
    JoinDone ssid password t r := by
  have hdone := wp_run (wp_connectToWifi ssid password) hr
  rwa [foldl_history, List.nil_append] at hdone

/-- `_connect_to_wifi` only ever connects to the network it was asked for, right after a scan that
showed it and the deletion of its stored profile, at most once a scan and with at most 15 scans. It
returns True exactly if the last thing it did was a connection that came about. -/
theorem connect_to_wifi_justified {r : Except PyErr Bool}
    (hr : Run (connectToWifi ssid password) t r) :
    Justified ssid password t ∧ t.countP asksToJoin ≤ t.countP scans ∧ t.countP scans ≤ 15 ∧
      (r = .ok true ↔ ∃ front e, t = front ++ [e] ∧ joins e = true) ∧
      ∀ e ∈ t.dropLast, joins e = false := by
  have hdone := run_connectToWifi hr
  refine ⟨hdone.kept.justified, hdone.kept.attempts, hdone.kept.bounded, ⟨?_, ?_⟩, ?_⟩
  · intro h
    obtain ⟨front, e, ht, he, -⟩ := hdone.joined h
    exact ⟨front, e, ht, he⟩
  · rintro ⟨front, e, rfl, he⟩
    by_contra h
    rw [hdone.refused h e (by simp)] at he
    cases he
  · by_cases h : r = .ok true
    · obtain ⟨front, e, rfl, -, hfront⟩ := hdone.joined h
      rwa [List.dropLast_concat]
    · exact fun e he => hdone.refused h e (List.mem_of_mem_dropLast he)

end

/-- A network that comes up in the second scan. -/
theorem connect_to_wifi_justified_second_scan :
    let script : NetScript := ⟨⟨[], []⟩, [⟨0, [], []⟩, ⟨0, pyStr "eduroam\n", []⟩, ⟨0, [], []⟩,
      ⟨0, pyStr "eduroam\nGear 360(97\\:75)\n", []⟩, ⟨10, [], []⟩, ⟨0, [], []⟩], [], []⟩
    let out := exec netPlayback
      (connectToWifi (.strOf "Gear 360(97:75)") (.strOf "97750000")) script
    (∃ front e, out.trace = front ++ [e] ∧ joins e = true) ∧
      Justified (.strOf "Gear 360(97:75)") (.strOf "97750000") out.trace ∧
      out.trace.countP scans = 2 := by
  intro script out
  have hlaw := connect_to_wifi_justified (exec_run netPlayback
    (connectToWifi (.strOf "Gear 360(97:75)") (.strOf "97750000")) script)
  exact ⟨hlaw.2.2.2.1.mp (by decide +kernel), hlaw.1, by decide +kernel⟩

/-! ### What `_resolve_camera_ip` reads -/

/-- The lines in front of another one: they may be empty and have blanks anywhere, but the output
starts with something. -/
structure FrontLines (lines : List PyStr) : Prop where
  single : ∀ line ∈ lines, 0x0A ∉ line
  start : ∀ line ∈ lines.head?, ∃ c ∈ line.head?, isWhitespace c = false

instance (lines : List PyStr) : Decidable (FrontLines lines) :=
  decidable_of_iff ((∀ line ∈ lines, 0x0A ∉ line) ∧
      ∀ line ∈ lines.head?, ∃ c ∈ line.head?, isWhitespace c = false)
    ⟨fun h => ⟨h.1, h.2⟩, fun h => ⟨h.single, h.start⟩⟩

/-- Text without a line break, with something at both ends. -/
structure Solid (s : PyStr) : Prop where
  nonempty : s ≠ []
  single : 0x0A ∉ s
  head : ∀ c ∈ s.head?, isWhitespace c = false
  last : ∀ c ∈ s.getLast?, isWhitespace c = false

instance (s : PyStr) : Decidable (Solid s) :=
  decidable_of_iff (s ≠ [] ∧ 0x0A ∉ s ∧ (∀ c ∈ s.head?, isWhitespace c = false) ∧
      ∀ c ∈ s.getLast?, isWhitespace c = false)
    ⟨fun h => ⟨h.1, h.2.1, h.2.2.1, h.2.2.2⟩, fun h => ⟨h.nonempty, h.single, h.head, h.last⟩⟩

/-- What a program prints: lines, the beginning of another one, and whatever comes after that. -/
def printed (before : List PyStr) (start tail : PyStr) : PyStr :=
  before.flatMap (· ++ pyStr "\n") ++ (start ++ tail)

/-- What is left of the line that `tail` begins with. -/
def restOfLine (tail : PyStr) : PyStr := tail.takeWhile (· ≠ 0x0A)

/-- The lines in front come back, and the line after them, up to blanks at its end. -/
theorem split_printed {before : List PyStr} {start : PyStr} (tail : PyStr)
    (hbefore : FrontLines before) (hstart : Solid start) :
    ∃ rest more, rest <+: restOfLine tail ∧
      PyStr.split "\n" (PyStr.strip (printed before start tail)) =
        before ++ (start ++ rest) :: more := by
  have hsep : pyStr "\n" = [0x0A] := by decide
  have hword : printed before start tail =
      [] ++ (before.flatMap (· ++ pyStr "\n") ++ start ++ tail) := by
    rw [printed, List.append_assoc, List.nil_append]
  -- nothing in front is trimmed, and of the last line only what comes after its beginning
  have hstrip : PyStr.strip (printed before start tail) =
      before.flatMap (· ++ pyStr "\n") ++ (start ++ tail.rdropWhile isWhitespace) := by
    rw [hword, ← List.append_assoc (before.flatMap _)]
    apply SplitText.strip_word tail (List.forall_mem_nil _)
    · exact List.append_ne_nil_of_right_ne_nil _ hstart.nonempty
    · intro c hc
      cases before with
      | nil => exact hstart.head c hc
      | cons line before =>
        obtain ⟨d, hd, hblank⟩ := hbefore.start line rfl
        rw [List.flatMap_cons, List.append_assoc, List.append_assoc,
          List.head?_append_of_ne_nil line (by rintro rfl; cases hd)] at hc
        rwa [Option.mem_unique hc hd]
    · intro c hc
      rw [List.getLast?_append_of_ne_nil _ hstart.nonempty] at hc
      exact hstart.last c hc
  have hrest : (SplitText.splitAfter [0x0A] 0 (tail.rdropWhile isWhitespace)).1 <+:
      restOfLine tail := by
    rw [SplitText.splitAfter_takeWhile, restOfLine]
    exact SplitText.takeWhile_prefix_takeWhile (List.rdropWhile_prefix _ tail)
  refine ⟨_, (SplitText.splitAfter [0x0A] 0 (tail.rdropWhile isWhitespace)).2, hrest, ?_⟩
  rw [hstrip, PyStr.split, SplitText.split_flatMap (by decide), SplitText.split, hsep,
    SplitText.splitAfter_free hstart.single]
  intro line hline
  rw [hsep]
  exact SplitText.apart_of_not_mem (hbefore.single line hline)

/-- The address of a gateway. -/
structure Gateway (address : PyStr) : Prop where
  nonempty : address ≠ []
  word : ∀ c ∈ address, isWhitespace c = false
  apart : 0x76 ∉ address

instance (address : PyStr) : Decidable (Gateway address) :=
  decidable_of_iff (address ≠ [] ∧ (∀ c ∈ address, isWhitespace c = false) ∧ 0x76 ∉ address)
    ⟨fun h => ⟨h.1, h.2.1, h.2.2⟩, fun h => ⟨h.nonempty, h.word, h.apart⟩⟩

/-- The beginning of the line of a default route, as `ip route` prints it. -/
def routeVia (address : PyStr) : PyStr := pyStr "default via " ++ address

theorem Gateway.solid {address : PyStr} (h : Gateway address) : Solid (routeVia address) := by
  have hmem {c : ℕ} (hc : c ∈ routeVia address) :
      c ∈ pyStr "default via " ∨ isWhitespace c = false :=
    (List.mem_append.mp hc).imp_right (h.word c)
  refine ⟨List.append_ne_nil_of_right_ne_nil _ h.nonempty, ?_, ?_, ?_⟩
  · intro hbreak
    rcases hmem hbreak with hbreak | hbreak
    · revert hbreak
      decide
    · revert hbreak
      decide
  · intro c hc
    cases hc
    decide
  · intro c hc
    rw [routeVia, List.getLast?_append_of_ne_nil _ h.nonempty] at hc
    exact h.word c (List.mem_of_mem_getLast? hc)

/-- The gateway is read from the line of its route. -/
theorem gatewayOf_routeVia {address rest : PyStr} (h : Gateway address)
    (hrest : ∀ c ∈ rest.head?, isWhitespace c = true) :
    gatewayOf (routeVia address ++ rest) = .ok address := by
  have hapart : SplitText.Apart (pyStr "via") (pyStr "default ") :=
    SplitText.apart_of_not_mem (by decide)
  have hsplit := SplitText.split_append (by decide) hapart (pyStr " " ++ (address ++ rest))
  -- the address has no letter of the separator, so the second piece has all of it
  have hfree : (0x76 : ℕ) ∉ pyStr " " ++ address := by
    intro hmem
    rcases List.mem_append.mp hmem with hmem | hmem
    · revert hmem
      decide
    · exact h.apart hmem
  have hvia : pyStr "via" = [0x76, 0x69, 0x61] := by decide
  have hafter : (SplitText.splitAfter (pyStr "via") 0 (pyStr " " ++ address ++ rest)).1 =
      pyStr " " ++ address ++ (SplitText.splitAfter (pyStr "via") 0 rest).1 := by
    rw [hvia, SplitText.splitAfter_free hfree rest]
  have hstart : (SplitText.splitAfter (pyStr "via") 0 rest).1 <+: rest :=
    SplitText.splitAfter_prefix (pyStr "via") rest
  generalize (SplitText.splitAfter (pyStr "via") 0 rest).1 = tail at hafter hstart
  have hblank : ∀ c ∈ pyStr " ", isWhitespace c = true := by decide
  have htail : ∀ c ∈ tail.head?, isWhitespace c = true := by
    intro c hc
    obtain ⟨back, hback⟩ := hstart
    apply hrest
    rw [← hback, List.head?_append, hc]
    rfl
  -- of that piece the first word is taken
  have hwords := SplitText.words_first hblank h.nonempty h.word htail
  have hline : PyStr.split "via" (routeVia address ++ rest) =
      pyStr "default " :: SplitText.split (pyStr "via") (pyStr " " ++ (address ++ rest)) := by
    rw [← hsplit, routeVia, List.append_assoc]
    rfl
  have hpart : (PyStr.split "via" (routeVia address ++ rest))[1]? =
      some (pyStr " " ++ (address ++ tail)) := by
    rw [hline, SplitText.split, ← List.append_assoc, hafter, List.append_assoc]
    rfl
  rw [gatewayOf, hpart]
  change (Option.elim (SplitText.words isWhitespace (SplitText.strip isWhitespace _))[0]? _ _) = _
  rw [hwords]
  rfl

/-- The first default route gives the gateway, whatever else is in the table. -/
theorem defaultGateway_printed {before : List PyStr} {address tail : PyStr}
    (hfront : FrontLines before) (hbefore : ∀ line ∈ before, ¬pyStr "default via" <:+: line)
    (haddress : Gateway address) (htail : ∀ c ∈ tail.head?, isWhitespace c = true) :
    defaultGateway (printed before (routeVia address) tail) = .ok (some address) := by
  obtain ⟨rest, more, hrest, hsplit⟩ := split_printed tail hfront haddress.solid
  have hfind : (before ++ (routeVia address ++ rest) :: more).find? (fun line =>
      PyStr.contains (pyStr "default via") line) = some (routeVia address ++ rest) := by
    rw [List.find?_append, List.find?_eq_none.mpr, Option.none_or, List.find?_cons_of_pos]
    · exact decide_eq_true (List.infix_append [] _ _)
    · intro line hline
      simpa [PyStr.contains] using hbefore line hline
  -- strip may have taken what was behind the address, but it added nothing
  have hblank : ∀ c ∈ rest.head?, isWhitespace c = true := by
    intro c hc
    obtain ⟨back, hback⟩ := hrest.trans (List.takeWhile_prefix _)
    apply htail
    rw [← hback, List.head?_append, hc]
    rfl
  rw [defaultGateway, hsplit, hfind]
  change (gatewayOf (routeVia address ++ rest)).map some = _
  rw [gatewayOf_routeVia haddress hblank]
  rfl

/-- The first interface whose line starts with `wl`, without the blanks behind it. -/
theorem wifiInterface_printed {before : List PyStr} {iface tail : PyStr}
    (hfront : FrontLines before)
    (hbefore : ∀ line ∈ before, ¬pyStr "wl" <+: line) (hiface : pyStr "wl" <+: iface)
    (hsolid : Solid iface) (htail : ∀ c ∈ restOfLine tail, isWhitespace c = true) :
    wifiInterface (printed before iface tail) = some iface := by
  obtain ⟨rest, more, hrest, hsplit⟩ := split_printed tail hfront hsolid
  have hfind : (before ++ (iface ++ rest) :: more).find? (fun line => pyStr "wl" <+: line) =
      some (iface ++ rest) := by
    rw [List.find?_append, List.find?_eq_none.mpr, Option.none_or, List.find?_cons_of_pos]
    · exact decide_eq_true (hiface.trans (List.prefix_append iface rest))
    · intro line hline
      simpa using hbefore line hline
  have hstrip : PyStr.strip (iface ++ rest) = iface :=
    SplitText.strip_blanks (List.forall_mem_nil _) (fun c hc => htail c (hrest.subset hc))
      hsolid.head hsolid.last
  rw [wifiInterface, hsplit, hfind, Option.map_some, hstrip]

/-- The active interfaces up to the first WiFi interface, and its routes up to the first default
route, as `nmcli` and `ip` print them. -/
structure WifiTables where
  ifacesBefore : List PyStr
  iface : PyStr
  routesBefore : List PyStr
  gateway : PyStr
  ifaceLines : FrontLines ifacesBefore
  ifaceName : Solid iface
  wifi : pyStr "wl" <+: iface
  firstWifi : ∀ line ∈ ifacesBefore, ¬pyStr "wl" <+: line
  routeLines : FrontLines routesBefore
  firstRoute : ∀ line ∈ routesBefore, ¬pyStr "default via" <:+: line
  address : Gateway gateway

/-- The two commands printed the tables: there are only blanks behind the name of the interface, and
after its line, or after the address of the gateway and a blank, there may be anything. -/
structure WifiTables.Answered (tables : WifiTables) (t : List NetEvent) : Prop where
  ifaces : ∀ timeout x, (⟨.run interfacesCommand timeout, x⟩ : NetEvent) ∈ t →
    ∃ completed tail, x = .ok completed ∧ (∀ c ∈ restOfLine tail, isWhitespace c = true) ∧
      completed.stdout = printed tables.ifacesBefore tables.iface tail
  routes : ∀ timeout x, (⟨.run (routesCommand tables.iface) timeout, x⟩ : NetEvent) ∈ t →
    ∃ completed tail, x = .ok completed ∧ (∀ c ∈ tail.head?, isWhitespace c = true) ∧
      completed.stdout = printed tables.routesBefore (routeVia tables.gateway) tail

/-- A command that never fails, and what came after it. -/
theorem run_completed {α : Type} {command : List PyStr} {timeout : ℕ} {f : Completed → Net α}
    {t : List NetEvent} {r : Except PyErr α} (hr : Run (Net.run command timeout >>= f) t r)
    (hok : ∀ x, (⟨.run command timeout, x⟩ : NetEvent) ∈ t → ∃ completed, x = .ok completed) :
    ∃ completed u, t = ⟨.run command timeout, .ok completed⟩ :: u ∧ Run (f completed) u r := by
  obtain ⟨x, u, rfl, hu⟩ := run_call_iff.mp hr
  obtain ⟨completed, rfl⟩ := hok x List.mem_cons_self
  exact ⟨completed, u, rfl, hu⟩

/-- `_resolve_camera_ip` returns the gateway of the first default route of the first active WiFi
interface, whatever else the tables list. -/
theorem resolve_camera_ip_gateway (tables : WifiTables) {t : List NetEvent} {r : Except PyErr PyStr}
    (hr : Run resolveCameraIp t r) (ht : tables.Answered t) : r = .ok tables.gateway := by
  -- what is in the `try` returns, so nothing of it is caught
  have hbody {t : List NetEvent} {r : Except PyErr PyStr} (hr : Run (do
      let interfaces ← Net.run interfacesCommand 5000
      match wifiInterface interfaces.stdout with
      | none | some [] => return DEFAULT_CAMERA_IP
      | some wifiIface =>
        let routes ← Net.run (routesCommand wifiIface) 5000
        let gateway ← fromResult (defaultGateway routes.stdout)
        return gateway.getD DEFAULT_CAMERA_IP) t r) (ht : tables.Answered t) :
      r = .ok tables.gateway := by
    obtain ⟨interfaces, u, rfl, hu⟩ := run_completed hr fun x hx => by
      obtain ⟨completed, _, hok, -⟩ := ht.ifaces 5000 x hx
      exact ⟨completed, hok⟩
    obtain ⟨_, tail, hsame, htail, hstdout⟩ := ht.ifaces 5000 _ List.mem_cons_self
    cases hsame
    have hiface := wifiInterface_printed tables.ifaceLines tables.firstWifi tables.wifi
      tables.ifaceName htail
    -- the name has a letter, so it is not taken for none
    obtain ⟨c, name, hname⟩ := List.exists_cons_of_ne_nil tables.ifaceName.nonempty
    rw [hstdout, hiface, hname] at hu
    simp only [← hname] at hu
    obtain ⟨routes, v, rfl, hv⟩ := run_completed hu fun x hx => by
      obtain ⟨completed, _, hok, -⟩ := ht.routes 5000 x (List.mem_cons_of_mem _ hx)
      exact ⟨completed, hok⟩
    obtain ⟨_, tail', hsame, htail', hstdout'⟩ := ht.routes 5000 _
      (List.mem_cons_of_mem _ List.mem_cons_self)
    cases hsame
    have hgateway :=
      defaultGateway_printed tables.routeLines tables.firstRoute tables.address htail'
    rw [hstdout', hgateway] at hv
    exact (run_ret_iff.mp hv).2
  rcases run_tryExcept_cases hr with ⟨a, rfl, h⟩ | ⟨e, t₁, t₂, rfl, h, -⟩
  · exact hbody h ht
  · have hfront : tables.Answered t₁ :=
      ⟨fun timeout x hx => ht.ifaces timeout x (List.mem_append_left _ hx),
        fun timeout x hx => ht.routes timeout x (List.mem_append_left _ hx)⟩
    have hok := hbody h hfront
    cases hok

/-- A host with a cable too, and a second route. -/
def hostTables : WifiTables where
  ifacesBefore := [pyStr "enp3s0"]
  iface := pyStr "wlp2s0"
  routesBefore := []
  gateway := pyStr "192.168.107.1"
  ifaceLines := by decide
  ifaceName := by decide
  wifi := by decide
  firstWifi := by decide
  routeLines := by decide
  firstRoute := by decide
  address := by decide

def interfacesOutput : Completed := ⟨0, pyStr "enp3s0\nwlp2s0\nlo\n", []⟩

def routesOutput : Completed where
  returncode := 0
  stdout := pyStr ("default via 192.168.107.1 proto dhcp src 192.168.107.20 metric 600 \n" ++
    "192.168.107.0/24 proto kernel scope link src 192.168.107.20 metric 600 \n")
  stderr := []

def hostScript : NetScript := ⟨⟨[], []⟩, [interfacesOutput, routesOutput], [], []⟩

set_option maxRecDepth 2000 in
theorem hostTables_answered :
    hostTables.Answered (exec netPlayback resolveCameraIp hostScript).trace := by
  have htrace : (exec netPlayback resolveCameraIp hostScript).trace =
      [⟨.run interfacesCommand 5000, .ok interfacesOutput⟩,
        ⟨.run (routesCommand (pyStr "wlp2s0")) 5000, .ok routesOutput⟩] := by rfl
  rw [htrace]
  constructor
  · intro timeout x hx
    rcases List.mem_pair.mp hx with h | h
    · cases h
      exact ⟨_, pyStr "\nlo\n", rfl, by decide, by decide +kernel⟩
    · cases h
  · intro timeout x hx
    rcases List.mem_pair.mp hx with h | h
    · cases h
    · cases h
      exact ⟨_, routesOutput.stdout.drop (routeVia hostTables.gateway).length, rfl,
        by decide +kernel, by decide +kernel⟩

theorem resolve_camera_ip_gateway_cable :
    (exec netPlayback resolveCameraIp hostScript).result = .ok (pyStr "192.168.107.1") :=
  resolve_camera_ip_gateway hostTables (exec_run netPlayback resolveCameraIp hostScript)
    hostTables_answered

end Gear360
