import Gear360.NetworkOps
import Gear360.Observer
import Gear360.Utf8

namespace Gear360

open Interaction
open Interaction.Prog (perform tryExcept tryFinally)

def SSDP_MSEARCH : String :=
  "M-SEARCH * HTTP/1.1\r\nHOST: 239.255.255.250:1900\r\nST: ssdp:all\r\nMX: 3\r\n" ++
    "MAN: \"ssdp:discover\"\r\n\r\n"

/-- `str.upper` of a character, as far as it can give a letter of `LOCATION`: no character whose
upper case is longer gives only such letters. -/
def upperLatin (c : ℕ) : ℕ :=
  if 0x61 ≤ c ∧ c ≤ 0x7A then c-0x20 else if c = 0x131 then 0x49 else c

/-- `line.upper().startswith("LOCATION:")` -/
def startsLocation (line : PyStr) : Bool := (line.take 9).map upperLatin = pyStr "LOCATION:"

/-- `line.split(":", 1)[1]` of a line with a colon. -/
def afterColon (line : PyStr) : PyStr := (line.dropWhile fun c => c ≠ 0x3A).drop 1

/-- The first location in a datagram. -/
def locationOf (data : Bytes) : Option PyStr :=
  ((PyStr.split "\r\n" (decodeReplace data)).find? startsLocation).map fun line =>
    PyStr.strip (afterColon line)

/-- The receiving loop; the user interrupts it after `fuel` datagrams at the latest. -/
def receiveLocation (cameraIp : PyStr) : ℕ → Net (Option PyStr)
  | 0 => .raise (.other "KeyboardInterrupt")
  | fuel+1 => do
    let (data, host) ← perform (NetOp.recvFrom 2048)
    -- other devices answer the same search
    if host ≠ cameraIp then receiveLocation cameraIp fuel
    else
      match locationOf data with
      | some location => return some location
      | none => receiveLocation cameraIp fuel

/-- The `except` clauses of `_ssdp_probe`. -/
def ssdpFailed (e : PyErr) : Net (Option PyStr) :=
  if e = .other "TimeoutError" then return none
  else if e.isOSError then do
    Net.logError (pyStr ("SSDP error: " ++ e.text))
    return none
  else .raise e

def search (fuel : ℕ) (cameraIp : PyStr) : Net (Option PyStr) := do
  perform NetOp.setReuseAddress
  perform (NetOp.setTimeout 3000)
  perform (NetOp.sendTo (utf8 SSDP_MSEARCH) "239.255.255.250" 1900)
  receiveLocation cameraIp fuel

/-- `_ssdp_probe` -/
def ssdpProbe (fuel : ℕ) (cameraIp : PyStr) : Net (Option PyStr) := do
  match ← (perform NetOp.openSocket).attempt with
  -- without a socket there is none to close
  | .error e => ssdpFailed e
  | .ok () => tryFinally ((search fuel cameraIp).tryExcept ssdpFailed) (perform NetOp.closeSocket)

/-- The location in a datagram of the camera. -/
def answerOf (cameraIp : PyStr) : Bytes × PyStr → Option PyStr
  | (data, host) => if host = cameraIp then locationOf data else none

/-- What an onlooker notes of the socket. -/
structure SocketNotes where
  isOpen : Bool
  misused : Bool
  received : List (Bytes × PyStr)

namespace SocketNotes

/-- A socket is misused when it is not open. -/
def use (n : SocketNotes) : SocketNotes := { n with misused := n.misused || !n.isOpen }

def note (n : SocketNotes) : NetEvent → SocketNotes
  | ⟨.openSocket, .ok _⟩ => { n with isOpen := true }
  | ⟨.setReuseAddress, _⟩ | ⟨.setTimeout _, _⟩ | ⟨.sendTo _ _ _, _⟩ | ⟨.recvFrom _, .error _⟩ =>
    n.use
  | ⟨.recvFrom _, .ok datagram⟩ => { n.use with received := n.received ++ [datagram] }
  | ⟨.closeSocket, _⟩ => { n.use with isOpen := false }
  | _ => n

def start : SocketNotes := ⟨false, false, []⟩

end SocketNotes

/-- The law of a probe. -/
structure Probed (cameraIp : PyStr) (n : SocketNotes) (r : Except PyErr (Option PyStr)) : Prop where
  closed : n.isOpen = false
  used : n.misused = false
  found : ∀ found, r = .ok found → found = n.received.findSome? (answerOf cameraIp)
  unanswered : ∀ d ∈ n.received.dropLast, answerOf cameraIp d = none

section
variable {fuel : ℕ} {cameraIp : PyStr} {n : SocketNotes} {r : Except PyErr (Option PyStr)}

/-- While the camera has not answered. -/
structure Listening (cameraIp : PyStr) (isOpen : Bool) (n : SocketNotes) : Prop where
  isOpen : n.isOpen = isOpen
  used : n.misused = false
  unanswered : ∀ d ∈ n.received, answerOf cameraIp d = none

/-- What a search leaves behind, however it ends. -/
structure Searched (cameraIp : PyStr) (n : SocketNotes) (r : Except PyErr (Option PyStr)) :
    Prop where
  isOpen : n.isOpen = true
  used : n.misused = false
  found : ∀ found, r = .ok found → found = n.received.findSome? (answerOf cameraIp)
  unanswered : ∀ d ∈ n.received.dropLast, answerOf cameraIp d = none
  failed : ∀ e, r = .error e → ∀ d ∈ n.received, answerOf cameraIp d = none

theorem Listening.searched (h : Listening cameraIp true n)
    (hr : ∀ found, r = .ok found → found = none) :
    Searched cameraIp n r := by
  refine ⟨h.isOpen, h.used, ?_, fun d hd => h.unanswered d (List.mem_of_mem_dropLast hd),
    fun _ _ => h.unanswered⟩
  intro found hfound
  rw [hr found hfound, List.findSome?_eq_none_iff.mpr h.unanswered]

/-- Using an open socket notes nothing. -/
theorem Listening.use (h : Listening cameraIp true n) : n.use = n := by
  obtain ⟨isOpen, misused, received⟩ := n
  obtain ⟨hopen, hused, -⟩ := h
  cases hopen
  cases hused
  rfl

/-- A datagram that does not answer. -/
theorem Listening.receive (h : Listening cameraIp true n) {d : Bytes × PyStr}
    (hd : answerOf cameraIp d = none) :
    Listening cameraIp true { n.use with received := n.received ++ [d] } := by
  rw [h.use]
  refine ⟨h.isOpen, h.used, ?_⟩
  intro d' hd'
  rcases List.mem_append.mp hd' with hd' | hd'
  · exact h.unanswered d' hd'
  · rw [List.mem_singleton.mp hd', hd]

/-- The datagram that answers. -/
theorem Listening.answered (h : Listening cameraIp true n) {d : Bytes × PyStr} {location : PyStr}
    (hd : answerOf cameraIp d = some location) :
    Searched cameraIp { n.use with received := n.received ++ [d] } (.ok (some location)) := by
  rw [h.use]
  refine ⟨h.isOpen, h.used, ?_, ?_, nofun⟩
  · intro found hfound
    cases hfound
    rw [List.findSome?_append, List.findSome?_eq_none_iff.mpr h.unanswered, Option.none_or,
      List.findSome?_singleton, hd]
  · intro d' hd'
    rw [List.dropLast_concat] at hd'
    exact h.unanswered d' hd'

theorem wp_receiveLocation (h : Listening cameraIp true n) :
    wp SocketNotes.note (receiveLocation cameraIp fuel) (Searched cameraIp) n := by
  induction fuel generalizing n with
  | zero => exact h.searched (by simp)
  | succ fuel ih =>
    apply wp_bind.mpr
    apply wp_perform.mpr
    rintro (e | ⟨data, host⟩)
    · change Searched cameraIp n.use (.error e)
      rw [h.use]
      exact h.searched (by simp)
    · simp only
      split_ifs with hhost
      · exact ih (h.receive (if_neg hhost))
      · have hanswer : answerOf cameraIp (data, host) = locationOf data :=
          if_pos (not_not.mp hhost)
        match hlocation : locationOf data with
        | none => exact ih (h.receive (hanswer.trans hlocation))
        | some location => exact h.answered (hanswer.trans hlocation)

theorem wp_search (h : Listening cameraIp true n) :
    wp SocketNotes.note (search fuel cameraIp) (Searched cameraIp) n := by
  -- the operations before the loop only use the socket
  have huse {o : NetOp} {f : NetAns o → Net (Option PyStr)}
      (ho : ∀ x, n.note ⟨o, x⟩ = n.use)
      (hf : ∀ x, wp SocketNotes.note (f x) (Searched cameraIp) n) :
      wp SocketNotes.note (perform o >>= f) (Searched cameraIp) n := by
    apply wp_bind.mpr
    apply wp_perform.mpr
    intro x
    rw [ho x, h.use]
    cases x with
    | error e => exact h.searched (by simp)
    | ok x => exact hf x
  exact huse (o := .setReuseAddress) (fun _ => rfl) fun _ =>
    huse (o := .setTimeout 3000) (fun _ => rfl) fun _ =>
      huse (o := .sendTo (utf8 SSDP_MSEARCH) "239.255.255.250" 1900) (fun _ => rfl) fun _ =>
        wp_receiveLocation h

theorem wp_ssdpFailed {Q : SocketNotes → Except PyErr (Option PyStr) → Prop} {e : PyErr}
    (hnone : Q n (.ok none)) (herr : ∀ e, Q n (.error e)) :
    wp SocketNotes.note (ssdpFailed e) Q n := by
  rw [ssdpFailed]
  split_ifs
  · exact hnone
  · apply wp_bind.mpr
    apply wp_perform.mpr
    rintro (e' | _)
    · exact herr e'
    · exact hnone
  · exact herr e

/-- The whole of `_ssdp_probe`. -/
theorem wp_ssdpProbe (fuel : ℕ) (cameraIp : PyStr) :
    wp SocketNotes.note (ssdpProbe fuel cameraIp) (Probed cameraIp) SocketNotes.start := by
  apply wp_bind.mpr
  apply wp_attempt.mpr
  apply wp_perform.mpr
  rintro (e | _)
  · apply wp_ssdpFailed
    · exact ⟨rfl, rfl, fun found h => by cases h; rfl, List.forall_mem_nil _⟩
    · exact fun e => ⟨rfl, rfl, nofun, List.forall_mem_nil _⟩
  · apply wp_tryFinally.mpr
    apply wp_tryExcept.mpr
    have hwait : Listening cameraIp true (SocketNotes.start.note ⟨.openSocket, .ok ()⟩) :=
      ⟨rfl, rfl, List.forall_mem_nil _⟩
    -- closing leaves the datagrams as they are
    have hclose {n : SocketNotes} {x : Except PyErr (Option PyStr)}
        {Q : SocketNotes → Except PyErr Unit → Prop} (h : Searched cameraIp n x)
        (hok : ∀ n, Probed cameraIp n x → Q n (.ok ()))
        (herr : ∀ n e, Probed cameraIp n (.error e) → Q n (.error e)) :
        wp SocketNotes.note (perform NetOp.closeSocket) Q n := by
      have hused : (n.misused || !n.isOpen) = false := by rw [h.used, h.isOpen]; rfl
      apply wp_perform.mpr
      rintro (e | _)
      · exact herr _ e ⟨rfl, hused, nofun, h.unanswered⟩
      · exact hok _ ⟨rfl, hused, h.found, h.unanswered⟩
    apply wp_mono (wp_search hwait)
    rintro n (e | found) h
    · have hwait : Listening cameraIp true n := ⟨h.isOpen, h.used, h.failed e rfl⟩
      apply wp_ssdpFailed
      · exact hclose (x := .ok none) (hwait.searched (by simp)) (fun _ h => h) fun _ _ h => h
      · intro e
        exact hclose (x := .error e) (hwait.searched (by simp)) (fun _ h => h) fun _ _ h => h
    · exact hclose h (fun _ h => h) fun _ _ h => h

/-- `_ssdp_probe`, in every run: the socket is used while it is open only and is closed in the end;
what is returned is the first location among the datagrams received from the camera, and after it
nothing more is received. -/
theorem ssdp_probe_first {t : List NetEvent} (hr : Run (ssdpProbe fuel cameraIp) t r) :
    Probed cameraIp (t.foldl SocketNotes.note SocketNotes.start) r :=
  wp_run (wp_ssdpProbe fuel cameraIp) hr

end

/-- The camera answers in its second datagram. -/
def sampleDatagrams : List (Bytes × PyStr) :=
  [ (utf8 "LOCATION: http://192.168.107.7/", pyStr "192.168.107.7"),
    (utf8 "HTTP/1.1 200 OK\r\n\r\n", pyStr "192.168.107.1"),
    (utf8 "HTTP/1.1 200 OK\r\nLocation: http://192.168.107.1:7676/smp_2_\r\n\r\n",
      pyStr "192.168.107.1") ]

def sampleProbe : Outcome NetAns PyErr NetScript (Option PyStr) :=
  exec netPlayback (ssdpProbe 9 (pyStr "192.168.107.1")) ⟨⟨[], []⟩, [], sampleDatagrams, []⟩

theorem ssdp_probe_first_sample :
    some (pyStr "http://192.168.107.1:7676/smp_2_") =
      (sampleProbe.trace.foldl SocketNotes.note SocketNotes.start).received.findSome?
        (answerOf (pyStr "192.168.107.1")) :=
  (ssdp_probe_first (exec_run netPlayback _ _)).found _ (by decide +kernel)

/-- A reply that announces a location, in any capitals and between blanks, with other header lines
before it and after it. -/
structure SsdpReply where
  before : List PyStr
  name : PyStr
  front : PyStr
  location : PyStr
  back : PyStr
  after : List PyStr
  lines : ∀ line ∈ before ++ (name ++ 0x3A :: (front ++ (location ++ back))) :: after, 0x0D ∉ line
  first : ∀ line ∈ before, startsLocation line = false
  named : name.map upperLatin = pyStr "LOCATION"
  blanks : ∀ c ∈ front ++ back, isWhitespace c = true
  head : ∀ c ∈ location.head?, isWhitespace c = false
  last : ∀ c ∈ location.getLast?, isWhitespace c = false

namespace SsdpReply

def line (reply : SsdpReply) : PyStr :=
  reply.name ++ 0x3A :: (reply.front ++ (reply.location ++ reply.back))

def text (reply : SsdpReply) : PyStr :=
  (pyStr "\r\n").intercalate (reply.before ++ reply.line :: reply.after)

end SsdpReply

end Gear360
