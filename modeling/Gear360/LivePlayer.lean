import Gear360.NdiBridge
import Gear360.NetworkOps
import Gear360.Observer
import Gear360.VideoReader

namespace Gear360

open Interaction ChunkedSource
open Interaction.Prog (perform fromResult tryExcept tryFinally)

/-- One byte of `repr(data)`. -/
def reprByte (quote : ℕ) (byte : UInt8) : String :=
  let c := byte.toNat
  if c = quote ∨ c = 0x5C then String.ofList [Char.ofNat 0x5C, Char.ofNat c]
  else if c = 0x09 then "\\t"
  else if c = 0x0A then "\\n"
  else if c = 0x0D then "\\r"
  else if c < 0x20 ∨ 0x7F ≤ c then
    "\\x" ++ String.ofList [Nat.digitChar (c/16), Nat.digitChar (c%16)]
  else String.ofList [Char.ofNat c]

/-- `repr(data)`: double quotes where the text has only single ones. -/
def reprBytes (data : Bytes) : String :=
  let quote := if 0x27 ∈ data ∧ 0x22 ∉ data then 0x22 else 0x27
  let mark := String.ofList [Char.ofNat quote]
  "b" ++ mark ++ String.join (data.map (reprByte quote)) ++ mark

/-- `spawn_ffplay`, the command -/
def ffplayCommand (fps : ℚ) (sudoUser : Option String) : List String :=
  let command := ["ffplay", "-f", "hevc", "-framerate", toString (truncate fps), "-fflags",
    "nobuffer", "-flags", "low_delay", "-framedrop", "-loglevel", "warning", "-window_title",
    "Gear 360 Live", "-i", "pipe:0"]
  match sudoUser with
  | none | some "" => command
  | some user => ["sudo", "-u", user, "--"] ++ command

def spawnFfplay (fps : ℚ) : Net Unit := do
  let sudoUser ← perform NetOp.sudoUser
  perform (NetOp.spawnPlayer (ffplayCommand fps sudoUser))

/-- `_open_stream`; gives the status. -/
def openStream (streamUrl : PyStr) : Net ℕ := do
  perform (NetOp.makeConnection streamUrl 10000)
  perform (NetOp.sendRequest streamUrl)
  perform NetOp.getResponse

/-- `response.read(size)` -/
def readResponse (size : ℕ) : Net Bytes := perform (NetOp.readResponse size)

/-- The loop that shows the frames; the user interrupts it after `fuel` turns at the latest. -/
def playFrames : ℕ → Net Unit
  | 0 => .raise (.other "KeyboardInterrupt")
  | fuel+1 => do
    match ← demuxTurn readResponse with
    | .stop => return ()
    | .skip => playFrames fuel
    | .frame data =>
      match ← (perform (NetOp.writePlayer data)).attempt with
      -- a player that was closed ends the show, any other failure goes up
      | .error e => if e = .other "BrokenPipeError" then return () else .raise e
      | .ok () => playFrames fuel

/-- The `finally` of `play_live_stream`. -/
def stopPlayer : Net Unit := do
  -- what is still in the pipe may not be taken any more
  (perform NetOp.closePlayerStdin).tryExcept fun e => if e.isOSError then return () else .raise e
  perform NetOp.terminatePlayer
  (perform (NetOp.waitPlayer 3000)).tryExcept fun e =>
    if e = .other "TimeoutExpired" then perform NetOp.killPlayer else .raise e
  perform NetOp.closeConnection

/-- The part of `play_live_stream` with a player. -/
def showStream (fuel : ℕ) (fps : ℚ) : Net Unit := do
  spawnFfplay fps
  tryFinally ((playFrames fuel).tryExcept fun e =>
    if e = .other "KeyboardInterrupt" then return () else .raise e) stopPlayer

/-- `play_live_stream` -/
def playLiveStream (fuel : ℕ) (streamUrl : PyStr) : Net Unit := do
  let _ ← openStream streamUrl
  match ← readExact readResponse 204 [] with
  | none =>
    Net.logError (pyStr "Empty response (no TTTS header)")
    perform NetOp.closeConnection
  | some rawHeader =>
    if rawHeader.take 4 ≠ headerTag then
      Net.logError (pyStr ("Not a TTTS stream (magic: " ++ reprBytes (rawHeader.take 4) ++ ")"))
      perform NetOp.closeConnection
    else
      -- from here an exception leaves the connection open, until there is a player
      let header ← fromResult (parseTttsHeader rawHeader)
      showStream fuel header.fps

/-- A read of the response. -/
def streamRead : NetEvent → Option (ℕ × Except PyErr Bytes)
  | ⟨.readResponse size, x⟩ => some (size, x)
  | _ => none

/-- A frame that the player took. -/
def shown : NetEvent → Option Bytes
  | ⟨.writePlayer data, .ok _⟩ => some data
  | _ => none

/-- A frame that the player did not take. -/
def Refused (e : NetEvent) : Prop := ∃ data error, e = ⟨.writePlayer data, .error error⟩

/-- Reads fail by timeouts only, and the player takes all frames. -/
def Smooth (t : List NetEvent) : Prop :=
  (∀ e, ¬BrokenBy streamRead t e) ∧ ∀ e ∈ t, ¬Refused e

def Spawned (t : List NetEvent) : Prop :=
  ∃ command, (⟨.spawnPlayer command, .ok ()⟩ : NetEvent) ∈ t

/-- A run shows the first of these frames, and all of them if there is a player and the user is
patient. -/
structure Shows (patient : Prop) (frames : List Bytes) (t : List NetEvent) : Prop where
  inOrder : t.filterMap shown <+: frames
  all : Spawned t → patient → Smooth t → t.filterMap shown = frames

section
variable {σ : Type} {src : Source UInt8 PyErr σ} {s s' : σ} {t u : List NetEvent} {fuel : ℕ}
  {r : Except PyErr Unit}

theorem reads_readResponse : SingleRead readResponse streamRead := by
  intro n t x h
  rw [run_perform_iff.mp h]
  rfl

theorem Smooth.left (h : Smooth (t ++ u)) : Smooth t :=
  ⟨fun e he => h.1 e (he.left u), fun e he => h.2 e (List.mem_append_left u he)⟩

theorem Smooth.right (h : Smooth (t ++ u)) : Smooth u :=
  ⟨fun e he => h.1 e (he.right t), fun e he => h.2 e (List.mem_append_right t he)⟩

/-- Neither a frame nor a player. -/
def NetOp.Offstage : NetOp → Prop
  | .writePlayer _ | .spawnPlayer _ => False
  | _ => True

variable {α : Type} {p : Net α}

theorem shows_nothing {x : Except PyErr α} (hp : Performs NetOp.Offstage p) (hr : Run p t x) :
    t.filterMap shown = [] := by
  refine Performs.filterMap_eq_nil (hp.mono fun o ho x => ?_) hr
  cases o with
  | writePlayer data => exact ho.elim
  | _ => rfl

theorem offstage_perform {o : NetOp} (h : o.Offstage) :
    Performs NetOp.Offstage (perform o : Net (NetAns o)) := performs_perform h

theorem offstage_readResponse (size : ℕ) : Performs NetOp.Offstage (readResponse size) :=
  offstage_perform (o := NetOp.readResponse size) trivial

theorem demuxTurn_shows_nothing {x : Except PyErr Turn} (hr : Run (demuxTurn readResponse) t x) :
    t.filterMap shown = [] := shows_nothing (performs_demuxTurn offstage_readResponse) hr

/-- The frames shown are the next frames of the stream, and all of them when nothing comes in
between. -/
theorem run_playFrames (hr : Run (playFrames fuel) t r)
    (hs : Served src s (t.filterMap streamRead) s') :
    t.filterMap shown <+: iterVideoFrames src s ∧
      ((src.pending s).length < fuel → Smooth t →
        t.filterMap shown = iterVideoFrames src s) := by
  induction fuel generalizing s t with
  | zero =>
    obtain ⟨rfl, -⟩ := run_raise_iff.mp hr
    exact ⟨List.nil_prefix, fun h => absurd h (Nat.not_lt_zero _)⟩
  | succ fuel ih =>
    rcases run_bind_cases hr with ⟨e, he, rfl⟩ | ⟨u, turn, v, hu, hv, rfl⟩
    -- a read breaks the loop off
    · rw [demuxTurn_shows_nothing he]
      refine ⟨List.nil_prefix, fun _ hsmooth => ?_⟩
      rcases run_demuxTurn reads_readResponse he hs with ⟨_, hbad, -⟩ | ⟨e', -, hbroken⟩
      · cases hbad
      · exact absurd hbroken (hsmooth.1 e')
    · rw [List.filterMap_append] at hs
      obtain ⟨m, hsu, hsv⟩ := served_append.mp hs
      rcases run_demuxTurn reads_readResponse hu hsu with ⟨_, hturn, htells⟩ | ⟨_, hbad, -⟩
      swap
      · cases hbad
      cases hturn
      rw [List.filterMap_append, demuxTurn_shows_nothing hu, List.nil_append]
      cases turn with
      | stop =>
        obtain ⟨rfl, -⟩ := run_ret_iff.mp hv
        exact ⟨List.nil_prefix, fun _ _ => htells.symm⟩
      | skip =>
        obtain ⟨hstart, hall⟩ := ih hv hsv
        rw [htells.1]
        exact ⟨hstart, fun hfuel hsmooth => hall (by have := htells.2; omega) hsmooth.right⟩
      | frame data =>
        rw [htells.1]
        obtain ⟨x, w, rfl, hw⟩ := run_call_iff.mp hv
        have hwritten : (⟨.writePlayer data, x⟩ :: w : List NetEvent).filterMap streamRead =
            w.filterMap streamRead := rfl
        rw [hwritten] at hsv
        cases x with
        | error e =>
          have hnothing : w.filterMap shown = [] := by
            change Run (if e = .other "BrokenPipeError" then .ret () else .raise e) w r at hw
            split_ifs at hw
            · rw [(run_ret_iff.mp hw).1, List.filterMap_nil]
            · rw [(run_raise_iff.mp hw).1, List.filterMap_nil]
          have hcons : (⟨.writePlayer data, .error e⟩ :: w : List NetEvent).filterMap shown =
              w.filterMap shown := rfl
          rw [hcons, hnothing]
          refine ⟨List.nil_prefix, fun _ hsmooth => ?_⟩
          exact absurd ⟨data, e, rfl⟩ (hsmooth.right.2 _ List.mem_cons_self)
        | ok x =>
          obtain ⟨hstart, hall⟩ := ih hw hsv
          have hcons : (⟨.writePlayer data, .ok x⟩ :: w : List NetEvent).filterMap shown =
              data :: w.filterMap shown := rfl
          rw [hcons]
          refine ⟨List.cons_prefix_cons.mpr ⟨rfl, hstart⟩, fun hfuel hsmooth => ?_⟩
          have hrest : Smooth w := Smooth.right (t := [_]) hsmooth.right
          rw [hall (by have := htells.2; omega) hrest]

theorem performs_stopPlayer {P : NetOp → Prop} (hstdin : P .closePlayerStdin)
    (hterminate : P .terminatePlayer) (hwait : P (.waitPlayer 3000)) (hkill : P .killPlayer)
    (hclose : P .closeConnection) : Performs P stopPlayer := by
  have hop {o : NetOp} (h : P o) : Performs P (perform o : Net (NetAns o)) := performs_perform h
  apply performs_bind
  · apply performs_tryExcept (hop hstdin)
    intro e
    split_ifs
    · exact performs_ret _ ()
    · exact performs_raise _ e
  intro _
  apply performs_bind (hop hterminate)
  intro _
  apply performs_bind
  · apply performs_tryExcept (hop hwait)
    intro e
    split_ifs
    · exact hop hkill
    · exact performs_raise _ e
  · exact fun _ => hop hclose

theorem offstage_stopPlayer : Performs NetOp.Offstage stopPlayer :=
  performs_stopPlayer trivial trivial trivial trivial trivial

theorem performs_playFrames {P : NetOp → Prop} (hread : ∀ size, P (.readResponse size))
    (hwrite : ∀ data, P (.writePlayer data)) (fuel : ℕ) : Performs P (playFrames fuel) := by
  have hop {o : NetOp} (h : P o) : Performs P (perform o : Net (NetAns o)) := performs_perform h
  induction fuel with
  | zero => exact performs_raise _ _
  | succ fuel ih =>
    apply performs_bind (performs_demuxTurn fun size => hop (hread size))
    intro turn
    cases turn with
    | stop => exact performs_ret _ ()
    | skip => exact ih
    | frame data =>
      apply performs_bind (performs_attempt (hop (hwrite data)))
      rintro (e | _)
      · simp only
        split_ifs
        · exact performs_ret _ ()
        · exact performs_raise _ e
      · exact ih

theorem not_spawned {x : Except PyErr α} (hp : Performs NetOp.Offstage p) (hr : Run p t x) :
    ¬Spawned t := by
  rintro ⟨command, hmem⟩
  exact hp t x hr _ hmem

section
variable {patient : Prop} {frames : List Bytes}

theorem Shows.nothing (hshown : t.filterMap shown = []) (hspawned : ¬Spawned t) :
    Shows patient frames t := by
  refine ⟨?_, fun h => absurd h hspawned⟩
  rw [hshown]
  exact List.nil_prefix

/-- What is offstage comes before the frames without a difference. -/
theorem Shows.after {x : Except PyErr α} (hp : Performs NetOp.Offstage p) (hr : Run p t x)
    (h : Shows patient frames u) : Shows patient frames (t ++ u) := by
  have hshown : (t ++ u).filterMap shown = u.filterMap shown := by
    rw [List.filterMap_append, shows_nothing hp hr, List.nil_append]
  refine ⟨hshown ▸ h.inOrder, ?_⟩
  rintro ⟨command, hmem⟩ hpatient hsmooth
  rw [hshown]
  refine h.all ⟨command, ?_⟩ hpatient hsmooth.right
  exact (List.mem_append.mp hmem).resolve_left fun hmem => hp t x hr _ hmem

/-- A sequence with an offstage beginning. -/
theorem shows_bind {f : α → Net Unit} (hp : Performs NetOp.Offstage p) (hr : Run (p >>= f) t r)
    (hf : ∀ u v a, t = u ++ v → Run p u (.ok a) → Run (f a) v r → Shows patient frames v) :
    Shows patient frames t := by
  rcases run_bind_cases hr with ⟨e, he, -⟩ | ⟨u, a, v, hu, hv, rfl⟩
  · exact .nothing (shows_nothing hp he) (not_spawned hp he)
  · exact .after hp hu (hf u v a rfl hu hv)

end

/-- The frames are shown once the player is there. -/
theorem run_showStream {fps : ℚ} (hr : Run (showStream fuel fps) t r)
    (hs : Served src s (t.filterMap streamRead) s') :
    Shows ((src.pending s).length < fuel) (iterVideoFrames src s) t := by
  rw [showStream, spawnFfplay, Prog.bind_bind] at hr
  apply shows_bind (offstage_perform (o := .sudoUser) trivial) hr
  rintro u v user rfl hu hv
  rw [run_perform_iff.mp hu] at hs
  rcases run_bind_cases hv with ⟨e, he, -⟩ | ⟨v₁, _, w, hv₁, hw, rfl⟩
  · rw [run_perform_iff.mp he]
    apply Shows.nothing rfl
    rintro ⟨command, hmem⟩
    cases List.mem_singleton.mp hmem
  · rw [run_perform_iff.mp hv₁] at hs ⊢
    -- the clean-up comes after the frames and shows none
    obtain ⟨w, fin, x, y, rfl, hw, hfin, -⟩ := run_tryFinally_cases hw
    -- an interrupt is caught behind the frames and adds nothing to them
    have hplay : ∃ x, Run (playFrames fuel) w x := by
      rcases run_tryExcept_cases hw with ⟨a, -, h⟩ | ⟨e, w₁, w₂, rfl, h₁, h₂⟩
      · exact ⟨_, h⟩
      · split_ifs at h₂
        · rw [(run_ret_iff.mp h₂).1, List.append_nil]
          exact ⟨_, h₁⟩
        · rw [(run_raise_iff.mp h₂).1, List.append_nil]
          exact ⟨_, h₁⟩
    obtain ⟨x, hplay⟩ := hplay
    have hreads : (w ++ fin).filterMap streamRead =
        w.filterMap streamRead ++ fin.filterMap streamRead := List.filterMap_append
    obtain ⟨m, hs, -⟩ := served_append.mp (hreads ▸ hs)
    obtain ⟨hstart, hall⟩ := run_playFrames hplay hs
    have hshown : ([⟨.spawnPlayer (ffplayCommand fps user), .ok ()⟩] ++ (w ++ fin) :
        List NetEvent).filterMap shown = w.filterMap shown := by
      rw [List.filterMap_append, List.filterMap_append, shows_nothing offstage_stopPlayer hfin,
        List.append_nil]
      rfl
    rw [← hshown] at hstart hall
    exact ⟨hstart, fun _ hfuel hsmooth => hall hfuel hsmooth.right.left⟩

theorem performs_openStream {P : NetOp → Prop} {streamUrl : PyStr}
    (hmake : P (.makeConnection streamUrl 10000)) (hsend : P (.sendRequest streamUrl))
    (hget : P .getResponse) : Performs P (openStream streamUrl) := by
  have hop {o : NetOp} (h : P o) : Performs P (perform o : Net (NetAns o)) := performs_perform h
  exact performs_bind (hop hmake) fun _ => performs_bind (hop hsend) fun _ => hop hget

/-- However the response comes in, however the player behaves and whenever the user interrupts,
`play_live_stream` shows the first video frames of the stream in order; and it shows all of them
once there is a player that takes them, the reads fail by timeouts only and the user waits. -/
theorem live_stream_shown {streamUrl : PyStr} (hr : Run (playLiveStream fuel streamUrl) t r)
    (hs : Served src s (t.filterMap streamRead) s') :
    Shows ((src.pending s).length < fuel)
      (iterVideoFrames src (readExactBytes src 204 s).2) t := by
  have hreport (text : PyStr) : Performs NetOp.Offstage (do
      Net.logError text
      perform NetOp.closeConnection) :=
    performs_bind (offstage_perform (o := .logError text) trivial) fun _ =>
      offstage_perform (o := .closeConnection) trivial
  apply shows_bind (performs_openStream trivial trivial trivial) hr
  rintro u v _ rfl hu hv
  -- to open the stream reads nothing of it
  have hnone : u.filterMap streamRead = [] :=
    (performs_openStream (fun _ => rfl) (fun _ => rfl) fun _ => rfl).filterMap_eq_nil hu
  rw [List.filterMap_append, hnone, List.nil_append] at hs
  apply shows_bind (performs_readExact offstage_readResponse 204 []) hv
  rintro w v rawHeader rfl hw hv
  rw [List.filterMap_append] at hs
  obtain ⟨m, hsw, hs⟩ := served_append.mp hs
  -- the first read takes the header, whatever it returns
  obtain ⟨rfl, -⟩ := run_readExact reads_readResponse hw hsw
  cases rawHeader with
  | none => exact .nothing (shows_nothing (hreport _) hv) (not_spawned (hreport _) hv)
  | some rawHeader =>
    simp only at hv
    split_ifs at hv
    · exact .nothing (shows_nothing (hreport _) hv) (not_spawned (hreport _) hv)
    · rcases run_fromResult_bind_cases hv with ⟨e, -, rfl, -⟩ | ⟨header, -, hv⟩
      · apply Shows.nothing rfl
        rintro ⟨command, hmem⟩
        cases hmem
      -- the frames are those behind the header
      · have hshows := run_showStream hv hs
        have hle := readExactBytes_le src 204 s
        exact ⟨hshows.inOrder, fun hspawned hfuel => hshows.all hspawned (hle.trans_lt hfuel)⟩

/-- What `play_live_stream` asks of the player, and of the stream at this URL. -/
def NetOp.OfStream (streamUrl : PyStr) : NetOp → Prop
  | .makeConnection url _ | .sendRequest url => url = streamUrl
  | .getResponse | .readResponse _ | .closeConnection | .sudoUser | .spawnPlayer _ | .writePlayer _
  | .closePlayerStdin | .terminatePlayer | .waitPlayer _ | .killPlayer | .logError _ => True
  | _ => False

theorem performs_playLiveStream (fuel : ℕ) (streamUrl : PyStr) :
    Performs (NetOp.OfStream streamUrl) (playLiveStream fuel streamUrl) := by
  have hop {o : NetOp} (h : o.OfStream streamUrl) :
      Performs (NetOp.OfStream streamUrl) (perform o : Net (NetAns o)) := performs_perform h
  have hreport (text : PyStr) : Performs (NetOp.OfStream streamUrl) (do
      Net.logError text
      perform NetOp.closeConnection) :=
    performs_bind (hop (o := .logError text) trivial) fun _ => hop (o := .closeConnection) trivial
  apply performs_bind (performs_openStream (P := NetOp.OfStream streamUrl) rfl rfl trivial)
  intro _
  apply performs_bind
    (performs_readExact (fun size => hop (o := .readResponse size) trivial) 204 [])
  rintro (_ | rawHeader)
  · exact hreport _
  simp only
  split_ifs
  · exact hreport _
  apply performs_bind (performs_fromResult (NetOp.OfStream streamUrl) _)
  intro header
  apply performs_bind
  · exact performs_bind (hop (o := .sudoUser) trivial) fun user =>
      hop (o := .spawnPlayer (ffplayCommand header.fps user)) trivial
  intro _
  -- the clean-up and the frames only touch the player and the connection
  have hstop : Performs (NetOp.OfStream streamUrl) stopPlayer :=
    performs_stopPlayer trivial trivial trivial trivial trivial
  have hplay : Performs (NetOp.OfStream streamUrl) (playFrames fuel) :=
    performs_playFrames (fun _ => trivial) (fun _ => trivial) fuel
  apply performs_tryFinally (performs_tryExcept hplay _) hstop
  intro e
  split_ifs
  · exact performs_ret _ ()
  · exact performs_raise _ e

end

def sampleBodies : List Bytes :=
  [headerOf 1920 960 30000 1001, videoTag, [0, 0, 0, 2], List.replicate 8 0, [0xAB], [0xCD],
    audioTag, [0, 0, 0, 1], List.replicate 8 0, [0xEF]]

def samplePlay : Outcome NetAns PyErr NetScript Unit :=
  exec netPlayback (playLiveStream 300 (pyStr "http://192.168.43.1:7679/livestream/0"))
    ⟨⟨[], []⟩, [], [], sampleBodies⟩

theorem samplePlay_served : Served (arrivals (φ := PyErr)) (sampleBodies.map .ok)
    (samplePlay.trace.filterMap streamRead) [] := by
  have hreads : samplePlay.trace.filterMap streamRead =
      [ (204, .ok (headerOf 1920 960 30000 1001)), (4, .ok videoTag), (4, .ok [0, 0, 0, 2]),
        (8, .ok (List.replicate 8 0)), (2, .ok [0xAB]), (1, .ok [0xCD]), (4, .ok audioTag),
        (4, .ok [0, 0, 0, 1]), (8, .ok (List.replicate 8 0)), (1, .ok [0xEF]),
        (4, .ok []) ] := by decide +kernel
  rw [hreads]
  exact ⟨rfl, rfl, rfl, rfl, rfl, rfl, rfl, rfl, rfl, rfl, rfl, rfl⟩

def spawns (e : NetEvent) : Bool :=
  match e.1 with
  | .spawnPlayer _ => true
  | _ => false

/-- Everything went well. -/
theorem samplePlay_smooth : Spawned samplePlay.trace ∧ Smooth samplePlay.trace := by
  have hok : ∀ e ∈ samplePlay.trace, e.2.isOk = true := by decide +kernel
  have hspawns : ∃ e ∈ samplePlay.trace, spawns e = true := by decide +kernel
  refine ⟨?_, ?_, ?_⟩
  · obtain ⟨⟨o, x⟩, he, hspawn⟩ := hspawns
    cases o with
    | spawnPlayer command =>
      cases x with
      | ok _ => exact ⟨command, he⟩
      | error e => cases hok _ he
    | _ => cases hspawn
  · rintro e ⟨-, n, hn⟩
    obtain ⟨⟨o, x⟩, he, hread⟩ := List.mem_filterMap.mp hn
    have hx := hok _ he
    cases o with
    | readResponse size =>
      cases hread
      cases hx
    | _ => cases hread
  · rintro e he ⟨data, error, rfl⟩
    cases hok _ he

/-- A frame that comes in two pieces, and sound after it: the frame is shown, and is all there
is. -/
theorem live_stream_shown_sample :
    [[0xAB, 0xCD]] <+: iterVideoFrames arrivals
        (readExactBytes (arrivals (φ := PyErr)) 204 (sampleBodies.map .ok)).2 ∧
      iterVideoFrames arrivals
        (readExactBytes (arrivals (φ := PyErr)) 204 (sampleBodies.map .ok)).2 = [[0xAB, 0xCD]] := by
  have hshown : samplePlay.trace.filterMap shown = [[0xAB, 0xCD]] := by decide +kernel
  have hshows := live_stream_shown (exec_run netPlayback _ _) samplePlay_served
  have hall := hshows.all samplePlay_smooth.1 (by decide +kernel) samplePlay_smooth.2
  change samplePlay.trace.filterMap shown = _ at hall
  rw [← hshown]
  exact ⟨hshows.inOrder, hall.symm⟩

/-- What an onlooker notes of the player and the connection. -/
structure PlayerNotes where
  spawned : Bool
  /-- An operation of the clean-up failed, other than in a way that is provided for. -/
  hitch : Bool
  stray : ℕ
  stdinClosed : ℕ
  terminated : ℕ
  timedOut : ℕ
  killed : ℕ
  closed : ℕ

namespace PlayerNotes

/-- A frame is stray without a player, or after its input was closed. -/
def note (n : PlayerNotes) : NetEvent → PlayerNotes
  | ⟨.spawnPlayer _, .ok _⟩ => { n with spawned := true }
  | ⟨.writePlayer _, _⟩ =>
    if n.spawned ∧ n.stdinClosed = 0 then n else { n with stray := n.stray+1 }
  | ⟨.closePlayerStdin, .ok _⟩ => { n with stdinClosed := n.stdinClosed+1 }
  | ⟨.closePlayerStdin, .error e⟩ =>
    { n with stdinClosed := n.stdinClosed+1, hitch := n.hitch || !e.isOSError }
  | ⟨.terminatePlayer, .ok _⟩ => { n with terminated := n.terminated+1 }
  | ⟨.terminatePlayer, .error _⟩ => { n with hitch := true }
  | ⟨.waitPlayer _, .error e⟩ =>
    if e = .other "TimeoutExpired" then { n with timedOut := n.timedOut+1 }
    else { n with hitch := true }
  | ⟨.killPlayer, .ok _⟩ => { n with killed := n.killed+1 }
  | ⟨.killPlayer, .error _⟩ => { n with hitch := true }
  | ⟨.closeConnection, .ok _⟩ => { n with closed := n.closed+1 }
  | ⟨.closeConnection, .error _⟩ => { n with hitch := true }
  | _ => n

def start : PlayerNotes := ⟨false, false, 0, 0, 0, 0, 0, 0⟩

def playing : PlayerNotes := { start with spawned := true }

/-- The law of the clean-up. -/
structure Tidy (n : PlayerNotes) (r : Except PyErr Unit) : Prop where
  stray : n.stray = 0
  stdin : n.stdinClosed = if n.spawned then 1 else 0
  stopped : n.spawned = true → n.hitch = false → n.terminated = 1 ∧ n.killed = n.timedOut
  closed : n.closed = if r.isOk ∨ n.spawned ∧ ¬n.hitch then 1 else 0

/-- After the clean-up, whatever the result of the frames. -/
def Stopped (n : PlayerNotes) : Except PyErr Unit → Prop
  | .ok () => ∃ t, n =
      { playing with stdinClosed := 1, terminated := 1, timedOut := t, killed := t, closed := 1 }
  | .error _ => ∃ d t k, n =
      { playing with hitch := true, stdinClosed := 1, terminated := d, timedOut := t, killed := k }

end PlayerNotes

section
variable {α : Type} {p : Net α} {n : PlayerNotes} {fuel : ℕ}

/-- Nothing to note. -/
def Unnoted (n : PlayerNotes) (o : NetOp) : Prop := ∀ x, n.note ⟨o, x⟩ = n

theorem wp_unnoted (hp : Performs (Unnoted n) p) :
    wp PlayerNotes.note p (fun n' _ => n' = n) n := by
  refine wp_invariant (I := fun n' => n' = n) hp rfl ?_
  rintro _ o x ho rfl
  exact ho x

theorem unnoted_perform {o : NetOp} (h : Unnoted n o) :
    Performs (Unnoted n) (perform o : Net (NetAns o)) := performs_perform h

theorem unnoted_readResponse (size : ℕ) : Performs (Unnoted n) (readResponse size) :=
  unnoted_perform (o := .readResponse size) fun _ => rfl

/-- The loop only writes, and only while the player takes frames. -/
theorem unnoted_playFrames (fuel : ℕ) : Performs (Unnoted PlayerNotes.playing) (playFrames fuel) :=
  performs_playFrames (fun _ _ => rfl) (fun _ _ => rfl) fuel

/-- The clean-up itself. -/
theorem wp_stopPlayer :
    wp PlayerNotes.note stopPlayer PlayerNotes.Stopped PlayerNotes.playing := by
  have hclose (n : PlayerNotes) (t : ℕ) (hn : n = { PlayerNotes.playing with
      stdinClosed := 1, terminated := 1, timedOut := t, killed := t }) :
      wp PlayerNotes.note (perform NetOp.closeConnection) PlayerNotes.Stopped n := by
    apply wp_perform.mpr
    subst hn
    rintro (e | _)
    · exact ⟨1, t, t, rfl⟩
    · exact ⟨t, rfl⟩
  have hrest (n : PlayerNotes) (hn : n = { PlayerNotes.playing with stdinClosed := 1 }) :
      wp PlayerNotes.note (do
        perform NetOp.terminatePlayer
        (perform (NetOp.waitPlayer 3000)).tryExcept fun e =>
          if e = .other "TimeoutExpired" then perform NetOp.killPlayer else .raise e
        perform NetOp.closeConnection) PlayerNotes.Stopped n := by
    subst hn
    apply wp_bind.mpr
    apply wp_perform.mpr
    rintro (e | _)
    · exact ⟨0, 0, 0, rfl⟩
    apply wp_bind.mpr
    apply wp_tryExcept.mpr
    apply wp_perform.mpr
    rintro (e | _)
    · simp only [PlayerNotes.note]
      split_ifs with he
      · apply wp_perform.mpr
        rintro (e' | _)
        · exact ⟨1, 1, 0, rfl⟩
        · exact hclose _ 1 rfl
      · exact ⟨1, 0, 0, rfl⟩
    · exact hclose _ 0 rfl
  apply wp_bind.mpr
  apply wp_tryExcept.mpr
  apply wp_perform.mpr
  rintro (e | _)
  · cases he : e.isOSError with
    | true =>
      simp only [if_true, PlayerNotes.note, he]
      exact hrest _ rfl
    | false =>
      simp only [PlayerNotes.note, he]
      exact ⟨0, 0, 0, rfl⟩
  · exact hrest _ rfl

/-- Before there is a player nothing is left to clean up. -/
theorem PlayerNotes.tidy_raised (e : PyErr) : PlayerNotes.start.Tidy (.error e) :=
  ⟨rfl, rfl, nofun, rfl⟩

theorem wp_report (text : PyStr) : wp PlayerNotes.note (do
    Net.logError text
    perform NetOp.closeConnection) PlayerNotes.Tidy PlayerNotes.start := by
  apply wp_bind.mpr
  apply wp_perform.mpr
  rintro (e | _)
  · exact PlayerNotes.tidy_raised e
  apply wp_perform.mpr
  rintro (e | _)
  · exact ⟨rfl, rfl, nofun, rfl⟩
  · exact ⟨rfl, rfl, nofun, rfl⟩

/-- From the start of the player on, its clean-up runs whatever becomes of the frames. -/
theorem wp_showStream (fuel : ℕ) (fps : ℚ) :
    wp PlayerNotes.note (showStream fuel fps) PlayerNotes.Tidy PlayerNotes.start := by
  rw [showStream, spawnFfplay, Prog.bind_bind]
  apply wp_bind.mpr
  apply wp_perform.mpr
  rintro (e | user)
  · exact PlayerNotes.tidy_raised e
  apply wp_bind.mpr
  apply wp_perform.mpr
  rintro (e | _)
  · exact PlayerNotes.tidy_raised e
  have hbody : Performs (Unnoted PlayerNotes.playing) ((playFrames fuel).tryExcept fun e =>
      if e = .other "KeyboardInterrupt" then return () else .raise e) := by
    apply performs_tryExcept (unnoted_playFrames fuel)
    intro e
    split_ifs
    · exact performs_ret _ ()
    · exact performs_raise _ e
  -- the frames leave no note, so the clean-up starts from a player with an open input
  apply wp_tryFinally.mpr
  apply wp_mono (wp_unnoted hbody)
  rintro _ x rfl
  apply wp_mono wp_stopPlayer
  rintro n (e | _) hstopped
  · obtain ⟨d, t, k, rfl⟩ := hstopped
    exact ⟨rfl, rfl, nofun, rfl⟩
  · obtain ⟨t, rfl⟩ := hstopped
    exact ⟨rfl, rfl, fun _ _ => ⟨rfl, rfl⟩, (if_pos (.inr ⟨rfl, nofun⟩)).symm⟩

/-- In every run of `play_live_stream`, however it ends: frames are only written to a player whose
input is open; once there is a player, its input is closed exactly once, and unless the clean-up
itself fails the player is terminated, killed if it does not end in time, and the connection
closed. Without a player the connection is closed exactly if the call returns. -/
theorem live_stream_tidy {streamUrl : PyStr} {t : List NetEvent} {r : Except PyErr Unit}
    (hr : Run (playLiveStream fuel streamUrl) t r) :
    (t.foldl PlayerNotes.note PlayerNotes.start).Tidy r := by
  refine wp_run ?_ hr
  have hopen : Performs (Unnoted PlayerNotes.start) (openStream streamUrl) :=
    performs_openStream (fun _ => rfl) (fun _ => rfl) fun _ => rfl
  apply wp_seq (wp_unnoted hopen)
  swap
  · rintro _ e rfl
    exact PlayerNotes.tidy_raised e
  rintro _ _ rfl
  apply wp_seq (wp_unnoted (performs_readExact unnoted_readResponse 204 []))
  swap
  · rintro _ e rfl
    exact PlayerNotes.tidy_raised e
  rintro _ rawHeader rfl
  cases rawHeader with
  | none => exact wp_report _
  | some rawHeader =>
    simp only
    split_ifs
    · exact wp_report _
    -- a header that does not unpack raises before the `try`
    · apply wp_bind.mpr
      apply wp_fromResult.mpr
      cases parseTttsHeader rawHeader with
      | error e => exact PlayerNotes.tidy_raised e
      | ok header => exact wp_showStream fuel header.fps

end

theorem live_stream_tidy_sample :
    (samplePlay.trace.foldl PlayerNotes.note PlayerNotes.start).closed = 1 := by
  have htidy : (samplePlay.trace.foldl PlayerNotes.note PlayerNotes.start).Tidy
      samplePlay.result := live_stream_tidy (exec_run netPlayback _ _)
  rw [htidy.closed]
  decide +kernel

end Gear360
