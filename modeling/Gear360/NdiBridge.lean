import Gear360.Interaction
import Gear360.NearestEven
import Gear360.TttsDemux

namespace Gear360

open Interaction
open Interaction.Prog (perform fromResult)

structure TttsHeader where
  width : ℕ
  height : ℕ
  codecName : String
  fps : ℚ

/-- `struct.unpack(">I", data)[0]` -/
def unpackI (data : Bytes) : Except PyErr ℕ :=
  if data.length = 4 then .ok (BigEndian.decode data) else .error .structError

/-- `n / d` on integers is a correctly rounded double. -/
def trueDivide (n d : ℕ) : ℚ := NearestEven.round 53 (-1074) (n/d)

def parseTttsHeader (header : Bytes) : Except PyErr TttsHeader := do
  let width ← unpackI (slice header 28 32)
  let height ← unpackI (slice header 32 36)
  let codecType ← unpackI (slice header 36 40)
  let fpsNum ← unpackI (slice header 64 68)
  let fpsDen ← unpackI (slice header 68 72)
  -- the one field whose degenerate value is guarded
  let fps := if fpsDen ≠ 0 then trueDivide fpsNum fpsDen else 30
  let codecName := if codecType = 1 then "HEVC" else "raw"
  return ⟨width, height, codecName, fps⟩

theorem unpackI_slice (data : Bytes) (i : ℕ) (h : i+4 ≤ data.length) :
    unpackI (slice data i (i+4)) = .ok (BigEndian.decode (slice data i (i+4))) := by
  apply if_pos
  simp only [slice, List.length_drop, List.length_take]
  omega

/-- A header with all its fields is parsed, whatever their values. -/
theorem parseTttsHeader_ok (header : Bytes) (h : 72 ≤ header.length) :
    parseTttsHeader header = .ok
      { width := BigEndian.decode (slice header 28 32)
        height := BigEndian.decode (slice header 32 36)
        codecName := if BigEndian.decode (slice header 36 40) = 1 then "HEVC" else "raw"
        fps := if BigEndian.decode (slice header 68 72) ≠ 0 then
            trueDivide (BigEndian.decode (slice header 64 68))
              (BigEndian.decode (slice header 68 72))
          else 30 } := by
  have hwidth := unpackI_slice header 28 (by omega)
  have hheight := unpackI_slice header 32 (by omega)
  have hcodec := unpackI_slice header 36 (by omega)
  have hnum := unpackI_slice header 64 (by omega)
  have hden := unpackI_slice header 68 (by omega)
  rw [parseTttsHeader, hwidth, hheight, hcodec, hnum, hden]
  rfl

/-- An HEVC header with these fields, and zeros where the parser does not look. -/
def headerOf (width height fpsNum fpsDen : ℕ) : Bytes :=
  headerTag ++ List.replicate 24 0 ++ BigEndian.encode 4 width ++ BigEndian.encode 4 height ++
    BigEndian.encode 4 1 ++ List.replicate 24 0 ++ BigEndian.encode 4 fpsNum ++
    BigEndian.encode 4 fpsDen ++ List.replicate 132 0

theorem headerOf_length (width height fpsNum fpsDen : ℕ) :
    (headerOf width height fpsNum fpsDen).length = 204 := by
  simp only [headerOf, List.length_append, BigEndian.encode_length, List.length_replicate]
  rfl

/-- `int(x)` drops the fraction. -/
def truncate (x : ℚ) : ℤ := if 0 ≤ x then ⌊x⌋ else ⌈x⌉

/-- `f"{x:.1f}"` for a number that is not negative. -/
def oneDecimal (x : ℚ) : String :=
  let tenths := NearestEven.toInt (10*x)
  s!"{tenths/10}.{tenths%10}"

structure VideoFrame where
  xres : ℕ
  yres : ℕ
  fourCC : String
  frameRateN : ℤ
  frameRateD : ℤ
  lineStrideInBytes : ℕ
  data : Bytes
deriving DecidableEq

inductive NdiOp where
  | getResponse (url : String)
  | closeConnection
  /-- `read_exact_bytes(response, size)` -/
  | readResponse (size : ℕ)
  | popen (command : List String)
  | setSignalHandler
  | startFeeder
  | ndiInitialize
  | sendCreate (ndiName : String) (clockVideo : Bool)
  | stopIsSet
  | setStop
  /-- `read_exact_bytes(decoder.stdout, size)` -/
  | readDecoder (size : ℕ)
  | sendVideo (frame : VideoFrame)
  | sendDestroy
  | destroy
  | terminateDecoder
  | waitDecoder (timeout : ℕ)
  | killDecoder
  | logStep (text : String)
  | logError (text : String)
  | logHint (text : String)

@[reducible] def NdiAns : NdiOp → Type
  | .getResponse _ => ℕ
  | .readResponse _ | .readDecoder _ => Option Bytes
  | .ndiInitialize | .sendCreate _ _ | .stopIsSet => Bool
  | _ => Unit

abbrev Ndi (α : Type) : Type := Prog NdiAns PyErr α

namespace Ndi

def logStep (text : String) : Ndi Unit := perform (NdiOp.logStep text)

def logError (text : String) : Ndi Unit := perform (NdiOp.logError text)

end Ndi

/-- `np.frombuffer(raw, dtype=np.uint8).reshape((height, width, 4))` -/
def reshape (raw : Bytes) (height width : ℕ) : Except PyErr Bytes :=
  if raw.length = height*width*4 then .ok raw
  else .error (.valueError
    s!"cannot reshape array of size {raw.length} into shape ({height},{width},4)")

/-- What `ndi_send_loop` sets on the video frame before any data. -/
def videoFrame (width height : ℕ) (fpsNum fpsDen : ℤ) : VideoFrame :=
  ⟨width, height, "BGRX", fpsNum, fpsDen, width*4, []⟩

/-- What is read for a frame has the shape of one. -/
theorem videoFrame_size (width height : ℕ) (fpsNum fpsDen : ℤ) :
    (videoFrame width height fpsNum fpsDen).yres*(videoFrame width height fpsNum fpsDen).xres*4 =
      width*height*4 := congrArg (·*4) (Nat.mul_comm height width)

/-- The part of one turn that may leave the loop: the frame that was sent, if one was. -/
def sendVideoFrame (video : VideoFrame) (frameSize : ℕ) : Ndi Bool := do
  if ← perform NdiOp.stopIsSet then return false
  match ← perform (NdiOp.readDecoder frameSize) with
  | none =>
    -- a short read is the end of the decoder's output
    perform NdiOp.setStop
    return false
  | some rawFrame =>
    let data ← fromResult (reshape rawFrame video.yres video.xres)
    perform (NdiOp.sendVideo { video with data := data })
    return true

/-- At most `fuel` turns of the loop, with the number of frames sent and the exception that ended
it; nothing when it still runs. -/
def sendVideoFrames (video : VideoFrame) (frameSize : ℕ) :
    ℕ → ℕ → Ndi (Option (ℕ × Except PyErr Unit))
  | 0, _ => return none
  | fuel+1, framesSent => do
    match ← (sendVideoFrame video frameSize).attempt with
    | .error e => return some (framesSent, .error e)
    | .ok false => return some (framesSent, .ok ())
    | .ok true =>
      -- the log line is inside the try as well
      let framesSent := framesSent+1
      let report : Ndi Unit :=
        if framesSent%300 = 0 then Ndi.logStep s!"NDI: sent {framesSent} frames" else return ()
      match ← report.attempt with
      | .error e => return some (framesSent, .error e)
      | .ok () => sendVideoFrames video frameSize fuel framesSent

/-- The handlers of the loop and its `finally`. -/
def finishSending (framesSent : ℕ) (ended : Except PyErr Unit) : Ndi Unit :=
  Prog.tryFinally
    ((fromResult ended).tryExcept fun
      | .osError error => Ndi.logError s!"NDI error: {error}"
      | .valueError error => Ndi.logError s!"NDI error: {error}"
      | e => .raise e)
    (do
      Ndi.logStep s!"NDI: total {framesSent} frames sent"
      perform NdiOp.sendDestroy
      perform NdiOp.destroy)

/-- `ndi_send_loop`, or nothing when it still runs after `fuel` turns. -/
def ndiSendLoop (fuel : ℕ) (hasStdout : Bool) (width height : ℕ) (fpsNum fpsDen : ℤ)
    (sourceName : String) : Ndi (Option Unit) := do
  if !hasStdout then return some ()
  if !(← perform NdiOp.ndiInitialize) then
    Ndi.logError "NDI failed to initialize"
    return some ()
  if !(← perform (NdiOp.sendCreate sourceName true)) then
    Ndi.logError "Failed to create NDI sender"
    perform NdiOp.destroy
    return some ()
  Ndi.logStep
    s!"NDI source '{sourceName}' active: {width}x{height} @ {fpsNum}/{fpsDen}fps"
  match ← sendVideoFrames (videoFrame width height fpsNum fpsDen) (width*height*4) fuel 0 with
  | none => return none
  | some (framesSent, ended) =>
    finishSending framesSent ended
    return some ()

/-- The command of `start_ffmpeg_decoder`. -/
def ffmpegCommand (width height : ℕ) (fps : ℚ) : List String :=
  ["ffmpeg", "-hide_banner", "-loglevel", "warning", "-f", "hevc", "-framerate",
    toString (truncate fps), "-i", "pipe:0", "-f", "rawvideo", "-pix_fmt", "bgra", "-s",
    s!"{width}x{height}", "-"]

/-- `_run_ndi_bridge` -/
def runNdiBridge (fuel width height : ℕ) (fpsNum fpsDen : ℤ) (sourceName : String) :
    Ndi (Option Unit) := do
  perform NdiOp.setSignalHandler
  perform NdiOp.startFeeder
  match ← ndiSendLoop fuel true width height fpsNum fpsDen sourceName with
  | none => return none
  | some () =>
    perform NdiOp.terminateDecoder
    (perform (NdiOp.waitDecoder 3)).tryExcept fun e =>
      if e = .other "TimeoutExpired" then perform NdiOp.killDecoder else .raise e
    return some ()

/-- What the bridge does with the header: the decoder and the NDI source. -/
def bridgeHeader (fuel : ℕ) (header : TttsHeader)
    (widthOverride heightOverride fpsOverride : Option ℕ) (sourceName : String) :
    Ndi (Option Unit) := do
  Ndi.logStep
    s!"TTTS: {header.width}x{header.height} {header.codecName} @ {oneDecimal header.fps}fps"
  -- an override of zero is no override
  let width := (widthOverride.filter (· ≠ 0)).getD header.width
  let height := (heightOverride.filter (· ≠ 0)).getD header.height
  let fps := ((fpsOverride.filter (· ≠ 0)).map Nat.cast).getD header.fps
  perform (NdiOp.popen (ffmpegCommand width height fps))
  runNdiBridge fuel width height (truncate fps) 1 sourceName

def bridgeUrlToNdi (fuel : ℕ) (url : String) (widthOverride heightOverride fpsOverride : Option ℕ)
    (sourceName : String) : Ndi (Option Unit) := do
  match ← (perform (NdiOp.getResponse url)).attempt with
  | .error (.osError error) =>
    -- a TimeoutError is an OSError too
    Ndi.logError s!"Could not open stream at {url}: {error}"
    perform (NdiOp.logHint "Make sure you're on the camera's WiFi and it's in liveview mode.")
    perform NdiOp.closeConnection
    return some ()
  | .error e => .raise e
  | .ok status =>
    if status ≠ 200 ∧ status ≠ 206 then
      Ndi.logError s!"HTTP {status} — stream not available"
      perform NdiOp.closeConnection
      return some ()
    Ndi.logStep s!"HTTP {status}"
    match ← perform (NdiOp.readResponse 204) with
    -- from here on the connection is left open where the header does not do
    | none =>
      Ndi.logError "Not a TTTS stream"
      return some ()
    | some rawHeader =>
      if rawHeader.take 4 ≠ headerTag then
        Ndi.logError "Not a TTTS stream"
        return some ()
      let header ← fromResult (parseTttsHeader rawHeader)
      bridgeHeader fuel header widthOverride heightOverride fpsOverride sourceName

end Gear360
