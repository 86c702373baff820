import Gear360.ChunkedSource
import Gear360.Framing
import Gear360.Interaction

/-! SAP framing over the camera's RFCOMM file descriptor. The methods of `SapSession` are
programs over the system calls they make. -/
namespace Gear360

open Interaction
open Interaction.Prog (perform fromResult)

/-- The system calls of one session, and the error lines it prints. Timeouts are in
milliseconds. -/
inductive FdOp where
  | select (fd timeout : ℕ)
  | osRead (fd count : ℕ)
  | osWrite (fd : ℕ) (data : Bytes)
  | logError (text : String)
deriving DecidableEq

@[reducible] def FdAns : FdOp → Type
  | .select _ _ => Bool
  | .osRead _ _ => Bytes
  | .osWrite _ _ => ℕ
  | .logError _ => Unit

abbrev Fd (α : Type) : Type := Prog FdAns PyErr α

abbrev FdEvent : Type := Event FdAns PyErr

abbrev select (fd timeout : ℕ) : Fd Bool := perform (FdOp.select fd timeout)

abbrev osRead (fd count : ℕ) : Fd Bytes := perform (FdOp.osRead fd count)

abbrev osWrite (fd : ℕ) (data : Bytes) : Fd ℕ := perform (FdOp.osWrite fd data)

abbrev logError (text : String) : Fd Unit := perform (FdOp.logError text)

structure SapSession where
  fd : ℕ
  useCrc : Bool
deriving DecidableEq

/-- What `read_slp_frame` returns; its `(None, None, None)` is `none`. -/
structure SlpFrame where
  sessionId : ℕ
  frameType : ℕ
  payload : Bytes
deriving DecidableEq

namespace SapSession

def readNLoop (session : SapSession) (count : ℕ) (data : Bytes) : Fd (Option Bytes) :=
  if _hlt : data.length < count then do
    let chunk ← osRead session.fd (count-data.length)
    match chunk with
    -- an empty read is the end of the stream: what was gathered so far is lost
    | [] => return none
    | c :: cs => readNLoop session count (data ++ c :: cs)
  else return some data
termination_by count-data.length
decreasing_by simp only [List.length_append, List.length_cons]; omega

def readN (session : SapSession) (count : ℕ) : Fd (Option Bytes) := session.readNLoop count []

def readFrame (session : SapSession) (timeout : ℕ) : Fd (Option Bytes) := do
  let ready ← select session.fd timeout
  if !ready then return none else
  let data ← osRead session.fd 4096
  -- one `os.read` is one frame: a piece too short for its header is given up, not completed
  if data = [] then return none else
  if data.length < 2 then return none else
  let frameLen ← fromResult (unpackH (slice data 0 2))
  -- the bytes after the frame are dropped
  return some (slice data 2 (2+frameLen))

def sendFrame (session : SapSession) (payload : Bytes) : Fd Unit := do
  let length ← fromResult (be16 payload.length)
  let _ ← osWrite session.fd (length ++ payload)

/-- The bytes `send_slp_frame` hands to `os.write`. -/
def slpWire (useCrc : Bool) (payload : Bytes) (sessionId frameType : ℕ) : Except PyErr Bytes := do
  -- four session bits go into the first byte, the other six into the second
  let sessionMsb := (sessionId >>> 6) &&& 0x0F
  let sessionLsb := (sessionId &&& 0x3F) <<< 2
  let head ← bytesOf [(frameType <<< 4) ||| sessionMsb, sessionLsb]
  let inner := head ++ payload
  let lengthBytes ← be16 inner.length
  if useCrc then
    -- the length has a CRC of its own, placed before the inner bytes
    let lengthCrc ← be16 (crc16 lengthBytes)
    let innerCrc ← be16 (crc16 inner)
    return lengthBytes ++ lengthCrc ++ inner ++ innerCrc
  else return lengthBytes ++ inner

def sendSlpFrame (session : SapSession) (payload : Bytes) (sessionId frameType : ℕ) : Fd Unit := do
  let wire ← fromResult (slpWire session.useCrc payload sessionId frameType)
  let _ ← osWrite session.fd wire

def warnCrc (label : String) (expected actual : ℕ) : Fd Unit :=
  if expected ≠ actual then
    logError s!"CRC mismatch on {label}: expected 0x{hex4 expected}, got 0x{hex4 actual}"
  else return ()

/-- The length CRC of CRC mode; `none` when the stream ended inside it. -/
def readLengthCrc (session : SapSession) (header : Bytes) : Fd (Option Unit) :=
  if session.useCrc then do
    match ← session.readN 2 with
    | none => return none
    | some lenCrc =>
      let expected ← fromResult (unpackH lenCrc)
      warnCrc "length" expected (crc16 header)
      return some ()
  else return some ()

/-- The payload CRC of CRC mode. A stream that ended inside it is not reported. -/
def readPayloadCrc (session : SapSession) (payload : Bytes) : Fd Unit :=
  if session.useCrc then do
    match ← session.readN 2 with
    | none => return ()
    | some dataCrc =>
      let expected ← fromResult (unpackH dataCrc)
      warnCrc "payload" expected (crc16 payload)
  else return ()

/-- The body of the `try` in `read_slp_frame`, up to the received inner bytes. -/
def readInner (session : SapSession) : Fd (Option Bytes) := do
  match ← session.readN 2 with
  | none => return none
  | some header =>
    -- the length is used as it is, whatever its CRC says
    let frameLen ← fromResult (unpackH header)
    match ← session.readLengthCrc header with
    | none => return none
    | some () =>
      match ← session.readN frameLen with
      | none => return none
      | some payload =>
        session.readPayloadCrc payload
        return some payload

/-- The fields of the protocol header; fewer than two bytes are no frame. -/
def decodeInner : Bytes → Option SlpFrame
  | p₀ :: p₁ :: rest => some
    { frameType := (p₀.toNat >>> 4) &&& 0x01
      sessionId := ((p₀.toNat &&& 0x0F) <<< 6) ||| ((p₁.toNat >>> 2) &&& 0x3F)
      payload := rest }
  | _ => none

def readSlpFrame (session : SapSession) (timeout : ℕ) : Fd (Option SlpFrame) := do
  let ready ← select session.fd timeout
  if !ready then return none else
  let payload ← session.readInner.tryExcept (fun
    -- only an `OSError` is caught; a `struct.error` goes through
    | .osError error => do
      logError s!"connection lost during read: {error}"
      return none
    | e => .raise e)
  return payload.bind decodeInner

end SapSession

end Gear360
