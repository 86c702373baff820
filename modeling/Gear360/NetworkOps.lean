import Gear360.SplitText
import Gear360.WifiSession

namespace Gear360

open Interaction
open Interaction.Prog (perform)

/-- `str.isspace` of one character. -/
def isWhitespace (c : ℕ) : Bool :=
  0x09 ≤ c ∧ c ≤ 0x0D ∨ 0x1C ≤ c ∧ c ≤ 0x20 ∨ c = 0x85 ∨ c = 0xA0 ∨ c = 0x1680 ∨
    0x2000 ≤ c ∧ c ≤ 0x200A ∨ c = 0x2028 ∨ c = 0x2029 ∨ c = 0x202F ∨ c = 0x205F ∨ c = 0x3000

namespace PyStr

def strip (s : PyStr) : PyStr := SplitText.strip isWhitespace s

/-- `s.split(separator)` -/
def split (separator : String) (s : PyStr) : List PyStr := SplitText.split (pyStr separator) s

/-- `s.split()` -/
def words (s : PyStr) : List PyStr := SplitText.words isWhitespace s

def replace (old new : String) (s : PyStr) : PyStr :=
  SplitText.replace (pyStr old) (pyStr new) s

/-- `part in s` -/
def contains (part s : PyStr) : Bool := part <:+: s

end PyStr

/-- The subclasses of `OSError` that carry a name of their own. -/
def OS_ERRORS : List String :=
  [ "BlockingIOError", "ChildProcessError", "ConnectionError", "BrokenPipeError",
    "ConnectionAbortedError", "ConnectionRefusedError", "ConnectionResetError", "FileExistsError",
    "FileNotFoundError", "InterruptedError", "IsADirectoryError", "NotADirectoryError",
    "PermissionError", "ProcessLookupError", "TimeoutError", "gaierror", "herror", "URLError",
    "HTTPError" ]

namespace PyErr

/-- What `except OSError` catches. -/
def isOSError : PyErr → Bool
  | .osError _ => true
  | .other name => name ∈ OS_ERRORS
  | _ => false

/-- What `except subprocess.SubprocessError` catches. -/
def isSubprocessError : PyErr → Bool
  | .other name => name ∈ ["SubprocessError", "CalledProcessError", "TimeoutExpired"]
  | _ => false

/-- `str(error)`; the name stands for the text of a named subclass. -/
def text : PyErr → String
  | .osError message | .valueError message | .runtimeError message => message
  | .other name => name
  | .indexError => "IndexError"
  | .structError => "struct.error"
  | .attributeError => "AttributeError"
  | .typeError => "TypeError"

end PyErr

/-- What `subprocess.run` returns, with the output as text. -/
structure Completed where
  returncode : ℤ
  stdout : PyStr
  stderr : PyStr
deriving DecidableEq

/-- The operations of the network, and what a session asks of anything else. Timeouts and pauses
are in milliseconds. -/
inductive NetOp where
  | session (op : SessionOp)
  | run (command : List PyStr) (timeout : ℕ)
  | sleep (pause : ℕ)
  | logError (text : PyStr)
  | openSocket
  | setReuseAddress
  | setTimeout (timeout : ℕ)
  | sendTo (data : Bytes) (host : String) (port : ℕ)
  | recvFrom (size : ℕ)
  | closeSocket
  /-- `urlopen` of this URL and a read of what it gives; redirects and proxies are inside. -/
  | httpGet (url : PyStr) (headers : List (String × String)) (timeout size : ℕ)
  /-- `urlopen` of this URL with data, and a read of all that it gives. -/
  | httpPost (url : PyStr) (headers : List (String × String)) (data : Bytes) (timeout : ℕ)
  | makeConnection (url : PyStr) (timeout : ℕ)
  | sendRequest (url : PyStr)
  | getResponse
  | readResponse (size : ℕ)
  | closeConnection
  | sudoUser
  | spawnPlayer (command : List String)
  | writePlayer (data : Bytes)
  | closePlayerStdin
  | terminatePlayer
  | waitPlayer (timeout : ℕ)
  | killPlayer

@[reducible] def NetAns : NetOp → Type
  | .session op => SessionAns op
  | .run _ _ => Completed
  | .recvFrom _ => Bytes × PyStr
  | .httpGet _ _ _ _ | .httpPost _ _ _ _ | .readResponse _ => Bytes
  | .getResponse => ℕ
  | .sudoUser => Option String
  | _ => Unit

abbrev Net (α : Type) : Type := Prog NetAns PyErr α

abbrev NetEvent : Type := Event NetAns PyErr

namespace Net

/-- `subprocess.run(command, timeout=timeout, check=False)` -/
def run (command : List PyStr) (timeout : ℕ) : Net Completed := perform (NetOp.run command timeout)

def logError (text : PyStr) : Net Unit := perform (NetOp.logError text)

end Net

/-- What is still to be answered: the session's own script, what the commands print, the datagrams
that arrive, and the HTTP bodies and reads. -/
structure NetScript where
  session : Script
  completed : List Completed
  datagrams : List (Bytes × PyStr)
  bodies : List Bytes

/-- The network plays back its script: a command without an answer times out, as does the socket
without a datagram, and the stream ends where its bytes do. -/
def netPlayback : Handler NetAns PyErr NetScript
  | .session op, s => ((playback op s.session).1, { s with session := (playback op s.session).2 })
  | .run _ _, s =>
    (s.completed.head?.elim (.error (.other "TimeoutExpired")) .ok,
      { s with completed := s.completed.tail })
  | .recvFrom _, s =>
    (s.datagrams.head?.elim (.error (.other "TimeoutError")) .ok,
      { s with datagrams := s.datagrams.tail })
  | .httpGet _ _ _ _, s | .httpPost _ _ _ _, s | .readResponse _, s =>
    (.ok (s.bodies.head?.getD []), { s with bodies := s.bodies.tail })
  | .getResponse, s => (.ok 200, s)
  | .sudoUser, s => (.ok none, s)
  | .sleep _, s | .logError _, s | .openSocket, s | .setReuseAddress, s | .setTimeout _, s
  | .sendTo _ _ _, s | .closeSocket, s | .makeConnection _ _, s | .sendRequest _, s
  | .closeConnection, s | .spawnPlayer _, s | .writePlayer _, s | .closePlayerStdin, s
  | .terminatePlayer, s | .waitPlayer _, s | .killPlayer, s => (.ok (), s)

end Gear360
