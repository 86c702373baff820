import Gear360.ChildProcess
import Gear360.ChunkedSource
import Gear360.WsmAuth

namespace Gear360

open Interaction ChildProcess WsmClient

/-- The one part of the flow that differs per variant. -/
structure WsmAuthenticator (σ : Type) where
  processChallenge : Bytes → EStateM PyErr σ (Option Bytes)
  verifyConfirm : Bytes → EStateM PyErr σ Bool
  close : EStateM PyErr σ Unit

/-- `process_challenge` returns a response and `verify_confirm` then returns True. -/
def WsmAuthenticator.authenticates {σ : Type} (auth : WsmAuthenticator σ) (body confirm : Bytes)
    (s : σ) : Bool :=
  match (auth.processChallenge body).run s with
  | .ok (some _) s =>
    match (auth.verifyConfirm confirm).run s with
    | .ok verified _ => verified
    | .error _ _ => false
  | _ => false

section
variable {Priv Pub : Type} {C : CryptoPackage Priv Pub}

def pythonWsmAuthenticator (urandom : Bytes) : WsmAuthenticator (WsmClient C) where
  processChallenge challenge :=
    tryCatch (do
      let response ← WsmClient.processChallenge urandom challenge
      -- `except Exception`, so every error is a missing response
      return some response) fun _ => return none
  verifyConfirm confirm :=
    tryCatch (do
      WsmClient.verifyConfirm confirm
      -- only the two `ValueError`s of `verify_confirm` are a refusal
      return true) fun
        | .valueError _ => return false
        | e => throw e
  close := return

end

/-- The client side of libwsm. A handle that is not positive is `none`, and the response
buffer has 102 bytes whatever happened. -/
structure LibWsm (H : Type) where
  clientInit : Bytes → Bytes → Option H
  checkAndGenerateServerChallenge : H → Bytes → ℤ × Bytes × H
  checkClientResponse : H → Bytes → ℤ
  response_length : ∀ h challenge, (checkAndGenerateServerChallenge h challenge).2.1.length = 102

variable {H : Type}

/-- `main`, up to its exit status. -/
def wsmHelper (W : LibWsm H) (argv : List String) : Stdio ℤ :=
  match argv with
  | _ :: cmd :: serverId :: clientId :: _ =>
    match W.clientInit serverId.toUTF8.toList clientId.toUTF8.toList with
    | none => return 1
    | some handle => do
      let challenge ← fread 70
      if challenge.length ≠ 70 then
        return 1
      let (ret, response, handle) := W.checkAndGenerateServerChallenge handle challenge
      if ret ≤ 0 then
        fwrite response
        return 1
      fwrite response
      if cmd = "full_auth" then
        -- the rest of standard input is never looked at
        let confirm ← fread 35
        if confirm.length ≠ 35 then
          return 1
        let ret := W.checkClientResponse handle confirm
        if ret ≤ 0 then
          return 1
      return 0
  | _ => return 1

structure HelperWsmAuthenticator where
  cameraMac : String
  phoneMac : String
  helperPath : String
  process : Option Process

namespace HelperWsmAuthenticator

def RESPONSE_SIZE : ℕ := 102

def init (cameraMac phoneMac helperPath : String) : HelperWsmAuthenticator :=
  ⟨cameraMac, phoneMac, helperPath, none⟩

def close : EStateM PyErr HelperWsmAuthenticator Unit :=
  modify fun self => { self with process := self.process.map Process.kill }

/-- The process's output, cut by the sizes of the single reads. An empty read stands for the
end of the output and for silence until the deadline: both leave the loop. -/
def readResponse (sizes : List ℕ) (stdout : Bytes) : Option Bytes × Bytes :=
  let (response, rest) := ChunkedSource.gather ChunkedSource.scripted RESPONSE_SIZE []
    (stdout, sizes)
  (response, rest.1)

/-- `process_challenge` over the helper program, a pipe that holds `capacity` bytes and reads
of the given sizes. -/
def processChallenge (W : LibWsm H) (capacity : ℕ) (sizes : List ℕ) (challenge : Bytes) :
    EStateM PyErr HelperWsmAuthenticator (Option Bytes) := do
  let self ← get
  let process := Process.spawn
    (wsmHelper W [self.helperPath, "full_auth", self.cameraMac, self.phoneMac])
  let (written, process) := process.write capacity challenge
  set { self with process := some process }
  -- `stdin.write` or `flush` raises, and the process stays
  if !written then
    throw (.osError "Broken pipe")
  let (response, rest) := readResponse sizes process.stdout
  set { self with process := some (process.withStdout rest) }
  match response with
  | none =>
    close
    return none
  | some response => return some response

/-- `verify_confirm`: a broken pipe is suppressed, and the input is then not closed. -/
def verifyConfirm (capacity : ℕ) (confirm : Bytes) : EStateM PyErr HelperWsmAuthenticator Bool := do
  let self ← get
  match self.process with
  | none => return false
  | some process =>
    let (written, process) := process.write capacity confirm
    let process := if written then process.closeStdin else process
    -- the process is waited for, and killed if it is still running then
    let process := process.kill
    set { self with process := some process }
    return process.status = some 0

end HelperWsmAuthenticator

def helperWsmAuthenticator (W : LibWsm H) (capacity : ℕ) (sizes : List ℕ) :
    WsmAuthenticator HelperWsmAuthenticator where
  processChallenge := HelperWsmAuthenticator.processChallenge W capacity sizes
  verifyConfirm := HelperWsmAuthenticator.verifyConfirm capacity
  close := HelperWsmAuthenticator.close

end Gear360
