import Gear360.Interleaving

namespace Gear360

open Interaction
open Interaction.Prog (perform attempt tryExcept)

/-- The side of a SAP profile: we connect out to the camera, or the camera connects back. -/
inductive Role where
  | client
  | server
deriving DecidableEq

/-- A file descriptor, by the profile that took it and how many that profile had taken before: the
code passes descriptors on and looks at nothing else in them. -/
structure Descriptor where
  role : Role
  index : ℕ
deriving DecidableEq

inductive BusErr where
  | dbusException (message : String)
  | osError (message : String)
  | other (name : String)

inductive DBusValue where
  | string (value : String)
  | boolean (value : Bool)
  | uint16 (value : ℕ)
deriving DecidableEq

/-- What `open` and `close` ask of D-Bus, the profiles and the system. Pauses are in
milliseconds. -/
inductive BusOp where
  | getProfileManager
  | exportProfile (role : Role) (path : String)
  | registerProfile (path uuid : String) (options : List (String × DBusValue))
  | startLoop
  | sleep (pause : ℕ)
  | getDevice (path : String)
  | connectProfile (uuid : String)
  | connectionIsSet (role : Role)
  | profileFd (role : Role)
  | osClose (fd : Descriptor)
  | unregisterProfile (path : String)
  | quitLoop
  | logError (text : String)
deriving DecidableEq

@[reducible] def BusAns : BusOp → Type
  | .connectionIsSet _ => Bool
  | .profileFd _ => Option Descriptor
  | _ => Unit

abbrev Bus (α : Type) : Type := Prog BusAns BusErr α

abbrev BusEvent : Type := Event BusAns BusErr

def SAP_UUID_CLIENT : String := "a49eb41e-cb06-495c-9f4f-bb80a90cdf00"
def SAP_UUID_SERVER : String := "a49eb41e-cb06-495c-9f4f-aa80a90cdf4a"
def PROFILE_PATH_CLIENT : String := "/gear360/sap1"
def PROFILE_PATH_SERVER : String := "/gear360/sap2"

def profilePath : Role → String
  | .client => PROFILE_PATH_CLIENT
  | .server => PROFILE_PATH_SERVER

def clientOptions : List (String × DBusValue) :=
  [("Name", .string "SAP"), ("Role", .string "client"), ("RequireAuthentication", .boolean false),
    ("RequireAuthorization", .boolean false), ("AutoConnect", .boolean false)]

def serverOptions : List (String × DBusValue) :=
  [("Name", .string "SAP"), ("Role", .string "server"), ("Channel", .uint16 0),
    ("RequireAuthentication", .boolean false), ("RequireAuthorization", .boolean false),
    ("AutoConnect", .boolean false)]

/-- `except DBusException as error: log.error(...)` -/
def logDBusException (before after : String) : BusErr → Bus Unit
  | .dbusException message => perform (BusOp.logError (before ++ message ++ after))
  | e => .raise e

/-- `with suppress(OSError)` -/
def suppressOSError (p : Bus Unit) : Bus Unit :=
  tryExcept p fun
    | .osError _ => return ()
    | e => .raise e

/-- `with suppress(DBusException)` -/
def suppressDBusException (p : Bus Unit) : Bus Unit :=
  tryExcept p fun
    | .dbusException _ => return ()
    | e => .raise e

/-- `setup_dbus`; a first registration that fails leaves out the second. -/
def setupDbus : Bus Unit := do
  perform BusOp.getProfileManager
  perform (BusOp.exportProfile .client PROFILE_PATH_CLIENT)
  perform (BusOp.exportProfile .server PROFILE_PATH_SERVER)
  let register : Bus Unit := do
    perform (BusOp.registerProfile PROFILE_PATH_CLIENT SAP_UUID_CLIENT clientOptions)
    perform (BusOp.registerProfile PROFILE_PATH_SERVER SAP_UUID_SERVER serverOptions)
  tryExcept register (logDBusException "Registration failed: " "")
  perform BusOp.startLoop
  perform (BusOp.sleep 500)

/-- `cleanup_dbus` -/
def cleanupDbus : Bus Unit := do
  suppressDBusException (perform (BusOp.unregisterProfile PROFILE_PATH_CLIENT))
  suppressDBusException (perform (BusOp.unregisterProfile PROFILE_PATH_SERVER))
  perform BusOp.quitLoop

/-- The fields that `close` looks at: whether `_manager` and `_loop` are set, and `fd`. -/
structure SapConnection where
  setUp : Bool
  fd : Option Descriptor
deriving DecidableEq

namespace SapConnection

/-- The polls for the connection of the camera. -/
def awaitConnection : ℕ → Bus Bool
  | 0 => return false
  | attempts+1 => do
    if ← perform (BusOp.connectionIsSet .server) then
      return true
    else
      perform (BusOp.sleep 1000)
      awaitConnection attempts

/-- The outbound descriptor is dropped. -/
def dropOutbound : Bus Unit := do
  match ← (perform (BusOp.profileFd .client) : Bus (Option Descriptor)) with
  | none => return ()
  | some _ =>
    -- the attribute is read once for the check and once for the call
    suppressOSError do
      match ← (perform (BusOp.profileFd .client) : Bus (Option Descriptor)) with
      | some fd => perform (BusOp.osClose fd)
      | none => .raise (.other "TypeError")

def devicePath (cameraMac : String) : String :=
  "/org/bluez/hci0/dev_" ++ cameraMac.map fun c => if c = ':' then '_' else c

/-- `open` after `setup_dbus`: what it returns is its `fd` too. -/
def dial (cameraMac : String) (connectDelay callbackTimeout : ℕ) : Bus (Option Descriptor) := do
  perform (BusOp.sleep connectDelay)
  perform (BusOp.getDevice (devicePath cameraMac))
  tryExcept (perform (BusOp.connectProfile SAP_UUID_CLIENT))
    (logDBusException "ConnectProfile failed: " " (may still work)")
  let connected ← awaitConnection callbackTimeout
  dropOutbound
  if !connected then
    perform (BusOp.logError "No connect-back from camera")
    return none
  perform (BusOp.profileFd .server)

/-- `open` after `setup_dbus` has returned or raised. -/
def afterSetup (cameraMac : String) (connectDelay callbackTimeout : ℕ) :
    Except BusErr Unit → Bus (SapConnection × Except BusErr (Option Descriptor))
  | .error e => return (⟨false, none⟩, .error e)
  | .ok () => do
    match ← ((dial cameraMac connectDelay callbackTimeout).attempt :
      Bus (Except BusErr (Option Descriptor))) with
    | .error e => return (⟨true, none⟩, .error e)
    | .ok fd => return (⟨true, fd⟩, .ok fd)

/-- `open`, with the fields that it leaves even when it raises. -/
def openConnection (cameraMac : String) (connectDelay callbackTimeout : ℕ) :
    Bus (SapConnection × Except BusErr (Option Descriptor)) := do
  let setup ← setupDbus.attempt
  afterSetup cameraMac connectDelay callbackTimeout setup

/-- `close` -/
def closeConnection (connection : SapConnection) : Bus Unit := do
  match connection.fd with
  | some fd => suppressOSError (perform (BusOp.osClose fd))
  | none => pure ()
  if connection.setUp then
    cleanupDbus

/-- `open`, whether it returns or raises, and the `close` that follows. -/
def openAndClose (cameraMac : String) (connectDelay callbackTimeout : ℕ) : Bus Unit := do
  let (connection, _) ← openConnection cameraMac connectDelay callbackTimeout
  connection.closeConnection

end SapConnection

/-- `SapProfile`: what its callback keeps, and how many descriptors it has taken. -/
structure SapProfile (role : Role) where
  fd : Option Descriptor
  connectionEvent : Bool
  taken : ℕ
  fd_eq : fd = if taken = 0 then none else some ⟨role, taken-1⟩
  event_eq : connectionEvent = decide (0 < taken)

namespace SapProfile

variable {role : Role}

def fresh (role : Role) : SapProfile role := ⟨none, false, 0, rfl, rfl⟩

/-- `NewConnection`: the descriptor is taken and replaces the one before. -/
def newConnection (profile : SapProfile role) : SapProfile role where
  fd := some ⟨role, profile.taken⟩
  connectionEvent := true
  taken := profile.taken+1
  fd_eq := by simp
  event_eq := by simp

end SapProfile

/-- What both threads share: the profiles, which of them can be called, and what was closed. -/
structure BusState where
  profile : (role : Role) → SapProfile role
  callable : Role → Bool
  closed : List Descriptor

namespace BusState

/-- Before `open`. -/
def fresh : BusState := ⟨SapProfile.fresh, fun _ => false, []⟩

def newConnection (s : BusState) (role : Role) : BusState :=
  { s with profile := Function.update s.profile role (s.profile role).newConnection }

/-- A profile can be called from when its object is there. -/
def exportProfile (s : BusState) (role : Role) : BusState :=
  { s with callable := Function.update s.callable role true }

def unregisterProfile (s : BusState) (path : String) : BusState :=
  { s with callable := fun role => s.callable role && profilePath role ≠ path }

end BusState

/-- Callbacks come at any time while their profile can be called. Attributes are read as they are,
`os.close` raises nothing but `OSError` and gives the descriptor up even then, and everything else
may raise what it likes. -/
def busSurroundings : Surroundings Role BusAns BusErr BusState where
  event role s s' := s.callable role = true ∧ s' = s.newConnection role
  answer
    | .connectionIsSet role, s, x, s' => x = .ok (s.profile role).connectionEvent ∧ s' = s
    | .profileFd role, s, x, s' => x = .ok (s.profile role).fd ∧ s' = s
    | .osClose fd, s, x, s' =>
      (x = .ok () ∨ ∃ message, x = .error (.osError message)) ∧
        s' = { s with closed := s.closed ++ [fd] }
    | .exportProfile role _, s, x, s' => s' = if x.isOk then s.exportProfile role else s
    | .unregisterProfile path, s, x, s' => s' = if x.isOk then s.unregisterProfile path else s
    | _, s, _, s' => s' = s

abbrev BusHistory : Type := History Role BusAns BusErr

/-- A callback of this profile. -/
def connects (role : Role) : Role ⊕ BusEvent → Bool
  | .inl i => i = role
  | .inr _ => false

/-- Where `open` looks for a connection: a read of the client's descriptor, a poll of the server's
event. -/
def lookAt : Role → BusOp
  | .client => .profileFd .client
  | .server => .connectionIsSet .server

def looks (role : Role) : Role ⊕ BusEvent → Bool
  | .inl _ => false
  | .inr e => e.1 = lookAt role

/-- How often the camera connected. -/
def connections (role : Role) (h : BusHistory) : ℕ := h.countP (connects role)

/-- `open` looks after a connection. -/
def Seen (role : Role) (h : BusHistory) : Prop :=
  ∃ before e after, h = before ++ e :: after ∧ looks role e = true ∧ 0 < connections role before

theorem connections_concat (role : Role) (h : BusHistory) (e : Role ⊕ BusEvent) :
    connections role (h ++ [e]) = connections role h + if connects role e then 1 else 0 := by
  rw [connections, List.countP_append, List.countP_singleton]
  rfl

theorem seen_concat {role : Role} {h : BusHistory} {e : Role ⊕ BusEvent} :
    Seen role (h ++ [e]) ↔ Seen role h ∨ (looks role e = true ∧ 0 < connections role h) := by
  constructor
  · rintro ⟨before, e', after, heq, hlook, hpos⟩
    rcases List.eq_nil_or_concat after with rfl | ⟨after', e'', rfl⟩
    · obtain ⟨rfl, he⟩ := List.append_inj' heq rfl
      cases he
      exact .inr ⟨hlook, hpos⟩
    -- the look was there before the last event
    · rw [List.concat_eq_append, ← List.cons_append, ← List.append_assoc] at heq
      obtain ⟨rfl, -⟩ := List.append_inj' heq rfl
      exact .inl ⟨before, e', after', rfl, hlook, hpos⟩
  · rintro (⟨before, e', after, rfl, hlook, hpos⟩ | ⟨hlook, hpos⟩)
    · exact ⟨before, e', after ++ [e], by simp, hlook, hpos⟩
    · exact ⟨h, e, [], rfl, hlook, hpos⟩

theorem Seen.connections_pos {role : Role} {h : BusHistory} (hs : Seen role h) :
    0 < connections role h := by
  obtain ⟨before, e, after, rfl, -, hpos⟩ := hs
  rw [connections, List.countP_append]
  exact Nat.add_pos_left hpos _

/-- No operation is a connection. -/
theorem connections_op (role : Role) (h : BusHistory) (e : BusEvent) :
    connections role (h ++ [.inr e]) = connections role h := connections_concat role h (.inr e)

theorem seen_op {role : Role} {h : BusHistory} {e : BusEvent} : Seen role (h ++ [.inr e]) ↔
    Seen role h ∨ (e.1 = lookAt role ∧ 0 < connections role h) := by
  rw [seen_concat, looks, decide_eq_true_eq]

/-- An event of the other thread is no look. -/
theorem seen_event {role i : Role} {h : BusHistory} : Seen role (h ++ [.inl i]) ↔ Seen role h := by
  rw [seen_concat, or_iff_left]
  rintro ⟨hlook, -⟩
  cases hlook

/-! ### Accounts -/

/-- What is known in terms of which connections were seen, how many there were, and what has been
closed. Further connections do not make it false. -/
structure Account where
  Holds : (Role → Prop) → (Role → ℕ) → List Descriptor → Prop
  mono : ∀ {seen : Role → Prop} {taken taken' : Role → ℕ} {closed : List Descriptor},
    taken ≤ taken' → Holds seen taken closed → Holds seen taken' closed

/-- The profiles have taken what was connected, and the account holds. -/
structure Books (A : Account) (h : BusHistory) (s : BusState) : Prop where
  taken : ∀ role, (s.profile role).taken = connections role h
  holds : A.Holds (fun role => Seen role h) (fun role => connections role h) s.closed

theorem Books.mono {A B : Account} {h : BusHistory} {s : BusState} (hA : Books A h s)
    (hAB : ∀ {seen taken closed}, A.Holds seen taken closed → B.Holds seen taken closed) :
    Books B h s := ⟨hA.taken, hAB hA.holds⟩

/-- A callback keeps every account. -/
theorem books_stable (A : Account) : Stable busSurroundings (Books A) := by
  rintro h s i s' ⟨htaken, hholds⟩ ⟨-, rfl⟩
  constructor
  · intro role
    rw [connections_concat, ← htaken]
    -- the profile that was called has taken one more, the other one is as it was
    by_cases hi : i = role
    · subst hi
      simp [BusState.newConnection, SapProfile.newConnection, connects]
    · have hother : role ≠ i := fun h => hi h.symm
      simp [BusState.newConnection, connects, hi, hother]
  · simp only [seen_event]
    apply A.mono _ hholds
    intro role
    exact (Nat.le_add_right _ _).trans_eq (connections_concat role h (.inl i)).symm

/-- No operation touches what the profiles took, and only `os.close` closes. -/
theorem answer_keeps {o : BusOp} {s s' : BusState} {x : Except BusErr (BusAns o)}
    (h : busSurroundings.answer o s x s') :
    s'.profile = s.profile ∧ ((∀ fd, o ≠ .osClose fd) → s'.closed = s.closed) := by
  cases o with
  | connectionIsSet role => rw [h.2]; exact ⟨rfl, fun _ => rfl⟩
  | profileFd role => rw [h.2]; exact ⟨rfl, fun _ => rfl⟩
  | osClose fd => rw [h.2]; exact ⟨rfl, fun hne => absurd rfl (hne fd)⟩
  | exportProfile role path =>
    obtain rfl : s' = _ := h
    split_ifs <;> exact ⟨rfl, fun _ => rfl⟩
  | unregisterProfile path =>
    obtain rfl : s' = _ := h
    split_ifs <;> exact ⟨rfl, fun _ => rfl⟩
  | _ =>
    obtain rfl : s' = s := h
    exact ⟨rfl, fun _ => rfl⟩

/-- Operations that neither look for a connection nor close a descriptor. -/
def BusOp.Quiet : BusOp → Prop
  | .connectionIsSet role => role ≠ .server
  | .profileFd role => role ≠ .client
  | .osClose _ => False
  | _ => True

theorem BusOp.Quiet.ne_lookAt {o : BusOp} (h : o.Quiet) (role : Role) : o ≠ lookAt role := by
  rintro rfl
  cases role <;> exact h rfl

theorem books_quiet {A : Account} {o : BusOp} (hquiet : o.Quiet) {h : BusHistory}
    {s s' : BusState} {x : Except BusErr (BusAns o)} (hb : Books A h s)
    (ha : busSurroundings.answer o s x s') : Books A (h ++ [.inr ⟨o, x⟩]) s' := by
  obtain ⟨hprofile, hclosed⟩ := answer_keeps ha
  have hsame : s'.closed = s.closed := hclosed fun fd hfd => by rw [hfd] at hquiet; exact hquiet
  have hseen (role : Role) : Seen role (h ++ [.inr ⟨o, x⟩]) ↔ Seen role h :=
    seen_op.trans (or_iff_left fun hlook => hquiet.ne_lookAt role hlook.1)
  constructor
  · intro role
    rw [hprofile, connections_op, hb.taken]
  · simp only [hseen, connections_op, hsame]
    exact hb.holds

/-- Every interleaving leads from one account to another, by the result. -/
abbrev Reaches {α : Type} (A : Account) (p : Bus α) (Q : Except BusErr α → Account) : Prop :=
  Establishes busSurroundings (Books A) p (fun r => Books (Q r))

/-- Where no run gets to. -/
def impossible : Account := ⟨fun _ _ _ => False, fun _ h => h⟩

/-- No exception gets through. -/
def surely {α : Type} (Q : α → Account) : Except BusErr α → Account
  | .ok a => Q a
  | .error _ => impossible

theorem reaches_ret {α : Type} {A : Account} {a : α} {Q : Except BusErr α → Account}
    (h : ∀ {seen taken closed}, A.Holds seen taken closed → (Q (.ok a)).Holds seen taken closed) :
    Reaches A (.ret a) Q := establishes_ret (books_stable A) fun _ _ hb => hb.mono h

/-- A look takes note of the connections so far. -/
theorem reaches_look (role : Role) {A : Account}
    {Q : Except BusErr (BusAns (lookAt role)) → Account}
    (hstep : ∀ h s x s', Books A h s → busSurroundings.answer (lookAt role) s x s' →
      (Q x).Holds (fun role' => Seen role' h ∨ (role' = role ∧ 0 < connections role' h))
        (fun role' => connections role' h) s.closed) : Reaches A (perform (lookAt role)) Q := by
  apply establishes_perform (books_stable A) fun x => books_stable (Q x)
  intro h s x s' hb ha
  obtain ⟨hprofile, hclosed⟩ := answer_keeps ha
  have hsame : s'.closed = s.closed := hclosed fun fd => by cases role <;> simp [lookAt]
  have hseen (role' : Role) : Seen role' (h ++ [.inr ⟨lookAt role, x⟩]) ↔
      Seen role' h ∨ (role' = role ∧ 0 < connections role' h) := by
    have hlooks : lookAt role = lookAt role' ↔ role' = role := by
      cases role <;> cases role' <;> simp [lookAt]
    rw [seen_op, hlooks]
  constructor
  · intro role'
    rw [hprofile, connections_op, hb.taken]
  · simp only [hseen, connections_op, hsame]
    exact hstep h s x s' hb ha

/-- No exception but `OSError` gets through. -/
def orOSError (A : Account) : Except BusErr Unit → Account
  | .ok _ | .error (.osError _) => A
  | .error _ => impossible

/-- `os.close` closes its descriptor, and may complain. -/
theorem reaches_osClose (fd : Descriptor) {A B : Account} (hclose : ∀ {seen taken closed},
      A.Holds seen taken closed → B.Holds seen taken (closed ++ [fd])) :
    Reaches A (perform (BusOp.osClose fd)) (orOSError B) := by
  refine establishes_perform (books_stable A) (fun x => books_stable _) ?_
  rintro h s x s' ⟨htaken, hholds⟩ ⟨hx, rfl⟩
  have hb : Books B (h ++ [.inr ⟨.osClose fd, x⟩]) { s with closed := s.closed ++ [fd] } := by
    have hseen (role : Role) : Seen role (h ++ [.inr ⟨.osClose fd, x⟩]) ↔ Seen role h := by
      rw [seen_op, or_iff_left]
      cases role <;> simp [lookAt]
    constructor
    · intro role
      rw [connections_op, htaken]
    · simp only [hseen, connections_op]
      exact hclose hholds
  rcases hx with rfl | ⟨message, rfl⟩ <;> exact hb

/-- What `suppress(OSError)` makes of it. -/
theorem reaches_suppressOSError {A B : Account} {p : Bus Unit} (hp : Reaches A p (orOSError B)) :
    Reaches A (suppressOSError p) (surely fun _ => B) := by
  apply hp.tryExcept
  · exact fun _ _ _ h => h
  · intro e
    cases e with
    | osError message => exact reaches_ret fun h => h
    | dbusException message => exact ⟨fun _ _ _ _ _ h => h.holds.elim⟩
    | other name => exact ⟨fun _ _ _ _ _ h => h.holds.elim⟩

/-- Programs that keep every account. -/
def KeepsBooks {α : Type} (p : Bus α) : Prop := ∀ A, Reaches A p (fun _ => A)

theorem keepsBooks_ret {α : Type} (a : α) : KeepsBooks (.ret a) := fun _ => reaches_ret fun h => h

theorem keepsBooks_raise {α : Type} (e : BusErr) : KeepsBooks (.raise e : Bus α) := fun A =>
  establishes_raise (books_stable A) fun _ _ h => h

theorem keepsBooks_perform (o : BusOp) (h : o.Quiet) : KeepsBooks (perform o) := fun A =>
  establishes_perform (books_stable A) (fun _ => books_stable A) fun _ _ _ _ hb ha =>
    books_quiet h hb ha

theorem KeepsBooks.bind {α β : Type} {p : Bus α} {f : α → Bus β} (hp : KeepsBooks p)
    (hf : ∀ a, KeepsBooks (f a)) : KeepsBooks (p >>= f) := fun A =>
  (hp A).bind (fun a => hf a A) fun _ _ _ h => h

theorem KeepsBooks.tryExcept {α : Type} {p : Bus α} {handler : BusErr → Bus α} (hp : KeepsBooks p)
    (hhandler : ∀ e, KeepsBooks (handler e)) : KeepsBooks (Prog.tryExcept p handler) := fun A =>
  (hp A).tryExcept (fun _ _ _ h => h) fun e => hhandler e A

theorem keepsBooks_logDBusException (before after : String) (e : BusErr) :
    KeepsBooks (logDBusException before after e) := by
  cases e with
  | dbusException message => exact keepsBooks_perform (.logError _) trivial
  | osError message => exact keepsBooks_raise _
  | other name => exact keepsBooks_raise _

theorem keepsBooks_setupDbus : KeepsBooks setupDbus := by
  apply (keepsBooks_perform .getProfileManager trivial).bind
  intro _
  apply (keepsBooks_perform (.exportProfile .client PROFILE_PATH_CLIENT) trivial).bind
  intro _
  apply (keepsBooks_perform (.exportProfile .server PROFILE_PATH_SERVER) trivial).bind
  intro _
  apply KeepsBooks.bind
  · apply KeepsBooks.tryExcept _ (keepsBooks_logDBusException _ _)
    exact (keepsBooks_perform (.registerProfile _ _ _) trivial).bind fun _ =>
      keepsBooks_perform (.registerProfile _ _ _) trivial
  · intro _
    exact (keepsBooks_perform .startLoop trivial).bind fun _ =>
      keepsBooks_perform (.sleep 500) trivial

theorem keepsBooks_unregister (path : String) :
    KeepsBooks (suppressDBusException (perform (BusOp.unregisterProfile path))) := by
  apply (keepsBooks_perform (.unregisterProfile path) trivial).tryExcept
  intro e
  cases e with
  | dbusException message => exact keepsBooks_ret ()
  | osError message => exact keepsBooks_raise _
  | other name => exact keepsBooks_raise _

theorem keepsBooks_cleanupDbus : KeepsBooks cleanupDbus :=
  (keepsBooks_unregister _).bind fun _ => (keepsBooks_unregister _).bind fun _ =>
    keepsBooks_perform .quitLoop trivial

/-! ### The way through `open` and `close` -/

/-- The part of a profile among the closed descriptors: one that it took if a connection was seen,
and none otherwise. -/
def AccountedFor (role : Role) (seen : Role → Prop) (taken : Role → ℕ) (part : List Descriptor) :
    Prop :=
  (seen role ∧ ∃ n < taken role, part = [⟨role, n⟩]) ∨ (¬seen role ∧ part = [])

theorem AccountedFor.mono {role : Role} {seen : Role → Prop} {taken taken' : Role → ℕ}
    {part : List Descriptor} (hle : taken ≤ taken') (h : AccountedFor role seen taken part) :
    AccountedFor role seen taken' part := by
  rcases h with ⟨hseen, n, hn, hpart⟩ | h
  · exact .inl ⟨hseen, n, hn.trans_le (hle role), hpart⟩
  · exact .inr h

/-- While polling, and after it: `connected` tells whether a poll has seen a connection. -/
def polled (connected : Bool) : Account where
  Holds seen _ closed := closed = [] ∧ ¬seen .client ∧ (seen .server ↔ connected = true)
  mono _ h := h

/-- The client has a descriptor, which is known once `fd` is. -/
def owning (connected : Bool) (fd : Option Descriptor) : Account where
  Holds seen taken closed := closed = [] ∧ seen .client ∧ (seen .server ↔ connected = true) ∧
    ∀ d, fd = some d → d.role = .client ∧ d.index < taken .client
  mono hle h := ⟨h.1, h.2.1, h.2.2.1, fun d hd =>
    ⟨(h.2.2.2 d hd).1, (h.2.2.2 d hd).2.trans_le (hle .client)⟩⟩

/-- The outbound descriptor is dropped. -/
def dropped (connected : Bool) : Account where
  Holds seen taken closed :=
    AccountedFor .client seen taken closed ∧ (seen .server ↔ connected = true)
  mono hle h := ⟨h.1.mono hle, h.2⟩

/-- `open` is left with this `fd`. -/
def opened (fd : Option Descriptor) : Account where
  Holds seen taken closed :=
    AccountedFor .client seen taken closed ∧ AccountedFor .server seen taken fd.toList
  mono hle h := ⟨h.1.mono hle, h.2.mono hle⟩

/-- `close` has closed it. -/
def allClosed : Account where
  Holds seen taken closed := ∃ part part', closed = part ++ part' ∧
    AccountedFor .client seen taken part ∧ AccountedFor .server seen taken part'
  mono := by
    rintro seen taken taken' closed hle ⟨part, part', hclosed, hclient, hserver⟩
    exact ⟨part, part', hclosed, hclient.mono hle, hserver.mono hle⟩

namespace SapConnection

/-- A poll of the server's event. -/
theorem poll_reaches :
    Reaches (polled false) (perform (BusOp.connectionIsSet .server)) (surely polled) := by
  apply reaches_look .server
  rintro h s x s' hb ⟨rfl, rfl⟩
  obtain ⟨hclosed, hclient, hserver⟩ := hb.holds
  refine ⟨hclosed, ?_, ?_⟩
  · rintro (h | ⟨h, -⟩)
    · exact hclient h
    · cases h
  · have hunseen : ¬Seen .server h := by simpa using hserver
    rw [(s'.profile .server).event_eq, hb.taken, decide_eq_true_eq]
    simp [hunseen]

theorem awaitConnection_reaches (attempts : ℕ) :
    Reaches (polled false) (awaitConnection attempts) (fun
      | .ok connected => polled connected
      | .error _ => polled false) := by
  induction attempts with
  | zero => exact reaches_ret fun h => h
  | succ attempts ih =>
    -- a poll without a connection leaves the account of the start, for the next poll
    apply poll_reaches.bind
    · intro connected
      cases connected with
      | true => exact reaches_ret fun h => h
      | false =>
        exact (keepsBooks_perform (.sleep 1000) trivial _).bind (fun _ => ih) fun _ _ _ h => h
    · exact fun _ _ _ hb => hb.holds.elim

/-- The first read of the client's descriptor. -/
theorem checkClient_reaches (connected : Bool) :
    Reaches (polled connected) (perform (BusOp.profileFd .client)) (surely fun
      | none => dropped connected
      | some _ => owning connected none) := by
  apply reaches_look .client
  rintro h s x s' hb ⟨rfl, rfl⟩
  obtain ⟨hclosed, hclient, hserver⟩ := hb.holds
  have hother : (Seen .server h ∨ (Role.server = .client ∧ 0 < connections .server h)) ↔
      connected = true := by simpa using hserver
  rw [(s'.profile .client).fd_eq, hb.taken]
  by_cases hzero : connections .client h = 0
  -- nothing to drop, and a client that connects from here on is not looked at again
  · rw [if_pos hzero]
    refine ⟨.inr ⟨?_, hclosed⟩, hother⟩
    rintro (h | ⟨-, h⟩)
    · exact hclient h
    · omega
  · rw [if_neg hzero]
    exact ⟨hclosed, .inr ⟨rfl, Nat.pos_of_ne_zero hzero⟩, hother, fun d hd => nomatch hd⟩

/-- The second one, for the call of `os.close`: another connection may have replaced the
descriptor. -/
theorem rereadClient_reaches (connected : Bool) :
    Reaches (owning connected none) (perform (BusOp.profileFd .client)) (surely fun
      | none => impossible
      | some fd => owning connected (some fd)) := by
  apply reaches_look .client
  rintro h s x s' hb ⟨rfl, rfl⟩
  obtain ⟨hclosed, hclient, hserver, -⟩ := hb.holds
  have hpos := Seen.connections_pos hclient
  have hother : (Seen .server h ∨ (Role.server = .client ∧ 0 < connections .server h)) ↔
      connected = true := by simpa using hserver
  -- whatever was there at the check, this is the latest one
  rw [(s'.profile .client).fd_eq, hb.taken, if_neg hpos.ne']
  refine ⟨hclosed, .inl hclient, hother, ?_⟩
  rintro d ⟨⟩
  exact ⟨rfl, Nat.sub_one_lt hpos.ne'⟩

theorem dropOutbound_reaches (connected : Bool) :
    Reaches (polled connected) dropOutbound (surely fun _ => dropped connected) := by
  apply (checkClient_reaches connected).bind
  · intro fd
    -- the descriptor is looked at twice; the second look is the one that is closed
    match fd with
    | none => exact reaches_ret fun h => h
    | some _ =>
      apply reaches_suppressOSError
      apply (rereadClient_reaches connected).bind
      · intro fd
        match fd with
        | none => exact ⟨fun _ _ _ _ _ h => h.holds.elim⟩
        | some fd =>
          change Reaches (owning connected (some fd)) (perform (BusOp.osClose fd)) _
          apply reaches_osClose fd
          rintro seen taken closed ⟨rfl, hclient, hserver, hfd⟩
          obtain ⟨hrole, hindex⟩ := hfd fd rfl
          exact ⟨.inl ⟨hclient, fd.index, hindex, by rw [← hrole]; rfl⟩, hserver⟩
      · exact fun _ _ _ hb => hb.holds.elim
  · exact fun _ _ _ hb => hb.holds.elim

/-- The camera's own connection becomes ours. -/
theorem takeServer_reaches :
    Reaches (dropped true) (perform (BusOp.profileFd .server)) (surely opened) := by
  refine establishes_perform (books_stable _) (fun x => books_stable _) ?_
  rintro h s x s' hb ha
  have hb' := books_quiet (show (BusOp.profileFd .server).Quiet by simp [BusOp.Quiet]) hb ha
  obtain ⟨hclient, hserver⟩ := hb'.holds
  have hseen := hserver.mpr rfl
  have hpos := Seen.connections_pos hseen
  have hfd := (s'.profile .server).fd_eq
  rw [hb'.taken, if_neg hpos.ne'] at hfd
  obtain ⟨rfl, rfl⟩ := ha
  exact ⟨hb'.taken, hclient, .inl ⟨hseen, _, Nat.sub_one_lt hpos.ne', congrArg Option.toList hfd⟩⟩

/-- Nothing was seen and nothing closed: there is nothing for `close` to do. -/
theorem nothing_opened {h : BusHistory} {s : BusState} (hb : Books (polled false) h s) :
    Books (opened none) h s := by
  apply hb.mono
  rintro seen taken closed ⟨rfl, hclient, hserver⟩
  exact ⟨.inr ⟨hclient, rfl⟩, .inr ⟨by simpa using hserver, rfl⟩⟩

theorem dial_reaches (cameraMac : String) (connectDelay callbackTimeout : ℕ) :
    Reaches (polled false) (dial cameraMac connectDelay callbackTimeout) (fun
      | .ok fd => opened fd
      | .error _ => opened none) := by
  apply (keepsBooks_perform (.sleep connectDelay) trivial _).bind _ fun _ _ _ => nothing_opened
  intro _
  apply (keepsBooks_perform (.getDevice _) trivial _).bind _ fun _ _ _ => nothing_opened
  intro _
  have hconnect : KeepsBooks (tryExcept (perform (BusOp.connectProfile SAP_UUID_CLIENT))
      (logDBusException "ConnectProfile failed: " " (may still work)")) :=
    (keepsBooks_perform (.connectProfile _) trivial).tryExcept (keepsBooks_logDBusException _ _)
  apply (hconnect _).bind _ fun _ _ _ => nothing_opened
  intro _
  apply (awaitConnection_reaches callbackTimeout).bind _ fun _ _ _ => nothing_opened
  intro connected
  apply (dropOutbound_reaches connected).bind _ fun _ _ _ hb => hb.holds.elim
  intro _
  cases connected with
  -- `open` returns `None`, and what the server may have taken by now was not seen
  | false =>
    have hleft {h : BusHistory} {s : BusState} (hb : Books (dropped false) h s) :
        Books (opened none) h s := by
      apply hb.mono
      rintro seen taken closed ⟨hclient, hserver⟩
      exact ⟨hclient, .inr ⟨by simpa using hserver, rfl⟩⟩
    apply (keepsBooks_perform (.logError _) trivial _).bind _ fun _ _ _ => hleft
    intro _
    exact establishes_ret (books_stable _) fun _ _ => hleft
  | true =>
    apply takeServer_reaches.mono
    intro r h s hb
    cases r with
    | ok fd => exact hb
    | error e => exact hb.holds.elim

/-- `open` leaves at most one descriptor to `close`. -/
theorem openConnection_reaches (cameraMac : String) (connectDelay callbackTimeout : ℕ) :
    Reaches (polled false) (openConnection cameraMac connectDelay callbackTimeout)
      (surely fun opening => opened opening.1.fd) := by
  apply Establishes.bind (Q := fun r => Books (surely (fun _ => polled false) r))
  · exact (keepsBooks_setupDbus _).attempt fun _ _ _ h => h
  · intro r
    match r with
    | .error e => exact establishes_ret (books_stable _) fun _ _ => nothing_opened
    | .ok () =>
      apply Establishes.bind (Q := fun r => Books (surely (fun
        | .ok fd => opened fd
        | .error _ => opened none) r))
      · exact (dial_reaches _ _ _).attempt fun _ _ _ h => h
      · intro r
        match r with
        | .error e => exact establishes_ret (books_stable _) fun _ _ h => h
        | .ok fd => exact establishes_ret (books_stable _) fun _ _ h => h
      · exact fun _ _ _ hb => hb.holds.elim
  · exact fun _ _ _ hb => hb.holds.elim

/-- `close` closes it. -/
theorem closeConnection_reaches (connection : SapConnection) :
    Reaches (opened connection.fd) connection.closeConnection (fun _ => allClosed) := by
  have hcleanup : Reaches allClosed (if connection.setUp = true then cleanupDbus else pure ())
      (fun _ => allClosed) := by
    split_ifs
    · exact keepsBooks_cleanupDbus _
    · exact reaches_ret fun h => h
  unfold closeConnection
  match connection.fd with
  | none =>
    apply hcleanup.strengthen
    intro h s hb
    apply hb.mono
    rintro seen taken closed ⟨hclient, hserver⟩
    exact ⟨closed, [], (List.append_nil closed).symm, hclient, hserver⟩
  | some fd =>
    have hclose : Reaches (opened (some fd)) (suppressOSError (perform (BusOp.osClose fd)))
        (surely fun _ => allClosed) := by
      apply reaches_suppressOSError
      apply reaches_osClose fd
      rintro seen taken closed ⟨hclient, hserver⟩
      exact ⟨closed, [fd], rfl, hclient, hserver⟩
    exact hclose.bind (fun _ => hcleanup) fun _ _ _ hb => hb.holds.elim

theorem openAndClose_reaches (cameraMac : String) (connectDelay callbackTimeout : ℕ) :
    Reaches (polled false) (openAndClose cameraMac connectDelay callbackTimeout)
      (fun _ => allClosed) :=
  (openConnection_reaches cameraMac connectDelay callbackTimeout).bind
    (fun opening => closeConnection_reaches opening.1) fun _ _ _ hb => hb.holds.elim

end SapConnection

/-! ### All interleavings -/

/-- A profile's descriptors are all closed once exactly if it took none, or a single one that was
seen. -/
theorem accountedFor_iff {role : Role} {seen : Role → Prop} {taken : Role → ℕ}
    {part : List Descriptor}
    (h : AccountedFor role seen taken part) : (∀ n < taken role, part.count ⟨role, n⟩ = 1) ↔
      taken role = 0 ∨ (taken role = 1 ∧ seen role) := by
  rcases h with ⟨hseen, n, hn, rfl⟩ | ⟨hseen, rfl⟩
  · constructor
    · intro hall
      -- only descriptor `n` is among the closed ones, so it is the only one
      have honly (m : ℕ) (hm : m < taken role) : n = m := by
        have hcount := hall m hm
        rw [List.count_singleton] at hcount
        simpa using hcount
      have hfirst := honly 0 (by omega)
      have hlast := honly (taken role - 1) (by omega)
      exact .inr ⟨by omega, hseen⟩
    · rintro (hzero | ⟨hone, -⟩) m hm
      · omega
      · have hsame : n = m := by omega
        rw [hsame, List.count_singleton_self]
  · constructor
    · intro hall
      left
      by_contra hne
      have hcount := hall 0 (Nat.pos_of_ne_zero hne)
      cases hcount
    · rintro (hzero | ⟨-, h⟩)
      · simp [hzero]
      · exact absurd h hseen

theorem AccountedFor.count_other {role role' : Role} {seen : Role → Prop} {taken : Role → ℕ}
    {part : List Descriptor} (h : AccountedFor role seen taken part) (hne : role' ≠ role) (n : ℕ) :
    part.count ⟨role', n⟩ = 0 := by
  rw [List.count_eq_zero]
  rcases h with ⟨-, m, -, rfl⟩ | ⟨-, rfl⟩
  · simp [hne]
  · exact List.not_mem_nil

theorem AccountedFor.count_le_one {role : Role} {seen : Role → Prop} {taken : Role → ℕ}
    {part : List Descriptor} (h : AccountedFor role seen taken part) (fd : Descriptor) :
    part.count fd ≤ 1 := by
  have hlength : part.length ≤ 1 := by
    rcases h with ⟨-, m, -, rfl⟩ | ⟨-, rfl⟩ <;> simp
  exact List.count_le_length.trans hlength

/-- Every interleaving of `open` and `close` ends with one descriptor of each profile closed at
most. -/
theorem openAndClose_allClosed {cameraMac : String} {connectDelay callbackTimeout : ℕ}
    {g : BusHistory} {r : Except BusErr Unit} {s : BusState}
    (h : Interleaved busSurroundings
      (SapConnection.openAndClose cameraMac connectDelay callbackTimeout) .fresh g r s) :
    Books allClosed g s := by
  have hunseen (role : Role) : ¬Seen role [] := fun h => Nat.lt_irrefl 0 h.connections_pos
  have hstart : Books (polled false) [] .fresh :=
    ⟨fun _ => rfl, rfl, hunseen .client, iff_of_false (hunseen .server) (by simp)⟩
  exact (SapConnection.openAndClose_reaches _ _ _).run _ _ _ _ _ hstart h

/-- No descriptor is closed twice. -/
theorem closed_count_le_one {cameraMac : String} {connectDelay callbackTimeout : ℕ}
    {g : BusHistory} {r : Except BusErr Unit} {s : BusState}
    (h : Interleaved busSurroundings
      (SapConnection.openAndClose cameraMac connectDelay callbackTimeout) .fresh g r s)
    (fd : Descriptor) : s.closed.count fd ≤ 1 := by
  obtain ⟨part, part', hclosed, hclient, hserver⟩ := (openAndClose_allClosed h).holds
  rw [hclosed, List.count_append]
  match fd with
  | ⟨.client, n⟩ =>
    rw [hserver.count_other (by simp) n, Nat.add_zero]
    exact hclient.count_le_one _
  | ⟨.server, n⟩ =>
    rw [hclient.count_other (by simp) n, Nat.zero_add]
    exact hserver.count_le_one _

/-- All descriptors that the profiles took are closed exactly once exactly if each profile took
none, or a single one that `open` looks at. -/
theorem descriptors_closed_iff {cameraMac : String} {connectDelay callbackTimeout : ℕ}
    {g : BusHistory} {r : Except BusErr Unit} {s : BusState}
    (h : Interleaved busSurroundings
      (SapConnection.openAndClose cameraMac connectDelay callbackTimeout) .fresh g r s) :
    (∀ fd : Descriptor, fd.index < (s.profile fd.role).taken → s.closed.count fd = 1) ↔
      ∀ role, connections role g = 0 ∨ (connections role g = 1 ∧ Seen role g) := by
  obtain ⟨htaken, part, part', hclosed, hclient, hserver⟩ := openAndClose_allClosed h
  -- what was closed is made of a part for each profile
  have hprofile (role : Role) : (∀ n < connections role g, s.closed.count ⟨role, n⟩ = 1) ↔
      connections role g = 0 ∨ (connections role g = 1 ∧ Seen role g) := by
    cases role with
    | client =>
      have hother (n : ℕ) : part'.count ⟨.client, n⟩ = 0 := hserver.count_other (by simp) n
      simp only [hclosed, List.count_append, hother, Nat.add_zero]
      exact accountedFor_iff hclient
    | server =>
      have hother (n : ℕ) : part.count ⟨.server, n⟩ = 0 := hclient.count_other (by simp) n
      simp only [hclosed, List.count_append, hother, Nat.zero_add]
      exact accountedFor_iff hserver
  constructor
  · intro hall role
    apply (hprofile role).mp
    intro n hn
    exact hall ⟨role, n⟩ (by rwa [htaken])
  · rintro hall ⟨role, n⟩ hn
    rw [htaken] at hn
    exact (hprofile role).mpr (hall role) n hn

/-- Nothing fails. -/
def quietBus : Handler BusAns BusErr BusState
  | .connectionIsSet role, s => (.ok (s.profile role).connectionEvent, s)
  | .profileFd role, s => (.ok (s.profile role).fd, s)
  | .osClose fd, s => (.ok (), { s with closed := s.closed ++ [fd] })
  | .exportProfile role _, s => (.ok (), s.exportProfile role)
  | .unregisterProfile path, s => (.ok (), s.unregisterProfile path)
  | .getProfileManager, s => (.ok (), s)
  | .registerProfile _ _ _, s => (.ok (), s)
  | .startLoop, s => (.ok (), s)
  | .sleep _, s => (.ok (), s)
  | .getDevice _, s => (.ok (), s)
  | .connectProfile _, s => (.ok (), s)
  | .quitLoop, s => (.ok (), s)
  | .logError _, s => (.ok (), s)

theorem quietBus_answers (o : BusOp) (s : BusState) :
    busSurroundings.answer o s (quietBus o s).1 (quietBus o s).2 := by
  cases o <;> first | exact rfl | exact ⟨rfl, rfl⟩ | exact ⟨.inl rfl, rfl⟩

/-- The callbacks come between `setup_dbus` and the rest of `open`. -/
def connectedState (calls : List Role) : BusState :=
  calls.foldl BusState.newConnection (exec quietBus setupDbus.attempt .fresh).state

def sampleOutcome (calls : List Role) : Outcome BusAns BusErr BusState Unit :=
  exec quietBus (SapConnection.afterSetup "C8:38:70:3F:97:75" 5000 20 (.ok ()) >>= fun opening =>
    opening.1.closeConnection) (connectedState calls)

def sampleHistory (calls : List Role) : BusHistory :=
  (exec quietBus setupDbus.attempt .fresh).trace.map .inr ++
    (calls.map .inl ++ (sampleOutcome calls).trace.map .inr)

theorem interleaved_calls {α : Type} {p : Bus α} {calls : List Role} {s s' : BusState}
    {g : BusHistory} {r : Except BusErr α} (hcallable : ∀ role, s.callable role = true)
    (h : Interleaved busSurroundings p (calls.foldl BusState.newConnection s) g r s') :
    Interleaved busSurroundings p s (calls.map .inl ++ g) r s' := by
  induction calls generalizing s with
  | nil => exact h
  | cons role calls ih => exact .event ⟨hcallable role, rfl⟩ (ih hcallable h)

theorem sample_interleaved (calls : List Role) : Interleaved busSurroundings
    (SapConnection.openAndClose "C8:38:70:3F:97:75" 5000 20) .fresh (sampleHistory calls)
    (sampleOutcome calls).result (sampleOutcome calls).state := by
  have hsetup := interleaved_exec quietBus_answers setupDbus.attempt .fresh
  have hrest := interleaved_exec quietBus_answers
    (SapConnection.afterSetup "C8:38:70:3F:97:75" 5000 20 (.ok ()) >>= fun opening =>
      opening.1.closeConnection) (connectedState calls)
  rw [SapConnection.openAndClose, SapConnection.openConnection, Prog.bind_bind]
  apply interleaved_bind (hsetup : Interleaved _ _ _ _ (.ok (.ok ())) _)
  exact interleaved_calls (fun role => by cases role <;> rfl) hrest

/-- Each profile is connected once, in time. -/
theorem descriptors_closed_iff_both : Seen .client (sampleHistory [.client, .server]) ∧
    Seen .server (sampleHistory [.client, .server]) := by
  have hstate : ((sampleOutcome [.client, .server]).state.profile .client).taken = 1 ∧
      ((sampleOutcome [.client, .server]).state.profile .server).taken = 1 ∧
      (sampleOutcome [.client, .server]).state.closed = [⟨.client, 0⟩, ⟨.server, 0⟩] := by
    decide +kernel
  obtain ⟨hclient, hserver, hclosed⟩ := hstate
  have hall := (descriptors_closed_iff (sample_interleaved [.client, .server])).mp (by
    rintro ⟨role, index⟩ hlt
    cases role with
    | client =>
      have hzero : index < 1 := by rwa [hclient] at hlt
      rw [Nat.lt_one_iff.mp hzero, hclosed]
      decide
    | server =>
      have hzero : index < 1 := by rwa [hserver] at hlt
      rw [Nat.lt_one_iff.mp hzero, hclosed]
      decide)
  have hcount (role : Role) : connections role (sampleHistory [.client, .server]) ≠ 0 := by
    cases role <;> decide +kernel
  exact ⟨((hall .client).resolve_left (hcount .client)).2,
    ((hall .server).resolve_left (hcount .server)).2⟩

/-- The camera connects back twice before the first poll: the first descriptor stays open. -/
theorem descriptors_leak : ¬ ∀ (cameraMac : String) (connectDelay callbackTimeout : ℕ)
    (g : BusHistory) (r : Except BusErr Unit) (s : BusState),
    Interleaved busSurroundings
      (SapConnection.openAndClose cameraMac connectDelay callbackTimeout) .fresh g r s →
    ∀ fd : Descriptor, fd.index < (s.profile fd.role).taken → s.closed.count fd = 1 := by
  intro h
  have hleak : 0 < ((sampleOutcome [.server, .server]).state.profile .server).taken ∧
      (sampleOutcome [.server, .server]).state.closed.count ⟨.server, 0⟩ = 0 := by decide +kernel
  have hclosed := h _ _ _ _ _ _ (sample_interleaved [.server, .server]) ⟨.server, 0⟩ hleak.1
  rw [hleak.2] at hclosed
  cases hclosed

end Gear360
