import Gear360.ServiceOps

/-! A session over its file descriptor: the frame operations of a session program are the methods
of `SapSession`, and what reaches `os.write` is the encoding of the frames it sends. -/
namespace Gear360

open Interaction
open Interaction.Prog (perform fromResult)

/-- System calls on the descriptor, and what a session asks of anything else. -/
inductive HostOp where
  | fd (op : FdOp)
  | host (op : SessionOp)

@[reducible] def HostAns : HostOp → Type
  | .fd op => FdAns op
  | .host op => SessionAns op

abbrev Host (α : Type) : Type := Prog HostAns PyErr α

abbrev HostEvent : Type := Event HostAns PyErr

def onFdOp (op : FdOp) : Host (FdAns op) := perform (HostOp.fd op)

def onFd {α : Type} (p : Fd α) : Host α := p.translate onFdOp

/-- Reads and writes of frames are made on the session's descriptor. -/
def lower : (o : SessionOp) → Host (SessionAns o)
  | .readFrame session timeout => onFd (session.readFrame timeout)
  | .sendFrame session payload => onFd (session.sendFrame payload)
  | .readSlpFrame session timeout => onFd (session.readSlpFrame timeout)
  | .sendSlpFrame session payload sessionId => onFd (session.sendSlpFrame payload sessionId 0)
  | o => perform (HostOp.host o)

section
variable (session : SapSession)

theorem lower_sendFrame (payload : Bytes) :
    (Session.sendFrame session payload).translate lower = onFd (session.sendFrame payload) := by
  unfold Session.sendFrame
  -- a payload too long raises before either layer does anything
  cases h : be16 payload.length with
  | ok length => exact Prog.translate_perform _
  | error e =>
    rw [SapSession.sendFrame, h]
    rfl

theorem lower_sendSlpFrame (payload : Bytes) (sessionId : ℕ) :
    (Session.sendSlpFrame session payload sessionId).translate lower =
      onFd (session.sendSlpFrame payload sessionId 0) := by
  unfold Session.sendSlpFrame
  cases h : SapSession.slpWire session.useCrc payload sessionId 0 with
  | ok wire => exact Prog.translate_perform _
  | error e =>
    rw [SapSession.sendSlpFrame, h]
    rfl

theorem lower_readFrame (timeout : ℕ) :
    (Session.readFrame session timeout).translate lower = onFd (session.readFrame timeout) :=
  Prog.translate_perform _

theorem lower_readSlpFrame (timeout : ℕ) :
    (Session.readSlpFrame session timeout).translate lower = onFd (session.readSlpFrame timeout) :=
  Prog.translate_perform _

end

/-- The bytes handed to `os.write`. -/
def osWritten : HostEvent → Option Bytes
  | ⟨.fd (.osWrite _ data), _⟩ => some data
  | _ => none

def fdWritten : FdEvent → Option Bytes
  | ⟨.osWrite _ data, _⟩ => some data
  | _ => none

/-- The bytes of a frame that a session program sends. -/
def frameBytes : SessionEvent → Option Bytes
  | ⟨.sendFrame _ payload, _⟩ => (be16 payload.length).toOption.map (· ++ payload)
  | ⟨.sendSlpFrame session payload sessionId, _⟩ =>
    (SapSession.slpWire session.useCrc payload sessionId 0).toOption
  | _ => none

/-- System calls other than `os.write`. -/
def FdOp.Reads : FdOp → Prop
  | .osWrite _ _ => False
  | _ => True

section
variable (session : SapSession)

theorem reads_fromResult {α : Type} (x : Except PyErr α) :
    Performs FdOp.Reads (fromResult x : Fd α) := performs_fromResult _ x

theorem reads_select (fd timeout : ℕ) : Performs FdOp.Reads (select fd timeout) :=
  performs_perform (show FdOp.Reads (.select fd timeout) from trivial)

theorem reads_osRead (fd count : ℕ) : Performs FdOp.Reads (osRead fd count) :=
  performs_perform (show FdOp.Reads (.osRead fd count) from trivial)

theorem reads_logError (text : String) : Performs FdOp.Reads (logError text) :=
  performs_perform (show FdOp.Reads (.logError text) from trivial)

theorem readNLoop_reads (count : ℕ) (data : Bytes) :
    Performs FdOp.Reads (session.readNLoop count data) := by
  -- the loop's own recursion: a piece that is not empty brings it one turn on
  fun_induction SapSession.readNLoop session count data with
  | case1 data hlt ih =>
    apply performs_bind (reads_osRead _ _)
    intro chunk
    match chunk with
    | [] => exact performs_ret _ _
    | c :: cs => exact ih c cs
  | case2 data hlt => exact performs_ret _ _

theorem readN_reads (count : ℕ) : Performs FdOp.Reads (session.readN count) :=
  readNLoop_reads session count []

theorem readFrame_reads (timeout : ℕ) : Performs FdOp.Reads (session.readFrame timeout) := by
  apply performs_bind (reads_select _ _)
  intro ready
  split_ifs
  · exact performs_ret _ _
  apply performs_bind (reads_osRead _ _)
  intro data
  split_ifs
  · exact performs_ret _ _
  · exact performs_ret _ _
  · exact performs_bind (reads_fromResult _) fun _ => performs_ret _ _

theorem warnCrc_reads (label : String) (expected actual : ℕ) :
    Performs FdOp.Reads (SapSession.warnCrc label expected actual) := by
  unfold SapSession.warnCrc
  split_ifs
  · exact reads_logError _
  · exact performs_ret _ _

theorem readLengthCrc_reads (header : Bytes) :
    Performs FdOp.Reads (session.readLengthCrc header) := by
  unfold SapSession.readLengthCrc
  split_ifs
  · apply performs_bind (readN_reads session 2)
    intro lenCrc
    split
    · exact performs_ret _ _
    · apply performs_bind (reads_fromResult _)
      intro expected
      exact performs_bind (warnCrc_reads _ _ _) fun _ => performs_ret _ _
  · exact performs_ret _ _

theorem readPayloadCrc_reads (payload : Bytes) :
    Performs FdOp.Reads (session.readPayloadCrc payload) := by
  unfold SapSession.readPayloadCrc
  split_ifs
  · apply performs_bind (readN_reads session 2)
    intro dataCrc
    split
    · exact performs_ret _ _
    · apply performs_bind (reads_fromResult _)
      intro expected
      exact warnCrc_reads _ _ _
  · exact performs_ret _ _

theorem readInner_reads : Performs FdOp.Reads session.readInner := by
  apply performs_bind (readN_reads session 2)
  intro header
  split
  · exact performs_ret _ _
  apply performs_bind (reads_fromResult _)
  intro frameLen
  apply performs_bind (readLengthCrc_reads session _)
  intro lengthCrc
  split
  · exact performs_ret _ _
  apply performs_bind (readN_reads session frameLen)
  intro payload
  split
  · exact performs_ret _ _
  · exact performs_bind (readPayloadCrc_reads session _) fun _ => performs_ret _ _

theorem readSlpFrame_reads (timeout : ℕ) : Performs FdOp.Reads (session.readSlpFrame timeout) := by
  apply performs_bind (reads_select _ _)
  intro ready
  split_ifs
  · exact performs_ret _ _
  apply performs_bind
  · apply performs_tryExcept (readInner_reads session)
    intro e
    cases e with
    | osError error => exact performs_bind (reads_logError _) fun _ => performs_ret _ _
    | _ => exact performs_raise _ _
  · intro payload
    exact performs_ret _ _

end

theorem run_onFd {α : Type} {p : Fd α} {t : List HostEvent} {r : Except PyErr α}
    (hr : Run (onFd p) t r) :
    ∃ u, Run p u r ∧ t.filterMap osWritten = u.filterMap fdWritten := by
  obtain ⟨u, hu, hi⟩ := run_translate hr
  refine ⟨u, hu, hi.filterMap_eq ?_⟩
  -- each system call of the descriptor is one event of the host
  intro op x v hv
  rw [run_perform_iff.mp hv]
  cases op <;> rfl

/-- A program that only reads writes nothing. -/
theorem run_onFd_reads {α : Type} {p : Fd α} (hp : Performs FdOp.Reads p) {t : List HostEvent}
    {r : Except PyErr α} (hr : Run (onFd p) t r) : t.filterMap osWritten = [] := by
  obtain ⟨u, hu, ht⟩ := run_onFd hr
  have hquiet : Performs (fun op => ∀ x, fdWritten ⟨op, x⟩ = none) p := by
    refine hp.mono ?_
    intro op hop x
    cases op with
    | osWrite fd data => exact hop.elim
    | _ => rfl
  rw [ht, hquiet.filterMap_eq_nil hu]

/-- A program that writes one buffer, once it is packed. -/
theorem run_onFd_write {α : Type} {packed : Except PyErr α} {f : α → Bytes} {fd : ℕ}
    {t : List HostEvent} {r : Except PyErr Unit} (hr : Run (onFd (do
      let a ← fromResult packed
      let _ ← osWrite fd (f a))) t r) :
    t.filterMap osWritten = (packed.toOption.map f).toList := by
  obtain ⟨u, hu, ht⟩ := run_onFd hr
  rw [ht]
  cases packed with
  | error e =>
    obtain ⟨rfl, -⟩ := run_raise_iff.mp hu
    rfl
  | ok a =>
    have hwrite : Run (osWrite fd (f a) >>= fun _ => pure ()) u r := hu
    rcases run_bind_cases hwrite with ⟨e, he, -⟩ | ⟨v, n, w, hv, hw, rfl⟩
    · rw [run_perform_iff.mp he]
      rfl
    · obtain ⟨rfl, -⟩ := run_ret_iff.mp hw
      rw [run_perform_iff.mp hv]
      rfl

/-- What one operation hands to `os.write`. -/
theorem lower_written (o : SessionOp) (x : Except PyErr (SessionAns o)) (t : List HostEvent)
    (hr : Run (lower o) t x) : t.filterMap osWritten = (frameBytes ⟨o, x⟩).toList := by
  -- the four frame operations; all others never reach the descriptor
  cases o with
  | readFrame session timeout => exact run_onFd_reads (readFrame_reads session timeout) hr
  | readSlpFrame session timeout => exact run_onFd_reads (readSlpFrame_reads session timeout) hr
  | sendFrame session payload => exact run_onFd_write hr
  | sendSlpFrame session payload sessionId =>
    have h := run_onFd_write (f := id) hr
    rwa [Option.map_id] at h
  | _ =>
    rw [run_perform_iff.mp hr]
    rfl

/-- Over its descriptor a session program makes a run of its own, and the buffers it writes are the
encodings of the frames it sends, in order. -/
theorem run_lower {α : Type} {p : Session α} {t' : List HostEvent} {r : Except PyErr α}
    (hr : Run (p.translate lower) t' r) :
    ∃ t, Run p t r ∧ t'.filterMap osWritten = t.filterMap frameBytes := by
  obtain ⟨t, ht, hi⟩ := run_translate hr
  exact ⟨t, ht, hi.filterMap_eq lower_written⟩

end Gear360
