import Gear360.SapSession

namespace Gear360

open Interaction
open Interaction.Prog (attempt fromResult)

/-- One call of `send_frame` or `send_slp_frame`, with the session's `use_crc` at that time. -/
inductive SendCall where
  | sendFrame (payload : Bytes)
  | sendSlpFrame (useCrc : Bool) (payload : Bytes) (sessionId frameType : ℕ)
deriving DecidableEq

namespace SendCall

def send (fd : ℕ) : SendCall → Fd Unit
  | sendFrame payload => SapSession.sendFrame ⟨fd, false⟩ payload
  | sendSlpFrame useCrc payload sessionId frameType =>
    SapSession.sendSlpFrame ⟨fd, useCrc⟩ payload sessionId frameType

/-- A sequence of calls; one whose arguments do not fit raises, and the next one follows. -/
def sendAll (fd : ℕ) : List SendCall → Fd Unit
  | [] => return ()
  | call :: calls => do
    let _ ← (call.send fd).attempt
    sendAll fd calls

/-- The complete encoded frame, or the exception of a call whose arguments do not fit. -/
def encode : SendCall → Except PyErr Bytes
  | sendFrame payload => do
    let length ← be16 payload.length
    return length ++ payload
  | sendSlpFrame useCrc payload sessionId frameType =>
    SapSession.slpWire useCrc payload sessionId frameType

/-- The complete encoded frames of a sequence of calls. -/
def frames (calls : List SendCall) : List Bytes := calls.filterMap (fun c => c.encode.toOption)

/-- `os.write` writes between one and all of the bytes, and says how many. -/
def WriteAllowed (e : FdEvent) : Prop :=
  ∀ fd data x, e = ⟨.osWrite fd data, x⟩ → ∃ n : ℕ, x = .ok n ∧ 1 ≤ n ∧ n ≤ data.length

/-- `os.write` writes all of the bytes. -/
def FullWrite (e : FdEvent) : Prop :=
  ∀ fd data x, e = ⟨.osWrite fd data, x⟩ → x = .ok data.length

/-- The bytes that one event puts on the wire. -/
def written : FdEvent → Bytes
  | ⟨.osWrite _ data, .ok n⟩ => data.take n
  | _ => []

/-- Everything a run puts on the wire. -/
def onWire (t : List FdEvent) : Bytes := t.flatMap written

/-- Both methods compute their bytes first and write them at once. -/
theorem send_eq (fd : ℕ) (call : SendCall) :
    call.send fd = fromResult call.encode >>= fun data => osWrite fd data >>= fun _ => pure () := by
  cases call with
  | sendFrame payload =>
    simp only [send, encode, SapSession.sendFrame]
    cases be16 payload.length <;> rfl
  | sendSlpFrame useCrc payload sessionId frameType => rfl

/-- A call makes one `os.write` with its whole frame, or raises before it. -/
theorem run_send_iff {fd : ℕ} {call : SendCall} {t : List FdEvent} :
    (∃ r, Run (call.send fd) t r) ↔
      t.map Sigma.fst = call.encode.toOption.toList.map (FdOp.osWrite fd) := by
  rw [send_eq]
  constructor
  · rintro ⟨r, h⟩
    rcases run_fromResult_bind_cases h with ⟨e, he, rfl, -⟩ | ⟨data, hdata, h⟩
    · rw [he]
      rfl
    · rw [hdata]
      rcases run_bind_cases h with ⟨e, he, -⟩ | ⟨t₁, n, t₂, h₁, h₂, rfl⟩
      · rw [run_perform_iff.mp he]
        rfl
      · obtain ⟨rfl, -⟩ := run_ret_iff.mp h₂
        rw [run_perform_iff.mp h₁]
        rfl
  · intro h
    cases he : call.encode with
    | error e =>
      rw [he] at h
      obtain rfl : t = [] := List.map_eq_nil_iff.mp h
      exact ⟨_, Run.raise e⟩
    | ok data =>
      rw [he] at h
      obtain ⟨⟨o, x⟩, u, rfl, rfl, hu⟩ := List.map_eq_cons_iff.mp h
      obtain rfl : u = [] := List.map_eq_nil_iff.mp hu
      -- how much was written does not matter to the run
      cases x with
      | ok n => exact ⟨_, Run.call (.ok n) (Run.ret ())⟩
      | error e => exact ⟨_, Run.call (.error e) (Run.raise e)⟩

theorem frames_cons (call : SendCall) (calls : List SendCall) :
    frames (call :: calls) = call.encode.toOption.toList ++ frames calls := by
  rw [frames, List.filterMap_cons]
  cases call.encode.toOption <;> rfl

/-- A sequence of calls makes one `os.write` for each frame. -/
theorem run_sendAll_iff {fd : ℕ} {calls : List SendCall} {t : List FdEvent} :
    (∃ r, Run (sendAll fd calls) t r) ↔ t.map Sigma.fst = (frames calls).map (FdOp.osWrite fd) := by
  induction calls generalizing t with
  | nil =>
    constructor
    · rintro ⟨r, h⟩
      rw [(run_ret_iff.mp h).1]
      rfl
    · intro h
      rw [List.map_eq_nil_iff.mp h]
      exact ⟨_, Run.ret ()⟩
  | cons call calls ih =>
    rw [frames_cons, List.map_append]
    -- the first call makes the first part of the run, whether it raises or not
    constructor
    · rintro ⟨r, h⟩
      rcases run_bind_cases h with ⟨e, he, -⟩ | ⟨t₁, x, t₂, h₁, h₂, rfl⟩
      · obtain ⟨x, hx, -⟩ := run_attempt_iff.mp he
        cases hx
      · obtain ⟨y, -, hcall⟩ := run_attempt_iff.mp h₁
        rw [List.map_append, run_send_iff.mp ⟨y, hcall⟩, ih.mp ⟨r, h₂⟩]
    · intro h
      obtain ⟨t₁, t₂, rfl, h₁, h₂⟩ := List.map_eq_append_iff.mp h
      obtain ⟨y, hcall⟩ := run_send_iff.mpr h₁
      obtain ⟨r, hrest⟩ := ih.mpr h₂
      exact ⟨r, run_bind (run_attempt_iff.mpr ⟨y, rfl, hcall⟩) hrest⟩

/-- Nothing but a part of each frame gets onto the wire, so the wire is complete exactly if each
part is. -/
theorem onWire_eq_flatten_iff {fd : ℕ} {datas : List Bytes} {t : List FdEvent}
    (hops : t.map Sigma.fst = datas.map (FdOp.osWrite fd)) (hallowed : ∀ e ∈ t, WriteAllowed e) :
    (onWire t).length ≤ datas.flatten.length ∧
      (onWire t = datas.flatten ↔ ∀ e ∈ t, FullWrite e) := by
  induction datas generalizing t with
  | nil =>
    rw [List.map_nil, List.map_eq_nil_iff] at hops
    subst hops
    simp [onWire]
  | cons data datas ih =>
    obtain ⟨⟨o, x⟩, u, rfl, rfl, hu⟩ := List.map_eq_cons_iff.mp hops
    obtain ⟨n, rfl, -, hn⟩ := hallowed _ List.mem_cons_self fd data x rfl
    obtain ⟨hle, hiff⟩ := ih hu (fun e he => hallowed e (List.mem_cons_of_mem _ he))
    have hwire : onWire (⟨.osWrite fd data, .ok n⟩ :: u) = data.take n ++ onWire u := rfl
    have htake : (data.take n).length = n := by rw [List.length_take, min_eq_left hn]
    have hfull : FullWrite ⟨.osWrite fd data, .ok n⟩ ↔ n = data.length := by
      constructor
      · intro h
        simpa using h fd data _ rfl
      · rintro rfl fd' data' x h
        cases h
        rfl
    rw [hwire, List.flatten_cons, List.forall_mem_cons, hfull, ← hiff]
    constructor
    · rw [List.length_append, List.length_append, htake]
      omega
    · constructor
      · intro h
        -- the later parts are no longer than their frames, so none of them makes up for this one
        have hlength := congrArg List.length h
        rw [List.length_append, List.length_append, htake] at hlength
        have hall : n = data.length := by omega
        rw [hall, List.take_length] at h
        exact ⟨hall, List.append_cancel_left h⟩
      · rintro ⟨rfl, h⟩
        rw [List.take_length, h]

/-- The wire carries the complete frames, one after the other, exactly if every `os.write` of the
run wrote all the bytes that it was given. -/
theorem onWire_eq_frames_iff {fd : ℕ} {calls : List SendCall} {t : List FdEvent}
    {r : Except PyErr Unit} (hrun : Run (sendAll fd calls) t r)
    (hallowed : ∀ e ∈ t, WriteAllowed e) :
    onWire t = (frames calls).flatten ↔ ∀ e ∈ t, FullWrite e :=
  (onWire_eq_flatten_iff (run_sendAll_iff.mp ⟨r, hrun⟩) hallowed).2

def twoCalls : List SendCall := [.sendFrame [7], .sendFrame [8]]

/-- Two frames, and a run that writes `n` bytes of the first. -/
def twoWrites (n : ℕ) : List FdEvent :=
  [⟨.osWrite 3 [0, 1, 7], .ok n⟩, ⟨.osWrite 3 [0, 1, 8], .ok 3⟩]

theorem run_twoWrites (n : ℕ) : ∃ r, Run (sendAll 3 twoCalls) (twoWrites n) r :=
  run_sendAll_iff.mpr rfl

theorem twoWrites_allowed {n : ℕ} (hpos : 1 ≤ n) (hle : n ≤ 3) :
    ∀ e ∈ twoWrites n, WriteAllowed e := by
  intro e he fd data x h
  subst h
  simp only [twoWrites, List.mem_cons, List.not_mem_nil, or_false] at he
  rcases he with h | h
  · cases h
    exact ⟨n, rfl, hpos, hle⟩
  · cases h
    exact ⟨3, rfl, by decide, le_refl 3⟩

/-- Two bytes of the first frame are written. -/
theorem onWire_eq_frames_iff_two :
    onWire (twoWrites 2) = (frames twoCalls).flatten ↔ ∀ e ∈ twoWrites 2, FullWrite e := by
  obtain ⟨r, hrun⟩ := run_twoWrites 2
  exact onWire_eq_frames_iff hrun (twoWrites_allowed (by decide) (by decide))

/-- One byte of the first frame is written, and the second frame lands behind it. -/
theorem onWire_cut : ¬ ∀ fd calls t r, Run (sendAll fd calls) t r → (∀ e ∈ t, WriteAllowed e) →
    onWire t = (frames calls).flatten := by
  intro h
  obtain ⟨r, hrun⟩ := run_twoWrites 1
  have hwire := h 3 twoCalls _ _ hrun (twoWrites_allowed le_rfl (by decide))
  exact absurd hwire (by decide)

end SendCall

end Gear360
