import Gear360.SlpStream

namespace Gear360

open Interaction
open Interaction.Prog (perform fromResult)

namespace SapSession

def sendFrames (session : SapSession) : List Bytes → Fd Unit
  | [] => return ()
  | p :: ps => do
    session.sendFrame p
    session.sendFrames ps

def readFrames (session : SapSession) (timeout : ℕ) : ℕ → Fd (List (Option Bytes))
  | 0 => return []
  | n+1 => do
    let p ← session.readFrame timeout
    let ps ← session.readFrames timeout n
    return p :: ps

end SapSession

/-- A camera whose bytes arrive in the given pieces, one piece for each `os.read`, and
which is ready as long as a piece is left. -/
def chunkHandler : Handler FdAns PyErr (List Bytes)
  | .select _ _, chunks => (.ok (!chunks.isEmpty), chunks)
  | .osRead _ _, chunks => (.ok (chunks.headD []), chunks.tail)
  | .osWrite _ data, chunks => (.ok data.length, chunks)
  | .logError _, chunks => (.ok (), chunks)

def plainWire (payload : Bytes) : Bytes := BigEndian.encode 2 payload.length ++ payload

/-- What `read_frame` makes of the bytes of one `os.read`. -/
def frameOf (chunk : Bytes) : Option Bytes :=
  if chunk.length < 2 then none
  else some (slice chunk 2 (2+BigEndian.decode (slice chunk 0 2)))

def framesOf : ℕ → List Bytes → List (Option Bytes)
  | 0, _ => []
  | n+1, [] => none :: framesOf n []
  | n+1, c :: cs => frameOf c :: framesOf n cs

theorem plainWire_length (payload : Bytes) : (plainWire payload).length = payload.length+2 := by
  rw [plainWire, List.length_append, BigEndian.encode_length, Nat.add_comm]

theorem exec_sendFrames (session : SapSession) (payloads : List Bytes)
    (hle : ∀ p ∈ payloads, p.length ≤ 65535) (wire : Bytes) :
    ∃ t, exec wireHandler (session.sendFrames payloads) wire =
      ⟨t, .ok (), wire ++ payloads.flatMap plainWire⟩ := by
  induction payloads generalizing wire with
  | nil => exact ⟨[], by simp [SapSession.sendFrames, Prog.pure_eq]⟩
  | cons p ps ih =>
    have hlen : be16 p.length = .ok (BigEndian.encode 2 p.length) :=
      be16_ok (by have := hle p List.mem_cons_self; omega)
    have hsend : ∃ t, exec wireHandler (session.sendFrame p) wire =
        ⟨t, .ok (), wire ++ plainWire p⟩ := by
      rw [SapSession.sendFrame, hlen]
      exact ⟨_, rfl⟩
    obtain ⟨t, ht⟩ := hsend
    obtain ⟨u, hu⟩ := ih (fun q hq => hle q (List.mem_cons_of_mem _ hq)) (wire ++ plainWire p)
    refine ⟨t ++ u, ?_⟩
    rw [SapSession.sendFrames, exec_bind_ok ht, hu, List.flatMap_cons, List.append_assoc]

theorem exec_readFrame (session : SapSession) (timeout : ℕ) (chunks : List Bytes) :
    ∃ t, exec chunkHandler (session.readFrame timeout) chunks =
      ⟨t, .ok ((chunks.head?).bind frameOf), chunks.tail⟩ := by
  cases chunks with
  | nil => exact ⟨_, rfl⟩
  | cons c cs =>
    have hsel : exec chunkHandler (select session.fd timeout) (c :: cs) =
        ⟨[⟨.select session.fd timeout, .ok true⟩], .ok true, c :: cs⟩ := rfl
    have hread : exec chunkHandler (osRead session.fd 4096) (c :: cs) =
        ⟨[⟨.osRead session.fd 4096, .ok c⟩], .ok c, cs⟩ := rfl
    rw [SapSession.readFrame, exec_bind_ok hsel]
    simp only [Bool.not_true, Bool.false_eq_true, if_false]
    rw [exec_bind_ok hread]
    simp only [List.head?_cons, Option.bind_some, frameOf, List.tail_cons]
    -- no byte at all is the end of the connection
    by_cases hnil : c = []
    · rw [if_pos hnil, hnil]
      exact ⟨_, rfl⟩
    · rw [if_neg hnil]
      split_ifs with hlt
      · exact ⟨_, rfl⟩
      · have hhead : (slice c 0 2).length = 2 := by
          simp only [slice, List.drop_zero, List.length_take]; omega
        rw [unpackH_ok hhead]
        exact ⟨_, rfl⟩

theorem exec_readFrames (session : SapSession) (timeout n : ℕ) (chunks : List Bytes) :
    (exec chunkHandler (session.readFrames timeout n) chunks).result =
      .ok (framesOf n chunks) := by
  have hall : ∃ t s', exec chunkHandler (session.readFrames timeout n) chunks =
      ⟨t, .ok (framesOf n chunks), s'⟩ := by
    induction n generalizing chunks with
    | zero => exact ⟨[], chunks, rfl⟩
    | succ n ih =>
      obtain ⟨t, ht⟩ := exec_readFrame session timeout chunks
      obtain ⟨u, s', hu⟩ := ih chunks.tail
      refine ⟨t ++ (u ++ []), s', ?_⟩
      rw [SapSession.readFrames, exec_bind_ok ht, exec_bind_ok hu]
      cases chunks <;> rfl
  obtain ⟨t, s', h⟩ := hall
  rw [h]

theorem frameOf_plainWire {payload : Bytes} (hle : payload.length ≤ 65535) :
    frameOf (plainWire payload) = some payload := by
  have hlen := BigEndian.encode_length 2 payload.length
  have hhead : slice (plainWire payload) 0 2 = BigEndian.encode 2 payload.length :=
    slice_append [] _ _ rfl (by rw [hlen])
  have hbody : slice (plainWire payload) 2 (2+payload.length) = payload := by
    simpa [plainWire] using slice_append _ payload [] hlen rfl
  rw [frameOf, if_neg (by rw [plainWire_length]; omega), hhead,
    BigEndian.decode_encode (by omega), hbody]

/-- A delivered payload takes at least its own frame's room in the piece it came from. -/
theorem frameOf_length {chunk payload : Bytes} (h : frameOf chunk = some payload) :
    payload.length+2 ≤ chunk.length := by
  unfold frameOf at h
  split_ifs at h with hlt
  cases h
  simp only [slice, List.length_drop, List.length_take]
  omega

theorem framesOf_length_le {payloads chunks : List Bytes}
    (h : framesOf payloads.length chunks = payloads.map some) :
    (payloads.flatMap plainWire).length ≤ chunks.flatten.length := by
  induction payloads generalizing chunks with
  | nil => exact Nat.zero_le _
  | cons p ps ih =>
    cases chunks with
    | nil => cases h
    | cons c cs =>
      obtain ⟨hc, hcs⟩ := List.cons.inj h
      have h1 := frameOf_length hc
      have h2 := ih hcs
      simp only [List.flatMap_cons, List.flatten_cons, List.length_append, plainWire_length]
        at h2 ⊢
      omega

/-- The pieces have no room to spare: if every payload came through, each piece is
exactly one frame. -/
theorem framesOf_eq_iff {payloads chunks : List Bytes} (hle : ∀ p ∈ payloads, p.length ≤ 65535)
    (hpos : ∀ c ∈ chunks, 1 ≤ c.length) (hflat : chunks.flatten = payloads.flatMap plainWire) :
    framesOf payloads.length chunks = payloads.map some ↔ chunks = payloads.map plainWire := by
  induction payloads generalizing chunks with
  | nil =>
    have hnil : chunks = [] := by
      cases chunks with
      | nil => rfl
      | cons c cs =>
        have hc := hpos c List.mem_cons_self
        simp only [List.flatten_cons, List.flatMap_nil, List.append_eq_nil_iff] at hflat
        rw [hflat.1] at hc
        exact absurd hc (by simp)
    simp [hnil, framesOf]
  | cons p ps ih =>
    have hps : ∀ q ∈ ps, q.length ≤ 65535 := fun q hq => hle q (List.mem_cons_of_mem _ hq)
    cases chunks with
    | nil => constructor <;> intro h <;> cases h
    | cons c cs =>
      have hcs : ∀ d ∈ cs, 1 ≤ d.length := fun d hd => hpos d (List.mem_cons_of_mem _ hd)
      simp only [List.flatten_cons, List.flatMap_cons] at hflat
      simp only [List.length_cons, framesOf, List.map_cons, List.cons.injEq]
      constructor
      · rintro ⟨hc, hrest⟩
        -- the first piece holds at least its frame and the rest at least theirs; the total
        -- leaves no byte over, so the first piece ends with its frame
        have h1 := frameOf_length hc
        have h2 := framesOf_length_le hrest
        have htotal := congrArg List.length hflat
        simp only [List.length_append, plainWire_length] at htotal
        obtain ⟨he, hf⟩ := List.append_inj hflat (by rw [plainWire_length]; omega)
        exact ⟨he, (ih hps hcs hf).mp hrest⟩
      · rintro ⟨rfl, hrest⟩
        exact ⟨frameOf_plainWire (hle p List.mem_cons_self),
          (ih hps hcs (List.append_cancel_left hflat)).mpr hrest⟩

/-- Successive `read_frame` calls return the payloads written with `send_frame` if and
only if every `os.read` returned exactly one whole frame. -/
theorem plain_frames_delivered_iff (session : SapSession) (timeout : ℕ) (payloads : List Bytes)
    (hle : ∀ p ∈ payloads, p.length ≤ 65535) (chunks : List Bytes)
    (hchunks : ∀ c ∈ chunks, 1 ≤ c.length ∧ c.length ≤ 4096)
    (hflat : chunks.flatten = (exec wireHandler (session.sendFrames payloads) []).state) :
    (exec chunkHandler (session.readFrames timeout payloads.length) chunks).result =
      .ok (payloads.map some) ↔ chunks = payloads.map plainWire := by
  obtain ⟨t, ht⟩ := exec_sendFrames session payloads hle []
  rw [ht] at hflat
  rw [exec_readFrames, Except.ok.injEq]
  exact framesOf_eq_iff hle (fun c hc => (hchunks c hc).1) hflat

theorem plain_frames_delivered_two :
    (exec chunkHandler (SapSession.readFrames ⟨3, false⟩ 5000 2)
      [[0,1,9],[0,2,16,0]]).result = .ok [some [9], some [16,0]] :=
  (plain_frames_delivered_iff ⟨3, false⟩ 5000 [[9],[16,0]] (by decide) [[0,1,9],[0,2,16,0]]
    (by decide) (by decide +kernel)).mpr (by decide +kernel)

/-- PD_SUCCESS and AUTH_REQUEST in one `os.read`: the second frame is dropped. -/
theorem glued_frames_lost :
    (∀ c ∈ [[0,1,9,0,2,16,0]], 1 ≤ c.length ∧ c.length ≤ 4096) ∧
    [[0,1,9,0,2,16,0]].flatten =
      (exec wireHandler (SapSession.sendFrames ⟨3, false⟩ [[9],[16,0]]) []).state ∧
    (exec chunkHandler (SapSession.readFrames ⟨3, false⟩ 5000 2) [[0,1,9,0,2,16,0]]).result ≠
      .ok ([[9],[16,0]].map some) := by
  refine ⟨by decide, by decide +kernel, ?_⟩
  have h : (exec chunkHandler (SapSession.readFrames ⟨3, false⟩ 5000 2)
      [[0,1,9,0,2,16,0]]).result = .ok [some [9], none] := by rfl
  rw [h]
  decide

end Gear360
