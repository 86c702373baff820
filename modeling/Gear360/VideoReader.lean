import Gear360.Interaction
import Gear360.TttsDemux

namespace Gear360

open Interaction ChunkedSource
open Interaction.Prog (fromResult)

section
variable {Op : Type} {Ans : Op → Type} (readChunk : ℕ → Prog Ans PyErr Bytes)

/-- `read_exact_bytes`, with `data` read so far. -/
def readExact (size : ℕ) (data : Bytes) : Prog Ans PyErr (Option Bytes) :=
  if data.length < size then do
    match ← (readChunk (size - data.length)).attempt with
    | .error e => if e = .other "TimeoutError" then return none else .raise e
    | .ok [] => return none
    | .ok (c :: cs) => readExact size (data ++ c :: cs)
  else return some data
termination_by size - data.length
decreasing_by simp only [List.length_append, List.length_cons]; omega

/-- What one turn of `iter_video_frames` comes to. -/
inductive Turn where
  | stop
  | skip
  | frame (data : Bytes)

/-- The part of a turn after a tag of video or audio. -/
def readMedia (tag : Bytes) : Prog Ans PyErr Turn := do
  let sizeBytes ← readExact readChunk 4 []
  let _ ← readExact readChunk 8 []
  match sizeBytes with
  | none => return .stop
  | some sizeBytes =>
    match ← readExact readChunk (BigEndian.decode sizeBytes) [] with
    | none => return .stop
    | some frameData => if tag = videoTag then return .frame frameData else return .skip

/-- The body of the loop of `iter_video_frames`. -/
def demuxTurn : Prog Ans PyErr Turn := do
  match ← readExact readChunk 4 [] with
  | none => return .stop
  | some tag =>
    if tag = headerTag then
      let _ ← readExact readChunk 200 []
      return .skip
    else if tag ≠ videoTag ∧ tag ≠ audioTag then return .stop
    else readMedia readChunk tag

theorem readExact_done {size : ℕ} {data : Bytes} (h : size ≤ data.length) :
    readExact readChunk size data = .ret (some data) := by
  rw [readExact, if_neg (by omega)]
  rfl

/-- One turn of the loop. -/
theorem readExact_step {size : ℕ} {data : Bytes} (h : data.length < size) :
    readExact readChunk size data = (readChunk (size - data.length)).attempt >>= fun
      | .error e => if e = .other "TimeoutError" then return none else .raise e
      | .ok [] => return none
      | .ok (c :: cs) => readExact readChunk size (data ++ c :: cs) := by
  rw [readExact, if_pos h]

/-- The single read is one event, and that is what `readOf` sees of it. -/
def SingleRead (readOf : Event Ans PyErr → Option (ℕ × Except PyErr Bytes)) : Prop :=
  ∀ n t x, Run (readChunk n) t x → t.filterMap readOf = [(n, x)]

variable {readChunk} {σ : Type} {src : Source UInt8 PyErr σ} {s s' : σ}
  {readOf : Event Ans PyErr → Option (ℕ × Except PyErr Bytes)} {t : List (Event Ans PyErr)}

variable (readOf) in
/-- A read that failed, other than by a timeout. -/
def BrokenBy (t : List (Event Ans PyErr)) (e : PyErr) : Prop :=
  e ≠ .other "TimeoutError" ∧ ∃ n, (n, .error e) ∈ t.filterMap readOf

theorem BrokenBy.left {e : PyErr} (h : BrokenBy readOf t e) (u : List (Event Ans PyErr)) :
    BrokenBy readOf (t ++ u) e := by
  obtain ⟨n, hn⟩ := h.2
  exact ⟨h.1, n, by rw [List.filterMap_append]; exact List.mem_append_left _ hn⟩

theorem BrokenBy.right {e : PyErr} (h : BrokenBy readOf t e) (u : List (Event Ans PyErr)) :
    BrokenBy readOf (u ++ t) e := by
  obtain ⟨n, hn⟩ := h.2
  exact ⟨h.1, n, by rw [List.filterMap_append]; exact List.mem_append_right _ hn⟩

/-- One turn: what the source gives to the single read, and the rest of the loop. -/
theorem run_readExact_turn (hreads : SingleRead readChunk readOf) {size : ℕ} {data : Bytes}
    {r : Except PyErr (Option Bytes)} (hlt : data.length < size)
    (hr : Run (readExact readChunk size data) t r) (hs : Served src s (t.filterMap readOf) s')
    {x : Except PyErr Bytes} {m : σ} (hread : src.read s (size - data.length) = (x, m)) :
    ∃ u v, t = u ++ v ∧ u.filterMap readOf = [(size - data.length, x)] ∧
      Served src m (v.filterMap readOf) s' ∧
      Run (match x with
        | .error e => if e = .other "TimeoutError" then return none else .raise e
        | .ok [] => return none
        | .ok (c :: cs) => readExact readChunk size (data ++ c :: cs)) v r := by
  rw [readExact_step readChunk hlt] at hr
  rcases run_bind_cases hr with ⟨e, he, -⟩ | ⟨u, y, v, hu, hv, rfl⟩
  · obtain ⟨y, hy, -⟩ := run_attempt_iff.mp he
    cases hy
  · obtain ⟨z, hz, hrun⟩ := run_attempt_iff.mp hu
    cases hz
    -- the events of one read are that read alone
    have hone := hreads _ _ _ hrun
    rw [List.filterMap_append, hone, List.singleton_append] at hs
    obtain ⟨hx, hs⟩ := hs
    rw [hread] at hx hs
    rw [← hx] at hone hv
    exact ⟨u, v, rfl, hone, hs, hv⟩

/-- The loop gathers from the source, or a read breaks it off. -/
theorem run_readExact (hreads : SingleRead readChunk readOf) {size : ℕ} {data : Bytes}
    {r : Except PyErr (Option Bytes)} (hr : Run (readExact readChunk size data) t r)
    (hs : Served src s (t.filterMap readOf) s') :
    s' = (gather src size data s).2 ∧
      (r = .ok (gather src size data s).1 ∨ ∃ e, r = .error e ∧ BrokenBy readOf t e) := by
  -- the cases are those of the loop over the source: end or failure, an empty read, a read
  induction data, s using gather.induct src size generalizing t with
  | case1 data s hlt e m hm =>
    obtain ⟨u, v, rfl, hu, hs, hv⟩ := run_readExact_turn hreads hlt hr hs hm
    rw [gather_step src s hlt, hm]
    simp only at hv
    split_ifs at hv with he
    · obtain ⟨rfl, hres⟩ := run_ret_iff.mp hv
      exact ⟨hs, .inl hres⟩
    · obtain ⟨rfl, hres⟩ := run_raise_iff.mp hv
      refine ⟨hs, .inr ⟨e, hres, he, size - data.length, ?_⟩⟩
      rw [List.append_nil, hu]
      exact List.mem_cons_self
  | case2 data s hlt m hm =>
    obtain ⟨u, v, rfl, hu, hs, hv⟩ := run_readExact_turn hreads hlt hr hs hm
    rw [gather_step src s hlt, hm]
    obtain ⟨rfl, hres⟩ := run_ret_iff.mp hv
    exact ⟨hs, .inl hres⟩
  | case3 data s hlt c cs m hm ih =>
    obtain ⟨u, v, rfl, hu, hs, hv⟩ := run_readExact_turn hreads hlt hr hs hm
    rw [gather_step src s hlt, hm]
    obtain ⟨hstate, hres⟩ := ih hv hs
    refine ⟨hstate, hres.imp_right ?_⟩
    rintro ⟨e, he, hbroken⟩
    exact ⟨e, he, hbroken.right u⟩
  | case4 data s hge =>
    rw [readExact_done readChunk (by omega)] at hr
    obtain ⟨rfl, hres⟩ := run_ret_iff.mp hr
    rw [gather_done src s (by omega)]
    exact ⟨hs, .inl hres⟩

/-- An exact read, and what comes after it. -/
theorem run_readExact_bind {α : Type} (hreads : SingleRead readChunk readOf) {size : ℕ}
    {f : Option Bytes → Prog Ans PyErr α} {r : Except PyErr α}
    (hr : Run (readExact readChunk size [] >>= f) t r) (hs : Served src s (t.filterMap readOf) s') :
    (∃ e, r = .error e ∧ BrokenBy readOf t e) ∨
      ∃ u v, t = u ++ v ∧ Run (f (readExactBytes src size s).1) v r ∧
        Served src (readExactBytes src size s).2 (v.filterMap readOf) s' := by
  rcases run_bind_cases hr with ⟨e, he, rfl⟩ | ⟨u, x, v, hu, hv, rfl⟩
  · obtain ⟨-, hres | ⟨e', he', hbroken⟩⟩ := run_readExact hreads he hs
    · cases hres
    · cases he'
      exact .inl ⟨e, rfl, hbroken⟩
  · rw [List.filterMap_append] at hs
    obtain ⟨m, hsu, hsv⟩ := served_append.mp hs
    obtain ⟨rfl, hres | ⟨e, he, -⟩⟩ := run_readExact hreads hu hsu
    · cases hres
      exact .inr ⟨u, v, rfl, hv, hsv⟩
    · cases he

variable (src) in
/-- What a turn from `s` to `s'` says of the frames still to come. -/
def Turn.Tells (s s' : σ) : Turn → Prop
  | .stop => iterVideoFrames src s = []
  | .skip => iterVideoFrames src s = iterVideoFrames src s' ∧
      (src.pending s').length < (src.pending s).length
  | .frame data => iterVideoFrames src s = data :: iterVideoFrames src s' ∧
      (src.pending s').length < (src.pending s).length

/-- After the tag of a media chunk. -/
theorem run_readMedia (hreads : SingleRead readChunk readOf) {tag : Bytes} {s₀ : σ}
    (htag : readExactBytes src 4 s₀ = (some tag, s)) (hheader : tag ≠ headerTag)
    (hmedia : ¬(tag ≠ videoTag ∧ tag ≠ audioTag)) {r : Except PyErr Turn}
    (hr : Run (readMedia readChunk tag) t r) (hs : Served src s (t.filterMap readOf) s') :
    (∃ turn, r = .ok turn ∧ turn.Tells src s₀ s') ∨ ∃ e, r = .error e ∧ BrokenBy readOf t e := by
  have hframes := iterVideoFrames_tag src htag
  rw [if_neg hheader, if_neg hmedia] at hframes
  have hless : (src.pending s).length < (src.pending s₀).length := by
    have hshorter := readExactBytes_shorter src (by norm_num) (congrArg Prod.fst htag)
    rwa [htag] at hshorter
  have hle := (readExactBytes_le src 8 (readExactBytes src 4 s).2).trans (readExactBytes_le src 4 s)
  rcases run_readExact_bind hreads hr hs with ⟨e, he, hbroken⟩ | ⟨u, v, rfl, hv, hsv⟩
  · exact .inr ⟨e, he, hbroken⟩
  rcases run_readExact_bind hreads hv hsv with ⟨e, he, hbroken⟩ | ⟨u', v, rfl, hv, hsv⟩
  · exact .inr ⟨e, he, hbroken.right u⟩
  match hsize : (readExactBytes src 4 s).1 with
  | none =>
    rw [hsize] at hv hframes
    obtain ⟨-, rfl⟩ := run_ret_iff.mp hv
    exact .inl ⟨.stop, rfl, hframes⟩
  | some sizeBytes =>
    rw [hsize] at hv hframes
    simp only at hframes
    rcases run_readExact_bind hreads hv hsv with ⟨e, he, hbroken⟩ | ⟨w, v, rfl, hv, hsv⟩
    · exact .inr ⟨e, he, (hbroken.right u').right u⟩
    have hle' := readExactBytes_le src (BigEndian.decode sizeBytes)
      (readExactBytes src 8 (readExactBytes src 4 s).2).2
    -- the payload, whatever was read of it
    generalize readExactBytes src (BigEndian.decode sizeBytes) _ = read at *
    obtain ⟨frameData, after⟩ := read
    cases frameData with
    | none =>
      obtain ⟨-, rfl⟩ := run_ret_iff.mp hv
      exact .inl ⟨.stop, rfl, hframes⟩
    | some frameData =>
      simp only at hv hframes hsv hle'
      split_ifs at hv hframes with hvideo
      · obtain ⟨rfl, rfl⟩ := run_ret_iff.mp hv
        obtain rfl := hsv
        exact .inl ⟨.frame frameData, rfl, hframes, by omega⟩
      · obtain ⟨rfl, rfl⟩ := run_ret_iff.mp hv
        obtain rfl := hsv
        exact .inl ⟨.skip, rfl, hframes, by omega⟩

/-- One turn of the loop is one turn of the demuxer, or a read breaks it off. -/
theorem run_demuxTurn (hreads : SingleRead readChunk readOf) {r : Except PyErr Turn}
    (hr : Run (demuxTurn readChunk) t r) (hs : Served src s (t.filterMap readOf) s') :
    (∃ turn, r = .ok turn ∧ turn.Tells src s s') ∨ ∃ e, r = .error e ∧ BrokenBy readOf t e := by
  rcases run_readExact_bind hreads hr hs with ⟨e, he, hbroken⟩ | ⟨u, v, rfl, hv, hsv⟩
  · exact .inr ⟨e, he, hbroken⟩
  match htag : (readExactBytes src 4 s).1 with
  | none =>
    rw [htag] at hv
    obtain ⟨-, rfl⟩ := run_ret_iff.mp hv
    exact .inl ⟨.stop, rfl, iterVideoFrames_no_tag src htag⟩
  | some tag =>
    rw [htag] at hv
    have hread : readExactBytes src 4 s = (some tag, (readExactBytes src 4 s).2) :=
      Prod.ext_iff.mpr ⟨htag, rfl⟩
    have hframes := iterVideoFrames_tag src hread
    simp only at hv
    -- a header is skipped with its 200 bytes
    by_cases hheader : tag = headerTag
    · rw [if_pos hheader] at hv hframes
      rcases run_readExact_bind hreads hv hsv with ⟨e, he, hbroken⟩ | ⟨u', v', rfl, hv', hsv'⟩
      · exact .inr ⟨e, he, hbroken.right u⟩
      · obtain ⟨rfl, rfl⟩ := run_ret_iff.mp hv'
        obtain rfl := hsv'
        have hless := readExactBytes_shorter src (by norm_num) htag
        exact .inl ⟨.skip, rfl, hframes, (readExactBytes_le src 200 _).trans_lt hless⟩
    rw [if_neg hheader] at hv hframes
    -- any other tag than the two of media ends the stream
    by_cases hmedia : tag ≠ videoTag ∧ tag ≠ audioTag
    · rw [if_pos hmedia] at hv hframes
      obtain ⟨-, rfl⟩ := run_ret_iff.mp hv
      exact .inl ⟨.stop, rfl, hframes⟩
    · rw [if_neg hmedia] at hv
      refine (run_readMedia hreads hread hheader hmedia hv hsv).imp_right ?_
      rintro ⟨e, he, hbroken⟩
      exact ⟨e, he, hbroken.right u⟩

theorem performs_readExact {P : Op → Prop} (hread : ∀ n, Performs P (readChunk n)) (size : ℕ)
    (data : Bytes) : Performs P (readExact readChunk size data) := by
  induction data using readExact.induct size with
  | case1 data hlt ih =>
    rw [readExact_step readChunk hlt]
    apply performs_bind (performs_attempt (hread _))
    intro x
    match x with
    | .error e =>
      simp only
      split_ifs
      · exact performs_ret P none
      · exact performs_raise P e
    | .ok [] => exact performs_ret P none
    | .ok (c :: cs) => exact ih c cs
  | case2 data hge =>
    rw [readExact_done readChunk (by omega)]
    exact performs_ret P _

theorem performs_demuxTurn {P : Op → Prop} (hread : ∀ n, Performs P (readChunk n)) :
    Performs P (demuxTurn readChunk) := by
  have hexact := performs_readExact hread
  apply performs_bind (hexact 4 [])
  rintro (_ | tag)
  · exact performs_ret P _
  simp only
  split_ifs
  · exact performs_bind (hexact 200 []) fun _ => performs_ret P _
  · exact performs_ret P _
  · apply performs_bind (hexact 4 [])
    intro sizeBytes
    apply performs_bind (hexact 8 [])
    intro _
    cases sizeBytes with
    | none => exact performs_ret P _
    | some sizeBytes =>
      apply performs_bind (hexact _ [])
      rintro (_ | frameData)
      · exact performs_ret P _
      · simp only
        split_ifs <;> exact performs_ret P _

end

end Gear360
