import Gear360.TttsDemux

namespace Gear360

open ChunkedSource Chunk

variable {φ : Type}

/-- The offsets in a chunk where the bytes are read and the result is not looked at: the 200
bytes of a repeated header, and the timestamp. -/
def Chunk.Unguarded : Chunk → ℕ → Prop
  | .header _ _, offset => 4 ≤ offset ∧ offset < 204
  | .media _ _ _ _ _, offset => 8 ≤ offset ∧ offset < 16

/-- The same for an offset in a stream of chunks. -/
def UnguardedAt : List Chunk → ℕ → Prop
  | [], _ => False
  | c :: cs, offset =>
    if offset < c.encode.length then c.Unguarded offset
    else UnguardedAt cs (offset - c.encode.length)

instance (c : Chunk) (offset : ℕ) : Decidable (c.Unguarded offset) := by
  cases c <;> exact inferInstanceAs (Decidable (_ ∧ _))

instance decidableUnguardedAt : (cs : List Chunk) → (offset : ℕ) →
    Decidable (UnguardedAt cs offset)
  | [], _ => inferInstanceAs (Decidable False)
  | c :: cs, offset =>
    have := decidableUnguardedAt cs (offset - c.encode.length)
    inferInstanceAs (Decidable (if offset < c.encode.length then c.Unguarded offset
      else UnguardedAt cs (offset - c.encode.length)))

theorem readExactBytes_arrived {size : ℕ} {out left : Bytes} {pieces : List Bytes}
    (tail : List (Except φ Bytes)) (h : pieces.flatten = out ++ left) (ho : out.length = size) :
    ∃ pieces' : List Bytes, pieces'.flatten = left ∧
      readExactBytes arrivals size (pieces.map .ok ++ tail) =
        (some out, pieces'.map .ok ++ tail) := by
  have hsize : size - ([] : Bytes).length ≤ pieces.flatten.length := by
    simp only [h, List.length_append, List.length_nil]
    omega
  obtain ⟨pieces', hgather, hleft⟩ := gather_arrivals size [] pieces tail hsize
  rw [List.length_nil, Nat.sub_zero, h, ← ho] at hgather hleft
  rw [List.drop_left] at hleft
  rw [List.take_left, List.nil_append, ho] at hgather
  exact ⟨pieces', hleft, hgather⟩

/-- A read struck by a timeout gives nothing, and the bytes before the timeout are gone. -/
theorem readExactBytes_struck {size : ℕ} {pieces : List Bytes} (e : φ)
    (after : List (Except φ Bytes)) (h : pieces.flatten.length < size) :
    readExactBytes arrivals size (pieces.map .ok ++ .error e :: after) = (none, after) :=
  gather_fault size [] pieces e after h

/-- What has arrived starts with a field, as far as it is long enough. -/
theorem arrived_field {a cut field rest : Bytes} (h : a ++ cut = field ++ rest)
    (hlen : field.length ≤ a.length) : ∃ left, a = field ++ left ∧ left ++ cut = rest := by
  obtain ⟨left, rfl⟩ := List.prefix_of_prefix_length_le ⟨rest, h.symm⟩ ⟨cut, rfl⟩ hlen
  rw [List.append_assoc] at h
  exact ⟨left, rfl, List.append_cancel_left h⟩

/-- A chunk that no timeout strikes is consumed, and its payload yielded if it is video. -/
theorem iterVideoFrames_arrived (c : Chunk) {left : Bytes} {pieces : List Bytes}
    (tail : List (Except φ Bytes)) (h : pieces.flatten = c.encode ++ left) :
    ∃ pieces' : List Bytes, pieces'.flatten = left ∧
      iterVideoFrames arrivals (pieces.map .ok ++ tail) =
        c.videoPayload.toList ++ iterVideoFrames arrivals (pieces'.map .ok ++ tail) := by
  -- field by field, each of which is all there
  cases c with
  | header body hbody =>
    rw [Chunk.encode, List.append_assoc] at h
    obtain ⟨p₁, h₁, htag⟩ := readExactBytes_arrived tail h (by rfl : headerTag.length = 4)
    obtain ⟨p₂, h₂, hskip⟩ := readExactBytes_arrived tail h₁ hbody
    refine ⟨p₂, h₂, ?_⟩
    rw [iterVideoFrames_tag _ htag, if_pos rfl, hskip]
    rfl
  | media video timestamp data htime hdata =>
    simp only [Chunk.encode, List.append_assoc] at h
    obtain ⟨p₁, h₁, htag⟩ := readExactBytes_arrived tail h (mediaTag_length video)
    obtain ⟨p₂, h₂, hsize⟩ := readExactBytes_arrived tail h₁ (BigEndian.encode_length _ _)
    obtain ⟨p₃, h₃, htimestamp⟩ := readExactBytes_arrived tail h₂ htime
    obtain ⟨p₄, h₄, hframe⟩ := readExactBytes_arrived tail h₃ rfl
    refine ⟨p₄, h₄, ?_⟩
    rw [iterVideoFrames_sized htag hsize, htimestamp,
      BigEndian.decode_encode (k := 4) (by simpa using hdata), hframe]
    cases video <;> rfl

/-- A chunk struck by a timeout where the result is looked at ends the loop. -/
theorem iterVideoFrames_struck (c : Chunk) {pieces : List Bytes} {cut : Bytes} (e : φ)
    (after : List (Except φ Bytes)) (h : pieces.flatten ++ cut = c.encode) (hcut : cut ≠ [])
    (hguarded : ¬c.Unguarded pieces.flatten.length) :
    iterVideoFrames arrivals (pieces.map .ok ++ .error e :: after) = [] := by
  have hlen := congrArg List.length h
  have hpos := List.length_pos_iff.mpr hcut
  rcases Nat.lt_or_ge pieces.flatten.length 4 with hp | hp
  · exact iterVideoFrames_no_tag _ (by rw [readExactBytes_struck e after hp])
  cases c with
  | header body hbody =>
    -- nothing but the tag of a repeated header is guarded
    simp only [Chunk.encode, Chunk.Unguarded, List.length_append, hbody] at hlen hguarded
    change _ = 4+200 at hlen
    omega
  | media video timestamp data htime hdata =>
    simp only [Chunk.encode, Chunk.Unguarded] at h hguarded
    simp only [Chunk.encode, List.length_append, mediaTag_length, BigEndian.encode_length,
      htime] at hlen
    obtain ⟨left₁, h₁, hcut₁⟩ := arrived_field h (by rwa [mediaTag_length])
    obtain ⟨p₁, hp₁, htag⟩ :=
      readExactBytes_arrived (.error e :: after) h₁ (mediaTag_length video)
    rw [h₁, List.length_append, mediaTag_length] at hguarded hlen
    rcases Nat.lt_or_ge left₁.length 4 with hsize | hsize
    · rw [← hp₁] at hsize
      exact iterVideoFrames_unsized htag (by rw [readExactBytes_struck e after hsize])
    · -- the timestamp is whole, so the timeout strikes the data
      obtain ⟨left₂, rfl, hcut₂⟩ := arrived_field hcut₁ (by rwa [BigEndian.encode_length])
      rw [List.length_append, BigEndian.encode_length] at hguarded hlen
      obtain ⟨left₃, rfl, hcut₃⟩ := arrived_field hcut₂ (by omega)
      obtain ⟨p₂, hp₂, hread₂⟩ := readExactBytes_arrived (.error e :: after) hp₁
        (BigEndian.encode_length _ _)
      obtain ⟨p₃, rfl, hread₃⟩ := readExactBytes_arrived (.error e :: after) hp₂ htime
      rw [List.length_append, htime] at hlen
      rw [iterVideoFrames_sized htag hread₂, hread₃,
        BigEndian.decode_encode (k := 4) (by simpa using hdata),
        readExactBytes_struck e after (by omega)]

/-- The chunks before the first timeout are consumed as if there were none. -/
theorem iterVideoFrames_arrived_all (cs : List Chunk) {left : Bytes} {pieces : List Bytes}
    (tail : List (Except φ Bytes)) (h : pieces.flatten = encodeAll cs ++ left) :
    ∃ pieces' : List Bytes, pieces'.flatten = left ∧
      iterVideoFrames arrivals (pieces.map .ok ++ tail) =
        videoPayloads cs ++ iterVideoFrames arrivals (pieces'.map .ok ++ tail) := by
  induction cs generalizing pieces with
  | nil => exact ⟨pieces, h, rfl⟩
  | cons c cs ih =>
    simp only [encodeAll, List.flatMap_cons, List.append_assoc] at h
    obtain ⟨p₁, h₁, he₁⟩ := iterVideoFrames_arrived c tail h
    obtain ⟨p₂, h₂, he₂⟩ := ih h₁
    refine ⟨p₂, h₂, ?_⟩
    rw [he₁, he₂, videoPayloads, videoPayloads, List.filterMap_cons]
    cases c.videoPayload <;> rfl

/-- The first timeout, where the result is looked at, is the end of the frames. -/
theorem iterVideoFrames_guarded (cs : List Chunk) {pieces : List Bytes} (e : φ)
    (after : List (Except φ Bytes)) {cut : Bytes} (h : pieces.flatten ++ cut = encodeAll cs)
    (hguarded : ¬UnguardedAt cs pieces.flatten.length) :
    iterVideoFrames arrivals (pieces.map .ok ++ .error e :: after) <+: videoPayloads cs := by
  -- chunk by chunk, until the one that the timeout strikes
  induction cs generalizing pieces with
  | nil =>
    obtain ⟨hnil, -⟩ := List.append_eq_nil_iff.mp h
    have hstruck : pieces.flatten.length < 4 := by simp [hnil]
    rw [iterVideoFrames_no_tag _ (by rw [readExactBytes_struck e after hstruck])]
    exact List.nil_prefix
  | cons c cs ih =>
    simp only [encodeAll, List.flatMap_cons] at h
    rw [UnguardedAt] at hguarded
    rcases Nat.lt_or_ge pieces.flatten.length c.encode.length with hlt | hge
    · -- the timeout strikes this chunk
      rw [if_pos hlt] at hguarded
      obtain ⟨cut', hcut'⟩ :=
        List.prefix_of_prefix_length_le ⟨cut, rfl⟩ ⟨_, h.symm⟩ hlt.le
      have hne : cut' ≠ [] := by
        rintro rfl
        rw [List.append_nil] at hcut'
        rw [hcut'] at hlt
        exact lt_irrefl _ hlt
      rw [iterVideoFrames_struck c e after hcut' hne hguarded]
      exact List.nil_prefix
    -- this chunk is all there
    · rw [if_neg (by omega)] at hguarded
      obtain ⟨left, hleft, hcs⟩ := arrived_field h hge
      obtain ⟨pieces', rfl, he⟩ := iterVideoFrames_arrived c (.error e :: after) hleft
      rw [hleft, List.length_append, Nat.add_sub_cancel_left] at hguarded
      rw [he, videoPayloads, List.filterMap_cons]
      have hrest := ih hcs hguarded
      cases c.videoPayload with
      | none => exact hrest
      | some data => exact List.cons_prefix_cons.mpr ⟨rfl, hrest⟩

/-- Cut in its timestamp, a video chunk still has its size: as many bytes are yielded as its
frame, from wherever the next read is. -/
theorem iterVideoFrames_cut_timestamp (cs : List Chunk) {size : ℕ} (hsize : size < 2^32)
    {timestamp : Bytes} (htime : timestamp.length < 8) {pieces more : List Bytes} (e : φ)
    (rest : List (Except φ Bytes))
    (h : pieces.flatten =
      encodeAll cs ++ (mediaTag true ++ (BigEndian.encode 4 size ++ timestamp)))
    (hmore : size ≤ more.flatten.length) :
    ∃ frames, iterVideoFrames arrivals (pieces.map .ok ++ .error e :: (more.map .ok ++ rest)) =
      videoPayloads cs ++ more.flatten.take size :: frames := by
  obtain ⟨p₁, h₁, he⟩ :=
    iterVideoFrames_arrived_all cs (.error e :: (more.map .ok ++ rest)) h
  obtain ⟨p₂, h₂, htag⟩ := readExactBytes_arrived (.error e :: (more.map .ok ++ rest)) h₁
    (mediaTag_length true)
  obtain ⟨p₃, rfl, hread⟩ := readExactBytes_arrived (.error e :: (more.map .ok ++ rest)) h₂
    (BigEndian.encode_length _ _)
  obtain ⟨p₄, -, hframe⟩ := readExactBytes_arrived rest
    (List.take_append_drop size more.flatten).symm (List.length_take_of_le hmore)
  -- the cut timestamp is read as none, and that is not looked at
  refine ⟨iterVideoFrames arrivals (p₄.map .ok ++ rest), ?_⟩
  rw [he, iterVideoFrames_sized htag hread, readExactBytes_struck e _ htime,
    BigEndian.decode_encode (k := 4) (by simpa using hsize), hframe]
  rfl

/-- The first timeout of a schedule, if there is one, does not strike where the demuxer looks
away. -/
def TimeoutGuarded (cs : List Chunk) (schedule : List (Except φ Bytes)) : Prop :=
  ∀ (pieces : List Bytes) (e : φ) (after : List (Except φ Bytes)),
    schedule = pieces.map .ok ++ .error e :: after → ¬UnguardedAt cs pieces.flatten.length

theorem timeoutGuarded_iff (cs : List Chunk) (pieces : List Bytes) (e : φ)
    (after : List (Except φ Bytes)) :
    TimeoutGuarded cs (pieces.map .ok ++ .error e :: after) ↔
      ¬UnguardedAt cs pieces.flatten.length := by
  constructor
  · intro h
    exact h pieces e after rfl
  · intro h pieces' e' after' heq
    -- what comes before the first timeout is determined
    have hsame : pieces' = pieces := by
      clear h
      induction pieces generalizing pieces' with
      | nil =>
        cases pieces' with
        | nil => rfl
        | cons piece' pieces' => cases heq
      | cons piece pieces ih =>
        cases pieces' with
        | nil => cases heq
        | cons piece' pieces' =>
          obtain ⟨hpiece, hrest⟩ := List.cons.inj heq
          cases hpiece
          rw [ih pieces' hrest]
    rwa [hsame]

/-- The frames are a prefix of the payloads if there is no timeout, or the first is guarded. -/
theorem iterVideoFrames_timeoutGuarded {cs : List Chunk} {schedule : List (Except φ Bytes)}
    (hs : arrived schedule = encodeAll cs) (hguarded : TimeoutGuarded cs schedule) :
    iterVideoFrames arrivals schedule <+: videoPayloads cs := by
  obtain ⟨pieces, rfl⟩ | ⟨pieces, e, after, rfl⟩ := arrivals_cases schedule
  · -- without a timeout all chunks arrive
    rw [← List.append_nil (pieces.map _), arrived_ok] at hs
    change pieces.flatten ++ [] = _ at hs
    have hall : pieces.flatten = encodeAll cs ++ [] := by
      rw [List.append_nil] at hs ⊢
      exact hs
    obtain ⟨pieces', hnil, he⟩ := iterVideoFrames_arrived_all cs [] hall
    rw [List.append_nil] at he
    have hshort : (arrived (pieces'.map .ok ++ [] : List (Except φ Bytes))).length < 4 := by
      rw [arrived_ok, hnil]
      exact Nat.zero_lt_succ _
    rw [he, iterVideoFrames_short arrivals hshort, List.append_nil]
  · rw [arrived_ok] at hs
    exact iterVideoFrames_guarded cs e after hs (hguarded pieces e after rfl)

/-- A timeout in the timestamp of a video chunk, whose data is read after it. -/
theorem iterVideoFrames_misaligned {before after : List Chunk} {timestamp data : Bytes}
    (htime : timestamp.length = 8) (hdata : data.length < 2^32) {pieces more : List Bytes} (e : φ)
    {rest : List (Except φ Bytes)} {k : ℕ}
    (hs : arrived (pieces.map .ok ++ .error e :: (more.map .ok ++ rest)) =
      encodeAll (before ++ .media true timestamp data htime hdata :: after))
    (hpieces : pieces.flatten.length = (encodeAll before).length + 8 + k) (hk : k < 8)
    (hmore : data.length ≤ more.flatten.length)
    (hne : (timestamp.drop k ++ data).take data.length ≠ data) :
    ¬iterVideoFrames arrivals (pieces.map .ok ++ .error e :: (more.map .ok ++ rest)) <+:
      videoPayloads (before ++ .media true timestamp data htime hdata :: after) := by
  intro hprefix
  rw [arrived_ok] at hs
  change pieces.flatten ++ arrived (more.map .ok ++ rest) = _ at hs
  simp only [arrived_ok, encodeAll, List.flatMap_append, List.flatMap_cons, Chunk.encode,
    List.append_assoc] at hs
  -- what has arrived ends `k` bytes into the timestamp
  obtain ⟨left₁, h₁, hs₁⟩ := arrived_field hs (by rw [hpieces, encodeAll]; omega)
  have hlen := hpieces
  rw [h₁, List.length_append, encodeAll] at hlen
  obtain ⟨left₂, rfl, hs₂⟩ := arrived_field hs₁ (by rw [mediaTag_length]; omega)
  rw [List.length_append, mediaTag_length] at hlen
  obtain ⟨left₃, rfl, hs₃⟩ := arrived_field hs₂ (by rw [BigEndian.encode_length]; omega)
  rw [List.length_append, BigEndian.encode_length] at hlen
  have hleft : left₃.length = k := by omega
  have hcut : more.flatten ++ arrived rest =
      timestamp.drop k ++ data ++ encodeAll after := by
    have hdrop := congrArg (List.drop k) hs₃
    rw [← hleft, List.drop_left, hleft, List.drop_append_of_le_length (by omega)] at hdrop
    rw [hdrop, List.append_assoc, encodeAll]
  obtain ⟨frames, he⟩ := iterVideoFrames_cut_timestamp before hdata (by omega) e rest h₁ hmore
  have hframe : more.flatten.take data.length =
      (timestamp.drop k ++ data).take data.length := by
    have happended : (more.flatten ++ arrived rest).take data.length =
        more.flatten.take data.length := List.take_append_of_le_length hmore
    rw [← happended, hcut, List.take_append_of_le_length (by rw [List.length_append]; omega)]
  rw [he, videoPayloads, videoPayloads, List.filterMap_append,
    List.prefix_append_right_inj, List.filterMap_cons] at hprefix
  have hsame : more.flatten.take data.length = data := (List.cons_prefix_cons.mp hprefix).1
  rw [hframe] at hsame
  exact hne hsame

/-- Where the first timeout is guarded, the frames are a prefix of the video payloads. One in the
timestamp of a video chunk whose data is then read breaks this, unless the payload repeats what
was left of the timestamp. -/
theorem timed_out_frames_aligned :
    (∀ (cs : List Chunk) (schedule : List (Except φ Bytes)), arrived schedule = encodeAll cs →
      TimeoutGuarded cs schedule → iterVideoFrames arrivals schedule <+: videoPayloads cs) ∧
    ∀ (before after : List Chunk) (timestamp data : Bytes) (htime : timestamp.length = 8)
      (hdata : data.length < 2^32) (pieces more : List Bytes) (e : φ)
      (rest : List (Except φ Bytes)) (k : ℕ),
      arrived (pieces.map .ok ++ .error e :: (more.map .ok ++ rest)) =
        encodeAll (before ++ .media true timestamp data htime hdata :: after) →
      pieces.flatten.length = (encodeAll before).length + 8 + k → k < 8 →
      data.length ≤ more.flatten.length →
      (timestamp.drop k ++ data).take data.length ≠ data →
      ¬iterVideoFrames arrivals (pieces.map .ok ++ .error e :: (more.map .ok ++ rest)) <+:
        videoPayloads (before ++ .media true timestamp data htime hdata :: after) := by
  constructor
  · intro cs schedule hs hguarded
    exact iterVideoFrames_timeoutGuarded hs hguarded
  · intro before after timestamp data htime hdata pieces more e rest k hs hpieces hk hmore hne
    exact iterVideoFrames_misaligned htime hdata e hs hpieces hk hmore hne

/-- A video chunk with one byte of data. -/
def oneByte : Chunk := .media true (List.replicate 8 0) [1] rfl (by decide)

/-- A timeout in the data of the second chunk leaves the first, one in its timestamp does not. -/
theorem timed_out_frames_aligned_sample :
    iterVideoFrames arrivals ([oneByte.encode ++ oneByte.encode.take 16].map .ok ++
        .error () :: [.ok [1]]) <+: videoPayloads [oneByte, oneByte] ∧
      ¬iterVideoFrames arrivals ([oneByte.encode ++ oneByte.encode.take 8].map .ok ++
        .error () :: ([oneByte.encode.drop 8].map .ok ++ [])) <+:
          videoPayloads ([oneByte] ++ oneByte :: []) :=
  ⟨timed_out_frames_aligned.1 [oneByte, oneByte] _ rfl
      ((timeoutGuarded_iff _ _ _ _).mpr (by decide)),
    timed_out_frames_aligned.2 [oneByte] [] (List.replicate 8 0) [1] rfl (by decide)
      [oneByte.encode ++ oneByte.encode.take 8] [oneByte.encode.drop 8] () [] 0 rfl rfl
      (by decide) (by decide) (by decide)⟩

/-- A read that times out right behind the size field: the first byte of the timestamp is yielded as
a frame. -/
theorem timed_out_frame_misaligned :
    arrived [.ok (oneByte.encode.take 8), .error (), .ok (oneByte.encode.drop 8)] =
        encodeAll [oneByte] ∧
      iterVideoFrames arrivals
          [.ok (oneByte.encode.take 8), .error (), .ok (oneByte.encode.drop 8)] = [[0]] ∧
      ¬iterVideoFrames arrivals
          [.ok (oneByte.encode.take 8), .error (), .ok (oneByte.encode.drop 8)] <+:
        videoPayloads [oneByte] := by
  decide +kernel

end Gear360
