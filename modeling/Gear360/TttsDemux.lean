import Gear360.ChunkedSource
import Gear360.Framing

namespace Gear360

open ChunkedSource

def headerTag : Bytes := [0x54, 0x54, 0x54, 0x53]  -- b"TTTS"

def videoTag : Bytes := [0x30, 0x30, 0x56, 0x44]  -- b"00VD"

def audioTag : Bytes := [0x30, 0x30, 0x41, 0x55]  -- b"00AU"

section
variable {φ σ : Type} (src : Source UInt8 φ σ)

/-- Read exactly `size` bytes; the end of the stream and a timeout both give nothing. -/
def readExactBytes (size : ℕ) (s : σ) : Option Bytes × σ := gather src size [] s

theorem readExactBytes_shorter {size : ℕ} {s : σ} {data : Bytes} (hs : 0 < size)
    (h : (readExactBytes src size s).1 = some data) :
    (src.pending (readExactBytes src size s).2).length < (src.pending s).length := by
  obtain ⟨h1, h2⟩ := gather_some src size [] s (Nat.zero_le _) h
  have hlen := congrArg List.length h2
  simp only [List.nil_append, List.length_append] at hlen
  change (src.pending (gather src size [] s).2).length < _
  omega

theorem readExactBytes_le (size : ℕ) (s : σ) :
    (src.pending (readExactBytes src size s).2).length ≤ (src.pending s).length :=
  (gather_suffix src size [] s).length_le

theorem readExactBytes_none {size : ℕ} {s : σ} (h : (src.pending s).length < size) :
    (readExactBytes src size s).1 = none := by
  match hread : (readExactBytes src size s).1 with
  | none => rfl
  | some data =>
    obtain ⟨hlen, hp⟩ := gather_some src size [] s (Nat.zero_le _) hread
    have hle := congrArg List.length hp
    simp only [List.nil_append, List.length_append] at hle
    omega

/-- The frames yielded from state `s` on. The tag is compared as bytes: a byte outside
ASCII decodes to a character that no known tag contains. -/
def iterVideoFrames (s : σ) : List Bytes :=
  match _htag : (readExactBytes src 4 s).1 with
  | none => []
  | some tag =>
    let s₁ := (readExactBytes src 4 s).2
    -- the result of skipping a repeated header is not looked at
    if tag = headerTag then iterVideoFrames (readExactBytes src 200 s₁).2
    else if tag ≠ videoTag ∧ tag ≠ audioTag then []
    else
      let sizeRead := readExactBytes src 4 s₁
      -- nor is the timestamp's: a stream cut there is noticed only by the next read
      let s₂ := (readExactBytes src 8 sizeRead.2).2
      match sizeRead.1 with
      | none => []
      | some sizeBytes =>
        let dataRead := readExactBytes src (BigEndian.decode sizeBytes) s₂
        match dataRead.1 with
        | none => []
        | some frameData =>
          if tag = videoTag then frameData :: iterVideoFrames dataRead.2
          else iterVideoFrames dataRead.2
termination_by (src.pending s).length
decreasing_by
  -- every turn that goes on has consumed its tag
  all_goals
    have h4 := readExactBytes_shorter src (by norm_num) _htag
    have h200 := readExactBytes_le src 200 (readExactBytes src 4 s).2
    have hsize := readExactBytes_le src 4 (readExactBytes src 4 s).2
    have htime := readExactBytes_le src 8 (readExactBytes src 4 (readExactBytes src 4 s).2).2
    first
      | exact h200.trans_lt h4
      | exact ((readExactBytes_le src _ _).trans (htime.trans hsize)).trans_lt h4

theorem iterVideoFrames_no_tag {s : σ} (h : (readExactBytes src 4 s).1 = none) :
    iterVideoFrames src s = [] := by
  rw [iterVideoFrames]
  split
  · rfl
  · rename_i tag htag
    rw [h] at htag
    cases htag

theorem iterVideoFrames_short {s : σ} (h : (src.pending s).length < 4) :
    iterVideoFrames src s = [] :=
  iterVideoFrames_no_tag src (readExactBytes_none src h)

/-- One turn of the loop, once its tag is read. -/
theorem iterVideoFrames_tag {s s₁ : σ} {tag : Bytes}
    (h : readExactBytes src 4 s = (some tag, s₁)) :
    iterVideoFrames src s =
      if tag = headerTag then iterVideoFrames src (readExactBytes src 200 s₁).2
      else if tag ≠ videoTag ∧ tag ≠ audioTag then []
      else match (readExactBytes src 4 s₁).1 with
        | none => []
        | some sizeBytes =>
          let dataRead := readExactBytes src (BigEndian.decode sizeBytes)
            (readExactBytes src 8 (readExactBytes src 4 s₁).2).2
          match dataRead.1 with
          | none => []
          | some frameData =>
            if tag = videoTag then frameData :: iterVideoFrames src dataRead.2
            else iterVideoFrames src dataRead.2 := by
  rw [iterVideoFrames]
  -- the definition looks at the tag first
  split
  · rename_i hnone
    rw [h] at hnone
    cases hnone
  · rename_i tag' hsome
    rw [h] at hsome ⊢
    cases hsome
    rfl

end

def mediaTag (video : Bool) : Bytes := if video then videoTag else audioTag

@[simp] theorem mediaTag_length (video : Bool) : (mediaTag video).length = 4 := by
  cases video <;> rfl

inductive Chunk where
  | header (body : Bytes) (hbody : body.length = 200)
  | media (video : Bool) (timestamp data : Bytes) (htime : timestamp.length = 8)
      (hdata : data.length < 2^32)

namespace Chunk

def encode : Chunk → Bytes
  | header body _ => headerTag ++ body
  | media video timestamp data _ _ =>
    mediaTag video ++
      (BigEndian.encode 4 data.length ++ (timestamp ++ data))

def videoPayload : Chunk → Option Bytes
  | media true _ data _ _ => some data
  | _ => none

def encodeAll (cs : List Chunk) : Bytes := cs.flatMap encode

def videoPayloads (cs : List Chunk) : List Bytes := cs.filterMap videoPayload

theorem encode_length_pos (c : Chunk) : 0 < c.encode.length := by
  cases c with
  | header body hbody => simp only [encode, List.length_append, hbody]; omega
  | media video timestamp data htime hdata =>
    simp only [encode, List.length_append, htime]; omega

end Chunk

open Chunk

/-- `cs` is the longest list of whole chunks at the front of `S`, and `rest` what follows. -/
structure LongestChunks (S : Bytes) (cs : List Chunk) (rest : Bytes) : Prop where
  split : encodeAll cs ++ rest = S
  longest : ∀ ds rest', encodeAll ds ++ rest' = S →
    (encodeAll ds).length ≤ (encodeAll cs).length

/-- The stream stops inside the timestamp of a video chunk that declares size 0. -/
def StopsInTimestamp (rest : Bytes) : Prop :=
  rest.take 8 = videoTag ++ BigEndian.encode 4 0 ∧ rest.length < 16

instance (rest : Bytes) : Decidable (StopsInTimestamp rest) :=
  inferInstanceAs (Decidable (_ ∧ _))

theorem longestChunks_exists (S : Bytes) : ∃ cs rest, LongestChunks S cs rest := by
  -- the encoded length is bounded by the stream's, so a greatest one exists
  let P (n : ℕ) : Prop := ∃ cs rest, encodeAll cs ++ rest = S ∧ (encodeAll cs).length = n
  classical
  have hbound (n : ℕ) (hn : P n) : n ≤ S.length := by
    obtain ⟨cs, rest, hs, rfl⟩ := hn
    rw [← hs, List.length_append]
    omega
  have hzero : P 0 := ⟨[], S, rfl, rfl⟩
  obtain ⟨cs, rest, hs, hlen⟩ := Nat.findGreatest_spec (Nat.zero_le S.length) hzero
  refine ⟨cs, rest, hs, fun ds rest' hds => ?_⟩
  rw [hlen]
  exact Nat.le_findGreatest (hbound _ ⟨ds, rest', hds, rfl⟩) ⟨ds, rest', hds, rfl⟩

/-- What follows the longest list starts with no whole chunk. -/
theorem LongestChunks.stuck {S : Bytes} {cs : List Chunk} {rest : Bytes}
    (h : LongestChunks S cs rest) (c : Chunk) (rest' : Bytes) : rest ≠ c.encode ++ rest' := by
  rintro rfl
  -- one more chunk would make a longer list
  have hle := h.longest (cs ++ [c]) rest' (by
    rw [← h.split]
    simp only [encodeAll, List.flatMap_append, List.flatMap_singleton, List.append_assoc])
  have hpos := c.encode_length_pos
  simp only [encodeAll, List.flatMap_append, List.flatMap_singleton, List.length_append] at hle
  omega

section
variable {φ σ : Type} {src : Source UInt8 φ σ}

/-- A media chunk whose size is not read. -/
theorem iterVideoFrames_unsized {s s₁ : σ} {video : Bool}
    (htag : readExactBytes src 4 s = (some (mediaTag video), s₁))
    (hsize : (readExactBytes src 4 s₁).1 = none) : iterVideoFrames src s = [] := by
  rw [iterVideoFrames_tag src htag, hsize]
  cases video <;> rfl

/-- A media chunk whose size is read, whatever became of the timestamp. -/
theorem iterVideoFrames_sized {s s₁ s₂ : σ} {video : Bool} {size : Bytes}
    (htag : readExactBytes src 4 s = (some (mediaTag video), s₁))
    (hsize : readExactBytes src 4 s₁ = (some size, s₂)) :
    iterVideoFrames src s =
      let dataRead := readExactBytes src (BigEndian.decode size) (readExactBytes src 8 s₂).2
      match dataRead.1 with
      | none => []
      | some data =>
        if video then data :: iterVideoFrames src dataRead.2
        else iterVideoFrames src dataRead.2 := by
  rw [iterVideoFrames_tag src htag, hsize]
  cases video <;> rfl

end

section
variable {σ : Type} {src : Source UInt8 Empty σ}

theorem readExactBytes_ok {s : σ} {size : ℕ} {data rest : Bytes} (hd : data.length = size)
    (h : src.pending s = data ++ rest) :
    (readExactBytes src size s).1 = some data ∧
      src.pending (readExactBytes src size s).2 = rest := by
  obtain ⟨h1, h2⟩ := gather_spec src size [] s (Nat.zero_le _)
  rw [h] at h1 h2
  rw [if_pos (by simp only [List.length_append]; omega)] at h1
  simp only [List.length_nil, Nat.sub_zero, List.nil_append, ← hd, List.take_left,
    List.drop_left] at h1 h2
  rw [hd] at h1 h2
  exact ⟨h1, h2⟩

/-- One turn of the loop where a tag is in front. -/
theorem iterVideoFrames_turn {s : σ} {tag rest : Bytes} (htag : tag.length = 4)
    (h : src.pending s = tag ++ rest) :
    ∃ s₁, src.pending s₁ = rest ∧ iterVideoFrames src s =
      if tag = headerTag then iterVideoFrames src (readExactBytes src 200 s₁).2
      else if tag ≠ videoTag ∧ tag ≠ audioTag then []
      else match (readExactBytes src 4 s₁).1 with
        | none => []
        | some sizeBytes =>
          let dataRead := readExactBytes src (BigEndian.decode sizeBytes)
            (readExactBytes src 8 (readExactBytes src 4 s₁).2).2
          match dataRead.1 with
          | none => []
          | some frameData =>
            if tag = videoTag then frameData :: iterVideoFrames src dataRead.2
            else iterVideoFrames src dataRead.2 := by
  obtain ⟨ht, hp⟩ := readExactBytes_ok htag h
  exact ⟨(readExactBytes src 4 s).2, hp, iterVideoFrames_tag src (Prod.ext ht rfl)⟩

/-- A repeated header: whatever its 200 bytes are, the next turn starts after them, or at
the end of the stream. -/
theorem iterVideoFrames_header {s : σ} {rest : Bytes} (h : src.pending s = headerTag ++ rest) :
    ∃ s', src.pending s' = rest.drop 200 ∧ iterVideoFrames src s = iterVideoFrames src s' := by
  obtain ⟨s₁, hs₁, he⟩ := iterVideoFrames_turn rfl h
  refine ⟨(readExactBytes src 200 s₁).2, ?_, he⟩
  rw [← hs₁]
  exact (gather_spec src 200 [] s₁ (Nat.zero_le _)).2

theorem iterVideoFrames_unknown {s : σ} {tag rest : Bytes} (htag : tag.length = 4)
    (h : src.pending s = tag ++ rest) (hh : tag ≠ headerTag) (hv : tag ≠ videoTag)
    (ha : tag ≠ audioTag) : iterVideoFrames src s = [] := by
  obtain ⟨s₁, -, he⟩ := iterVideoFrames_turn htag h
  rw [he, if_neg hh, if_pos ⟨hv, ha⟩]

/-- A media chunk that ends inside its size field. -/
theorem iterVideoFrames_media_short {s : σ} {video : Bool} {rest : Bytes}
    (h : src.pending s = mediaTag video ++ rest) (hr : rest.length < 4) :
    iterVideoFrames src s = [] := by
  obtain ⟨htag, hp⟩ := readExactBytes_ok (mediaTag_length video) h
  exact iterVideoFrames_unsized (Prod.ext htag rfl) (readExactBytes_none src (by rwa [hp]))

/-- A media chunk with a whole size field: what is read as its data starts after the
timestamp, or at the end of the stream if the timestamp is cut. -/
theorem iterVideoFrames_media {s : σ} {video : Bool} {size body : Bytes}
    (h : src.pending s = mediaTag video ++ (size ++ body)) (hsize : size.length = 4) :
    ∃ s₂, src.pending s₂ = body.drop 8 ∧ iterVideoFrames src s =
      match (readExactBytes src (BigEndian.decode size) s₂).1 with
      | none => []
      | some data =>
        if video then
          data :: iterVideoFrames src (readExactBytes src (BigEndian.decode size) s₂).2
        else iterVideoFrames src (readExactBytes src (BigEndian.decode size) s₂).2 := by
  obtain ⟨htag, hp⟩ := readExactBytes_ok (mediaTag_length video) h
  obtain ⟨hz, hp'⟩ := readExactBytes_ok hsize hp
  refine ⟨_, ?_, iterVideoFrames_sized (Prod.ext htag rfl) (Prod.ext hz rfl)⟩
  rw [← hp']
  exact (gather_spec src 8 [] _ (Nat.zero_le _)).2

/-- A whole chunk in front is consumed, and its payload yielded if it is video. -/
theorem iterVideoFrames_chunk {s : σ} (c : Chunk) {rest : Bytes}
    (h : src.pending s = c.encode ++ rest) :
    ∃ s', src.pending s' = rest ∧
      iterVideoFrames src s = c.videoPayload.toList ++ iterVideoFrames src s' := by
  cases c with
  | header body hbody =>
    rw [Chunk.encode, List.append_assoc] at h
    obtain ⟨s', hs', he⟩ := iterVideoFrames_header h
    exact ⟨s', by rw [hs', List.drop_left' hbody], he⟩
  | media video timestamp data htime hdata =>
    simp only [Chunk.encode, List.append_assoc] at h
    obtain ⟨s₂, hs₂, he⟩ := iterVideoFrames_media h (BigEndian.encode_length _ _)
    rw [List.drop_left' htime] at hs₂
    rw [BigEndian.decode_encode (by simpa using hdata)] at he
    obtain ⟨hd, hp⟩ := readExactBytes_ok rfl hs₂
    refine ⟨_, hp, ?_⟩
    rw [he, hd]
    cases video <;> rfl

theorem stopsInTimestamp_iff {rest : Bytes} :
    StopsInTimestamp rest ↔
      ∃ body, rest = videoTag ++ (BigEndian.encode 4 0 ++ body) ∧ body.length < 8 := by
  constructor
  · rintro ⟨htake, hlen⟩
    refine ⟨rest.drop 8, ?_, by rw [List.length_drop]; omega⟩
    rw [← List.append_assoc, ← htake, List.take_append_drop]
  · rintro ⟨body, rfl, hbody⟩
    refine ⟨by simp [videoTag, BigEndian.encode], ?_⟩
    simp only [List.length_append, BigEndian.encode_length, videoTag, List.length_cons,
      List.length_nil]
    omega

theorem stopsInTimestamp_media {video : Bool} {size body : Bytes} (hsize : size.length = 4) :
    StopsInTimestamp (mediaTag video ++ (size ++ body)) ↔
      video = true ∧ BigEndian.decode size = 0 ∧ body.length < 8 := by
  have hzero : BigEndian.decode size = 0 ↔ size = BigEndian.encode 4 0 := by
    constructor
    · intro h
      rw [← BigEndian.encode_decode size, hsize, h]
    · rintro rfl
      rfl
  rw [stopsInTimestamp_iff, hzero]
  constructor
  · rintro ⟨body', he, hb⟩
    -- tag and size have their lengths, so they are compared one by one
    obtain ⟨h1, h2⟩ := List.append_inj he (by cases video <;> rfl)
    obtain ⟨h3, rfl⟩ := List.append_inj h2 (by rw [hsize]; rfl)
    refine ⟨?_, h3, hb⟩
    cases video with
    | true => rfl
    | false => exact absurd h1 (by decide)
  · rintro ⟨rfl, rfl, hb⟩
    exact ⟨body, rfl, hb⟩

theorem iterVideoFrames_stuck_media {s : σ} {video : Bool} {body : Bytes}
    (h : src.pending s = mediaTag video ++ body)
    (hstuck : ∀ (c : Chunk) rest', mediaTag video ++ body ≠ c.encode ++ rest') :
    iterVideoFrames src s = if StopsInTimestamp (mediaTag video ++ body) then [[]] else [] := by
  by_cases hshort : body.length < 4
  · rw [iterVideoFrames_media_short h hshort, if_neg]
    intro hstop
    obtain ⟨body', he, -⟩ := stopsInTimestamp_iff.mp hstop
    have hlen := congrArg List.length (List.append_inj_right he (by cases video <;> rfl))
    rw [List.length_append, BigEndian.encode_length] at hlen
    omega
  · obtain ⟨size, body, rfl, hsize⟩ : ∃ size body', body = size ++ body' ∧ size.length = 4 :=
      ⟨body.take 4, body.drop 4, (List.take_append_drop 4 body).symm, by
        rw [List.length_take]; omega⟩
    obtain ⟨s₂, hs₂, he⟩ := iterVideoFrames_media h hsize
    rw [he, if_congr (stopsInTimestamp_media hsize) rfl rfl]
    -- a cut timestamp swallows what is left, so only a chunk of size 0 has its data
    by_cases hcut : body.length < 8
    · rw [List.drop_eq_nil_of_le hcut.le] at hs₂
      by_cases hzero : BigEndian.decode size = 0
      · have hnil : src.pending s₂ = [] ++ [] := hs₂
        have hlen : ([] : Bytes).length = BigEndian.decode size := hzero.symm
        obtain ⟨hd, hp⟩ := readExactBytes_ok hlen hnil
        have hend : iterVideoFrames src (readExactBytes src (BigEndian.decode size) s₂).2 = [] :=
          iterVideoFrames_short src (by rw [hp]; simp)
        rw [hd]
        simp only [hend]
        cases video <;> simp [hzero, hcut]
      · rw [readExactBytes_none src (by rw [hs₂]; exact Nat.pos_of_ne_zero hzero)]
        simp [hzero]
    · -- the timestamp is whole, so the data cannot be
      have hdata : (body.drop 8).length < BigEndian.decode size := by
        by_contra hge
        rw [not_lt] at hge
        have hlt := BigEndian.decode_lt size
        rw [hsize] at hlt
        have htake : ((body.drop 8).take (BigEndian.decode size)).length =
            BigEndian.decode size := by rw [List.length_take]; omega
        apply hstuck (.media video (body.take 8) ((body.drop 8).take (BigEndian.decode size))
          (by rw [List.length_take]; omega) (by rw [htake]; simpa using hlt))
          ((body.drop 8).drop (BigEndian.decode size))
        have hs := BigEndian.encode_decode size
        rw [hsize] at hs
        simp only [Chunk.encode, htake, hs, List.append_assoc, List.take_append_drop]
      rw [readExactBytes_none src (by rwa [hs₂])]
      simp [hcut]

/-- Where no whole chunk is in front, nothing more is yielded, except one empty frame
when the stream stops inside the timestamp of an empty video chunk. -/
theorem iterVideoFrames_stuck {s : σ} {rest : Bytes} (h : src.pending s = rest)
    (hstuck : ∀ (c : Chunk) rest', rest ≠ c.encode ++ rest') :
    iterVideoFrames src s = if StopsInTimestamp rest then [[]] else [] := by
  by_cases hshort : rest.length < 4
  · rw [iterVideoFrames_short src (by rwa [h]), if_neg]
    intro hstop
    obtain ⟨body, rfl, -⟩ := stopsInTimestamp_iff.mp hstop
    simp only [List.length_append, videoTag, List.length_cons] at hshort
    omega
  · obtain ⟨tag, body, rfl, htag⟩ : ∃ tag body, rest = tag ++ body ∧ tag.length = 4 :=
      ⟨rest.take 4, rest.drop 4, (List.take_append_drop 4 rest).symm, by
        rw [List.length_take]; omega⟩
    have hstop (hne : tag ≠ videoTag) : ¬StopsInTimestamp (tag ++ body) := by
      intro hstop
      obtain ⟨body', he, -⟩ := stopsInTimestamp_iff.mp hstop
      exact hne (List.append_inj_left he htag)
    -- the tag decides which read comes up short
    by_cases hh : tag = headerTag
    · subst hh
      obtain ⟨s', hs', he⟩ := iterVideoFrames_header h
      have hbody : body.length < 200 := by
        by_contra hge
        apply hstuck (.header (body.take 200) (by rw [List.length_take]; omega)) (body.drop 200)
        rw [Chunk.encode, List.append_assoc, List.take_append_drop]
      rw [List.drop_eq_nil_of_le hbody.le] at hs'
      rw [he, iterVideoFrames_short src (by rw [hs']; simp), if_neg (hstop (by decide))]
    · by_cases hv : tag = videoTag
      · have hm : tag = mediaTag true := hv
        subst hm
        exact iterVideoFrames_stuck_media h hstuck
      · by_cases ha : tag = audioTag
        · have hm : tag = mediaTag false := ha
          subst hm
          exact iterVideoFrames_stuck_media h hstuck
        · rw [iterVideoFrames_unknown htag h hh hv ha, if_neg (hstop hv)]

theorem iterVideoFrames_chunks (cs : List Chunk) {s : σ} {rest : Bytes}
    (h : src.pending s = encodeAll cs ++ rest) :
    ∃ s', src.pending s' = rest ∧
      iterVideoFrames src s = videoPayloads cs ++ iterVideoFrames src s' := by
  -- the state after a chunk depends on how the reads were cut; only what is pending counts
  induction cs generalizing s with
  | nil => exact ⟨s, h, rfl⟩
  | cons c cs ih =>
    simp only [encodeAll, List.flatMap_cons, List.append_assoc] at h
    obtain ⟨s₁, hs₁, h₁⟩ := iterVideoFrames_chunk c h
    obtain ⟨s₂, hs₂, h₂⟩ := ih hs₁
    refine ⟨s₂, hs₂, ?_⟩
    rw [h₁, h₂, videoPayloads, videoPayloads, List.filterMap_cons]
    cases c.videoPayload <;> rfl

end

/-- The demuxer yields exactly the video payloads of the longest list of whole chunks in
front of the stream, however the reads are cut. The stream is finite, and the function is
total by the number of its bytes still pending. -/
theorem iter_video_frames_exact (S : Bytes) :
    (∃ cs rest, LongestChunks S cs rest) ∧
    (∀ cs rest, LongestChunks S cs rest →
      ∀ {σ : Type} (src : Source UInt8 Empty σ) (s : σ), src.pending s = S →
        iterVideoFrames src s =
          videoPayloads cs ++ if StopsInTimestamp rest then [[]] else []) ∧
    ∀ cs, S = encodeAll cs →
      ∀ {σ : Type} (src : Source UInt8 Empty σ) (s : σ), src.pending s = S →
        iterVideoFrames src s = videoPayloads cs := by
  refine ⟨longestChunks_exists S, ?_, ?_⟩
  · intro cs rest hlong σ src s hs
    obtain ⟨s', hs', he⟩ := iterVideoFrames_chunks cs (hs.trans hlong.split.symm)
    rw [he, iterVideoFrames_stuck hs' hlong.stuck]
  · rintro cs rfl σ src s hs
    have hsplit : src.pending s = encodeAll cs ++ [] := by rw [hs, List.append_nil]
    obtain ⟨s', hs', he⟩ := iterVideoFrames_chunks cs hsplit
    rw [he, iterVideoFrames_short src (by rw [hs']; simp), List.append_nil]

/-- An audio chunk, a repeated header and a video chunk, read in pieces of two bytes. -/
theorem iter_video_frames_exact_three :
    iterVideoFrames scripted (encodeAll [.media false (List.replicate 8 0) [7,7] rfl (by decide),
      .header (List.replicate 200 0) rfl,
      .media true (List.replicate 8 1) [1,2,3] rfl (by decide)], List.replicate 50 1) =
    [[1,2,3]] :=
  (iter_video_frames_exact _).2.2 [.media false (List.replicate 8 0) [7,7] rfl (by decide),
    .header (List.replicate 200 0) rfl,
    .media true (List.replicate 8 1) [1,2,3] rfl (by decide)] rfl scripted (_, _) rfl

example : iterVideoFrames scripted (videoTag ++ [0,0,0,0,1,2], [0,3]) = [[]] := by
  decide +kernel

end Gear360
