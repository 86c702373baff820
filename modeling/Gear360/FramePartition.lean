import Gear360.NdiBridge

namespace Gear360

open Interaction ChunkedSource
open Interaction.Prog (perform)

abbrev NdiEvent : Type := Event NdiAns PyErr

/-- The frames handed to NDI. -/
def framesSent (t : List NdiEvent) : List VideoFrame := t.filterMap fun
  | ⟨.sendVideo frame, .ok _⟩ => some frame
  | _ => none

@[simp] theorem framesSent_append (t u : List NdiEvent) :
    framesSent (t ++ u) = framesSent t ++ framesSent u := List.filterMap_append

section
variable {σ : Type} (src : Source UInt8 Empty σ) (rawHeader : Bytes)

/-- `read` takes its size as an index, which has 63 bits. -/
def indexBound : ℕ := 2^63

def overflowError : PyErr := .other "OverflowError"

/-- The outside of a bridge whose calls all return normally: the stream starts with `rawHeader`,
the decoder's output comes from `src`, and nobody else sets the stop event. Memory is there for what
is read, but no size beyond an index can be asked for. -/
def bridgeHandler : Handler NdiAns PyErr (σ × Bool)
  | .getResponse _, st => (.ok 200, st)
  | .readResponse _, st => (.ok (some rawHeader), st)
  | .ndiInitialize, st => (.ok true, st)
  | .sendCreate _ _, st => (.ok true, st)
  | .stopIsSet, st => (.ok st.2, st)
  | .setStop, st => (.ok (), (st.1, true))
  | .readDecoder size, st =>
    if size < indexBound then
      (.ok (readExactBytes src size st.1).1, ((readExactBytes src size st.1).2, st.2))
    else (.error overflowError, st)
  | .closeConnection, st | .popen _, st | .setSignalHandler, st | .startFeeder, st
  | .sendVideo _, st | .sendDestroy, st | .destroy, st | .terminateDecoder, st
  | .waitDecoder _, st | .killDecoder, st | .logStep _, st | .logError _, st
  | .logHint _, st => (.ok (), st)

variable {src}

theorem exec_stopIsSet (s : σ) :
    exec (bridgeHandler src rawHeader) (perform NdiOp.stopIsSet) (s, false) =
      ⟨[⟨.stopIsSet, .ok false⟩], .ok false, (s, false)⟩ := rfl

theorem exec_readDecoder {frameSize : ℕ} (hindex : frameSize < indexBound) {s : σ}
    {answer : Option Bytes} (h : (readExactBytes src frameSize s).1 = answer) :
    exec (bridgeHandler src rawHeader) (perform (NdiOp.readDecoder frameSize)) (s, false) =
      ⟨[⟨.readDecoder frameSize, .ok answer⟩], .ok answer,
        ((readExactBytes src frameSize s).2, false)⟩ := by
  rw [exec_perform, bridgeHandler, if_pos hindex, h]

/-- A whole frame is there: it is sent. -/
theorem exec_sendVideoFrame_full {video : VideoFrame} {frameSize : ℕ}
    (hindex : frameSize < indexBound) {s : σ} (hsize : video.yres*video.xres*4 = frameSize)
    (h : frameSize ≤ (src.pending s).length) :
    ∃ t s', exec (bridgeHandler src rawHeader) (sendVideoFrame video frameSize) (s, false) =
        ⟨t, .ok true, (s', false)⟩ ∧
      src.pending s' = (src.pending s).drop frameSize ∧
      framesSent t = [{ video with data := (src.pending s).take frameSize }] ∧
      ⟨.setStop, .ok ()⟩ ∉ t := by
  have hlen : ((src.pending s).take frameSize).length = frameSize := List.length_take_of_le h
  obtain ⟨hread, hrest⟩ := readExactBytes_ok hlen (List.take_append_drop frameSize _).symm
  have hreshape : reshape ((src.pending s).take frameSize) video.yres video.xres =
      .ok ((src.pending s).take frameSize) := if_pos (by rw [hlen, hsize])
  refine ⟨[⟨.stopIsSet, .ok false⟩,
    ⟨.readDecoder frameSize, .ok (some ((src.pending s).take frameSize))⟩,
    ⟨.sendVideo { video with data := (src.pending s).take frameSize }, .ok ()⟩], _, ?_, hrest,
    rfl, by simp⟩
  rw [sendVideoFrame, exec_bind_ok (exec_stopIsSet rawHeader s), if_neg Bool.false_ne_true,
    exec_bind_ok (exec_readDecoder rawHeader hindex hread)]
  simp only [hreshape]
  rfl

/-- Less than a frame is left: the stop event is set. -/
theorem exec_sendVideoFrame_end (video : VideoFrame) {frameSize : ℕ}
    (hindex : frameSize < indexBound) {s : σ} (h : (src.pending s).length < frameSize) :
    ∃ s', exec (bridgeHandler src rawHeader) (sendVideoFrame video frameSize) (s, false) =
      ⟨[⟨.stopIsSet, .ok false⟩, ⟨.readDecoder frameSize, .ok none⟩, ⟨.setStop, .ok ()⟩],
        .ok false, (s', true)⟩ := by
  refine ⟨(readExactBytes src frameSize s).2, ?_⟩
  rw [sendVideoFrame, exec_bind_ok (exec_stopIsSet rawHeader s), if_neg Bool.false_ne_true,
    exec_bind_ok (exec_readDecoder rawHeader hindex (readExactBytes_none src h))]
  rfl

/-- A frame with more bytes than can be asked for: the read raises, and nothing is sent. -/
theorem exec_sendVideoFrame_overflow (src : Source UInt8 Empty σ) (video : VideoFrame)
    {frameSize : ℕ} (hindex : indexBound ≤ frameSize) (s : σ) :
    exec (bridgeHandler src rawHeader) (sendVideoFrame video frameSize) (s, false) =
      ⟨[⟨.stopIsSet, .ok false⟩, ⟨.readDecoder frameSize, .error overflowError⟩],
        .error overflowError, (s, false)⟩ := by
  have hread :
      exec (bridgeHandler src rawHeader) (perform (NdiOp.readDecoder frameSize)) (s, false) =
      ⟨[⟨.readDecoder frameSize, .error overflowError⟩], .error overflowError, (s, false)⟩ := by
    rw [exec_perform, bridgeHandler, if_neg (not_lt.mpr hindex)]
  rw [sendVideoFrame, exec_bind_ok (exec_stopIsSet rawHeader s), if_neg Bool.false_ne_true,
    exec_bind_error _ hread]
  rfl

/-- After a turn that sent a frame, the count is reported now and then, and the loop goes on. -/
theorem exec_sendVideoFrames_turn {video : VideoFrame} {frameSize : ℕ} {t : List NdiEvent}
    {s s' : σ}
    (hturn : exec (bridgeHandler src rawHeader) (sendVideoFrame video frameSize) (s, false) =
      ⟨t, .ok true, (s', false)⟩) (fuel framesBefore : ℕ) :
    ∃ report, framesSent report = [] ∧ ⟨.setStop, .ok ()⟩ ∉ report ∧
      ∀ out, exec (bridgeHandler src rawHeader)
          (sendVideoFrames video frameSize fuel (framesBefore+1)) (s', false) = out →
        exec (bridgeHandler src rawHeader)
          (sendVideoFrames video frameSize (fuel+1) framesBefore) (s, false) =
            ⟨t ++ (report ++ out.trace), out.result, out.state⟩ := by
  have hattempt : exec (bridgeHandler src rawHeader) (sendVideoFrame video frameSize).attempt
      (s, false) = ⟨t, .ok (.ok true), (s', false)⟩ := by rw [exec_attempt, hturn]
  by_cases hreport : (framesBefore+1)%300 = 0
  · refine ⟨[⟨.logStep s!"NDI: sent {framesBefore+1} frames", .ok ()⟩], rfl, by simp, ?_⟩
    rintro out rfl
    rw [sendVideoFrames, exec_bind_ok hattempt]
    simp only [hreport, if_true]
    rfl
  · refine ⟨[], rfl, by simp, ?_⟩
    rintro out rfl
    rw [sendVideoFrames, exec_bind_ok hattempt]
    simp only [hreport, if_false]
    rfl

/-- The turns before the last one each send a frame, and what they send is what was read. -/
theorem exec_sendVideoFrames_whole {video : VideoFrame} {frameSize : ℕ} (hpos : 0 < frameSize)
    (hindex : frameSize < indexBound) (hsize : video.yres*video.xres*4 = frameSize)
    (n framesBefore : ℕ) (s : σ)
    (hn : (src.pending s).length/frameSize = n) :
    ∃ before s', exec (bridgeHandler src rawHeader)
        (sendVideoFrames video frameSize (n+1) framesBefore) (s, false) =
          ⟨before ++ [⟨.setStop, .ok ()⟩], .ok (some (framesBefore+n, .ok ())), (s', true)⟩ ∧
      (framesSent before).length = n ∧
      (framesSent before).flatMap VideoFrame.data = (src.pending s).take (n*frameSize) ∧
      ⟨.setStop, .ok ()⟩ ∉ before := by
  -- on the whole frames that the decoder has still to write
  induction n generalizing framesBefore s with
  | zero =>
    have hlt : (src.pending s).length < frameSize := (Nat.div_eq_zero_iff_lt hpos).mp hn
    obtain ⟨s', hturn⟩ := exec_sendVideoFrame_end rawHeader video hindex hlt
    have hattempt := exec_attempt (bridgeHandler src rawHeader) (sendVideoFrame video frameSize)
      (s, false)
    rw [hturn] at hattempt
    refine ⟨[⟨.stopIsSet, .ok false⟩, ⟨.readDecoder frameSize, .ok none⟩], s', ?_, rfl,
      by rw [Nat.zero_mul, List.take_zero]; rfl, by simp⟩
    rw [sendVideoFrames, exec_bind_ok hattempt]
    rfl
  | succ n ih =>
    have hle : frameSize ≤ (src.pending s).length := by
      by_contra hlt
      rw [Nat.div_eq_of_lt (by omega)] at hn
      cases hn
    obtain ⟨t, s₁, hturn, hs₁, hframe, hgoes⟩ := exec_sendVideoFrame_full rawHeader hindex hsize hle
    have hn₁ : (src.pending s₁).length/frameSize = n := by
      rw [hs₁, List.length_drop]
      rw [Nat.div_eq_sub_div hpos hle] at hn
      omega
    obtain ⟨before, s', hrest, hcount, hdata, hstop⟩ := ih (framesBefore+1) s₁ hn₁
    obtain ⟨report, hreport, hquiet, hloop⟩ :=
      exec_sendVideoFrames_turn rawHeader hturn (n+1) framesBefore
    refine ⟨t ++ (report ++ before), s', ?_, ?_, ?_, ?_⟩
    · rw [hloop _ hrest]
      simp only [List.append_assoc, Nat.add_assoc, Nat.add_comm 1 n]
    · rw [framesSent_append, framesSent_append, hreport, List.nil_append, List.length_append,
        hframe, hcount]
      exact Nat.add_comm 1 n
    · rw [framesSent_append, framesSent_append, hreport, List.nil_append, List.flatMap_append,
        hframe, hdata, hs₁, Nat.add_mul, Nat.one_mul, Nat.add_comm, List.take_add,
        List.flatMap_singleton]
    · simp only [List.mem_append, not_or]
      exact ⟨hgoes, hquiet, hstop⟩

/-- With frames of no bytes every turn sends one, and no number of turns is enough. -/
theorem exec_sendVideoFrames_empty (src : Source UInt8 Empty σ) (rawHeader : Bytes)
    {video : VideoFrame} {frameSize : ℕ} (hzero : frameSize = 0)
    (hsize : video.yres*video.xres*4 = frameSize) (fuel framesBefore : ℕ) (s : σ) :
    ∃ t st', exec (bridgeHandler src rawHeader) (sendVideoFrames video frameSize fuel framesBefore)
      (s, false) = ⟨t, .ok none, st'⟩ := by
  induction fuel generalizing framesBefore s with
  | zero => exact ⟨[], (s, false), rfl⟩
  | succ fuel ih =>
    -- a frame of no bytes is there even when the output has ended
    obtain ⟨t, s', hturn, -, -, -⟩ := exec_sendVideoFrame_full rawHeader (s := s)
      (hzero ▸ Nat.two_pow_pos 63) hsize (hzero ▸ Nat.zero_le _)
    obtain ⟨report, -, -, hloop⟩ := exec_sendVideoFrames_turn rawHeader hturn fuel framesBefore
    obtain ⟨u, st', hrest⟩ := ih (framesBefore+1) s'
    exact ⟨_, st', hloop _ hrest⟩

/-- Where a frame cannot be asked for, the first turn ends the loop. -/
theorem exec_sendVideoFrames_overflow (src : Source UInt8 Empty σ) (video : VideoFrame)
    {frameSize : ℕ} (hindex : indexBound ≤ frameSize) (fuel framesBefore : ℕ) (s : σ) :
    ∃ t ended, exec (bridgeHandler src rawHeader)
      (sendVideoFrames video frameSize fuel framesBefore)
        (s, false) = ⟨t, .ok ended, (s, false)⟩ ∧
      (ended = none ∨ ended = some (framesBefore, .error overflowError)) := by
  cases fuel with
  | zero => exact ⟨[], none, rfl, .inl rfl⟩
  | succ fuel =>
    have hattempt := exec_attempt (bridgeHandler src rawHeader) (sendVideoFrame video frameSize)
      (s, false)
    rw [exec_sendVideoFrame_overflow rawHeader src video hindex s] at hattempt
    refine ⟨[⟨.stopIsSet, .ok false⟩, ⟨.readDecoder frameSize, .error overflowError⟩],
      some (framesBefore, .error overflowError), ?_, .inr rfl⟩
    rw [sendVideoFrames, exec_bind_ok hattempt]
    rfl

theorem exec_logStep (text : String) (st : σ × Bool) :
    exec (bridgeHandler src rawHeader) (Ndi.logStep text) st =
      ⟨[⟨.logStep text, .ok ()⟩], .ok (), st⟩ := rfl

/-- The frames are those of the first whole pieces of `output`, and the stop event is set behind
them. -/
structure SentThenStopped (output : Bytes) (frameSize : ℕ) (t : List NdiEvent) : Prop where
  count : (framesSent t).length = output.length/frameSize
  content : (framesSent t).flatMap VideoFrame.data <+: output
  stopped : ∃ before after, t = before ++ ⟨.setStop, .ok ()⟩ :: after ∧
    framesSent after = [] ∧ ⟨.setStop, .ok ()⟩ ∉ before

theorem SentThenStopped.surround {output : Bytes} {frameSize : ℕ} {t u v : List NdiEvent}
    (h : SentThenStopped output frameSize t) (hu : framesSent u = [])
    (hstop : ⟨.setStop, .ok ()⟩ ∉ u) (hv : framesSent v = []) :
    SentThenStopped output frameSize (u ++ (t ++ v)) := by
  have hsame : framesSent (u ++ (t ++ v)) = framesSent t := by
    rw [framesSent_append, framesSent_append, hu, hv, List.nil_append, List.append_nil]
  obtain ⟨before, after, rfl, hafter, hbefore⟩ := h.stopped
  refine ⟨by rw [hsame]; exact h.count, by rw [hsame]; exact h.content, u ++ before,
    after ++ v, by simp, by rw [framesSent_append, hafter, hv]; rfl, ?_⟩
  rw [List.mem_append, not_or]
  exact ⟨hstop, hbefore⟩

/-- The loop of a source with frames of some size, from its beginning. -/
theorem exec_sendVideoFrames_stops {video : VideoFrame} {frameSize : ℕ} (hpos : 0 < frameSize)
    (hindex : frameSize < indexBound) (hsize : video.yres*video.xres*4 = frameSize) (s : σ) :
    ∃ t framesSent s', exec (bridgeHandler src rawHeader)
        (sendVideoFrames video frameSize ((src.pending s).length/frameSize+1) 0) (s, false) =
          ⟨t, .ok (some (framesSent, .ok ())), (s', true)⟩ ∧
      SentThenStopped (src.pending s) frameSize t := by
  obtain ⟨before, s', hexec, hcount, hdata, hstop⟩ :=
    exec_sendVideoFrames_whole rawHeader hpos hindex hsize _ 0 s rfl
  have hframes : framesSent (before ++ [⟨.setStop, .ok ()⟩]) = framesSent before := by
    rw [framesSent_append]
    exact List.append_nil _
  refine ⟨_, _, s', hexec, by rw [hframes, hcount], ?_, before, [], rfl, rfl, hstop⟩
  rw [hframes, hdata]
  exact List.take_prefix _ _

theorem exec_ndiSendLoop {fuel width height : ℕ} {fpsNum fpsDen : ℤ} {sourceName : String}
    {t : List NdiEvent} {ended : Option (ℕ × Except PyErr Unit)} {st st' : σ × Bool}
    (h : exec (bridgeHandler src rawHeader)
      (sendVideoFrames (videoFrame width height fpsNum fpsDen) (width*height*4) fuel 0) st =
        ⟨t, .ok ended, st'⟩) :
    exec (bridgeHandler src rawHeader)
        (ndiSendLoop fuel true width height fpsNum fpsDen sourceName) st =
      let out := exec (bridgeHandler src rawHeader)
        (match ended with
        | none => return none
        | some (framesSent, ended) => do
          finishSending framesSent ended
          return some ()) st'
      ⟨[⟨.ndiInitialize, .ok true⟩, ⟨.sendCreate sourceName true, .ok true⟩,
        ⟨.logStep s!"NDI source '{sourceName}' active: {width}x{height} @ {fpsNum}/{fpsDen}fps",
          .ok ()⟩] ++ (t ++ out.trace), out.result, out.state⟩ := by
  have hinit : exec (bridgeHandler src rawHeader) (perform NdiOp.ndiInitialize) st =
      ⟨[⟨.ndiInitialize, .ok true⟩], .ok true, st⟩ := rfl
  have hcreate : exec (bridgeHandler src rawHeader) (perform (NdiOp.sendCreate sourceName true))
      st = ⟨[⟨.sendCreate sourceName true, .ok true⟩], .ok true, st⟩ := rfl
  -- none of the early returns is taken
  rw [ndiSendLoop, if_neg (by decide), exec_bind_ok hinit, if_neg (by decide),
    exec_bind_ok hcreate, if_neg (by decide), exec_bind_ok (exec_logStep rawHeader _ st),
    exec_bind_ok h]
  cases ended with
  | none => rfl
  | some ended => rfl

theorem ndiSendLoop_stops (src : Source UInt8 Empty σ) (rawHeader : Bytes)
    {width height : ℕ} (hpos : 0 < width*height*4) (hindex : width*height*4 < indexBound)
    (fpsNum fpsDen : ℤ) (sourceName : String) (s : σ) :
    ∃ fuel t s', exec (bridgeHandler src rawHeader)
        (ndiSendLoop fuel true width height fpsNum fpsDen sourceName) (s, false) =
          ⟨t, .ok (some ()), (s', true)⟩ ∧
      SentThenStopped (src.pending s) (width*height*4) t := by
  obtain ⟨t, framesSent, s', hloop, ht⟩ := exec_sendVideoFrames_stops rawHeader hpos hindex
    (videoFrame_size width height fpsNum fpsDen) s
  refine ⟨_, _, s', exec_ndiSendLoop rawHeader hloop, ?_⟩
  exact ht.surround rfl (by simp) rfl

/-- A frame of no bytes keeps the loop running, and one that cannot be asked for ends it with an
exception that nothing catches. -/
theorem ndiSendLoop_fails (src : Source UInt8 Empty σ) (rawHeader : Bytes) {width height : ℕ}
    (hsize : width*height*4 = 0 ∨ indexBound ≤ width*height*4) (fpsNum fpsDen : ℤ)
    (sourceName : String) (fuel : ℕ) (s : σ) :
    ∃ t x st', exec (bridgeHandler src rawHeader)
        (ndiSendLoop fuel true width height fpsNum fpsDen sourceName) (s, false) = ⟨t, x, st'⟩ ∧
      (x = .ok none ∨ x = .error overflowError) := by
  rcases hsize with hzero | hindex
  · obtain ⟨t, st', hloop⟩ := exec_sendVideoFrames_empty src rawHeader hzero
      (videoFrame_size width height fpsNum fpsDen) fuel 0 s
    exact ⟨_, _, _, exec_ndiSendLoop rawHeader hloop, .inl rfl⟩
  · obtain ⟨t, ended, hloop, hended⟩ := exec_sendVideoFrames_overflow rawHeader src
      (videoFrame width height fpsNum fpsDen) hindex fuel 0 s
    refine ⟨_, _, _, exec_ndiSendLoop rawHeader hloop, ?_⟩
    rcases hended with rfl | rfl
    · exact .inl rfl
    · exact .inr rfl

/-- No frame is sent after the loop, and the decoder is stopped if the loop has ended well. -/
theorem exec_runNdiBridge {fuel width height : ℕ} {fpsNum fpsDen : ℤ} {sourceName : String}
    {t : List NdiEvent} {x : Except PyErr (Option Unit)} {st st' : σ × Bool}
    (h : exec (bridgeHandler src rawHeader)
      (ndiSendLoop fuel true width height fpsNum fpsDen sourceName) st = ⟨t, x, st'⟩) :
    ∃ v, framesSent v = [] ∧ exec (bridgeHandler src rawHeader)
      (runNdiBridge fuel width height fpsNum fpsDen sourceName) st =
        ⟨[⟨.setSignalHandler, .ok ()⟩, ⟨.startFeeder, .ok ()⟩] ++ (t ++ v), x, st'⟩ := by
  have hsignal : exec (bridgeHandler src rawHeader) (perform NdiOp.setSignalHandler) st =
      ⟨[⟨.setSignalHandler, .ok ()⟩], .ok (), st⟩ := rfl
  have hfeeder : exec (bridgeHandler src rawHeader) (perform NdiOp.startFeeder) st =
      ⟨[⟨.startFeeder, .ok ()⟩], .ok (), st⟩ := rfl
  rw [runNdiBridge, exec_bind_ok hsignal, exec_bind_ok hfeeder]
  rcases x with e | _ | _
  · refine ⟨[], rfl, ?_⟩
    rw [exec_bind_error _ h, List.append_nil]
    rfl
  · refine ⟨[], rfl, ?_⟩
    rw [exec_bind_ok h]
    rfl
  · refine ⟨[⟨.terminateDecoder, .ok ()⟩, ⟨.waitDecoder 3, .ok ()⟩], rfl, ?_⟩
    rw [exec_bind_ok h]
    rfl

/-- An override of the header's width or height; zero is none. -/
def chosenSize (override : Option ℕ) (size : ℕ) : ℕ := (override.filter (· ≠ 0)).getD size

/-- The bridge reaches the loop with the chosen size, and sends no frame before or after. -/
theorem exec_bridgeUrlToNdi {fuel : ℕ} (url : String) (widthOverride heightOverride : Option ℕ)
    {sourceName : String} {header : TttsHeader} (htag : rawHeader.take 4 = headerTag)
    (hparse : parseTttsHeader rawHeader = .ok header) {t : List NdiEvent}
    {x : Except PyErr (Option Unit)}
    {st st' : σ × Bool}
    (h : exec (bridgeHandler src rawHeader) (ndiSendLoop fuel true
      (chosenSize widthOverride header.width) (chosenSize heightOverride header.height)
      (truncate header.fps) 1 sourceName) st = ⟨t, x, st'⟩) :
    ∃ u v, framesSent u = [] ∧ ⟨.setStop, .ok ()⟩ ∉ u ∧ framesSent v = [] ∧
      ⟨.readResponse 204, .ok (some rawHeader)⟩ ∈ u ∧ exec (bridgeHandler src rawHeader)
        (bridgeUrlToNdi fuel url widthOverride heightOverride none sourceName) st =
          ⟨u ++ (t ++ v), x, st'⟩ := by
  obtain ⟨width, height, codecName, fps⟩ := header
  obtain ⟨v, hv, hrun⟩ := exec_runNdiBridge rawHeader h
  have hresponse : exec (bridgeHandler src rawHeader)
      (perform (NdiOp.getResponse url)).attempt st =
        ⟨[⟨.getResponse url, .ok 200⟩], .ok (.ok 200), st⟩ := rfl
  have hheader : exec (bridgeHandler src rawHeader) (perform (NdiOp.readResponse 204)) st =
      ⟨[⟨.readResponse 204, .ok (some rawHeader)⟩], .ok (some rawHeader), st⟩ := rfl
  have hpopen (command : List String) : exec (bridgeHandler src rawHeader)
      (perform (NdiOp.popen command)) st = ⟨[⟨.popen command, .ok ()⟩], .ok (), st⟩ := rfl
  have hparsed (header : TttsHeader) : exec (bridgeHandler src rawHeader)
      (Prog.fromResult (.ok header)) st = ⟨[], .ok header, st⟩ := rfl
  -- what stands before the loop in the trace; none of it is a frame
  refine ⟨[⟨.getResponse url, .ok 200⟩, ⟨.logStep s!"HTTP {200}", .ok ()⟩,
    ⟨.readResponse 204, .ok (some rawHeader)⟩,
    ⟨.logStep s!"TTTS: {width}x{height} {codecName} @ {oneDecimal fps}fps", .ok ()⟩,
    ⟨.popen (ffmpegCommand (chosenSize widthOverride width) (chosenSize heightOverride height) fps),
      .ok ()⟩,
    ⟨.setSignalHandler, .ok ()⟩, ⟨.startFeeder, .ok ()⟩], v, rfl, by simp, hv, by simp, ?_⟩
  rw [bridgeUrlToNdi, exec_bind_ok hresponse]
  simp only [if_neg (show ¬(200 ≠ 200 ∧ 200 ≠ 206) by decide)]
  rw [exec_bind_ok (exec_logStep rawHeader _ st), exec_bind_ok hheader]
  simp only [htag, hparse, ne_eq, not_true_eq_false, if_false]
  rw [exec_bind_ok (hparsed _), bridgeHeader, exec_bind_ok (exec_logStep rawHeader _ st)]
  -- no rate is given, so that of the header is used
  simp only [Option.filter_none, Option.getD_none, Option.map_none]
  have hbridge : exec (bridgeHandler src rawHeader) (runNdiBridge fuel
      ((widthOverride.filter (· ≠ 0)).getD width) ((heightOverride.filter (· ≠ 0)).getD height)
      (truncate fps) 1 sourceName) st = _ := hrun
  rw [exec_bind_ok (hpopen _), hbridge]
  rfl

/-- A header with an empty frame, or with one that cannot be asked for: the bridge never ends, or
fails. -/
theorem bridgeUrlToNdi_fails (src : Source UInt8 Empty σ) (rawHeader : Bytes)
    {header : TttsHeader} (htag : rawHeader.take 4 = headerTag)
    (hparse : parseTttsHeader rawHeader = .ok header)
    (hsize : header.width*header.height*4 = 0 ∨ indexBound ≤ header.width*header.height*4)
    (fuel : ℕ) (url sourceName : String) (s : σ) :
    (exec (bridgeHandler src rawHeader) (bridgeUrlToNdi fuel url none none none sourceName)
      (s, false)).result ≠ .ok (some ()) := by
  obtain ⟨t, x, st', hloop, hx⟩ := ndiSendLoop_fails src rawHeader hsize (truncate header.fps) 1
    sourceName fuel s
  obtain ⟨u, v, -, -, -, -, hexec⟩ :=
    exec_bridgeUrlToNdi rawHeader url none none htag hparse hloop
  rw [hexec]
  rcases hx with rfl | rfl
  · exact nofun
  · exact nofun

end

/-- The bridge ends, having sent the whole frames of the decoder's output and then set the stop
event, exactly if a frame has some bytes and no more than can be asked for. -/
theorem ndi_send_loop_partitions_iff {σ : Type} (src : Source UInt8 Empty σ) (s : σ)
    {rawHeader : Bytes} (hlen : rawHeader.length = 204) (htag : rawHeader.take 4 = headerTag)
    (url sourceName : String) :
    (∃ fuel t st, exec (bridgeHandler src rawHeader)
        (bridgeUrlToNdi fuel url none none none sourceName) (s, false) = ⟨t, .ok (some ()), st⟩ ∧
      SentThenStopped (src.pending s)
        (4*BigEndian.decode (slice rawHeader 28 32)*BigEndian.decode (slice rawHeader 32 36)) t) ↔
      BigEndian.decode (slice rawHeader 28 32) ≠ 0 ∧
        BigEndian.decode (slice rawHeader 32 36) ≠ 0 ∧
        4*BigEndian.decode (slice rawHeader 28 32)*BigEndian.decode (slice rawHeader 32 36) <
          2^63 := by
  have hparse := parseTttsHeader_ok rawHeader (by omega)
  have hcomm : 4*BigEndian.decode (slice rawHeader 28 32)*BigEndian.decode (slice rawHeader 32 36) =
      BigEndian.decode (slice rawHeader 28 32)*BigEndian.decode (slice rawHeader 32 36)*4 := by
    rw [Nat.mul_assoc, Nat.mul_comm 4]
  rw [hcomm]
  constructor
  · rintro ⟨fuel, t, st, hexec, -⟩
    by_contra hne
    have hsize : BigEndian.decode (slice rawHeader 28 32)*
          BigEndian.decode (slice rawHeader 32 36)*4 = 0 ∨
        indexBound ≤ BigEndian.decode (slice rawHeader 28 32)*
          BigEndian.decode (slice rawHeader 32 36)*4 := by
      rw [Nat.mul_eq_zero, Nat.mul_eq_zero]
      unfold indexBound
      omega
    -- without bytes the loop goes on for ever, with too many the first read raises
    have hfails := bridgeUrlToNdi_fails src rawHeader htag hparse hsize fuel url sourceName s
    rw [hexec] at hfails
    exact hfails rfl
  · rintro ⟨hwidth, hheight, hindex⟩
    have hpos : 0 < BigEndian.decode (slice rawHeader 28 32)*
        BigEndian.decode (slice rawHeader 32 36)*4 := by positivity
    obtain ⟨fuel, t, s', hloop, ht⟩ := ndiSendLoop_stops src rawHeader hpos hindex
      (truncate (TttsHeader.fps _)) 1 sourceName s
    obtain ⟨u, v, hu, hstop, hv, -, hexec⟩ :=
      exec_bridgeUrlToNdi rawHeader url none none htag hparse hloop
    exact ⟨fuel, _, _, hexec, ht.surround hu hstop hv⟩

/-- Seventeen bytes in pieces of three and five are two frames of one by two pixels. -/
theorem ndi_send_loop_partitions_two :
    ∃ fuel t st, exec (bridgeHandler scripted (headerOf 1 2 30 1))
        (bridgeUrlToNdi fuel "http://192.168.43.1:7679/livestream/0" none none none "Gear360")
          ((List.replicate 17 7, [2,4]), false) = ⟨t, .ok (some ()), st⟩ ∧
      SentThenStopped (List.replicate 17 7) 8 t :=
  (ndi_send_loop_partitions_iff scripted (List.replicate 17 7, [2,4]) (headerOf_length 1 2 30 1) rfl
    _ _).mpr ⟨by decide +kernel, by decide +kernel, by decide +kernel⟩

/-- A header of width 0 and a decoder that writes nothing: however many turns are waited for, the
loop still runs. With the widest and highest frame the first read raises. -/
theorem ndi_send_loop_never_ends :
    (headerOf 0 2 30 1).length = 204 ∧ (headerOf 0 2 30 1).take 4 = headerTag ∧
      (¬∃ fuel t st, exec (bridgeHandler scripted (headerOf 0 2 30 1))
        (bridgeUrlToNdi fuel "http://192.168.43.1:7679/livestream/0" none none none "Gear360")
          (([], []), false) = ⟨t, .ok (some ()), st⟩) ∧
      ¬∃ fuel t st, exec (bridgeHandler scripted (headerOf 4294967295 4294967295 30 1))
        (bridgeUrlToNdi fuel "http://192.168.43.1:7679/livestream/0" none none none "Gear360")
          (([], []), false) = ⟨t, .ok (some ()), st⟩ := by
  refine ⟨headerOf_length 0 2 30 1, rfl, ?_, ?_⟩
  · rintro ⟨fuel, t, st, hexec⟩
    refine bridgeUrlToNdi_fails scripted (headerOf 0 2 30 1) rfl
      (parseTttsHeader_ok _ (by rw [headerOf_length]; decide)) (.inl (by decide +kernel)) fuel
      "http://192.168.43.1:7679/livestream/0" "Gear360" ([], []) ?_
    rw [hexec]
  · rintro ⟨fuel, t, st, hexec⟩
    refine bridgeUrlToNdi_fails scripted (headerOf 4294967295 4294967295 30 1) rfl
      (parseTttsHeader_ok _ (by rw [headerOf_length]; decide)) (.inr (by decide +kernel)) fuel
      "http://192.168.43.1:7679/livestream/0" "Gear360" ([], []) ?_
    rw [hexec]

end Gear360
