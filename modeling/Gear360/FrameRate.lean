import Gear360.FramePartition

namespace Gear360

open Interaction ChunkedSource
open Interaction.Prog (perform)

/-- `int(n / d)` is the quotient rounded down: the double in between does not reach the next
integer. -/
theorem truncate_trueDivide {n d : ℕ} (hn : n < 2^32) (hd : 0 < d) (hd' : d < 2^32) :
    truncate (trueDivide n d) = (n/d : ℕ) := by
  -- far above the smallest double, so the last place is relative to the quotient
  have hsmall : (d:ℚ)*(2^(-1074 : ℤ)*2^53) ≤ 2 := by
    have hle : (d:ℚ) ≤ 2^32 := by exact_mod_cast hd'.le
    have hemin : (2:ℚ)^(-1074 : ℤ) ≤ 2^(-84 : ℤ) :=
      zpow_le_zpow_right₀ (by norm_num) (by norm_num)
    calc (d:ℚ)*(2^(-1074 : ℤ)*2^53) ≤ 2^32*(2^(-84 : ℤ)*2^53) := by gcongr
      _ = 2 := by norm_num
  have hfloor : ⌊trueDivide n d⌋ = (n/d : ℕ) :=
    NearestEven.floor_round_div (hn.trans (by norm_num)) hd hsmall
  have hnonneg : 0 ≤ trueDivide n d := by
    rw [← Int.floor_nonneg, hfloor]
    exact Int.natCast_nonneg _
  rw [truncate, if_pos hnonneg, hfloor]

/-- The quotient rounded down is the quotient exactly if nothing is lost. -/
theorem div_eq_iff_dvd {n d : ℕ} (hd : d ≠ 0) : ((n/d : ℕ) : ℚ) = n/d ↔ d ∣ n := by
  have hd' : (d:ℚ) ≠ 0 := by exact_mod_cast hd
  rw [eq_div_iff hd']
  constructor
  · intro h
    have hnat : n/d*d = n := by exact_mod_cast h
    exact Dvd.intro_left _ hnat
  · intro h
    exact_mod_cast Nat.div_mul_cancel h

/-- An operation after the header has been read: a frame that is sent carries this rate. -/
def NdiOp.Announces (fpsNum fpsDen : ℤ) : NdiOp → Prop
  | .sendVideo frame => frame.frameRateN = fpsNum ∧ frame.frameRateD = fpsDen
  | .readResponse _ => False
  | _ => True

section
variable {fpsNum fpsDen : ℤ} {α : Type}

abbrev Announces (fpsNum fpsDen : ℤ) (p : Ndi α) : Prop :=
  Performs (NdiOp.Announces fpsNum fpsDen) p

theorem announces_ret (a : α) : Announces fpsNum fpsDen (.ret a) := performs_ret _ a

theorem announces_fromResult (x : Except PyErr α) :
    Announces fpsNum fpsDen (Prog.fromResult x) := performs_fromResult _ x

theorem announces_perform {o : NdiOp} (h : o.Announces fpsNum fpsDen) :
    Announces fpsNum fpsDen (perform o) := performs_perform h

theorem announces_logStep (text : String) : Announces fpsNum fpsDen (Ndi.logStep text) :=
  announces_perform (o := .logStep text) trivial

theorem announces_logError (text : String) : Announces fpsNum fpsDen (Ndi.logError text) :=
  announces_perform (o := .logError text) trivial

theorem sendVideoFrame_announces {video : VideoFrame} (hnum : video.frameRateN = fpsNum)
    (hden : video.frameRateD = fpsDen) (frameSize : ℕ) :
    Announces fpsNum fpsDen (sendVideoFrame video frameSize) := by
  apply performs_bind (announces_perform (o := .stopIsSet) trivial)
  intro stopped
  split_ifs
  · exact announces_ret false
  · apply performs_bind (announces_perform (o := .readDecoder frameSize) trivial)
    intro rawFrame
    cases rawFrame with
    | none =>
      exact performs_bind (announces_perform (o := .setStop) trivial) fun _ => announces_ret false
    | some rawFrame =>
      apply performs_bind (announces_fromResult (reshape rawFrame video.yres video.xres))
      intro data
      exact performs_bind (announces_perform (o := .sendVideo { video with data := data })
        ⟨hnum, hden⟩) fun _ => announces_ret true

theorem sendVideoFrames_announces {video : VideoFrame} (hnum : video.frameRateN = fpsNum)
    (hden : video.frameRateD = fpsDen) (frameSize fuel framesBefore : ℕ) :
    Announces fpsNum fpsDen (sendVideoFrames video frameSize fuel framesBefore) := by
  induction fuel generalizing framesBefore with
  | zero => exact announces_ret none
  | succ fuel ih =>
    apply performs_bind (performs_attempt (sendVideoFrame_announces hnum hden frameSize))
    rintro (e | (_ | _))
    · exact announces_ret _
    · exact announces_ret _
    · have hreport : Announces fpsNum fpsDen
          (if (framesBefore+1)%300 = 0 then
            Ndi.logStep s!"NDI: sent {framesBefore+1} frames" else return ()) := by
        split_ifs
        · exact announces_logStep _
        · exact announces_ret ()
      apply performs_bind (performs_attempt hreport)
      rintro (e | _)
      · exact announces_ret _
      · exact ih (framesBefore+1)

theorem finishSending_announces (framesSent : ℕ) (ended : Except PyErr Unit) :
    Announces fpsNum fpsDen (finishSending framesSent ended) := by
  apply performs_tryFinally
  · apply performs_tryExcept (announces_fromResult ended)
    intro e
    cases e with
    | osError error => exact announces_logError _
    | valueError error => exact announces_logError _
    | _ => exact performs_raise _ _
  · apply performs_bind (announces_logStep _)
    intro _
    apply performs_bind (announces_perform (o := .sendDestroy) trivial)
    intro _
    exact announces_perform (o := .destroy) trivial

theorem ndiSendLoop_announces (fuel width height : ℕ) (sourceName : String) :
    Announces fpsNum fpsDen (ndiSendLoop fuel true width height fpsNum fpsDen sourceName) := by
  apply performs_bind (announces_perform (o := .ndiInitialize) trivial)
  intro initialized
  split_ifs
  · exact performs_bind (announces_logError _) fun _ => announces_ret _
  · apply performs_bind (announces_perform (o := .sendCreate sourceName true) trivial)
    intro sender
    split_ifs
    · exact performs_bind (announces_logError _) fun _ =>
        performs_bind (announces_perform (o := .destroy) trivial) fun _ => announces_ret _
    · apply performs_bind (announces_logStep _)
      intro _
      apply performs_bind (sendVideoFrames_announces rfl rfl _ fuel 0)
      rintro (_ | ⟨framesSent, ended⟩)
      · exact announces_ret none
      · exact performs_bind (finishSending_announces framesSent ended) fun _ => announces_ret _

theorem runNdiBridge_announces (fuel width height : ℕ) (sourceName : String) :
    Announces fpsNum fpsDen (runNdiBridge fuel width height fpsNum fpsDen sourceName) := by
  apply performs_bind (announces_perform (o := .setSignalHandler) trivial)
  intro _
  apply performs_bind (announces_perform (o := .startFeeder) trivial)
  intro _
  apply performs_bind (ndiSendLoop_announces fuel width height sourceName)
  rintro (_ | _)
  · exact announces_ret none
  · apply performs_bind (announces_perform (o := .terminateDecoder) trivial)
    intro _
    have hwait : Announces fpsNum fpsDen ((perform (NdiOp.waitDecoder 3)).tryExcept fun e =>
        if e = .other "TimeoutExpired" then perform NdiOp.killDecoder else .raise e) := by
      apply performs_tryExcept (announces_perform (o := .waitDecoder 3) trivial)
      intro e
      split_ifs
      · exact announces_perform (o := .killDecoder) trivial
      · exact performs_raise _ e
    exact performs_bind hwait fun _ => announces_ret _

/-- Without an override the frames carry the header's rate, truncated, over 1. -/
theorem bridgeHeader_announces (fuel : ℕ) (header : TttsHeader)
    (widthOverride heightOverride : Option ℕ) (sourceName : String) :
    Announces (truncate header.fps) 1
      (bridgeHeader fuel header widthOverride heightOverride none sourceName) := by
  apply performs_bind (announces_logStep _)
  intro _
  apply performs_bind (announces_perform (o := .popen _) trivial)
  intro _
  exact runNdiBridge_announces fuel _ _ sourceName

end

/-- The frames of a run carry the rate of the header that was read in it. -/
def AnnouncesHeader (t : List NdiEvent) : Prop :=
  ∀ rawHeader header, ⟨.readResponse 204, .ok (some rawHeader)⟩ ∈ t →
    parseTttsHeader rawHeader = .ok header →
      ∀ frame ∈ framesSent t, frame.frameRateN = truncate header.fps ∧ frame.frameRateD = 1

/-- An operation that neither reads the header nor sends a frame. -/
def NdiOp.Quiet : NdiOp → Prop
  | .readResponse _ | .sendVideo _ => False
  | _ => True

theorem mem_framesSent {t : List NdiEvent} {frame : VideoFrame} (h : frame ∈ framesSent t) :
    ∃ x, ⟨.sendVideo frame, x⟩ ∈ t := by
  obtain ⟨e, he, hframe⟩ := List.mem_filterMap.mp h
  obtain ⟨o, x⟩ := e
  cases o <;> cases x <;> cases hframe
  exact ⟨_, he⟩

theorem framesSent_quiet {t : List NdiEvent} (h : ∀ e ∈ t, e.1.Quiet) : framesSent t = [] := by
  rw [List.eq_nil_iff_forall_not_mem]
  intro frame hframe
  obtain ⟨x, hx⟩ := mem_framesSent hframe
  exact h _ hx

theorem announcesHeader_nil {t : List NdiEvent} (h : framesSent t = []) : AnnouncesHeader t := by
  intro rawHeader header _ _ frame hframe
  rw [h] at hframe
  cases hframe

theorem AnnouncesHeader.quiet_append {t u : List NdiEvent} (ht : ∀ e ∈ t, e.1.Quiet)
    (hu : AnnouncesHeader u) : AnnouncesHeader (t ++ u) := by
  intro rawHeader header hread hparse
  rw [framesSent_append, framesSent_quiet ht, List.nil_append]
  rcases List.mem_append.mp hread with hread | hread
  · exact (ht _ hread).elim
  · exact hu rawHeader header hread hparse

/-- After the header is read, no other header is. -/
theorem announcesHeader_read {rawHeader : Bytes} {header : TttsHeader} {t : List NdiEvent}
    (hparse : parseTttsHeader rawHeader = .ok header)
    (ht : ∀ e ∈ t, e.1.Announces (truncate header.fps) 1) :
    AnnouncesHeader (⟨.readResponse 204, .ok (some rawHeader)⟩ :: t) := by
  intro rawHeader' header' hread hparse' frame hframe
  have hsame : rawHeader' = rawHeader := by
    rcases List.mem_cons.mp hread with heq | hread
    · cases heq
      rfl
    · exact (ht _ hread).elim
  rw [hsame, hparse] at hparse'
  cases hparse'
  obtain ⟨x, hx⟩ := mem_framesSent hframe
  rcases List.mem_cons.mp hx with heq | hx
  · cases heq
  · exact ht _ hx

section
variable {α β : Type}

theorem ensures_announcesHeader_quiet {p : Ndi α} (h : Performs NdiOp.Quiet p) :
    Ensures p fun t _ => AnnouncesHeader t :=
  Ensures.mono h fun _ _ ht => announcesHeader_nil (framesSent_quiet ht)

theorem ensures_announcesHeader_bind {p : Ndi α} {f : α → Ndi β} (hp : Performs NdiOp.Quiet p)
    (hf : ∀ a, Ensures (f a) fun t _ => AnnouncesHeader t) :
    Ensures (p >>= f) fun t _ => AnnouncesHeader t := by
  apply ensures_bind
  · exact fun t e ht => announcesHeader_nil (framesSent_quiet (hp t _ ht))
  · exact fun t a ht t' r ht' => (hf a t' r ht').quiet_append (hp t _ ht)

theorem quiet_perform {o : NdiOp} (h : o.Quiet) :
    Performs NdiOp.Quiet (perform o : Ndi (NdiAns o)) := performs_perform h

end

theorem quiet_logError (text : String) : Performs NdiOp.Quiet (Ndi.logError text) :=
  quiet_perform (o := .logError text) trivial

/-- Whatever the outside answers, the frames carry the rate of the header that was read. -/
theorem bridgeUrlToNdi_announces (fuel : ℕ) (url : String)
    (widthOverride heightOverride : Option ℕ) (sourceName : String) :
    Ensures (bridgeUrlToNdi fuel url widthOverride heightOverride none sourceName)
      fun t _ => AnnouncesHeader t := by
  apply ensures_announcesHeader_bind
    (performs_attempt (quiet_perform (o := .getResponse url) trivial))
  intro answer
  split
  · apply ensures_announcesHeader_quiet
    apply performs_bind (quiet_logError _)
    intro _
    apply performs_bind (quiet_perform (o := .logHint _) trivial)
    intro _
    exact performs_bind (quiet_perform (o := .closeConnection) trivial) fun _ => performs_ret _ _
  · exact ensures_announcesHeader_quiet (performs_raise _ _)
  · split_ifs
    · apply ensures_announcesHeader_quiet
      apply performs_bind (quiet_logError _)
      intro _
      exact performs_bind (quiet_perform (o := .closeConnection) trivial) fun _ =>
        performs_ret _ _
    · apply ensures_announcesHeader_bind (quiet_perform (o := .logStep _) trivial)
      intro _
      -- the read of the header
      apply ensures_bind
      · intro t e ht
        rw [run_perform_iff.mp ht]
        exact announcesHeader_nil rfl
      · intro t answer ht
        rw [run_perform_iff.mp ht]
        intro t' r ht'
        have hrefused (p : Ndi (Option Unit)) (hp : Performs NdiOp.Quiet p) (h : Run p t' r) :
            AnnouncesHeader ([⟨.readResponse 204, .ok answer⟩] ++ t') := by
          apply announcesHeader_nil
          rw [framesSent_append, framesSent_quiet (hp t' r h)]
          rfl
        cases answer with
        | none => exact hrefused _ (performs_bind (quiet_logError _) fun _ => performs_ret _ _) ht'
        | some rawHeader =>
          dsimp only at ht'
          by_cases htag : rawHeader.take 4 ≠ headerTag
          · rw [if_pos htag] at ht'
            exact hrefused _ (performs_bind (quiet_logError _) fun _ => performs_ret _ _) ht'
          · rw [if_neg htag] at ht'
            rcases run_fromResult_bind_cases ht' with ⟨e, -, rfl, -⟩ | ⟨header, hparse, hheader⟩
            · exact announcesHeader_nil rfl
            · exact announcesHeader_read hparse
                (bridgeHeader_announces fuel header _ _ sourceName t' r hheader)

/-- One turn of the loop over a decoder that has written a frame. -/
theorem ndiSendLoop_sends {σ : Type} (src : Source UInt8 Empty σ) (rawHeader : Bytes)
    {width height : ℕ} (hindex : width*height*4 < indexBound) (fpsNum fpsDen : ℤ)
    (sourceName : String) {s : σ} (h : width*height*4 ≤ (src.pending s).length) :
    ∃ t st', exec (bridgeHandler src rawHeader)
        (ndiSendLoop 1 true width height fpsNum fpsDen sourceName) (s, false) =
          ⟨t, .ok none, st'⟩ ∧ framesSent t ≠ [] := by
  obtain ⟨t, s', hturn, -, hframe, -⟩ :=
    exec_sendVideoFrame_full rawHeader hindex (videoFrame_size width height fpsNum fpsDen) h
  obtain ⟨report, -, -, hloop⟩ := exec_sendVideoFrames_turn rawHeader hturn 0 0
  have hexec : exec (bridgeHandler src rawHeader)
      (ndiSendLoop 1 true width height fpsNum fpsDen sourceName) (s, false) = _ :=
    exec_ndiSendLoop rawHeader (hloop _ rfl)
  refine ⟨_, _, hexec, ?_⟩
  rw [framesSent_append, framesSent_append, framesSent_append, hframe]
  exact List.append_ne_nil_of_right_ne_nil _ (by simp)

/-- For every header and size of a frame that can be asked for there is a run in which a frame is
sent. -/
theorem bridgeUrlToNdi_sends {rawHeader : Bytes} {header : TttsHeader}
    (htag : rawHeader.take 4 = headerTag) (hparse : parseTttsHeader rawHeader = .ok header)
    (widthOverride heightOverride : Option ℕ)
    (hindex : chosenSize widthOverride header.width*chosenSize heightOverride header.height*4 <
      indexBound) (url sourceName : String) :
    ∃ t r frame, Run (bridgeUrlToNdi 1 url widthOverride heightOverride none sourceName) t r ∧
      ⟨.readResponse 204, .ok (some rawHeader)⟩ ∈ t ∧ frame ∈ framesSent t := by
  -- a decoder that writes one frame
  let output : Bytes := List.replicate
    (chosenSize widthOverride header.width*chosenSize heightOverride header.height*4) 0
  have hsize : chosenSize widthOverride header.width*chosenSize heightOverride header.height*4 ≤
      ((scripted : Source UInt8 Empty _).pending (output, [])).length :=
    (List.length_replicate ..).ge
  obtain ⟨t, st', hsend, hframes⟩ := ndiSendLoop_sends scripted rawHeader hindex
    (truncate header.fps) 1 sourceName hsize
  obtain ⟨u, v, -, -, -, hread, hexec⟩ :=
    exec_bridgeUrlToNdi rawHeader url widthOverride heightOverride htag hparse hsend
  have hrun := exec_run (bridgeHandler scripted rawHeader)
    (bridgeUrlToNdi 1 url widthOverride heightOverride none sourceName) ((output, []), false)
  rw [hexec] at hrun
  obtain ⟨frame, hframe⟩ := List.exists_mem_of_ne_nil _ hframes
  refine ⟨_, _, frame, hrun, List.mem_append_left _ hread, ?_⟩
  rw [framesSent_append, framesSent_append]
  exact List.mem_append_right _ (List.mem_append_left _ hframe)

/-- The announced rate is the header's, rounded down. -/
theorem announced_rate {rawHeader : Bytes} (hlen : rawHeader.length = 204)
    (hden : BigEndian.decode (slice rawHeader 68 72) ≠ 0) {fuel : ℕ} {url sourceName : String}
    {widthOverride heightOverride : Option ℕ} {t : List NdiEvent}
    {r : Except PyErr (Option Unit)}
    (hrun : Run (bridgeUrlToNdi fuel url widthOverride heightOverride none sourceName) t r)
    (hread : ⟨.readResponse 204, .ok (some rawHeader)⟩ ∈ t) {frame : VideoFrame}
    (hframe : frame ∈ framesSent t) :
    (frame.frameRateN : ℚ)/frame.frameRateD = (BigEndian.decode (slice rawHeader 64 68) /
      BigEndian.decode (slice rawHeader 68 72) : ℕ) := by
  -- the fields are of 32 bits, and their quotient is exact enough to be cut off right
  have hlt (i : ℕ) (hi : i+4 ≤ 204) : BigEndian.decode (slice rawHeader i (i+4)) < 2^32 := by
    have h := BigEndian.decode_lt (slice rawHeader i (i+4))
    have hfield : (slice rawHeader i (i+4)).length = 4 := by
      simp only [slice, List.length_drop, List.length_take]
      omega
    rw [hfield] at h
    exact h.trans_eq (by norm_num)
  have hrate := truncate_trueDivide (hlt 64 (by omega)) (Nat.pos_of_ne_zero hden)
    (hlt 68 (by omega))
  have hparse := parseTttsHeader_ok rawHeader (by omega)
  rw [if_pos hden] at hparse
  obtain ⟨hn, hd⟩ := bridgeUrlToNdi_announces fuel url widthOverride heightOverride sourceName
    t r hrun rawHeader _ hread hparse frame hframe
  rw [hn, hd, hrate, Int.cast_one, div_one, Int.cast_natCast]

/-- The frames of every run announce the header's rate, and never zero, exactly if the rate is
integral. -/
theorem announced_rate_iff {rawHeader : Bytes} (hlen : rawHeader.length = 204)
    (htag : rawHeader.take 4 = headerTag) (hnum : BigEndian.decode (slice rawHeader 64 68) ≠ 0)
    (hden : BigEndian.decode (slice rawHeader 68 72) ≠ 0) :
    (∀ fuel url widthOverride heightOverride sourceName t r,
      Run (bridgeUrlToNdi fuel url widthOverride heightOverride none sourceName) t r →
      ⟨.readResponse 204, .ok (some rawHeader)⟩ ∈ t → ∀ frame ∈ framesSent t,
        (frame.frameRateN : ℚ)/frame.frameRateD = BigEndian.decode (slice rawHeader 64 68) /
            BigEndian.decode (slice rawHeader 68 72) ∧
          (frame.frameRateN : ℚ)/frame.frameRateD ≠ 0) ↔
      BigEndian.decode (slice rawHeader 68 72) ∣ BigEndian.decode (slice rawHeader 64 68) := by
  constructor
  · intro h
    have hparse := parseTttsHeader_ok rawHeader (by omega)
    -- frames of one pixel, whatever the header says
    obtain ⟨t, r, frame, hrun, hread, hframe⟩ :=
      bridgeUrlToNdi_sends htag hparse (some 1) (some 1) (by change 1*1*4 < 2^63; norm_num) "" ""
    obtain ⟨heq, -⟩ := h 1 "" (some 1) (some 1) "" t r hrun hread frame hframe
    rw [announced_rate hlen hden hrun hread hframe] at heq
    exact (div_eq_iff_dvd hden).mp heq
  · intro hdvd fuel url widthOverride heightOverride sourceName t r hrun hread frame hframe
    rw [announced_rate hlen hden hrun hread hframe, (div_eq_iff_dvd hden).mpr hdvd]
    refine ⟨rfl, ?_⟩
    exact div_ne_zero (by exact_mod_cast hnum) (by exact_mod_cast hden)

/-- At 60/2 no frame is announced with a stalled rate. -/
theorem announced_rate_iff_thirty :
    ¬∃ t r frame, Run (bridgeUrlToNdi 5 "http://192.168.43.1:7679/livestream/0" (some 1280) none
        none "Gear360") t r ∧
      ⟨.readResponse 204, .ok (some (headerOf 1920 1080 60 2))⟩ ∈ t ∧ frame ∈ framesSent t ∧
        (frame.frameRateN : ℚ)/frame.frameRateD = 0 := by
  rintro ⟨t, r, frame, hrun, hread, hframe, hzero⟩
  exact ((announced_rate_iff (headerOf_length 1920 1080 60 2) rfl (by decide +kernel)
    (by decide +kernel)).mpr (by decide +kernel) 5 _ _ _ _ t r hrun hread frame hframe).2 hzero

/-- A camera that films 30000 frames in 1001 seconds is announced at 29 frames a second. -/
theorem fractional_rate_truncated :
    ∃ t r frame, Run (bridgeUrlToNdi 1 "http://192.168.43.1:7679/livestream/0" none none none
        "Gear360") t r ∧
      ⟨.readResponse 204, .ok (some (headerOf 1920 1080 30000 1001))⟩ ∈ t ∧
      frame ∈ framesSent t ∧ (frame.frameRateN : ℚ)/frame.frameRateD = 29 ∧
        (frame.frameRateN : ℚ)/frame.frameRateD ≠ 30000/1001 := by
  obtain ⟨t, r, frame, hrun, hread, hframe⟩ :=
    bridgeUrlToNdi_sends rfl (parseTttsHeader_ok (headerOf 1920 1080 30000 1001)
        (by rw [headerOf_length]; decide)) none none (by decide +kernel)
      "http://192.168.43.1:7679/livestream/0" "Gear360"
  have hrate := announced_rate (headerOf_length 1920 1080 30000 1001) (by decide +kernel) hrun
    hread hframe
  have hnum : BigEndian.decode (slice (headerOf 1920 1080 30000 1001) 64 68) /
      BigEndian.decode (slice (headerOf 1920 1080 30000 1001) 68 72) = 29 := by decide +kernel
  rw [hnum] at hrate
  refine ⟨t, r, frame, hrun, hread, hframe, hrate, ?_⟩
  rw [hrate]
  norm_num

end Gear360
