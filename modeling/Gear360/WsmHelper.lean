import Gear360.WsmVariants

namespace Gear360

open Interaction ChildProcess WsmClient

variable {H : Type}

section
variable (W : LibWsm H) (path : String) {serverId clientId : String} {handle : H}

/-- What `full_auth` does once the response is written. -/
def checkConfirm (handle : H) : Stdio ℤ := do
  let confirm ← fread 35
  if confirm.length ≠ 35 then
    return 1
  if W.checkClientResponse handle confirm ≤ 0 then
    return 1
  return 0

theorem wsmHelper_eq
    (hinit : W.clientInit serverId.toUTF8.toList clientId.toUTF8.toList = some handle) :
    wsmHelper W [path, "full_auth", serverId, clientId] = fread 70 >>= fun challenge =>
      if challenge.length ≠ 70 then return 1
      else if (W.checkAndGenerateServerChallenge handle challenge).1 ≤ 0 then
        fwrite (W.checkAndGenerateServerChallenge handle challenge).2.1 >>= fun _ => return 1
      else fwrite (W.checkAndGenerateServerChallenge handle challenge).2.1 >>= fun _ =>
        checkConfirm W (W.checkAndGenerateServerChallenge handle challenge).2.2 := by
  simp only [wsmHelper, hinit, if_true]
  rfl

/-- A confirmation is accepted when 35 bytes are there and libwsm accepts them. -/
theorem checkConfirm_status (stdin stdout : Bytes) :
    (resume (checkConfirm W handle) stdin true stdout).status = some 0 ↔
      35 ≤ stdin.length ∧ 0 < W.checkClientResponse handle (stdin.take 35) := by
  unfold checkConfirm
  by_cases hlen : 35 ≤ stdin.length
  · have htake : ¬(stdin.take 35).length ≠ 35 := by rw [List.length_take]; omega
    rw [resume_fread _ _ _ hlen, if_neg htake]
    by_cases hret : W.checkClientResponse handle (stdin.take 35) ≤ 0
    · rw [if_pos hret]
      exact iff_of_false (fun h => absurd (Option.some.inj h) (by decide)) (fun h => by omega)
    · rw [if_neg hret]
      exact iff_of_true rfl ⟨hlen, by omega⟩
  -- a short confirmation at the end of the input
  · rw [resume_fread_end _ _ (by omega), if_pos (by omega)]
    exact iff_of_false (fun h => absurd (Option.some.inj h) (by decide)) (fun h => hlen h.1)

theorem checkConfirm_exits {stdin : Bytes} (h : 35 ≤ stdin.length) (stdout : Bytes) :
    (resume (checkConfirm W handle) stdin false stdout).status.isSome := by
  have htake : ¬(stdin.take 35).length ≠ 35 := by rw [List.length_take]; omega
  rw [checkConfirm, resume_fread _ _ _ h, if_neg htake]
  split_ifs <;> rfl

theorem checkConfirm_stdout (stdin stdout : Bytes) (closed : Bool) :
    (resume (checkConfirm W handle) stdin closed stdout).stdout = stdout := by
  unfold checkConfirm
  by_cases hlen : 35 ≤ stdin.length
  · rw [resume_fread _ _ _ hlen]
    split_ifs <;> rfl
  · cases closed with
    | false => rw [resume_fread_blocked _ _ (by omega)]
    | true =>
      rw [resume_fread_end _ _ (by omega)]
      split_ifs <;> rfl

variable (hinit : W.clientInit serverId.toUTF8.toList clientId.toUTF8.toList = some handle)
include hinit

/-- The challenge is the first 70 bytes of the input, the confirmation what comes next. -/
theorem wsmHelper_resume {input : Bytes} (hlen : 70 ≤ input.length) (closed : Bool) :
    resume (wsmHelper W [path, "full_auth", serverId, clientId]) input closed [] =
      if (W.checkAndGenerateServerChallenge handle (input.take 70)).1 ≤ 0 then
        ⟨.ret 1, input.drop 70, closed,
          (W.checkAndGenerateServerChallenge handle (input.take 70)).2.1⟩
      else
        resume (checkConfirm W (W.checkAndGenerateServerChallenge handle (input.take 70)).2.2)
          (input.drop 70) closed
          (W.checkAndGenerateServerChallenge handle (input.take 70)).2.1 := by
  -- the first read has its 70 bytes, and the second one starts after them
  have htake : ¬(input.take 70).length ≠ 70 := by rw [List.length_take]; omega
  rw [wsmHelper_eq W path hinit, resume_fread _ _ _ hlen, if_neg htake]
  split_ifs <;> rfl

/-- The response, valid or not, is written as soon as 70 bytes are there. -/
theorem wsmHelper_stdout {input : Bytes} (hlen : 70 ≤ input.length) (closed : Bool) :
    (resume (wsmHelper W [path, "full_auth", serverId, clientId]) input closed []).stdout.length =
      102 := by
  rw [wsmHelper_resume W path hinit hlen]
  split_ifs
  · exact W.response_length _ _
  · rw [checkConfirm_stdout]
    exact W.response_length _ _

theorem wsmHelper_short {input : Bytes} (hlen : input.length < 70) :
    (resume (wsmHelper W [path, "full_auth", serverId, clientId]) input false []).stdout = [] ∧
      (resume (wsmHelper W [path, "full_auth", serverId, clientId]) input false []).status =
        none := by
  rw [wsmHelper_eq W path hinit, resume_fread_blocked _ _ hlen]
  exact ⟨rfl, rfl⟩

/-- With as many bytes as a challenge and a confirmation have the helper is done. -/
theorem wsmHelper_exits {input : Bytes} (hlen : 105 ≤ input.length) :
    (resume (wsmHelper W [path, "full_auth", serverId, clientId])
      input false []).status.isSome := by
  rw [wsmHelper_resume W path hinit (by omega)]
  split_ifs
  · rfl
  · exact checkConfirm_exits W (by rw [List.length_drop]; omega) _

theorem wsmHelper_status {input : Bytes} (hlen : 70 ≤ input.length) :
    (resume (wsmHelper W [path, "full_auth", serverId, clientId]) input true []).status = some 0 ↔
      0 < (W.checkAndGenerateServerChallenge handle (input.take 70)).1 ∧
        35 ≤ (input.drop 70).length ∧
        0 < W.checkClientResponse (W.checkAndGenerateServerChallenge handle (input.take 70)).2.2
          ((input.drop 70).take 35) := by
  rw [wsmHelper_resume W path hinit hlen]
  by_cases hret : (W.checkAndGenerateServerChallenge handle (input.take 70)).1 ≤ 0
  · rw [if_pos hret]
    exact iff_of_false (fun h => absurd (Option.some.inj h) (by decide)) (fun h => by omega)
  · rw [if_neg hret, checkConfirm_status]
    exact ⟨fun h => ⟨by omega, h⟩, fun h => h.2⟩

end

theorem readResponse_full (sizes : List ℕ) {stdout : Bytes} (h : stdout.length = 102) :
    (HelperWsmAuthenticator.readResponse sizes stdout).1 = some stdout := by
  have hspec := (ChunkedSource.gather_spec ChunkedSource.scripted 102 [] (stdout, sizes)
    (Nat.zero_le _)).1
  have htake : stdout.take (102 - 0) = stdout := List.take_of_length_le (by omega)
  have hle : 102 ≤ ([] : Bytes).length + stdout.length := by simp [h]
  exact hspec.trans ((if_pos hle).trans (congrArg some htake))

theorem readResponse_nil (sizes : List ℕ) :
    (HelperWsmAuthenticator.readResponse sizes []).1 = none := by
  have hspec := (ChunkedSource.gather_spec ChunkedSource.scripted 102 [] (([] : Bytes), sizes)
    (Nat.zero_le _)).1
  exact hspec.trans (if_neg (show ¬102 ≤ 0 by decide))

section
variable {W : LibWsm H} {path cameraMac phoneMac : String} {capacity : ℕ} {sizes : List ℕ}
  {body : Bytes} {process : Process}

/-- The write into the helper's input fails. -/
theorem processChallenge_broken (sizes : List ℕ)
    (hwrite : (Process.spawn (wsmHelper W [path, "full_auth", cameraMac, phoneMac])).write
      capacity body = (false, process)) :
    ∃ s, (HelperWsmAuthenticator.processChallenge W capacity sizes body).run
      (.init cameraMac phoneMac path) = .error (.osError "Broken pipe") s := by
  simp only [HelperWsmAuthenticator.processChallenge, EStateM.run, bind, EStateM.bind, get, getThe,
    MonadStateOf.get, EStateM.get, HelperWsmAuthenticator.init, hwrite, set, EStateM.set,
    Bool.not_false, if_true]
  exact ⟨_, rfl⟩

/-- The output has a whole response: it is returned, and the process stays. -/
theorem processChallenge_read
    (hwrite : (Process.spawn (wsmHelper W [path, "full_auth", cameraMac, phoneMac])).write
      capacity body = (true, process)) {response : Bytes}
    (hread : (HelperWsmAuthenticator.readResponse sizes process.stdout).1 = some response) :
    ∃ rest, (HelperWsmAuthenticator.processChallenge W capacity sizes body).run
      (.init cameraMac phoneMac path) = .ok (some response)
        ⟨cameraMac, phoneMac, path, some (process.withStdout rest)⟩ := by
  simp only [HelperWsmAuthenticator.processChallenge, EStateM.run, bind, EStateM.bind, get, getThe,
    MonadStateOf.get, EStateM.get, HelperWsmAuthenticator.init, hwrite, set, EStateM.set,
    Bool.not_true, Bool.false_eq_true, if_false, hread]
  exact ⟨_, rfl⟩

theorem processChallenge_silent
    (hwrite : (Process.spawn (wsmHelper W [path, "full_auth", cameraMac, phoneMac])).write
      capacity body = (true, process))
    (hread : (HelperWsmAuthenticator.readResponse sizes process.stdout).1 = none) :
    ∃ s, (HelperWsmAuthenticator.processChallenge W capacity sizes body).run
      (.init cameraMac phoneMac path) = .ok none s := by
  simp only [HelperWsmAuthenticator.processChallenge, EStateM.run, bind, EStateM.bind, get, getThe,
    MonadStateOf.get, EStateM.get, HelperWsmAuthenticator.init, hwrite, set, EStateM.set,
    Bool.not_true, Bool.false_eq_true, if_false, hread]
  exact ⟨_, rfl⟩

end

theorem helper_confirm (cameraMac phoneMac path : String) (capacity : ℕ) (program : Stdio ℤ)
    (body confirm rest : Bytes) :
    ∃ s, (HelperWsmAuthenticator.verifyConfirm capacity confirm).run
      ⟨cameraMac, phoneMac, path, some ((resume program body false []).withStdout rest)⟩ =
      .ok (decide ((resume program (body ++ confirm) true []).status = some 0)) s := by
  obtain ⟨⟨written, p⟩, hwrite⟩ : ∃ out,
      ((resume program body false []).withStdout rest).write capacity confirm = out := ⟨_, rfl⟩
  -- the two writes are one input, so the exit status is that of one run on both
  have hfinish := status_finish capacity program body confirm rest hwrite
  simp only [HelperWsmAuthenticator.verifyConfirm, EStateM.run, bind, EStateM.bind, get, getThe,
    MonadStateOf.get, EStateM.get, set, EStateM.set, pure, EStateM.pure, hwrite, hfinish]
  exact ⟨_, rfl⟩

section
variable (W : LibWsm H) (path : String) {cameraMac phoneMac : String} {handle : H} (capacity : ℕ)
  (hinit : W.clientInit cameraMac.toUTF8.toList phoneMac.toUTF8.toList = some handle)
include hinit

theorem write_spawn (body : Bytes) :
    (Process.spawn (wsmHelper W [path, "full_auth", cameraMac, phoneMac])).write capacity body =
      (!((resume (wsmHelper W [path, "full_auth", cameraMac, phoneMac]) body false []).status.isSome
        && decide (capacity < body.length)),
        resume (wsmHelper W [path, "full_auth", cameraMac, phoneMac]) body false []) := by
  -- the fresh process waits for its challenge
  have hblocked :
      (resume (wsmHelper W [path, "full_auth", cameraMac, phoneMac]) [] false []).status = none :=
    (wsmHelper_short W path hinit (show ([] : Bytes).length < 70 by decide)).2
  rw [Process.spawn, Process.write, hblocked, if_neg (by decide), feed_resume]
  rfl

theorem helper_short_challenge (sizes : List ℕ) {body : Bytes} (h : body.length < 70) :
    ∃ s, (HelperWsmAuthenticator.processChallenge W capacity sizes body).run
      (.init cameraMac phoneMac path) = .ok none s := by
  obtain ⟨hout, hstatus⟩ := wsmHelper_short W path hinit h
  have hwrite := write_spawn W path capacity hinit body
  rw [hstatus] at hwrite
  exact processChallenge_silent hwrite (by rw [hout, readResponse_nil])

theorem helper_broken_pipe (hcap : 105 ≤ capacity) (sizes : List ℕ) {body : Bytes}
    (h : capacity < body.length) :
    ∃ s, (HelperWsmAuthenticator.processChallenge W capacity sizes body).run
      (.init cameraMac phoneMac path) = .error (.osError "Broken pipe") s := by
  have hexits :
      (resume (wsmHelper W [path, "full_auth", cameraMac, phoneMac]) body false []).status.isSome :=
    wsmHelper_exits W path hinit (by omega)
  have hwrite := write_spawn W path capacity hinit body
  rw [hexits, Bool.true_and, decide_eq_true h] at hwrite
  exact processChallenge_broken sizes hwrite

theorem helper_challenge (sizes : List ℕ) {body : Bytes} (h : 70 ≤ body.length)
    (hfits : body.length ≤ capacity) :
    ∃ response rest, (HelperWsmAuthenticator.processChallenge W capacity sizes body).run
      (.init cameraMac phoneMac path) = .ok (some response)
        ⟨cameraMac, phoneMac, path, some ((resume
          (wsmHelper W [path, "full_auth", cameraMac, phoneMac]) body false []).withStdout
            rest)⟩ := by
  have hwrite := write_spawn W path capacity hinit body
  rw [decide_eq_false (Nat.not_lt.mpr hfits), Bool.and_false] at hwrite
  exact ⟨_, processChallenge_read hwrite
    (readResponse_full sizes (wsmHelper_stdout W path hinit h false))⟩

/-- The helper sees one stream: its challenge is the first 70 bytes of the body, and its
confirmation the 35 bytes after them, wherever the body ended. -/
theorem helper_authenticates_iff (hcap : 105 ≤ capacity) (sizes : List ℕ) (body confirm : Bytes) :
    (helperWsmAuthenticator W capacity sizes).authenticates body confirm
        (.init cameraMac phoneMac path) = true ↔
      70 ≤ body.length ∧ body.length ≤ capacity ∧
        0 < (W.checkAndGenerateServerChallenge handle (body.take 70)).1 ∧
        35 ≤ (body.drop 70 ++ confirm).length ∧
        0 < W.checkClientResponse (W.checkAndGenerateServerChallenge handle (body.take 70)).2.2
          ((body.drop 70 ++ confirm).take 35) := by
  unfold WsmAuthenticator.authenticates
  simp only [helperWsmAuthenticator]
  -- less than a challenge is waited for in vain, more than the pipe holds breaks it
  by_cases hshort : body.length < 70
  · obtain ⟨s, hrun⟩ := helper_short_challenge W path capacity hinit sizes hshort
    rw [hrun]
    exact iff_of_false Bool.false_ne_true (fun h => by omega)
  by_cases hlarge : capacity < body.length
  · obtain ⟨s, hrun⟩ := helper_broken_pipe W path capacity hinit hcap sizes hlarge
    rw [hrun]
    exact iff_of_false Bool.false_ne_true (fun h => by omega)
  have hlen : 70 ≤ body.length := by omega
  obtain ⟨response, rest, hrun⟩ := helper_challenge W path capacity hinit sizes hlen
    (Nat.not_lt.mp hlarge)
  obtain ⟨s, hconfirm⟩ := helper_confirm cameraMac phoneMac path capacity
    (wsmHelper W [path, "full_auth", cameraMac, phoneMac]) body confirm rest
  rw [hrun]
  simp only [hconfirm, decide_eq_true_eq]
  -- what the helper reads is the body and the confirmation, one after the other
  rw [wsmHelper_status W path hinit (by rw [List.length_append]; omega),
    List.take_append_of_le_length hlen, List.drop_append_of_le_length hlen]
  exact ⟨fun h => ⟨hlen, by omega, h⟩, fun h => h.2.2⟩

end

end Gear360
