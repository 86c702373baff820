import Gear360.Interaction

/-! A child process between two pipes. It runs until it needs input that is not there yet,
so what it has done depends only on the bytes written so far, not on how they were cut. -/
namespace ChildProcess

open Interaction

inductive StdioOp where
  | fread (n : ℕ)
  | fwrite (data : List UInt8)

def StdioAns : StdioOp → Type
  | .fread _ => List UInt8
  | .fwrite _ => Unit

/-- A program on standard input and output. Its result is its exit status. -/
abbrev Stdio (α : Type) : Type := Prog StdioAns Empty α

def fread (n : ℕ) : Stdio (List UInt8) := Prog.perform (StdioOp.fread n)

def fwrite (data : List UInt8) : Stdio Unit := Prog.perform (StdioOp.fwrite data)

/-- What is left of the program, the input it has not read, whether the writer closed the
input, and the output nobody has read. -/
structure Process where
  program : Stdio ℤ
  stdin : List UInt8
  closed : Bool
  stdout : List UInt8

/-- Run until the program exits or a read blocks. At the end of a closed input a read
returns what is left. -/
def resume : Stdio ℤ → List UInt8 → Bool → List UInt8 → Process
  | .ret status, stdin, closed, stdout => ⟨.ret status, stdin, closed, stdout⟩
  | .raise e, _, _, _ => e.elim
  | .call (.fread n) k, stdin, closed, stdout =>
    if n ≤ stdin.length then resume (k (.ok (stdin.take n))) (stdin.drop n) closed stdout
    else if closed then resume (k (.ok stdin)) [] closed stdout
    else ⟨.call (.fread n) k, stdin, closed, stdout⟩
  | .call (.fwrite data) k, stdin, closed, stdout =>
    resume (k (.ok ())) stdin closed (stdout ++ data)

namespace Process

def spawn (program : Stdio ℤ) : Process := resume program [] false []

def status (p : Process) : Option ℤ :=
  match p.program with
  | .ret code => some code
  | _ => none

def feed (p : Process) (data : List UInt8) : Process :=
  resume p.program (p.stdin ++ data) p.closed p.stdout

def closeStdin (p : Process) : Process := resume p.program p.stdin true p.stdout

/-- Somebody read the output, and `stdout` is left of it. -/
def withStdout (p : Process) (stdout : List UInt8) : Process := { p with stdout := stdout }

def kill (p : Process) : Process := if p.status.isSome then p else { p with program := .ret (-9) }

/-- A write to the child. It fails when nobody can read it any more: the child has exited
before, or it exits while a write larger than the pipe waits. -/
def write (capacity : ℕ) (p : Process) (data : List UInt8) : Bool × Process :=
  if p.status.isSome then (false, p)
  else
    -- a write that fits in the pipe succeeds even if the child exits on it
    let p := p.feed data
    (!(p.status.isSome && decide (capacity < data.length)), p)

end Process

open Process

theorem resume_fread {n : ℕ} (k : List UInt8 → Stdio ℤ) {stdin : List UInt8} (closed : Bool)
    (stdout : List UInt8) (h : n ≤ stdin.length) :
    resume (fread n >>= k) stdin closed stdout =
      resume (k (stdin.take n)) (stdin.drop n) closed stdout :=
  if_pos h

theorem resume_fread_end {n : ℕ} (k : List UInt8 → Stdio ℤ) {stdin : List UInt8}
    (stdout : List UInt8) (h : stdin.length < n) :
    resume (fread n >>= k) stdin true stdout = resume (k stdin) [] true stdout :=
  (if_neg (Nat.not_le.mpr h)).trans (if_pos rfl)

theorem resume_fread_blocked {n : ℕ} (k : List UInt8 → Stdio ℤ) {stdin : List UInt8}
    (stdout : List UInt8) (h : stdin.length < n) :
    resume (fread n >>= k) stdin false stdout = ⟨fread n >>= k, stdin, false, stdout⟩ :=
  (if_neg (Nat.not_le.mpr h)).trans (if_neg Bool.false_ne_true)

/-- Two writes are one write of both. -/
theorem feed_resume (program : Stdio ℤ) (stdin data stdout : List UInt8) :
    (resume program stdin false stdout).feed data =
      resume program (stdin ++ data) false stdout := by
  induction program generalizing stdin stdout with
  | ret code => rfl
  | raise e => exact e.elim
  | call o k ih =>
    cases o with
    | fwrite out => exact ih _ stdin _
    | fread n =>
      by_cases h : n ≤ stdin.length
      -- the read had enough input before, so the new bytes only stand behind
      · have h' : n ≤ (stdin ++ data).length := by rw [List.length_append]; omega
        simp only [resume, if_pos h, if_pos h', ih, List.take_append_of_le_length h,
          List.drop_append_of_le_length h]
      · simp only [resume, if_neg h, feed, Bool.false_eq_true, if_false]

/-- Closing the input late is as good as having closed it from the start. -/
theorem closeStdin_resume (program : Stdio ℤ) (stdin stdout : List UInt8) :
    (resume program stdin false stdout).closeStdin = resume program stdin true stdout := by
  induction program generalizing stdin stdout with
  | ret code => rfl
  | raise e => exact e.elim
  | call o k ih =>
    cases o with
    | fwrite out => exact ih _ stdin _
    | fread n =>
      by_cases h : n ≤ stdin.length
      · simp only [resume, if_pos h, ih]
      · simp only [resume, if_neg h, closeStdin, Bool.false_eq_true, if_false, if_true]

/-- Once its input is closed a program exits. -/
theorem status_resume_closed (program : Stdio ℤ) (stdin stdout : List UInt8) :
    (resume program stdin true stdout).status.isSome := by
  induction program generalizing stdin stdout with
  | ret code => rfl
  | raise e => exact e.elim
  | call o k ih =>
    cases o with
    | fwrite out => exact ih _ stdin _
    | fread n =>
      by_cases h : n ≤ stdin.length
      · simp only [resume, if_pos h, ih]
      · simp only [resume, if_neg h, if_true, ih]

/-- An exited program stays exited, whatever is still written to it. -/
theorem status_resume_of_exited {program : Stdio ℤ} {stdin stdout : List UInt8} {code : ℤ}
    (h : (resume program stdin false stdout).status = some code) (data : List UInt8) :
    (resume program (stdin ++ data) true stdout).status = some code := by
  rw [← closeStdin_resume, ← feed_resume]
  unfold status at h
  split at h
  · rename_i code' hprog
    rw [feed, hprog, closeStdin]
    exact h
  · cases h

/-- Output only piles up: it has no influence on what the program does next. -/
theorem resume_stdout (program : Stdio ℤ) (stdin : List UInt8) (closed : Bool)
    (stdout : List UInt8) :
    resume program stdin closed stdout = (resume program stdin closed []).withStdout
      (stdout ++ (resume program stdin closed []).stdout) := by
  induction program generalizing stdin stdout with
  | ret code => simp only [resume, withStdout, List.append_nil]
  | raise e => exact e.elim
  | call o k ih =>
    cases o with
    | fwrite data =>
      simp only [resume, List.nil_append]
      rw [ih _ stdin (stdout ++ data), ih _ stdin data]
      simp only [withStdout, List.append_assoc]
    | fread n =>
      simp only [resume]
      split_ifs
      · exact ih _ _ _
      · exact ih _ _ _
      · simp only [withStdout, List.append_nil]

theorem feed_withStdout (p : Process) (data out : List UInt8) :
    ∃ out', (p.withStdout out).feed data = (p.feed data).withStdout out' := by
  refine ⟨out ++ (resume p.program (p.stdin ++ data) p.closed []).stdout, ?_⟩
  rw [feed, feed, resume_stdout, resume_stdout p.program _ _ p.stdout]
  rfl

theorem status_closeStdin_withStdout (p : Process) (out : List UInt8) :
    (p.withStdout out).closeStdin.status = p.closeStdin.status := by
  rw [closeStdin, resume_stdout, closeStdin, resume_stdout p.program _ _ p.stdout]
  rfl

theorem kill_of_exited {p : Process} (h : p.status.isSome) : p.kill = p := if_pos h

/-- Write the last bytes, close the input unless the write failed, and wait: the exit status is
that of a run on the whole input. -/
theorem status_finish (capacity : ℕ) (program : Stdio ℤ) (input data out : List UInt8)
    {written : Bool} {p : Process}
    (h : ((resume program input false []).withStdout out).write capacity data = (written, p)) :
    (if written then p.closeStdin else p).kill.status =
      (resume program (input ++ data) true []).status := by
  unfold write at h
  by_cases hexit : ((resume program input false []).withStdout out).status.isSome
  · rw [if_pos hexit, Prod.mk.injEq] at h
    obtain ⟨rfl, rfl⟩ := h
    -- the child had exited before the write, and more input changes nothing
    obtain ⟨code, hcode⟩ := Option.isSome_iff_exists.mp hexit
    rw [if_neg Bool.false_ne_true, kill_of_exited hexit, hcode]
    exact (status_resume_of_exited hcode data).symm
  · obtain ⟨out', hfeed⟩ := feed_withStdout (resume program input false []) data out
    rw [feed_resume] at hfeed
    rw [if_neg hexit, Prod.mk.injEq, hfeed] at h
    obtain ⟨rfl, rfl⟩ := h
    split_ifs with hwritten
    · have hclosed := status_closeStdin_withStdout (resume program (input ++ data) false []) out'
      rw [closeStdin_resume] at hclosed
      rw [kill_of_exited (by rw [hclosed]; exact status_resume_closed _ _ _), hclosed]
    -- the write failed although the child was running, so it exited on these bytes
    · have hexited : (resume program (input ++ data) false []).status.isSome := by
        by_contra hno
        exact hwritten (by simp only [withStdout, status] at hno ⊢; simp [hno])
      obtain ⟨code, hcode⟩ := Option.isSome_iff_exists.mp hexited
      have hend := status_resume_of_exited hcode []
      rw [List.append_nil] at hend
      rw [hend]
      have hexited' : ((resume program (input ++ data) false []).withStdout out').status.isSome :=
        hexited
      rw [kill_of_exited hexited']
      exact hcode

end ChildProcess
