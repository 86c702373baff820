import Gear360.Interaction

/-! An onlooker notes the events of a run one by one. What holds of its notes after every run
of a program is computed backwards through the program. -/
namespace Interaction

open Prog

variable {Op : Type} {Ans : Op → Type} {ε α β σ : Type}

/-- `Q` holds of the notes and the result after every run of the program from notes `s`. -/
def wp (note : σ → Event Ans ε → σ) : Prog Ans ε α → (σ → Except ε α → Prop) → σ → Prop
  | .ret a, Q, s => Q s (.ok a)
  | .raise e, Q, s => Q s (.error e)
  | .call o k, Q, s => ∀ x, wp note (k x) Q (note s ⟨o, x⟩)

variable {note : σ → Event Ans ε → σ}

/-- The backward computation says the same as running. -/
theorem wp_iff_run {p : Prog Ans ε α} {Q : σ → Except ε α → Prop} {s : σ} :
    wp note p Q s ↔ ∀ t r, Run p t r → Q (t.foldl note s) r := by
  -- on the program: a run branches where it does
  induction p generalizing s with
  | ret a =>
    constructor
    · intro h t r hr
      obtain ⟨rfl, rfl⟩ := run_ret_iff.mp hr
      exact h
    · intro h
      exact h [] _ (Run.ret a)
  | raise e =>
    constructor
    · intro h t r hr
      obtain ⟨rfl, rfl⟩ := run_raise_iff.mp hr
      exact h
    · intro h
      exact h [] _ (Run.raise e)
  | call o k ih =>
    constructor
    · intro h t r hr
      obtain ⟨x, u, rfl, hx⟩ := run_call_iff.mp hr
      exact (ih x).mp (h x) u r hx
    · intro h x
      apply (ih x).mpr
      intro t r hr
      exact h _ r (Run.call x hr)

theorem wp_run {p : Prog Ans ε α} {Q : σ → Except ε α → Prop} {s : σ} (h : wp note p Q s)
    {t : List (Event Ans ε)} {r : Except ε α} (hr : Run p t r) : Q (t.foldl note s) r :=
  wp_iff_run.mp h t r hr

theorem wp_mono {p : Prog Ans ε α} {Q Q' : σ → Except ε α → Prop} {s : σ} (h : wp note p Q s)
    (hQ : ∀ s r, Q s r → Q' s r) : wp note p Q' s := by
  apply wp_iff_run.mpr
  intro t r hr
  exact hQ _ r (wp_run h hr)

@[simp] theorem wp_fromResult {x : Except ε α} {Q : σ → Except ε α → Prop} {s : σ} :
    wp note (fromResult x) Q s ↔ Q s x := by
  cases x <;> exact Iff.rfl

@[simp] theorem wp_perform {o : Op} {Q : σ → Except ε (Ans o) → Prop} {s : σ} :
    wp note (perform o) Q s ↔ ∀ x, Q (note s ⟨o, x⟩) x := by
  apply forall_congr'
  intro x
  cases x <;> exact Iff.rfl

/-- Sequencing: an exception of the first program ends the run. -/
@[simp] theorem wp_bind {p : Prog Ans ε α} {f : α → Prog Ans ε β} {Q : σ → Except ε β → Prop}
    {s : σ} : wp note (p >>= f) Q s ↔ wp note p (fun s x =>
      match x with
      | .ok a => wp note (f a) Q s
      | .error e => Q s (.error e)) s := by
  induction p generalizing s with
  | ret a => exact Iff.rfl
  | raise e => exact Iff.rfl
  | call o k ih => exact forall_congr' fun x => ih x

@[simp] theorem wp_attempt {p : Prog Ans ε α} {Q : σ → Except ε (Except ε α) → Prop} {s : σ} :
    wp note p.attempt Q s ↔ wp note p (fun s x => Q s (.ok x)) s := by
  induction p generalizing s with
  | ret a => exact Iff.rfl
  | raise e => exact Iff.rfl
  | call o k ih => exact forall_congr' fun x => ih x

/-- The handler takes over where the body raises. -/
@[simp] theorem wp_tryExcept {p : Prog Ans ε α} {handler : ε → Prog Ans ε α}
    {Q : σ → Except ε α → Prop} {s : σ} :
    wp note (tryExcept p handler) Q s ↔ wp note p (fun s x =>
      match x with
      | .ok a => Q s (.ok a)
      | .error e => wp note (handler e) Q s) s := by
  induction p generalizing s with
  | ret a => exact Iff.rfl
  | raise e => exact Iff.rfl
  | call o k ih => exact forall_congr' fun x => ih x

/-- The clean-up runs on every exit, and its own exception wins. -/
@[simp] theorem wp_tryFinally {p : Prog Ans ε α} {fin : Prog Ans ε Unit}
    {Q : σ → Except ε α → Prop} {s : σ} :
    wp note (tryFinally p fin) Q s ↔ wp note p (fun s x => wp note fin (fun s y =>
      match y with
      | .ok () => Q s x
      | .error e => Q s (.error e)) s) s := by
  unfold Prog.tryFinally
  rw [wp_bind, wp_attempt]
  constructor
  · intro h
    apply wp_mono h
    intro s x h
    -- after the clean-up, `fromResult` only hands the result of the body on
    apply wp_mono (wp_bind.mp h)
    intro s y h
    cases y with
    | ok _ => exact wp_fromResult.mp h
    | error e => exact h
  · intro h
    apply wp_mono h
    intro s x h
    apply wp_bind.mpr
    apply wp_mono h
    intro s y h
    cases y with
    | ok _ => exact wp_fromResult.mpr h
    | error e => exact h

/-- A sequence, with what is known in between. -/
theorem wp_seq {p : Prog Ans ε α} {f : α → Prog Ans ε β} {Q : σ → Except ε β → Prop} {s : σ}
    {M : σ → Except ε α → Prop} (hp : wp note p M s) (hok : ∀ s a, M s (.ok a) → wp note (f a) Q s)
    (herr : ∀ s e, M s (.error e) → Q s (.error e)) : wp note (p >>= f) Q s := by
  apply wp_bind.mpr
  apply wp_mono hp
  intro s x h
  cases x with
  | ok a => exact hok s a h
  | error e => exact herr s e h

/-- What every operation of the program keeps holds at the end. -/
theorem wp_invariant {P : Op → Prop} {p : Prog Ans ε α} (h : Performs P p) {I : σ → Prop} {s : σ}
    (hs : I s) (hnote : ∀ s o x, P o → I s → I (note s ⟨o, x⟩)) :
    wp note p (fun s _ => I s) s := by
  apply wp_iff_run.mpr
  intro t r hr
  have hP := h t r hr
  clear hr
  -- along the trace, one note at a time; the run itself is no longer needed
  induction t generalizing s with
  | nil => exact hs
  | cons e t ih =>
    apply ih (hnote s e.1 e.2 (hP e List.mem_cons_self) hs)
    exact fun e he => hP e (List.mem_cons_of_mem _ he)

/-- From notes with `J`, every run leaves notes with `I`. -/
def Leads (note : σ → Event Ans ε → σ) (J I : σ → Prop) (p : Prog Ans ε α) : Prop :=
  ∀ s, J s → wp note p (fun s _ => I s) s

section
variable {J I : σ → Prop}

theorem leads_ret (a : α) : Leads note I I (.ret a : Prog Ans ε α) := fun _ h => h

theorem leads_raise (e : ε) : Leads note I I (.raise e : Prog Ans ε α) := fun _ h => h

theorem leads_fromResult (x : Except ε α) : Leads note I I (fromResult x) :=
  fun _ h => wp_fromResult.mpr h

theorem leads_perform {o : Op} (h : ∀ s x, J s → I (note s ⟨o, x⟩)) :
    Leads note J I (perform o) := by
  intro s hs
  apply wp_perform.mpr
  intro x
  exact h s x hs

theorem Leads.bind {p : Prog Ans ε α} {f : α → Prog Ans ε β} (hp : Leads note J I p)
    (hf : ∀ a, Leads note I I (f a)) : Leads note J I (p >>= f) := by
  intro s hs
  apply wp_seq (hp s hs)
  · intro s a h
    exact hf a s h
  · intro s e h
    exact h

/-- An operation whose answer decides what is known next. -/
theorem leads_perform_bind {o : Op} {f : Ans o → Prog Ans ε β} {K : Ans o → σ → Prop}
    (herr : ∀ s e, J s → I (note s ⟨o, .error e⟩))
    (hok : ∀ s x, J s → K x (note s ⟨o, .ok x⟩)) (hf : ∀ x, Leads note (K x) I (f x)) :
    Leads note J I (perform o >>= f) := by
  intro s hs
  apply wp_bind.mpr
  apply wp_perform.mpr
  intro x
  cases x with
  | ok x => exact hf x _ (hok s x hs)
  | error e => exact herr s e hs

theorem Leads.run {p : Prog Ans ε α} (h : Leads note J I p) {s : σ} (hs : J s)
    {t : List (Event Ans ε)} {r : Except ε α} (hr : Run p t r) : I (t.foldl note s) :=
  wp_run (h s hs) hr

end

end Interaction
