import Mathlib

/-! Programs that talk to an environment one operation at a time. An operation is
answered by a value of its own answer type or by an exception, so a program is a tree
that branches over the answers, and a run is a path from its root to a leaf. -/
namespace Interaction

/-- The events of a run: an operation together with what the environment answered. -/
abbrev Event {Op : Type} (Ans : Op → Type) (ε : Type) : Type := (o : Op) × Except ε (Ans o)

inductive Prog {Op : Type} (Ans : Op → Type) (ε α : Type) : Type where
  | ret (a : α)
  | raise (e : ε)
  | call (o : Op) (k : Except ε (Ans o) → Prog Ans ε α)

section
variable {Op Op' : Type} {Ans : Op → Type} {Ans' : Op' → Type} {ε α β σ : Type}

namespace Prog

def bind : Prog Ans ε α → (α → Prog Ans ε β) → Prog Ans ε β
  | ret a, f => f a
  | raise e, _ => raise e
  | call o k, f => call o (fun x => (k x).bind f)

instance : Monad (Prog Ans ε) where
  pure := ret
  bind := bind

/-- One operation: its answer is returned, its exception propagates. -/
def perform (o : Op) : Prog Ans ε (Ans o) :=
  call o (fun
    | .ok x => ret x
    | .error e => raise e)

def fromResult : Except ε α → Prog Ans ε α
  | .ok a => ret a
  | .error e => raise e

/-- Run a program to its end and hand its result over as a value. -/
def attempt : Prog Ans ε α → Prog Ans ε (Except ε α)
  | ret a => ret (.ok a)
  | raise e => ret (.error e)
  | call o k => call o (fun x => (k x).attempt)

/-- `try: p finally: fin`. The exception of `fin`, if any, replaces the result of `p`. -/
def tryFinally (p : Prog Ans ε α) (fin : Prog Ans ε Unit) : Prog Ans ε α :=
  p.attempt >>= fun r => fin >>= fun _ => fromResult r

/-- `try: p except e: handler e` -/
def tryExcept (p : Prog Ans ε α) (handler : ε → Prog Ans ε α) : Prog Ans ε α :=
  match p with
  | ret a => ret a
  | raise e => handler e
  | call o k => call o (fun x => (k x).tryExcept handler)

/-- Implement every operation by a program over lower operations. -/
def translate (h : (o : Op) → Prog Ans' ε (Ans o)) : Prog Ans ε α → Prog Ans' ε α
  | ret a => ret a
  | raise e => raise e
  | call o k => (h o).attempt >>= fun x => (k x).translate h

theorem pure_eq (a : α) : (pure a : Prog Ans ε α) = ret a := rfl

@[simp] theorem ret_bind (a : α) (f : α → Prog Ans ε β) : (ret a : Prog Ans ε α) >>= f = f a := rfl

@[simp] theorem call_bind (o : Op) (k : Except ε (Ans o) → Prog Ans ε α)
    (f : α → Prog Ans ε β) : call o k >>= f = call o (fun x => k x >>= f) := rfl

theorem bind_ret (p : Prog Ans ε α) : p >>= ret = p := by
  induction p with
  | ret a => rfl
  | raise e => rfl
  | call o k ih => exact congrArg (call o) (funext ih)

theorem bind_bind {γ : Type} (p : Prog Ans ε α) (f : α → Prog Ans ε β)
    (g : β → Prog Ans ε γ) : p >>= f >>= g = p >>= fun a => f a >>= g := by
  induction p with
  | ret a => rfl
  | raise e => rfl
  | call o k ih => exact congrArg (call o) (funext ih)

instance : LawfulMonad (Prog Ans ε) :=
  LawfulMonad.mk' (Prog Ans ε) bind_ret (fun _ _ => rfl) bind_bind

theorem attempt_bind (p : Prog Ans ε α) :
    (p.attempt >>= fun x => fromResult x : Prog Ans ε α) = p := by
  induction p with
  | ret a => rfl
  | raise e => rfl
  -- the continuations agree on every answer
  | call o k ih => exact congrArg (call o) (funext ih)

/-- One operation is its implementation. -/
theorem translate_perform {h : (o : Op) → Prog Ans' ε (Ans o)} (o : Op) :
    (perform o).translate h = h o := by
  refine Eq.trans ?_ (attempt_bind (h o))
  apply congrArg ((h o).attempt >>= ·)
  funext x
  cases x <;> rfl

end Prog

open Prog

inductive Run : Prog Ans ε α → List (Event Ans ε) → Except ε α → Prop where
  | ret (a : α) : Run (.ret a) [] (.ok a)
  | raise (e : ε) : Run (.raise e) [] (.error e)
  | call {o : Op} {k : Except ε (Ans o) → Prog Ans ε α} {t : List (Event Ans ε)}
      {r : Except ε α} (x : Except ε (Ans o)) (h : Run (k x) t r) :
      Run (.call o k) (⟨o, x⟩ :: t) r

@[simp] theorem run_ret_iff {a : α} {t : List (Event Ans ε)} {r : Except ε α} :
    Run (.ret a) t r ↔ t = [] ∧ r = .ok a := by
  constructor
  · rintro ⟨⟩; exact ⟨rfl, rfl⟩
  · rintro ⟨rfl, rfl⟩; exact Run.ret a

@[simp] theorem run_raise_iff {e : ε} {t : List (Event Ans ε)} {r : Except ε α} :
    Run (.raise e) t r ↔ t = [] ∧ r = .error e := by
  constructor
  · rintro ⟨⟩; exact ⟨rfl, rfl⟩
  · rintro ⟨rfl, rfl⟩; exact Run.raise e

theorem run_call_iff {o : Op} {k : Except ε (Ans o) → Prog Ans ε α}
    {t : List (Event Ans ε)} {r : Except ε α} :
    Run (.call o k) t r ↔ ∃ x t', t = ⟨o, x⟩ :: t' ∧ Run (k x) t' r := by
  constructor
  · rintro ⟨⟩
    exact ⟨_, _, rfl, ‹_›⟩
  · rintro ⟨x, t', rfl, h⟩
    exact Run.call x h

/-- The single event of one operation carries the operation's own outcome. -/
theorem run_perform_iff {o : Op} {t : List (Event Ans ε)} {r : Except ε (Ans o)} :
    Run (perform o) t r ↔ t = [⟨o, r⟩] := by
  rw [perform, run_call_iff]
  constructor
  · rintro ⟨x, t', rfl, h⟩
    cases x with
    -- the leaf under the answer is the answer itself
    | ok x => obtain ⟨rfl, rfl⟩ := run_ret_iff.mp h; rfl
    | error e => obtain ⟨rfl, rfl⟩ := run_raise_iff.mp h; rfl
  · rintro rfl
    refine ⟨r, [], rfl, ?_⟩
    cases r with
    | ok x => exact Run.ret x
    | error e => exact Run.raise e

theorem run_bind {p : Prog Ans ε α} {f : α → Prog Ans ε β} {t t' : List (Event Ans ε)}
    {a : α} {r : Except ε β} (hp : Run p t (.ok a)) (hf : Run (f a) t' r) :
    Run (p >>= f) (t ++ t') r := by
  induction p generalizing t with
  | ret b =>
    obtain ⟨rfl, hb⟩ := run_ret_iff.mp hp
    cases hb
    -- the first program is done: the rest is the second one's run
    exact hf
  | raise e => exact absurd (run_raise_iff.mp hp).2 (by simp)
  | call o k ih =>
    obtain ⟨x, u, rfl, hx⟩ := run_call_iff.mp hp
    exact Run.call x (ih x hx)

theorem run_bind_error {p : Prog Ans ε α} (f : α → Prog Ans ε β) {t : List (Event Ans ε)}
    {e : ε} (hp : Run p t (.error e)) : Run (p >>= f) t (.error e) := by
  induction p generalizing t with
  | ret b => exact absurd (run_ret_iff.mp hp).2 (by simp)
  | raise e' =>
    obtain ⟨rfl, he⟩ := run_raise_iff.mp hp
    cases he
    exact Run.raise e
  | call o k ih =>
    obtain ⟨x, u, rfl, hx⟩ := run_call_iff.mp hp
    exact Run.call x (ih x hx)

/-- Inversion of sequencing: the first program raised, or both ran in turn. -/
theorem run_bind_cases {p : Prog Ans ε α} {f : α → Prog Ans ε β} {t : List (Event Ans ε)}
    {r : Except ε β} (h : Run (p >>= f) t r) :
    (∃ e, Run p t (.error e) ∧ r = .error e) ∨
      ∃ t₁ a t₂, Run p t₁ (.ok a) ∧ Run (f a) t₂ r ∧ t = t₁ ++ t₂ := by
  induction p generalizing t with
  | ret a => exact Or.inr ⟨[], a, t, Run.ret a, h, rfl⟩
  | raise e =>
    obtain ⟨rfl, rfl⟩ := run_raise_iff.mp h
    exact Or.inl ⟨e, Run.raise e, rfl⟩
  | call o k ih =>
    obtain ⟨x, u, rfl, hx⟩ := run_call_iff.mp h
    -- the event belongs to the first program, so it goes in front of its trace
    rcases ih x hx with ⟨e, he, hr⟩ | ⟨t₁, a, t₂, h₁, h₂, rfl⟩
    · exact Or.inl ⟨e, Run.call x he, hr⟩
    · exact Or.inr ⟨⟨o, x⟩ :: t₁, a, t₂, Run.call x h₁, h₂, rfl⟩

theorem run_fromResult_iff {x : Except ε α} {t : List (Event Ans ε)} {r : Except ε α} :
    Run (fromResult x) t r ↔ t = [] ∧ r = x := by
  cases x with
  | ok a => exact run_ret_iff
  | error e => exact run_raise_iff

/-- A computed value is there at once, or nothing happens and its exception ends the run. -/
theorem run_fromResult_bind_cases {x : Except ε α} {f : α → Prog Ans ε β}
    {t : List (Event Ans ε)} {r : Except ε β} (h : Run (fromResult x >>= f) t r) :
    (∃ e, x = .error e ∧ t = [] ∧ r = .error e) ∨ ∃ a, x = .ok a ∧ Run (f a) t r := by
  cases x with
  | ok a => exact Or.inr ⟨a, rfl, h⟩
  | error e => exact Or.inl ⟨e, rfl, run_raise_iff.mp h⟩

/-- An operation that was answered, and what came after it. -/
theorem run_answered {o : Op} {f : Ans o → Prog Ans ε β} {t : List (Event Ans ε)}
    {r : Except ε β} (h : Run (perform o >>= f) t r) (hok : ∀ e ∈ t, e.2.isOk = true) :
    ∃ x u, t = ⟨o, .ok x⟩ :: u ∧ Run (f x) u r ∧ ∀ e ∈ u, e.2.isOk = true := by
  rcases run_bind_cases h with ⟨e, he, -⟩ | ⟨t₁, x, u, h₁, h₂, rfl⟩
  · have hevent := run_perform_iff.mp he
    rw [hevent] at hok
    have hraised := hok _ (List.mem_singleton_self _)
    cases hraised
  · rw [run_perform_iff.mp h₁, List.singleton_append] at hok ⊢
    exact ⟨x, u, rfl, h₂, fun e he => hok e (List.mem_cons_of_mem _ he)⟩

theorem run_attempt_iff {p : Prog Ans ε α} {t : List (Event Ans ε)}
    {r : Except ε (Except ε α)} :
    Run p.attempt t r ↔ ∃ x, r = .ok x ∧ Run p t x := by
  induction p generalizing t with
  | ret a => simp only [attempt, run_ret_iff]; grind
  | raise e => simp only [attempt, run_ret_iff, run_raise_iff]; grind
  | call o k ih => simp only [attempt, run_call_iff, ih]; grind

/-- Inversion of `try … except`: the body returned, or the handler took over where it raised. -/
theorem run_tryExcept_cases {p : Prog Ans ε α} {handler : ε → Prog Ans ε α}
    {t : List (Event Ans ε)} {r : Except ε α} (h : Run (p.tryExcept handler) t r) :
    (∃ a, r = .ok a ∧ Run p t (.ok a)) ∨
      ∃ e t₁ t₂, t = t₁ ++ t₂ ∧ Run p t₁ (.error e) ∧ Run (handler e) t₂ r := by
  induction p generalizing t with
  | ret a =>
    obtain ⟨rfl, rfl⟩ := run_ret_iff.mp h
    exact Or.inl ⟨a, rfl, Run.ret a⟩
  | raise e => exact Or.inr ⟨e, [], t, rfl, Run.raise e, h⟩
  | call o k ih =>
    obtain ⟨x, u, rfl, hx⟩ := run_call_iff.mp h
    -- what the handler does comes after everything the body did
    rcases ih x hx with ⟨a, ha, hu⟩ | ⟨e, t₁, t₂, rfl, h₁, h₂⟩
    · exact Or.inl ⟨a, ha, Run.call x hu⟩
    · exact Or.inr ⟨e, ⟨o, x⟩ :: t₁, t₂, rfl, Run.call x h₁, h₂⟩

/-- Inversion of `try … finally`: the clean-up runs after the body, and its own exception wins. -/
theorem run_tryFinally_cases {p : Prog Ans ε α} {fin : Prog Ans ε Unit} {t : List (Event Ans ε)}
    {r : Except ε α} (h : Run (p.tryFinally fin) t r) :
    ∃ u v x y, t = u ++ v ∧ Run p u x ∧ Run fin v y ∧ r = y.bind fun _ => x := by
  rcases run_bind_cases h with ⟨e, he, -⟩ | ⟨u, x, v, hu, hv, rfl⟩
  · obtain ⟨x, hx, -⟩ := run_attempt_iff.mp he
    cases hx
  · obtain ⟨x', hx, hp⟩ := run_attempt_iff.mp hu
    cases hx
    rcases run_bind_cases hv with ⟨e, he, rfl⟩ | ⟨v, y, w, hfin, hw, rfl⟩
    · exact ⟨u, v, x, .error e, rfl, hp, he, rfl⟩
    · obtain ⟨rfl, rfl⟩ := run_fromResult_iff.mp hw
      exact ⟨u, v, r, .ok y, by rw [List.append_nil], hp, hfin, rfl⟩

/-- Every run of `p` ends with a trace and a result related by `Q`. -/
def Ensures (p : Prog Ans ε α) (Q : List (Event Ans ε) → Except ε α → Prop) : Prop :=
  ∀ t r, Run p t r → Q t r

theorem Ensures.mono {p : Prog Ans ε α} {Q Q' : List (Event Ans ε) → Except ε α → Prop}
    (h : Ensures p Q) (hQ : ∀ t r, Q t r → Q' t r) : Ensures p Q' :=
  fun t r hr => hQ t r (h t r hr)

theorem ensures_ret {a : α} {Q : List (Event Ans ε) → Except ε α → Prop}
    (h : Q [] (.ok a)) : Ensures (.ret a) Q := by
  intro t r hr
  obtain ⟨rfl, rfl⟩ := run_ret_iff.mp hr
  exact h

theorem ensures_raise {e : ε} {Q : List (Event Ans ε) → Except ε α → Prop}
    (h : Q [] (.error e)) : Ensures (.raise e) Q := by
  intro t r hr
  obtain ⟨rfl, rfl⟩ := run_raise_iff.mp hr
  exact h

theorem ensures_perform {o : Op} {Q : List (Event Ans ε) → Except ε (Ans o) → Prop}
    (h : ∀ x, Q [⟨o, x⟩] x) : Ensures (perform o) Q := by
  intro t r hr
  rw [run_perform_iff.mp hr]
  exact h r

theorem ensures_bind {p : Prog Ans ε α} {f : α → Prog Ans ε β}
    {Q : List (Event Ans ε) → Except ε β → Prop}
    (herr : ∀ t e, Run p t (.error e) → Q t (.error e))
    (hok : ∀ t a, Run p t (.ok a) → Ensures (f a) (fun t' r => Q (t ++ t') r)) :
    Ensures (p >>= f) Q := by
  intro t r hr
  rcases run_bind_cases hr with ⟨e, he, rfl⟩ | ⟨t₁, a, t₂, h₁, h₂, rfl⟩
  · exact herr t e he
  · exact hok t₁ a h₁ t₂ r h₂

/-- Only operations satisfying `P` are ever performed. -/
def Performs (P : Op → Prop) (p : Prog Ans ε α) : Prop :=
  Ensures p (fun t _ => ∀ e ∈ t, P e.1)

theorem performs_ret (P : Op → Prop) (a : α) : Performs P (.ret a : Prog Ans ε α) :=
  ensures_ret (by simp)

theorem performs_raise (P : Op → Prop) (e : ε) : Performs P (.raise e : Prog Ans ε α) :=
  ensures_raise (by simp)

theorem performs_perform {P : Op → Prop} {o : Op} (h : P o) :
    Performs P (perform o : Prog Ans ε (Ans o)) :=
  ensures_perform (fun _ => by simpa using h)

theorem performs_bind {P : Op → Prop} {p : Prog Ans ε α} {f : α → Prog Ans ε β}
    (hp : Performs P p) (hf : ∀ a, Performs P (f a)) : Performs P (p >>= f) := by
  apply ensures_bind
  · exact fun t e ht => hp t _ ht
  · intro t a ht t' r ht'
    simp only [List.mem_append]
    rintro e (he | he)
    · exact hp t _ ht e he
    · exact hf a t' r ht' e he

theorem Performs.mono {P P' : Op → Prop} {p : Prog Ans ε α} (h : Performs P p)
    (hP : ∀ o, P o → P' o) : Performs P' p :=
  Ensures.mono h (fun _ _ ht e he => hP _ (ht e he))

theorem performs_fromResult (P : Op → Prop) (x : Except ε α) :
    Performs P (fromResult x : Prog Ans ε α) := by
  cases x with
  | ok a => exact performs_ret P a
  | error e => exact performs_raise P e

theorem performs_tryExcept {P : Op → Prop} {p : Prog Ans ε α} {handler : ε → Prog Ans ε α}
    (hp : Performs P p) (hh : ∀ e, Performs P (handler e)) : Performs P (p.tryExcept handler) := by
  intro t r hr
  rcases run_tryExcept_cases hr with ⟨a, -, h⟩ | ⟨e, t₁, t₂, rfl, h₁, h₂⟩
  · exact hp t _ h
  · intro e' he'
    rcases List.mem_append.mp he' with he' | he'
    · exact hp t₁ _ h₁ e' he'
    · exact hh e t₂ r h₂ e' he'

theorem performs_attempt {P : Op → Prop} {p : Prog Ans ε α} (hp : Performs P p) :
    Performs P p.attempt := by
  intro t r hr
  obtain ⟨x, -, h⟩ := run_attempt_iff.mp hr
  exact hp t x h

theorem performs_tryFinally {P : Op → Prop} {p : Prog Ans ε α} {fin : Prog Ans ε Unit}
    (hp : Performs P p) (hfin : Performs P fin) : Performs P (p.tryFinally fin) :=
  performs_bind (performs_attempt hp) fun _ =>
    performs_bind hfin fun _ => performs_fromResult P _

/-- Only operations satisfying `P` are performed, and the exception of one ends the run. -/
def Propagates (P : Op → Prop) (p : Prog Ans ε α) : Prop :=
  Ensures p (fun t r => (∀ e ∈ t, P e.1) ∧ ((∃ a, r = .ok a) → ∀ e ∈ t, e.2.isOk = true))

theorem Propagates.performs {P : Op → Prop} {p : Prog Ans ε α} (h : Propagates P p) :
    Performs P p := Ensures.mono h (fun _ _ ht => ht.1)

theorem propagates_ret (P : Op → Prop) (a : α) : Propagates P (.ret a : Prog Ans ε α) :=
  ensures_ret (by simp)

theorem propagates_fromResult (P : Op → Prop) (x : Except ε α) :
    Propagates P (fromResult x : Prog Ans ε α) := by
  intro t r h
  rw [(run_fromResult_iff.mp h).1]
  simp

theorem propagates_perform {P : Op → Prop} {o : Op} (h : P o) :
    Propagates P (perform o : Prog Ans ε (Ans o)) := by
  apply ensures_perform
  intro x
  refine ⟨by simpa using h, ?_⟩
  rintro ⟨a, rfl⟩
  exact List.forall_mem_singleton.mpr rfl

theorem propagates_bind {P : Op → Prop} {p : Prog Ans ε α} {f : α → Prog Ans ε β}
    (hp : Propagates P p) (hf : ∀ a, Propagates P (f a)) : Propagates P (p >>= f) := by
  apply ensures_bind
  · intro t e ht
    refine ⟨(hp t _ ht).1, ?_⟩
    rintro ⟨b, hb⟩
    cases hb
  · intro t a ht t' r ht'
    obtain ⟨hP, hok⟩ := hp t _ ht
    obtain ⟨hP', hok'⟩ := hf a t' r ht'
    refine ⟨List.forall_mem_append.mpr ⟨hP, hP'⟩, fun hr => ?_⟩
    exact List.forall_mem_append.mpr ⟨hok ⟨a, rfl⟩, hok' hr⟩

/-- An environment answers each operation from its own state. -/
abbrev Handler (Ans : Op → Type) (ε σ : Type) : Type := (o : Op) → σ → Except ε (Ans o) × σ

structure Outcome (Ans : Op → Type) (ε σ α : Type) where
  trace : List (Event Ans ε)
  result : Except ε α
  state : σ

/-- Run a program against an environment that starts in the given state. -/
def exec (h : Handler Ans ε σ) : Prog Ans ε α → σ → Outcome Ans ε σ α
  | .ret a, s => ⟨[], .ok a, s⟩
  | .raise e, s => ⟨[], .error e, s⟩
  | .call o k, s =>
    let out := exec h (k (h o s).1) (h o s).2
    ⟨⟨o, (h o s).1⟩ :: out.trace, out.result, out.state⟩

@[simp] theorem exec_ret (h : Handler Ans ε σ) (a : α) (s : σ) :
    exec h (.ret a) s = ⟨[], .ok a, s⟩ := rfl

@[simp] theorem exec_perform (h : Handler Ans ε σ) (o : Op) (s : σ) :
    exec h (perform o) s = ⟨[⟨o, (h o s).1⟩], (h o s).1, (h o s).2⟩ := by
  simp only [perform, exec]
  cases (h o s).1 <;> rfl

theorem exec_bind_ok {h : Handler Ans ε σ} {p : Prog Ans ε α} {f : α → Prog Ans ε β}
    {s s' : σ} {t : List (Event Ans ε)} {a : α} (hp : exec h p s = ⟨t, .ok a, s'⟩) :
    exec h (p >>= f) s = ⟨t ++ (exec h (f a) s').trace, (exec h (f a) s').result,
      (exec h (f a) s').state⟩ := by
  induction p generalizing s t with
  | ret b => cases hp; rfl
  | raise e => cases hp
  | call o k ih =>
    simp only [exec, Outcome.mk.injEq] at hp
    obtain ⟨rfl, hr, hs⟩ := hp
    -- the first answer aside, the rest of the first program ends in the same state
    have hk : exec h (k (h o s).1) (h o s).2 =
        ⟨(exec h (k (h o s).1) (h o s).2).trace, .ok a, s'⟩ := by rw [← hr, ← hs]
    simp only [call_bind, exec, ih _ hk, List.cons_append]

theorem exec_bind {h : Handler Ans ε σ} {p : Prog Ans ε α} {f : α → Prog Ans ε β}
    {s s' : σ} {t : List (Event Ans ε)} {a : α} {out : Outcome Ans ε σ β}
    (hp : exec h p s = ⟨t, .ok a, s'⟩) (hf : exec h (f a) s' = out) :
    exec h (p >>= f) s = ⟨t ++ out.trace, out.result, out.state⟩ := by
  rw [exec_bind_ok hp, hf]

theorem exec_bind_error {h : Handler Ans ε σ} {p : Prog Ans ε α} (f : α → Prog Ans ε β)
    {s s' : σ} {t : List (Event Ans ε)} {e : ε} (hp : exec h p s = ⟨t, .error e, s'⟩) :
    exec h (p >>= f) s = ⟨t, .error e, s'⟩ := by
  induction p generalizing s t with
  | ret b => cases hp
  | raise e' => cases hp; rfl
  | call o k ih =>
    simp only [exec, Outcome.mk.injEq] at hp
    obtain ⟨rfl, hr, hs⟩ := hp
    have hk : exec h (k (h o s).1) (h o s).2 =
        ⟨(exec h (k (h o s).1) (h o s).2).trace, .error e, s'⟩ := by rw [← hr, ← hs]
    simp only [call_bind, exec, ih _ hk]

theorem exec_tryExcept_ok {h : Handler Ans ε σ} {p : Prog Ans ε α}
    (handler : ε → Prog Ans ε α) {s s' : σ} {t : List (Event Ans ε)} {a : α}
    (hp : exec h p s = ⟨t, .ok a, s'⟩) : exec h (p.tryExcept handler) s = ⟨t, .ok a, s'⟩ := by
  induction p generalizing s t with
  | ret b => exact hp
  | raise e => cases hp
  | call o k ih =>
    simp only [exec, Outcome.mk.injEq] at hp
    obtain ⟨rfl, hr, hs⟩ := hp
    have hk : exec h (k (h o s).1) (h o s).2 =
        ⟨(exec h (k (h o s).1) (h o s).2).trace, .ok a, s'⟩ := by rw [← hr, ← hs]
    simp only [tryExcept, exec, ih _ hk]

@[simp] theorem exec_attempt (h : Handler Ans ε σ) (p : Prog Ans ε α) (s : σ) :
    exec h p.attempt s = ⟨(exec h p s).trace, .ok (exec h p s).result, (exec h p s).state⟩ := by
  induction p generalizing s with
  | ret a => rfl
  | raise e => rfl
  | call o k ih => simp only [attempt, exec, ih]

/-- What an environment makes of a program is one of the program's runs. -/
theorem exec_run (h : Handler Ans ε σ) (p : Prog Ans ε α) (s : σ) :
    Run p (exec h p s).trace (exec h p s).result := by
  induction p generalizing s with
  | ret a => exact Run.ret a
  | raise e => exact Run.raise e
  | call o k ih => exact Run.call _ (ih _ _)

/-- The lower trace `t'` implements the upper trace `t`: each upper event is a run of
its implementation with the same outcome. -/
inductive Implements (h : (o : Op) → Prog Ans' ε (Ans o)) :
    List (Event Ans ε) → List (Event Ans' ε) → Prop where
  | nil : Implements h [] []
  | cons {o : Op} {x : Except ε (Ans o)} {u : List (Event Ans' ε)}
      {t : List (Event Ans ε)} {t' : List (Event Ans' ε)}
      (hx : Run (h o) u x) (ht : Implements h t t') : Implements h (⟨o, x⟩ :: t) (u ++ t')

/-- Every run of the lowered program implements a run of the upper one, with the same
result: what holds of all upper runs holds below. -/
theorem run_translate {h : (o : Op) → Prog Ans' ε (Ans o)} {p : Prog Ans ε α}
    {t' : List (Event Ans' ε)} {r : Except ε α} (hr : Run (p.translate h) t' r) :
    ∃ t, Run p t r ∧ Implements h t t' := by
  induction p generalizing t' with
  | ret a =>
    obtain ⟨rfl, rfl⟩ := run_ret_iff.mp hr
    exact ⟨[], Run.ret a, Implements.nil⟩
  | raise e =>
    obtain ⟨rfl, rfl⟩ := run_raise_iff.mp hr
    exact ⟨[], Run.raise e, Implements.nil⟩
  | call o k ih =>
    rcases run_bind_cases hr with ⟨e, he, -⟩ | ⟨u, x, v, hu, hv, rfl⟩
    · obtain ⟨x, hx, -⟩ := run_attempt_iff.mp he
      cases hx
    -- `attempt` makes the implementation's exception the operation's answer
    · obtain ⟨y, hy, ho⟩ := run_attempt_iff.mp hu
      cases hy
      obtain ⟨t, ht, hi⟩ := ih x hv
      exact ⟨⟨o, x⟩ :: t, Run.call x ht, Implements.cons ho hi⟩

/-- What is visible of each operation is visible of the whole run. -/
theorem Implements.filterMap_eq {ω : Type} {h : (o : Op) → Prog Ans' ε (Ans o)}
    {upper : Event Ans ε → Option ω} {lower : Event Ans' ε → Option ω}
    (hview : ∀ o x u, Run (h o) u x → u.filterMap lower = (upper ⟨o, x⟩).toList)
    {t : List (Event Ans ε)} {t' : List (Event Ans' ε)} (hi : Implements h t t') :
    t'.filterMap lower = t.filterMap upper := by
  induction hi with
  | nil => rfl
  | @cons o x u t t' hx ht ih =>
    rw [List.filterMap_append, ih, hview o x u hx, List.filterMap_cons]
    cases upper ⟨o, x⟩ <;> rfl

/-- Nothing is visible of a run whose operations are invisible. -/
theorem Performs.filterMap_eq_nil {ω : Type} {p : Prog Ans ε α}
    {view : Event Ans ε → Option ω} (hp : Performs (fun o => ∀ x, view ⟨o, x⟩ = none) p)
    {t : List (Event Ans ε)} {r : Except ε α} (hr : Run p t r) : t.filterMap view = [] :=
  List.filterMap_eq_nil_iff.mpr fun e he => hp t r hr e he e.2

end

end Interaction
