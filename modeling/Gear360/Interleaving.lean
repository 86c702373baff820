import Gear360.Interaction

/-! A program whose operations are interleaved with the atomic events of other threads. Assertions
are about the history so far and the shared state, and the other threads must not break them. -/
namespace Interaction

open Prog

variable {Op ι : Type} {Ans : Op → Type} {ε α β σ : Type}

/-- What the other threads may do to the shared state at any time, and what an operation may do to
it and be answered. -/
structure Surroundings (ι : Type) (Ans : Op → Type) (ε σ : Type) where
  event : ι → σ → σ → Prop
  answer : (o : Op) → σ → Except ε (Ans o) → σ → Prop

/-- The events of both sides, in the order in which they happened. -/
abbrev History (ι : Type) (Ans : Op → Type) (ε : Type) : Type := List (ι ⊕ Event Ans ε)

/-- The interleavings of a program, from a state to a result and a state. -/
inductive Interleaved (S : Surroundings ι Ans ε σ) :
    Prog Ans ε α → σ → History ι Ans ε → Except ε α → σ → Prop where
  | ret (a : α) (s : σ) : Interleaved S (.ret a) s [] (.ok a) s
  | raise (e : ε) (s : σ) : Interleaved S (.raise e) s [] (.error e) s
  | event {p : Prog Ans ε α} {i : ι} {s s' s'' : σ} {g : History ι Ans ε} {r : Except ε α}
      (hi : S.event i s s') (h : Interleaved S p s' g r s'') : Interleaved S p s (.inl i :: g) r s''
  | call {o : Op} {k : Except ε (Ans o) → Prog Ans ε α} {x : Except ε (Ans o)} {s s' s'' : σ}
      {g : History ι Ans ε} {r : Except ε α} (ho : S.answer o s x s')
      (h : Interleaved S (k x) s' g r s'') : Interleaved S (.call o k) s (.inr ⟨o, x⟩ :: g) r s''

variable {S : Surroundings ι Ans ε σ}

theorem interleaved_bind {p : Prog Ans ε α} {f : α → Prog Ans ε β} {s s' s'' : σ}
    {g g' : History ι Ans ε} {a : α} {r : Except ε β} (hp : Interleaved S p s g (.ok a) s')
    (hf : Interleaved S (f a) s' g' r s'') : Interleaved S (p >>= f) s (g ++ g') r s'' := by
  generalize hr : (.ok a : Except ε α) = x at hp
  induction hp with
  | ret b s =>
    cases hr
    exact hf
  | raise e s => cases hr
  | event hi _ ih => exact .event hi (ih hf hr)
  | call ho _ ih => exact .call ho (ih hf hr)

/-- Inversion of sequencing, as for runs. -/
theorem interleaved_bind_cases {p : Prog Ans ε α} {f : α → Prog Ans ε β} {s s' : σ}
    {g : History ι Ans ε} {r : Except ε β} (h : Interleaved S (p >>= f) s g r s') :
    (∃ e, Interleaved S p s g (.error e) s' ∧ r = .error e) ∨
      ∃ g₁ a s₁ g₂, Interleaved S p s g₁ (.ok a) s₁ ∧ Interleaved S (f a) s₁ g₂ r s' ∧
        g = g₁ ++ g₂ := by
  generalize hq : p >>= f = q at h
  induction h generalizing p with
  | ret b s =>
    cases p with
    | ret a =>
      have hfa : f a = .ret b := hq
      exact .inr ⟨[], a, s, [], .ret a s, hfa ▸ .ret b s, rfl⟩
    | raise e => cases hq
    | call o k => cases hq
  | raise e s =>
    cases p with
    | ret a =>
      have hfa : f a = .raise e := hq
      exact .inr ⟨[], a, s, [], .ret a s, hfa ▸ .raise e s, rfl⟩
    | raise e' =>
      cases hq
      exact .inl ⟨e, .raise e s, rfl⟩
    | call o k => cases hq
  | event hi _ ih =>
    -- an event before the end of the first program is counted with it
    rcases ih hq with ⟨e, he, hr⟩ | ⟨g₁, a, s₁, g₂, h₁, h₂, rfl⟩
    · exact .inl ⟨e, .event hi he, hr⟩
    · exact .inr ⟨_, a, s₁, g₂, .event hi h₁, h₂, rfl⟩
  | @call o k x s s' s'' g r ho h ih =>
    cases p with
    | ret a =>
      have hfa : f a = .call o k := hq
      exact .inr ⟨[], a, s, _, .ret a s, hfa ▸ .call ho h, rfl⟩
    | raise e => cases hq
    | call o' k' =>
      cases hq
      rcases ih rfl with ⟨e, he, hr⟩ | ⟨g₁, a, s₁, g₂, h₁, h₂, rfl⟩
      · exact .inl ⟨e, .call ho he, hr⟩
      · exact .inr ⟨_, a, s₁, g₂, .call ho h₁, h₂, rfl⟩

theorem interleaved_attempt {p : Prog Ans ε α} {s s' : σ} {g : History ι Ans ε}
    {r : Except ε (Except ε α)} (h : Interleaved S p.attempt s g r s') :
    ∃ x, r = .ok x ∧ Interleaved S p s g x s' := by
  -- on the interleaving; the program is read off its last step
  generalize hq : p.attempt = q at h
  induction h generalizing p with
  | ret b s =>
    cases p with
    | ret a =>
      cases hq
      exact ⟨_, rfl, .ret a s⟩
    | raise e =>
      cases hq
      exact ⟨_, rfl, .raise e s⟩
    | call o k => cases hq
  | raise e s => cases p <;> cases hq
  | event hi _ ih =>
    obtain ⟨x, hx, h⟩ := ih hq
    exact ⟨x, hx, .event hi h⟩
  | call ho _ ih =>
    cases p with
    | ret a => cases hq
    | raise e => cases hq
    | call o' k' =>
      cases hq
      obtain ⟨x, hx, h⟩ := ih rfl
      exact ⟨x, hx, .call ho h⟩

/-- Inversion of `try … except`, as for runs. -/
theorem interleaved_tryExcept_cases {p : Prog Ans ε α} {handler : ε → Prog Ans ε α} {s s' : σ}
    {g : History ι Ans ε} {r : Except ε α} (h : Interleaved S (p.tryExcept handler) s g r s') :
    (∃ a, r = .ok a ∧ Interleaved S p s g (.ok a) s') ∨
      ∃ g₁ e s₁ g₂, Interleaved S p s g₁ (.error e) s₁ ∧
        Interleaved S (handler e) s₁ g₂ r s' ∧ g = g₁ ++ g₂ := by
  -- on the interleaving, by the program that it is one of
  generalize hq : p.tryExcept handler = q at h
  induction h generalizing p with
  | ret b s =>
    cases p with
    | ret a =>
      cases hq
      exact .inl ⟨b, rfl, .ret b s⟩
    | raise e =>
      have he : handler e = .ret b := hq
      exact .inr ⟨[], e, s, [], .raise e s, he ▸ .ret b s, rfl⟩
    | call o k => cases hq
  | raise e' s =>
    cases p with
    | ret a => cases hq
    | raise e =>
      have he : handler e = .raise e' := hq
      exact .inr ⟨[], e, s, [], .raise e s, he ▸ .raise e' s, rfl⟩
    | call o k => cases hq
  -- an event of another thread belongs to the part that is running
  | event hi _ ih =>
    rcases ih hq with ⟨a, hr, h⟩ | ⟨g₁, e, s₁, g₂, h₁, h₂, rfl⟩
    · exact .inl ⟨a, hr, .event hi h⟩
    · exact .inr ⟨_, e, s₁, g₂, .event hi h₁, h₂, rfl⟩
  | @call o k x s s' s'' g r ho h ih =>
    cases p with
    | ret a => cases hq
    | raise e =>
      have he : handler e = .call o k := hq
      exact .inr ⟨[], e, s, _, .raise e s, he ▸ .call ho h, rfl⟩
    | call o' k' =>
      cases hq
      rcases ih rfl with ⟨a, hr, h⟩ | ⟨g₁, e, s₁, g₂, h₁, h₂, rfl⟩
      · exact .inl ⟨a, hr, .call ho h⟩
      · exact .inr ⟨_, e, s₁, g₂, .call ho h₁, h₂, rfl⟩

/-- Without events an interleaving is a run against a handler. -/
theorem interleaved_exec {handler : Handler Ans ε σ}
    (h : ∀ o s, S.answer o s (handler o s).1 (handler o s).2) (p : Prog Ans ε α) (s : σ) :
    Interleaved S p s ((exec handler p s).trace.map .inr) (exec handler p s).result
      (exec handler p s).state := by
  induction p generalizing s with
  | ret a => exact .ret a s
  | raise e => exact .raise e s
  | call o k ih => exact .call (h o s) (ih _ _)

/-- No event of the other threads breaks the assertion. -/
def Stable (S : Surroundings ι Ans ε σ) (P : History ι Ans ε → σ → Prop) : Prop :=
  ∀ h s i s', P h s → S.event i s s' → P (h ++ [.inl i]) s'

/-- From `P`, every interleaving of the program ends in `Q` of its result. -/
structure Establishes (S : Surroundings ι Ans ε σ) (P : History ι Ans ε → σ → Prop)
    (p : Prog Ans ε α) (Q : Except ε α → History ι Ans ε → σ → Prop) : Prop where
  run : ∀ h s g r s', P h s → Interleaved S p s g r s' → Q r (h ++ g) s'

section
variable {P P' : History ι Ans ε → σ → Prop} {Q Q' : Except ε α → History ι Ans ε → σ → Prop}

theorem Establishes.mono {p : Prog Ans ε α} (hp : Establishes S P p Q)
    (hQ : ∀ r h s, Q r h s → Q' r h s) : Establishes S P p Q' :=
  ⟨fun h s g r s' hP hg => hQ r _ _ (hp.run h s g r s' hP hg)⟩

theorem Establishes.strengthen {p : Prog Ans ε α} (hp : Establishes S P p Q)
    (hP : ∀ h s, P' h s → P h s) : Establishes S P' p Q :=
  ⟨fun h s g r s' hP' hg => hp.run h s g r s' (hP h s hP') hg⟩

theorem establishes_ret {a : α} (hstable : Stable S P) (hP : ∀ h s, P h s → Q (.ok a) h s) :
    Establishes S P (.ret a) Q := by
  constructor
  intro h s g r s' hs hg
  generalize hp : (.ret a : Prog Ans ε α) = p at hg
  induction hg generalizing h with
  | ret b s =>
    cases hp
    rw [List.append_nil]
    exact hP h s hs
  | raise e s => cases hp
  | event hi _ ih =>
    rw [List.append_cons]
    exact ih (h ++ [.inl _]) (hstable _ _ _ _ hs hi) hp
  | call ho _ ih => cases hp

theorem establishes_raise {e : ε} (hstable : Stable S P) (hP : ∀ h s, P h s → Q (.error e) h s) :
    Establishes S P (.raise e) Q := by
  constructor
  intro h s g r s' hs hg
  generalize hp : (.raise e : Prog Ans ε α) = p at hg
  induction hg generalizing h with
  | ret b s => cases hp
  | raise e s =>
    cases hp
    rw [List.append_nil]
    exact hP h s hs
  | event hi _ ih =>
    rw [List.append_cons]
    exact ih (h ++ [.inl _]) (hstable _ _ _ _ hs hi) hp
  | call ho _ ih => cases hp

/-- One operation: the events before it keep `P`, its answer makes `Q` of it. -/
theorem establishes_call {o : Op} {k : Except ε (Ans o) → Prog Ans ε α}
    {R : Except ε (Ans o) → History ι Ans ε → σ → Prop} (hstable : Stable S P)
    (hstep : ∀ h s x s', P h s → S.answer o s x s' → R x (h ++ [.inr ⟨o, x⟩]) s')
    (hk : ∀ x, Establishes S (R x) (k x) Q) : Establishes S P (.call o k) Q := by
  constructor
  intro h s g r s' hs hg
  generalize hp : (.call o k : Prog Ans ε α) = p at hg
  induction hg generalizing h with
  | ret b s => cases hp
  | raise e s => cases hp
  | event hi _ ih =>
    rw [List.append_cons]
    exact ih (h ++ [.inl _]) (hstable _ _ _ _ hs hi) hp
  | call ho hg ih =>
    cases hp
    rw [List.append_cons]
    exact (hk _).run _ _ _ _ _ (hstep h _ _ _ hs ho) hg

theorem establishes_perform {o : Op} {R : Except ε (Ans o) → History ι Ans ε → σ → Prop}
    (hstable : Stable S P) (hstable' : ∀ x, Stable S (R x))
    (hstep : ∀ h s x s', P h s → S.answer o s x s' → R x (h ++ [.inr ⟨o, x⟩]) s') :
    Establishes S P (perform o) R := by
  unfold perform
  apply establishes_call hstable hstep
  intro x
  cases x with
  | ok a => exact establishes_ret (hstable' _) fun _ _ h => h
  | error e => exact establishes_raise (hstable' _) fun _ _ h => h

theorem Establishes.bind {p : Prog Ans ε α} {f : α → Prog Ans ε β}
    {N : Except ε β → History ι Ans ε → σ → Prop} (hp : Establishes S P p Q)
    (hf : ∀ a, Establishes S (Q (.ok a)) (f a) N)
    (herr : ∀ e h s, Q (.error e) h s → N (.error e) h s) : Establishes S P (p >>= f) N := by
  constructor
  intro h s g r s' hs hg
  rcases interleaved_bind_cases hg with ⟨e, he, rfl⟩ | ⟨g₁, a, s₁, g₂, h₁, h₂, rfl⟩
  · exact herr e _ _ (hp.run h s g _ s' hs he)
  · rw [← List.append_assoc]
    exact (hf a).run _ _ _ _ _ (hp.run h s g₁ _ s₁ hs h₁) h₂

theorem Establishes.attempt {p : Prog Ans ε α} (hp : Establishes S P p Q)
    {N : Except ε (Except ε α) → History ι Ans ε → σ → Prop}
    (hN : ∀ r h s, Q r h s → N (.ok r) h s) : Establishes S P p.attempt N := by
  constructor
  intro h s g r s' hs hg
  obtain ⟨x, rfl, hx⟩ := interleaved_attempt hg
  exact hN x _ _ (hp.run h s g x s' hs hx)

theorem Establishes.tryExcept {p : Prog Ans ε α} {handler : ε → Prog Ans ε α}
    (hp : Establishes S P p Q) (hok : ∀ a h s, Q (.ok a) h s → Q' (.ok a) h s)
    (hhandler : ∀ e, Establishes S (Q (.error e)) (handler e) Q') :
    Establishes S P (p.tryExcept handler) Q' := by
  constructor
  intro h s g r s' hs hg
  rcases interleaved_tryExcept_cases hg with ⟨a, rfl, ha⟩ | ⟨g₁, e, s₁, g₂, h₁, h₂, rfl⟩
  · exact hok a _ _ (hp.run h s g _ s' hs ha)
  · rw [← List.append_assoc]
    exact (hhandler e).run _ _ _ _ _ (hp.run h s g₁ _ s₁ hs h₁) h₂

end

end Interaction
