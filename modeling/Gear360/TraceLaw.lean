import Gear360.Interaction

/-! A law on the visible part of every run: a run succeeds and obeys the law when all its events
are good, and raises otherwise. -/
namespace Interaction

open Prog

variable {Op : Type} {Ans : Op → Type} {ε α β ω : Type}

/-- What is visible of an event, which events are considered, and which of them are good. -/
structure Watch (Ans : Op → Type) (ε ω : Type) where
  view : Event Ans ε → Option ω
  domain : Event Ans ε → Prop
  good : Event Ans ε → Prop

/-- Runs with considered events only: they succeed exactly if `φ` holds and every event is good,
and then `L` relates what is visible to the result. -/
def Conforms (W : Watch Ans ε ω) (φ : Prop) (p : Prog Ans ε α) (L : List ω → α → Prop) : Prop :=
  ∀ t r, Run p t r → (∀ e ∈ t, W.domain e) →
    (∃ a, r = .ok a ∧ φ ∧ (∀ e ∈ t, W.good e) ∧ L (t.filterMap W.view) a) ∨
      ((∃ e, r = .error e) ∧ ¬(φ ∧ ∀ e ∈ t, W.good e))

variable {W : Watch Ans ε ω} {φ : Prop}

theorem conforms_ret {a : α} {L : List ω → α → Prop} (h : L [] a) :
    Conforms W True (.ret a : Prog Ans ε α) L := by
  intro t r hr _
  obtain ⟨rfl, rfl⟩ := run_ret_iff.mp hr
  exact .inl ⟨a, rfl, trivial, List.forall_mem_nil _, h⟩

theorem conforms_raise {e : ε} {L : List ω → α → Prop} (h : ¬φ) :
    Conforms W φ (.raise e : Prog Ans ε α) L := by
  intro t r hr _
  obtain ⟨-, rfl⟩ := run_raise_iff.mp hr
  exact .inr ⟨⟨e, rfl⟩, fun hφ => h hφ.1⟩

/-- A condition that holds anyway is no condition. -/
theorem Conforms.of_true {p : Prog Ans ε α} {L : List ω → α → Prop} (h : Conforms W True p L)
    (hφ : φ) : Conforms W φ p L := by
  intro t r hr ht
  rcases h t r hr ht with ⟨a, ha, -, hgood, hL⟩ | ⟨he, hgood⟩
  · exact .inl ⟨a, ha, hφ, hgood, hL⟩
  · exact .inr ⟨he, fun h => hgood ⟨trivial, h.2⟩⟩

theorem Conforms.mono {p : Prog Ans ε α} {L L' : List ω → α → Prop} (h : Conforms W φ p L)
    (hL : ∀ w a, L w a → L' w a) : Conforms W φ p L' := by
  intro t r hr ht
  rcases h t r hr ht with ⟨a, ha, hφ, hgood, h⟩ | h
  · exact .inl ⟨a, ha, hφ, hgood, hL _ _ h⟩
  · exact .inr h

/-- Sequencing: the second program continues what the first one left visible. -/
theorem Conforms.bind {p : Prog Ans ε α} {f : α → Prog Ans ε β} {L : List ω → α → Prop}
    {N : List ω → β → Prop} (hp : Conforms W φ p L)
    (hf : ∀ w a, L w a → Conforms W True (f a) (fun w' b => N (w ++ w') b)) :
    Conforms W φ (p >>= f) N := by
  intro t r hr ht
  rcases run_bind_cases hr with ⟨e, he, rfl⟩ | ⟨t₁, a, t₂, h₁, h₂, rfl⟩
  · rcases hp t _ he ht with ⟨a, ha, -⟩ | h
    · cases ha
    · exact .inr ⟨⟨e, rfl⟩, h.2⟩
  -- each part's events are considered because the whole trace's are
  · have ht₁ : ∀ e ∈ t₁, W.domain e := fun e he => ht e (List.mem_append_left _ he)
    have ht₂ : ∀ e ∈ t₂, W.domain e := fun e he => ht e (List.mem_append_right _ he)
    rcases hp t₁ _ h₁ ht₁ with ⟨a', ha, hφ, hgood₁, hL⟩ | ⟨⟨e, he⟩, -⟩
    · cases ha
      rcases hf _ a hL t₂ r h₂ ht₂ with ⟨b, hb, -, hgood₂, hN⟩ | ⟨he, hbad⟩
      · refine .inl ⟨b, hb, hφ, ?_, ?_⟩
        · intro e he
          exact (List.mem_append.mp he).elim (hgood₁ e) (hgood₂ e)
        · rw [List.filterMap_append]
          exact hN
      · refine .inr ⟨he, fun h => hbad ⟨trivial, fun e he => ?_⟩⟩
        exact h.2 e (List.mem_append_right _ he)
    · cases he

/-- One operation, and a program whose success may depend on the answer. -/
theorem conforms_perform_bind {o : Op} {f : Ans o → Prog Ans ε β} {N : List ω → β → Prop}
    (hbad : ∀ e, ¬W.good ⟨o, .error e⟩)
    (hf : ∀ x, W.domain ⟨o, .ok x⟩ → Conforms W (W.good ⟨o, .ok x⟩) (f x)
      (fun w b => N ((W.view ⟨o, .ok x⟩).toList ++ w) b)) :
    Conforms W True (perform o >>= f) N := by
  intro t r hr ht
  rcases run_bind_cases hr with ⟨e, he, rfl⟩ | ⟨t₁, x, t₂, h₁, h₂, rfl⟩
  · have hevent := run_perform_iff.mp he
    refine .inr ⟨⟨e, rfl⟩, fun h => hbad e (h.2 _ ?_)⟩
    rw [hevent]
    exact List.mem_cons_self
  -- the trace of one operation is its event
  · rw [run_perform_iff.mp h₁, List.singleton_append] at ht ⊢
    have ht₂ : ∀ e ∈ t₂, W.domain e := fun e he => ht e (List.mem_cons_of_mem _ he)
    rcases hf x (ht _ List.mem_cons_self) t₂ r h₂ ht₂ with ⟨b, hb, hgood, hgood₂, hN⟩ | ⟨he, hbad⟩
    · refine .inl ⟨b, hb, trivial, ?_, ?_⟩
      · intro e he
        rcases List.mem_cons.mp he with rfl | he
        · exact hgood
        · exact hgood₂ e he
      · rw [List.filterMap_cons]
        cases hview : W.view ⟨o, .ok x⟩ with
        | none => rwa [hview] at hN
        | some v => rwa [hview] at hN
    · refine .inr ⟨he, fun h => hbad ⟨h.2 _ List.mem_cons_self, fun e he => ?_⟩⟩
      exact h.2 e (List.mem_cons_of_mem _ he)

/-- An operation on its own. -/
theorem conforms_perform {o : Op} {L : List ω → Ans o → Prop} (hbad : ∀ e, ¬W.good ⟨o, .error e⟩)
    (hgood : ∀ x, W.good ⟨o, .ok x⟩) (hL : ∀ x, L (W.view ⟨o, .ok x⟩).toList x) :
    Conforms W True (perform o) L := by
  have h : Conforms W True (perform o >>= Prog.ret) L := by
    apply conforms_perform_bind hbad
    intro x _
    apply Conforms.of_true _ (hgood x)
    apply conforms_ret
    rw [List.append_nil]
    exact hL x
  rwa [bind_ret] at h

/-- Every run that returns relates what is visible of it to its result. -/
structure Yields (view : Event Ans ε → Option ω) (p : Prog Ans ε α) (L : List ω → α → Prop) :
    Prop where
  run : ∀ t a, Run p t (.ok a) → L (t.filterMap view) a

section
variable {view : Event Ans ε → Option ω}

theorem Yields.mono {p : Prog Ans ε α} {L L' : List ω → α → Prop} (h : Yields view p L)
    (hL : ∀ w a, L w a → L' w a) : Yields view p L' :=
  ⟨fun t a hr => hL _ _ (h.run t a hr)⟩

theorem yields_ret {a : α} {L : List ω → α → Prop} (h : L [] a) :
    Yields view (.ret a : Prog Ans ε α) L := by
  constructor
  intro t b hr
  obtain ⟨rfl, hb⟩ := run_ret_iff.mp hr
  cases hb
  exact h

theorem yields_perform {o : Op} {L : List ω → Ans o → Prop}
    (h : ∀ x, L (view ⟨o, .ok x⟩).toList x) : Yields view (perform o) L := by
  constructor
  intro t x hr
  rw [run_perform_iff.mp hr, List.filterMap_cons]
  have hx := h x
  cases hview : view ⟨o, .ok x⟩ <;> rwa [hview] at hx

theorem yields_fromResult {x : Except ε α} {L : List ω → α → Prop} (h : ∀ a, x = .ok a → L [] a) :
    Yields view (fromResult x) L := by
  constructor
  intro t a hr
  obtain ⟨rfl, ha⟩ := run_fromResult_iff.mp hr
  exact h a ha.symm

theorem Yields.bind {p : Prog Ans ε α} {f : α → Prog Ans ε β} {L : List ω → α → Prop}
    {N : List ω → β → Prop} (hp : Yields view p L)
    (hf : ∀ w a, L w a → Yields view (f a) (fun w' b => N (w ++ w') b)) :
    Yields view (p >>= f) N := by
  constructor
  intro t b hr
  rcases run_bind_cases hr with ⟨e, -, he⟩ | ⟨t₁, a, t₂, h₁, h₂, rfl⟩
  · cases he
  · rw [List.filterMap_append]
    exact (hf _ a (hp.run t₁ a h₁)).run t₂ b h₂

theorem yields_true (p : Prog Ans ε α) : Yields view p fun _ _ => True := ⟨fun _ _ _ => trivial⟩

/-- A computed value is there without anything becoming visible. -/
theorem yields_fromResult_bind {x : Except ε α} {f : α → Prog Ans ε β} {N : List ω → β → Prop}
    (hf : ∀ a, x = .ok a → Yields view (f a) N) : Yields view (fromResult x >>= f) N := by
  constructor
  intro t b hr
  rcases run_fromResult_bind_cases hr with ⟨e, -, -, he⟩ | ⟨a, ha, hr⟩
  · cases he
  · exact (hf a ha).run t b hr

end

/-- The inputs of a loop of `n` turns that ends early at the first input with `stop`. -/
def StopsAt (stop : ω → Prop) (n : ℕ) (inputs : List ω) : Prop :=
  inputs.length ≤ n ∧ (∀ x ∈ inputs.dropLast, ¬stop x) ∧
    (inputs.length = n ∨ ∃ x ∈ inputs.getLast?, stop x)

section
variable {stop : ω → Prop} {n : ℕ} {x : ω} {inputs : List ω}

theorem stopsAt_zero : StopsAt stop 0 [] := ⟨le_refl 0, List.forall_mem_nil _, .inl rfl⟩

theorem stopsAt_stop (h : stop x) : StopsAt stop (n+1) [x] :=
  ⟨Nat.le_add_left 1 n, List.forall_mem_nil _, .inr ⟨x, rfl, h⟩⟩

theorem StopsAt.cons (hx : ¬stop x) (h : StopsAt stop n inputs) :
    StopsAt stop (n+1) (x :: inputs) := by
  obtain ⟨hle, hinit, hlast⟩ := h
  refine ⟨Nat.succ_le_succ hle, ?_, ?_⟩
  · cases inputs with
    | nil => exact List.forall_mem_nil _
    | cons y inputs =>
      intro z hz
      rw [List.dropLast_cons_of_ne_nil (List.cons_ne_nil y inputs)] at hz
      rcases List.mem_cons.mp hz with rfl | hz
      · exact hx
      · exact hinit z hz
  · rcases hlast with hlen | ⟨y, hy, hstop⟩
    · exact .inl (congrArg (· + 1) hlen)
    · refine .inr ⟨y, ?_, hstop⟩
      cases inputs with
      | nil => cases hy
      | cons z inputs => exact hy

/-- The loop used up its turns, or its last input is the first one with `stop`. -/
theorem StopsAt.cases (h : StopsAt stop n inputs) :
    inputs.length = n ∧ (∀ x ∈ inputs, ¬stop x) ∨
      ∃ front x, inputs = front ++ [x] ∧ stop x ∧ ∀ y ∈ front, ¬stop y := by
  obtain ⟨-, hinit, hlast⟩ := h
  -- by the last input
  rcases List.eq_nil_or_concat inputs with rfl | ⟨front, x, hinputs⟩
  · rcases hlast with hlen | ⟨x, hx, -⟩
    · exact .inl ⟨hlen, List.forall_mem_nil _⟩
    · cases hx
  · rw [List.concat_eq_append] at hinputs
    subst hinputs
    rw [List.dropLast_concat] at hinit
    by_cases hx : stop x
    · exact .inr ⟨front, x, rfl, hx, hinit⟩
    · rcases hlast with hlen | ⟨y, hy, hstop⟩
      · refine .inl ⟨hlen, fun y hy => ?_⟩
        rcases List.mem_append.mp hy with hy | hy
        · exact hinit y hy
        · rwa [List.mem_singleton.mp hy]
      · rw [List.getLast?_concat, Option.mem_some_iff] at hy
        exact absurd (hy ▸ hstop) hx

/-- Only the last input can have `stop`. -/
theorem StopsAt.unique (h : StopsAt stop n inputs) {y : ω} (hx : x ∈ inputs) (hy : y ∈ inputs)
    (hstop : stop x) (hstop' : stop y) : x = y := by
  rcases h.cases with ⟨-, hno⟩ | ⟨front, z, rfl, -, hno⟩
  · exact absurd hstop (hno x hx)
  · have hlast (w : ω) (hw : w ∈ front ++ [z]) (hstop : stop w) : w = z := by
      rcases List.mem_append.mp hw with hw | hw
      · exact absurd hstop (hno w hw)
      · exact List.mem_singleton.mp hw
    rw [hlast x hx hstop, hlast y hy hstop']

/-- A loop with enough turns reads a given sequence up to its first input with `stop`. -/
theorem StopsAt.eq_of_prefix (h : StopsAt stop n inputs) {before later : List ω}
    (hstart : inputs <+: before ++ x :: later) (hbefore : ∀ y ∈ before, ¬stop y) (hx : stop x)
    (hlen : before.length < n) : inputs = before ++ [x] := by
  obtain ⟨tail, htail⟩ := hstart
  rcases h.cases with ⟨hall, hno⟩ | ⟨front, y, rfl, hy, hno⟩
  -- without `stop` the turns would not be used up before `x`
  · rcases List.append_eq_append_iff.mp htail with ⟨a, rfl, -⟩ | ⟨c, rfl, hc⟩
    · rw [List.length_append] at hlen
      omega
    · cases c with
      | nil =>
        rw [List.append_nil] at hall
        omega
      | cons z c =>
        cases hc
        exact absurd hx (hno x (List.mem_append_right _ List.mem_cons_self))
  · rw [List.append_assoc, List.singleton_append] at htail
    rcases List.append_eq_append_iff.mp htail with ⟨a, rfl, ha⟩ | ⟨c, rfl, hc⟩
    · cases a with
      | nil =>
        cases ha
        rw [List.append_nil]
      | cons z a =>
        cases ha
        exact absurd hy (hbefore y (List.mem_append_right _ List.mem_cons_self))
    · cases c with
      | nil =>
        cases hc
        rw [List.append_nil]
      | cons z c =>
        cases hc
        exact absurd hx (hno x (List.mem_append_right _ List.mem_cons_self))

end

end Interaction
