import Gear360.Interaction

namespace Interaction

open Prog

variable {Op Op' : Type} {Ans : Op → Type} {Ans' : Op' → Type} {ε α β : Type}

/-- Every event is warranted by the history and what came before it. -/
def Warranted (W : List (Event Ans ε) → Event Ans ε → Prop) (h t : List (Event Ans ε)) : Prop :=
  ∀ front e back, t = front ++ e :: back → W (h ++ front) e

/-- In every run after the history, every event is warranted. -/
def Warrants (W : List (Event Ans ε) → Event Ans ε → Prop) (h : List (Event Ans ε))
    (p : Prog Ans ε α) : Prop := Ensures p fun t _ => Warranted W h t

variable {W : List (Event Ans ε) → Event Ans ε → Prop} {h t u : List (Event Ans ε)}

theorem Warranted.append (ht : Warranted W h t) (hu : Warranted W (h ++ t) u) :
    Warranted W h (t ++ u) := by
  intro front e back happend
  rcases List.append_eq_append_iff.mp happend with ⟨a, rfl, ha⟩ | ⟨c, rfl, hc⟩
  · rw [← List.append_assoc]
    exact hu a e back ha
  · cases c with
    | nil =>
      rw [List.append_nil] at hu
      rw [← List.append_nil (h ++ front)]
      exact hu [] e back hc.symm
    | cons e' c =>
      obtain ⟨rfl, -⟩ := List.cons_eq_cons.mp hc
      exact ht front e c rfl

/-- What is warranted by all that has more to it. -/
theorem Warranted.of_forall (hW : ∀ h', h ⊆ h' → ∀ e ∈ t, W h' e) : Warranted W h t := by
  rintro front e back rfl
  exact hW _ (List.subset_append_left h front) e (List.mem_append_right front List.mem_cons_self)

theorem warrants_ret (a : α) : Warrants W h (.ret a : Prog Ans ε α) :=
  ensures_ret (by intro front e back h; simp at h)

theorem warrants_raise (e : ε) : Warrants W h (.raise e : Prog Ans ε α) :=
  ensures_raise (by intro front e back h; simp at h)

theorem warrants_perform {o : Op} (hW : ∀ x, W h ⟨o, x⟩) :
    Warrants W h (perform o : Prog Ans ε (Ans o)) := by
  apply ensures_perform
  intro x front e back hevent
  cases front with
  | nil =>
    obtain ⟨rfl, -⟩ := List.cons_eq_cons.mp hevent
    rw [List.append_nil]
    exact hW x
  | cons e' front => simp at hevent

/-- What comes after has a longer history. -/
theorem warrants_bind {p : Prog Ans ε α} {f : α → Prog Ans ε β} (hp : Warrants W h p)
    (hf : ∀ t a, Run p t (.ok a) → Warrants W (h ++ t) (f a)) : Warrants W h (p >>= f) := by
  apply ensures_bind
  · exact fun t e ht => hp t _ ht
  · exact fun t a ht t' r ht' => (hp t _ ht).append (hf t a ht t' r ht')

theorem warrants_tryFinally {p : Prog Ans ε α} {fin : Prog Ans ε Unit} (hp : Warrants W h p)
    (hfin : ∀ t, Warrants W (h ++ t) fin) : Warrants W h (p.tryFinally fin) := by
  intro t r hr
  obtain ⟨u, v, x, y, rfl, hu, hv, -⟩ := run_tryFinally_cases hr
  exact (hp u x hu).append (hfin u v y hv)

/-- An event of the lower trace is one of some implementation, after those of what came before. -/
theorem Implements.split {h : (o : Op) → Prog Ans' ε (Ans o)} {t' front back : List (Event Ans' ε)}
    {e : Event Ans' ε} (hi : Implements h t t') (ht' : t' = front ++ e :: back) :
    ∃ before o x after front' u₁ u₂, t = before ++ ⟨o, x⟩ :: after ∧ front = front' ++ u₁ ∧
      Implements h before front' ∧ Run (h o) (u₁ ++ e :: u₂) x := by
  -- on the events above: the place is in the run of this one or in what comes after it
  induction hi generalizing front with
  | nil => cases front <;> cases ht'
  | @cons o x u t t' hx ht ih =>
    rcases List.append_eq_append_iff.mp ht' with ⟨a, rfl, ha⟩ | ⟨c, rfl, hc⟩
    · obtain ⟨before, o', x', after, front', u₁, u₂, rfl, rfl, hbefore, hrun⟩ := ih ha
      exact ⟨⟨o, x⟩ :: before, o', x', after, u ++ front', u₁, u₂, rfl,
        (List.append_assoc u front' u₁).symm, .cons hx hbefore, hrun⟩
    · cases c with
      | nil =>
        rw [List.append_nil] at hx
        have hnil : t' = [] ++ e :: back := hc.symm
        obtain ⟨before, o', x', after, front', u₁, u₂, rfl, hempty, hbefore, hrun⟩ :=
          ih hnil
        rw [eq_comm, List.append_eq_nil_iff] at hempty
        obtain ⟨rfl, rfl⟩ := hempty
        exact ⟨⟨o, x⟩ :: before, o', x', after, front, [], u₂, rfl,
          (List.append_nil front).symm, by simpa using Implements.cons hx hbefore, hrun⟩
      | cons e' c =>
        obtain ⟨rfl, -⟩ := List.cons_eq_cons.mp hc
        exact ⟨[], o, x, t, [], front, c, rfl, rfl, .nil, hx⟩

/-- The implementation of an upper event is part of the lower trace. -/
theorem Implements.mem {h : (o : Op) → Prog Ans' ε (Ans o)} {t' : List (Event Ans' ε)} {o : Op}
    {x : Except ε (Ans o)} (hi : Implements h t t') (he : (⟨o, x⟩ : Event Ans ε) ∈ t) :
    ∃ u, Run (h o) u x ∧ u ⊆ t' := by
  induction hi with
  | nil => cases he
  | cons hx _ ih =>
    rcases List.mem_cons.mp he with heq | he
    · cases heq
      exact ⟨_, hx, List.subset_append_left _ _⟩
    · obtain ⟨u, hu, hsub⟩ := ih he
      exact ⟨u, hu, fun e he => List.mem_append_right _ (hsub he)⟩

end Interaction
