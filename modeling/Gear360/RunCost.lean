import Gear360.Interaction

namespace Interaction

open Prog

variable {Op Op' : Type} {Ans : Op → Type} {Ans' : Op' → Type} {ε α β : Type}

/-- The cost of a run. -/
def cost (w : Event Ans ε → ℕ) (t : List (Event Ans ε)) : ℕ := (t.map w).sum

/-- No run costs more than `n`. -/
def Costs (w : Event Ans ε → ℕ) (n : ℕ) (p : Prog Ans ε α) : Prop :=
  Ensures p fun t _ => cost w t ≤ n

variable {w : Event Ans ε → ℕ} {n m : ℕ}

@[simp] theorem cost_nil : cost w ([] : List (Event Ans ε)) = 0 := rfl

@[simp] theorem cost_cons (e : Event Ans ε) (t : List (Event Ans ε)) :
    cost w (e :: t) = w e + cost w t := rfl

@[simp] theorem cost_append (t u : List (Event Ans ε)) : cost w (t ++ u) = cost w t + cost w u := by
  rw [cost, List.map_append, List.sum_append, ← cost, ← cost]

theorem Costs.mono {p : Prog Ans ε α} (h : Costs w n p) (hle : n ≤ m) : Costs w m p :=
  Ensures.mono h fun _ _ hn => hn.trans hle

theorem costs_ret (a : α) : Costs w n (.ret a : Prog Ans ε α) := ensures_ret (Nat.zero_le n)

theorem costs_raise (e : ε) : Costs w n (.raise e : Prog Ans ε α) := ensures_raise (Nat.zero_le n)

theorem costs_fromResult (x : Except ε α) : Costs w n (fromResult x : Prog Ans ε α) := by
  cases x with
  | ok a => exact costs_ret a
  | error e => exact costs_raise e

theorem costs_perform {o : Op} (h : ∀ x, w ⟨o, x⟩ ≤ n) :
    Costs w n (perform o : Prog Ans ε (Ans o)) :=
  ensures_perform fun x => by rw [cost_cons, cost_nil]; exact h x

/-- What comes after is charged what is left. -/
theorem costs_bind {p : Prog Ans ε α} {f : α → Prog Ans ε β} (hp : Costs w n p)
    (hf : ∀ a, Costs w m (f a)) : Costs w (n+m) (p >>= f) := by
  apply ensures_bind
  · exact fun t e ht => (hp t _ ht).trans (Nat.le_add_right n m)
  · intro t a ht t' r ht'
    rw [cost_append]
    exact Nat.add_le_add (hp t _ ht) (hf a t' r ht')

/-- A beginning that costs nothing. -/
theorem costs_free_bind {p : Prog Ans ε α} {f : α → Prog Ans ε β} (hp : Costs w 0 p)
    (hf : ∀ a, Costs w n (f a)) : Costs w n (p >>= f) := (costs_bind hp hf).mono (by omega)

theorem costs_attempt {p : Prog Ans ε α} (hp : Costs w n p) : Costs w n p.attempt := by
  intro t r hr
  obtain ⟨x, -, h⟩ := run_attempt_iff.mp hr
  exact hp t x h

theorem costs_tryFinally {p : Prog Ans ε α} {fin : Prog Ans ε Unit} (hp : Costs w n p)
    (hfin : Costs w m fin) : Costs w (n+m) (p.tryFinally fin) := by
  intro t r hr
  obtain ⟨u, v, x, y, rfl, hu, hv, -⟩ := run_tryFinally_cases hr
  rw [cost_append]
  exact Nat.add_le_add (hp u x hu) (hfin v y hv)

theorem costs_tryExcept {p : Prog Ans ε α} {handler : ε → Prog Ans ε α} (hp : Costs w n p)
    (hh : ∀ e, Costs w m (handler e)) : Costs w (n+m) (p.tryExcept handler) := by
  intro t r hr
  rcases run_tryExcept_cases hr with ⟨a, -, h⟩ | ⟨e, u, v, rfl, hu, hv⟩
  · exact (hp t _ h).trans (Nat.le_add_right n m)
  · rw [cost_append]
    exact Nat.add_le_add (hp u _ hu) (hh e v r hv)

/-- What costs something does not happen where nothing is spent. -/
theorem Costs.free {p : Prog Ans ε α} (h : Costs w 0 p) :
    Ensures p fun t _ => ∀ e ∈ t, w e = 0 := by
  intro t r hr e he
  have hzero := Nat.le_zero.mp (h t r hr)
  rw [cost, List.sum_eq_zero_iff] at hzero
  exact hzero _ (List.mem_map_of_mem he)

theorem Performs.free {p : Prog Ans ε α} (h : Performs (fun o => ∀ x, w ⟨o, x⟩ = 0) p) :
    Costs w 0 p := by
  intro t r hr
  apply Nat.le_zero.mpr
  rw [cost, List.sum_eq_zero_iff]
  intro n hn
  obtain ⟨⟨o, x⟩, he, rfl⟩ := List.mem_map.mp hn
  exact h t r hr _ he x

/-- Implementations within the cost of their operations keep to the cost of the program. -/
theorem Costs.translate {w' : Event Ans' ε → ℕ} {h : (o : Op) → Prog Ans' ε (Ans o)}
    (hcost : ∀ o, Ensures (h o) fun u x => cost w' u ≤ w ⟨o, x⟩) {p : Prog Ans ε α}
    (hp : Costs w n p) : Costs w' n (p.translate h) := by
  intro t' r hr
  obtain ⟨t, ht, hi⟩ := run_translate hr
  refine le_trans ?_ (hp t r ht)
  clear ht hr
  induction hi with
  | nil => exact le_rfl
  | cons hx _ ih =>
    rw [cost_append, cost_cons]
    exact Nat.add_le_add (hcost _ _ _ hx) ih

end Interaction
