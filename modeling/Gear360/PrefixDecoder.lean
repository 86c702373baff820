import Mathlib

/-! Readers and decoders that work on an input from its front and give up where it ends early. What
they have made of an input stands when the input goes on. -/
namespace PrefixDecoder

variable {α β γ δ : Type}

/-- Reads one value from the front of an input. More input does not change the value. -/
structure Reader (α γ : Type) where
  run : List α → Option (γ × List α)
  append : ∀ {input : List α} {v : γ} {rest : List α}, run input = some (v, rest) →
    ∀ more, run (input ++ more) = some (v, rest ++ more)

/-- Puts out values as long as the input lasts, and leaves the rest of the input if it lasts to
the decoder's end. More input only adds to what is put out. -/
structure Decoder (α β : Type) where
  run : List α → List β × Option (List α)
  append : ∀ {input : List α} {out : List β} {rest : List α}, run input = (out, some rest) →
    ∀ more, run (input ++ more) = (out, some (rest ++ more))
  stopped : ∀ {input : List α} {out : List β}, run input = (out, none) →
    ∀ more, out <+: (run (input ++ more)).1

/-- A cut input gives the front part of what the whole input gives. -/
theorem Decoder.run_prefix (d : Decoder α β) {input whole : List α} (h : input <+: whole) :
    (d.run input).1 <+: (d.run whole).1 := by
  obtain ⟨more, rfl⟩ := h
  match hrun : d.run input with
  | (out, some rest) => rw [d.append hrun more]
  | (out, none) => exact d.stopped hrun more

namespace Reader

def pure (v : γ) : Reader α γ where
  run input := some (v, input)
  append h more := by
    cases h
    rfl

def bind (r : Reader α γ) (f : γ → Reader α δ) : Reader α δ where
  run input := (r.run input).bind fun found => (f found.1).run found.2
  append {input w rest} h more := by
    obtain ⟨⟨v, middle⟩, hv, hw⟩ := Option.bind_eq_some_iff.mp h
    rw [r.append hv more, Option.bind_some]
    exact (f v).append hw more

instance : Monad (Reader α) where
  pure := pure
  bind := bind

/-- The next `n` symbols. -/
def take (n : ℕ) : Reader α (List α) where
  run input := if n ≤ input.length then some (input.take n, input.drop n) else none
  append {input v rest} h more := by
    split_ifs at h with hlen
    obtain ⟨rfl, rfl⟩ := Prod.mk.inj (Option.some.inj h)
    rw [if_pos (hlen.trans (by rw [List.length_append]; omega)), List.take_append_of_le_length hlen,
      List.drop_append_of_le_length hlen]

/-- The symbols before the next `stop`, which is read too. -/
def upTo [DecidableEq α] (stop : α) : Reader α (List α) where
  run input := (input.findIdx? (· = stop)).map fun i => (input.take i, input.drop (i+1))
  append {input v rest} h more := by
    obtain ⟨i, hi, hfound⟩ := Option.map_eq_some_iff.mp h
    obtain ⟨rfl, rfl⟩ := Prod.mk.inj hfound
    obtain ⟨hlt, -⟩ := List.findIdx?_eq_some_iff_getElem.mp hi
    rw [List.findIdx?_append, hi, Option.some_or, Option.map_some,
      List.take_append_of_le_length (by omega), List.drop_append_of_le_length (by omega)]

/-- Fail unless the value is as expected. -/
def guard (p : Prop) [Decidable p] : Reader α Unit where
  run input := if p then some ((), input) else none
  append h more := by
    split_ifs at h ⊢
    cases h
    rfl

/-- The same reader `n` times in a row. -/
def times (r : Reader α γ) : ℕ → Reader α (List γ)
  | 0 => pure []
  | n+1 => do
    let v ← r
    let vs ← r.times n
    return v :: vs

theorem run_bind {r : Reader α γ} {f : γ → Reader α δ} {input rest : List α} {v : γ}
    (h : r.run input = some (v, rest)) : (r >>= f).run input = (f v).run rest := by
  change (r.run input).bind _ = _
  rw [h, Option.bind_some]

theorem run_bind_none {r : Reader α γ} {f : γ → Reader α δ} {input : List α}
    (h : r.run input = none) : (r >>= f).run input = none := by
  change (r.run input).bind _ = _
  rw [h, Option.bind_none]

theorem run_pure (v : γ) (input : List α) :
    (Pure.pure v : Reader α γ).run input = some (v, input) :=
  rfl

theorem run_take {n : ℕ} {input : List α} (h : n ≤ input.length) :
    (take n).run input = some (input.take n, input.drop n) := if_pos h

theorem run_take_none {n : ℕ} {input : List α} (h : input.length < n) :
    (take n).run input = none := if_neg (not_le.mpr h)

theorem run_guard {p : Prop} [Decidable p] (h : p) (input : List α) :
    (guard p).run input = some ((), input) := if_pos h

theorem run_guard_none {p : Prop} [Decidable p] (h : ¬p) (input : List α) :
    (guard p).run input = none := if_neg h

/-- What is read to its end, piece by piece. -/
theorem bind_reads {r : Reader α γ} {f : γ → Reader α δ} {a b : List α} {v : γ} {w : δ}
    (ha : r.run a = some (v, [])) (hb : (f v).run b = some (w, [])) :
    (r >>= f).run (a ++ b) = some (w, []) := by
  rw [run_bind (r.append ha b), List.nil_append, hb]

theorem take_reads {n : ℕ} {a : List α} (h : a.length = n) : (take n).run a = some (a, []) := by
  rw [run_take h.ge, List.take_of_length_le h.le, List.drop_of_length_le h.le]

theorem upTo_reads [DecidableEq α] {stop : α} {a : List α} (h : stop ∉ a) :
    (upTo stop).run (a ++ [stop]) = some (a, []) := by
  have hfind : (a ++ [stop]).findIdx? (· = stop) = some a.length := by
    rw [List.findIdx?_append, List.findIdx?_eq_none_iff.mpr]
    · simp
    · intro x hx
      exact decide_eq_false fun heq => h (heq ▸ hx)
  change ((a ++ [stop]).findIdx? (· = stop)).map _ = _
  rw [hfind, Option.map_some, List.take_left, List.drop_of_length_le (by simp)]

theorem times_reads {ι : Type} {r : Reader α γ} {encode : ι → List α} {value : ι → γ}
    {items : List ι} (h : ∀ item ∈ items, r.run (encode item) = some (value item, [])) :
    (r.times items.length).run (items.flatMap encode) = some (items.map value, []) := by
  induction items with
  | nil => rfl
  | cons item items ih =>
    have hrest := ih fun item hitem => h item (List.mem_cons_of_mem _ hitem)
    refine bind_reads (h item List.mem_cons_self) ?_
    exact (run_bind hrest).trans (run_pure _ _)

/-- What one reader reads to its end from two encodings, whatever follows them, is the same. -/
theorem reads_unique {r : Reader α γ} {a b x y : List α} {v w : γ}
    (ha : r.run a = some (v, [])) (hb : r.run b = some (w, [])) (h : a ++ x = b ++ y) :
    v = w ∧ x = y := by
  have hx := r.append ha x
  rw [h, r.append hb y] at hx
  simpa [eq_comm] using hx

end Reader

namespace Decoder

/-- Put out one value. -/
def emit (r : Reader α β) : Decoder α β where
  run input :=
    match r.run input with
    | some (v, rest) => ([v], some rest)
    | none => ([], none)
  append {input out rest} h more := by
    match hv : r.run input with
    | some (v, rest') =>
      rw [hv] at h
      cases h
      rw [r.append hv more]
    | none =>
      rw [hv] at h
      cases h
  stopped {input out} h more := by
    match hv : r.run input with
    | some (v, rest) =>
      rw [hv] at h
      cases h
    | none =>
      rw [hv] at h
      cases h
      exact List.nil_prefix

/-- Read a value that decides how to go on. -/
def read (r : Reader α γ) (f : γ → Decoder α β) : Decoder α β where
  run input :=
    match r.run input with
    | some (v, rest) => (f v).run rest
    | none => ([], none)
  append {input out rest} h more := by
    match hv : r.run input with
    | some (v, middle) =>
      rw [hv] at h
      rw [r.append hv more]
      exact (f v).append h more
    | none =>
      rw [hv] at h
      cases h
  stopped {input out} h more := by
    match hv : r.run input with
    | some (v, middle) =>
      rw [hv] at h
      rw [r.append hv more]
      exact (f v).stopped h more
    | none =>
      rw [hv] at h
      cases h
      exact List.nil_prefix

def done : Decoder α β where
  run input := ([], some input)
  append h more := by
    cases h
    rfl
  stopped h more := by cases h

/-- One decoder after the other. -/
def andThen (d e : Decoder α β) : Decoder α β where
  run input :=
    match d.run input with
    | (out, some rest) => (out ++ (e.run rest).1, (e.run rest).2)
    | (out, none) => (out, none)
  append {input out rest} h more := by
    match hd : d.run input with
    | (first, some middle) =>
      rw [hd] at h
      obtain ⟨rfl, hrest⟩ := Prod.mk.inj h
      have he : e.run middle = ((e.run middle).1, some rest) := Prod.ext rfl hrest
      rw [d.append hd more]
      simp only [e.append he more]
    | (first, none) =>
      rw [hd] at h
      cases h
  stopped {input out} h more := by
    match hd : d.run input with
    | (first, some middle) =>
      rw [hd] at h
      obtain ⟨rfl, hrest⟩ := Prod.mk.inj h
      have he : e.run middle = ((e.run middle).1, none) := Prod.ext rfl hrest
      rw [d.append hd more]
      exact (List.prefix_append_right_inj first).mpr (e.stopped he more)
    | (first, none) =>
      rw [hd] at h
      cases h
      -- the second decoder can only add to what the first one puts out with more input
      have hfirst := d.stopped hd more
      match hd' : d.run (input ++ more) with
      | (out', some middle) =>
        rw [hd'] at hfirst
        exact hfirst.trans (List.prefix_append _ _)
      | (out', none) =>
        rw [hd'] at hfirst
        exact hfirst

/-- The decoder `n` times in a row, up to the first time that it stops. -/
def times (d : Decoder α β) : ℕ → Decoder α β
  | 0 => done
  | n+1 => d.andThen (d.times n)

theorem run_emit {r : Reader α β} {input rest : List α} {v : β}
    (h : r.run input = some (v, rest)) : (emit r).run input = ([v], some rest) := by
  simp only [emit, h]

theorem run_emit_none {r : Reader α β} {input : List α} (h : r.run input = none) :
    (emit r).run input = ([], none) := by
  simp only [emit, h]

theorem run_read {r : Reader α γ} {f : γ → Decoder α β} {input rest : List α} {v : γ}
    (h : r.run input = some (v, rest)) : (read r f).run input = (f v).run rest := by
  simp only [read, h]

theorem run_read_none {r : Reader α γ} {f : γ → Decoder α β} {input : List α}
    (h : r.run input = none) : (read r f).run input = ([], none) := by
  simp only [read, h]

theorem run_times_succ {d : Decoder α β} {input rest : List α} {out : List β} (n : ℕ)
    (h : d.run input = (out, some rest)) :
    (d.times (n+1)).run input = (out ++ ((d.times n).run rest).1, ((d.times n).run rest).2) := by
  simp only [times, andThen, h]

theorem run_times_stopped {d : Decoder α β} {input : List α} {out : List β} (n : ℕ)
    (h : d.run input = (out, none)) : (d.times (n+1)).run input = (out, none) := by
  simp only [times, andThen, h]

/-- What is decoded to its end, piece by piece. -/
theorem read_reads {r : Reader α γ} {f : γ → Decoder α β} {a b : List α} {v : γ} {out : List β}
    (ha : r.run a = some (v, [])) (hb : (f v).run b = (out, some [])) :
    (read r f).run (a ++ b) = (out, some []) := by
  rw [run_read (r.append ha b), List.nil_append, hb]

theorem times_reads {ι : Type} {d : Decoder α β} {encode : ι → List α} {out : ι → List β}
    {items : List ι} (h : ∀ item ∈ items, d.run (encode item) = (out item, some [])) :
    (d.times items.length).run (items.flatMap encode) = (items.flatMap out, some []) := by
  induction items with
  | nil => rfl
  | cons item items ih =>
    have hfirst := d.append (h item List.mem_cons_self) (items.flatMap encode)
    have hrest := ih fun item hitem => h item (List.mem_cons_of_mem _ hitem)
    rw [List.nil_append] at hfirst
    rw [List.length_cons, List.flatMap_cons, run_times_succ _ hfirst, hrest, List.flatMap_cons]

end Decoder

end PrefixDecoder
