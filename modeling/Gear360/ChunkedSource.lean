import Mathlib

/-! Sources that deliver a fixed sequence piecewise: every read returns some of the next
items, never more than asked for, and none only when nothing is left. -/
namespace ChunkedSource

/-- A source with states `σ` and read faults `φ`. A fault loses nothing; with `φ` empty
the source never faults. -/
structure Source (α φ σ : Type) where
  pending : σ → List α
  read : σ → ℕ → Except φ (List α) × σ
  fault_pending : ∀ {s n e}, (read s n).1 = .error e → pending (read s n).2 = pending s
  read_pending : ∀ {s n c}, (read s n).1 = .ok c → pending s = c ++ pending (read s n).2
  read_length : ∀ {s n c}, (read s n).1 = .ok c → c.length ≤ n
  read_nonempty : ∀ {s n}, (read s n).1 = .ok [] → 0 < n → pending s = []

variable {α φ σ : Type}

/-- Read until `size` items are there. The end of the source and a fault both end the
loop, and what was gathered so far is lost. -/
def gather (src : Source α φ σ) (size : ℕ) (data : List α) (s : σ) : Option (List α) × σ :=
  if _hlt : data.length < size then
    match src.read s (size - data.length) with
    | (.error _, s') => (none, s')
    | (.ok [], s') => (none, s')
    | (.ok (c :: cs), s') => gather src size (data ++ c :: cs) s'
  else (some data, s)
termination_by size - data.length
decreasing_by simp only [List.length_append, List.length_cons]; omega

theorem gather_done (src : Source α φ σ) {size : ℕ} {data : List α} (s : σ)
    (h : size ≤ data.length) : gather src size data s = (some data, s) := by
  rw [gather, dif_neg (by omega)]

/-- One turn of the loop, by what the read returned. -/
theorem gather_step (src : Source α φ σ) {size : ℕ} {data : List α} (s : σ)
    (h : data.length < size) :
    gather src size data s =
      match src.read s (size - data.length) with
      | (.error _, s') => (none, s')
      | (.ok [], s') => (none, s')
      | (.ok (c :: cs), s') => gather src size (data ++ c :: cs) s' := by
  rw [gather, dif_pos h]

/-- The loop only ever moves forward in the sequence. -/
theorem gather_suffix (src : Source α φ σ) (size : ℕ) (data : List α) (s : σ) :
    src.pending (gather src size data s).2 <:+ src.pending s := by
  -- only the third case has read anything
  induction data, s using gather.induct src size with
  | case1 data s h e s' hr =>
    rw [gather_step src s h, hr]
    have hp := src.fault_pending (congrArg Prod.fst hr)
    rw [hr] at hp
    exact hp ▸ List.suffix_refl _
  | case2 data s h s' hr =>
    rw [gather_step src s h, hr]
    have hp := src.read_pending (congrArg Prod.fst hr)
    rw [hr] at hp
    exact ⟨[], hp.symm⟩
  | case3 data s h c cs s' hr ih =>
    rw [gather_step src s h, hr]
    have hp := src.read_pending (congrArg Prod.fst hr)
    rw [hr] at hp
    exact ih.trans ⟨c :: cs, hp.symm⟩
  | case4 data s h =>
    rw [gather_done src s (by omega)]

/-- What the loop returns are the next items, exactly as many as were asked for. -/
theorem gather_some (src : Source α φ σ) (size : ℕ) (data : List α) (s : σ)
    (hd : data.length ≤ size) {out : List α} (h : (gather src size data s).1 = some out) :
    out.length = size ∧
      data ++ src.pending s = out ++ src.pending (gather src size data s).2 := by
  induction data, s using gather.induct src size with
  | case1 data s hlt e s' hr => rw [gather_step src s hlt, hr] at h; cases h
  | case2 data s hlt s' hr => rw [gather_step src s hlt, hr] at h; cases h
  | case3 data s hlt c cs s' hr ih =>
    have hlen := src.read_length (congrArg Prod.fst hr)
    have hp := src.read_pending (congrArg Prod.fst hr)
    rw [hr] at hp
    rw [gather_step src s hlt, hr] at h ⊢
    -- a read gives at most what is missing, so the next turn is not over-full either
    obtain ⟨h1, h2⟩ := ih (by simp only [List.length_append]; omega) h
    exact ⟨h1, by rw [hp, ← List.append_assoc]; exact h2⟩
  | case4 data s hge =>
    rw [gather_done src s (by omega)] at h ⊢
    cases h
    exact ⟨by omega, rfl⟩

/-- Without faults the loop returns exactly the next items when there are enough of them,
whatever the sizes of the single reads. -/
theorem gather_spec (src : Source α Empty σ) (size : ℕ) (data : List α) (s : σ)
    (hd : data.length ≤ size) :
    (gather src size data s).1 =
        (if size ≤ data.length + (src.pending s).length then
          some (data ++ (src.pending s).take (size - data.length)) else none) ∧
      src.pending (gather src size data s).2 =
        (src.pending s).drop (size - data.length) := by
  induction data, s using gather.induct src size with
  | case1 data s h e s' hr => exact e.elim
  | case2 data s h s' hr =>
    -- an empty answer to a read of at least one item: nothing was left
    have hp : src.pending s = [] :=
      src.read_nonempty (congrArg Prod.fst hr) (by omega)
    have hp' := src.read_pending (congrArg Prod.fst hr)
    rw [hr, hp] at hp'
    have hs' : src.pending s' = [] := by simpa using hp'.symm
    rw [gather_step src s h, hr]
    simp only [hp, hs', List.length_nil, List.drop_nil, and_true]
    rw [if_neg (by omega)]
  | case3 data s h c cs s' hr ih =>
    have hlen := src.read_length (congrArg Prod.fst hr)
    have hp := src.read_pending (congrArg Prod.fst hr)
    rw [hr] at hp
    have hd' : (data ++ c :: cs).length ≤ size := by
      simp only [List.length_append]; omega
    obtain ⟨h1, h2⟩ := ih hd'
    -- what was missing before is this piece and what is missing now
    have hsub : size - data.length = (c :: cs).length + (size - (data ++ c :: cs).length) := by
      simp only [List.length_append] at hd' ⊢; omega
    rw [gather_step src s h, hr]
    constructor
    · rw [h1, hp, hsub, List.take_length_add_append]
      simp only [List.length_append, List.append_assoc, Nat.add_assoc]
    · rw [h2, hp, hsub, List.drop_length_add_append]
  | case4 data s h =>
    have he : size - data.length = 0 := by omega
    rw [gather_done src s (by omega), he]
    simp only [List.take_zero, List.append_nil, List.drop_zero, and_true]
    rw [if_pos (by omega)]

/-- The source gives these answers to reads of these sizes, one after the other. -/
def Served (src : Source α φ σ) (s : σ) : List (ℕ × Except φ (List α)) → σ → Prop
  | [], s' => s' = s
  | (n, x) :: reads, s' => (src.read s n).1 = x ∧ Served src (src.read s n).2 reads s'

theorem served_append {src : Source α φ σ} {s s' : σ} {r₁ r₂ : List (ℕ × Except φ (List α))} :
    Served src s (r₁ ++ r₂) s' ↔ ∃ m, Served src s r₁ m ∧ Served src m r₂ s' := by
  induction r₁ generalizing s with
  | nil =>
    constructor
    · exact fun h => ⟨s, rfl, h⟩
    · rintro ⟨m, rfl, h⟩
      exact h
  | cons read r₁ ih =>
    constructor
    · rintro ⟨hx, h⟩
      obtain ⟨m, h₁, h₂⟩ := ih.mp h
      exact ⟨m, ⟨hx, h₁⟩, h₂⟩
    · rintro ⟨m, ⟨hx, h₁⟩, h₂⟩
      exact ⟨hx, ih.mpr ⟨m, h₁, h₂⟩⟩

/-- A source that cuts its items by a list of read sizes, each at least one; when the
sizes run out every read returns all it may. -/
def scripted : Source α Empty (List α × List ℕ) where
  pending st := st.1
  read st n := (.ok (st.1.take (min (st.2.headD n+1) n)),
    (st.1.drop (min (st.2.headD n+1) n), st.2.tail))
  fault_pending h := by cases h
  read_pending h := by cases h; exact (List.take_append_drop _ _).symm
  read_length h := by cases h; rw [List.length_take]; omega
  read_nonempty {st n} h hn := by
    rw [Except.ok.injEq, List.take_eq_nil_iff] at h
    rcases h with h | h
    · omega
    · exact h

/-- One read of at most `n` items, from pieces and faults that come in this order. A piece is
served until it is used up, and a used up one is passed over. -/
def readArrivals (n : ℕ) : List (Except φ (List α)) →
    Except φ (List α) × List (Except φ (List α))
  | [] => (.ok [], [])
  | .error e :: rest => (.error e, rest)
  | .ok [] :: rest => readArrivals n rest
  | .ok (c :: cs) :: rest => (.ok ((c :: cs).take n), .ok ((c :: cs).drop n) :: rest)

def arrived (st : List (Except φ (List α))) : List α := st.flatMap fun arrival =>
  match arrival with
  | .ok piece => piece
  | .error _ => []

@[simp] theorem arrived_ok (pieces : List (List α)) (rest : List (Except φ (List α))) :
    arrived (pieces.map .ok ++ rest) = pieces.flatten ++ arrived rest := by
  rw [arrived, List.flatMap_append, List.flatMap_map, List.flatten_eq_flatMap]
  rfl

/-- Every schedule of answers is one of these: its answers are the arrivals. -/
def arrivals : Source α φ (List (Except φ (List α))) where
  pending := arrived
  read st n := readArrivals n st
  fault_pending {st n e} h := by
    fun_induction readArrivals n st with
    | case1 => cases h
    | case2 e' rest => rfl
    | case3 rest ih => exact ih h
    | case4 c cs rest => cases h
  read_pending {st n out} h := by
    fun_induction readArrivals n st with
    | case1 => cases h; rfl
    | case2 e' rest => cases h
    | case3 rest ih => exact ih h
    | case4 c cs rest =>
      cases h
      change (c :: cs) ++ arrived rest = _ ++ (_ ++ arrived rest)
      rw [← List.append_assoc, List.take_append_drop]
  read_length {st n out} h := by
    fun_induction readArrivals n st with
    | case1 => cases h; exact Nat.zero_le _
    | case2 e' rest => cases h
    | case3 rest ih => exact ih h
    | case4 c cs rest => cases h; exact List.length_take_le _ _
  read_nonempty {st n} h hn := by
    fun_induction readArrivals n st with
    | case1 => rfl
    | case2 e' rest => cases h
    | case3 rest ih => exact ih h
    | case4 c cs rest =>
      rw [Except.ok.injEq, List.take_eq_nil_iff] at h
      rcases h with h | h
      · omega
      · cases h

/-- A schedule has no fault, or a first one. -/
theorem arrivals_cases (st : List (Except φ (List α))) :
    (∃ pieces : List (List α), st = pieces.map .ok) ∨
      ∃ (pieces : List (List α)) (e : φ) (rest : List (Except φ (List α))),
        st = pieces.map .ok ++ .error e :: rest := by
  induction st with
  | nil => exact .inl ⟨[], rfl⟩
  | cons arrival st ih =>
    cases arrival with
    | error e => exact .inr ⟨[], e, st, rfl⟩
    | ok piece =>
      obtain ⟨pieces, rfl⟩ | ⟨pieces, e, rest, rfl⟩ := ih
      · exact .inl ⟨piece :: pieces, rfl⟩
      · exact .inr ⟨piece :: pieces, e, rest, rfl⟩

theorem readArrivals_used (n : ℕ) {pieces : List (List α)} (rest : List (Except φ (List α)))
    (h : pieces.flatten = []) : readArrivals n (pieces.map .ok ++ rest) = readArrivals n rest := by
  induction pieces with
  | nil => rfl
  | cons piece pieces ih =>
    rw [List.flatten_cons, List.append_eq_nil_iff] at h
    obtain ⟨rfl, h⟩ := h
    exact ih h

/-- As long as items come before the next fault, a read returns some of them. -/
theorem readArrivals_some {n : ℕ} {pieces : List (List α)} (rest : List (Except φ (List α)))
    (hn : 0 < n) (h : pieces.flatten ≠ []) :
    ∃ (out : List α) (pieces' : List (List α)),
      readArrivals n (pieces.map .ok ++ rest) = (.ok out, pieces'.map .ok ++ rest) ∧
      out ≠ [] ∧ out ++ pieces'.flatten = pieces.flatten := by
  induction pieces with
  | nil => exact absurd rfl h
  | cons piece pieces ih =>
    cases piece with
    | nil => exact ih h
    | cons c cs =>
      refine ⟨(c :: cs).take n, (c :: cs).drop n :: pieces, rfl, ?_, ?_⟩
      · rw [Ne, List.take_eq_nil_iff]
        rintro (h0 | h0)
        · omega
        · cases h0
      · rw [List.flatten_cons, ← List.append_assoc, List.take_append_drop, List.flatten_cons]

/-- A turn whose read returns items. -/
theorem gather_arrivals_turn {size : ℕ} {data : List α} {st st' : List (Except φ (List α))}
    {c : α} {cs : List α} (h : data.length < size)
    (hread : readArrivals (size - data.length) st = (.ok (c :: cs), st')) :
    gather arrivals size data st = gather arrivals size (data ++ c :: cs) st' := by
  have hread' : arrivals.read st (size - data.length) = (.ok (c :: cs), st') := hread
  rw [gather_step _ _ h, hread']

/-- The loop takes what it needs of the pieces before the next fault. -/
theorem gather_arrivals (size : ℕ) (data : List α) (pieces : List (List α))
    (rest : List (Except φ (List α))) (h : size - data.length ≤ pieces.flatten.length) :
    ∃ pieces' : List (List α), gather arrivals size data (pieces.map .ok ++ rest) =
        (some (data ++ pieces.flatten.take (size - data.length)), pieces'.map .ok ++ rest) ∧
      pieces'.flatten = pieces.flatten.drop (size - data.length) := by
  -- every turn makes `size - data.length` smaller
  generalize hm : size - data.length = missing at h ⊢
  induction missing using Nat.strong_induction_on generalizing data pieces with
  | _ missing ih =>
    rcases Nat.eq_zero_or_pos missing with rfl | hpos
    · rw [gather_done _ _ (by omega)]
      exact ⟨pieces, by simp⟩
    · have hne : pieces.flatten ≠ [] := by
        intro hnil
        rw [hnil, List.length_nil] at h
        omega
      obtain ⟨out, pieces', hread, hout, hflat⟩ := readArrivals_some rest hpos hne
      have hlen : out.length ≤ missing := arrivals.read_length (congrArg Prod.fst hread)
      cases out with
      | nil => exact absurd rfl hout
      | cons c cs =>
        rw [List.length_cons] at hlen
        rw [← hflat, List.length_append, List.length_cons] at h
        obtain ⟨pieces'', hgather, hdrop⟩ := ih (missing - (cs.length+1)) (by omega)
          (data ++ c :: cs) pieces' (by rw [List.length_append, List.length_cons]; omega) (by omega)
        refine ⟨pieces'', ?_, ?_⟩
        · rw [gather_arrivals_turn (by omega) (by rw [hm, hread]), hgather, ← hflat,
            List.take_append, List.take_of_length_le (l := c :: cs) hlen, List.append_assoc,
            List.length_cons]
        · rw [hdrop, ← hflat, List.drop_append, List.drop_of_length_le (l := c :: cs) hlen,
            List.nil_append, List.length_cons]

/-- A fault that comes before the loop has enough ends it, and what came before it is lost. -/
theorem gather_fault (size : ℕ) (data : List α) (pieces : List (List α)) (e : φ)
    (rest : List (Except φ (List α))) (h : pieces.flatten.length < size - data.length) :
    gather arrivals size data (pieces.map .ok ++ .error e :: rest) = (none, rest) := by
  -- on how much is missing: each read before the fault brings some of it
  generalize hm : size - data.length = missing at h
  induction missing using Nat.strong_induction_on generalizing data pieces with
  | _ missing ih =>
    by_cases hne : pieces.flatten = []
    · have hread : arrivals.read (pieces.map .ok ++ .error e :: rest) missing = (.error e, rest) :=
        readArrivals_used missing _ hne
      rw [gather_step _ _ (by omega), hm, hread]
    · obtain ⟨out, pieces', hread, hout, hflat⟩ :=
        readArrivals_some (.error e :: rest) (n := missing) (by omega) hne
      have hlen : out.length ≤ missing := arrivals.read_length (congrArg Prod.fst hread)
      cases out with
      | nil => exact absurd rfl hout
      | cons c cs =>
        rw [List.length_cons] at hlen
        rw [← hflat, List.length_append, List.length_cons] at h
        rw [gather_arrivals_turn (by omega) (by rw [hm, hread])]
        exact ih (missing - (cs.length+1)) (by omega) (data ++ c :: cs) pieces'
          (by rw [List.length_append, List.length_cons]; omega) (by omega)

end ChunkedSource
