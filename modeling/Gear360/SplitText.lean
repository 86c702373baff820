import Mathlib.Data.List.DropRight
import Mathlib.Data.List.Infix
import Mathlib.Tactic.Common

namespace SplitText

section
variable {α : Type} {sep part : List α}

/-- No separator starts inside the part, when a separator comes after it. -/
def Apart (sep part : List α) : Prop := ¬sep <:+: part ++ sep.dropLast

theorem Apart.tail {c : α} (h : Apart sep (c :: part)) : Apart sep part := by
  rintro ⟨front, back, happend⟩
  exact h ⟨c :: front, back, by simp only [List.cons_append, happend]⟩

theorem Apart.no_prefix {c : α} (h : Apart sep (c :: part)) (hsep : sep ≠ []) (s : List α) :
    ¬sep <+: c :: (part ++ (sep ++ s)) := by
  intro hstart
  apply h
  refine List.IsPrefix.isInfix (List.prefix_of_prefix_length_le hstart ?_ ?_)
  · refine ⟨[sep.getLast hsep] ++ s, ?_⟩
    have hlast := List.dropLast_append_getLast hsep
    calc c :: part ++ sep.dropLast ++ ([sep.getLast hsep] ++ s)
        = c :: part ++ ((sep.dropLast ++ [sep.getLast hsep]) ++ s) := by
          simp only [List.append_assoc]
      _ = c :: (part ++ (sep ++ s)) := by rw [hlast, List.cons_append]
  · have hpos := List.length_pos_iff.mpr hsep
    simp only [List.length_append, List.length_cons, List.length_dropLast]
    omega

/-- A part without the first character of the separator has no separator starting in it. -/
theorem apart_of_not_mem {c : α} {tail : List α} (h : c ∉ part) : Apart (c :: tail) part := by
  rintro ⟨front, back, happend⟩
  have hlen := congrArg List.length happend
  simp only [List.length_append, List.length_cons, List.length_dropLast, Nat.add_sub_cancel] at hlen
  have hget := congrArg (·[front.length]?) happend
  rw [List.append_assoc, List.getElem?_append_right le_rfl, Nat.sub_self, List.cons_append,
    List.getElem?_cons_zero, List.getElem?_append_left (by omega)] at hget
  exact h (List.mem_of_getElem? hget.symm)

end

section
variable {α : Type} [DecidableEq α]

/-- The part up to the next separator, and the parts after it. The first `skip` characters belong
to a separator that is already there. -/
def splitAfter (sep : List α) : ℕ → List α → List α × List (List α)
  | _, [] => ([], [])
  | skip+1, _ :: s => splitAfter sep skip s
  | 0, c :: s =>
    if sep <+: c :: s then
      let parts := splitAfter sep (sep.length-1) s
      ([], parts.1 :: parts.2)
    else
      let parts := splitAfter sep 0 s
      (c :: parts.1, parts.2)

/-- The parts between separators; there is always one. -/
def split (sep s : List α) : List (List α) := (splitAfter sep 0 s).1 :: (splitAfter sep 0 s).2

/-- Every occurrence of `old`, from left to right, becomes `new`. -/
def replace (old new s : List α) : List α := new.intercalate (split old s)

instance (sep part : List α) : Decidable (Apart sep part) := inferInstanceAs (Decidable (¬_))

variable {sep part : List α}

theorem splitAfter_skip (taken s : List α) :
    splitAfter sep taken.length (taken ++ s) = splitAfter sep 0 s := by
  induction taken with
  | nil => rfl
  | cons c taken ih => rw [List.length_cons, List.cons_append, splitAfter, ih]

/-- A separator at the front ends the part before it. -/
theorem splitAfter_sep (hsep : sep ≠ []) (s : List α) :
    splitAfter sep 0 (sep ++ s) = ([], split sep s) := by
  cases sep with
  | nil => exact absurd rfl hsep
  | cons c sep =>
    have hstart : c :: sep <+: c :: (sep ++ s) := List.prefix_append (c :: sep) s
    rw [List.cons_append, splitAfter, if_pos hstart, List.length_cons, Nat.add_sub_cancel,
      splitAfter_skip, split]

/-- The first part is what stands before the first separator. -/
theorem split_append (hsep : sep ≠ []) (h : Apart sep part) (s : List α) :
    split sep (part ++ (sep ++ s)) = part :: split sep s := by
  have hparts : splitAfter sep 0 (part ++ (sep ++ s)) = (part, split sep s) := by
    induction part with
    | nil => exact splitAfter_sep hsep s
    | cons c part ih => rw [List.cons_append, splitAfter, if_neg (h.no_prefix hsep s), ih h.tail]
  rw [split, hparts]

/-- Without a separator there is nothing to cut. -/
theorem split_single (h : ¬sep <:+: part) : split sep part = [part] := by
  have hparts : splitAfter sep 0 part = (part, []) := by
    induction part with
    | nil => rfl
    | cons c part ih =>
      have htail : ¬sep <:+: part := fun htail => h (htail.trans (List.suffix_cons c part).isInfix)
      rw [splitAfter, if_neg fun hstart => h hstart.isInfix, ih htail]
  rw [split, hparts]

/-- A part without the first character of the separator belongs to what follows it. -/
theorem splitAfter_free {c : α} {tail : List α} (h : c ∉ part) (s : List α) :
    splitAfter (c :: tail) 0 (part ++ s) =
      (part ++ (splitAfter (c :: tail) 0 s).1, (splitAfter (c :: tail) 0 s).2) := by
  induction part with
  | nil => rfl
  | cons d part ih =>
    have hstart : ¬c :: tail <+: d :: (part ++ s) := by
      rintro ⟨back, happend⟩
      have hhead := List.head_eq_of_cons_eq happend
      exact h (hhead ▸ List.mem_cons_self)
    rw [List.cons_append, splitAfter, if_neg hstart, ih fun hmem => h (List.mem_cons_of_mem d hmem),
      List.cons_append]

/-- Parts with a separator behind each come first. -/
theorem split_flatMap (hsep : sep ≠ []) {parts : List (List α)} (h : ∀ part ∈ parts, Apart sep part)
    (s : List α) : split sep (parts.flatMap (· ++ sep) ++ s) = parts ++ split sep s := by
  induction parts with
  | nil => rfl
  | cons part parts ih =>
    have hrest := ih fun x hx => h x (List.mem_cons_of_mem part hx)
    rw [List.flatMap_cons, List.append_assoc, List.append_assoc,
      split_append hsep (h part List.mem_cons_self), hrest, List.cons_append]

/-- A part ends where a separator of one character comes next. -/
theorem splitAfter_takeWhile (c : α) (s : List α) :
    (splitAfter [c] 0 s).1 = s.takeWhile (· ≠ c) := by
  induction s with
  | nil => rfl
  | cons d s ih =>
    by_cases hd : d = c
    · subst hd
      have hstart : [d] <+: d :: s := List.prefix_append [d] s
      rw [splitAfter, if_pos hstart, List.takeWhile_cons_of_neg (by simp)]
    · have hstart : ¬[c] <+: d :: s := fun h => hd (List.cons_prefix_cons.mp h).1.symm
      rw [splitAfter, if_neg hstart, List.takeWhile_cons_of_pos (by simpa using hd), ← ih]

theorem splitAfter_prefix (sep s : List α) : (splitAfter sep 0 s).1 <+: s := by
  induction s with
  | nil => exact List.nil_prefix
  | cons c s ih =>
    rw [splitAfter]
    split_ifs
    · exact List.nil_prefix
    · exact List.cons_prefix_cons.mpr ⟨rfl, ih⟩

end

section
variable {α : Type} (p : α → Bool)

/-- Without the characters at either end that satisfy `p`. -/
def strip (s : List α) : List α := (s.dropWhile p).rdropWhile p

/-- The longest parts without a character that satisfies `p`. -/
def words (s : List α) : List (List α) := (s.splitOnP p).filter fun word => !word.isEmpty

variable {p} {s : List α}

theorem rdropWhile_append {blanks : List α} (h : ∀ c ∈ blanks, p c = true) :
    (s ++ blanks).rdropWhile p = s.rdropWhile p := by
  have hreverse : ∀ c ∈ blanks.reverse, p c = true := fun c hc => h c (List.mem_reverse.mp hc)
  rw [List.rdropWhile, List.reverse_append, List.dropWhile_append_of_pos hreverse,
    ← List.rdropWhile]

theorem takeWhile_prefix_takeWhile {t : List α} (h : s <+: t) :
    s.takeWhile p <+: t.takeWhile p := by
  obtain ⟨back, rfl⟩ := h
  rw [List.takeWhile_append]
  split_ifs with hall
  · rw [(List.takeWhile_prefix p).eq_of_length hall]
    exact List.prefix_append s _
  · exact List.prefix_rfl

/-- Blanks at either end go, and nothing else. -/
theorem strip_blanks {front back : List α} (hfront : ∀ c ∈ front, p c = true)
    (hback : ∀ c ∈ back, p c = true) (hhead : ∀ c ∈ s.head?, p c = false)
    (hlast : ∀ c ∈ s.getLast?, p c = false) : strip p (front ++ (s ++ back)) = s := by
  rw [strip, List.dropWhile_append_of_pos hfront]
  cases s with
  | nil =>
    rw [List.nil_append, List.dropWhile_eq_nil_iff.mpr hback]
    rfl
  | cons c s =>
    have hc : p c = false := hhead c rfl
    rw [List.cons_append, List.dropWhile_cons_of_neg (by rw [hc]; decide), ← List.cons_append,
      rdropWhile_append hback, List.rdropWhile_eq_self_iff]
    intro hne
    rw [hlast _ (List.getLast?_eq_some_getLast hne)]
    decide

/-- Only what stands after the last word is trimmed at the end. -/
theorem rdropWhile_word {word : List α} (tail : List α) (hword : ∀ c ∈ word.getLast?, p c = false) :
    (word ++ tail).rdropWhile p = word ++ tail.rdropWhile p := by
  have hself : word.reverse.dropWhile p = word.reverse := by
    cases hreverse : word.reverse with
    | nil => rfl
    | cons c rest =>
      have hc : p c = false := by
        apply hword
        rw [← List.head?_reverse, hreverse]
        rfl
      rw [List.dropWhile_cons_of_neg (by rw [hc]; decide)]
  rw [List.rdropWhile, List.rdropWhile, List.reverse_append, List.dropWhile_append]
  split_ifs with hempty
  · rw [List.isEmpty_iff.mp hempty, hself, List.reverse_reverse, List.reverse_nil, List.append_nil]
  · rw [List.reverse_append, List.reverse_reverse]

/-- Blanks in front go, and what ends with a word loses nothing but what comes after. -/
theorem strip_word {front word : List α} (tail : List α) (hfront : ∀ c ∈ front, p c = true)
    (hne : word ≠ []) (hhead : ∀ c ∈ word.head?, p c = false)
    (hlast : ∀ c ∈ word.getLast?, p c = false) :
    strip p (front ++ (word ++ tail)) = word ++ tail.rdropWhile p := by
  rw [strip, List.dropWhile_append_of_pos hfront]
  cases word with
  | nil => exact absurd rfl hne
  | cons c word =>
    rw [List.cons_append, List.dropWhile_cons_of_neg (by rw [hhead c rfl]; decide),
      ← List.cons_append, rdropWhile_word tail hlast]

/-- The first word, after blanks. -/
theorem words_first {front word tail : List α} (hfront : ∀ c ∈ front, p c = true) (hne : word ≠ [])
    (hword : ∀ c ∈ word, p c = false) (htail : ∀ c ∈ tail.head?, p c = true) :
    (words p (strip p (front ++ (word ++ tail))))[0]? = some word := by
  have hstrip : strip p (front ++ (word ++ tail)) = word ++ tail.rdropWhile p :=
    strip_word tail hfront hne (fun c hc => hword c (List.mem_of_mem_head? hc))
      fun c hc => hword c (List.mem_of_mem_getLast? hc)
  have hstart : tail.rdropWhile p <+: tail := List.rdropWhile_prefix p tail
  have hkeep : (!word.isEmpty) = true := by simpa using hne
  rw [words, hstrip]
  cases hrest : tail.rdropWhile p with
  | nil =>
    rw [List.append_nil, List.splitOnP_eq_singleton hword, List.filter_cons, if_pos hkeep]
    rfl
  | cons c rest =>
    have hc : p c = true := by
      obtain ⟨back, rfl⟩ := hrest ▸ hstart
      exact htail c rfl
    rw [List.splitOnP_append_cons_of_forall_mem hword c hc, List.filter_cons, if_pos hkeep]
    rfl

end

end SplitText
