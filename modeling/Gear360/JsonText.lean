import Gear360.JsonLoads

namespace Gear360

/-- No two characters of the text would be joined to one. -/
def Joined (text : PyStr) : Prop :=
  text.IsChain (fun a b => ¬(isHighSurrogate a ∧ isLowSurrogate b)) ∧ ∀ c ∈ text, c < 0x110000

def escapeText (c : ℕ) : PyStr := (escapeChar c).map UInt8.toNat

/-- If an escaped unit follows, then it is not a low surrogate. -/
def NoLow (s : PyStr) : Prop :=
  s.take 2 = [0x5C, 0x75] → ∃ unit, readUnit (s.drop 2) = some unit ∧ isLowSurrogate unit = false

theorem hexValue_hexDigit {n : ℕ} (h : n < 16) : hexValue (hexDigit n).toNat = some n := by
  have hall : ∀ n < 16, hexValue (hexDigit n).toNat = some n := by decide
  exact hall n h

def unitDigits (unit : ℕ) : PyStr :=
  [(hexDigit (unit/4096%16)).toNat, (hexDigit (unit/256%16)).toNat, (hexDigit (unit/16%16)).toNat,
    (hexDigit (unit%16)).toNat]

/-- The four digits of an escape, in front of anything. -/
theorem readUnit_unitDigits {unit : ℕ} (h : unit < 0x10000) (s : PyStr) :
    readUnit (unitDigits unit ++ s) = some unit := by
  simp only [unitDigits, List.cons_append, List.nil_append, readUnit,
    hexValue_hexDigit (Nat.mod_lt _ (by norm_num : 16 > 0)), Option.bind_eq_bind,
    Option.bind_some, Option.pure_def, Option.some.injEq]
  omega

/-- The cases of `escapeChar`, as text. -/
theorem escapeText_cases {c : ℕ} (h : c < 0x110000) :
    (∃ e, escapeText c = [0x5C, e] ∧ e ≠ 0x75 ∧ ∀ s, readEscape (e :: s) = some (c, 1)) ∨
    (escapeText c = [c] ∧ c ≠ 0x22 ∧ c ≠ 0x5C ∧ 0x20 ≤ c) ∨
    (c < 0x10000 ∧ escapeText c = 0x5C :: 0x75 :: unitDigits c) ∨
    ∃ high low, isHighSurrogate high ∧ isLowSurrogate low ∧ high < 0x10000 ∧ low < 0x10000 ∧
      c = 0x10000 + (high-0xD800)*0x400 + (low-0xDC00) ∧
      escapeText c = 0x5C :: 0x75 :: (unitDigits high ++ 0x5C :: 0x75 :: unitDigits low) := by
  -- seven letters of their own, what stands for itself, and one or two escapes
  unfold escapeText escapeChar
  split_ifs with h₁ h₂ h₃ h₄ h₅ h₆ h₇ h₈ h₉
  · exact .inl ⟨0x22, rfl, by decide, fun s => by rw [h₁]; rfl⟩
  · exact .inl ⟨0x5C, rfl, by decide, fun s => by rw [h₂]; rfl⟩
  · exact .inl ⟨0x62, rfl, by decide, fun s => by rw [h₃]; rfl⟩
  · exact .inl ⟨0x74, rfl, by decide, fun s => by rw [h₄]; rfl⟩
  · exact .inl ⟨0x6E, rfl, by decide, fun s => by rw [h₅]; rfl⟩
  · exact .inl ⟨0x66, rfl, by decide, fun s => by rw [h₆]; rfl⟩
  · exact .inl ⟨0x72, rfl, by decide, fun s => by rw [h₇]; rfl⟩
  · refine .inr (.inl ⟨?_, h₁, h₂, h₈.1⟩)
    rw [List.map_singleton, toNat_ofNat (by omega)]
  · exact .inr (.inr (.inl ⟨h₉, rfl⟩))
  · refine .inr (.inr (.inr ⟨0xD800 + (c-0x10000)/0x400, 0xDC00 + (c-0x10000)%0x400,
      ?_, ?_, by omega, by omega, by omega, rfl⟩))
    · simp only [isHighSurrogate, decide_eq_true_eq]; omega
    · simp only [isLowSurrogate, decide_eq_true_eq]; omega

/-- An escape of one unit is read as that unit, where it cannot be joined with what follows. -/
theorem readUnicodeEscape_unit {unit : ℕ} {s : PyStr} (hunit : readUnit s = some unit)
    (hjoin : isHighSurrogate unit = true → NoLow (s.drop 4)) :
    readUnicodeEscape s = some (unit, 5) := by
  unfold readUnicodeEscape
  simp only [hunit, Option.bind_eq_bind, Option.bind_some]
  split_ifs with hhigh
  · obtain ⟨low, hlow, hno⟩ := hjoin hhigh.1 hhigh.2
    rw [List.drop_drop] at hlow
    rw [hlow, Option.bind_some, hno]
    rfl
  · rfl

theorem readUnicodeEscape_pair {high low : ℕ} {s : PyStr} (hunit : readUnit s = some high)
    (hnext : (s.drop 4).take 2 = [0x5C, 0x75]) (hlow : readUnit (s.drop 6) = some low)
    (hhigh : isHighSurrogate high) (hislow : isLowSurrogate low) :
    readUnicodeEscape s = some (0x10000 + (high-0xD800)*0x400 + (low-0xDC00), 11) := by
  unfold readUnicodeEscape
  simp only [hunit, Option.bind_eq_bind, Option.bind_some, hhigh, hnext, hlow, hislow]
  rfl

theorem scanStringAfter_skip (taken s : PyStr) :
    scanStringAfter taken.length (taken ++ s) = scanStringAfter 0 s := by
  induction taken with
  | nil => rfl
  | cons c taken ih => rw [List.cons_append, List.length_cons, scanStringAfter, ih]

/-- An escape is read as its character, and the text goes on after it. -/
theorem scanStringAfter_escape (taken : PyStr) {s : PyStr} {x : ℕ}
    (hread : readEscape (taken ++ s) = some (x, taken.length)) :
    scanStringAfter 0 (0x5C :: taken ++ s) =
      (scanStringAfter 0 s).map fun r => (x :: r.1, r.2) := by
  rw [List.cons_append, scanStringAfter, if_neg (by decide), if_pos rfl, hread]
  simp only [scanStringAfter_skip]

/-- One character is read from what was written for it. -/
theorem scanStringAfter_escapeText {c : ℕ} (hc : c < 0x110000) {s : PyStr}
    (hjoin : isHighSurrogate c = true → NoLow s) :
    scanStringAfter 0 (escapeText c ++ s) = (scanStringAfter 0 s).map fun r => (c :: r.1, r.2) := by
  rcases escapeText_cases hc with ⟨e, htext, -, hread⟩ | ⟨htext, h₁, h₂, h₃⟩ | ⟨hsmall, htext⟩ |
    ⟨high, low, hhigh, hlow, hlt, hlt', hvalue, htext⟩
  · rw [htext]
    exact scanStringAfter_escape [e] (hread s)
  · rw [htext, List.singleton_append, scanStringAfter, if_neg h₁, if_neg h₂,
      if_neg (Nat.not_lt.mpr h₃)]
  · rw [htext]
    apply scanStringAfter_escape (0x75 :: unitDigits c)
    exact readUnicodeEscape_unit (readUnit_unitDigits hsmall s) hjoin
  · rw [htext]
    apply scanStringAfter_escape (0x75 :: (unitDigits high ++ 0x5C :: 0x75 :: unitDigits low))
    have hunit := readUnit_unitDigits hlt (0x5C :: 0x75 :: unitDigits low ++ s)
    rw [← List.append_assoc] at hunit
    rw [hvalue]
    exact readUnicodeEscape_pair hunit rfl (readUnit_unitDigits hlt' s) hhigh hlow

theorem surrogates_apart {unit : ℕ} (h : isHighSurrogate unit = true) :
    isLowSurrogate unit = false := by
  simp only [isHighSurrogate, isLowSurrogate, decide_eq_true_eq, decide_eq_false_iff_not] at h ⊢
  omega

/-- What is written for a character starts with no escaped low surrogate, unless it is one. -/
theorem noLow_escapeText {c : ℕ} (hc : c < 0x110000) (hlow : isLowSurrogate c = false) (s : PyStr) :
    NoLow (escapeText c ++ s) := by
  intro hstart
  rcases escapeText_cases hc with ⟨e, htext, he, -⟩ | ⟨htext, -, h₂, -⟩ | ⟨hsmall, htext⟩ |
    ⟨high, low, hhigh, -, hlt, -, -, htext⟩
  · rw [htext] at hstart
    simp only [List.cons_append, List.take_succ_cons, List.cons.injEq] at hstart
    exact absurd hstart.2.1 he
  · rw [htext, List.singleton_append, List.take_succ_cons, List.cons.injEq] at hstart
    exact absurd hstart.1 h₂
  · rw [htext]
    exact ⟨c, readUnit_unitDigits hsmall s, hlow⟩
  · rw [htext]
    refine ⟨high, ?_, surrogates_apart hhigh⟩
    have hunit := readUnit_unitDigits hlt (0x5C :: 0x75 :: unitDigits low ++ s)
    rwa [← List.append_assoc] at hunit

/-- A string is read up to its closing quote. -/
theorem scanString_escaped {text : PyStr} (h : Joined text) (rest : PyStr) :
    scanString (text.flatMap escapeText ++ 0x22 :: rest) = some (text, rest) := by
  obtain ⟨hchain, hlt⟩ := h
  unfold scanString
  induction text with
  | nil => rfl
  | cons c text ih =>
    have htext := ih hchain.tail fun x hx => hlt x (List.mem_cons_of_mem _ hx)
    rw [List.flatMap_cons, List.append_assoc,
      scanStringAfter_escapeText (hlt c List.mem_cons_self), htext]
    · rfl
    · intro hhigh
      cases text with
      -- the closing quote is no escape
      | nil =>
        intro hstart
        cases hstart
      | cons d text =>
        rw [List.flatMap_cons, List.append_assoc]
        apply noLow_escapeText (hlt d (by simp))
        have hpair := (List.isChain_cons_cons.mp hchain).1
        rw [Bool.eq_false_iff]
        exact fun hlow => hpair ⟨hhigh, hlow⟩

/-- What can stand after a value inside what `json.dumps` writes. -/
def EndsValue (rest : PyStr) : Prop := ∀ c ∈ rest.head?, c = 0x2C ∨ c = 0x5D ∨ c = 0x7D

theorem EndsValue.head {c : ℕ} {rest : PyStr} (h : EndsValue (c :: rest)) :
    c = 0x2C ∨ c = 0x5D ∨ c = 0x7D := h c rfl

theorem readSign_rest {s : PyStr} (hs : s ≠ []) (rest : PyStr) :
    readSign (s ++ rest) = ((readSign s).1, (readSign s).2 ++ rest) := by
  cases s with
  | nil => exact absurd rfl hs
  | cons c s =>
    simp only [List.cons_append, readSign]
    split_ifs <;> rfl

section
variable {rest : PyStr} (hrest : EndsValue rest)
include hrest

theorem takeWhile_rest (s : PyStr) : (s ++ rest).takeWhile isDigit = s.takeWhile isDigit ∧
    (s ++ rest).dropWhile isDigit = s.dropWhile isDigit ++ rest := by
  induction s with
  | nil =>
    cases rest with
    | nil => exact ⟨rfl, rfl⟩
    | cons c rest =>
      have hc : isDigit c = false := by
        rcases hrest.head with rfl | rfl | rfl <;> rfl
      simp only [List.nil_append, List.takeWhile_cons, List.dropWhile_cons, hc, List.takeWhile_nil,
        List.dropWhile_nil]
      exact ⟨rfl, rfl⟩
  | cons c s ih =>
    rw [List.cons_append, List.takeWhile_cons, List.dropWhile_cons, List.takeWhile_cons,
      List.dropWhile_cons, ih.1, ih.2]
    split_ifs <;> exact ⟨rfl, rfl⟩

theorem readDigits_rest (s : PyStr) :
    readDigits (s ++ rest) = ((readDigits s).1, (readDigits s).2 ++ rest) := by
  cases s with
  | nil =>
    cases rest with
    | nil => rfl
    | cons c rest =>
      rcases hrest.head with rfl | rfl | rfl <;> rfl
  | cons c s =>
    have hspan := takeWhile_rest hrest (c :: s)
    simp only [List.cons_append, readDigits]
    split_ifs
    · rfl
    · rw [List.span_eq_takeWhile_dropWhile, List.span_eq_takeWhile_dropWhile,
        ← List.cons_append, hspan.1, hspan.2]

theorem readFrac_rest (s : PyStr) :
    readFrac (s ++ rest) = ((readFrac s).1, (readFrac s).2 ++ rest) := by
  cases s with
  | nil =>
    cases rest with
    | nil => rfl
    | cons c rest =>
      rcases hrest.head with rfl | rfl | rfl <;> rfl
  | cons c s =>
    obtain ⟨htake, hdrop⟩ := takeWhile_rest hrest s
    simp only [List.cons_append, readFrac, htake, hdrop]
    split_ifs <;> rfl

theorem readExpSign_rest (s : PyStr) :
    readExpSign (s ++ rest) = ((readExpSign s).1, (readExpSign s).2 ++ rest) := by
  cases s with
  | nil =>
    cases rest with
    | nil => rfl
    | cons c rest =>
      rcases hrest.head with rfl | rfl | rfl <;> rfl
  | cons c s =>
    simp only [List.cons_append, readExpSign]
    split_ifs <;> rfl

theorem readExp_rest (s : PyStr) :
    readExp (s ++ rest) = ((readExp s).1, (readExp s).2 ++ rest) := by
  cases s with
  | nil =>
    cases rest with
    | nil => rfl
    | cons c rest =>
      simp only [List.nil_append, readExp]
      rw [if_neg]
      rintro ⟨rfl | rfl, -⟩ <;> simp [EndsValue] at hrest
  | cons c s =>
    obtain ⟨htake, hdrop⟩ := takeWhile_rest hrest (readExpSign s).2
    simp only [List.cons_append, readExp, readExpSign_rest hrest s, htake, hdrop]
    split_ifs <;> rfl

/-- A number is read to its end, and only to its end. -/
theorem readNumber_rest {s : PyStr} {number : NumberText} (h : readNumber s = some number) :
    readNumber (s ++ rest) = some { number with rest := number.rest ++ rest } := by
  have hs : s ≠ [] := by
    rintro rfl
    cases h
  simp only [readNumber, readSign_rest hs, readDigits_rest hrest, readFrac_rest hrest,
    readExp_rest hrest] at h ⊢
  split_ifs at h ⊢
  cases h
  rfl

end

def digitsText (n : ℕ) : PyStr := (Nat.toDigits 10 n).map Char.toNat

def signText (value : ℤ) : PyStr := if value < 0 then [0x2D] else []

theorem pyStr_toString (value : ℤ) :
    pyStr (toString value) = signText value ++ digitsText value.natAbs := by
  cases value with
  | ofNat n =>
    rw [signText, if_neg (by simp)]
    exact congrArg (List.map Char.toNat) Nat.toList_repr
  | negSucc n =>
    have hrepr : toString (Int.negSucc n) = "-" ++ Nat.repr (n+1) := rfl
    rw [signText, if_pos (Int.negSucc_lt_zero n), hrepr, pyStr, String.toList_append,
      List.map_append, Nat.toList_repr]
    rfl

theorem isDigit_digitsText {n c : ℕ} (h : c ∈ digitsText n) : isDigit c = true := by
  obtain ⟨d, hd, rfl⟩ := List.mem_map.mp h
  have hdigit := Nat.isDigit_of_mem_toDigits (by norm_num) (by norm_num) hd
  simp only [Char.isDigit, Bool.and_eq_true, decide_eq_true_eq, UInt32.le_iff_toNat_le] at hdigit
  simp only [isDigit, decide_eq_true_eq]
  exact hdigit

theorem digitsValue_digitsText (n : ℕ) : digitsValue (digitsText n) = n := by
  have h := Nat.ofDigitChars_ten_toDigits (n := n)
  rw [Nat.ofDigitChars_eq_foldl] at h
  rw [digitsValue, digitsText, List.foldl_map]
  simp only [Nat.mul_comm 10] at h
  exact h

/-- No zero in front, unless it is all there is. -/
theorem digitsText_head (n : ℕ) :
    ∃ c s, digitsText n = c :: s ∧ (n = 0 ∧ s = [] ∨ c ≠ 0x30) := by
  induction n using Nat.strong_induction_on with
  | _ n ih =>
    rw [digitsText, Nat.toDigits_eq_if (by norm_num)]
    split_ifs with hlt
    · refine ⟨_, _, rfl, ?_⟩
      by_cases hn : n = 0
      · exact .inl ⟨hn, rfl⟩
      · refine .inr fun h => hn ?_
        exact Nat.digitChar_eq_zero.mp (Char.toNat_inj.mp h)
    · obtain ⟨c, s, hs, hc⟩ := ih (n/10) (by omega)
      rw [List.map_append, show (Nat.toDigits 10 (n/10)).map Char.toNat = c :: s from hs]
      refine ⟨c, _, rfl, .inr (hc.resolve_left ?_)⟩
      rintro ⟨h, -⟩
      omega

/-- An integer is one number, without fraction and exponent. -/
theorem readNumber_toString (value : ℤ) :
    readNumber (pyStr (toString value)) =
      some ⟨signText value, digitsText value.natAbs, [], [], []⟩ := by
  obtain ⟨c, s, hs, hc⟩ := digitsText_head value.natAbs
  have hdigit : isDigit c = true := isDigit_digitsText (hs ▸ List.mem_cons_self)
  have hsign : readSign (signText value ++ digitsText value.natAbs) =
      (signText value, digitsText value.natAbs) := by
    rw [signText]
    split_ifs
    · rfl
    · have hminus : c ≠ 0x2D := by
        rintro rfl
        cases hdigit
      rw [List.nil_append, hs, readSign, if_neg hminus]
  have hdigits : readDigits (digitsText value.natAbs) = (digitsText value.natAbs, []) := by
    rw [hs, readDigits]
    -- a zero stands alone, other numbers are digits to the end
    split_ifs with hzero
    · obtain ⟨-, rfl⟩ := hc.resolve_right (not_not.mpr hzero)
      rfl
    · have hall : ∀ d ∈ c :: s, isDigit d = true := fun d hd => isDigit_digitsText (hs ▸ hd)
      rw [List.span_eq_takeWhile_dropWhile, List.takeWhile_eq_self_iff.mpr hall,
        List.dropWhile_eq_nil_iff.mpr hall]
  simp only [readNumber, pyStr_toString, hsign, hdigits, readFrac, readExp]
  rw [if_neg (by rw [hs]; exact List.cons_ne_nil c s)]

/-- A number starts with a digit, or a minus and a digit. -/
theorem readNumber_head {s : PyStr} {number : NumberText} (h : readNumber s = some number) :
    ∃ d s', isDigit d = true ∧ (s = d :: s' ∨ s = 0x2D :: d :: s') := by
  have hdigits (s : PyStr) (h : (readDigits s).1 ≠ []) :
      ∃ d s', isDigit d = true ∧ s = d :: s' := by
    cases s with
    | nil => exact absurd rfl h
    | cons c s =>
      refine ⟨c, s, ?_, rfl⟩
      rw [readDigits] at h
      split_ifs at h with hzero
      · rw [hzero]
        rfl
      · rw [List.span_eq_takeWhile_dropWhile] at h
        by_contra hc
        rw [List.takeWhile_cons, if_neg hc] at h
        exact h rfl
  simp only [readNumber] at h
  split_ifs at h with hnil
  obtain ⟨d, s', hd, hs⟩ := hdigits _ hnil
  refine ⟨d, s', hd, ?_⟩
  cases s with
  | nil => cases hs
  | cons c s =>
    -- the sign is taken off before the digits are looked at
    rw [readSign] at hs
    split_ifs at hs with hminus
    · have hs' : s = d :: s' := hs
      exact .inr (by rw [hminus, hs'])
    · exact .inl hs

/-- No number is a constant. -/
theorem readConstant_number {s : PyStr} {number : NumberText} (h : readNumber s = some number) :
    readConstant s = none := by
  obtain ⟨d, s', hd, hs⟩ := readNumber_head h
  simp only [isDigit, decide_eq_true_eq] at hd
  apply List.findSome?_eq_none_iff.mpr
  intro constant hmem
  apply if_neg
  simp only [constants, List.mem_cons, List.not_mem_nil, or_false] at hmem
  rcases hmem with rfl | rfl | rfl | rfl | rfl | rfl <;> rcases hs with rfl | rfl <;>
    simp [pyStr] <;> omega

theorem readConstant_constant {constant : String × Json} (h : constant ∈ constants) (rest : PyStr) :
    readConstant (pyStr constant.1 ++ rest) = some (constant.2, rest) := by
  simp only [constants, List.mem_cons, List.not_mem_nil, or_false] at h
  rcases h with rfl | rfl | rfl | rfl | rfl | rfl <;> simp [readConstant, constants, pyStr]

def dumpsText (value : Json) : PyStr := (dumps value).map UInt8.toNat

def itemsText (items : List Json) : PyStr := (dumpsItems items).map UInt8.toNat

def fieldsText (fields : List (PyStr × Json)) : PyStr := (dumpsFields fields).map UInt8.toNat

/-- ASCII text is encoded by one byte for each character. -/
theorem utf8_ascii {text : String} (h : ∀ c ∈ pyStr text, c < 0x80) :
    (utf8 text).map UInt8.toNat = pyStr text := by
  rw [utf8_eq, pyStr, List.map_flatMap]
  have hchar : ∀ c ∈ text.toList, (String.utf8EncodeChar c).map UInt8.toNat = [c.toNat] := by
    intro c hc
    have hlt : c.val.toNat < 0x80 := h _ (List.mem_map_of_mem hc)
    unfold String.utf8EncodeChar
    rw [if_pos (by omega), List.map_singleton]
    exact congrArg (fun n => [n]) (toNat_ofNat (by omega))
  rw [List.flatMap_congr hchar, List.map_eq_flatMap]

theorem dumpsStr_text (text : PyStr) :
    (dumpsStr text).map UInt8.toNat = 0x22 :: (text.flatMap escapeText ++ [0x22]) := by
  simp only [dumpsStr, List.map_append, List.map_flatMap]
  rfl

theorem dumpsText_str (text : PyStr) :
    dumpsText (.str text) = 0x22 :: (text.flatMap escapeText ++ [0x22]) := by
  rw [dumpsText, dumps, dumpsStr_text]

theorem dumpsText_arr (items : List Json) :
    dumpsText (.arr items) = 0x5B :: (itemsText items ++ [0x5D]) := by
  rw [dumpsText, dumps, List.map_append, List.map_append]
  rfl

theorem dumpsText_obj (fields : List (PyStr × Json)) :
    dumpsText (.obj fields) = 0x7B :: (fieldsText fields ++ [0x7D]) := by
  rw [dumpsText, dumps, List.map_append, List.map_append]
  rfl

theorem itemsText_cons (item next : Json) (items : List Json) :
    itemsText (item :: next :: items) = dumpsText item ++ 0x2C :: itemsText (next :: items) := by
  rw [itemsText, dumpsItems, List.map_append, List.map_append, List.append_assoc]
  · rfl
  · intro h; cases h

theorem itemsText_singleton (item : Json) : itemsText [item] = dumpsText item := by
  rw [itemsText, dumpsItems, dumpsText]

theorem fieldsText_cons (key : PyStr) (value : Json) (next : PyStr × Json)
    (fields : List (PyStr × Json)) :
    fieldsText ((key, value) :: next :: fields) = 0x22 :: (key.flatMap escapeText ++
      0x22 :: 0x3A :: (dumpsText value ++ 0x2C :: fieldsText (next :: fields))) := by
  rw [fieldsText, dumpsFields]
  · simp only [List.map_append, dumpsStr_text, List.cons_append, List.append_assoc,
      List.nil_append, List.map_cons, dumpsText, fieldsText]
    rfl
  · intro h; cases h

theorem fieldsText_singleton (key : PyStr) (value : Json) :
    fieldsText [(key, value)] =
      0x22 :: (key.flatMap escapeText ++ 0x22 :: 0x3A :: dumpsText value) := by
  rw [fieldsText, dumpsFields]
  simp only [List.map_append, dumpsStr_text, List.cons_append, List.append_assoc,
    List.nil_append, List.map_cons, dumpsText]
  rfl

end Gear360
