import Gear360.InsertionDict
import Gear360.Utf8

/-! `json.loads` on the bytes of a message. Nothing stands for a `ValueError`. -/
namespace Gear360

/-- `b₀` starts a code point, and the bytes after it go on with it. -/
def decodesNext (b₀ : UInt8) (rest : Bytes) : Bool :=
  let second := isContinuation (secondBounds b₀).1 (secondBounds b₀).2 rest[0]?
  let third := isContinuation 0x80 0xBF rest[1]?
  let fourth := isContinuation 0x80 0xBF rest[2]?
  if b₀ < 0x80 then true
  else if 0xC2 ≤ b₀ ∧ b₀ ≤ 0xDF then second
  else if 0xE0 ≤ b₀ ∧ b₀ ≤ 0xEF then second && third
  else if 0xF0 ≤ b₀ ∧ b₀ ≤ 0xF4 then second && third && fourth
  else false

/-- The first `skip` bytes belong to a code point that is already there. -/
def decodeStrictAfter : ℕ → Bytes → Option PyStr
  | _, [] => some []
  | skip+1, _ :: rest => decodeStrictAfter skip rest
  | 0, b₀ :: rest =>
    if decodesNext b₀ rest then
      (decodeStrictAfter (decodeNext b₀ rest).2 rest).map ((decodeNext b₀ rest).1 :: ·)
    else none

def decodeStrict (data : Bytes) : Option PyStr := decodeStrictAfter 0 data

def isHighSurrogate (unit : ℕ) : Bool := 0xD800 ≤ unit ∧ unit ≤ 0xDBFF

def isLowSurrogate (unit : ℕ) : Bool := 0xDC00 ≤ unit ∧ unit ≤ 0xDFFF

def hexValue (c : ℕ) : Option ℕ :=
  if 0x30 ≤ c ∧ c ≤ 0x39 then some (c-0x30)
  else if 0x61 ≤ c ∧ c ≤ 0x66 then some (c-0x57)
  else if 0x41 ≤ c ∧ c ≤ 0x46 then some (c-0x37)
  else none

/-- The four digits of a `\\u` escape. -/
def readUnit : PyStr → Option ℕ
  | a :: b :: c :: d :: _ => do
    return (← hexValue a)*4096 + (← hexValue b)*256 + (← hexValue c)*16 + (← hexValue d)
  | _ => none

/-- The character after a backslash and a `u`, and how many characters stand for it after the
backslash. Two surrogates in a row are one character. -/
def readUnicodeEscape (s : PyStr) : Option (ℕ × ℕ) := do
  let unit ← readUnit s
  if isHighSurrogate unit ∧ (s.drop 4).take 2 = [0x5C, 0x75] then
    let low ← readUnit (s.drop 6)
    if isLowSurrogate low then
      return (0x10000 + (unit-0xD800)*0x400 + (low-0xDC00), 11)
  return (unit, 5)

/-- The character after a backslash. -/
def readEscape : PyStr → Option (ℕ × ℕ)
  | [] => none
  | c :: s =>
    if c = 0x75 then readUnicodeEscape s
    else if c = 0x22 ∨ c = 0x5C ∨ c = 0x2F then some (c, 1)
    else if c = 0x62 then some (0x08, 1)
    else if c = 0x66 then some (0x0C, 1)
    else if c = 0x6E then some (0x0A, 1)
    else if c = 0x72 then some (0x0D, 1)
    else if c = 0x74 then some (0x09, 1)
    else none

/-- The text up to the closing quote, and what follows it. The first `skip` characters belong to
an escape that is already there. -/
def scanStringAfter : ℕ → PyStr → Option (PyStr × PyStr)
  | _, [] => none
  | skip+1, _ :: s => scanStringAfter skip s
  | 0, c :: s =>
    if c = 0x22 then some ([], s)
    else if c = 0x5C then
      match readEscape s with
      | none => none
      | some (x, taken) => (scanStringAfter taken s).map fun r => (x :: r.1, r.2)
    -- control characters are not allowed
    else if c < 0x20 then none
    else (scanStringAfter 0 s).map fun r => (c :: r.1, r.2)

def scanString (s : PyStr) : Option (PyStr × PyStr) := scanStringAfter 0 s

def isDigit (c : ℕ) : Bool := 0x30 ≤ c ∧ c ≤ 0x39

/-- `-?(0|[1-9][0-9]*)(\\.[0-9]+)?([eE][-+]?[0-9]+)?` and what follows it. -/
structure NumberText where
  sign : PyStr
  digits : PyStr
  frac : PyStr
  exp : PyStr
  rest : PyStr
deriving DecidableEq

def readSign : PyStr → PyStr × PyStr
  | c :: s => if c = 0x2D then ([c], s) else ([], c :: s)
  | [] => ([], [])

/-- A zero stands alone. -/
def readDigits : PyStr → PyStr × PyStr
  | c :: s => if c = 0x30 then ([c], s) else (c :: s).span isDigit
  | [] => ([], [])

/-- A point without digits after it is not read. -/
def readFrac : PyStr → PyStr × PyStr
  | c :: s =>
    if c = 0x2E ∧ (s.takeWhile isDigit) ≠ [] then (c :: s.takeWhile isDigit, s.dropWhile isDigit)
    else ([], c :: s)
  | [] => ([], [])

def readExpSign : PyStr → PyStr × PyStr
  | c :: s => if c = 0x2D ∨ c = 0x2B then ([c], s) else ([], c :: s)
  | [] => ([], [])

def readExp : PyStr → PyStr × PyStr
  | c :: s =>
    let (sign, digits) := readExpSign s
    if (c = 0x65 ∨ c = 0x45) ∧ digits.takeWhile isDigit ≠ [] then
      (c :: sign ++ digits.takeWhile isDigit, digits.dropWhile isDigit)
    else ([], c :: s)
  | [] => ([], [])

def readNumber (s : PyStr) : Option NumberText :=
  let sign := readSign s
  let digits := readDigits sign.2
  let frac := readFrac digits.2
  let exp := readExp frac.2
  if digits.1 = [] then none else some ⟨sign.1, digits.1, frac.1, exp.1, exp.2⟩

def digitsValue (digits : PyStr) : ℕ := digits.foldl (fun value c => value*10 + (c-0x30)) 0

/-- `int` refuses longer texts, with a `ValueError`. -/
def INT_MAX_STR_DIGITS : ℕ := 4300

/-- What `json.dumps` writes for `float(text)`. Reading it back gives the same float, and an
overflow is written as a constant. -/
structure FloatRepr where
  repr : PyStr → String
  repr_ascii : ∀ text, ∀ c ∈ pyStr (repr text), c < 0x80
  repr_reads : ∀ text, repr text = "Infinity" ∨ repr text = "-Infinity" ∨
    ∃ number, readNumber (pyStr (repr text)) = some number ∧ number.rest = [] ∧
      number.frac ++ number.exp ≠ [] ∧ repr (pyStr (repr text)) = repr text

def isSpace (c : ℕ) : Bool := c = 0x20 ∨ c = 0x09 ∨ c = 0x0A ∨ c = 0x0D

def skipSpace (s : PyStr) : PyStr := s.dropWhile isSpace

def constants : List (String × Json) :=
  [("null", .null), ("true", .bool true), ("false", .bool false), ("NaN", .float "NaN"),
    ("Infinity", .float "Infinity"), ("-Infinity", .float "-Infinity")]

/-- A constant and what follows it. -/
def readConstant (s : PyStr) : Option (Json × PyStr) :=
  constants.findSome? fun constant =>
    if pyStr constant.1 <+: s then some (constant.2, s.drop (pyStr constant.1).length) else none

section
variable (F : FloatRepr)

def scanNumber (s : PyStr) : Option (Json × PyStr) := do
  let number ← readNumber s
  if number.frac ++ number.exp = [] then
    if INT_MAX_STR_DIGITS < number.digits.length then none
    else
      let value : ℤ := digitsValue number.digits
      some (.int (if number.sign = [] then value else -value), number.rest)
  else
    some (.float (F.repr (number.sign ++ number.digits ++ number.frac ++ number.exp)), number.rest)

mutual

/-- `scan_once`: the value at the front and what follows it. -/
def scanOnce : ℕ → PyStr → Option (Json × PyStr)
  | 0, _ => none
  | _, [] => none
  | fuel+1, c :: s =>
    if c = 0x22 then (scanString s).map fun r => (.str r.1, r.2)
    else if c = 0x7B then
      let s := skipSpace s
      if s.head? = some 0x7D then some (.obj [], s.tail) else scanFields fuel [] s
    else if c = 0x5B then
      let s := skipSpace s
      if s.head? = some 0x5D then some (.arr [], s.tail) else scanItems fuel [] s
    else
      match readConstant (c :: s) with
      | some r => some r
      | none => scanNumber F (c :: s)

/-- The items from here on, after those that are already there. -/
def scanItems : ℕ → List Json → PyStr → Option (Json × PyStr)
  | 0, _, _ => none
  | fuel+1, items, s => do
    let (item, s) ← scanOnce fuel s
    match skipSpace s with
    | c :: s =>
      if c = 0x5D then return (.arr (items ++ [item]), s)
      else if c = 0x2C then scanItems fuel (items ++ [item]) (skipSpace s)
      else none
    | [] => none

/-- The fields from here on, after those that are already there. -/
def scanFields : ℕ → List (PyStr × Json) → PyStr → Option (Json × PyStr)
  | 0, _, _ => none
  | _, _, [] => none
  | fuel+1, fields, c :: s =>
    if c ≠ 0x22 then none
    else do
      let (key, s) ← scanString s
      match skipSpace s with
      | [] => none
      | c :: s =>
        if c ≠ 0x3A then none
        else
          let (value, s) ← scanOnce fuel (skipSpace s)
          match skipSpace s with
          | c :: s =>
            if c = 0x7D then return (.obj (InsertionDict.insert fields key value), s)
            else if c = 0x2C then
              scanFields fuel (InsertionDict.insert fields key value) (skipSpace s)
            else none
          | [] => none

end

/-- `json.loads` of a text. An array takes two turns for an item of one character. -/
def loadsText (text : PyStr) : Option Json :=
  if text.head? = some 0xFEFF then none
  else do
    let (value, s) ← scanOnce F (2*text.length+1) (skipSpace text)
    if skipSpace s = [] then return value else none

/-- `json.loads(data.decode("utf-8"))` -/
def loads (data : Bytes) : Option Json := decodeStrict data >>= loadsText F

end

theorem skipSpace_suffix (s : PyStr) : skipSpace s <:+ s := List.dropWhile_suffix _

/-- `rest` is what follows something in `s`. -/
def Follows (rest s : PyStr) : Prop := rest <:+ s ∧ rest.length < s.length

theorem Follows.trans_suffix {rest s s' : PyStr} (h : Follows rest s) (hs : s <:+ s') :
    Follows rest s' := ⟨h.1.trans hs, h.2.trans_le hs.length_le⟩

theorem Follows.suffix_trans {rest rest' s : PyStr} (h : Follows rest s) (hs : rest' <:+ rest) :
    Follows rest' s := ⟨hs.trans h.1, hs.length_le.trans_lt h.2⟩

theorem Follows.cons {rest s : PyStr} {c : ℕ} (h : rest <:+ s) : Follows rest (c :: s) :=
  ⟨h.trans (List.suffix_cons c s), Nat.lt_succ_of_le h.length_le⟩

theorem Follows.space {rest s : PyStr} {c : ℕ} (h : skipSpace s = c :: rest) : rest <:+ s :=
  (List.suffix_cons c rest).trans (h ▸ skipSpace_suffix s)

theorem scanStringAfter_follows {skip : ℕ} {s text rest : PyStr}
    (h : scanStringAfter skip s = some (text, rest)) : Follows rest s := by
  fun_induction scanStringAfter skip s generalizing text with
  | case1 => cases h
  | case2 skip c s ih => exact .cons (ih h).1
  | case3 s =>
    cases h
    exact .cons (List.suffix_refl _)
  | case4 s h₁ hescape => cases h
  | case5 s h₁ x taken hescape ih =>
    obtain ⟨r, hr, heq⟩ := Option.map_eq_some_iff.mp h
    cases heq
    exact .cons (ih hr).1
  | case6 => cases h
  | case7 c s h₁ h₂ h₃ ih =>
    obtain ⟨r, hr, heq⟩ := Option.map_eq_some_iff.mp h
    cases heq
    exact .cons (ih hr).1

theorem readSign_append (s : PyStr) : (readSign s).1 ++ (readSign s).2 = s := by
  unfold readSign
  grind

theorem readDigits_append (s : PyStr) : (readDigits s).1 ++ (readDigits s).2 = s := by
  unfold readDigits
  grind [List.span_eq_takeWhile_dropWhile, List.takeWhile_append_dropWhile]

theorem readFrac_append (s : PyStr) : (readFrac s).1 ++ (readFrac s).2 = s := by
  unfold readFrac
  grind [List.takeWhile_append_dropWhile]

theorem readExp_append (s : PyStr) : (readExp s).1 ++ (readExp s).2 = s := by
  have hsign (s : PyStr) : (readExpSign s).1 ++ (readExpSign s).2 = s := by
    unfold readExpSign
    grind
  unfold readExp
  grind [List.takeWhile_append_dropWhile]

/-- A number has digits, and is what was read of it and the rest. -/
theorem readNumber_append {s : PyStr} {number : NumberText} (h : readNumber s = some number) :
    number.digits ≠ [] ∧
      number.sign ++ (number.digits ++ (number.frac ++ (number.exp ++ number.rest))) = s := by
  simp only [readNumber] at h
  split_ifs at h with hnil
  cases h
  exact ⟨hnil, by rw [readExp_append, readFrac_append, readDigits_append, readSign_append]⟩

theorem readConstant_follows {s rest : PyStr} {value : Json}
    (h : readConstant s = some (value, rest)) : Follows rest s := by
  obtain ⟨constant, hmem, hread⟩ := List.exists_of_findSome?_eq_some h
  have hword : 0 < (pyStr constant.1).length := by
    simp only [constants, List.mem_cons, List.not_mem_nil, or_false] at hmem
    rcases hmem with rfl | rfl | rfl | rfl | rfl | rfl <;> decide
  split_ifs at hread with hstart
  cases hread
  refine ⟨List.drop_suffix _ _, ?_⟩
  have hle := hstart.length_le
  rw [List.length_drop]
  omega

section
variable {F : FloatRepr}

theorem scanNumber_follows {s rest : PyStr} {value : Json}
    (h : scanNumber F s = some (value, rest)) : Follows rest s := by
  obtain ⟨number, hnumber, hvalue⟩ := Option.bind_eq_some_iff.mp h
  have hrest : number.rest = rest := by
    split_ifs at hvalue <;> cases hvalue <;> rfl
  obtain ⟨hdigits, happend⟩ := readNumber_append hnumber
  subst hrest
  have hlen := congrArg List.length happend
  have hpos := List.length_pos_iff.mpr hdigits
  simp only [List.length_append] at hlen
  refine ⟨⟨number.sign ++ number.digits ++ number.frac ++ number.exp, ?_⟩, by omega⟩
  rw [← happend]
  simp only [List.append_assoc]

/-- How a value may begin. -/
theorem scanOnce_cases {fuel : ℕ} {s rest : PyStr} {value : Json}
    (h : scanOnce F fuel s = some (value, rest)) : ∃ fuel' c s', fuel = fuel'+1 ∧ s = c :: s' ∧
      ((∃ text, value = .str text ∧ scanString s' = some (text, rest)) ∨
        (value = .obj [] ∧ rest = (skipSpace s').tail) ∨
        scanFields F fuel' [] (skipSpace s') = some (value, rest) ∨
        (value = .arr [] ∧ rest = (skipSpace s').tail) ∨
        scanItems F fuel' [] (skipSpace s') = some (value, rest) ∨
        readConstant s = some (value, rest) ∨ scanNumber F s = some (value, rest)) := by
  cases fuel with
  | zero => cases h
  | succ fuel =>
    cases s with
    | nil => cases h
    | cons c s =>
      refine ⟨fuel, c, s, rfl, rfl, ?_⟩
      simp only [scanOnce] at h
      split_ifs at h
      · obtain ⟨⟨text, rest⟩, htext, heq⟩ := Option.map_eq_some_iff.mp h
        cases heq
        exact .inl ⟨text, rfl, htext⟩
      · cases h
        exact .inr (.inl ⟨rfl, rfl⟩)
      · exact .inr (.inr (.inl h))
      · cases h
        exact .inr (.inr (.inr (.inl ⟨rfl, rfl⟩)))
      · exact .inr (.inr (.inr (.inr (.inl h))))
      · split at h
        · rename_i r hr
          cases h
          exact .inr (.inr (.inr (.inr (.inr (.inl hr)))))
        · exact .inr (.inr (.inr (.inr (.inr (.inr h)))))

/-- An item is read, then the end of the array or a comma. -/
theorem scanItems_cases {fuel : ℕ} {items : List Json} {s rest : PyStr} {value : Json}
    (h : scanItems F fuel items s = some (value, rest)) : ∃ fuel' item s₁ c s₂, fuel = fuel'+1 ∧
      scanOnce F fuel' s = some (item, s₁) ∧ skipSpace s₁ = c :: s₂ ∧
      ((value = .arr (items ++ [item]) ∧ rest = s₂) ∨
        scanItems F fuel' (items ++ [item]) (skipSpace s₂) = some (value, rest)) := by
  cases fuel with
  | zero => cases h
  | succ fuel =>
    obtain ⟨⟨item, s₁⟩, hitem, h⟩ := Option.bind_eq_some_iff.mp h
    simp only at h
    split at h
    · rename_i c s₂ hspace
      refine ⟨fuel, item, s₁, c, s₂, rfl, hitem, hspace, ?_⟩
      split_ifs at h
      · cases h
        exact .inl ⟨rfl, rfl⟩
      · exact .inr h
    · cases h

/-- A key is read, a colon and a value, then the end of the object or a comma. -/
theorem scanFields_cases {fuel : ℕ} {fields : List (PyStr × Json)} {s rest : PyStr} {value : Json}
    (h : scanFields F fuel fields s = some (value, rest)) :
    ∃ fuel' c₀ s₀ key s₁ c₁ s₂ field s₃ c₂ s₄, fuel = fuel'+1 ∧ s = c₀ :: s₀ ∧
      scanString s₀ = some (key, s₁) ∧ skipSpace s₁ = c₁ :: s₂ ∧
      scanOnce F fuel' (skipSpace s₂) = some (field, s₃) ∧ skipSpace s₃ = c₂ :: s₄ ∧
      ((value = .obj (InsertionDict.insert fields key field) ∧ rest = s₄) ∨
        scanFields F fuel' (InsertionDict.insert fields key field) (skipSpace s₄) =
          some (value, rest)) := by
  cases fuel with
  | zero => cases h
  | succ fuel =>
    cases s with
    | nil => cases h
    | cons c₀ s₀ =>
      simp only [scanFields] at h
      split_ifs at h
      obtain ⟨⟨key, s₁⟩, hkey, h⟩ := Option.bind_eq_some_iff.mp h
      simp only at h
      split at h
      · cases h
      rename_i c₁ s₂ hspace₁
      split_ifs at h
      obtain ⟨⟨field, s₃⟩, hfield, h⟩ := Option.bind_eq_some_iff.mp h
      simp only at h
      split at h
      · rename_i c₂ s₄ hspace₂
        refine ⟨fuel, c₀, s₀, key, s₁, c₁, s₂, field, s₃, c₂, s₄, rfl, rfl, hkey, hspace₁, hfield,
          hspace₂, ?_⟩
        split_ifs at h
        · cases h
          exact .inl ⟨rfl, rfl⟩
        · exact .inr h
      · cases h

/-- What is read is at the front of the text. -/
theorem scan_follows (fuel : ℕ) :
    (∀ s value rest, scanOnce F fuel s = some (value, rest) → Follows rest s) ∧
    (∀ items s value rest, scanItems F fuel items s = some (value, rest) → Follows rest s) ∧
    (∀ fields s value rest, scanFields F fuel fields s = some (value, rest) → Follows rest s) := by
  -- the three call each other with a turn less
  induction fuel with
  | zero => refine ⟨?_, ?_, ?_⟩ <;> intros <;> rename_i h <;> cases h
  | succ fuel ih =>
    obtain ⟨honce, hitems, hfields⟩ := ih
    refine ⟨?_, ?_, ?_⟩
    · intro s value rest h
      obtain ⟨_, c, s, hfuel, rfl, hcases⟩ := scanOnce_cases h
      cases hfuel
      have hnext {rest : PyStr} (h : rest <:+ skipSpace s) : Follows rest (c :: s) :=
        .cons (h.trans (skipSpace_suffix s))
      rcases hcases with ⟨text, -, htext⟩ | ⟨-, rfl⟩ | hmore | ⟨-, rfl⟩ | hmore | hconstant | hnumber
      · exact .cons (scanStringAfter_follows htext).1
      · exact hnext (List.tail_suffix _)
      · exact hnext (hfields _ _ _ _ hmore).1
      · exact hnext (List.tail_suffix _)
      · exact hnext (hitems _ _ _ _ hmore).1
      · exact readConstant_follows hconstant
      · exact scanNumber_follows hnumber
    · intro items s value rest h
      obtain ⟨_, item, s₁, c, s₂, hfuel, hitem, hspace, hcases⟩ := scanItems_cases h
      cases hfuel
      have hs₂ := (honce _ _ _ hitem).suffix_trans (Follows.space hspace)
      rcases hcases with ⟨-, rfl⟩ | hmore
      · exact hs₂
      · exact (hitems _ _ _ _ hmore).trans_suffix ((skipSpace_suffix s₂).trans hs₂.1)
    · intro fields s value rest h
      obtain ⟨_, c₀, s₀, key, s₁, c₁, s₂, field, s₃, c₂, s₄, hfuel, rfl, hkey, hspace₁, hfield,
        hspace₂, hcases⟩ := scanFields_cases h
      cases hfuel
      have hs₂ : s₂ <:+ s₀ := (Follows.space hspace₁).trans (scanStringAfter_follows hkey).1
      have hs₃ : s₃ <:+ s₀ := ((honce _ _ _ hfield).1.trans (skipSpace_suffix s₂)).trans hs₂
      have hs₄ : s₄ <:+ s₀ := (Follows.space hspace₂).trans hs₃
      rcases hcases with ⟨-, rfl⟩ | hmore
      · exact .cons hs₄
      · exact .cons (((hfields _ _ _ _ hmore).1.trans (skipSpace_suffix s₄)).trans hs₄)

/-- With two turns for each character, more turns change nothing. -/
theorem scan_turns (fuel : ℕ) :
    (∀ s, 2*s.length ≤ fuel → scanOnce F (fuel+1) s = scanOnce F fuel s) ∧
    (∀ items s, 2*s.length+1 ≤ fuel → scanItems F (fuel+1) items s = scanItems F fuel items s) ∧
    (∀ fields s, 2*s.length ≤ fuel →
      scanFields F (fuel+1) fields s = scanFields F fuel fields s) := by
  induction fuel with
  | zero =>
    refine ⟨?_, ?_, ?_⟩
    · intro s hs
      cases s with
      | nil => rfl
      | cons c s => simp at hs
    · intro items s hs
      omega
    · intro fields s hs
      cases s with
      | nil => rfl
      | cons c s => simp at hs
  | succ fuel ih =>
    -- each call is on a shorter text, by as much as the turns that it may take less
    obtain ⟨honce, hitems, hfields⟩ := ih
    have hspace (s : PyStr) : (skipSpace s).length ≤ s.length := (skipSpace_suffix s).length_le
    refine ⟨?_, ?_, ?_⟩
    · intro s hs
      cases s with
      | nil => rfl
      | cons c s =>
        have hlen := hspace s
        rw [List.length_cons] at hs
        simp only [scanOnce, hfields _ (skipSpace s) (by omega), hitems _ (skipSpace s) (by omega)]
    · intro items s hs
      rw [scanItems, scanItems, honce _ (by omega)]
      apply Option.bind_congr
      rintro ⟨item, s₁⟩ hitem
      have hs₁ := ((scan_follows fuel).1 _ _ _ hitem).2
      have hlen := hspace s₁
      match hspace₁ : skipSpace s₁ with
      | [] => simp only [hspace₁]
      | c :: s₂ =>
        rw [hspace₁, List.length_cons] at hlen
        have hlen₂ := hspace s₂
        simp only [hspace₁, hitems _ (skipSpace s₂) (by omega)]
    · intro fields s hs
      cases s with
      | nil => rfl
      | cons c s =>
        rw [List.length_cons] at hs
        simp only [scanFields]
        split_ifs
        · rfl
        apply Option.bind_congr
        rintro ⟨key, s₁⟩ hkey
        have hs₁ := (scanStringAfter_follows hkey).2
        have hlen := hspace s₁
        match hspace₁ : skipSpace s₁ with
        | [] => rfl
        | c₁ :: s₂ =>
          rw [hspace₁, List.length_cons] at hlen
          have hlen₂ := hspace s₂
          simp only [honce (skipSpace s₂) (by omega)]
          split_ifs
          · rfl
          apply Option.bind_congr
          rintro ⟨value, s₃⟩ hvalue
          have hs₃ := ((scan_follows fuel).1 _ _ _ hvalue).2
          have hlen₃ := hspace s₃
          match hspace₂ : skipSpace s₃ with
          | [] => rfl
          | c₂ :: s₄ =>
            rw [hspace₂, List.length_cons] at hlen₃
            have hlen₄ := hspace s₄
            simp only [hfields _ (skipSpace s₄) (by omega)]

theorem scanOnce_turns {s : PyStr} {fuel : ℕ} (h : 2*s.length ≤ fuel) :
    scanOnce F fuel s = scanOnce F (2*s.length) s := by
  induction fuel, h using Nat.le_induction with
  | base => rfl
  | succ fuel h ih => rw [(scan_turns fuel).1 s h, ih]

/-- The turns that `json.loads` allows are enough: what it returns is what the scanner returns with
any more of them. -/
theorem loads_eq_some_iff {data : Bytes} {value : Json} :
    loads F data = some value ↔ ∃ text rest, decodeStrict data = some text ∧
      text.head? ≠ some 0xFEFF ∧ skipSpace rest = [] ∧
      ∀ fuel, 2*text.length ≤ fuel → scanOnce F fuel (skipSpace text) = some (value, rest) := by
  have hturns (text : PyStr) {fuel : ℕ} (h : 2*text.length ≤ fuel) :
      scanOnce F fuel (skipSpace text) = scanOnce F (2*text.length+1) (skipSpace text) := by
    have hlen := (skipSpace_suffix text).length_le
    rw [scanOnce_turns (by omega : 2*(skipSpace text).length ≤ fuel),
      ← scanOnce_turns (by omega : 2*(skipSpace text).length ≤ 2*text.length+1)]
  constructor
  · intro h
    obtain ⟨text, htext, hloads⟩ := Option.bind_eq_some_iff.mp h
    unfold loadsText at hloads
    split_ifs at hloads with hmark
    obtain ⟨⟨found, rest⟩, hscan, hend⟩ := Option.bind_eq_some_iff.mp hloads
    simp only at hend
    split_ifs at hend with hrest
    cases hend
    exact ⟨text, rest, htext, hmark, hrest, fun fuel hfuel => (hturns text hfuel).trans hscan⟩
  · rintro ⟨text, rest, htext, hmark, hrest, hscan⟩
    rw [loads, htext, Option.bind_eq_bind, Option.bind_some, loadsText, if_neg hmark,
      hscan _ (Nat.le_succ _), Option.bind_eq_bind, Option.bind_some]
    exact if_pos hrest

end

end Gear360
