import Gear360.JsonText

namespace Gear360

section
variable {F : FloatRepr}

variable (F) in
/-- A value that `json.loads` can return. -/
inductive Loaded : Json → Prop where
  | constant {constant : String × Json} (hmem : constant ∈ constants) : Loaded constant.2
  | int {value : ℤ} (hlen : (digitsText value.natAbs).length ≤ INT_MAX_STR_DIGITS) :
      Loaded (.int value)
  | float (text : PyStr) : Loaded (.float (F.repr text))
  | str {text : PyStr} (htext : Joined text) : Loaded (.str text)
  | arr {items : List Json} (hitems : ∀ item ∈ items, Loaded item) : Loaded (.arr items)
  | obj {fields : List (PyStr × Json)} (hkeys : (fields.map Prod.fst).Nodup)
      (hnames : ∀ field ∈ fields, Joined field.1) (hvalues : ∀ field ∈ fields, Loaded field.2) :
      Loaded (.obj fields)

/-- A value starts with neither a space nor a closing bracket. -/
def StartsValue (s : PyStr) : Prop := ∃ c s', s = c :: s' ∧ isSpace c = false ∧ c ≠ 0x5D

theorem StartsValue.skipSpace {s : PyStr} (h : StartsValue s) : skipSpace s = s := by
  obtain ⟨c, s', rfl, hc, -⟩ := h
  rw [Gear360.skipSpace, List.dropWhile_cons_of_neg (by rw [hc]; decide)]

theorem StartsValue.append {s : PyStr} (h : StartsValue s) (rest : PyStr) :
    StartsValue (s ++ rest) := by
  obtain ⟨c, s', rfl, hc⟩ := h
  exact ⟨c, s' ++ rest, rfl, hc⟩

theorem readNumber_starts {s : PyStr} {number : NumberText} (h : readNumber s = some number) :
    ∃ c s', s = c :: s' ∧ isSpace c = false ∧ c ≠ 0x5D ∧ c ≠ 0x22 ∧ c ≠ 0x7B ∧ c ≠ 0x5B := by
  obtain ⟨d, s', hd, hs⟩ := readNumber_head h
  simp only [isDigit, decide_eq_true_eq] at hd
  rcases hs with rfl | rfl
  · refine ⟨d, s', rfl, ?_⟩
    simp only [isSpace, decide_eq_false_iff_not]
    omega
  · exact ⟨0x2D, d :: s', rfl, by decide⟩

/-- `json.dumps` writes a constant as itself. -/
theorem dumpsText_constant {constant : String × Json} (h : constant ∈ constants) :
    dumpsText constant.2 = pyStr constant.1 := by
  have hascii : ∀ c ∈ pyStr constant.1, c < 0x80 := by
    simp only [constants, List.mem_cons, List.not_mem_nil, or_false] at h
    rcases h with rfl | rfl | rfl | rfl | rfl | rfl <;> decide
  rw [← utf8_ascii hascii]
  simp only [constants, List.mem_cons, List.not_mem_nil, or_false] at h
  rcases h with rfl | rfl | rfl | rfl | rfl | rfl <;> rw [dumpsText, dumps]

theorem int_ascii (value : ℤ) : ∀ c ∈ pyStr (toString value), c < 0x80 := by
  intro c hc
  rw [pyStr_toString, List.mem_append] at hc
  rcases hc with hc | hc
  · rw [signText] at hc
    split_ifs at hc
    · rw [List.mem_singleton.mp hc]
      norm_num
    · cases hc
  · have hdigit := isDigit_digitsText hc
    simp only [isDigit, decide_eq_true_eq] at hdigit
    omega

theorem dumpsText_int (value : ℤ) : dumpsText (.int value) = pyStr (toString value) := by
  rw [dumpsText, dumps, utf8_ascii (int_ascii value)]

theorem dumpsText_float (text : PyStr) :
    dumpsText (.float (F.repr text)) = pyStr (F.repr text) := by
  rw [dumpsText, dumps, utf8_ascii (F.repr_ascii text)]

/-- An overflow is written as one of the constants. -/
theorem float_constant {text : PyStr}
    (h : F.repr text = "Infinity" ∨ F.repr text = "-Infinity") :
    (F.repr text, .float (F.repr text)) ∈ constants := by
  rcases h with h | h <;> rw [h] <;> simp [constants]

theorem constant_starts {constant : String × Json} (h : constant ∈ constants) :
    ∃ c s', pyStr constant.1 = c :: s' ∧ isSpace c = false ∧ c ≠ 0x5D ∧ c ≠ 0x22 ∧ c ≠ 0x7B ∧
      c ≠ 0x5B := by
  simp only [constants, List.mem_cons, List.not_mem_nil, or_false] at h
  rcases h with rfl | rfl | rfl | rfl | rfl | rfl <;> exact ⟨_, _, rfl, by decide⟩

theorem Loaded.startsValue {value : Json} (h : Loaded F value) : StartsValue (dumpsText value) := by
  cases h with
  | constant hmem =>
    obtain ⟨c, s', hs, hc, hc', -⟩ := constant_starts hmem
    exact ⟨c, s', by rw [dumpsText_constant hmem, hs], hc, hc'⟩
  | @int value hlen =>
    obtain ⟨c, s', hs, hc, hc', -⟩ := readNumber_starts (readNumber_toString value)
    exact ⟨c, s', by rw [dumpsText_int, hs], hc, hc'⟩
  | float text =>
    rcases or_assoc.mpr (F.repr_reads text) with hconst | ⟨number, hnumber, -⟩
    · obtain ⟨c, s', hs, hc, hc', -⟩ := constant_starts (float_constant hconst)
      exact ⟨c, s', by rw [dumpsText_float, hs], hc, hc'⟩
    · obtain ⟨c, s', hs, hc, hc', -⟩ := readNumber_starts hnumber
      exact ⟨c, s', by rw [dumpsText_float, hs], hc, hc'⟩
  | str htext => exact ⟨0x22, _, dumpsText_str _, by decide⟩
  | arr hitems => exact ⟨0x5B, _, dumpsText_arr _, by decide⟩
  | obj hkeys hnames hvalues => exact ⟨0x7B, _, dumpsText_obj _, by decide⟩

variable (F) in
/-- Two turns for each character are enough to read the value that was written. -/
def ReadsBack (value : Json) : Prop :=
  ∀ fuel rest, 2*(dumpsText value).length ≤ fuel → EndsValue rest →
    scanOnce F fuel (dumpsText value ++ rest) = some (value, rest)

theorem scanOnce_constant {constant : String × Json} (h : constant ∈ constants) :
    ReadsBack F constant.2 := by
  intro fuel rest hfuel hrest
  have hread := readConstant_constant h rest
  obtain ⟨c, s', hs, -, -, h₁, h₂, h₃⟩ := constant_starts h
  rw [dumpsText_constant h] at hfuel ⊢
  rw [hs, List.cons_append] at hread ⊢
  rw [hs, List.length_cons] at hfuel
  obtain ⟨fuel, rfl⟩ : ∃ n, fuel = n+1 := ⟨fuel-1, by omega⟩
  rw [scanOnce, if_neg h₁, if_neg h₂, if_neg h₃, hread]

/-- A number is read as `scanNumber` reads it. -/
theorem scanOnce_number {s rest : PyStr} {number : NumberText} (h : readNumber s = some number)
    (hrest : EndsValue rest) {fuel : ℕ} (hfuel : 2*s.length ≤ fuel) :
    scanOnce F fuel (s ++ rest) = scanNumber F (s ++ rest) := by
  have hconst := readConstant_number (readNumber_rest hrest h)
  obtain ⟨c, s', rfl, -, -, h₁, h₂, h₃⟩ := readNumber_starts h
  rw [List.length_cons] at hfuel
  obtain ⟨fuel, rfl⟩ : ∃ n, fuel = n+1 := ⟨fuel-1, by omega⟩
  rw [List.cons_append] at hconst ⊢
  rw [scanOnce, if_neg h₁, if_neg h₂, if_neg h₃, hconst]

theorem scanOnce_int {value : ℤ} (hlen : (digitsText value.natAbs).length ≤ INT_MAX_STR_DIGITS) :
    ReadsBack F (.int value) := by
  intro fuel rest hfuel hrest
  rw [dumpsText_int] at hfuel ⊢
  have hnumber := readNumber_toString value
  rw [scanOnce_number hnumber hrest hfuel, scanNumber, readNumber_rest hrest hnumber]
  simp only [Option.bind_eq_bind, Option.bind_some, List.append_nil, ↓reduceIte, List.nil_append,
    if_neg (Nat.not_lt.mpr hlen), digitsValue_digitsText]
  congr 3
  rw [signText]
  by_cases hneg : value < 0
  · rw [if_pos hneg, if_neg (by simp), Int.ofNat_natAbs_of_nonpos hneg.le, neg_neg]
  · rw [if_neg hneg, if_pos rfl, Int.natAbs_of_nonneg (not_lt.mp hneg)]

theorem scanOnce_float (text : PyStr) : ReadsBack F (.float (F.repr text)) := by
  rcases or_assoc.mpr (F.repr_reads text) with hconst | ⟨number, hnumber, hnil, hfloat, hagain⟩
  · exact scanOnce_constant (float_constant hconst)
  · intro fuel rest hfuel hrest
    rw [dumpsText_float] at hfuel ⊢
    have happend := (readNumber_append hnumber).2
    rw [hnil, List.append_nil] at happend
    rw [scanOnce_number hnumber hrest hfuel, scanNumber, readNumber_rest hrest hnumber]
    simp only [Option.bind_eq_bind, Option.bind_some, if_neg hfloat, List.append_assoc, happend,
      hagain, hnil, List.nil_append]

theorem scanOnce_str {text : PyStr} (htext : Joined text) : ReadsBack F (.str text) := by
  intro fuel rest hfuel hrest
  rw [dumpsText_str] at hfuel ⊢
  obtain ⟨fuel, rfl⟩ : ∃ n, fuel = n+1 := ⟨fuel-1, by rw [List.length_cons] at hfuel; omega⟩
  rw [List.cons_append, scanOnce, if_pos rfl, List.append_assoc, List.singleton_append,
    scanString_escaped htext]
  rfl

theorem itemsText_starts {items : List Json} (hne : items ≠ [])
    (hitems : ∀ item ∈ items, StartsValue (dumpsText item)) : StartsValue (itemsText items) := by
  match items with
  | [item] =>
    rw [itemsText_singleton]
    exact hitems item List.mem_cons_self
  | item :: next :: items =>
    rw [itemsText_cons]
    exact (hitems item List.mem_cons_self).append _

/-- Items are read one after another, up to the bracket that closes them. -/
theorem scanItems_itemsText {items : List Json} (hne : items ≠ [])
    (hstarts : ∀ item ∈ items, StartsValue (dumpsText item))
    (hitems : ∀ item ∈ items, ReadsBack F item) (front : List Json) (fuel : ℕ) (rest : PyStr)
    (hfuel : 2*(itemsText items).length+1 ≤ fuel) :
    scanItems F fuel front (itemsText items ++ 0x5D :: rest) =
      some (.arr (front ++ items), rest) := by
  -- on the items, with those that were read already in front
  induction items generalizing front fuel with
  | nil => exact absurd rfl hne
  | cons item items ih =>
    obtain ⟨fuel, rfl⟩ : ∃ n, fuel = n+1 := ⟨fuel-1, by omega⟩
    have hitem := hitems item List.mem_cons_self
    cases items with
    | nil =>
      rw [itemsText_singleton] at hfuel ⊢
      rw [scanItems, hitem _ _ (by omega) (by rintro c ⟨⟩; exact .inr (.inl rfl))]
      rfl
    | cons next items =>
      rw [itemsText_cons] at hfuel ⊢
      rw [List.length_append, List.length_cons] at hfuel
      have hnext : StartsValue (itemsText (next :: items)) :=
        itemsText_starts (by simp) fun x hx => hstarts x (List.mem_cons_of_mem _ hx)
      rw [List.append_assoc, List.cons_append, scanItems,
        hitem _ _ (by omega) (by rintro c ⟨⟩; exact .inl rfl)]
      have hspace (s : PyStr) : skipSpace (0x2C :: s) = 0x2C :: s := rfl
      simp only [Option.bind_eq_bind, Option.bind_some, hspace, (hnext.append _).skipSpace]
      rw [if_neg (by decide), if_pos trivial, ih (by simp)
        (fun x hx => hstarts x (List.mem_cons_of_mem _ hx))
        (fun x hx => hitems x (List.mem_cons_of_mem _ hx)) _ _ (by omega), List.append_assoc]
      rfl

/-- Fields are read one after another; each key is new. -/
theorem scanFields_fieldsText {fields : List (PyStr × Json)} (hne : fields ≠ [])
    (hnames : ∀ field ∈ fields, Joined field.1)
    (hstarts : ∀ field ∈ fields, StartsValue (dumpsText field.2))
    (hvalues : ∀ field ∈ fields, ReadsBack F field.2) (front : List (PyStr × Json))
    (hkeys : ((front ++ fields).map Prod.fst).Nodup) (fuel : ℕ) (rest : PyStr)
    (hfuel : 2*(fieldsText fields).length ≤ fuel) :
    scanFields F fuel front (fieldsText fields ++ 0x7D :: rest) =
      some (.obj (front ++ fields), rest) := by
  -- on the fields, with those that were read already in front
  induction fields generalizing front fuel with
  | nil => exact absurd rfl hne
  | cons field fields ih =>
    obtain ⟨key, value⟩ := field
    have hname : Joined key := hnames _ List.mem_cons_self
    have hstart : StartsValue (dumpsText value) := hstarts _ List.mem_cons_self
    have hvalue : ReadsBack F value := hvalues _ List.mem_cons_self
    -- the key is none of those in front, so it is appended
    have hnew : key ∉ front.map Prod.fst := by
      rw [List.map_append, List.map_cons] at hkeys
      exact fun hmem => (List.disjoint_of_nodup_append hkeys) hmem List.mem_cons_self
    have hcolon (s : PyStr) : skipSpace (0x3A :: s) = 0x3A :: s := rfl
    have hcomma (s : PyStr) : skipSpace (0x2C :: s) = 0x2C :: s := rfl
    have hbrace (s : PyStr) : skipSpace (0x7D :: s) = 0x7D :: s := rfl
    cases fields with
    | nil =>
      rw [fieldsText_singleton] at hfuel ⊢
      simp only [List.length_cons, List.length_append] at hfuel
      obtain ⟨fuel, rfl⟩ : ∃ n, fuel = n+1 := ⟨fuel-1, by omega⟩
      simp only [List.cons_append, List.append_assoc, scanFields, ne_eq, not_true_eq_false,
        ↓reduceIte, scanString_escaped hname, Option.bind_eq_bind, Option.bind_some, hcolon,
        (hstart.append _).skipSpace]
      rw [hvalue _ _ (by omega) (by rintro c ⟨⟩; exact .inr (.inr rfl))]
      simp only [Option.bind_some, hbrace, ↓reduceIte, InsertionDict.insert_new hnew]
      rfl
    | cons next fields =>
      rw [fieldsText_cons] at hfuel ⊢
      simp only [List.length_cons, List.length_append] at hfuel
      obtain ⟨fuel, rfl⟩ : ∃ n, fuel = n+1 := ⟨fuel-1, by omega⟩
      -- no blank is written behind a comma
      have hnext (s : PyStr) : skipSpace (fieldsText (next :: fields) ++ s) =
          fieldsText (next :: fields) ++ s := by
        cases fields with
        | nil => rw [show next = (next.1, next.2) from rfl, fieldsText_singleton]; rfl
        | cons => rw [show next = (next.1, next.2) from rfl, fieldsText_cons]; rfl
      simp only [List.cons_append, List.append_assoc, scanFields, ne_eq, not_true_eq_false,
        ↓reduceIte, scanString_escaped hname, Option.bind_eq_bind, Option.bind_some, hcolon,
        (hstart.append _).skipSpace]
      rw [hvalue _ _ (by omega) (by rintro c ⟨⟩; exact .inl rfl)]
      simp only [Option.bind_some, hcomma, InsertionDict.insert_new hnew, hnext]
      rw [if_neg (by decide), if_pos trivial, ih (by simp)
        (fun x hx => hnames x (List.mem_cons_of_mem _ hx))
        (fun x hx => hstarts x (List.mem_cons_of_mem _ hx))
        (fun x hx => hvalues x (List.mem_cons_of_mem _ hx)) _ (by simpa using hkeys) _ (by omega),
        List.append_assoc]
      rfl

/-- `scan_once` reads what `json.dumps` wrote, in front of whatever ends a value. -/
theorem Loaded.readsBack {value : Json} (h : Loaded F value) : ReadsBack F value := by
  induction h with
  | constant hmem => exact scanOnce_constant hmem
  | int hlen => exact scanOnce_int hlen
  | float text => exact scanOnce_float text
  | str htext => exact scanOnce_str htext
  | @arr items hitems ih =>
    intro fuel rest hfuel hrest
    rw [dumpsText_arr] at hfuel ⊢
    simp only [List.length_cons, List.length_append, List.length_nil] at hfuel
    obtain ⟨fuel, rfl⟩ : ∃ n, fuel = n+1 := ⟨fuel-1, by omega⟩
    rw [List.cons_append, List.append_assoc, List.singleton_append, scanOnce, if_neg (by decide),
      if_neg (by decide), if_pos rfl]
    -- an empty array ends at once; else its first item does not begin with a bracket
    by_cases hne : items = []
    · subst hne
      rfl
    · have hstarts : ∀ item ∈ items, StartsValue (dumpsText item) :=
        fun item hmem => (hitems item hmem).startsValue
      have hstart := (itemsText_starts hne hstarts).append (0x5D :: rest)
      rw [hstart.skipSpace]
      obtain ⟨c, s', hs, -, hc⟩ := hstart
      rw [if_neg (by rw [hs]; simpa using hc)]
      exact scanItems_itemsText hne hstarts ih [] fuel rest (by omega)
  | @obj fields hkeys hnames hvalues ih =>
    intro fuel rest hfuel hrest
    rw [dumpsText_obj] at hfuel ⊢
    simp only [List.length_cons, List.length_append, List.length_nil] at hfuel
    obtain ⟨fuel, rfl⟩ : ∃ n, fuel = n+1 := ⟨fuel-1, by omega⟩
    rw [List.cons_append, List.append_assoc, List.singleton_append, scanOnce, if_neg (by decide),
      if_pos rfl]
    cases fields with
    | nil => rfl
    | cons field fields =>
      obtain ⟨key, value⟩ := field
      -- a field begins with the quote of its key
      obtain ⟨s', hs⟩ : ∃ s', fieldsText ((key, value) :: fields) ++ 0x7D :: rest = 0x22 :: s' := by
        cases fields with
        | nil => exact ⟨_, by rw [fieldsText_singleton, List.cons_append]⟩
        | cons => exact ⟨_, by rw [fieldsText_cons, List.cons_append]⟩
      have hspace : skipSpace (fieldsText ((key, value) :: fields) ++ 0x7D :: rest) =
          fieldsText ((key, value) :: fields) ++ 0x7D :: rest := by
        rw [hs]
        rfl
      rw [hspace, if_neg (by rw [hs]; simp)]
      exact scanFields_fieldsText (by simp) hnames
        (fun field hmem => (hvalues field hmem).startsValue)
        ih [] hkeys fuel rest (by omega)

def IsAscii (s : PyStr) : Prop := ∀ c ∈ s, c < 0x80

theorem IsAscii.append {s s' : PyStr} (h : IsAscii s) (h' : IsAscii s') : IsAscii (s ++ s') := by
  intro c hc
  rcases List.mem_append.mp hc with hc | hc
  exacts [h c hc, h' c hc]

theorem IsAscii.cons {s : PyStr} {c : ℕ} (hc : c < 0x80) (h : IsAscii s) : IsAscii (c :: s) := by
  intro d hd
  rcases List.mem_cons.mp hd with rfl | hd
  exacts [hc, h d hd]

theorem unitDigits_ascii (unit : ℕ) : IsAscii (unitDigits unit) := by
  have hdigit : ∀ n < 16, (hexDigit n).toNat < 0x80 := by decide
  have hlt (n : ℕ) : n%16 < 16 := Nat.mod_lt _ (by norm_num)
  simp only [IsAscii, unitDigits, List.mem_cons, List.not_mem_nil, or_false]
  rintro c (rfl | rfl | rfl | rfl) <;> exact hdigit _ (hlt _)

theorem escapeText_ascii (x : ℕ) : IsAscii (escapeText x) := by
  have hunit (unit : ℕ) : IsAscii ((unicodeEscape unit).map UInt8.toNat) :=
    ((unitDigits_ascii unit).cons (by decide)).cons (by decide)
  unfold escapeText escapeChar
  split_ifs with h₁ h₂ h₃ h₄ h₅ h₆ h₇ h₈ h₉
  on_goal 8 =>
    intro c hc
    rw [List.map_singleton, toNat_ofNat (by omega), List.mem_singleton] at hc
    omega
  on_goal 8 => exact hunit x
  on_goal 8 =>
    rw [List.map_append]
    exact (hunit _).append (hunit _)
  all_goals simp [IsAscii]

theorem escaped_ascii (text : PyStr) : IsAscii (text.flatMap escapeText) := by
  intro c hc
  obtain ⟨x, -, hc⟩ := List.mem_flatMap.mp hc
  exact escapeText_ascii x c hc

theorem itemsText_ascii {items : List Json} (h : ∀ item ∈ items, IsAscii (dumpsText item)) :
    IsAscii (itemsText items) := by
  induction items with
  | nil => exact fun c hc => absurd hc List.not_mem_nil
  | cons item items ih =>
    have hitem := h item List.mem_cons_self
    cases items with
    | nil => rwa [itemsText_singleton]
    | cons next items =>
      rw [itemsText_cons]
      exact hitem.append ((ih fun x hx => h x (List.mem_cons_of_mem _ hx)).cons (by norm_num))

theorem fieldsText_ascii {fields : List (PyStr × Json)}
    (h : ∀ field ∈ fields, IsAscii (dumpsText field.2)) : IsAscii (fieldsText fields) := by
  induction fields with
  | nil => exact fun c hc => absurd hc List.not_mem_nil
  | cons field fields ih =>
    obtain ⟨key, value⟩ := field
    have hvalue : IsAscii (dumpsText value) := h _ List.mem_cons_self
    have hname {s : PyStr} (hs : IsAscii s) :
        IsAscii (0x22 :: (key.flatMap escapeText ++ 0x22 :: 0x3A :: s)) :=
      ((escaped_ascii key).append ((hs.cons (by norm_num)).cons (by norm_num))).cons (by norm_num)
    cases fields with
    | nil =>
      rw [fieldsText_singleton]
      exact hname hvalue
    | cons next fields =>
      rw [fieldsText_cons]
      exact hname
        (hvalue.append ((ih fun x hx => h x (List.mem_cons_of_mem _ hx)).cons (by norm_num)))

theorem Loaded.ascii {value : Json} (h : Loaded F value) : IsAscii (dumpsText value) := by
  have hquote {s : PyStr} {a b : ℕ} (ha : a < 0x80) (hb : b < 0x80) (hs : IsAscii s) :
      IsAscii (a :: (s ++ [b])) :=
    (hs.append fun c hc => (List.mem_singleton.mp hc) ▸ hb).cons ha
  -- strings, arrays and objects stand between two ASCII letters
  induction h with
  | @constant constant hmem =>
    rw [dumpsText_constant hmem]
    simp only [constants, List.mem_cons, List.not_mem_nil, or_false] at hmem
    rcases hmem with rfl | rfl | rfl | rfl | rfl | rfl <;> simp [IsAscii, pyStr]
  | int hlen =>
    rw [dumpsText_int]
    exact int_ascii _
  | float text =>
    rw [dumpsText_float]
    exact F.repr_ascii text
  | str htext =>
    rw [dumpsText_str]
    exact hquote (by norm_num) (by norm_num) (escaped_ascii _)
  | arr hitems ih =>
    rw [dumpsText_arr]
    exact hquote (by norm_num) (by norm_num) (itemsText_ascii ih)
  | obj hkeys hnames hvalues ih =>
    rw [dumpsText_obj]
    exact hquote (by norm_num) (by norm_num) (fieldsText_ascii ih)

theorem decodeStrict_ascii {data : Bytes} (h : IsAscii (data.map UInt8.toNat)) :
    decodeStrict data = some (data.map UInt8.toNat) := by
  unfold decodeStrict
  induction data with
  | nil => rfl
  | cons b data ih =>
    have hb : b < 0x80 := UInt8.lt_iff_toNat_lt.mpr (h _ List.mem_cons_self)
    have hnext : decodeNext b data = (b.toNat, 0) := by
      rw [decodeNext, if_pos hb]
    have hdecodes : decodesNext b data = true := by
      rw [decodesNext, if_pos hb]
    rw [decodeStrictAfter, if_pos hdecodes, hnext,
      ih fun c hc => h c (List.mem_cons_of_mem _ hc)]
    rfl

/-- `json.loads(json.dumps(value)) == value` -/
theorem Loaded.loads_dumps {value : Json} (h : Loaded F value) :
    loads F (dumps value) = some value := by
  have hread := h.readsBack (2*(dumpsText value).length+1) [] (by omega) (by rintro c ⟨⟩)
  have hstarts := h.startsValue
  rw [List.append_nil] at hread
  rw [loads, decodeStrict_ascii h.ascii, Option.bind_eq_bind, Option.bind_some]
  change loadsText F (dumpsText value) = some value
  rw [loadsText, if_neg, hstarts.skipSpace, hread]
  · rfl
  · intro hbom
    have hlt := h.ascii _ (List.mem_of_mem_head? hbom)
    norm_num at hlt

end

end Gear360
