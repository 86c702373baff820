import Gear360.JsonRoundTrip

namespace Gear360

def Scalar (c : ℕ) : Prop := c < 0x110000 ∧ isHighSurrogate c = false ∧ isLowSurrogate c = false

theorem scalar_iff {c : ℕ} : Scalar c ↔ c < 0xD800 ∨ 0xDFFF < c ∧ c < 0x110000 := by
  simp only [Scalar, isHighSurrogate, isLowSurrogate, decide_eq_false_iff_not]
  omega

theorem isContinuation_some {lo hi : UInt8} {o : Option UInt8} (h : isContinuation lo hi o = true)
    (hlo : 0x80 ≤ lo.toNat) (hhi : hi.toNat ≤ 0xBF) :
    ∃ b < 64, o = some (UInt8.ofNat (b+0x80)) ∧ lo.toNat ≤ b+0x80 ∧ b+0x80 ≤ hi.toNat := by
  cases o with
  | none => cases h
  | some x =>
    simp only [isContinuation, Bool.and_eq_true, decide_eq_true_eq, UInt8.le_iff_toNat_le] at h
    refine ⟨x.toNat-0x80, by omega, ?_, by omega, by omega⟩
    rw [Nat.sub_add_cancel (hlo.trans h.1), UInt8.ofNat_toNat]

/-- The second byte is bounded further after four of the first bytes. -/
theorem secondBounds_ofNat {b : ℕ} (hb : b < 256) :
    let bounds := secondBounds (UInt8.ofNat b)
    0x80 ≤ bounds.1.toNat ∧ bounds.2.toNat ≤ 0xBF ∧ (b = 0xE0 → 0xA0 ≤ bounds.1.toNat) ∧
      (b = 0xED → bounds.2.toNat ≤ 0x9F) ∧ (b = 0xF0 → 0x90 ≤ bounds.1.toNat) ∧
      (b = 0xF4 → bounds.2.toNat ≤ 0x8F) := by
  have hnat := toNat_ofNat hb
  simp only [secondBounds, ← UInt8.toNat_inj, hnat]
  split_ifs with h₀ h₁₃ hF₀ hF₄ <;> simp at * <;> omega

/-- What strict decoding accepts is no surrogate. -/
theorem decodeNext_scalar {b₀ : UInt8} {rest : Bytes} (h : decodesNext b₀ rest = true) :
    Scalar (decodeNext b₀ rest).1 := by
  obtain ⟨v, hv, rfl⟩ : ∃ v < 256, b₀ = UInt8.ofNat v :=
    ⟨b₀.toNat, b₀.toNat_lt, UInt8.ofNat_toNat.symm⟩
  obtain ⟨hlo, hhi, h₀, h₁₃, hF₀, hF₄⟩ := secondBounds_ofNat hv
  have hnat := toNat_ofNat hv
  have hnext (i : ℕ) (h : isContinuation 0x80 0xBF rest[i]? = true) :
      ∃ b < 64, rest[i]? = some (UInt8.ofNat (b+0x80)) := by
    obtain ⟨b, hb, hrest, -⟩ := isContinuation_some h (by decide) (by decide)
    exact ⟨b, hb, hrest⟩
  -- by the length of the sequence; the bounds of its second byte leave the surrogates out
  simp only [decodesNext, UInt8.lt_iff_toNat_lt, UInt8.le_iff_toNat_le, hnat] at h
  rw [scalar_iff]
  split_ifs at h with h₁ h₂ h₃ h₄
  · simp at h₁
    rw [decodeNext_ascii h₁]
    exact .inl (by omega)
  · obtain ⟨b, hb, hrest, hge, hle⟩ := isContinuation_some h hlo hhi
    cases rest with
    | nil => cases hrest
    | cons _ rest =>
      obtain rfl := Option.some.inj hrest
      simp at h₂
      obtain ⟨a, rfl⟩ : ∃ a, v = a+0xC0 := ⟨v-0xC0, by omega⟩
      rw [decodeNext_two (by omega) (by omega) hb]
      exact .inl (by omega)
  · simp only [Bool.and_eq_true] at h
    obtain ⟨b, hb, hrest, hge, hle⟩ := isContinuation_some h.1 hlo hhi
    obtain ⟨c, hc, hrest'⟩ := hnext 1 h.2
    obtain _ | ⟨_, _ | ⟨_, rest⟩⟩ := rest
    · cases hrest
    · cases hrest'
    · obtain rfl := Option.some.inj hrest
      obtain rfl := Option.some.inj hrest'
      simp at h₃
      obtain ⟨a, rfl⟩ : ∃ a, v = a+0xE0 := ⟨v-0xE0, by omega⟩
      rw [decodeNext_three (by omega) hb hc (by omega) (by omega)]
      dsimp only
      omega
  · simp only [Bool.and_eq_true] at h
    obtain ⟨b, hb, hrest, hge, hle⟩ := isContinuation_some h.1.1 hlo hhi
    obtain ⟨c, hc, hrest'⟩ := hnext 1 h.1.2
    obtain ⟨d, hd, hrest''⟩ := hnext 2 h.2
    obtain _ | ⟨_, _ | ⟨_, _ | ⟨_, rest⟩⟩⟩ := rest
    · cases hrest
    · cases hrest'
    · cases hrest''
    · obtain rfl := Option.some.inj hrest
      obtain rfl := Option.some.inj hrest'
      obtain rfl := Option.some.inj hrest''
      simp at h₄
      obtain ⟨a, rfl⟩ : ∃ a, v = a+0xF0 := ⟨v-0xF0, by omega⟩
      rw [decodeNext_four (by omega) hb hc hd (by omega) (by omega)]
      dsimp only
      omega

theorem decodeStrict_scalar {data : Bytes} {text : PyStr} (h : decodeStrict data = some text) :
    ∀ c ∈ text, Scalar c := by
  unfold decodeStrict at h
  generalize 0 = skip at h
  fun_induction decodeStrictAfter skip data generalizing text with
  | case1 =>
    cases h
    exact fun c hc => absurd hc List.not_mem_nil
  | case2 skip b data ih => exact ih h
  | case3 b₀ rest hdecodes ih =>
    obtain ⟨after, hafter, rfl⟩ := Option.map_eq_some_iff.mp h
    intro c hc
    rcases List.mem_cons.mp hc with rfl | hc
    exacts [decodeNext_scalar hdecodes, ih hafter c hc]
  | case4 => cases h

theorem readUnit_lt {s : PyStr} {unit : ℕ} (h : readUnit s = some unit) : unit < 0x10000 := by
  have hhex {c n : ℕ} (h : hexValue c = some n) : n < 16 := by
    unfold hexValue at h
    split_ifs at h <;> cases h <;> omega
  unfold readUnit at h
  split at h
  · simp only [Option.bind_eq_bind, Option.bind_eq_some_iff, Option.pure_def,
      Option.some.injEq] at h
    obtain ⟨a, ha, b, hb, c, hc, d, hd, rfl⟩ := h
    have := hhex ha
    have := hhex hb
    have := hhex hc
    have := hhex hd
    omega
  · cases h

/-- Two escaped surrogates that could be joined have been. -/
theorem readUnicodeEscape_joined {s : PyStr} {x n : ℕ} (h : readUnicodeEscape s = some (x, n)) :
    x < 0x110000 ∧ (isLowSurrogate x = true → readUnit s = some x) ∧
      (isHighSurrogate x = true → n = 5 ∧ NoLow (s.drop 4)) := by
  unfold readUnicodeEscape at h
  obtain ⟨unit, hunit, h⟩ := Option.bind_eq_some_iff.mp h
  have hlt := readUnit_lt hunit
  -- a high surrogate looks at what is behind it
  split_ifs at h with hhigh
  · obtain ⟨low, hlow, h⟩ := Option.bind_eq_some_iff.mp h
    have hhigh' := hhigh.1
    simp only [isHighSurrogate, decide_eq_true_eq] at hhigh'
    split_ifs at h with hislow
    · simp only [Option.pure_def, Option.some.injEq, Prod.mk.injEq] at h
      obtain ⟨rfl, rfl⟩ := h
      simp only [isHighSurrogate, isLowSurrogate, decide_eq_true_eq] at hislow ⊢
      omega
    · cases h
      refine ⟨by omega, fun _ => hunit, fun _ => ⟨rfl, fun _ => ⟨low, ?_, ?_⟩⟩⟩
      · rw [List.drop_drop, hlow]
      · rwa [Bool.not_eq_true] at hislow
  · cases h
    refine ⟨by omega, fun _ => hunit, fun hx => ⟨rfl, fun hnext => absurd ⟨hx, hnext⟩ hhigh⟩⟩

theorem readEscape_joined {s : PyStr} {x n : ℕ} (h : readEscape s = some (x, n)) :
    x < 0x110000 ∧ (isLowSurrogate x = true → ∃ s', s = 0x75 :: s' ∧ readUnit s' = some x) ∧
      (isHighSurrogate x = true → n = 5 ∧ NoLow (s.drop 5)) := by
  cases s with
  | nil => cases h
  | cons c s =>
    rw [readEscape] at h
    split_ifs at h with h₁ h₂ h₃ h₄ h₅ h₆ h₇
    · obtain ⟨hlt, hlow, hhigh⟩ := readUnicodeEscape_joined h
      exact ⟨hlt, fun hx => ⟨s, by rw [h₁], hlow hx⟩, hhigh⟩
    · cases h
      rcases h₂ with rfl | rfl | rfl <;> simp [isLowSurrogate, isHighSurrogate]
    all_goals
      cases h
      simp [isLowSurrogate, isHighSurrogate]

theorem scanStringAfter_joined {skip : ℕ} {s text rest : PyStr}
    (h : scanStringAfter skip s = some (text, rest)) (hs : ∀ c ∈ s, Scalar c) :
    Joined text ∧ ∀ y ∈ text.head?, isLowSurrogate y = true →
      ∃ s', s.drop skip = 0x5C :: 0x75 :: s' ∧ readUnit s' = some y := by
  -- beside the text, what a low surrogate at its front says about the text that was read
  fun_induction scanStringAfter skip s generalizing text with
  | case1 => cases h
  | case2 skip c s ih => exact ih h fun d hd => hs d (List.mem_cons_of_mem _ hd)
  | case3 s =>
    cases h
    exact ⟨⟨.nil, fun c hc => absurd hc List.not_mem_nil⟩, by rintro y ⟨⟩⟩
  | case4 => cases h
  | case5 s x taken hescape h₁ ih =>
    obtain ⟨⟨after, rest⟩, hafter, heq⟩ := Option.map_eq_some_iff.mp h
    cases heq
    obtain ⟨⟨hchain, hlt⟩, hhead⟩ := ih hafter fun d hd => hs d (List.mem_cons_of_mem _ hd)
    obtain ⟨hx, hlow, hhigh⟩ := readEscape_joined hescape
    refine ⟨⟨List.isChain_cons.mpr ⟨?_, hchain⟩, ?_⟩, ?_⟩
    · -- a low surrogate after a high one would have been read together with it
      rintro y hy ⟨hxhigh, hylow⟩
      obtain ⟨rfl, hno⟩ := hhigh hxhigh
      obtain ⟨s', hs', hunit⟩ := hhead y hy hylow
      rw [hs'] at hno
      obtain ⟨unit, hunit', hfalse⟩ := hno rfl
      cases hunit.symm.trans hunit'
      exact absurd hylow (by rw [hfalse]; decide)
    · intro c hc
      rcases List.mem_cons.mp hc with rfl | hc
      exacts [hx, hlt c hc]
    · rintro y ⟨⟩ hy
      obtain ⟨s', rfl, hunit⟩ := hlow hy
      exact ⟨s', rfl, hunit⟩
  | case6 => cases h
  | case7 c s h₁ h₂ h₃ ih =>
    obtain ⟨⟨after, rest⟩, hafter, heq⟩ := Option.map_eq_some_iff.mp h
    cases heq
    obtain ⟨⟨hchain, hlt⟩, hhead⟩ := ih hafter fun d hd => hs d (List.mem_cons_of_mem _ hd)
    obtain ⟨hc, hhigh, hlow⟩ := hs c List.mem_cons_self
    refine ⟨⟨List.isChain_cons.mpr ⟨?_, hchain⟩, ?_⟩, ?_⟩
    -- a letter that stands for itself is no surrogate
    · rintro y - ⟨hchigh, -⟩
      exact absurd hchigh (by rw [hhigh]; decide)
    · intro d hd
      rcases List.mem_cons.mp hd with rfl | hd
      exacts [hc, hlt d hd]
    · rintro y ⟨⟩ hy
      exact absurd hy (by rw [hlow]; decide)

theorem digitsValue_lt {digits : PyStr} (h : ∀ c ∈ digits, isDigit c = true) :
    digitsValue digits < 10^digits.length := by
  unfold digitsValue
  induction digits using List.reverseRecOn with
  | nil => exact Nat.one_pos
  | append_singleton digits c ih =>
    have hc := h c (List.mem_append_right _ List.mem_cons_self)
    have hlt := ih fun d hd => h d (List.mem_append_left _ hd)
    simp only [isDigit, decide_eq_true_eq] at hc
    rw [List.foldl_append, List.foldl_cons, List.foldl_nil, List.length_append,
      List.length_singleton, Nat.pow_succ]
    omega

theorem readDigits_digits (s : PyStr) : ∀ c ∈ (readDigits s).1, isDigit c = true := by
  intro c hc
  cases s with
  | nil => cases hc
  | cons d s =>
    rw [readDigits] at hc
    split_ifs at hc with hzero
    · rw [List.mem_singleton.mp hc, hzero]
      rfl
    · rw [List.span_eq_takeWhile_dropWhile] at hc
      exact List.mem_takeWhile_imp hc

section
variable {F : FloatRepr}

theorem scanNumber_loaded {s rest : PyStr} {value : Json}
    (h : scanNumber F s = some (value, rest)) :
    Loaded F value := by
  obtain ⟨number, hnumber, h⟩ := Option.bind_eq_some_iff.mp h
  have hdigits : ∀ c ∈ number.digits, isDigit c = true := by
    simp only [readNumber] at hnumber
    split_ifs at hnumber
    cases hnumber
    exact readDigits_digits _
  have hpos := List.length_pos_iff.mpr (readNumber_append hnumber).1
  -- without fraction and exponent it is an integer, of no more digits than were read
  by_cases hint : number.frac ++ number.exp = []
  · rw [if_pos hint] at h
    by_cases hlong : INT_MAX_STR_DIGITS < number.digits.length
    · rw [if_pos hlong] at h
      cases h
    · rw [if_neg hlong] at h
      cases h
      apply Loaded.int
      have habs : (if number.sign = [] then (digitsValue number.digits : ℤ)
          else -(digitsValue number.digits : ℤ)).natAbs = digitsValue number.digits := by
        split_ifs <;> simp
      rw [habs, digitsText, List.length_map]
      exact (Nat.toDigits_length 10 _ _ hpos (digitsValue_lt hdigits)).trans (not_lt.mp hlong)
  · rw [if_neg hint] at h
    cases h
    exact .float _

variable (F) in
/-- What holds of the fields that are already there. -/
structure FieldsLoaded (fields : List (PyStr × Json)) : Prop where
  keys : (fields.map Prod.fst).Nodup
  names : ∀ field ∈ fields, Joined field.1
  values : ∀ field ∈ fields, Loaded F field.2

theorem FieldsLoaded.nil : FieldsLoaded F [] :=
  ⟨List.nodup_nil, fun _ h => absurd h List.not_mem_nil, fun _ h => absurd h List.not_mem_nil⟩

theorem FieldsLoaded.insert {fields : List (PyStr × Json)} (h : FieldsLoaded F fields)
    {key : PyStr} {value : Json} (hkey : Joined key) (hvalue : Loaded F value) :
    FieldsLoaded F (InsertionDict.insert fields key value) := by
  refine ⟨InsertionDict.nodup_insert h.keys, ?_, ?_⟩
  · intro field hfield
    rcases InsertionDict.mem_insert hfield with rfl | hfield
    exacts [hkey, h.names field hfield]
  · intro field hfield
    rcases InsertionDict.mem_insert hfield with rfl | hfield
    exacts [hvalue, h.values field hfield]

theorem scan_loaded (fuel : ℕ) :
    (∀ s value rest, (∀ c ∈ s, Scalar c) → scanOnce F fuel s = some (value, rest) →
      Loaded F value) ∧
    (∀ items s value rest, (∀ item ∈ items, Loaded F item) → (∀ c ∈ s, Scalar c) →
      scanItems F fuel items s = some (value, rest) → Loaded F value) ∧
    (∀ fields s value rest, FieldsLoaded F fields → (∀ c ∈ s, Scalar c) →
      scanFields F fuel fields s = some (value, rest) → Loaded F value) := by
  induction fuel with
  | zero => refine ⟨?_, ?_, ?_⟩ <;> intros <;> rename_i h <;> cases h
  | succ fuel ih =>
    obtain ⟨honce, hitems, hfields⟩ := ih
    have hsuffix {s rest : PyStr} (h : rest <:+ s) (hs : ∀ c ∈ s, Scalar c) :
        ∀ c ∈ rest, Scalar c :=
      fun c hc => hs c (h.subset hc)
    refine ⟨?_, ?_, ?_⟩
    · intro s value rest hs h
      obtain ⟨_, c, s, hfuel, rfl, hcases⟩ := scanOnce_cases h
      cases hfuel
      have hrest := hsuffix (List.suffix_cons c s) hs
      have hspace := hsuffix (skipSpace_suffix s) hrest
      have hnil : FieldsLoaded F [] := .nil
      have hempty : ∀ item ∈ ([] : List Json), Loaded F item := List.forall_mem_nil _
      rcases hcases with ⟨text, rfl, htext⟩ | ⟨rfl, -⟩ | hmore | ⟨rfl, -⟩ | hmore | hconstant | hnumber
      · exact .str (scanStringAfter_joined htext hrest).1
      · exact .obj hnil.keys hnil.names hnil.values
      · exact hfields _ _ _ _ hnil hspace hmore
      · exact .arr hempty
      · exact hitems _ _ _ _ hempty hspace hmore
      · obtain ⟨constant, hmem, hread⟩ := List.exists_of_findSome?_eq_some hconstant
        split_ifs at hread
        cases hread
        exact .constant hmem
      · exact scanNumber_loaded hnumber
    · intro items s value rest hloaded hs h
      obtain ⟨_, item, s₁, c, s₂, hfuel, hitem, hspace, hcases⟩ := scanItems_cases h
      cases hfuel
      have hs₁ := hsuffix ((scan_follows _).1 _ _ _ hitem).1 hs
      have hs₂ := hsuffix (Follows.space hspace) hs₁
      have hnext : ∀ x ∈ items ++ [item], Loaded F x :=
        List.forall_mem_append.mpr ⟨hloaded, List.forall_mem_singleton.mpr (honce _ _ _ hs hitem)⟩
      rcases hcases with ⟨rfl, -⟩ | hmore
      · exact .arr hnext
      · exact hitems _ _ _ _ hnext (hsuffix (skipSpace_suffix s₂) hs₂) hmore
    · intro fields s value rest hloaded hs h
      obtain ⟨_, c₀, s₀, key, s₁, c₁, s₂, field, s₃, c₂, s₄, hfuel, rfl, hkey, hspace₁, hfield,
        hspace₂, hcases⟩ := scanFields_cases h
      cases hfuel
      have hs₀ := hsuffix (List.suffix_cons c₀ s₀) hs
      have hs₁ := hsuffix (scanStringAfter_follows hkey).1 hs₀
      have hs₂ := hsuffix ((skipSpace_suffix s₂).trans (Follows.space hspace₁)) hs₁
      have hs₃ := hsuffix ((scan_follows _).1 _ _ _ hfield).1 hs₂
      have hs₄ := hsuffix (Follows.space hspace₂) hs₃
      -- the text of the key and the value behind the colon are both read from what is left
      have hnext := hloaded.insert (scanStringAfter_joined hkey hs₀).1 (honce _ _ _ hs₂ hfield)
      rcases hcases with ⟨rfl, -⟩ | hmore
      · exact .obj hnext.keys hnext.names hnext.values
      · exact hfields _ _ _ _ hnext (hsuffix (skipSpace_suffix s₄) hs₄) hmore

theorem loads_loaded {data : Bytes} {value : Json} (h : loads F data = some value) :
    Loaded F value := by
  obtain ⟨text, htext, h⟩ := Option.bind_eq_some_iff.mp h
  rw [loadsText] at h
  split_ifs at h
  obtain ⟨⟨value', s⟩, hscan, h⟩ := Option.bind_eq_some_iff.mp h
  dsimp only at h
  split_ifs at h
  cases h
  exact (scan_loaded _).1 _ _ _
    (fun c hc => decodeStrict_scalar htext c ((skipSpace_suffix text).subset hc)) hscan

/-- Whatever `json.loads` returned, `json.dumps` writes it so that `json.loads` returns it again. -/
theorem loads_dumps_loads {data : Bytes} {value : Json} (h : loads F data = some value) :
    loads F (dumps value) = some value := (loads_loaded h).loads_dumps

end

end Gear360
