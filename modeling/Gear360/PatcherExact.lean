import Gear360.LibraryPatcher

namespace Gear360

theorem slice_getElem? (data : Bytes) (a b i : ℕ) :
    (slice data a b)[i]? = if a+i < b then data[a+i]? else none := by
  rw [slice, List.getElem?_drop, List.getElem?_take]

/-- A slice depends on its own bytes only. -/
theorem slice_congr {x y : Bytes} {a b : ℕ} (h : ∀ o, a ≤ o → o < b → x[o]? = y[o]?) :
    slice x a b = slice y a b := by
  apply List.ext_getElem?
  intro i
  rw [slice_getElem?, slice_getElem?]
  split_ifs with hlt
  · exact h (a+i) (by omega) hlt
  · rfl

theorem wordAt_congr {x y : Bytes} {a : ℕ} (h : ∀ o, a ≤ o → o < a+4 → x[o]? = y[o]?) :
    wordAt x a = wordAt y a := by rw [wordAt, slice_congr h, wordAt]

theorem halfAt_congr {x y : Bytes} {a : ℕ} (h : ∀ o, a ≤ o → o < a+2 → x[o]? = y[o]?) :
    halfAt x a = halfAt y a := by rw [halfAt, slice_congr h, halfAt]

/-- A field is zero exactly if its bytes are. -/
theorem wordAt_eq_zero {elf : Bytes} {a : ℕ} (hle : a+4 ≤ elf.length) :
    wordAt elf a = 0 ↔ ∀ o, a ≤ o → o < a+4 → elf[o]? = some 0 := by
  have hlen : (slice elf a (a+4)).length = 4 := by
    simp only [slice, List.length_drop, List.length_take]
    omega
  have hzero : wordAt elf a = 0 ↔ slice elf a (a+4) = List.replicate 4 0 := by
    constructor
    · intro h
      -- the bytes are determined by the number they are read as
      have hbytes := BigEndian.encode_decode (slice elf a (a+4)).reverse
      rw [List.length_reverse, hlen] at hbytes
      have hdecode : BigEndian.decode (slice elf a (a+4)).reverse = 0 := h
      rw [hdecode] at hbytes
      rw [← List.reverse_inj, ← hbytes]
      rfl
    · intro h
      rw [wordAt, h]
      rfl
  rw [hzero]
  constructor
  · intro h o ho hlt
    have hget := slice_getElem? elf a (a+4) (o-a)
    rw [h, if_pos (by omega), Nat.add_sub_cancel' ho] at hget
    rw [← hget, List.getElem?_replicate, if_pos (by omega)]
  · intro h
    apply List.ext_getElem?
    intro i
    rw [slice_getElem?, List.getElem?_replicate]
    split_ifs with h1 h2 h2
    · exact h (a+i) (by omega) h1
    · omega
    · omega
    · rfl

theorem packIntoZero_ok {elf : Bytes} {a : ℕ} (hle : a+4 ≤ elf.length) :
    ∃ elf', packIntoZero elf a = .ok elf' ∧
      ∀ o, elf'[o]? = if a ≤ o ∧ o < a+4 then some 0 else elf[o]? := by
  refine ⟨_, if_pos hle, fun o => ?_⟩
  have htake : (elf.take a).length = a := List.length_take_of_le (by omega)
  rcases Nat.lt_or_ge o a with hlt | hge
  · rw [List.getElem?_append_left (by omega), if_neg (by omega), List.getElem?_take, if_pos hlt]
  · rw [List.getElem?_append_right (by omega), htake]
    rcases Nat.lt_or_ge o (a+4) with hlt | hge'
    · rw [List.getElem?_append_left (by rw [List.length_replicate]; omega), if_pos ⟨hge, hlt⟩,
        List.getElem?_replicate, if_pos (by omega)]
    · rw [List.getElem?_append_right (by rw [List.length_replicate]; omega), if_neg (by omega),
        List.length_replicate, List.getElem?_drop]
      congr 1
      omega

def tagAt (elf : Bytes) (entry : ℕ) : ℤ := signed32 (wordAt elf entry)

def valueAt (elf : Bytes) (entry : ℕ) : ℕ := wordAt elf (entry+4)

/-- The table at `entry` has `n` entries before its DT_NULL, all of them inside the file. -/
structure DynamicTable (elf : Bytes) (entry n : ℕ) : Prop where
  inside : entry + 8*(n+1) ≤ elf.length
  runs : ∀ i < n, tagAt elf (entry + 8*i) ≠ DYNAMIC_END_TAG
  ends : tagAt elf (entry + 8*n) = DYNAMIC_END_TAG

/-- The offset lies in the value of one of the first `n` entries with an array size tag. -/
def InSizeField (elf : Bytes) (entry n o : ℕ) : Prop :=
  ∃ i < n, (arraySizeTag (tagAt elf (entry + 8*i))).isSome ∧
    entry + 8*i + 4 ≤ o ∧ o < entry + 8*i + 8

/-- The name the script reports for an entry. -/
def nonzeroSize (elf : Bytes) (entry : ℕ) : Option String :=
  if valueAt elf entry ≠ 0 then arraySizeTag (tagAt elf entry) else none

/-- A size that is not reported is zero. -/
theorem valueAt_unreported {elf : Bytes} {entry : ℕ} (hname : nonzeroSize elf entry = none)
    (hsome : (arraySizeTag (tagAt elf entry)).isSome) : valueAt elf entry = 0 := by
  by_contra hvalue
  rw [nonzeroSize, if_pos hvalue] at hname
  rw [hname] at hsome
  cases hsome

/-- One name for each of the first `n` entries that holds a size other than zero. -/
def nonzeroSizes (elf : Bytes) (entry n : ℕ) : List String :=
  (List.range n).filterMap fun i => nonzeroSize elf (entry + 8*i)

/-- `out` is `elf` with zeros in the sizes of the first `n` entries. -/
structure Zeroed (elf out : Bytes) (entry n : ℕ) : Prop where
  length : out.length = elf.length
  zero : ∀ o, InSizeField elf entry n o → out[o]? = some 0
  frame : ∀ o, ¬InSizeField elf entry n o → out[o]? = elf[o]?

theorem inSizeField_one {elf : Bytes} {entry o : ℕ} :
    InSizeField elf entry 1 o ↔
      (arraySizeTag (tagAt elf entry)).isSome ∧ entry+4 ≤ o ∧ o < entry+8 := by
  constructor
  · rintro ⟨i, hi, h⟩
    obtain rfl : i = 0 := by omega
    exact h
  · intro h
    exact ⟨0, Nat.zero_lt_one, h⟩

/-- The first entry, and the table behind it. -/
theorem inSizeField_succ {elf : Bytes} {entry n o : ℕ} :
    InSizeField elf entry (n+1) o ↔ InSizeField elf entry 1 o ∨ InSizeField elf (entry+8) n o := by
  have hshift (i : ℕ) : entry + 8*(i+1) = entry+8+8*i := by ring
  constructor
  · rintro ⟨i, hi, h⟩
    cases i with
    | zero => exact .inl ⟨0, Nat.zero_lt_one, h⟩
    | succ i =>
      rw [hshift] at h
      exact .inr ⟨i, by omega, h⟩
  · rintro (⟨i, hi, h⟩ | ⟨i, hi, h⟩)
    · exact ⟨i, by omega, h⟩
    · rw [← hshift] at h
      exact ⟨i+1, by omega, h⟩

namespace Zeroed

variable {elf mid out : Bytes} {entry n : ℕ}

/-- The tags are not touched. -/
theorem tagAt_eq (h : Zeroed elf out entry n) (i : ℕ) :
    tagAt out (entry + 8*i) = tagAt elf (entry + 8*i) := by
  have hword : wordAt out (entry + 8*i) = wordAt elf (entry + 8*i) := by
    apply wordAt_congr
    intro o ho hlt
    apply h.frame
    rintro ⟨j, -, -, hlo, hhi⟩
    omega
  rw [tagAt, hword, tagAt]

/-- Nor are the values of later entries. -/
theorem valueAt_eq (h : Zeroed elf out entry n) {i : ℕ} (hi : n ≤ i) :
    valueAt out (entry + 8*i) = valueAt elf (entry + 8*i) := by
  apply wordAt_congr
  intro o ho hlt
  apply h.frame
  rintro ⟨j, hj, -, hlo, hhi⟩
  omega

theorem valueAt_zero (h : Zeroed elf out entry n) {i : ℕ} (hi : i < n)
    (hin : entry + 8*i + 8 ≤ elf.length)
    (htag : (arraySizeTag (tagAt elf (entry + 8*i))).isSome) :
    valueAt out (entry + 8*i) = 0 := by
  rw [valueAt, wordAt_eq_zero (by rw [h.length]; omega)]
  intro o ho hlt
  exact h.zero o ⟨i, hi, htag, ho, by omega⟩

theorem trans (h : Zeroed elf mid entry 1) (h' : Zeroed mid out (entry+8) n) :
    Zeroed elf out entry (n+1) := by
  have hsame (o : ℕ) : InSizeField mid (entry+8) n o ↔ InSizeField elf (entry+8) n o := by
    have htag (i : ℕ) : tagAt mid (entry+8+8*i) = tagAt elf (entry+8+8*i) := by
      have hi := h.tagAt_eq (i+1)
      rwa [show entry + 8*(i+1) = entry+8+8*i by ring] at hi
    simp only [InSizeField, htag]
  refine ⟨h'.length.trans h.length, ?_, ?_⟩
  · intro o ho
    rcases inSizeField_succ.mp ho with hfirst | hlater
    · -- the later entries start behind this one
      have hlt := (inSizeField_one.mp hfirst).2.2
      rw [h'.frame o (by rintro ⟨i, -, -, hlo, -⟩; omega)]
      exact h.zero o hfirst
    · exact h'.zero o ((hsame o).mpr hlater)
  · intro o ho
    rw [inSizeField_succ, not_or] at ho
    rw [h'.frame o (fun hlater => ho.2 ((hsame o).mp hlater)), h.frame o ho.1]

end Zeroed

/-- What the loop does at an entry inside the file. -/
theorem zeroSizes_read {elf : Bytes} {entry : ℕ} (changed : List String)
    (hin : entry+8 ≤ elf.length) :
    zeroSizes elf entry changed =
      if tagAt elf entry = DYNAMIC_END_TAG then .ok (elf, changed)
      else (nonzeroSize elf entry).elim (zeroSizes elf (entry+8) changed) fun name =>
        packIntoZero elf (entry+4) >>= fun mid => zeroSizes mid (entry+8) (changed ++ [name]) := by
  have hread : unpackFromDyn elf entry = .ok (tagAt elf entry, valueAt elf entry) := if_pos hin
  rw [zeroSizes]
  split
  · rename_i e he
    rw [hread] at he
    cases he
  -- the loop reads the tag and the value of the entry
  · rename_i tag value hok
    rw [hread] at hok
    cases hok
    rw [nonzeroSize]
    congr 1
    cases arraySizeTag (tagAt elf entry) with
    | none => rw [ite_self]; rfl
    | some name =>
      by_cases hvalue : valueAt elf entry = 0
      · rw [if_neg (not_not.mpr hvalue)]
        exact if_neg (not_not.mpr hvalue)
      · -- a size other than zero is overwritten and reported
        rw [if_pos hvalue, Option.elim_some]
        refine (if_pos hvalue).trans ?_
        cases packIntoZero elf (entry+4) <;> rfl

/-- One entry of the walk. -/
theorem zeroSizes_entry {elf : Bytes} {entry : ℕ} (changed : List String)
    (hin : entry+8 ≤ elf.length) (htag : tagAt elf entry ≠ DYNAMIC_END_TAG) :
    ∃ mid, Zeroed elf mid entry 1 ∧ zeroSizes elf entry changed =
      zeroSizes mid (entry+8) (changed ++ (nonzeroSize elf entry).toList) := by
  -- an entry without a size to report is left as it is, or has zeros already
  match hname : nonzeroSize elf entry with
  | none =>
    refine ⟨elf, ⟨rfl, ?_, fun _ _ => rfl⟩, ?_⟩
    · intro o ho
      obtain ⟨hsome, hlo, hhi⟩ := inSizeField_one.mp ho
      exact (wordAt_eq_zero (by omega)).mp (valueAt_unreported hname hsome) o hlo (by omega)
    · rw [zeroSizes_read changed hin, if_neg htag, hname, Option.elim_none, Option.toList_none,
        List.append_nil]
  | some name =>
    obtain ⟨mid, hmid, hbytes⟩ := packIntoZero_ok (show entry+4+4 ≤ elf.length by omega)
    have hsome : (arraySizeTag (tagAt elf entry)).isSome := by
      unfold nonzeroSize at hname
      split_ifs at hname
      rw [hname]
      rfl
    -- of this entry the size field is the second word
    have hfield (o : ℕ) : InSizeField elf entry 1 o ↔ entry+4 ≤ o ∧ o < entry+4+4 := by
      rw [inSizeField_one]
      exact ⟨fun h => ⟨h.2.1, by omega⟩, fun h => ⟨hsome, h.1, by omega⟩⟩
    refine ⟨mid, ⟨packIntoZero_length hmid, ?_, ?_⟩, ?_⟩
    · intro o ho
      rw [hbytes, if_pos ((hfield o).mp ho)]
    · intro o ho
      rw [hbytes, if_neg (mt (hfield o).mpr ho)]
    · rw [zeroSizes_read changed hin, if_neg htag, hname, Option.elim_some, hmid]
      rfl

/-- The table behind an entry, once that entry is done. -/
theorem DynamicTable.tail {elf mid : Bytes} {entry n : ℕ} (h : DynamicTable elf entry (n+1))
    (hmid : Zeroed elf mid entry 1) : DynamicTable mid (entry+8) n := by
  have htag (i : ℕ) : tagAt mid (entry+8+8*i) = tagAt elf (entry + 8*(i+1)) := by
    rw [← hmid.tagAt_eq (i+1), show entry + 8*(i+1) = entry+8+8*i by ring]
  refine ⟨?_, ?_, ?_⟩
  · have hin := h.inside
    rw [hmid.length]
    omega
  · intro i hi
    rw [htag]
    exact h.runs (i+1) (by omega)
  · rw [htag]
    exact h.ends

theorem nonzeroSizes_succ {elf mid : Bytes} {entry n : ℕ} (hmid : Zeroed elf mid entry 1) :
    nonzeroSizes elf entry (n+1) =
      (nonzeroSize elf entry).toList ++ nonzeroSizes mid (entry+8) n := by
  have hsame (i : ℕ) : nonzeroSize mid (entry+8+8*i) = nonzeroSize elf (entry + 8*(i+1)) := by
    have htag := hmid.tagAt_eq (i+1)
    have hvalue := hmid.valueAt_eq (show 1 ≤ i+1 by omega)
    rw [show entry+8+8*i = entry + 8*(i+1) by ring, nonzeroSize, nonzeroSize, htag, hvalue]
  have hfirst : nonzeroSize elf (entry + 8*0) = nonzeroSize elf entry := rfl
  rw [nonzeroSizes, List.range_succ_eq_map, List.filterMap_cons, List.filterMap_map, hfirst,
    nonzeroSizes]
  simp only [hsame, Function.comp_def, Nat.succ_eq_add_one]
  cases nonzeroSize elf entry <;> rfl

/-- The walk ends at the DT_NULL, with the sizes zeroed and their names collected. -/
theorem zeroSizes_table {elf : Bytes} {entry n : ℕ} (h : DynamicTable elf entry n)
    (changed : List String) :
    ∃ out, zeroSizes elf entry changed = .ok (out, changed ++ nonzeroSizes elf entry n) ∧
      Zeroed elf out entry n := by
  induction n generalizing elf entry changed with
  | zero =>
    have hin := h.inside
    have hends : tagAt elf entry = DYNAMIC_END_TAG := h.ends
    refine ⟨elf, ?_, rfl, by rintro o ⟨i, hi, -⟩; omega, fun _ _ => rfl⟩
    rw [zeroSizes_read changed (by omega), if_pos hends]
    exact congrArg (fun names => Except.ok (elf, names)) (List.append_nil changed).symm
  | succ n ih =>
    have hin := h.inside
    obtain ⟨mid, hmid, hstep⟩ :=
      zeroSizes_entry changed (show entry+8 ≤ elf.length by omega) (h.runs 0 (by omega))
    obtain ⟨out, hrest, hout⟩ := ih (h.tail hmid) (changed ++ (nonzeroSize elf entry).toList)
    refine ⟨out, ?_, hmid.trans hout⟩
    rw [hstep, hrest, nonzeroSizes_succ hmid, List.append_assoc]

/-- The offset of a program header. -/
def headerAt (elf : Bytes) (index : ℕ) : ℕ :=
  wordAt elf PROGRAM_HEADERS_OFFSET_FIELD + index*halfAt elf PROGRAM_HEADER_SIZE_FIELD

/-- The first PT_DYNAMIC header lies in the file and points to `entry`. -/
def FirstDynamic (elf : Bytes) (entry : ℕ) : Prop :=
  ∃ index < halfAt elf PROGRAM_HEADER_COUNT_FIELD, headerAt elf index + 8 ≤ elf.length ∧
    wordAt elf (headerAt elf index) = DYNAMIC_SEGMENT_TYPE ∧
    wordAt elf (headerAt elf index + 4) = entry ∧
    ∀ i < index, wordAt elf (headerAt elf i) ≠ DYNAMIC_SEGMENT_TYPE

theorem findSegment_first {elf : Bytes} {tableOffset entrySize entry : ℕ} (left index found : ℕ)
    (hfound : index ≤ found) (hleft : found < index+left)
    (hin : tableOffset + found*entrySize + 8 ≤ elf.length)
    (htype : wordAt elf (tableOffset + found*entrySize) = DYNAMIC_SEGMENT_TYPE)
    (hentry : wordAt elf (tableOffset + found*entrySize + 4) = entry)
    (hfirst : ∀ i, index ≤ i → i < found →
      wordAt elf (tableOffset + i*entrySize) ≠ DYNAMIC_SEGMENT_TYPE) :
    findSegment elf tableOffset entrySize left index = .ok entry := by
  induction left generalizing index with
  | zero => omega
  | succ left ih =>
    -- headers before the one that is found lie before it, so they can be read
    have hmul : index*entrySize ≤ found*entrySize := Nat.mul_le_mul_right _ hfound
    have hread : unpackFromII elf (tableOffset + index*entrySize) =
        .ok (wordAt elf (tableOffset + index*entrySize),
          wordAt elf (tableOffset + index*entrySize + 4)) := if_pos (by omega)
    rw [findSegment, hread]
    rcases hfound.eq_or_lt with rfl | hlt
    · change (if _ then _ else _) = _
      rw [if_pos htype, hentry]
      rfl
    · change (if _ then _ else _) = _
      rw [if_neg (hfirst index le_rfl hlt)]
      exact ih (index+1) hlt (by omega) fun i hi => hfirst i (by omega)

theorem findDynamicOffset_first {elf : Bytes} {entry : ℕ} (hlen : 52 ≤ elf.length)
    (h : FirstDynamic elf entry) : findDynamicOffset elf = .ok entry := by
  obtain ⟨index, hindex, hin, htype, hentry, hfirst⟩ := h
  have hoffset : unpackFromI elf PROGRAM_HEADERS_OFFSET_FIELD =
      .ok (wordAt elf PROGRAM_HEADERS_OFFSET_FIELD) :=
    if_pos (by rw [PROGRAM_HEADERS_OFFSET_FIELD]; omega)
  have hsize : unpackFromH elf PROGRAM_HEADER_SIZE_FIELD =
      .ok (halfAt elf PROGRAM_HEADER_SIZE_FIELD) :=
    if_pos (by rw [PROGRAM_HEADER_SIZE_FIELD]; omega)
  have hcount : unpackFromH elf PROGRAM_HEADER_COUNT_FIELD =
      .ok (halfAt elf PROGRAM_HEADER_COUNT_FIELD) :=
    if_pos (by rw [PROGRAM_HEADER_COUNT_FIELD]; omega)
  rw [findDynamicOffset, hoffset, hsize, hcount]
  exact findSegment_first _ 0 index (Nat.zero_le _) (by omega) hin htype hentry
    fun i _ hi => hfirst i hi

def IsElf32 (elf : Bytes) : Prop :=
  elf.take 4 = [0x7f, 0x45, 0x4c, 0x46] ∧ elf[4]? = some 1 ∧ elf[5]? = some 1

theorem notElf32_false {elf : Bytes} (h : IsElf32 elf) : notElf32 elf = .ok false := by
  obtain ⟨hmagic, hclass, hdata⟩ := h
  rw [notElf32, if_neg (by simp [hmagic]), byteAt, hclass, byteAt, hdata]
  rfl

/-- What a run makes of the file: it is written once, at the end. -/
theorem patchLibrary_run (path : String) (file : Bytes) :
    (patchLibrary path).run file =
      match notElf32 file with
      | .error e => .error e file
      | .ok true => .error (.valueError s!"{path}: not a 32-bit little-endian ELF") file
      | .ok false =>
        match findDynamicOffset file with
        | .error e => .error e file
        | .ok entry =>
          match zeroSizes file entry [] with
          | .error e => .error e file
          | .ok (patched, changed) => .ok changed (if changed ≠ [] then patched else file) := by
  simp only [patchLibrary, EStateM.run, bind, EStateM.bind, get, getThe, MonadStateOf.get,
    EStateM.get]
  -- the file is written after all that may raise
  cases notElf32 file with
  | error e => rfl
  | ok bad =>
    cases bad with
    | true => rfl
    | false =>
      cases findDynamicOffset file with
      | error e => rfl
      | ok entry =>
        dsimp only
        change EStateM.bind (ofExcept (zeroSizes file entry [])) _ file = _
        cases zeroSizes file entry [] with
        | error e => rfl
        | ok out => obtain ⟨patched, _ | ⟨name, names⟩⟩ := out <;> rfl

theorem patchLibrary_ok {path : String} {file patched : Bytes} {entry : ℕ} {changed : List String}
    (helf : IsElf32 file) (hentry : findDynamicOffset file = .ok entry)
    (hzero : zeroSizes file entry [] = .ok (patched, changed)) :
    (patchLibrary path).run file = .ok changed (if changed ≠ [] then patched else file) := by
  rw [patchLibrary_run, notElf32_false helf]
  simp only [hentry, hzero]

theorem patchLibrary_raises {path : String} {file after : Bytes} {e : PyErr}
    (h : (patchLibrary path).run file = .error e after) : after = file := by
  rw [patchLibrary_run] at h
  split at h
  · cases h; rfl
  · cases h; rfl
  · split at h
    · cases h; rfl
    · split at h
      · cases h; rfl
      · cases h

/-- A file whose sizes are zero already is what it would be patched to. -/
theorem Zeroed.eq_self {elf out : Bytes} {entry n : ℕ} (h : Zeroed elf out entry n)
    (htable : DynamicTable elf entry n) (hnone : nonzeroSizes elf entry n = []) : out = elf := by
  apply List.ext_getElem?
  intro o
  by_cases ho : InSizeField elf entry n o
  · rw [h.zero o ho]
    obtain ⟨i, hi, hsome, hlo, hhi⟩ := ho
    have hin := htable.inside
    have hentry : nonzeroSize elf (entry + 8*i) = none :=
      List.filterMap_eq_nil_iff.mp hnone i (List.mem_range.mpr hi)
    have hvalue := valueAt_unreported hentry hsome
    exact ((wordAt_eq_zero (by omega)).mp hvalue o hlo (by omega)).symm
  · exact h.frame o ho

/-- After the patch there is nothing left to report. -/
theorem Zeroed.nonzeroSizes_nil {elf out : Bytes} {entry n : ℕ} (h : Zeroed elf out entry n)
    (htable : DynamicTable elf entry n) : nonzeroSizes out entry n = [] := by
  apply List.filterMap_eq_nil_iff.mpr
  intro i hi
  have hin := htable.inside
  rw [List.mem_range] at hi
  match htag : arraySizeTag (tagAt elf (entry + 8*i)) with
  | none =>
    rw [nonzeroSize, h.tagAt_eq, htag]
    exact ite_self none
  | some name =>
    rw [nonzeroSize, if_neg]
    rw [not_not]
    exact h.valueAt_zero hi (by omega) (by rw [htag]; rfl)

theorem Zeroed.table {elf out : Bytes} {entry n : ℕ} (h : Zeroed elf out entry n)
    (htable : DynamicTable elf entry n) : DynamicTable out entry n := by
  refine ⟨by rw [h.length]; exact htable.inside, fun i hi => ?_, ?_⟩
  · rw [h.tagAt_eq]
    exact htable.runs i hi
  · rw [h.tagAt_eq]
    exact htable.ends

/-- A field outside the table reads as before. -/
theorem Zeroed.outside {elf out : Bytes} {entry n a size : ℕ} (h : Zeroed elf out entry n)
    (hdisjoint : a+size ≤ entry ∨ entry + 8*(n+1) ≤ a) (o : ℕ) (hlo : a ≤ o) (hhi : o < a+size) :
    out[o]? = elf[o]? := by
  apply h.frame
  rintro ⟨i, hi, -, hlo', hhi'⟩
  omega

theorem Zeroed.isElf32 {elf out : Bytes} {entry n : ℕ} (h : Zeroed elf out entry n)
    (hentry : 52 ≤ entry) (helf : IsElf32 elf) : IsElf32 out := by
  have hheader (o : ℕ) (hlt : o < 52) : out[o]? = elf[o]? :=
    h.outside (.inl (show 0+52 ≤ entry by omega)) o (Nat.zero_le _) (by omega)
  obtain ⟨hmagic, hclass, hdata⟩ := helf
  refine ⟨?_, ?_, ?_⟩
  · rw [← hmagic]
    exact slice_congr (a := 0) fun o _ hlt => hheader o (by omega)
  · rw [hheader 4 (by omega), hclass]
  · rw [hheader 5 (by omega), hdata]

/-- The dynamic table lies apart from the ELF header and from the program headers, of which the type
and the offset are read. -/
structure Apart (elf : Bytes) (entry n : ℕ) : Prop where
  header : 52 ≤ entry
  programHeaders : ∀ i < halfAt elf PROGRAM_HEADER_COUNT_FIELD,
    headerAt elf i + 8 ≤ entry ∨ entry + 8*(n+1) ≤ headerAt elf i

/-- A program header table whose entries have room for both fields. -/
theorem apart_of_table {elf : Bytes} {entry n : ℕ} (hheader : 52 ≤ entry)
    (hsize : 8 ≤ halfAt elf PROGRAM_HEADER_SIZE_FIELD)
    (htable : headerAt elf (halfAt elf PROGRAM_HEADER_COUNT_FIELD) ≤ entry ∨
      entry + 8*(n+1) ≤ headerAt elf 0) : Apart elf entry n := by
  refine ⟨hheader, fun i hi => ?_⟩
  have hnext : (i+1)*halfAt elf PROGRAM_HEADER_SIZE_FIELD ≤
      halfAt elf PROGRAM_HEADER_COUNT_FIELD*halfAt elf PROGRAM_HEADER_SIZE_FIELD :=
    Nat.mul_le_mul_right _ hi
  rw [Nat.add_mul, Nat.one_mul] at hnext
  -- the last byte that is read of a header comes before the next header
  simp only [headerAt, Nat.zero_mul] at htable ⊢
  omega

/-- The header still leads to the same table. -/
theorem Zeroed.firstDynamic {elf out : Bytes} {entry n : ℕ} (h : Zeroed elf out entry n)
    (hapart : Apart elf entry n) (hfirst : FirstDynamic elf entry) : FirstDynamic out entry := by
  obtain ⟨index, hindex, hin, htype, hentry, hbefore⟩ := hfirst
  have hheader := hapart.header
  -- none of the fields that the search reads is among those that were zeroed
  have hoffset : wordAt out PROGRAM_HEADERS_OFFSET_FIELD =
      wordAt elf PROGRAM_HEADERS_OFFSET_FIELD :=
    wordAt_congr (h.outside (.inl (by rw [PROGRAM_HEADERS_OFFSET_FIELD]; omega)))
  have hsize : halfAt out PROGRAM_HEADER_SIZE_FIELD = halfAt elf PROGRAM_HEADER_SIZE_FIELD :=
    halfAt_congr (h.outside (.inl (by rw [PROGRAM_HEADER_SIZE_FIELD]; omega)))
  have hcount : halfAt out PROGRAM_HEADER_COUNT_FIELD = halfAt elf PROGRAM_HEADER_COUNT_FIELD :=
    halfAt_congr (h.outside (.inl (by rw [PROGRAM_HEADER_COUNT_FIELD]; omega)))
  have hat (i : ℕ) : headerAt out i = headerAt elf i := by rw [headerAt, hoffset, hsize, headerAt]
  have hfields (i : ℕ) (hi : i ≤ index) :
      wordAt out (headerAt elf i) = wordAt elf (headerAt elf i) ∧
        wordAt out (headerAt elf i + 4) = wordAt elf (headerAt elf i + 4) := by
    have happart := hapart.programHeaders i (by omega)
    exact ⟨wordAt_congr (h.outside (by omega)), wordAt_congr (h.outside (by omega))⟩
  refine ⟨index, by rwa [hcount], by rwa [hat, h.length], ?_, ?_, fun i hi => ?_⟩
  · rw [hat, (hfields index le_rfl).1, htype]
  · rw [hat, (hfields index le_rfl).2, hentry]
  · rw [hat, (hfields i hi.le).1]
    exact hbefore i hi

/-- The patcher leaves the file alone where it raises. On a library whose dynamic table runs to its
end and lies apart from the headers, it zeroes the array sizes of the table and nothing else, names
those that were not zero, and has nothing to do the second time. -/
theorem patch_library_exact (path : String) :
    (∀ file, (∃ changed after, (patchLibrary path).run file = .ok changed after) ∨
      ∃ e, (patchLibrary path).run file = .error e file) ∧
    ∀ file entry n, IsElf32 file → FirstDynamic file entry → DynamicTable file entry n →
      Apart file entry n → ∃ after,
        (patchLibrary path).run file = .ok (nonzeroSizes file entry n) after ∧
        Zeroed file after entry n ∧ (patchLibrary path).run after = .ok [] after := by
  constructor
  · intro file
    match hrun : (patchLibrary path).run file with
    | .ok changed after => exact .inl ⟨changed, after, rfl⟩
    | .error e after =>
      obtain rfl := patchLibrary_raises hrun
      exact .inr ⟨e, rfl⟩
  · intro file entry n helf hfirst htable hapart
    have hheader := hapart.header
    have hin := htable.inside
    -- the search finds the table, and the walk ends with it
    have hentry := findDynamicOffset_first (by omega) hfirst
    obtain ⟨out, hwalk, hout⟩ := zeroSizes_table htable []
    refine ⟨out, ?_, hout, ?_⟩
    · rw [patchLibrary_ok helf hentry hwalk, List.nil_append]
      by_cases hnone : nonzeroSizes file entry n = []
      · rw [if_neg (not_not.mpr hnone), hout.eq_self htable hnone]
      · rw [if_pos hnone]
    · -- the second run finds the same table, without a size in it
      have hentry' := findDynamicOffset_first (by rw [hout.length]; omega)
        (hout.firstDynamic hapart hfirst)
      obtain ⟨out', hwalk', -⟩ := zeroSizes_table (hout.table htable) []
      rw [hout.nonzeroSizes_nil htable] at hwalk'
      rw [patchLibrary_ok (hout.isElf32 hheader helf) hentry' hwalk']
      rfl

/-- An ELF header, one program header, and a table of both sizes and an end. -/
def sampleLibrary : Bytes :=
  [0x7f, 0x45, 0x4c, 0x46, 1, 1] ++ List.replicate 22 0 ++ [52, 0, 0, 0] ++ List.replicate 10 0 ++
    [32, 0, 1, 0] ++ List.replicate 6 0 ++ [2, 0, 0, 0, 84, 0, 0, 0] ++ List.replicate 24 0 ++
    [27, 0, 0, 0, 8, 0, 0, 0, 28, 0, 0, 0, 4, 0, 0, 0] ++ List.replicate 8 0

theorem patch_library_exact_sample :
    nonzeroSizes sampleLibrary 84 2 = ["DT_INIT_ARRAYSZ", "DT_FINI_ARRAYSZ"] ∧
      ∃ after, (patchLibrary "libwsm.so").run sampleLibrary =
          .ok (nonzeroSizes sampleLibrary 84 2) after ∧
        Zeroed sampleLibrary after 84 2 ∧
        (patchLibrary "libwsm.so").run after = .ok [] after :=
  ⟨by decide +kernel, (patch_library_exact "libwsm.so").2 sampleLibrary 84 2
    ⟨rfl, rfl, rfl⟩ ⟨0, by decide +kernel⟩ ⟨by decide +kernel, by decide +kernel, by decide +kernel⟩
    ⟨by decide, by decide +kernel⟩⟩

end Gear360
