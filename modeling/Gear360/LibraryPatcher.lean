import Gear360.Framing

namespace Gear360

def littleEndian (bs : Bytes) : ℕ := BigEndian.decode bs.reverse

/-- The 32-bit field at an offset. -/
def wordAt (elf : Bytes) (offset : ℕ) : ℕ := littleEndian (slice elf offset (offset+4))

/-- The 16-bit field at an offset. -/
def halfAt (elf : Bytes) (offset : ℕ) : ℕ := littleEndian (slice elf offset (offset+2))

def signed32 (v : ℕ) : ℤ := if v < 2^31 then v else v - 2^32

/-- `struct.unpack_from("<I", elf, offset)[0]` -/
def unpackFromI (elf : Bytes) (offset : ℕ) : Except PyErr ℕ :=
  if offset+4 ≤ elf.length then .ok (wordAt elf offset) else .error .structError

/-- `struct.unpack_from("<H", elf, offset)[0]` -/
def unpackFromH (elf : Bytes) (offset : ℕ) : Except PyErr ℕ :=
  if offset+2 ≤ elf.length then .ok (halfAt elf offset) else .error .structError

/-- `struct.unpack_from("<II", elf, offset)` -/
def unpackFromII (elf : Bytes) (offset : ℕ) : Except PyErr (ℕ × ℕ) :=
  if offset+8 ≤ elf.length then .ok (wordAt elf offset, wordAt elf (offset+4))
  else .error .structError

/-- `struct.unpack_from("<iI", elf, offset)` -/
def unpackFromDyn (elf : Bytes) (offset : ℕ) : Except PyErr (ℤ × ℕ) :=
  if offset+8 ≤ elf.length then .ok (signed32 (wordAt elf offset), wordAt elf (offset+4))
  else .error .structError

/-- `struct.pack_into("<I", elf, offset, 0)` -/
def packIntoZero (elf : Bytes) (offset : ℕ) : Except PyErr Bytes :=
  if offset+4 ≤ elf.length then
    .ok (elf.take offset ++ (List.replicate 4 0 ++ elf.drop (offset+4)))
  else .error .structError

theorem packIntoZero_length {elf elf' : Bytes} {offset : ℕ}
    (h : packIntoZero elf offset = .ok elf') : elf'.length = elf.length := by
  unfold packIntoZero at h
  split_ifs at h with hle
  cases h
  simp only [List.length_append, List.length_take, List.length_replicate, List.length_drop]
  omega

def PROGRAM_HEADERS_OFFSET_FIELD : ℕ := 0x1C
def PROGRAM_HEADER_SIZE_FIELD : ℕ := 0x2A
def PROGRAM_HEADER_COUNT_FIELD : ℕ := 0x2C
def DYNAMIC_SEGMENT_TYPE : ℕ := 2
def DYNAMIC_END_TAG : ℤ := 0
def INIT_ARRAY_SIZE_TAG : ℤ := 27
def FINI_ARRAY_SIZE_TAG : ℤ := 28

/-- `ARRAY_SIZE_TAGS` -/
def arraySizeTag (tag : ℤ) : Option String :=
  if tag = INIT_ARRAY_SIZE_TAG then some "DT_INIT_ARRAYSZ"
  else if tag = FINI_ARRAY_SIZE_TAG then some "DT_FINI_ARRAYSZ"
  else none

/-- The loop of `find_dynamic_offset`, with so many headers left. -/
def findSegment (elf : Bytes) (tableOffset entrySize : ℕ) : ℕ → ℕ → Except PyErr ℕ
  | 0, _ => .error (.valueError "no PT_DYNAMIC segment")
  | left+1, index => do
    let (segmentType, segmentOffset) ← unpackFromII elf (tableOffset + index*entrySize)
    if segmentType = DYNAMIC_SEGMENT_TYPE then return segmentOffset
    findSegment elf tableOffset entrySize left (index+1)

def findDynamicOffset (elf : Bytes) : Except PyErr ℕ := do
  let tableOffset ← unpackFromI elf PROGRAM_HEADERS_OFFSET_FIELD
  let entrySize ← unpackFromH elf PROGRAM_HEADER_SIZE_FIELD
  let entryCount ← unpackFromH elf PROGRAM_HEADER_COUNT_FIELD
  findSegment elf tableOffset entrySize entryCount 0

/-- The loop over the dynamic table, from an entry on. It ends at the latest where the file
does: there the read raises. -/
def zeroSizes (elf : Bytes) (entry : ℕ) (changed : List String) :
    Except PyErr (Bytes × List String) :=
  match _hread : unpackFromDyn elf entry with
  | .error e => .error e
  | .ok (tag, value) =>
    if tag = DYNAMIC_END_TAG then .ok (elf, changed)
    else match arraySizeTag tag with
      | none => zeroSizes elf (entry+8) changed
      | some name =>
        -- the buffer that is walked changes, in the value that has just been read
        if value ≠ 0 then
          match _hpack : packIntoZero elf (entry+4) with
          | .error e => .error e
          | .ok elf' => zeroSizes elf' (entry+8) (changed ++ [name])
        else zeroSizes elf (entry+8) changed
termination_by elf.length - entry
decreasing_by
  all_goals
    have hle : entry+8 ≤ elf.length := by
      by_contra h
      rw [unpackFromDyn, if_neg h] at _hread
      cases _hread
    first
      | omega
      | rw [packIntoZero_length _hpack]; omega

/-- `elf[:4] != b"\x7fELF" or elf[4] != 1 or elf[5] != 1` -/
def notElf32 (elf : Bytes) : Except PyErr Bool := do
  if elf.take 4 ≠ [0x7f, 0x45, 0x4c, 0x46] then return true
  if (← byteAt elf 4) ≠ 1 then return true
  return (← byteAt elf 5) ≠ 1

/-- `patch_library`, with the contents of the file at `path` as its state. -/
def patchLibrary (path : String) : EStateM PyErr Bytes (List String) := do
  let elf ← get
  if ← ofExcept (notElf32 elf) then
    throw (.valueError s!"{path}: not a 32-bit little-endian ELF")
  let entry ← ofExcept (findDynamicOffset elf)
  let (patched, changed) ← ofExcept (zeroSizes elf entry [])
  -- the file is opened for writing only here, behind everything that can raise
  if changed ≠ [] then
    set patched
  return changed

end Gear360
