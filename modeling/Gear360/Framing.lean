import Gear360.BigEndian

namespace Gear360

abbrev Bytes : Type := List UInt8

/-- The Python exceptions that the modelled code raises or meets. -/
inductive PyErr where
  | indexError
  | structError
  | valueError (message : String)
  | attributeError
  | typeError
  | runtimeError (message : String)
  | osError (message : String)
  | other (name : String)
deriving DecidableEq, Repr

/-- `data[i:j]` -/
def slice (data : Bytes) (i j : ℕ) : Bytes := (data.take j).drop i

/-- `data[i]` -/
def byteAt (data : Bytes) (i : ℕ) : Except PyErr ℕ :=
  match data[i]? with
  | some b => .ok b.toNat
  | none => .error .indexError

/-- `bytes([...])` -/
def bytesOf : List ℕ → Except PyErr Bytes
  | [] => .ok []
  | v :: vs =>
    if v < 256 then do
      let rest ← bytesOf vs
      return UInt8.ofNat v :: rest
    else .error (.valueError "bytes must be in range(0, 256)")

def be16 (value : ℕ) : Except PyErr Bytes :=
  if value < 2^16 then .ok (BigEndian.encode 2 value) else .error .structError

def be32 (value : ℕ) : Except PyErr Bytes :=
  if value < 2^32 then .ok (BigEndian.encode 4 value) else .error .structError

/-- `struct.unpack(">H", data)[0]` -/
def unpackH (data : Bytes) : Except PyErr ℕ :=
  if data.length = 2 then .ok (BigEndian.decode data) else .error .structError

theorem slice_append (a b c : Bytes) {i j : ℕ} (hi : a.length = i) (hj : i+b.length = j) :
    slice (a ++ (b ++ c)) i j = b := by
  rw [slice, ← hj, ← hi, List.take_length_add_append, List.take_left, List.drop_left]

theorem be16_ok {value : ℕ} (h : value < 2^16) : be16 value = .ok (BigEndian.encode 2 value) :=
  if_pos h

theorem be16_error {value : ℕ} (h : 2^16 ≤ value) : be16 value = .error .structError :=
  if_neg (by omega)

theorem slice_length {data : Bytes} {i n : ℕ} (h : i+n ≤ data.length) :
    (slice data i (i+n)).length = n := by
  simp only [slice, List.length_drop, List.length_take]
  omega

theorem unpackH_ok {data : Bytes} (h : data.length = 2) :
    unpackH data = .ok (BigEndian.decode data) := if_pos h

/-- A 16-bit field that is there can be read. -/
theorem unpackH_slice {data : Bytes} {i : ℕ} (h : i+2 ≤ data.length) :
    unpackH (slice data i (i+2)) = .ok (BigEndian.decode (slice data i (i+2))) :=
  unpackH_ok (slice_length h)

theorem decode_slice_lt {data : Bytes} {i : ℕ} (h : i+2 ≤ data.length) :
    BigEndian.decode (slice data i (i+2)) < 2^16 := by
  have hlt := BigEndian.decode_lt (slice data i (i+2))
  rwa [slice_length h] at hlt

theorem unpackH_slice_error {data : Bytes} {i : ℕ} (h : data.length < i+2) :
    unpackH (slice data i (i+2)) = .error .structError := by
  have hlen : (slice data i (i+2)).length ≠ 2 := by
    simp only [slice, List.length_drop, List.length_take]
    omega
  exact if_neg hlen

theorem unpackH_encode {value : ℕ} (h : value < 2^16) :
    unpackH (BigEndian.encode 2 value) = .ok value := by
  rw [unpackH_ok (BigEndian.encode_length 2 value), BigEndian.decode_encode (by simpa using h)]

/-- One turn of the inner loop. -/
def crc16Bit (crc : ℕ) : ℕ := if crc &&& 1 ≠ 0 then (crc >>> 1) ^^^ 0xA001 else crc >>> 1

/-- One turn of the outer loop. -/
def crc16Byte (crc : ℕ) (byte : UInt8) : ℕ := crc16Bit^[8] (crc ^^^ byte.toNat)

/-- CRC-16/ARC (reflected polynomial 0xA001). -/
def crc16 (data : Bytes) : ℕ := data.foldl crc16Byte 0

theorem crc16Bit_lt {crc : ℕ} (h : crc < 2^16) : crc16Bit crc < 2^16 := by
  have hs : crc >>> 1 < 2^16 := by rw [Nat.shiftRight_eq_div_pow]; omega
  unfold crc16Bit
  split_ifs
  · exact Nat.xor_lt_two_pow hs (by norm_num)
  · exact hs

theorem crc16Byte_lt {crc : ℕ} (byte : UInt8) (h : crc < 2^16) : crc16Byte crc byte < 2^16 := by
  have hb : byte.toNat < 2^16 := byte.toNat_lt.trans (by norm_num)
  have hx : crc ^^^ byte.toNat < 2^16 := Nat.xor_lt_two_pow h hb
  unfold crc16Byte
  exact Function.Iterate.rec (fun c => c < 2^16) hx (fun _ hc => crc16Bit_lt hc) 8

/-- The register never leaves its 16 bits. -/
theorem crc16_lt (data : Bytes) : crc16 data < 2^16 := by
  -- from any register value, since the fold passes it on
  have hfold (crc : ℕ) (h : crc < 2^16) : data.foldl crc16Byte crc < 2^16 := by
    induction data generalizing crc with
    | nil => exact h
    | cons b data ih => exact ih _ (crc16Byte_lt b h)
  exact hfold 0 (by norm_num)

example : crc16 [0x31, 0x32, 0x33, 0x34, 0x35, 0x36, 0x37, 0x38, 0x39] = 0xBB3D := by decide +kernel

/-- `f"{value:04x}"` -/
def hex4 (value : ℕ) : String :=
  let digits := Nat.toDigits 16 value
  String.ofList (List.replicate (4 - digits.length) '0' ++ digits)

end Gear360
