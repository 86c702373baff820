import Gear360.Framing

namespace Gear360

/-- A Python string, as its code points. Lone surrogates are allowed. -/
abbrev PyStr : Type := List ℕ

def pyStr (text : String) : PyStr := text.toList.map Char.toNat

theorem pyStr_inj {text text' : String} : pyStr text = pyStr text' ↔ text = text' := by
  constructor
  · intro h
    have hchar : Function.Injective Char.toNat := fun a b h => Char.toNat_inj.mp h
    exact String.toList_inj.mp (List.map_injective_iff.mpr hchar h)
  · intro h
    rw [h]

/-- `text.encode("utf-8")` of a literal. -/
def utf8 (text : String) : Bytes := text.toUTF8.toList

def isContinuation (lo hi : UInt8) : Option UInt8 → Bool
  | some b => lo ≤ b && b ≤ hi
  | none => false

/-- The bounds of the second byte, by the first. -/
def secondBounds (b₀ : UInt8) : UInt8 × UInt8 :=
  if b₀ = 0xE0 then (0xA0, 0xBF)
  else if b₀ = 0xED then (0x80, 0x9F)
  else if b₀ = 0xF0 then (0x90, 0xBF)
  else if b₀ = 0xF4 then (0x80, 0x8F)
  else (0x80, 0xBF)

/-- The next code point and how many bytes after the first one it takes. What cannot go on as a
code point is replaced up to there by U+FFFD. -/
def decodeNext (b₀ : UInt8) (rest : Bytes) : ℕ × ℕ :=
  let second := isContinuation (secondBounds b₀).1 (secondBounds b₀).2 rest[0]?
  let third := isContinuation 0x80 0xBF rest[1]?
  let fourth := isContinuation 0x80 0xBF rest[2]?
  let low (i : ℕ) : ℕ := (rest.getD i 0).toNat &&& 0x3F
  if b₀ < 0x80 then (b₀.toNat, 0)
  else if 0xC2 ≤ b₀ ∧ b₀ ≤ 0xDF then
    if second then ((b₀.toNat &&& 0x1F) <<< 6 ||| low 0, 1) else (0xFFFD, 0)
  else if 0xE0 ≤ b₀ ∧ b₀ ≤ 0xEF then
    if !second then (0xFFFD, 0)
    else if !third then (0xFFFD, 1)
    else ((b₀.toNat &&& 0x0F) <<< 12 ||| low 0 <<< 6 ||| low 1, 2)
  else if 0xF0 ≤ b₀ ∧ b₀ ≤ 0xF4 then
    if !second then (0xFFFD, 0)
    else if !third then (0xFFFD, 1)
    else if !fourth then (0xFFFD, 2)
    else ((b₀.toNat &&& 0x07) <<< 18 ||| low 0 <<< 12 ||| low 1 <<< 6 ||| low 2, 3)
  else (0xFFFD, 0)

/-- The first `skip` bytes belong to a code point that is already there. -/
def decodeAfter : ℕ → Bytes → PyStr
  | _, [] => []
  | skip+1, _ :: rest => decodeAfter skip rest
  | 0, b₀ :: rest => (decodeNext b₀ rest).1 :: decodeAfter (decodeNext b₀ rest).2 rest

def decodeReplace (data : Bytes) : PyStr := decodeAfter 0 data

/-- A float is kept as the text that `repr` gives for it. -/
inductive Json where
  | null
  | bool (value : Bool)
  | int (value : ℤ)
  | float (repr : String)
  | str (text : PyStr)
  | arr (items : List Json)
  | obj (fields : List (PyStr × Json))

namespace Json

/-- A dictionary finds a key once. -/
def lookup (fields : List (PyStr × Json)) (key : String) : Option Json :=
  (fields.find? fun field => field.1 = pyStr key).map Prod.snd

/-- `value.get(key, default)`; only dictionaries have the method. -/
def get (value : Json) (key : String) (default : Json) : Except PyErr Json :=
  match value with
  | obj fields => .ok ((lookup fields key).getD default)
  | _ => .error .attributeError

/-- `value == text` -/
def isStr (value : Json) (text : String) : Bool :=
  match value with
  | str s => s = pyStr text
  | _ => false

/-- `bool(value)` -/
def truthy : Json → Bool
  | null => false
  | bool value => value
  | int value => value ≠ 0
  | float repr => repr ≠ "0.0" ∧ repr ≠ "-0.0"
  | str text => text ≠ []
  | arr items => !items.isEmpty
  | obj fields => !fields.isEmpty

def strOf (text : String) : Json := str (pyStr text)

/-- A dictionary display. -/
def dict (fields : List (String × Json)) : Json :=
  obj (fields.map fun field => (pyStr field.1, field.2))

end Json

def hexDigit (n : ℕ) : UInt8 := UInt8.ofNat (if n < 10 then 0x30+n else 0x57+n)

/-- `\\uXXXX` -/
def unicodeEscape (unit : ℕ) : Bytes :=
  [0x5C, 0x75, hexDigit (unit/4096%16), hexDigit (unit/256%16), hexDigit (unit/16%16),
    hexDigit (unit%16)]

/-- Non-ASCII code points are escaped, those above U+FFFF as a surrogate pair. -/
def escapeChar (c : ℕ) : Bytes :=
  if c = 0x22 then [0x5C, 0x22]
  else if c = 0x5C then [0x5C, 0x5C]
  else if c = 0x08 then [0x5C, 0x62]
  else if c = 0x09 then [0x5C, 0x74]
  else if c = 0x0A then [0x5C, 0x6E]
  else if c = 0x0C then [0x5C, 0x66]
  else if c = 0x0D then [0x5C, 0x72]
  -- printable ASCII stands for itself; DEL does not
  else if 0x20 ≤ c ∧ c ≤ 0x7E then [UInt8.ofNat c]
  else if c < 0x10000 then unicodeEscape c
  else unicodeEscape (0xD800 + (c-0x10000)/0x400) ++ unicodeEscape (0xDC00 + (c-0x10000)%0x400)

def dumpsStr (text : PyStr) : Bytes := [0x22] ++ text.flatMap escapeChar ++ [0x22]

mutual

def dumps : Json → Bytes
  | .null => utf8 "null"
  | .bool true => utf8 "true"
  | .bool false => utf8 "false"
  | .int value => utf8 (toString value)
  | .float repr => utf8 repr
  | .str text => dumpsStr text
  | .arr items => [0x5B] ++ dumpsItems items ++ [0x5D]
  | .obj fields => [0x7B] ++ dumpsFields fields ++ [0x7D]

def dumpsItems : List Json → Bytes
  | [] => []
  | [item] => dumps item
  | item :: items => dumps item ++ [0x2C] ++ dumpsItems items

def dumpsFields : List (PyStr × Json) → Bytes
  | [] => []
  | [(key, value)] => dumpsStr key ++ [0x3A] ++ dumps value
  | (key, value) :: fields => dumpsStr key ++ [0x3A] ++ dumps value ++ [0x2C] ++ dumpsFields fields

end

end Gear360
