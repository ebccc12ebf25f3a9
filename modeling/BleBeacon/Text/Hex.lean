import BleBeacon.Bytes
import BleBeacon.DecodeError

/-!
Hexadecimal text. Bytes are written with two lower case digits each and nothing between them;
digits of either case are read back. Characteristic values are such texts as people write them: with
blanks and colons between the digits and perhaps `0x` in front. `clean` removes what is not part of
the value; `decode` refuses all other characters.
-/

namespace BleBeacon.Hex

-- The digit of a value below sixteen, in lower case.
def digit (n : Nat) : Char :=
  if n < 10 then Char.ofNat (48 + n) else Char.ofNat (87 + n)

def value? (c : Char) : Option Nat :=
  if '0' ≤ c ∧ c ≤ '9' then some (c.toNat - 48)
  else if 'a' ≤ c ∧ c ≤ 'f' then some (c.toNat - 87)
  else if 'A' ≤ c ∧ c ≤ 'F' then some (c.toNat - 55)
  else none

def byteDigits (b : UInt8) : List Char :=
  [digit (b.toNat / 16), digit (b.toNat % 16)]

def digits (bytes : Bytes) : List Char := bytes.flatMap byteDigits

def encode (bytes : Bytes) : String := String.ofList (digits bytes)

def byteText (b : UInt8) : String := encode [b]

def pair? (high low : Char) : Option UInt8 := do
  let h ← value? high
  let l ← value? low
  return UInt8.ofNat (16 * h + l)

/-- The bytes that the characters spell; nothing if one of them is no digit or one is left over. -/
def decode? : List Char → Option Bytes
  | [] => some []
  | [_] => none
  | high :: low :: rest => do
    let b ← pair? high low
    let bytes ← decode? rest
    return b :: bytes

theorem value?_digit {n : Nat} (h : n < 16) : value? (digit n) = some n := by
  have all : ∀ k : Fin 16, value? (digit k.val) = some k.val := by decide
  exact all ⟨n, h⟩

theorem pair?_byteDigits (b : UInt8) :
    pair? (digit (b.toNat / 16)) (digit (b.toNat % 16)) = some b := by
  have high : b.toNat / 16 < 16 := by have := b.toNat_lt; omega
  have low : b.toNat % 16 < 16 := Nat.mod_lt _ (by omega)
  have whole : 16 * (b.toNat / 16) + b.toNat % 16 = b.toNat := by omega
  rw [pair?, value?_digit high, value?_digit low]
  change some (UInt8.ofNat (16 * (b.toNat / 16) + b.toNat % 16)) = some b
  rw [whole, UInt8.ofNat_toNat]

theorem decode?_digits (bytes : Bytes) : decode? (digits bytes) = some bytes := by
  induction bytes with
  | nil => rfl
  | cons b rest ih =>
    simp only [digits, List.flatMap_cons, byteDigits, List.cons_append, List.nil_append]
    rw [decode?, pair?_byteDigits]
    simp only [digits] at ih
    simp [ih]

def dropMarkers : List Char → List Char
  | '0' :: 'x' :: rest => dropMarkers rest
  | cs => cs

def isSeparator (c : Char) : Bool := isBlank c || c == ':'

def cleanChars (cs : List Char) : List Char :=
  (dropMarkers (trim cs)).filter (!isSeparator ·)

def clean (value : String) : String := String.ofList (cleanChars value.toList)

/-- The bytes that a text without separators spells. Its length is counted in bytes of UTF-8 and
looked at first. -/
def decode (text : String) : Except DecodeError Bytes :=
  let length := utf8Length text.toList
  if length % 2 = 1 then .error (.oddHexLength length)
  else
    match decode? text.toList with
    | some bytes => .ok bytes
    | none => .error (.notHex text)

def decodeValue (value : String) : Except DecodeError Bytes := decode (clean value)

end BleBeacon.Hex
