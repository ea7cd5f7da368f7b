import Stencil.Text.Digits

/-!
# Percent encoding

A text is written as its UTF-8 bytes: a space as `+`, unreserved characters as they are, any other
byte as `%` and two digits.
-/

namespace Stencil.Text

/-- The UTF-8 bytes of a text. -/
def utf8 (cs : List Char) : List UInt8 :=
  cs.flatMap String.utf8EncodeChar

/-- The text that bytes encode, if they are UTF-8. -/
def ofUtf8? (bytes : List UInt8) : Option (List Char) :=
  (ByteArray.mk bytes.toArray).utf8Decode?.map Array.toList

/-! ## Writing -/

/-- Whether a byte is written as the character it is. -/
def isUnreserved (b : UInt8) : Bool :=
  let n := b.toNat
  (0x30 ≤ n && n ≤ 0x39) || (0x41 ≤ n && n ≤ 0x5A) || (0x61 ≤ n && n ≤ 0x7A) ||
    "-._~/?".toList.any (·.toNat == n)

/-- A hexadecimal digit, in capitals. -/
def upperHexDigit (n : Nat) : Char :=
  Char.ofNat (if n < 10 then 0x30 + n else 0x41 + (n - 10))

/-- How a byte is written. -/
def percentEncodeByte (b : UInt8) : List Char :=
  if b = 0x20 then ['+']
  else if isUnreserved b then [Char.ofNat b.toNat]
  else ['%', upperHexDigit (b.toNat / 16), upperHexDigit (b.toNat % 16)]

/-- A text in percent encoding. -/
def percentEncode (cs : List Char) : List Char :=
  (utf8 cs).flatMap percentEncodeByte

/-! ## Reading -/

/-- The bytes that a percent encoding stands for. Fails at a `%` without two digits. -/
def percentDecodeBytes? : List Char → Option (List UInt8)
  | [] => some []
  | '%' :: high :: low :: rest => do
    let h ← digitValue? 16 high
    let l ← digitValue? 16 low
    let bytes ← percentDecodeBytes? rest
    return UInt8.ofNat (h * 16 + l) :: bytes
  | '%' :: _ => none
  | '+' :: rest => (percentDecodeBytes? rest).map (0x20 :: ·)
  | c :: rest => (percentDecodeBytes? rest).map (String.utf8EncodeChar c ++ ·)

/-- The text that a percent encoding stands for, if the encoding is well formed and its bytes are
UTF-8. -/
def percentDecode? (cs : List Char) : Option (List Char) :=
  (percentDecodeBytes? cs).bind ofUtf8?

/-- Reads a percent encoding. In a text that is none, only `+` is read, as a space. -/
def percentDecode (cs : List Char) : List Char :=
  (percentDecode? cs).getD (cs.map fun c => if c = '+' then ' ' else c)

end Stencil.Text
