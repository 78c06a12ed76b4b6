/-!
# Hexadecimal text of bytes

Each byte is written by two digits, the high one first, letters in lower case.
-/

namespace CodeGauge.Digest

/-- The two digits of a byte. -/
def hexByte (b : UInt8) : List Char :=
  [Nat.digitChar (b.toNat / 16), Nat.digitChar (b.toNat % 16)]

/-- The digits of all bytes in order. -/
def hex (bytes : ByteArray) : String :=
  bytes.foldl (fun s b => (hexByte b).foldl String.push s) ""

/-- The value of a hexadecimal digit. -/
def hexValue? (c : Char) : Option Nat :=
  let n := c.toNat
  if 48 ≤ n && n ≤ 57 then some (n - 48)
  else if 97 ≤ n && n ≤ 102 then some (n - 87)
  else if 65 ≤ n && n ≤ 70 then some (n - 55)
  else none

/-- The bytes that digits spell; `none` for a character that is no digit or a digit left over. -/
def unhex? : List Char → Option (List UInt8)
  | [] => some []
  | hi :: lo :: rest => do
    return (16 * (← hexValue? hi) + (← hexValue? lo)).toUInt8 :: (← unhex? rest)
  | [_] => none

end CodeGauge.Digest
