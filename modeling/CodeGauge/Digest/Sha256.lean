import CodeGauge.Digest.Hex

/-!
# SHA-256

The digest that names file contents. A message is padded to blocks of sixty-four bytes by a one
bit, zeros and its length in bits as eight bytes, and each block is mixed into eight words by
sixty-four rounds.
-/

namespace CodeGauge.Digest

/-- The constants of the rounds. -/
def roundConstants : Array UInt32 := #[
  0x428a2f98, 0x71374491, 0xb5c0fbcf, 0xe9b5dba5, 0x3956c25b, 0x59f111f1, 0x923f82a4, 0xab1c5ed5,
  0xd807aa98, 0x12835b01, 0x243185be, 0x550c7dc3, 0x72be5d74, 0x80deb1fe, 0x9bdc06a7, 0xc19bf174,
  0xe49b69c1, 0xefbe4786, 0x0fc19dc6, 0x240ca1cc, 0x2de92c6f, 0x4a7484aa, 0x5cb0a9dc, 0x76f988da,
  0x983e5152, 0xa831c66d, 0xb00327c8, 0xbf597fc7, 0xc6e00bf3, 0xd5a79147, 0x06ca6351, 0x14292967,
  0x27b70a85, 0x2e1b2138, 0x4d2c6dfc, 0x53380d13, 0x650a7354, 0x766a0abb, 0x81c2c92e, 0x92722c85,
  0xa2bfe8a1, 0xa81a664b, 0xc24b8b70, 0xc76c51a3, 0xd192e819, 0xd6990624, 0xf40e3585, 0x106aa070,
  0x19a4c116, 0x1e376c08, 0x2748774c, 0x34b0bcb5, 0x391c0cb3, 0x4ed8aa4a, 0x5b9cca4f, 0x682e6ff3,
  0x748f82ee, 0x78a5636f, 0x84c87814, 0x8cc70208, 0x90befffa, 0xa4506ceb, 0xbef9a3f7, 0xc67178f2]

/-- The eight words between blocks. -/
structure HashWords where
  a : UInt32
  b : UInt32
  c : UInt32
  d : UInt32
  e : UInt32
  f : UInt32
  g : UInt32
  h : UInt32
  deriving DecidableEq, Repr

namespace HashWords

/-- The words before the first block. -/
def initial : HashWords :=
  ⟨0x6a09e667, 0xbb67ae85, 0x3c6ef372, 0xa54ff53a, 0x510e527f, 0x9b05688c, 0x1f83d9ab, 0x5be0cd19⟩

/-- Sum word by word. -/
def add (x y : HashWords) : HashWords :=
  ⟨x.a + y.a, x.b + y.b, x.c + y.c, x.d + y.d, x.e + y.e, x.f + y.f, x.g + y.g, x.h + y.h⟩

/-- The words in order. -/
def toList (x : HashWords) : List UInt32 :=
  [x.a, x.b, x.c, x.d, x.e, x.f, x.g, x.h]

end HashWords

/-- Rotate to the right; `n` is between one and thirty-one. -/
def rotateRight (x n : UInt32) : UInt32 :=
  (x >>> n) ||| (x <<< (32 - n))

/-- Four bytes from `start` on, the first one highest; bytes beyond the end are zero. -/
def wordAt (bytes : ByteArray) (start : Nat) : UInt32 :=
  let byte (i : Nat) : UInt32 := ((bytes[start + i]?).getD 0).toUInt32
  (byte 0 <<< 24) ||| (byte 1 <<< 16) ||| (byte 2 <<< 8) ||| byte 3

/-- One more word of the schedule, from the words sixteen, fifteen, seven and two places back. -/
def scheduleNext (w : Array UInt32) : UInt32 :=
  let back (i : Nat) : UInt32 := (w[w.size - i]?).getD 0
  let low := back 15
  let high := back 2
  let s0 := rotateRight low 7 ^^^ rotateRight low 18 ^^^ (low >>> 3)
  let s1 := rotateRight high 17 ^^^ rotateRight high 19 ^^^ (high >>> 10)
  back 16 + s0 + back 7 + s1

/-- The sixty-four words that a block gives to the rounds. -/
def schedule (bytes : ByteArray) (start : Nat) : Array UInt32 :=
  let block := (List.range 16).foldl (fun w i => w.push (wordAt bytes (start + 4 * i))) #[]
  (List.range 48).foldl (fun w _ => w.push (scheduleNext w)) block

/-- One round with its constant and schedule word. -/
def round (x : HashWords) (constant word : UInt32) : HashWords :=
  let s1 := rotateRight x.e 6 ^^^ rotateRight x.e 11 ^^^ rotateRight x.e 25
  let choice := (x.e &&& x.f) ^^^ (~~~x.e &&& x.g)
  let t1 := x.h + s1 + choice + constant + word
  let s0 := rotateRight x.a 2 ^^^ rotateRight x.a 13 ^^^ rotateRight x.a 22
  let majority := (x.a &&& x.b) ^^^ (x.a &&& x.c) ^^^ (x.b &&& x.c)
  ⟨t1 + (s0 + majority), x.a, x.b, x.c, x.d + t1, x.e, x.f, x.g⟩

/-- Mix the block that begins at `start` into the words. -/
def mixBlock (bytes : ByteArray) (x : HashWords) (start : Nat) : HashWords :=
  let w := schedule bytes start
  x.add ((List.range 64).foldl
    (fun y i => round y ((roundConstants[i]?).getD 0) ((w[i]?).getD 0)) x)

/-- The `width` bytes of a number, the highest first. -/
def bigEndian (n : Nat) : (width : Nat) → List UInt8
  | 0 => []
  | width + 1 => bigEndian (n / 256) width ++ [n.toUInt8]

/-- The message with a one bit, the fewest zeros that fill a block, and its length in bits. -/
def padded (message : ByteArray) : ByteArray :=
  let zeros := (119 - message.size % 64) % 64
  message ++ ⟨(0x80 :: List.replicate zeros 0 ++ bigEndian (8 * message.size) 8).toArray⟩

/-- The thirty-two bytes of the digest. -/
def sha256 (message : ByteArray) : ByteArray :=
  let bytes := padded message
  let words := (List.range (bytes.size / 64)).foldl (fun x i => mixBlock bytes x (64 * i)) .initial
  ⟨(words.toList.flatMap fun w => bigEndian w.toNat 4).toArray⟩

/-- The digest in hexadecimal, by which a content is recorded. -/
def contentHash (content : ByteArray) : String :=
  hex (sha256 content)

end CodeGauge.Digest
