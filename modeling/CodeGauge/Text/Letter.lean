/-!
# Small letters

Words that are compared without regard to case are compared by their small letters. The letters of
ASCII, of the Latin scripts of Europe, of Greek and of Cyrillic have them.
-/

namespace CodeGauge.Text

/-- Capital letters whose small ones lie at a fixed distance: the first, the last, and the
distance. -/
def capitalRanges : List (Nat × Nat × Nat) := [
  (0x41, 0x5a, 32), (0xc0, 0xd6, 32), (0xd8, 0xde, 32), (0x391, 0x3a1, 32), (0x3a3, 0x3ab, 32),
  (0x400, 0x40f, 80), (0x410, 0x42f, 32)]

/-- Ranges in which each capital letter is followed by its small one: the first and the last
capital. -/
def alternatingRanges : List (Nat × Nat) := [
  (0x100, 0x12e), (0x132, 0x136), (0x139, 0x147), (0x14a, 0x176), (0x179, 0x17d), (0x460, 0x480)]

/-- The small letter of a letter; every other character is left. -/
def smallLetter (c : Char) : Char :=
  let n := c.toNat
  if n == 0x178 then 'ÿ'
  else if n == 0x212a then 'k'
  else if n == 0x212b then 'å'
  else
    match capitalRanges.find? fun (first, last, _) => first ≤ n && n ≤ last with
    | some (_, _, distance) => Char.ofNat (n + distance)
    | none =>
      if alternatingRanges.any fun (first, last) =>
          first ≤ n && n ≤ last && (n - first) % 2 == 0 then
        Char.ofNat (n + 1)
      else c

/-- A text in small letters. -/
def smallLetters (s : String) : String :=
  s.map smallLetter

end CodeGauge.Text
