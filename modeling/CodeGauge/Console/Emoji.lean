import CodeGauge.Console.EmojiNames
import CodeGauge.Digest.Hex
import CodeGauge.Text.Digit
import CodeGauge.Text.Letter
import Std.Data.ExtTreeMap

/-!
# Emoji

An emoji is written by its name between colons, in letters of either case. After the name, `-emoji`
or `-text` asks for one of its two presentations. What stands between two colons without a space is
looked up; if it is no name it stays as it is, its second colon included.
-/

open Std

namespace CodeGauge.Console

/-- The character with a number in hexadecimal. -/
def characterOf? (digits : String) : Option Char := do
  let n ← digits.toList.foldlM (fun n c => (Digest.hexValue? c).map (16 * n + ·)) 0
  return Char.ofNat n

/-- The name and the characters in an entry of the list of names; an empty entry has none. -/
def emojiEntry? (entry : String) : Option (String × List Char) := do
  let (name, numbers) := entry.toList.span (· != '=')
  if name.isEmpty then none
  let characters ← ((String.ofList (numbers.drop 1)).splitOn "+").mapM characterOf?
  return (String.ofList name, characters)

/-- The characters of each emoji by its name. -/
def emojiTable : ExtTreeMap String (List Char) :=
  .ofList (((emojiNames.splitOn "\n").flatMap (·.splitOn " ")).filterMap emojiEntry?)

/-- What two colons enclose: a name, the character that asks for a presentation, and how many
characters come after the first colon, the second one included. -/
structure EmojiCode where
  name : String
  presentation : Option Char
  length : Nat

/-- The code that follows a colon, after the characters `name` in reverse. -/
def emojiCodeAfter? (name : List Char) : List Char → Option EmojiCode
  | [] => none
  | '-' :: 'e' :: 'm' :: 'o' :: 'j' :: 'i' :: ':' :: _ =>
    some ⟨.ofList name.reverse, some '\uFE0F', name.length + 7⟩
  | '-' :: 't' :: 'e' :: 'x' :: 't' :: ':' :: _ =>
    some ⟨.ofList name.reverse, some '\uFE0E', name.length + 6⟩
  | c :: rest =>
    if c = ':' then some ⟨.ofList name.reverse, none, name.length + 1⟩
    else if Text.isSpace c then none
    else emojiCodeAfter? (c :: name) rest

/-- What shows a code: its emoji, or the code itself if there is none of its name. -/
def EmojiCode.shown (code : EmojiCode) (written : List Char) : List Char :=
  match emojiTable[Text.smallLetters code.name]? with
  | some characters => characters ++ code.presentation.toList
  | none => written

/-- A text with its emoji shown, after the first `skip` characters, which are left out. -/
def withEmojiAfter : (skip : Nat) → List Char → List Char
  | _, [] => []
  | skip + 1, _ :: rest => withEmojiAfter skip rest
  | 0, c :: rest =>
    if c = ':' then
      match emojiCodeAfter? [] rest with
      | some code => code.shown (c :: rest.take code.length) ++ withEmojiAfter code.length rest
      | none => c :: withEmojiAfter 0 rest
    else c :: withEmojiAfter 0 rest

/-- A text with its emoji shown. -/
def withEmoji (cs : List Char) : List Char :=
  withEmojiAfter 0 cs

end CodeGauge.Console
