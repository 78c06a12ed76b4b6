import CodeGauge.Digest.Hex
import CodeGauge.Error

/-!
# Where a database lies

The text of a path says where a database lies: in memory only, or in a file. A text that begins with
`file:` is a locator: a path with bytes written in hexadecimal after a percent sign, then options
after a question mark, and a remark after a number sign. Its options say whether the database may be
made and written.
-/

namespace CodeGauge

/-- How a file is opened. -/
structure Opening where
  creates : Bool := true
  writes : Bool := true
  deriving DecidableEq, Repr

/-- Where a database lies. -/
inductive Location where
  | memory
  | file (path : Path) (opening : Opening)
  deriving DecidableEq

namespace Location

/-- The text that stands for a database in memory. -/
def memoryName : String := ":memory:"

/-- The location that a name gives; without a name a database is in memory too. -/
def ofName (name : String) (opening : Opening) : Location :=
  if name = "" ∨ name = memoryName then .memory else .file (.ofString name) opening

/-- The byte that a percent sign and two digits stand for. -/
def percentByte? : List UInt8 → Option UInt8
  | 37 :: a :: b :: _ => do
    let a ← Digest.hexValue? (Char.ofNat a.toNat)
    let b ← Digest.hexValue? (Char.ofNat b.toNat)
    return (16 * a + b).toUInt8
  | _ => none

/-- The bytes of a part of a locator, after the first `skip`, which are left out. A byte zero ends
the part. -/
def decodedAfter : (skip : Nat) → List UInt8 → List UInt8
  | _, [] => []
  | skip + 1, _ :: rest => decodedAfter skip rest
  | 0, c :: rest =>
    match percentByte? (c :: rest) with
    | some 0 => []
    | some byte => byte :: decodedAfter 2 rest
    | none => c :: decodedAfter 0 rest

/-- The text of a part of a locator. Bytes that are no text name nothing. -/
def decoded (part : String) : Option String :=
  String.fromUTF8? ⟨(decodedAfter 0 part.toUTF8.toList).toArray⟩

/-- A text before the first of a character, and what stands after it. -/
def cutAt (c : Char) (s : String) : String × String :=
  let (before, after) := s.toList.span (· != c)
  (.ofList before, .ofList (after.drop 1))

/-- The options of a locator; one without a name is none. -/
def options (s : String) : List (String × String) :=
  (s.splitOn "&").filterMap fun option =>
    let (key, value) := cutAt '=' option
    match decoded key, decoded value with
    | some key, some value => if key = "" then none else some (key, value)
    | _, _ => none

/-- The location with an option of its locator. -/
def withOption (l : Location) (key value : String) : Except DatabaseFault Location :=
  match key, value with
  | "mode", "memory" => .ok .memory
  | "mode", "rwc" => .ok l
  | "mode", "rw" => .ok (match l with
    | .memory => .memory
    | .file p _ => .file p { creates := false })
  | "mode", "ro" => .ok (match l with
    | .memory => .memory
    | .file p _ => .file p { creates := false, writes := false })
  | "mode", value => .error (.unknownOpening "access mode" value)
  | "cache", value =>
    if value = "shared" ∨ value = "private" then .ok l
    else .error (.unknownOpening "cache mode" value)
  | "vfs", value => if value = "unix" then .ok l else .error (.unknownOpening "vfs" value)
  | _, _ => .ok l

/-- The location that a path gives. -/
def ofPath (p : Path) : Except DatabaseFault Location := do
  let text := p.toString
  if text.startsWith "file:" then
    let (written, query) := cutAt '?' (cutAt '#' ((text.drop 5).toString)).1
    match decoded written with
    | none => .error .cannotOpen
    | some name =>
      (options query).foldlM (fun l (key, value) => l.withOption key value) (ofName name {})
  else return ofName text {}

end Location

end CodeGauge
