import CodeGauge.Text.Digit

/-!
# Integers in text

An integer is spelled by an optional sign and decimal digits of any script, with single underscores
allowed between digits and blanks around the whole. A spelling has at most 4300 digits.

A *plain* integer is spelled with the digits of ASCII only. It may end in a point and zeros, and may
have any number of zeros in front, which are passed over before anything else is looked at.
-/

namespace CodeGauge.Text

/-- Why a text is no integer. -/
inductive IntegerFault where
  | malformed
  | tooLong (digits : Nat)
  deriving DecidableEq, Repr

/-- The most digits that a spelling may have. -/
def maxDigits : Nat := 4300

/-- The values of the digits a text begins with and what stands after them. An underscore is passed
over only between two digits; `none` if there is no digit or an underscore that none follows. -/
def digitRun? : List Char → Option (List Nat × List Char)
  | [] => none
  | c :: rest => do
    let d ← digitValue? c
    match rest with
    | '_' :: more =>
      let (ds, after) ← digitRun? more
      return (d :: ds, after)
    | e :: more =>
      if (digitValue? e).isSome then
        let (ds, after) ← digitRun? (e :: more)
        return (d :: ds, after)
      else return ([d], e :: more)
    | [] => return ([d], [])

/-- The number that digits spell, the most significant first. -/
def ofDigits (digits : List Nat) : Nat :=
  digits.foldl (10 * · + ·) 0

/-- A number without a sign. Too many digits are reported before anything that stands after them. -/
def readNatural (cs : List Char) : Except IntegerFault Nat :=
  match digitRun? cs with
  | none => .error .malformed
  | some (digits, rest) =>
    if maxDigits < digits.length then .error (.tooLong digits.length)
    else if rest.isEmpty then .ok (ofDigits digits)
    else .error .malformed

/-- The integer a text spells. -/
def readInteger (s : String) : Except IntegerFault Int :=
  match strip s.toList with
  | '-' :: rest => (readNatural rest).map fun n => -(n : Int)
  | '+' :: rest => (readNatural rest).map Int.ofNat
  | rest => (readNatural rest).map Int.ofNat

/-! ## Plain integers -/

/-- Whether a character can begin a number without zeros in front. -/
def beginsNumber (c : Char) : Bool :=
  c == '-' || ('1' ≤ c && c ≤ '9')

/-- What is left when zeros, and underscores among them, have been passed over, the last of them
being `last`. It stays where nothing or a point follows. -/
def passZeros? (last : Char) : List Char → Option (List Char)
  | [] => some [last]
  | c :: rest =>
    if c == '0' || c == '_' then passZeros? c rest
    else if c == '.' then some (last :: c :: rest)
    else if beginsNumber c then some (c :: rest)
    else none

/-- A number without the zeros in front. -/
def withoutZeros? : List Char → Option (List Char)
  | [] => none
  | c :: rest =>
    if c == '0' then passZeros? c rest
    else if beginsNumber c then some (c :: rest)
    else none

/-- A number without the zeros in front and with its sign; plus is left out. A minus sign may also
stand after the zeros, if none stands before them. -/
def signedWithoutZeros? : List Char → Option (List Char)
  | '+' :: rest => if rest.head? = some '-' then none else withoutZeros? rest
  | '-' :: rest => ((withoutZeros? rest).filter (·.head? != some '-')).map ('-' :: ·)
  | rest => withoutZeros? rest

/-- A number without a point and zeros at its end. -/
def withoutDecimals (cs : List Char) : List Char :=
  match cs.span (· != '.') with
  | (whole, _ :: zeros) => if !zeros.isEmpty && zeros.all (· == '0') then whole else cs
  | _ => cs

/-- A number without its underscores, each of which must stand alone and before something. -/
def withoutUnderscores? : List Char → Option (List Char)
  | [] => some []
  | c :: rest =>
    if c = '_' then
      if rest.head?.all (· == '_') then none else withoutUnderscores? rest
    else (withoutUnderscores? rest).map (c :: ·)

/-- The number that ASCII digits spell without a zero in front. -/
def plainNatural? (cs : List Char) : Option Nat :=
  if cs.isEmpty || !cs.all Char.isDigit || (cs.head? == some '0' && 1 < cs.length) then none
  else some (ofDigits (cs.map fun c => c.toNat - '0'.toNat))

/-- The integer that a text spells plainly. -/
def readPlainInteger? (s : String) : Option Int := do
  let cs ← withoutUnderscores? (withoutDecimals (← signedWithoutZeros? (strip s.toList)))
  if maxDigits < cs.length then none
  match cs with
  | '-' :: digits => (plainNatural? digits).map fun n => -(n : Int)
  | digits => (plainNatural? digits).map Int.ofNat

/-! ## Writing -/

/-- An integer in decimal with zeros between the sign and the digits, so that sign and digits
together have at least `width` characters. -/
def zeroPadded (width : Nat) (n : Int) : String :=
  let digits := (toString n.natAbs).toList
  let sign := if n < 0 then ['-'] else []
  String.ofList (sign ++ List.replicate (width - sign.length - digits.length) '0' ++ digits)

end CodeGauge.Text
