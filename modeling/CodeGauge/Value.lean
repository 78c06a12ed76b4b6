import CodeGauge.Error
import CodeGauge.Text.Decimal
import CodeGauge.Text.Shortest

/-!
# Values

What a column holds has no fixed kind: where an integer is due there may be a number with a fraction
or a text that spells no number. So what is computed from columns is computed from values, and fails
where a value is of a kind that the computation has no meaning for.

Values are ordered null first, then numbers by value, then texts by their characters. A text is a
sequence of Unicode scalar values, so that every text can be encoded; one with an unpaired surrogate
is not a value here.
-/

namespace CodeGauge

/-- Whether a column can hold an integer. -/
def inColumn (n : Int) : Bool :=
  -0x8000000000000000 ≤ n && n < 0x8000000000000000

/-- A value as a column or a parameter holds it. -/
inductive Value where
  | null
  | int (n : Int)
  | real (x : Binary64)
  | text (s : String)
  deriving DecidableEq, Repr, Inhabited

namespace Value

/-- An integer, or null for none. -/
def ofInt? (n : Option Int) : Value :=
  n.elim null int

/-- A text, or null for none. -/
def ofText? (s : Option String) : Value :=
  s.elim null text

/-- Whether a value is null. -/
def isNull : Value → Bool
  | null => true
  | _ => false

/-- The id that a value is: an integer, or a number equal to one that a column can hold. -/
def id? : Value → Option Int
  | int n => some n
  | real x => if x.isFinite && inColumn x.truncate && x.isWhole then some x.truncate else none
  | _ => none

/-! ## Order -/

/-- The place of a value's kind in the order. -/
def rank : Value → Nat
  | null => 0
  | int _ | real _ => 1
  | text _ => 2

/-- The order of values. -/
def order : Value → Value → Ordering
  | int m, int n => compare m n
  | int m, real y => Binary64.compareInt m y
  | real x, int n => (Binary64.compareInt n x).swap
  | real x, real y => compare x.orderKey y.orderKey
  | text s, text t => compare s t
  | v, w => compare v.rank w.rank

/-- The order of two numbers or of two texts. -/
def orderOfLike (v w : Value) : Except Error Ordering :=
  if v.rank = w.rank ∧ v.rank ≠ 0 then .ok (v.order w) else .error .wrongKind

/-! ## Arithmetic -/

/-- A number as a binary64 number. -/
def toBinary64 : Value → Except Error Binary64
  | int n => (Binary64.ofInt? n).elim (.error .beyondBinary64) .ok
  | real x => .ok x
  | _ => .error .wrongKind

/-- The sum of two numbers, an integer if both are integers. -/
def plus : Value → Value → Except Error Value
  | int m, int n => .ok (int (m + n))
  | v, w => do return real ((← v.toBinary64) + (← w.toBinary64))

/-- The difference of two numbers, an integer if both are integers. -/
def minus : Value → Value → Except Error Value
  | int m, int n => .ok (int (m - n))
  | v, w => do return real ((← v.toBinary64) - (← w.toBinary64))

/-! ## Text -/

/-- A value as lines show it. -/
def shown : Value → String
  | null => "None"
  | int n => toString n
  | real x => x.text .line
  | text s => s

/-- A number with one decimal place. -/
def tenths : Value → Except Error String
  | int n => return ((← toBinary64 (int n)).toFixed 1)
  | real x => .ok (x.toFixed 1)
  | text _ => .error (.unsuitedFormat 'f' "str")
  | null => .error .wrongKind

end Value

end CodeGauge
