import Std.Data.ExtTreeSet
import CodeGauge.Text.Integer

/-!
# Lock keys

A recomputation holds one key for each file and each symbol it concerns. Keys are ordered by kind
and then by text, and always taken in that order, so holders of common keys never wait for each
other in a circle. Follows sections 5 and 10.5 of the specification.
-/

open Std

namespace CodeGauge

/-- The key of one entity: what kind of entity it is and the text that names it. -/
structure LockKey where
  kind : String
  text : String
  deriving DecidableEq, Repr

namespace LockKey

/-- The texts by which keys are ordered. -/
def segments (k : LockKey) : List String :=
  [k.kind, k.text]

/-- Keys are ordered by kind and then by text. -/
instance : Ord LockKey := ⟨compareOn segments⟩

/-- The order of keys is that of their texts. -/
instance : TransOrd LockKey :=
  inferInstanceAs (TransCmp (compareOn segments))

/-- Keys that are not told apart by the order are the same. -/
instance : LawfulEqOrd LockKey where
  compare_self := @fun a => @ReflCmp.compare_self _ (compareOn segments) _ a
  eq_of_compare {a b} h := by
    have : a.segments = b.segments := (@LawfulEqCmp.eq_of_compare (List String) compare _ _ _ h)
    cases a; cases b; simp_all [segments]

/-- The key of a file, by its written path. -/
def ofFile (path : String) : LockKey :=
  ⟨"file", path⟩

/-- The key of a symbol: its id with zeros in front, so that ids of up to twenty digits are in
order. -/
def ofSymbol (id : Int) : LockKey :=
  ⟨"symbol", Text.zeroPadded 20 id⟩

end LockKey

end CodeGauge
