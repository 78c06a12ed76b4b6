import Std.Data.ExtTreeSet

/-!
# Paths

A path is a root and the names below it. Reading a path text drops empty names and lone dots and
keeps `..`, so two spellings of one place are one path; writing a path gives its normal form back.
Paths are ordered name by name, the root standing before the first name. Names are texts of Unicode
scalar values: a name with bytes that are no such text, which would be spelled with unpaired
surrogates, is not a path here.

The laws below say that a written path reads back as itself (`Path.ofString_toString`), hence that
different paths are written differently (`Path.toString_injective`).
-/

open Std

namespace CodeGauge

/-- Cut a text at every slash; there is always one piece more than there are slashes. -/
def slashPieces : List Char → List (List Char)
  | [] => [[]]
  | c :: cs => if c = '/' then [] :: slashPieces cs else (slashPieces cs).modifyHead (c :: ·)

/-- A text without a slash is one piece. -/
theorem slashPieces_of_notMem {cs : List Char} (h : '/' ∉ cs) : slashPieces cs = [cs] := by
  induction cs with
  | nil => rfl
  | cons c cs ih =>
    have hc : c ≠ '/' := fun e => h (by simp [e])
    rw [slashPieces, if_neg hc, ih (fun e => h (List.mem_cons_of_mem _ e)), List.modifyHead_cons]

/-- A slash ends the piece before it. -/
theorem slashPieces_append_slash {piece : List Char} (h : '/' ∉ piece) (rest : List Char) :
    slashPieces (piece ++ '/' :: rest) = piece :: slashPieces rest := by
  induction piece with
  | nil => simp [slashPieces]
  | cons c cs ih =>
    have hc : c ≠ '/' := fun e => h (by simp [e])
    rw [List.cons_append, slashPieces, if_neg hc, ih (fun e => h (List.mem_cons_of_mem _ e)),
      List.modifyHead_cons]

/-- A name is a text between slashes that says something: neither empty nor a lone dot. -/
def IsName (s : String) : Prop :=
  s ≠ "" ∧ s ≠ "." ∧ '/' ∉ s.toList

/-- Whether a text is a name is decided on its characters. -/
instance (s : String) : Decidable (IsName s) :=
  inferInstanceAs (Decidable (_ ∧ _ ∧ _))

/-- What a path hangs from: the directory it is read in, the top, or the top written with two
slashes. -/
inductive Root where
  | relative
  | slash
  | twoSlashes
  deriving DecidableEq, Repr

/-- The text that stands before the first name. -/
def Root.text : Root → String
  | .relative => ""
  | .slash => "/"
  | .twoSlashes => "//"

/-- A path in normal form. -/
structure Path where
  root : Root
  names : List String
  isName_of_mem : ∀ s ∈ names, IsName s
  deriving DecidableEq

namespace Path

/-- Paths with the same root and names are the same. -/
@[ext] theorem ext {p q : Path} (hr : p.root = q.root) (hn : p.names = q.names) : p = q := by
  cases p; cases q; simp_all

/-- The root that a text's leading slashes give: exactly two of them stay two, all other runs
are one. -/
def rootOf : List Char → Root
  | '/' :: '/' :: '/' :: _ => .slash
  | '/' :: '/' :: _ => .twoSlashes
  | '/' :: _ => .slash
  | _ => .relative

/-- The names in a list of candidate pieces. -/
def namesOf (pieces : List (List Char)) : List String :=
  (pieces.map String.ofList).filter (IsName ·)

/-- The path a text spells. -/
def ofString (s : String) : Path where
  root := rootOf s.toList
  names := namesOf (slashPieces s.toList)
  isName_of_mem := fun _ h => by simpa using (List.mem_filter.1 h).2

/-- The directory a relative path starts from. -/
def here : Path := ⟨.relative, [], by simp⟩

/-- A path to start from. -/
instance : Inhabited Path := ⟨here⟩

/-- The normal spelling: the root and the names with slashes between them, and a dot for neither. -/
def toString (p : Path) : String :=
  match p.root, p.names with
  | .relative, [] => "."
  | root, names => root.text ++ "/".intercalate names

/-- A path is shown as it is written. -/
instance : ToString Path := ⟨toString⟩

/-- Absolute paths hang from the top. -/
def isAbsolute (p : Path) : Bool :=
  p.root != .relative

/-- The path reached by following `q` from `p`; an absolute `q` leaves `p` behind. -/
def join (p q : Path) : Path :=
  match q.root with
  | .relative =>
    ⟨p.root, p.names ++ q.names, fun s h =>
      (List.mem_append.1 h).elim (p.isName_of_mem s) (q.isName_of_mem s)⟩
  | _ => q

/-- A path below another. -/
instance : Div Path := ⟨join⟩

/-- The last name, empty when there is none. -/
def name (p : Path) : String :=
  p.names.getLastD ""

/-- The path without its last name. -/
def parent (p : Path) : Path :=
  ⟨p.root, p.names.dropLast, fun s h => p.isName_of_mem s (List.dropLast_subset _ h)⟩

/-- Names with every `..` carried out, after the names of `up`, the last of them first. -/
def climb : (up names : List String) → List String
  | up, [] => up.reverse
  | up, s :: rest => climb (if s = ".." then up.tail else s :: up) rest

/-- Climbing brings no new names. -/
theorem mem_of_mem_climb {s : String} {up names : List String} (h : s ∈ climb up names) :
    s ∈ up ∨ s ∈ names := by
  induction names generalizing up with
  | nil => simpa [climb] using h
  | cons t names ih =>
    rcases ih h with h | h
    · split at h
      · exact .inl (List.mem_of_mem_tail h)
      · rcases List.mem_cons.1 h with rfl | h
        · simp
        · exact .inl h
    · exact .inr (List.mem_cons_of_mem _ h)

/-- An absolute path with every `..` carried out; the top is its own parent. -/
def resolved (p : Path) : Path :=
  ⟨p.root, climb [] p.names, fun s h =>
    p.isName_of_mem s ((mem_of_mem_climb h).resolve_left (List.not_mem_nil))⟩

/-- The texts by which paths are ordered: the root, if there is one, and the names. -/
def segments (p : Path) : List String :=
  match p.root with
  | .relative => p.names
  | root => root.text :: p.names

/-- Paths are ordered by root and then name by name. -/
instance : Ord Path := ⟨compareOn segments⟩

/-- Different paths have different segments, since no name holds a slash. -/
theorem segments_injective {p q : Path} (h : p.segments = q.segments) : p = q := by
  have key : ∀ (p : Path) (s : String), '/' ∈ s.toList → ∀ l, p.names ≠ s :: l := by
    intro p s hs l e
    exact (p.isName_of_mem s (by simp [e])).2.2 hs
  rcases p with ⟨rp, np, hp⟩
  rcases q with ⟨rq, nq, hq⟩
  cases rp <;> cases rq <;> simp only [segments, Root.text] at h
  · simp_all
  · exact absurd h (key ⟨.relative, np, hp⟩ "/" (by decide) _)
  · exact absurd h (key ⟨.relative, np, hp⟩ "//" (by decide) _)
  · exact absurd h.symm (key ⟨.relative, nq, hq⟩ "/" (by decide) _)
  · simp_all
  · simp at h
  · exact absurd h.symm (key ⟨.relative, nq, hq⟩ "//" (by decide) _)
  · simp at h
  · simp_all

/-- The order of paths is that of their segments. -/
instance : TransOrd Path :=
  inferInstanceAs (TransCmp (compareOn segments))

/-- Paths that are not told apart by the order are the same. -/
instance : LawfulEqOrd Path where
  compare_self := @fun a => @ReflCmp.compare_self _ (compareOn segments) _ a
  eq_of_compare h := segments_injective ((@LawfulEqCmp.eq_of_compare (List String) compare _ _ _ h))

/-! ## Reading back what was written -/

private theorem slashPieces_intercalate {s : String} {l : List String}
    (h : ∀ t ∈ s :: l, IsName t) :
    slashPieces ("/".intercalate (s :: l)).toList = (s :: l).map String.toList := by
  induction l generalizing s with
  | nil => simpa using slashPieces_of_notMem (h s (by simp)).2.2
  | cons t l ih =>
    have ht := ih fun u hu => h u (List.mem_cons_of_mem _ hu)
    have hs := slashPieces_append_slash (h s (by simp)).2.2 ("/".intercalate (t :: l)).toList
    have key : ("/".intercalate (s :: t :: l)).toList =
        s.toList ++ '/' :: ("/".intercalate (t :: l)).toList := by
      rw [String.intercalate_cons_cons, String.toList_append, String.toList_append]
      simp
    rw [key, hs, ht]
    rfl

private theorem namesOf_map_toList {l : List String} (h : ∀ s ∈ l, IsName s) :
    namesOf (l.map String.toList) = l := by
  simpa [namesOf, List.map_map, Function.comp_def] using h

private theorem namesOf_nil_cons (pieces : List (List Char)) :
    namesOf ([] :: pieces) = namesOf pieces := by
  simp [namesOf, IsName]

private theorem namesOf_slashPieces_intercalate {l : List String} (h : ∀ s ∈ l, IsName s) :
    namesOf (slashPieces ("/".intercalate l).toList) = l := by
  cases l with
  | nil => simp [slashPieces, namesOf, IsName]
  | cons s l => rw [slashPieces_intercalate h, namesOf_map_toList h]

private theorem head_intercalate {s : String} {l : List String} (h : IsName s) :
    ∃ c cs, ("/".intercalate (s :: l)).toList = c :: cs ∧ c ≠ '/' := by
  obtain ⟨c, cs, hc⟩ : ∃ c cs, s.toList = c :: cs := by
    cases hs : s.toList with
    | nil => exact absurd (String.toList_eq_nil_iff.1 hs) h.1
    | cons c cs => exact ⟨c, cs, rfl⟩
  have hne : c ≠ '/' := fun e => h.2.2 (by simp [hc, e])
  cases l with
  | nil => exact ⟨c, cs, by simpa using hc, hne⟩
  | cons t l =>
    refine ⟨c, cs ++ ("/" ++ "/".intercalate (t :: l)).toList, ?_, hne⟩
    rw [String.intercalate_cons_cons, String.append_assoc, String.toList_append, hc,
      List.cons_append]

/-- A written path reads back as itself. -/
theorem ofString_toString (p : Path) : ofString p.toString = p := by
  rcases p with ⟨root, names, h⟩
  cases root with
  | relative =>
    cases names with
    | nil => apply ext <;> simp [ofString, toString, rootOf, slashPieces, namesOf, IsName]
    | cons s l =>
      obtain ⟨c, cs, hc, hne⟩ := head_intercalate (l := l) (h s (by simp))
      apply ext
      · simp only [ofString, toString, Root.text, String.toList_append, hc]
        simp [rootOf, hne]
      · simpa [ofString, toString, Root.text] using namesOf_slashPieces_intercalate h
  | slash =>
    have hnames : namesOf (slashPieces ('/' :: ("/".intercalate names).toList)) = names := by
      rw [slashPieces, if_pos rfl, namesOf_nil_cons, namesOf_slashPieces_intercalate h]
    apply ext
    · cases names with
      | nil => simp [ofString, toString, Root.text, rootOf]
      | cons s l =>
        obtain ⟨c, cs, hc, hne⟩ := head_intercalate (l := l) (h s (by simp))
        simp only [ofString, toString, Root.text, String.toList_append, hc]
        simp [rootOf, hne]
    · simpa [ofString, toString, Root.text] using hnames
  | twoSlashes =>
    have hnames : namesOf (slashPieces ('/' :: '/' :: ("/".intercalate names).toList)) = names := by
      rw [slashPieces, if_pos rfl, namesOf_nil_cons, slashPieces, if_pos rfl, namesOf_nil_cons,
        namesOf_slashPieces_intercalate h]
    apply ext
    · cases names with
      | nil => simp [ofString, toString, Root.text, rootOf]
      | cons s l =>
        obtain ⟨c, cs, hc, hne⟩ := head_intercalate (l := l) (h s (by simp))
        simp only [ofString, toString, Root.text, String.toList_append, hc]
        simp [rootOf, hne]
    · simpa [ofString, toString, Root.text] using hnames

/-- Different paths are written differently. -/
theorem toString_injective {p q : Path} (h : p.toString = q.toString) : p = q := by
  rw [← ofString_toString p, h, ofString_toString]

end Path

end CodeGauge
