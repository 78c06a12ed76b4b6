import CodeGauge.Proofs.Metrics.Stored
import CodeGauge.Proofs.Store.Acceptance

/-!
# Spans that can be measured

Columns may hold spans without a size: a text cannot be subtracted, and the difference of two
infinities is no number. Two integers always have a difference, but no column may hold it. The lines
of a symbol can be computed and stored exactly when `LinesFit` holds of its span, and its cheap size
exactly when `BytesFit` does.
-/

namespace CodeGauge

open CodeGauge.Action (fits)

/-- The values can be compared: both are numbers or both are texts. -/
def Value.Comparable (v w : Value) : Prop :=
  v.rank = w.rank ∧ v.rank ≠ 0

/-- Whether values can be compared is decided on their kinds. -/
instance (v w : Value) : Decidable (v.Comparable w) :=
  inferInstanceAs (Decidable (_ ∧ _))

/-- The span has a number of lines that a column can hold. -/
def LinesFit (first last : Value) : Prop :=
  (last = .null ∨ last.Comparable first) ∧ linesOf first last ≠ .null ∧
    fits (linesOf first last) = true

/-- Whether lines fit is decided on the two values. -/
instance (first last : Value) : Decidable (LinesFit first last) :=
  inferInstanceAs (Decidable (_ ∧ _))

/-- The span has a number of bytes from which a cheap size can be computed. -/
def BytesFit (start stop : Value) : Prop :=
  (start = .null ∨ stop = .null ∨ stop.Comparable start) ∧
    estimateOfValue (bytesOf start stop) ≠ .null

/-- Whether bytes fit is decided on the two values. -/
instance (start stop : Value) : Decidable (BytesFit start stop) :=
  inferInstanceAs (Decidable (_ ∧ _))

/-! ## Values that columns hold -/

/-- A column holds the integers of 64 bits with a sign. -/
theorem inColumn_iff {n : Int} :
    inColumn n = true ↔ -0x8000000000000000 ≤ n ∧ n < 0x8000000000000000 := by
  simp only [inColumn, Bool.and_eq_true, decide_eq_true_eq]

private theorem Value.isNull_iff {v : Value} : v.isNull = true ↔ v = .null := by
  cases v <;> simp [isNull]

private theorem fits_ofReal (x : Binary64) : fits (Value.ofReal x) = true := by
  rw [Value.ofReal]
  split
  next whole =>
    simp only [Bool.and_eq_true, inColumn_iff] at whole
    rw [fits, inColumn_iff]
    omega
  · rfl

/-- A column of integers makes none that no column can hold. -/
theorem fits_numeric (v : Value) : fits v.numeric = fits v := by
  cases v with
  | null => rfl
  | int n => rfl
  | real x =>
    rw [Value.numeric, Value.bound]
    by_cases none : x.isNaN
    · rw [if_pos none]
      rfl
    · rw [if_neg none]
      exact fits_ofReal x
  | text s =>
    rw [Value.numeric]
    dsimp only [Value.bound]
    split
    · split
      next found => exact (Option.filter_eq_some_iff.mp found).2
      · exact fits_ofReal _
    · rfl

private theorem orderOfLike_of_comparable {v w : Value} (h : v.Comparable w) :
    v.orderOfLike w = .ok (v.order w) := by
  rw [Value.orderOfLike]
  exact if_pos h

private theorem comparable_of_orderOfLike {v w : Value} {o : Ordering}
    (h : v.orderOfLike w = .ok o) :
    v.Comparable w := by
  rw [Value.orderOfLike] at h
  split at h
  next both => exact both
  · cases h

private theorem exists_of_getD_ne_null {r : Except Error Value}
    (h : (r.toOption.getD .null).numeric ≠ .null) : ∃ v, r = .ok v := by
  cases r with
  | error e => exact (h rfl).elim
  | ok v => exact ⟨v, rfl⟩

/-! ## Lines -/

/-- The lines of a symbol can be computed and stored when they fit. -/
theorem exists_lineCount_iff {s : Symbol} :
    (∃ v, s.lineCount = .ok v ∧ v.numeric ≠ .null ∧ fits v = true) ↔ LinesFit s.line s.endLine := by
  constructor
  · rintro ⟨v, made, some, fit⟩
    rw [← fits_numeric] at fit
    rw [numeric_of_lineCount made] at some fit
    refine ⟨?_, some, fit⟩
    by_cases unknown : s.endLine.isNull
    · exact .inl (Value.isNull_iff.mp unknown)
    · rw [Symbol.lineCount, if_neg unknown] at made
      obtain ⟨o, ordered, _⟩ := Except.bind_eq_ok.mp made
      exact .inr (comparable_of_orderOfLike ordered)
  · rintro ⟨comparable, some, fit⟩
    obtain ⟨v, made⟩ : ∃ v, s.lineCount = .ok v := by
      rw [Symbol.lineCount]
      rcases comparable with unknown | comparable
      · exact ⟨_, if_pos (Value.isNull_iff.mpr unknown)⟩
      split
      · exact ⟨_, rfl⟩
      rw [orderOfLike_of_comparable comparable, Except.ok_bind]
      split
      · exact ⟨_, rfl⟩
      next notBefore =>
        rw [linesOf.eq_def] at some
        split at some
        next unknown => rw [unknown] at comparable; exact (comparable.2 rfl).elim
        next first last => rw [first, last]; exact ⟨_, rfl⟩
        · rw [if_neg notBefore] at some
          exact exists_of_getD_ne_null some
    rw [← numeric_of_lineCount made] at some fit
    exact ⟨v, made, some, (fits_numeric v).symm.trans fit⟩

/-! ## Bytes -/

private theorem exists_estimateLines {start stop : Value} (fitStart : fits start = true)
    (fitStop : fits stop = true) (sized : estimateOfValue (bytesOf start stop) ≠ .null) :
    ∃ size, estimateLines (bytesOf start stop) = .ok size := by
  cases hb : bytesOf start stop with
  | null => rw [hb] at sized; exact (sized rfl).elim
  | text s => rw [hb] at sized; exact (sized rfl).elim
  | real x => exact ⟨_, rfl⟩
  | int n =>
    have small : n.natAbs < 2 ^ 66 := by
      rcases bytesOf_eq_int hb with rfl | ⟨a, b, rfl, rfl, _, rfl⟩
      · decide
      · rw [fits, inColumn_iff] at fitStart fitStop
        omega
    refine ⟨(Binary64.ofInt n).divNat bytesPerLine, ?_⟩
    rw [estimateLines, Value.toBinary64, Binary64.ofInt?_eq_ofInt small]
    rfl

/-- The cheap size of a symbol can be computed and stored when its bytes fit. -/
theorem exists_byteCount_iff {s : Symbol} (fitStart : fits s.byteStart = true)
    (fitEnd : fits s.byteEnd = true) :
    (∃ bytes size, s.byteCount = .ok bytes ∧ estimateLines bytes = .ok size ∧
      Affinity.real.kept (.real size) ≠ .null) ↔ BytesFit s.byteStart s.byteEnd := by
  constructor
  · rintro ⟨bytes, size, made, estimated, some⟩
    cases bytesOf_eq_of_byteCount made
    rw [kept_of_estimateLines estimated] at some
    refine ⟨?_, some⟩
    rw [Symbol.byteCount] at made
    split at made
    next unknown =>
      rw [Bool.or_eq_true, Value.isNull_iff, Value.isNull_iff] at unknown
      exact unknown.imp_right .inl
    · obtain ⟨o, ordered, _⟩ := Except.bind_eq_ok.mp made
      exact .inr (.inr (comparable_of_orderOfLike ordered))
  · rintro ⟨comparable, sized⟩
    obtain ⟨bytes, made⟩ : ∃ bytes, s.byteCount = .ok bytes := by
      rw [Symbol.byteCount]
      split
      · exact ⟨_, rfl⟩
      next known =>
      rw [Bool.or_eq_true, Value.isNull_iff, Value.isNull_iff, not_or] at known
      have like := (comparable.resolve_left known.1).resolve_left known.2
      rw [orderOfLike_of_comparable like, Except.ok_bind]
      split
      next after =>
        rw [bytesOf.eq_def] at sized
        split at sized
        · exact (known.1 ‹_›).elim
        · exact (known.2 ‹_›).elim
        next start stop => rw [start, stop]; exact ⟨_, rfl⟩
        · rw [if_pos after] at sized
          cases hm : s.byteEnd.minus s.byteStart with
          | error e => rw [hm] at sized; exact (sized rfl).elim
          | ok v => exact ⟨v, rfl⟩
      · exact ⟨_, rfl⟩
    cases bytesOf_eq_of_byteCount made
    obtain ⟨size, estimated⟩ := exists_estimateLines fitStart fitEnd sized
    rw [← kept_of_estimateLines estimated] at sized
    exact ⟨_, size, made, estimated, sized⟩

/-! ## Rows -/

/-- An integer that a column can hold can be computed with. -/
theorem toBinary64_int {n : Int} (fit : inColumn n = true) :
    (Value.int n).toBinary64 = .ok (Binary64.ofInt n) := by
  have small : n.natAbs < 2 ^ 66 := by
    rw [inColumn_iff] at fit
    omega
  rw [Value.toBinary64, Binary64.ofInt?_eq_ofInt small]
  rfl

private theorem exists_complexity {lines fanIn fanOut : Int} (fitLines : inColumn lines = true)
    (fitIn : inColumn fanIn = true) (fitOut : inColumn fanOut = true) :
    ∃ score, complexity (.int lines) (.int fanIn) (.int fanOut) = .ok score := by
  rw [complexity, weighted, weighted, weighted, toBinary64_int fitLines, toBinary64_int fitIn,
    toBinary64_int fitOut]
  exact ⟨_, rfl⟩

private theorem kept_int (n : Int) : Affinity.integer.kept (.int n) = .int n := rfl

private theorem fits_int (n : Int) : fits (.int n) = inColumn n := rfl

private theorem fits_real (x : Binary64) : fits (.real x) = true := rfl

private theorem fits_text (s : String) : fits (.text s) = true := rfl

private theorem kept_text (s : String) : Affinity.text.kept (.text s) = .text s := rfl

/-- A file row of counts that columns can hold, with an unsigned cheap size, can be stored. -/
theorem FileMetrics.storable {path : Path} {count lines fanIn fanOut now : Int} {size : Binary64}
    (unsigned : size.Unsigned) (lines_nonneg : 0 ≤ lines) (fanIn_nonneg : 0 ≤ fanIn)
    (fanOut_nonneg : 0 ≤ fanOut)
    (fit : ∀ n ∈ [count, lines, fanIn, fanOut, now], inColumn n = true) :
    FileMetrics.Storable {
      path
      symbolCount := .int count
      loc := .int lines
      estimatedLoc := .real size
      fanIn := .int fanIn
      fanOut := .int fanOut
      lastUpdated := .int now } := by
  simp only [List.forall_mem_cons] at fit
  obtain ⟨fitCount, fitLines, fitIn, fitOut, fitNow, _⟩ := fit
  obtain ⟨score, made⟩ := exists_complexity fitLines fitIn fitOut
  obtain ⟨_, unsigned'⟩ := complexity_eq_ok lines_nonneg fanIn_nonneg fanOut_nonneg made
  have columns (row : FileMetrics) :
      (∃ stored, StoredRow.admit FileMetricsRow (row.values score) = .ok stored) ↔ _ :=
    StoredRow.exists_admit_iff
  refine ⟨score, made, (columns _).mpr ⟨?_, _, rfl⟩, ?_⟩
  · simp [StoredRow.table, TableName.columns, values, kept_int, unsigned.kept, unsigned'.kept]
  · simp [values, fits_int, fits_real, fitCount, fitLines, fitIn, fitOut, fitNow]

/-- A symbol row whose counts columns can hold can be stored when its sizes can. -/
theorem SymbolMetrics.storable_iff {id fanIn fanOut now : Int} {name kind : String} {path : Path}
    {lines : Value} {size : Binary64}
    (fit : ∀ n ∈ [id, fanIn, fanOut, now], inColumn n = true) :
    (SymbolMetrics.draft {
      symbolId := id
      name
      kind
      path
      loc := lines
      estimatedLoc := .real size
      fanIn := .int fanIn
      fanOut := .int fanOut
      lastUpdated := .int now
      cyclomatic := .int placeholderComplexity
      source := .placeholder }).Storable ↔
      lines.numeric ≠ .null ∧ fits lines = true ∧ Affinity.real.kept (.real size) ≠ .null := by
  simp only [List.forall_mem_cons] at fit
  obtain ⟨fitId, fitIn, fitOut, fitNow, _⟩ := fit
  have kept : Affinity.integer.kept lines = lines.numeric := rfl
  have one : inColumn placeholderComplexity = true := by decide
  have columns (d : SymbolMetrics.Draft) : (∃ stored, d.StoredAs stored) ↔ _ :=
    StoredRow.exists_admit_iff
  rw [Draft.Storable, columns]
  simp [StoredRow.table, TableName.columns, StoredRow.ofValues?, SymbolMetrics.draft, Draft.values,
    Value.ofInt?, Value.ofText?, fits_int, fits_text, fits_real, kept_int, kept_text, kept, fitId,
    fitIn, fitOut, fitNow, one]
  exact and_assoc.trans (and_congr_right fun _ => and_comm)

end CodeGauge
