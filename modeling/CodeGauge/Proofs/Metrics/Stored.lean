import CodeGauge.Proofs.Metrics.Reference
import CodeGauge.Proofs.Store.Batch
import CodeGauge.Proofs.Unsigned

/-!
# How computed rows are stored

Columns keep integers and unsigned numbers as they are. Hence a row that was computed from counts, a
content and the spans of a symbol is stored with just these, dated with the time of its computation.
-/

namespace CodeGauge

/-- The computation fails, if it does, with an error that is no report on one entity. -/
def Unreported {α : Type} (r : Except Error α) : Prop :=
  ∀ e, r = .error e → e.isReported = false

/-! ## Failures of arithmetic -/

namespace Unreported

variable {α β : Type}

/-- A value is no failure, and so none that is reported. -/
theorem ok (a : α) : Unreported (.ok a) := nofun

private theorem bind {r : Except Error α} {f : α → Except Error β} (hr : Unreported r)
    (hf : ∀ a, Unreported (f a)) : Unreported (r >>= f) := by
  cases r with
  | ok a => exact hf a
  | error e =>
    intro e' same
    cases same
    exact hr e rfl

/-- A list fails with no report if none of its elements does. -/
theorem mapM {f : α → Except Error β} (hf : ∀ a, Unreported (f a)) {as : List α} :
    Unreported (as.mapM f) := by
  induction as with
  | nil => exact .ok []
  | cons a as ih =>
    rw [List.mapM_cons]
    exact (hf a).bind fun _ => ih.bind fun _ => .ok _

private theorem orderOfLike (v w : Value) : Unreported (v.orderOfLike w) := by
  rw [Value.orderOfLike]
  split
  · exact .ok _
  · intro e same
    cases same
    rfl

private theorem toBinary64 (v : Value) : Unreported v.toBinary64 := by
  cases v with
  | real x => exact .ok x
  | null | text =>
    intro e same
    cases same
    rfl
  | int n =>
    intro e same
    rw [Value.toBinary64] at same
    cases ho : Binary64.ofInt? n with
    | none => rw [ho] at same; cases same; rfl
    | some x => rw [ho] at same; cases same

private theorem plus (v w : Value) : Unreported (v.plus w) := by
  rw [Value.plus.eq_def]
  split
  · exact .ok _
  · exact (toBinary64 _).bind fun _ => (toBinary64 _).bind fun _ => .ok _

private theorem minus (v w : Value) : Unreported (v.minus w) := by
  rw [Value.minus.eq_def]
  split
  · exact .ok _
  · exact (toBinary64 _).bind fun _ => (toBinary64 _).bind fun _ => .ok _

/-- An estimate of lines fails with no report. -/
theorem estimateLines (v : Value) : Unreported (estimateLines v) :=
  (toBinary64 v).bind fun _ => .ok _

/-- A score fails with no report. -/
theorem score (row : FileMetrics) : Unreported row.score :=
  ((toBinary64 _).bind fun _ => .ok _).bind fun _ =>
    ((toBinary64 _).bind fun _ => .ok _).bind fun _ =>
      ((toBinary64 _).bind fun _ => .ok _).bind fun _ => .ok _

/-- A number of lines fails with no report. -/
theorem lineCount (s : Symbol) : Unreported s.lineCount := by
  rw [Symbol.lineCount]
  split
  · exact .ok _
  refine (orderOfLike _ _).bind fun o => ?_
  split
  · exact .ok _
  · exact (minus _ _).bind fun _ => plus _ _

/-- A number of bytes fails with no report. -/
theorem byteCount (s : Symbol) : Unreported s.byteCount := by
  rw [Symbol.byteCount]
  split
  · exact .ok _
  refine (orderOfLike _ _).bind fun o => ?_
  split
  · exact minus _ _
  · exact .ok _

end Unreported

/-! ## Columns -/

private theorem kept_of_mapM_admit {table : TableName} {given : List (Column × Value)}
    {kept : List Value} (h : (given.mapM fun x => Column.admit x.1 table x.2) = .ok kept) :
    kept = given.map fun x => x.1.affinity.kept x.2 := by
  rw [← List.map_id kept]
  refine map_eq_of_mapM_eq_ok h fun x _ v hv => ?_
  change (if _ then _ else _) = _ at hv
  split at hv
  · cases hv
  · cases hv
    rfl

/-- An admitted row is read from what its columns keep. -/
theorem StoredRow.kept_of_admit {α : Type} [StoredRow α] {given : List Value} {row : α}
    (h : StoredRow.admit α given = .ok row) :
    StoredRow.ofValues? (((StoredRow.table α).columns.zip given).map
      fun x => x.1.affinity.kept x.2) = some row := by
  have ⟨kept, all, made⟩ := Except.bind_eq_ok.mp h
  rw [← kept_of_mapM_admit all]
  cases ho : StoredRow.ofValues? (α := α) kept with
  | none => rw [ho] at made; cases made
  | some row' => rw [ho] at made; cases made; rfl

/-- A row is admitted exactly when every column that must have a value keeps one, and the columns
make a row. -/
theorem StoredRow.exists_admit_iff {α : Type} [StoredRow α] {given : List Value} :
    (∃ row : α, StoredRow.admit α given = .ok row) ↔
      (∀ x ∈ (StoredRow.table α).columns.zip given, x.1.required = true →
        x.1.affinity.kept x.2 ≠ .null) ∧
      ∃ row : α, StoredRow.ofValues? (((StoredRow.table α).columns.zip given).map
        fun x => x.1.affinity.kept x.2) = some row := by
  have column (x : Column × Value) : (∃ v, Column.admit x.1 (StoredRow.table α) x.2 = .ok v) ↔
      (x.1.required = true → x.1.affinity.kept x.2 ≠ .null) := by
    unfold Column.admit
    cases x.1.required with
    | false => simp
    | true => cases x.1.affinity.kept x.2 <;> simp [Value.isNull]
  constructor
  · rintro ⟨row, admitted⟩
    refine ⟨fun x mem => (column x).mp ?_, row, kept_of_admit admitted⟩
    obtain ⟨kept, all, _⟩ := Except.bind_eq_ok.mp admitted
    obtain ⟨v, _, made⟩ := exists_of_mapM_eq_ok all mem
    exact ⟨v, made⟩
  · rintro ⟨required, row, made⟩
    obtain ⟨kept, all⟩ := exists_mapM_eq_ok
      (f := fun x : Column × Value => Column.admit x.1 (StoredRow.table α) x.2) fun x mem =>
        (column x).mpr (required x mem)
    rw [← kept_of_mapM_admit all] at made
    exact ⟨row, Except.bind_eq_ok.mpr ⟨kept, all, by rw [made]; rfl⟩⟩

private theorem toBinary64_int_eq_ok {n : Int} {x : Binary64}
    (h : (Value.int n).toBinary64 = .ok x) : x = Binary64.ofInt n ∧ x.isFinite := by
  rw [Value.toBinary64] at h
  cases ho : Binary64.ofInt? n with
  | none => rw [ho] at h; cases h
  | some y =>
    rw [ho] at h
    cases h
    exact Binary64.ofInt?_eq_some ho

/-- A number of lines that is computed from a size is a fortieth of it. -/
theorem estimateLines_eq_ok {n : Int} {x : Binary64} (h : estimateLines (.int n) = .ok x) :
    x = estimateOf n := by
  have ⟨y, hy, made⟩ := Except.bind_eq_ok.mp h
  cases made
  rw [(toBinary64_int_eq_ok hy).1, estimateOf]

/-- An estimate of no fewer than no bytes has no sign. -/
theorem unsigned_estimateOf {n : Int} (h : 0 ≤ n) : (estimateOf n).Unsigned :=
  (Binary64.unsigned_ofInt h).divNat _

private theorem weighted_eq_ok {n : Int} (hn : 0 ≤ n) {weight x : Binary64}
    (hw : weight.Unsigned) (fw : weight.isFinite) (h : weighted (.int n) weight = .ok x) :
    x = Binary64.ofInt n * weight ∧ x.Unsigned := by
  have ⟨y, hy, made⟩ := Except.bind_eq_ok.mp h
  cases made
  have ⟨same, fy⟩ := toBinary64_int_eq_ok hy
  subst same
  exact ⟨rfl, (Binary64.unsigned_ofInt hn).mul hw fy fw⟩

/-- The computed score is that of the counts, and a column keeps it. -/
theorem complexity_eq_ok {lines fanIn fanOut : Int} (hl : 0 ≤ lines) (hi : 0 ≤ fanIn)
    (ho : 0 ≤ fanOut) {x : Binary64}
    (h : complexity (.int lines) (.int fanIn) (.int fanOut) = .ok x) :
    x = scoreOf lines fanIn fanOut ∧ x.Unsigned := by
  have ⟨a, ha, h⟩ := Except.bind_eq_ok.mp h
  have ⟨b, hb, h⟩ := Except.bind_eq_ok.mp h
  have ⟨c, hc, h⟩ := Except.bind_eq_ok.mp h
  cases h
  have perLine : lineWeight.Unsigned := Binary64.unsigned_ofRatio (by decide) _
  have perIn : fanInWeight.Unsigned := Binary64.unsigned_ofRatio (by decide) _
  have perOut : fanOutWeight.Unsigned := Binary64.unsigned_ofRatio (by decide) _
  have ⟨sameLines, ua⟩ := weighted_eq_ok hl perLine (by decide +kernel) ha
  have ⟨sameIn, ub⟩ := weighted_eq_ok hi perIn (by decide +kernel) hb
  have ⟨sameOut, uc⟩ := weighted_eq_ok ho perOut (by decide +kernel) hc
  refine ⟨?_, (ua.add ub).add uc⟩
  rw [sameLines, sameIn, sameOut, scoreOf]

private theorem orderOfLike_eq_ok {v w : Value} {o : Ordering} (h : v.orderOfLike w = .ok o) :
    o = v.order w := by
  rw [Value.orderOfLike] at h
  split at h
  · cases h
    rfl
  · cases h

/-- The computed lines of a symbol are those of its span, as a column of integers keeps them. -/
theorem numeric_of_lineCount {s : Symbol} {v : Value} (h : s.lineCount = .ok v) :
    v.numeric = linesOf s.line s.endLine := by
  rw [Symbol.lineCount] at h
  unfold linesOf
  split
  · next unknown =>
    rw [unknown] at h
    cases h
    rfl
  · next first last =>
    rw [first, last] at h
    change (if compare _ _ = Ordering.lt then _ else _) = _ at h
    split at h
    · next before =>
      cases h
      rw [Int.compare_eq_lt] at before
      rw [if_pos before]
      rfl
    · next before =>
      cases h
      rw [Int.compare_eq_lt] at before
      rw [if_neg before]
      rfl
  · next known _ =>
    split at h
    · next null =>
      cases hl : s.endLine with
      | null => exact (known hl).elim
      | _ => rw [hl] at null; cases null
    have ⟨o, ho, h⟩ := Except.bind_eq_ok.mp h
    cases orderOfLike_eq_ok ho
    split at h
    · next before =>
      cases h
      rw [if_pos before]
      rfl
    · next before =>
      change (s.endLine.minus s.line).bind _ = _ at h
      rw [if_neg before, h]
      rfl

/-- The computed bytes of a symbol are those of its span. -/
theorem bytesOf_eq_of_byteCount {s : Symbol} {v : Value} (h : s.byteCount = .ok v) :
    v = bytesOf s.byteStart s.byteEnd := by
  rw [Symbol.byteCount] at h
  unfold bytesOf
  split
  · next unknown =>
    rw [unknown] at h
    cases h
    rfl
  · next unknown _ =>
    rw [unknown, if_pos (by simp [Value.isNull])] at h
    cases h
    rfl
  · next start stop =>
    rw [start, stop] at h
    change (if compare _ _ = Ordering.gt then _ else _) = _ at h
    split at h
    · next before =>
      cases h
      rw [Int.compare_eq_gt] at before
      rw [if_pos before]
    · next before =>
      cases h
      rw [Int.compare_eq_gt] at before
      rw [if_neg before]
  · next known known' _ =>
    split at h
    · next null =>
      cases hs : s.byteStart with
      | null => exact (known hs).elim
      | _ =>
        cases hl : s.byteEnd with
        | null => exact (known' hl).elim
        | _ => rw [hs, hl] at null; cases null
    have ⟨o, ho, h⟩ := Except.bind_eq_ok.mp h
    cases orderOfLike_eq_ok ho
    split at h
    · next before => rw [if_pos before, h]; rfl
    · next before => cases h; rw [if_neg before]

private theorem ints_of_minus_eq_int {v w : Value} {n : Int} (h : v.minus w = .ok (.int n)) :
    ∃ a b, v = .int a ∧ w = .int b := by
  rw [Value.minus.eq_def] at h
  split at h
  · exact ⟨_, _, rfl, rfl⟩
  · have ⟨x, _, h⟩ := Except.bind_eq_ok.mp h
    have ⟨y, _, h⟩ := Except.bind_eq_ok.mp h
    cases h

/-- A number of bytes is one or the positive difference of the ends. -/
theorem bytesOf_eq_int {start stop : Value} {n : Int} (h : bytesOf start stop = .int n) :
    n = 1 ∨ ∃ a b, start = .int a ∧ stop = .int b ∧ a < b ∧ n = b - a := by
  unfold bytesOf at h
  split at h
  · cases h
    exact .inl rfl
  · cases h
    exact .inl rfl
  · cases h
    split
    next before => exact .inr ⟨_, _, rfl, rfl, before, rfl⟩
    · exact .inl rfl
  · next known _ ints =>
    split at h
    · cases hm : stop.minus start with
      | error e => rw [hm] at h; cases h
      | ok v =>
        rw [hm] at h
        cases h
        obtain ⟨b, a, rfl, rfl⟩ := ints_of_minus_eq_int hm
        exact (ints a b rfl rfl).elim
    · cases h
      exact .inl rfl

private theorem bytesOf_nonneg {start stop : Value} {n : Int} (h : bytesOf start stop = .int n) :
    0 ≤ n := by
  rcases bytesOf_eq_int h with one | ⟨a, b, _, _, before, difference⟩
  · omega
  · omega

/-- The computed cheap size of a symbol is that of its span, as a column of reals keeps it. -/
theorem kept_of_estimateLines {start stop : Value} {x : Binary64}
    (h : estimateLines (bytesOf start stop) = .ok x) :
    Affinity.real.kept (.real x) = estimateOfValue (bytesOf start stop) := by
  cases hb : bytesOf start stop with
  | null => rw [hb] at h; cases h
  | text s => rw [hb] at h; cases h
  | real y =>
    rw [hb] at h
    cases h
    rfl
  | int n =>
    rw [hb] at h
    rw [estimateLines_eq_ok h]
    exact (unsigned_estimateOf (bytesOf_nonneg hb)).kept

/-- A file row that was computed from counts and a content is stored with just these. -/
theorem FileMetrics.StoredAs.eq_dated {path : Path} {content : ByteArray} {estimated : Binary64}
    {count fanIn fanOut : Nat} {now : Int} {stored : FileMetricsRow}
    (he : estimateLines (.int content.size) = .ok estimated)
    (h : FileMetrics.StoredAs {
      path
      symbolCount := .int count
      loc := .int (countLines content)
      estimatedLoc := .real estimated
      fanIn := .int fanIn
      fanOut := .int fanOut
      lastUpdated := .int now } stored) :
    stored = FileMetricsRow.dated {
      symbolCount := .int count
      loc := .int (countLines content)
      estimatedLoc := .real (estimateOf content.size)
      fanIn := .int fanIn
      fanOut := .int fanOut
      score := .real (scoreOf (countLines content) fanIn fanOut)
      lastUpdated := .null } now := by
  have ⟨score, hs, admitted⟩ := h
  have lines : 0 ≤ countLines content := by
    rw [countLines]
    omega
  have ⟨sameScore, us⟩ := complexity_eq_ok lines (by omega) (by omega) hs
  have size : (estimateOf content.size).Unsigned := unsigned_estimateOf (by omega)
  have kept := StoredRow.kept_of_admit admitted
  change some (FileMetricsRow.mk _ _ (Affinity.real.kept (.real estimated)) _ _
    (Affinity.real.kept (.real score)) _) = some stored at kept
  rw [us.kept, sameScore, estimateLines_eq_ok he, size.kept] at kept
  cases kept
  rfl

/-- A symbol row is stored with what the columns keep of its sizes, and with all else as it is. -/
theorem SymbolMetrics.StoredAs.eq_dated {s : Symbol} {lines bytes : Value}
    {estimated : Binary64} {fanIn fanOut : Nat} {now : Int} {stored : SymbolMetricsRow}
    (hl : s.lineCount = .ok lines) (hb : s.byteCount = .ok bytes)
    (he : estimateLines bytes = .ok estimated)
    (h : SymbolMetrics.Draft.StoredAs (SymbolMetrics.draft {
      symbolId := s.id
      name := s.name
      kind := Vocabulary.text s.kind
      path := s.file
      loc := lines
      estimatedLoc := .real estimated
      fanIn := .int fanIn
      fanOut := .int fanOut
      lastUpdated := .int now
      cyclomatic := .int placeholderComplexity
      source := .placeholder }) stored) :
    stored = SymbolMetricsRow.dated {
      name := s.name
      kind := Vocabulary.text s.kind
      path := s.file.toString
      loc := linesOf s.line s.endLine
      estimatedLoc := estimateOfValue (bytesOf s.byteStart s.byteEnd)
      fanIn := .int fanIn
      fanOut := .int fanOut
      cyclomatic := .int placeholderComplexity
      lastUpdated := .null } now := by
  have kept := StoredRow.kept_of_admit h
  change some (SymbolMetricsRow.mk _ _ _ lines.numeric (Affinity.real.kept (.real _)) _ _ _ _) =
    some stored at kept
  cases bytesOf_eq_of_byteCount hb
  rw [numeric_of_lineCount hl, kept_of_estimateLines he] at kept
  cases kept
  rfl

end CodeGauge
