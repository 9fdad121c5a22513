import Backbeat.Media.Range.Header
import Backbeat.Proofs.Media.Delivery
import Backbeat.Proofs.Text.Decimal
import Backbeat.Proofs.Text.Splitting
import Mathlib.Algebra.Group.Nat.Defs

/-!
# The grammar of range headers

A header that asks for a range is a unit, which may be left out, and two pieces with a hyphen
between them.  The first piece is a numeral, and so is the second one unless it is blank; both
numbers have sixty-four bits, and the second is not below the first.

The main statements are that a header is read as a range exactly when the grammar says so, and that
what is written for a range is read back as this range.
-/

namespace Backbeat

namespace ByteRange

open Text

/-- What is left of a header without its unit, if it has one. -/
def IsWithoutUnit (header rest : List Char) : Prop :=
  header = unitMark ++ rest ∨ ¬ unitMark <+: header ∧ header = rest

theorem dropUnit_eq_iff {header rest : List Char} :
    dropUnit header = rest ↔ IsWithoutUnit header rest := by
  unfold dropUnit IsWithoutUnit
  split
  · next unit =>
    rw [List.isPrefixOf_iff_prefix] at unit
    obtain ⟨behind, rfl⟩ := unit
    simp
  · next unit =>
    rw [List.isPrefixOf_iff_prefix] at unit
    constructor
    · rintro rfl
      exact .inr ⟨unit, rfl⟩
    · rintro (rfl | ⟨-, same⟩)
      · exact absurd (List.prefix_append unitMark rest) unit
      · exact same

/-- The header, which has no blanks at its ends, asks for the range. -/
inductive Asks (header : List Char) : ByteRange → Prop
  | fromStart {first last : List Char} {start : Nat}
    (pieces : IsWithoutUnit header (first ++ '-' :: last)) (single : '-' ∉ first ++ last)
    (starts : IsNumeral (trim first) start) (start_lt : start < 2 ^ 64) (endless : trim last = []) :
    Asks header ⟨start, none⟩
  | closed {first last : List Char} {start stop : Nat}
    (pieces : IsWithoutUnit header (first ++ '-' :: last)) (single : '-' ∉ first ++ last)
    (starts : IsNumeral (trim first) start) (start_lt : start < 2 ^ 64)
    (stops : IsNumeral (trim last) stop) (stop_lt : stop < 2 ^ 64) (ordered : start ≤ stop) :
    Asks header ⟨start, some stop⟩

theorem le_max64_iff {value : Nat} : value ≤ max64 ↔ value < 2 ^ 64 := by
  rw [max64]
  omega

/-- A header is read as a range exactly when it asks for this range. -/
theorem ofSpec_eq_ok_iff {header : List Char} {range : ByteRange} :
    ofSpec header = .ok range ↔ Asks header range := by
  constructor
  · intro read
    rw [ofSpec] at read
    split at read
    · next first last split =>
      obtain ⟨pieces, none_first, none_last⟩ := splitOn_eq_pair_iff.mp split
      have without := dropUnit_eq_iff.mp pieces
      have single : '-' ∉ first ++ last := by
        rw [List.mem_append]
        exact not_or.mpr ⟨none_first, none_last⟩
      split at read
      · cases read
      · next starts =>
        obtain ⟨starts, start_le⟩ := readNat_eq_ok_iff.mp starts
        have start_lt := le_max64_iff.mp start_le
        split at read
        · next endless =>
          cases read
          exact .fromStart without single starts start_lt (trimmed?_eq_none_iff.mp endless)
        · next digits trimmed =>
          split at read
          · cases read
          · next stops =>
            obtain ⟨stops, stop_le⟩ := readNat_eq_ok_iff.mp stops
            rw [← (trimmed?_eq_some_iff.mp trimmed).1] at stops
            obtain ⟨ordered, rfl⟩ := closed_eq_ok_iff.mp read
            exact .closed without single starts start_lt stops (le_max64_iff.mp stop_le) ordered
    · cases read
  · intro asks
    have split {first last : List Char} (pieces : IsWithoutUnit header (first ++ '-' :: last))
        (single : '-' ∉ first ++ last) : (dropUnit header).splitOn '-' = [first, last] := by
      rw [List.mem_append, not_or] at single
      exact splitOn_eq_pair_iff.mpr ⟨dropUnit_eq_iff.mpr pieces, single⟩
    cases asks with
    | fromStart pieces single starts start_lt endless =>
      have read := readNat_eq_ok_iff.mpr ⟨starts, le_max64_iff.mpr start_lt⟩
      simp only [ofSpec, split pieces single, read, trimmed?_eq_none_iff.mpr endless]
      rfl
    | closed pieces single starts start_lt stops stop_lt ordered =>
      have read := readNat_eq_ok_iff.mpr ⟨starts, le_max64_iff.mpr start_lt⟩
      have read_stop := readNat_eq_ok_iff.mpr ⟨stops, le_max64_iff.mpr stop_lt⟩
      simp only [ofSpec, split pieces single, read, trimmed?_eq_some_iff.mpr ⟨rfl, stops.ne_nil⟩,
        read_stop]
      exact closed_eq_ok_iff.mpr ⟨ordered, rfl⟩

theorem Asks.ne_nil {header : List Char} {range : ByteRange} (asks : Asks header range) :
    header ≠ [] := by
  have filled {first last : List Char} (pieces : IsWithoutUnit header (first ++ '-' :: last)) :
      header ≠ [] := by
    rcases pieces with rfl | ⟨-, rfl⟩
    · exact List.append_ne_nil_of_left_ne_nil (by decide) _
    · exact List.append_ne_nil_of_right_ne_nil first (List.cons_ne_nil '-' last)
  cases asks with
  | fromStart pieces => exact filled pieces
  | closed pieces => exact filled pieces

/-- A header is read as nothing exactly when it is blank. -/
theorem ofHeader_eq_none_iff {header : String} :
    ofHeader header = .ok none ↔ trim header.toList = [] := by
  have missing := ofHeader?_eq_none_iff (some header)
  simpa only [ofHeader?, Option.some.injEq, forall_eq'] using missing

/-- A header is read as a range exactly when it asks for this range. -/
theorem ofHeader_eq_some_iff {header : String} {range : ByteRange} :
    ofHeader header = .ok (some range) ↔ Asks (trim header.toList) range := by
  rw [ofHeader]
  split
  · next blank =>
    constructor
    · intro read
      cases read
    · intro asks
      exact absurd (trimmed?_eq_none_iff.mp blank) asks.ne_nil
  · next spec trimmed =>
    rw [(trimmed?_eq_some_iff.mp trimmed).1, ← ofSpec_eq_ok_iff]
    cases ofSpec spec <;> simp [Except.map]

/-- Any other header is refused. -/
theorem ofHeader_eq_error_iff {header : String} :
    (∃ fault, ofHeader header = .error fault) ↔
      trim header.toList ≠ [] ∧ ∀ range, ¬ Asks (trim header.toList) range := by
  simp only [ne_eq, ← ofHeader_eq_none_iff, ← ofHeader_eq_some_iff]
  rcases ofHeader header with fault | ⟨_ | range⟩ <;> simp

/-! ## What is written for a range -/

/-- What is written for the end of a range. -/
def stopText (range : ByteRange) : List Char :=
  (range.stop.map (Nat.toDigits 10)).getD []

theorem toList_toHeader (range : ByteRange) :
    range.toHeader.toList =
      unitMark ++ (Nat.toDigits 10 range.start ++ '-' :: range.stopText) := by
  obtain ⟨start, _ | stop⟩ := range
  · have joined : toHeader ⟨start, none⟩ = "bytes=" ++ toString start ++ "-" := rfl
    rw [joined]
    simp [unitMark, stopText]
  · have joined : toHeader ⟨start, some stop⟩ =
        "bytes=" ++ toString start ++ "-" ++ toString stop := rfl
    rw [joined]
    simp [unitMark, stopText]

theorem isDigit_of_mem_stopText {range : ByteRange} :
    ∀ character ∈ range.stopText, character.isDigit = true := by
  obtain ⟨start, _ | stop⟩ := range
  · nofun
  · exact isDigit_of_mem_toDigits

/-- There are no blanks in what is written for a range. -/
theorem trim_toHeader (range : ByteRange) :
    trim range.toHeader.toList = range.toHeader.toList := by
  apply trim_of_not_isBlank
  intro character member
  rw [toList_toHeader, List.mem_append, List.mem_append, List.mem_cons] at member
  rcases member with unit | first | rfl | last
  · have unblank : unitMark.all (fun character => !isBlank character) = true := by decide
    simpa using List.all_eq_true.mp unblank character unit
  · exact isBlank_of_isDigit (isDigit_of_mem_toDigits character first)
  · decide
  · exact isBlank_of_isDigit (isDigit_of_mem_stopText character last)

/-- What is written for a range is read back as this range. -/
theorem ofHeader_toHeader {range : ByteRange} (ordered : range.Ordered)
    (start_lt : range.start < 2 ^ 64) (stop_lt : ∀ stop, range.stop = some stop → stop < 2 ^ 64) :
    ofHeader range.toHeader = .ok (some range) := by
  rw [ofHeader_eq_some_iff, trim_toHeader, toList_toHeader]
  have pieces : IsWithoutUnit (unitMark ++ (Nat.toDigits 10 range.start ++ '-' :: range.stopText))
      (Nat.toDigits 10 range.start ++ '-' :: range.stopText) := .inl rfl
  have single : '-' ∉ Nat.toDigits 10 range.start ++ range.stopText := by
    rw [List.mem_append]
    rintro (first | last)
    · cases isDigit_of_mem_toDigits _ first
    · cases isDigit_of_mem_stopText _ last
  have starts : IsNumeral (trim (Nat.toDigits 10 range.start)) range.start := by
    rw [trim_of_isDigit isDigit_of_mem_toDigits]
    exact isNumeral_toDigits range.start
  obtain ⟨start, _ | stop⟩ := range
  · exact .fromStart pieces single starts start_lt rfl
  · have stops : IsNumeral (trim (Nat.toDigits 10 stop)) stop := by
      rw [trim_of_isDigit isDigit_of_mem_toDigits]
      exact isNumeral_toDigits stop
    exact .closed pieces single starts start_lt stops (stop_lt stop rfl) (ordered stop rfl)

/-- What asks for a span is read as the range between its ends. -/
theorem ofHeader_header {span : Span} (ordered : span.start ≤ span.stop)
    (small : span.stop < 2 ^ 64) :
    ofHeader span.header = .ok (some ⟨span.start, some span.stop⟩) := by
  have written : span.header = toHeader ⟨span.start, some span.stop⟩ := rfl
  rw [written]
  apply ofHeader_toHeader
  · rintro _ ⟨⟩
    exact ordered
  · exact Nat.lt_of_le_of_lt ordered small
  · rintro _ ⟨⟩
    exact small

end ByteRange

end Backbeat
