import Backbeat.Proofs.Media.Delivery
import Mathlib.Order.Interval.Finset.Nat

/-!
# The places that a range asks for

A range asks for those places of an object that lie between its ends, and an object of some size
may have none of them.  The main statement is that resolving a range gives the interval of exactly
these places, and is refused when there are none; announcing how many they are overflows for no
size that sixty-four bits can tell.
-/

namespace Backbeat.ByteRange

open Text

variable {range : ByteRange} {size : Nat} {span : Span}

/-- The places of an object of `size` bytes that a range asks for. -/
def places (range : ByteRange) (size : Nat) : Finset Nat :=
  (Finset.range size).filter fun place =>
    range.start ≤ place ∧ ∀ stop ∈ range.stop, place ≤ stop

theorem mem_places {place : Nat} :
    place ∈ range.places size ↔
      place < size ∧ range.start ≤ place ∧ ∀ stop, range.stop = some stop → place ≤ stop := by
  rw [places, Finset.mem_filter, Finset.mem_range]
  rfl

/-- An object has no more places than bytes. -/
theorem card_places_le (range : ByteRange) (size : Nat) : (range.places size).card ≤ size := by
  have fewer := Finset.card_filter_le (Finset.range size) fun place =>
    range.start ≤ place ∧ ∀ stop ∈ range.stop, place ≤ stop
  rwa [Finset.card_range] at fewer

/-- A range is resolved in an object that it starts in, and in no other one. -/
theorem resolve_eq_ok_iff :
    range.resolve size = .ok span ↔
      range.start < size ∧ span = ⟨range.start, range.lastIn size, size⟩ := by
  rcases Nat.lt_or_ge range.start size with starts | beyond
  · rw [resolve_of_start_lt starts]
    constructor
    · rintro ⟨⟩
      exact ⟨starts, rfl⟩
    · rintro ⟨-, rfl⟩
      rfl
  · rw [resolve_of_size_le beyond]
    constructor
    · nofun
    · rintro ⟨starts, -⟩
      exact absurd starts (Nat.not_lt_of_ge beyond)

theorem resolve_eq_error_iff :
    (∃ fault, range.resolve size = .error fault) ↔ size ≤ range.start := by
  constructor
  · rintro ⟨fault, refused⟩
    refine Nat.le_of_not_lt fun starts => ?_
    rw [resolve_of_start_lt starts] at refused
    cases refused
  · intro beyond
    exact ⟨_, resolve_of_size_le beyond⟩

/-- What a range comes to is an interval within the object. -/
theorem Ordered.within (ordered : range.Ordered) (resolved : range.resolve size = .ok span) :
    span.start ≤ span.stop ∧ span.stop < size ∧ span.total = size := by
  obtain ⟨starts, rfl⟩ := resolve_eq_ok_iff.mp resolved
  exact ⟨ordered.start_le_lastIn starts, lastIn_lt starts, rfl⟩

/-- The interval that a range comes to is made up of the places that it asks for. -/
theorem Icc_eq_places (resolved : range.resolve size = .ok span) :
    Finset.Icc span.start span.stop = range.places size := by
  obtain ⟨starts, rfl⟩ := resolve_eq_ok_iff.mp resolved
  ext place
  rw [Finset.mem_Icc, mem_places]
  show range.start ≤ place ∧ place ≤ range.lastIn size ↔ _
  rw [lastIn]
  cases range.stop with
  | none =>
    simp only [Option.getD_none, reduceCtorEq, false_implies, implies_true, and_true]
    omega
  | some stop =>
    simp only [Option.getD_some, Option.some.injEq, forall_eq']
    omega

/-- A range that does not end before it starts asks for no place just when it starts behind the
object. -/
theorem Ordered.places_eq_empty_iff (ordered : range.Ordered) :
    range.places size = ∅ ↔ size ≤ range.start := by
  rw [Finset.eq_empty_iff_forall_notMem]
  constructor
  · intro nowhere
    refine Nat.le_of_not_lt fun starts => ?_
    exact nowhere range.start (mem_places.mpr ⟨starts, Nat.le_refl _, ordered⟩)
  · intro beyond place asked
    obtain ⟨inside, behind, -⟩ := mem_places.mp asked
    omega

/-- A span of an object resolves to itself. -/
theorem resolve_span (ordered : span.start ≤ span.stop) (inside : span.stop < span.total) :
    resolve ⟨span.start, some span.stop⟩ span.total = .ok span := by
  have starts : span.start < span.total := Nat.lt_of_le_of_lt ordered inside
  have last : lastIn ⟨span.start, some span.stop⟩ span.total = span.stop := by
    rw [lastIn, Option.getD_some]
    omega
  rw [resolve_of_start_lt starts, last]

/-- To resolve a range that a header asks for is to intersect it with the object, and the number of
places that are left can be announced. -/
theorem resolve_intersects {header : String} (parsed : ofHeader header = .ok (some range))
    (addressable : size < 2 ^ 64) :
    ((∃ fault, range.resolve size = .error fault) ↔ range.places size = ∅) ∧
    ∀ span, range.resolve size = .ok span →
      Finset.Icc span.start span.stop = range.places size ∧
      span.start ≤ span.stop ∧ span.stop < size ∧
      span.length = .ok (range.places size).card ∧
      1 ≤ (range.places size).card ∧ (range.places size).card ≤ size ∧
      ∃ again, closed span.start span.stop = .ok again ∧ again.resolve size = .ok span := by
  have ordered : range.Ordered := by
    have read : ofHeader? (some header) = .ok (some range) := parsed
    exact ordered_of_ofHeader? read
  constructor
  · rw [resolve_eq_error_iff, ordered.places_eq_empty_iff]
  · intro span resolved
    obtain ⟨reached, inside, rfl⟩ := ordered.within resolved
    have counted : (range.places span.total).card = span.stop - span.start + 1 := by
      rw [← Icc_eq_places resolved, Nat.card_Icc]
      omega
    have length := Span.length_of_le reached inside (by rw [max64]; omega)
    refine ⟨Icc_eq_places resolved, reached, inside, ?_, ?_, card_places_le range _, ?_⟩
    · rw [length, counted]
    · rw [counted]
      omega
    · exact ⟨_, if_neg (Nat.not_lt_of_le reached), resolve_span reached inside⟩

/-- The largest size that can be told, all of which is asked for and more. -/
theorem resolve_intersects_largest :
    ofHeader "bytes=0-18446744073709551615" = .ok (some ⟨0, some (2 ^ 64 - 1)⟩) ∧
    resolve ⟨0, some (2 ^ 64 - 1)⟩ (2 ^ 64 - 1) = .ok ⟨0, 2 ^ 64 - 2, 2 ^ 64 - 1⟩ ∧
    Finset.Icc 0 (2 ^ 64 - 2) = places ⟨0, some (2 ^ 64 - 1)⟩ (2 ^ 64 - 1) ∧
    Span.length ⟨0, 2 ^ 64 - 2, 2 ^ 64 - 1⟩ =
      .ok (places ⟨0, some (2 ^ 64 - 1)⟩ (2 ^ 64 - 1)).card := by
  have parsed : ofHeader "bytes=0-18446744073709551615" = .ok (some ⟨0, some (2 ^ 64 - 1)⟩) := rfl
  have resolved : resolve ⟨0, some (2 ^ 64 - 1)⟩ (2 ^ 64 - 1) =
      .ok ⟨0, 2 ^ 64 - 2, 2 ^ 64 - 1⟩ := rfl
  obtain ⟨same, -, -, length, -⟩ := (resolve_intersects parsed (by decide)).2 _ resolved
  exact ⟨parsed, resolved, same, length⟩

end Backbeat.ByteRange
