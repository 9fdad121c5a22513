import Backbeat.Media.Range.Header
import Backbeat.Media.Service.Steps
import Backbeat.Media.Store.Memory
import Backbeat.Proofs.Media.Bytes
import Backbeat.Rehearsal.Calls

/-!
# Delivering objects

Opening an object takes two calls to the store: its size is asked for, and with the range resolved
against that size its bytes are.  For a store in memory this module works out both calls, so that
what is opened is given by the bytes kept and the range asked for alone.

A range that a header asks for never ends before it starts.  Resolved against an object that it
starts in, it becomes a span whose length is a number of bytes of that object, so that announcing
the length does not overflow.
-/

namespace Backbeat

namespace ByteRange

/-- The range does not end before it starts. -/
def Ordered (range : ByteRange) : Prop :=
  ∀ stop, range.stop = some stop → range.start ≤ stop

/-- The place of the last byte that a range has in an object of `size` bytes. -/
def lastIn (range : ByteRange) (size : Nat) : Nat :=
  min (range.stop.getD (size - 1)) (size - 1)

theorem closed_eq_ok_iff {start stop : Nat} {range : ByteRange} :
    closed start stop = .ok range ↔ start ≤ stop ∧ range = ⟨start, some stop⟩ := by
  unfold closed
  split
  · next reversed =>
    constructor
    · nofun
    · rintro ⟨ordered, -⟩
      exact absurd reversed (Nat.not_lt_of_le ordered)
  · next ordered =>
    constructor
    · rintro ⟨⟩
      exact ⟨Nat.le_of_not_lt ordered, rfl⟩
    · rintro ⟨-, rfl⟩
      rfl

theorem ordered_of_closed {start stop : Nat} {range : ByteRange}
    (parsed : closed start stop = .ok range) : range.Ordered := by
  obtain ⟨ordered, rfl⟩ := closed_eq_ok_iff.mp parsed
  rintro _ ⟨⟩
  exact ordered

theorem ordered_of_ofSpec {header : List Char} {range : ByteRange}
    (parsed : ofSpec header = .ok range) : range.Ordered := by
  rw [ofSpec] at parsed
  split at parsed
  · split at parsed
    · cases parsed
    · split at parsed
      · cases parsed
        intro stop impossible
        cases impossible
      · split at parsed
        · cases parsed
        · exact ordered_of_closed parsed
  · cases parsed

/-- A header asks only for ranges that do not end before they start. -/
theorem ordered_of_ofHeader? {header : Option String} {range : ByteRange}
    (parsed : ofHeader? header = .ok (some range)) : range.Ordered := by
  cases header with
  | none => cases parsed
  | some text =>
    simp only [ofHeader?, ofHeader] at parsed
    split at parsed
    · cases parsed
    · next spec _ =>
      cases read : ofSpec spec with
      | error fault =>
        rw [read] at parsed
        cases parsed
      | ok found =>
        rw [read] at parsed
        cases parsed
        exact ordered_of_ofSpec read

/-- A header asks for nothing exactly when it is missing or blank. -/
theorem ofHeader?_eq_none_iff (header : Option String) :
    ofHeader? header = .ok none ↔ ∀ text, header = some text → Text.trim text.toList = [] := by
  cases header with
  | none => simp [ofHeader?]
  | some text =>
    simp only [ofHeader?, ofHeader, Text.trimmed?, Option.some.injEq, forall_eq']
    cases trimmed : Text.trim text.toList with
    | nil => simp
    | cons character rest => cases read : ofSpec (character :: rest) <;> simp [read, Except.map]

theorem resolve_of_start_lt {range : ByteRange} {size : Nat} (inside : range.start < size) :
    range.resolve size = .ok ⟨range.start, range.lastIn size, size⟩ := by
  rw [resolve, lastIn, if_neg (Nat.not_le_of_lt inside)]
  cases range.stop with
  | none => simp
  | some stop => simp [Nat.min_comm]

theorem resolve_of_size_le {range : ByteRange} {size : Nat} (beyond : size ≤ range.start) :
    range.resolve size = .error (.beyond range.start size) :=
  if_pos beyond

theorem lastIn_lt {range : ByteRange} {size : Nat} (inside : range.start < size) :
    range.lastIn size < size := by
  rw [lastIn]
  omega

theorem Ordered.start_le_lastIn {range : ByteRange} (ordered : range.Ordered) {size : Nat}
    (inside : range.start < size) : range.start ≤ range.lastIn size := by
  rw [lastIn]
  cases last : range.stop with
  | none =>
    rw [Option.getD_none]
    omega
  | some stop =>
    have := ordered stop last
    rw [Option.getD_some]
    omega

end ByteRange

namespace Span

/-- A span of an object has a length, and announcing it does not overflow. -/
theorem length_of_le {span : Span} {size : Nat} (ordered : span.start ≤ span.stop)
    (inside : span.stop < size) (addressable : size ≤ Text.max64) :
    span.length = .ok (span.stop - span.start + 1) := by
  rw [length, if_neg (Nat.not_lt_of_le ordered), if_neg (by omega)]

end Span

namespace MediaService

variable {σ : Type} [ObjectStore σ] {key : String} {head : ObjectHead} {stream : ByteStream}
  {store middle after : σ}

/-- Once its size is known, a whole object is asked for without a span. -/
theorem run_fetch_none
    (fetched : (ObjectStore.getRange key none : Action σ MediaError _).run store =
      .ok (.ok stream, after)) :
    (fetch key none head : Action σ MediaError _).run store =
      .ok (.ok ⟨stream, head.contentType, head.size, none⟩, after) := by
  have unasked : ((none : Option ByteRange).mapM fun range =>
      (range.resolve head.size).mapError MediaError.invalidRange) = .ok none := rfl
  rw [fetch, Action.run_bind_ofExcept_of_ok unasked]
  exact Action.run_bind_of_ok fetched

/-- Once its size is known, a part of an object is asked for by the span that it resolves to. -/
theorem run_fetch_some {range : ByteRange} {span : Span}
    (resolved : range.resolve head.size = .ok span) :
    (fetch key (some range) head : Action σ MediaError _).run store =
      (ObjectStore.getRange key (some span) >>= fun stream => pure
        ⟨stream, head.contentType, head.size, some span⟩ : Action σ MediaError _).run store := by
  have found : ((some range).mapM fun range =>
      (range.resolve head.size).mapError MediaError.invalidRange) = .ok (some span) := by
    rw [Option.mapM_some, resolved]
    rfl
  rw [fetch, Action.run_bind_ofExcept_of_ok found]

theorem run_fetch_beyond {range : ByteRange} {fault : RangeFault}
    (refused : range.resolve head.size = .error fault) :
    (fetch key (some range) head : Action σ MediaError _).run store =
      .ok (.error (.invalidRange fault), store) := by
  have failed : ((some range).mapM fun range =>
      (range.resolve head.size).mapError MediaError.invalidRange) =
        .error (.invalidRange fault) := by
    rw [Option.mapM_some, refused]
    rfl
  rw [fetch]
  exact Action.run_bind_ofExcept_of_error failed

/-- Opening a whole object asks for its size and then for all of it. -/
theorem run_openMedia_none
    (sized : (ObjectStore.stat key : Action σ MediaError _).run store = .ok (.ok head, middle))
    (fetched : (ObjectStore.getRange key none : Action σ MediaError _).run middle =
      .ok (.ok stream, after)) :
    (openMedia key none : Action σ MediaError _).run store =
      .ok (.ok ⟨stream, head.contentType, head.size, none⟩, after) := by
  rw [openMedia_eq, Action.run_bind_of_ok sized]
  exact run_fetch_none fetched

/-- Opening a part of an object asks for its size and then for the span that it resolves to. -/
theorem run_openMedia_some {range : ByteRange} {span : Span}
    (sized : (ObjectStore.stat key : Action σ MediaError _).run store = .ok (.ok head, middle))
    (resolved : range.resolve head.size = .ok span)
    (fetched : (ObjectStore.getRange key (some span) : Action σ MediaError _).run middle =
      .ok (.ok stream, after)) :
    (openMedia key (some range) : Action σ MediaError _).run store =
      .ok (.ok ⟨stream, head.contentType, head.size, some span⟩, after) := by
  rw [openMedia_eq, Action.run_bind_of_ok sized, run_fetch_some resolved]
  exact Action.run_bind_of_ok fetched

/-- A range that starts behind an object is refused once the size is known. -/
theorem run_openMedia_beyond {range : ByteRange} {fault : RangeFault}
    (sized : (ObjectStore.stat key : Action σ MediaError _).run store = .ok (.ok head, middle))
    (refused : range.resolve head.size = .error fault) :
    (openMedia key (some range) : Action σ MediaError _).run store =
      .ok (.error (.invalidRange fault), middle) := by
  rw [openMedia_eq, Action.run_bind_of_ok sized]
  exact run_fetch_beyond refused

end MediaService

namespace MemoryStore

variable {store : MemoryStore} {key : String} {stored : StoredObject}

theorem object_of_object? (present : store.object? key = some stored) :
    store.object key = .ok stored := by
  rw [object, present]

theorem run_stat (present : store.object? key = some stored) :
    (ObjectStore.stat key : Action MemoryStore MediaError _).run store =
      .ok (.ok ⟨stored.data.size, stored.contentType⟩, store) := by
  show Except.ok (store.stat key, store) = _
  rw [stat, object_of_object? present]
  rfl

theorem run_stat_missing (missing : store.object? key = none) :
    (ObjectStore.stat key : Action MemoryStore MediaError _).run store =
      .ok (.error (.notFound key), store) := by
  show Except.ok (store.stat key, store) = _
  rw [stat, object, missing]
  rfl

theorem run_getRange_none (present : store.object? key = some stored) :
    (ObjectStore.getRange key none : Action MemoryStore MediaError _).run store =
      .ok (.ok (streamOf stored.data), store) := by
  show (store.getRange key none).map _ = _
  unfold getRange
  rw [object_of_object? present]
  rfl

theorem cut_of_lt {data : ByteArray} {span : Span} (inside : span.stop < data.size)
    (ordered : span.start ≤ span.stop) :
    cut data span = .ok (.ok (data.extract span.start (span.stop + 1))) := by
  rw [cut, if_neg (Nat.not_le_of_lt inside), if_neg (by omega)]

theorem run_getRange_some (present : store.object? key = some stored) {span : Span}
    (inside : span.stop < stored.data.size) (ordered : span.start ≤ span.stop) :
    (ObjectStore.getRange key (some span) : Action MemoryStore MediaError _).run store =
      .ok (.ok (streamOf (stored.data.extract span.start (span.stop + 1))), store) := by
  show (store.getRange key (some span)).map _ = _
  unfold getRange
  rw [object_of_object? present]
  simp only [cut_of_lt inside ordered]
  rfl

theorem collect_streamOf (data : ByteArray) : (streamOf data).collect = .ok data := by
  rw [streamOf, ByteStream.collect_ofChunks, joined_slices (by decide)]

/-- What is read of a stored byte string is that byte string. -/
theorem yielded_streamOf (data : ByteArray) : (streamOf data).yielded = data := by
  rw [streamOf, ByteStream.yielded_ofChunks]
  exact joined_slices (by decide) data

end MemoryStore

end Backbeat
