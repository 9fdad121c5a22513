import Backbeat.Proofs.Media.Pipe
import Backbeat.Rehearsal.Sink

/-!
# What a copy does to its sink

Whatever the sink makes of its calls, what it has taken is a beginning of the bytes that the source
can be read for, and all of them if none of its calls fails.  It is flushed at the end, unless a
write has failed before.  The main statement is that the result of a copy tells exactly which of
its sides has failed, and that the sink's fault comes first.
-/

namespace Backbeat

open Rehearsal (SinkCall ListedSink)

/-- The bytes that a sink has taken at some calls. -/
def takenBy (calls : List SinkCall) : ByteArray :=
  joined (calls.map SinkCall.taken)

/-- The fault of the first call that has one. -/
def firstFault (calls : List SinkCall) : Option StreamFault :=
  calls.findSome? SinkCall.fault?

@[simp]
theorem takenBy_append (first second : List SinkCall) :
    takenBy (first ++ second) = takenBy first ++ takenBy second := by
  rw [takenBy, List.map_append, joined_append]
  rfl

@[simp]
theorem firstFault_append (first second : List SinkCall) :
    firstFault (first ++ second) = (firstFault first).or (firstFault second) := by
  rw [firstFault, List.findSome?_append]
  rfl

/-- One byte string begins another one. -/
def Begins (part whole : ByteArray) : Prop :=
  ∃ rest, part ++ rest = whole

theorem Begins.refl (bytes : ByteArray) : Begins bytes bytes :=
  ⟨ByteArray.empty, ByteArray.append_empty⟩

theorem Begins.append_left {part whole : ByteArray} (begins : Begins part whole)
    (before : ByteArray) : Begins (before ++ part) (before ++ whole) := by
  obtain ⟨rest, rfl⟩ := begins
  exact ⟨rest, ByteArray.append_assoc⟩

theorem Begins.append_right {part whole : ByteArray} (begins : Begins part whole)
    (after : ByteArray) : Begins part (whole ++ after) := by
  obtain ⟨rest, rfl⟩ := begins
  exact ⟨rest ++ after, ByteArray.append_assoc.symm⟩

/-! ## Writing a chunk -/

/-- The calls that are made to write some bytes, and how that ends. -/
structure Wrote (bytes : ByteArray) (calls : List SinkCall) (result : Except StreamFault Unit) :
    Prop where
  isWrite : ∀ call ∈ calls, call.IsWrite
  offered_le : ∀ call ∈ calls, call.offered.size ≤ bytes.size
  begins : Begins (takenBy calls) bytes
  whole : result = .ok () → firstFault calls = none ∧ takenBy calls = bytes
  failed : ∀ fault, result = .error fault → firstFault calls = some fault

namespace Wrote

theorem nil : Wrote ByteArray.empty [] (.ok ()) where
  isWrite := nofun
  offered_le := nofun
  begins := .refl _
  whole _ := ⟨rfl, rfl⟩
  failed := nofun

/-- A call that takes some bytes, and the calls that write the others. -/
theorem cons {offered rest : ByteArray} {count : Nat} {calls : List SinkCall}
    {result : Except StreamFault Unit} (wrote : Wrote rest calls result)
    (split : offered.extract 0 (count + 1) ++ rest = offered) :
    Wrote offered (.write offered (.ok (count + 1)) :: calls) result where
  isWrite := by
    rintro call (_ | ⟨_, later⟩)
    · trivial
    · exact wrote.isWrite call later
  offered_le := by
    have shorter : rest.size ≤ offered.size := by
      rw [← split, ByteArray.size_append]
      exact Nat.le_add_left _ _
    rintro call (_ | ⟨_, later⟩)
    · exact Nat.le_refl _
    · exact Nat.le_trans (wrote.offered_le call later) shorter
  begins := by
    have both := wrote.begins.append_left (offered.extract 0 (count + 1))
    rw [split] at both
    exact both
  whole := by
    intro done
    obtain ⟨faultless, taken⟩ := wrote.whole done
    refine ⟨faultless, ?_⟩
    show offered.extract 0 (count + 1) ++ takenBy calls = offered
    rw [taken, split]
  failed := wrote.failed

/-- A call that fails is the last one. -/
theorem single {offered : ByteArray} {taken : Except StreamFault Nat} {fault : StreamFault}
    (nothing : (SinkCall.write offered taken).taken = ByteArray.empty)
    (failed : (SinkCall.write offered taken).fault? = some fault) :
    Wrote offered [.write offered taken] (.error fault) where
  isWrite := by
    rintro call (_ | ⟨_, later⟩)
    · trivial
    · cases later
  offered_le := by
    rintro call (_ | ⟨_, later⟩)
    · exact Nat.le_refl _
    · cases later
  begins := by
    refine ⟨offered, ?_⟩
    show (SinkCall.write offered taken).taken ++ ByteArray.empty ++ offered = offered
    rw [nothing, ByteArray.append_assoc, ByteArray.empty_append, ByteArray.empty_append]
  whole := nofun
  failed := by
    rintro _ ⟨⟩
    rw [firstFault, List.findSome?_cons, failed]

end Wrote

variable {σ : Type} [Sink σ]

/-- To list the calls changes nothing about them. -/
theorem writeFrom_listed (sink : σ) (calls : List SinkCall) (bytes : ByteArray) {place : Nat}
    (inside : place ≤ bytes.size) :
    ∃ made, writeFrom (⟨sink, calls⟩ : ListedSink σ) bytes place =
        ((writeFrom sink bytes place).1, ⟨(writeFrom sink bytes place).2, calls ++ made⟩) ∧
      Wrote (bytes.extract place bytes.size) made (writeFrom sink bytes place).1 := by
  -- What is left to offer decreases with every call that takes something.
  induction left : bytes.size - place using Nat.strongRecOn generalizing sink calls place with
  | ind left ih =>
    rw [writeFrom, writeFrom]
    split
    · next done =>
      refine ⟨[], by rw [List.append_nil], ?_⟩
      have none_left : bytes.extract place bytes.size = ByteArray.empty := by
        rw [ByteArray.extract_eq_empty_iff]
        omega
      rw [none_left]
      exact .nil
    · next more =>
      rcases wrote : Sink.write sink bytes place with ⟨_ | count, after⟩
      · rw [ListedSink.write_eq wrote]
        exact ⟨_, rfl, .single rfl rfl⟩
      · rw [ListedSink.write_eq wrote]
        have room := Sink.write_le wrote
        cases count with
        | zero => exact ⟨_, rfl, .single (by simp [SinkCall.taken]) rfl⟩
        | succ count =>
          obtain ⟨made, listed, written⟩ := ih (bytes.size - (place + (count + 1))) (by omega) after
            (calls ++ [.write (bytes.extract place bytes.size) (.ok (count + 1))])
            (by omega) rfl
          have split : (bytes.extract place bytes.size).extract 0 (count + 1) ++
              bytes.extract (place + (count + 1)) bytes.size = bytes.extract place bytes.size := by
            rw [ByteArray.extract_extract, Nat.add_zero, Nat.min_eq_left (by omega)]
            exact (ByteArray.extract_eq_extract_append_extract _ (by omega) (by omega)).symm
          rw [List.append_assoc] at listed
          exact ⟨_, listed, written.cons split⟩

/-! ## Delivering chunks -/

/-- The calls are writes and, if none of them has failed, one flush at the end. -/
def FlushedOnce (calls : List SinkCall) : Prop :=
  ∃ writes : List SinkCall, (∀ call ∈ writes, call.IsWrite) ∧
    ((firstFault writes ≠ none ∧ calls = writes) ∨
      (firstFault writes = none ∧ ∃ result, calls = writes ++ [.flush result]))

/-- The calls that are made to deliver some bytes in chunks, and how that ends. -/
structure Delivered (size written : Nat) (bytes : ByteArray) (calls : List SinkCall)
    (result : Except (StreamFault × Nat) Nat) : Prop where
  offered_le : ∀ call ∈ calls, call.offered.size ≤ size
  begins : Begins (takenBy calls) bytes
  whole : ∀ count, result = .ok count →
    firstFault calls = none ∧ takenBy calls = bytes ∧ count = written + bytes.size
  failed : ∀ fault copied, result = .error (fault, copied) → firstFault calls = some fault
  flushed : FlushedOnce calls

namespace Delivered

/-- The flush makes the end. -/
theorem flush_ok (size written : Nat) :
    Delivered size written ByteArray.empty [.flush (.ok ())] (.ok written) where
  offered_le := by
    rintro call (_ | ⟨_, later⟩)
    · exact Nat.zero_le _
    · cases later
  begins := .refl _
  whole := by
    rintro _ ⟨⟩
    exact ⟨rfl, rfl, rfl⟩
  failed := nofun
  flushed := ⟨[], nofun, .inr ⟨rfl, _, rfl⟩⟩

theorem flush_error (size written : Nat) (fault : StreamFault) :
    Delivered size written ByteArray.empty [.flush (.error fault)] (.error (fault, written)) where
  offered_le := by
    rintro call (_ | ⟨_, later⟩)
    · exact Nat.zero_le _
    · cases later
  begins := .refl _
  whole := nofun
  failed := by
    rintro _ _ ⟨⟩
    rfl
  flushed := ⟨[], nofun, .inr ⟨rfl, _, rfl⟩⟩

/-- After a write has failed nothing else is called. -/
theorem stopped {size : Nat} {chunk : ByteArray} {calls : List SinkCall} {fault : StreamFault}
    (wrote : Wrote chunk calls (.error fault)) (fits : chunk.size ≤ size) (written : Nat)
    (rest : ByteArray) :
    Delivered size written (chunk ++ rest) calls (.error (fault, written)) where
  offered_le call member := Nat.le_trans (wrote.offered_le call member) fits
  begins := wrote.begins.append_right rest
  whole := nofun
  failed := by
    rintro _ _ ⟨⟩
    exact wrote.failed fault rfl
  flushed := by
    refine ⟨calls, wrote.isWrite, .inl ⟨?_, rfl⟩⟩
    rw [wrote.failed fault rfl]
    nofun

/-- A chunk that is written whole comes before the others. -/
theorem append {size written : Nat} {chunk rest : ByteArray} {first later : List SinkCall}
    {result : Except (StreamFault × Nat) Nat} (wrote : Wrote chunk first (.ok ()))
    (fits : chunk.size ≤ size)
    (delivered : Delivered size (written + chunk.size) rest later result) :
    Delivered size written (chunk ++ rest) (first ++ later) result := by
  obtain ⟨faultless, taken⟩ := wrote.whole rfl
  have fault_eq : firstFault (first ++ later) = firstFault later := by
    rw [firstFault_append, faultless, Option.none_or]
  constructor
  · intro call member
    rcases List.mem_append.mp member with here | there
    · exact Nat.le_trans (wrote.offered_le call here) fits
    · exact delivered.offered_le call there
  · rw [takenBy_append, taken]
    exact delivered.begins.append_left chunk
  · intro count done
    obtain ⟨none_failed, all, counted⟩ := delivered.whole count done
    refine ⟨fault_eq.trans none_failed, ?_, ?_⟩
    · rw [takenBy_append, taken, all]
    · rw [counted, ByteArray.size_append, Nat.add_assoc]
  · intro fault copied broken
    exact fault_eq.trans (delivered.failed fault copied broken)
  · obtain ⟨writes, are_writes, ending⟩ := delivered.flushed
    have same : firstFault (first ++ writes) = firstFault writes := by
      rw [firstFault_append, faultless, Option.none_or]
    refine ⟨first ++ writes, ?_, ?_⟩
    · intro call member
      rcases List.mem_append.mp member with here | there
      · exact wrote.isWrite call here
      · exact are_writes call there
    · rw [same]
      rcases ending with ⟨broken, rfl⟩ | ⟨unbroken, flushed, rfl⟩
      · exact .inl ⟨broken, rfl⟩
      · exact .inr ⟨unbroken, flushed, (List.append_assoc ..).symm⟩

end Delivered

theorem deliver_listed (sink : σ) (calls : List SinkCall) (written : Nat) {size : Nat}
    {chunks : List ByteArray} (fits : ∀ chunk ∈ chunks, chunk.size ≤ size) :
    ∃ made, deliver (⟨sink, calls⟩ : ListedSink σ) written chunks =
        ((deliver sink written chunks).1, ⟨(deliver sink written chunks).2, calls ++ made⟩) ∧
      Delivered size written (joined chunks) made (deliver sink written chunks).1 := by
  induction chunks generalizing sink calls written with
  | nil =>
    rw [deliver, deliver]
    rcases flushed : Sink.flush sink with ⟨⟨⟩ | ⟨⟩, after⟩
    · rw [ListedSink.flush_eq flushed]
      exact ⟨_, rfl, .flush_error size written _⟩
    · rw [ListedSink.flush_eq flushed]
      exact ⟨_, rfl, .flush_ok size written⟩
  | cons chunk rest ih =>
    have fit := fits chunk List.mem_cons_self
    obtain ⟨first, listed, wrote⟩ := writeFrom_listed sink calls chunk (Nat.zero_le _)
    rw [ByteArray.extract_zero_size] at wrote
    rw [deliver, deliver, writeAll, writeAll, listed]
    rcases written_eq : writeFrom sink chunk 0 with ⟨⟨⟩ | ⟨⟩, after⟩
    · rw [written_eq] at wrote
      exact ⟨_, rfl, .stopped wrote fit written (joined rest)⟩
    · rw [written_eq] at wrote
      obtain ⟨later, listed_rest, delivered⟩ := ih after (calls ++ first) (written + chunk.size)
        fun other member => fits other (List.mem_cons_of_mem chunk member)
      rw [List.append_assoc] at listed_rest
      exact ⟨_, listed_rest, .append wrote fit delivered⟩

/-! ## Copying -/

theorem size_le_of_mem_reads {size : Nat} {source : ByteStream} {chunk : ByteArray}
    (member : chunk ∈ (source.reads size).chunks) : chunk.size ≤ size := by
  induction source with
  | nil => cases member
  | cons piece rest ih =>
    cases piece with
    | fault fault => cases member
    | data bytes =>
      rw [ByteStream.reads] at member
      split at member
      · cases member
      · rcases List.mem_append.mp member with here | there
        · obtain ⟨index, -, rfl⟩ := List.mem_map.mp here
          rw [ByteArray.size_extract]
          omega
        · exact ih there

theorem fault_reads (size : Nat) (source : ByteStream) :
    (source.reads size).fault = source.readFault := by
  induction source with
  | nil => rfl
  | cons piece rest ih =>
    cases piece with
    | fault fault => rfl
    | data bytes =>
      rw [ByteStream.reads, ByteStream.readFault]
      split
      · rfl
      · exact ih

/-- The result of a copy tells what has become of the source and of the calls to the sink. -/
structure Faithful (size : Nat) (source : ByteStream) (calls : List SinkCall)
    (result : Except CopyError Nat) : Prop where
  begins : Begins (takenBy calls) source.readable
  offered_le : ∀ call ∈ calls, call.offered.size ≤ size
  ok_iff : (∃ count, result = .ok count) ↔ source.readFault = none ∧ firstFault calls = none
  ok_whole : ∀ count, result = .ok count →
    takenBy calls = source.readable ∧ count = source.readable.size
  read_iff : ∀ fault, (∃ copied, result = .error (.read fault copied)) ↔
    source.readFault = some fault ∧ firstFault calls = none
  read_whole : ∀ fault copied, result = .error (.read fault copied) →
    takenBy calls = source.readable ∧ copied = source.readable.size
  write_iff : ∀ fault, (∃ copied, result = .error (.write fault copied)) ↔
    firstFault calls = some fault
  flushed : FlushedOnce calls

theorem Delivered.faithful {size : Nat} {source : ByteStream} {calls : List SinkCall}
    {result : Except (StreamFault × Nat) Nat}
    (delivered : Delivered size 0 source.readable calls result) :
    Faithful size source calls (copyResult source.readFault result) := by
  cases result with
  | error failure =>
    obtain ⟨fault, copied⟩ := failure
    have fault_eq := delivered.failed fault copied rfl
    have result_eq : copyResult source.readFault (.error (fault, copied)) =
        .error (.write fault copied) := by
      cases source.readFault <;> rfl
    rw [result_eq]
    constructor
    case begins => exact delivered.begins
    case offered_le => exact delivered.offered_le
    case flushed => exact delivered.flushed
    case ok_iff => simp [fault_eq]
    case read_iff => simp [fault_eq]
    case write_iff => simp [fault_eq]
    case ok_whole => nofun
    case read_whole => nofun
  | ok count =>
    obtain ⟨faultless, taken, counted⟩ := delivered.whole count rfl
    rw [Nat.zero_add] at counted
    cases broken : source.readFault with
    | none =>
      constructor
      case begins => exact delivered.begins
      case offered_le => exact delivered.offered_le
      case flushed => exact delivered.flushed
      case ok_iff => simp [copyResult, broken, faultless]
      case read_iff => simp [copyResult, broken]
      case write_iff => simp [copyResult, faultless]
      case ok_whole =>
        rintro _ ⟨⟩
        exact ⟨taken, counted⟩
      case read_whole => nofun
    | some fault =>
      constructor
      case begins => exact delivered.begins
      case offered_le => exact delivered.offered_le
      case flushed => exact delivered.flushed
      case ok_iff => simp [copyResult, broken]
      case read_iff => simp [copyResult, broken, faultless]
      case write_iff => simp [copyResult, faultless]
      case ok_whole => nofun
      case read_whole =>
        rintro _ _ ⟨⟩
        exact ⟨taken, counted⟩

/-- Whatever the source and the sink do, given room for its chunks a copy is faithful. -/
theorem faithful_copy (requested : Nat) (source : ByteStream) (sink : σ) :
    ∃ calls, copy requested source (⟨sink, []⟩ : ListedSink σ) =
        ((copy requested source sink).1, ⟨(copy requested source sink).2, calls⟩) ∧
      Faithful (effectiveChunkSize requested) source calls (copy requested source sink).1 := by
  have fits : ∀ chunk ∈ (source.reads (effectiveChunkSize requested)).chunks,
      chunk.size ≤ effectiveChunkSize requested := fun _ => size_le_of_mem_reads
  obtain ⟨calls, listed, delivered⟩ := deliver_listed sink [] 0 fits
  rw [joined_reads (effectiveChunkSize_pos requested)] at delivered
  refine ⟨calls, ?_, ?_⟩
  · rw [copy, copy, listed]
    rfl
  · rw [copy, fault_reads]
    exact delivered.faithful

/-- A copy with room for its chunks ends and is faithful, whatever the source and the sink do, as
long as the bytes of the source can be counted.  There is no room for larger chunks, and asking for
them is a trap. -/
theorem copy_faithful (requested : Nat) (source : ByteStream) (sink : σ) :
    (effectiveChunkSize requested ≤ Text.maxSigned64 → source.readable.size ≤ Text.max64 →
      ∃ result after calls,
        runCopy requested source sink = .ok (result, after) ∧
        runCopy requested source (⟨sink, []⟩ : ListedSink σ) = .ok (result, ⟨after, calls⟩) ∧
        Faithful (effectiveChunkSize requested) source calls result) ∧
    (Text.maxSigned64 < effectiveChunkSize requested →
      runCopy requested source sink = .error .capacityOverflow) := by
  refine ⟨?_, fun beyond => runCopy_of_lt beyond source sink⟩
  intro fits few
  obtain ⟨calls, listed, faithful⟩ := faithful_copy requested source sink
  have ran := runCopy_of_le fits few (⟨sink, []⟩ : ListedSink σ)
  rw [listed] at ran
  exact ⟨_, _, calls, runCopy_of_le fits few sink, ran, faithful⟩

/-- The text 12345. -/
def fiveBytes : ByteStream := [.data ⟨#[49, 50, 51, 52, 53]⟩]

/-- In chunks of two bytes, the first chunk and a half of the second one reach a sink that then
hangs up. -/
theorem copy_faithful_fiveBytes :
    ∃ after calls,
      runCopy 2 fiveBytes (⟨{ inAll := some (3, .fault hungUp) }, []⟩ : ListedSink BoundedSink) =
        .ok (.error (.write hungUp 2), ⟨after, calls⟩) ∧
      Faithful 2 fiveBytes calls (.error (.write hungUp 2)) ∧
      runCopy (Text.maxSigned64 + 1) fiveBytes after = .error .capacityOverflow := by
  have told : ∃ after, runCopy 2 fiveBytes ({ inAll := some (3, .fault hungUp) } : BoundedSink) =
      .ok (.error (.write hungUp 2), after) :=
    ⟨{ inAll := some (3, .fault hungUp), taken := ⟨#[49, 50, 51]⟩, sizes := [1, 2] },
      by with_unfolding_all rfl⟩
  obtain ⟨within, -⟩ :=
    copy_faithful 2 fiveBytes ({ inAll := some (3, .fault hungUp) } : BoundedSink)
  obtain ⟨_, after, calls, ran, listed, faithful⟩ := within (by decide) (by decide)
  obtain ⟨_, ended⟩ := told
  cases ended.symm.trans ran
  exact ⟨_, calls, listed, faithful,
    (copy_faithful (Text.maxSigned64 + 1) fiveBytes _).2 (by decide)⟩

/-- There is no room for chunks of so many bytes, although neither side would fail. -/
theorem copy_traps_beyond_capacity :
    runCopy 0x8000_0000_0000_0000 fiveBytes ({} : BoundedSink) = .error .capacityOverflow ∧
    fiveBytes.readFault = none :=
  ⟨rfl, rfl⟩

end Backbeat
