import Backbeat.Proofs.Media.Stages

/-!
# How many bytes a failed copy reports

A copy counts the chunks that were written whole.  A call that takes only a part of a chunk is
counted with the calls that take the rest of it, so if one of those fails, its bytes are not
counted although the sink has them.  The main statement is that the bytes reported by a failed copy
are those that its sink has taken exactly when the failing call does not come after such a part,
and that otherwise less than a chunk is missing.
-/

namespace Backbeat

open Rehearsal (SinkCall ListedSink)

/-- The last of some calls has taken only a part of what it was offered. -/
def Halfway (calls : List SinkCall) : Prop :=
  ∃ call ∈ calls.getLast?, call.taken.size < call.offered.size

/-- Before the last of some calls only a part of a chunk was taken. -/
def FailedHalfway (calls : List SinkCall) : Prop :=
  Halfway calls.dropLast

theorem not_halfway_nil : ¬ Halfway [] := nofun

theorem halfway_concat (calls : List SinkCall) (call : SinkCall) :
    Halfway (calls ++ [call]) ↔ call.taken.size < call.offered.size := by
  simp [Halfway]

theorem failedHalfway_concat (calls : List SinkCall) (call : SinkCall) :
    FailedHalfway (calls ++ [call]) ↔ Halfway calls := by
  rw [FailedHalfway, List.dropLast_concat]

theorem size_takenBy_concat (calls : List SinkCall) (call : SinkCall) :
    (takenBy (calls ++ [call])).size = (takenBy calls).size + call.taken.size := by
  have one : takenBy [call] = call.taken := ByteArray.append_empty
  rw [takenBy_append, ByteArray.size_append, one]

/-! ## Writing a chunk -/

/-- A chunk is being written before which `base` bytes were taken, and so far `place` of its own. -/
structure AtPlace (base : Nat) (chunk : ByteArray) (place : Nat) (calls : List SinkCall) :
    Prop where
  inside : place ≤ chunk.size
  taken : (takenBy calls).size = base + place
  halfway : Halfway calls ↔ 0 < place ∧ place < chunk.size

/-- How the writing of a chunk ends before which `base` bytes were taken: after all of it, or at
the place where a call failed. -/
def ChunkEnds (base : Nat) (chunk : ByteArray) (calls : List SinkCall) :
    Except StreamFault Unit → Prop
  | .ok () => ¬ Halfway calls ∧ (takenBy calls).size = base + chunk.size
  | .error _ => ∃ stop < chunk.size,
      (takenBy calls).size = base + stop ∧ (FailedHalfway calls ↔ 0 < stop)

namespace AtPlace

variable {base place : Nat} {chunk : ByteArray} {calls : List SinkCall}

theorem start (whole : ¬ Halfway calls) (chunk : ByteArray) :
    AtPlace (takenBy calls).size chunk 0 calls where
  inside := Nat.zero_le _
  taken := rfl
  halfway := by simp [whole]

/-- A call that takes some of what is left of the chunk. -/
theorem write (now : AtPlace base chunk place calls) {count : Nat}
    (room : count + 1 ≤ chunk.size - place) :
    AtPlace base chunk (place + (count + 1))
      (calls ++ [.write (chunk.extract place chunk.size) (.ok (count + 1))]) := by
  have offered : (chunk.extract place chunk.size).size = chunk.size - place := by
    rw [ByteArray.size_extract, Nat.min_self]
  have taken : ((chunk.extract place chunk.size).extract 0 (count + 1)).size = count + 1 := by
    rw [ByteArray.size_extract, offered]
    omega
  constructor
  case inside => omega
  case taken =>
    rw [size_takenBy_concat, now.taken]
    show base + place + ((chunk.extract place chunk.size).extract 0 (count + 1)).size = _
    rw [taken, Nat.add_assoc]
  case halfway =>
    rw [halfway_concat]
    show ((chunk.extract place chunk.size).extract 0 (count + 1)).size <
      (chunk.extract place chunk.size).size ↔ _
    rw [taken, offered]
    omega

theorem done (now : AtPlace base chunk place calls) (past : chunk.size ≤ place) :
    ChunkEnds base chunk calls (.ok ()) := by
  have whole : place = chunk.size := Nat.le_antisymm now.inside past
  constructor
  · rw [now.halfway]
    omega
  · rw [now.taken, whole]

/-- A call that fails takes nothing, so the chunk ends where it was. -/
theorem failed (now : AtPlace base chunk place calls) (more : place < chunk.size) {call : SinkCall}
    (nothing : call.taken.size = 0) (fault : StreamFault) :
    ChunkEnds base chunk (calls ++ [call]) (.error fault) := by
  refine ⟨place, more, ?_, ?_⟩
  · rw [size_takenBy_concat, nothing, now.taken, Nat.add_zero]
  · rw [failedHalfway_concat, now.halfway]
    exact and_iff_left more

end AtPlace

variable {ρ σ : Type} [Sink σ] {size written : Nat}

theorem calls_of_write {sink after : ListedSink σ} {bytes : ByteArray} {place : Nat}
    {result : Except StreamFault Nat} (wrote : Sink.write sink bytes place = (result, after)) :
    after.calls = sink.calls ++ [.write (bytes.extract place bytes.size) result] := by
  rcases kept : Sink.write sink.kept bytes place with ⟨_, _⟩
  rw [ListedSink.write_eq kept] at wrote
  cases wrote
  rfl

theorem calls_of_flush {sink after : ListedSink σ} {result : Except StreamFault Unit}
    (flushed : Sink.flush sink = (result, after)) :
    after.calls = sink.calls ++ [.flush result] := by
  rcases kept : Sink.flush sink.kept with ⟨_, _⟩
  rw [ListedSink.flush_eq kept] at flushed
  cases flushed
  rfl

theorem chunkEnds_of_writeFrom (sink : ListedSink σ) {base : Nat} (chunk : ByteArray) (place : Nat)
    (now : AtPlace base chunk place sink.calls) :
    ChunkEnds base chunk (writeFrom sink chunk place).2.calls (writeFrom sink chunk place).1 := by
  fun_induction writeFrom sink chunk place with
  | case1 sink place past => exact now.done past
  | case2 sink place inside fault after wrote =>
    rw [calls_of_write wrote]
    exact now.failed (Nat.lt_of_not_le inside) rfl fault
  | case3 sink place inside after wrote =>
    rw [calls_of_write wrote]
    refine now.failed (Nat.lt_of_not_le inside) ?_ _
    simp [SinkCall.taken]
  | case4 sink place inside count after wrote later =>
    refine later ?_
    rw [calls_of_write wrote]
    exact now.write (Sink.write_le wrote)

/-! ## Failed copies -/

/-- What a failed copy tells about the calls to its sink. -/
structure Counted (size : Nat) (error : CopyError) (calls : List SinkCall) : Prop where
  copied_le : error.copied ≤ (takenBy calls).size
  taken_lt : (takenBy calls).size < error.copied + size
  exact_iff : error.copied = (takenBy calls).size ↔ ¬ FailedHalfway calls
  read_exact : ∀ fault copied, error = .read fault copied → copied = (takenBy calls).size

/-- After whole chunks the count is right, whatever the flush comes to. -/
theorem counted_of_finish (positive : 0 < size) {sink after : ListedSink σ}
    (whole : ¬ Halfway sink.calls) {fault : Option StreamFault} {error : CopyError}
    (ended : finish fault sink (takenBy sink.calls).size = (.error error, after)) :
    Counted size error after.calls := by
  -- The flush is the last call, so the call before it is the last one of a whole chunk.
  have ends : ∀ {result : Except StreamFault Unit}, after.calls = sink.calls ++ [.flush result] →
      error.copied = (takenBy sink.calls).size → Counted size error after.calls := by
    intro result calls copied
    have taken : (takenBy after.calls).size = error.copied := by
      rw [calls, size_takenBy_concat, copied]
      rfl
    constructor
    case copied_le => exact Nat.le_of_eq taken.symm
    case taken_lt => omega
    case exact_iff =>
      rw [calls, failedHalfway_concat, ← calls]
      exact iff_of_true taken.symm whole
    case read_exact =>
      rintro fault copied rfl
      exact taken.symm
  rcases flushed : Sink.flush sink with ⟨broken | _, later⟩
  · rw [finish_of_flushFault flushed] at ended
    cases ended
    exact ends (calls_of_flush flushed) rfl
  · rw [finish_of_flush flushed] at ended
    cases fault with
    | none => cases ended
    | some fault =>
      cases ended
      exact ends (calls_of_flush flushed) rfl

variable [Source ρ]

/-- Whatever chunks are read, the loop counts those that are written whole. -/
theorem CopyLoop.counted (positive : 0 < size) {source : ρ} {sink : ListedSink σ}
    {outcome : Except CopyError Nat × ListedSink σ}
    (loop : CopyLoop size source sink written outcome)
    (whole : ¬ Halfway sink.calls) (counts : written = (takenBy sink.calls).size)
    {error : CopyError} (failed : outcome.1 = .error error) :
    Counted size error outcome.2.calls := by
  induction loop with
  | readEnd got no_bytes =>
    subst counts
    exact counted_of_finish positive whole (Prod.ext failed rfl)
  | readFault got =>
    subst counts
    exact counted_of_finish positive whole (Prod.ext failed rfl)
  | @copied _ _ sink after _ chunk _ got some_bytes wrote later ih =>
    have ends := chunkEnds_of_writeFrom sink chunk 0 (.start whole chunk)
    rw [← writeAll, wrote] at ends
    obtain ⟨still_whole, taken⟩ := ends
    exact ih still_whole (counts ▸ taken.symm) failed
  | @writeFault _ _ sink after _ chunk fault got some_bytes wrote =>
    -- What is missing is the part of the chunk up to where the write has stopped.
    have ends := chunkEnds_of_writeFrom sink chunk 0 (.start whole chunk)
    rw [← writeAll, wrote, ← counts] at ends
    obtain ⟨stop, inside, taken, halfway⟩ := ends
    have fits := Source.read_le got
    cases failed
    constructor
    case copied_le => exact taken ▸ Nat.le_add_right _ _
    case taken_lt => exact taken ▸ Nat.add_lt_add_left (Nat.lt_of_lt_of_le inside fits) _
    case exact_iff =>
      rw [halfway, taken, CopyError.copied, Nat.left_eq_add, Nat.not_lt, Nat.le_zero]
    case read_exact => rintro _ _ ⟨⟩

/-- A copy in two stages that has ended is one that the loop comes to. -/
theorem TwoStage.loop_of_result {source : ρ} {sink : σ} {run : TwoStage ρ σ}
    {result : Except CopyError Nat} (reached : TwoStage.Reaches size { source, sink } run)
    (ended : run.result? = some result) : CopyLoop size source sink 0 (result, run.sink) := by
  obtain ⟨-, -, due⟩ := TwoStage.due_of_reaches reached
  exact (due _).mpr ((TwoStage.due_iff_of_result ended).mpr rfl)

/-- Whatever the source and the sink do, and whichever stage has its turn when: a failed copy
reports no more bytes than its sink has taken and less than a chunk too few, and it reports all of
them exactly when the failing call does not come after a part of its chunk. -/
theorem failed_copy_counted (requested : Nat) (sink : σ) :
    (∀ (stream : ByteStream) (error : CopyError) (after : ListedSink σ),
      copy requested stream ⟨sink, []⟩ = (.error error, after) →
        Counted (effectiveChunkSize requested) error after.calls) ∧
    (∀ (source : ρ) (run : TwoStage ρ (ListedSink σ)) (error : CopyError),
      TwoStage.Reaches (effectiveChunkSize requested) { source, sink := ⟨sink, []⟩ } run →
      run.result? = some (.error error) →
        Counted (effectiveChunkSize requested) error run.sink.calls) := by
  have positive := effectiveChunkSize_pos requested
  constructor
  · intro stream error after failed
    have loop := (copyLoop_stream positive stream (⟨sink, []⟩ : ListedSink σ) 0 _).mpr failed.symm
    exact loop.counted positive not_halfway_nil rfl rfl
  · intro source run error reached failed
    exact (TwoStage.loop_of_result reached failed).counted positive not_halfway_nil rfl rfl

/-- A sink that hangs up when it has taken three bytes. -/
def threeByteSink : ListedSink BoundedSink where
  kept := { inAll := some (3, .fault hungUp) }

/-- In chunks of eight bytes, the first call takes three of the five and the second one fails. -/
theorem reaches_cut :
    ∃ run : TwoStage ByteStream (ListedSink BoundedSink),
      TwoStage.Reaches 8 { source := fiveBytes, sink := threeByteSink } run ∧
      run.result? = some (.error (.write hungUp 0)) ∧
      copy 8 fiveBytes threeByteSink = (.error (.write hungUp 0), run.sink) ∧
      (takenBy run.sink.calls).size = 3 := by
  have received : TwoStage.Reaches 8 { source := fiveBytes, sink := threeByteSink }
      { source := [], sink := threeByteSink, chunksRead := 1
        consumer := .writing ⟨#[49, 50, 51, 52, 53]⟩ 0 } :=
    ((TwoStage.Reaches.refl.tail (.read rfl rfl rfl rfl)).tail
      (.handOver rfl rfl (by simp) rfl)).tail (.receive rfl rfl)
  have cut := (received.tail (.write rfl (by decide) rfl)).tail (.writeFault rfl (by decide) rfl)
  have ended := ((cut.tail (.cancel rfl)).tail (.halt (by simp) rfl)).tail (.leave rfl)
  have loop := TwoStage.loop_of_result ended rfl
  have outcome := (copyLoop_stream (by decide) fiveBytes threeByteSink 0 _).mp loop
  exact ⟨_, ended, rfl, outcome.symm, rfl⟩

theorem failed_copy_counted_fiveBytes :
    ∃ run : TwoStage ByteStream (ListedSink BoundedSink),
      copy 8 fiveBytes threeByteSink = (.error (.write hungUp 0), run.sink) ∧
      TwoStage.Reaches 8 { source := fiveBytes, sink := threeByteSink } run ∧
      run.result? = some (.error (.write hungUp 0)) ∧
      Counted 8 (.write hungUp 0) run.sink.calls ∧ FailedHalfway run.sink.calls := by
  obtain ⟨run, reached, failed, copied, taken⟩ := reaches_cut
  obtain ⟨of_copy, of_run⟩ := failed_copy_counted (ρ := ByteStream) 8 threeByteSink.kept
  have counted := of_copy fiveBytes _ run.sink copied
  refine ⟨run, copied, reached, failed, of_run fiveBytes run _ reached failed, ?_⟩
  refine Classical.byContradiction fun whole => ?_
  have none_missing := counted.exact_iff.mpr whole
  rw [taken] at none_missing
  cases none_missing

/-- Three bytes have reached the sink, and the failed copy reports none. -/
theorem failed_copy_undercounts :
    ∃ after : ListedSink BoundedSink,
      copy 8 fiveBytes threeByteSink = (.error (.write hungUp 0), after) ∧
      (takenBy after.calls).size = 3 := by
  obtain ⟨run, -, -, copied, taken⟩ := reaches_cut
  exact ⟨run.sink, copied, taken⟩

end Backbeat
