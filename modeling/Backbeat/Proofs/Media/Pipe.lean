import Backbeat.Media.Pipe
import Backbeat.Proofs.Media.Bytes

/-!
# What comes out of a pipe

The sink of a pipe takes something of every offer, and fails only when it has as many bytes as the
reader keeps.  So a copy into it moves the bytes that the source can be read for, or the first of
them, however little the sink takes at a time.  No more bytes are counted than the source has, so
that a copy with room for its chunks traps only at a source that is too large for any count.  The
main statement is that a pipe then yields what its reader keeps of the bytes of its source, whatever
the chunk size and however the source is cut into pieces.
-/

namespace Backbeat

/-- The chunks that a source is read in make up the bytes that it can be read for. -/
theorem joined_reads {size : Nat} (positive : 0 < size) (source : ByteStream) :
    joined (source.reads size).chunks = source.readable := by
  induction source with
  | nil => rfl
  | cons piece rest ih =>
    cases piece with
    | fault fault => rfl
    | data bytes =>
      rw [ByteStream.reads, ByteStream.readable]
      split
      · rfl
      · rw [joined_append, joined_slices positive, ih]

/-! ## Copying within bounds -/

section Copying

variable {σ : Type} [Sink σ]

/-- No more bytes are counted than the chunks have. -/
theorem copiedBy_deliver_le (fault : Option StreamFault) (sink : σ) (written : Nat)
    (chunks : List ByteArray) :
    copiedBy (copyResult fault (deliver sink written chunks).1) ≤
      written + (joined chunks).size := by
  induction chunks generalizing sink written with
  | nil =>
    rw [deliver]
    rcases Sink.flush sink with ⟨_ | _, after⟩ <;> cases fault <;> exact Nat.le_add_right _ _
  | cons chunk rest ih =>
    rw [deliver, joined_cons, ByteArray.size_append, ← Nat.add_assoc]
    rcases writeAll sink chunk with ⟨_ | _, after⟩
    · cases fault <;> exact Nat.le_add_right_of_le (Nat.le_add_right _ _)
    · exact ih after (written + chunk.size)

theorem copiedBy_copy_le (requested : Nat) (source : ByteStream) (sink : σ) :
    copiedBy (copy requested source sink).1 ≤ source.readable.size := by
  have counted := copiedBy_deliver_le (source.reads (effectiveChunkSize requested)).fault sink 0
    (source.reads (effectiveChunkSize requested)).chunks
  rw [joined_reads (effectiveChunkSize_pos requested), Nat.zero_add] at counted
  exact counted

/-- A copy with room for its chunks and a number for its bytes does not trap. -/
theorem runCopy_of_le {requested : Nat} (fits : effectiveChunkSize requested ≤ Text.maxSigned64)
    {source : ByteStream} (few : source.readable.size ≤ Text.max64) (sink : σ) :
    runCopy requested source sink = .ok (copy requested source sink) := by
  have counted := Nat.le_trans (copiedBy_copy_le requested source sink) few
  rw [runCopy, allocate_of_le fits]
  exact congrArg (fun told : Checked Unit => told.bind fun _ => .ok (copy requested source sink))
    (countBytes_of_le counted)

end Copying

/-! ## Keeping a beginning -/

/-- What is kept of some bytes, which is all of them unless `kept` says how many. -/
def keep (kept : Option Nat) (bytes : ByteArray) : ByteArray :=
  match kept with
  | none => bytes
  | some most => bytes.extract 0 most

/-- The bytes are no more than are kept. -/
def Fits (kept : Option Nat) (bytes : ByteArray) : Prop :=
  ∀ most, kept = some most → bytes.size ≤ most

/-- The bytes are as many as are kept, at least. -/
def Enough (kept : Option Nat) (bytes : ByteArray) : Prop :=
  ∃ most, kept = some most ∧ most ≤ bytes.size

variable {kept : Option Nat} {bytes : ByteArray}

theorem keep_of_fits (fits : Fits kept bytes) : keep kept bytes = bytes := by
  cases kept with
  | none => rfl
  | some most => exact extract_zero_of_size_le (fits most rfl)

theorem keep_append_of_enough (enough : Enough kept bytes) (rest : ByteArray) :
    keep kept (bytes ++ rest) = keep kept bytes := by
  obtain ⟨most, rfl, inside⟩ := enough
  exact extract_append_of_le inside

/-! ## Sinks that take a beginning -/

namespace BoundedSink

theorem roomAtOnce_pos {sink : BoundedSink} (some_at_once : sink.atOnce ≠ some 0) {offered : Nat}
    (positive : 0 < offered) : 0 < sink.roomAtOnce offered := by
  rw [roomAtOnce]
  cases limit : sink.atOnce with
  | none => exact positive
  | some most =>
    have nonzero : most ≠ 0 := by
      intro zero
      exact some_at_once (by rw [limit, zero])
    exact Nat.lt_min.mpr ⟨positive, Nat.pos_of_ne_zero nonzero⟩

/-- What is taken at once comes before what is still to be offered. -/
theorem taken_take_append (sink : BoundedSink) {place count : Nat}
    (inside : place + count ≤ bytes.size) :
    (sink.take bytes place count).taken ++ bytes.extract (place + count) bytes.size =
      sink.taken ++ bytes.extract place bytes.size := by
  rw [take, ByteArray.append_assoc, ← ByteArray.extract_eq_extract_append_extract]
  · omega
  · exact inside

theorem taken_deliver_nil (sink : BoundedSink) (written : Nat) :
    (Backbeat.deliver sink written []).2.taken = sink.taken := by
  simp only [Backbeat.deliver, Sink.flush, flush]
  cases sink.flushFault <;> rfl

/-- A sink that takes something of every offer until it has as many bytes as are kept, and then
fails. -/
structure Keeps (sink : BoundedSink) (kept : Option Nat) : Prop where
  limited : ∃ fault, sink.inAll = kept.map fun most => (most, .fault fault)
  some_at_once : sink.atOnce ≠ some 0
  fits : Fits kept sink.taken

namespace Keeps

variable {sink : BoundedSink}

/-- A write takes a byte at least, and leaves the sink as one of its sort, or it fails as the sink
has enough. -/
theorem write (keeps : sink.Keeps kept) {place : Nat} (inside : place < bytes.size) :
    (∃ more, place + (more + 1) ≤ bytes.size ∧
      Sink.write sink bytes place = (.ok (more + 1), sink.take bytes place (more + 1)) ∧
      (sink.take bytes place (more + 1)).Keeps kept) ∨
    ∃ fault, Sink.write sink bytes place = (.error fault, sink) ∧ Enough kept sink.taken := by
  obtain ⟨fault, limited⟩ := keeps.limited
  have offered := sink.roomAtOnce_le (bytes.size - place)
  have positive := roomAtOnce_pos keeps.some_at_once (Nat.sub_pos_of_lt inside)
  change (∃ more, _ ∧ BoundedSink.write sink bytes place = _ ∧ _) ∨
    ∃ fault, BoundedSink.write sink bytes place = _ ∧ _
  cases kept with
  | none =>
    obtain ⟨more, counted⟩ := Nat.exists_eq_add_one.mpr positive
    refine .inl ⟨more, by omega, ?_, ⟨fault, limited⟩, keeps.some_at_once, nofun⟩
    simp only [BoundedSink.write, limited, Option.map_none, counted]
  | some most =>
    rcases Nat.lt_or_ge sink.taken.size most with room | full
    · obtain ⟨more, counted⟩ := Nat.exists_eq_add_one.mpr
        (Nat.lt_min.mpr ⟨positive, Nat.sub_pos_of_lt room⟩)
      refine .inl ⟨more, by omega, ?_, ⟨fault, limited⟩, keeps.some_at_once, ?_⟩
      · simp only [BoundedSink.write, limited, Option.map_some, if_neg (Nat.not_le.mpr room),
          counted]
      · rintro _ ⟨⟩
        simp only [take, ByteArray.size_append, ByteArray.size_extract]
        omega
    · refine .inr ⟨fault, ?_, most, rfl, full⟩
      simp only [BoundedSink.write, limited, Option.map_some, if_pos full]

/-- Offered bytes from a place on, the sink either takes them all, or it fails and has taken those
that are kept. -/
theorem writeFrom (keeps : sink.Keeps kept) {place : Nat} (inside : place ≤ bytes.size) :
    (∃ after : BoundedSink, Backbeat.writeFrom sink bytes place = (.ok (), after) ∧
      after.Keeps kept ∧ after.taken = sink.taken ++ bytes.extract place bytes.size) ∨
    ∃ fault, ∃ after : BoundedSink, Backbeat.writeFrom sink bytes place = (.error fault, after) ∧
      Enough kept (sink.taken ++ bytes.extract place bytes.size) ∧
      after.taken = keep kept (sink.taken ++ bytes.extract place bytes.size) := by
  -- What is left to offer decreases with every write that takes something.
  induction left : bytes.size - place using Nat.strongRecOn generalizing sink place with
  | ind left ih =>
    rw [Backbeat.writeFrom]
    split
    · next done =>
      have whole : place = bytes.size := Nat.le_antisymm inside done
      exact .inl ⟨sink, rfl, keeps, by simp [whole]⟩
    · next more_left =>
      rcases keeps.write (Nat.lt_of_not_le more_left) with
        ⟨more, fits, wrote, stays⟩ | ⟨fault, refused, enough⟩
      · have rest := ih (bytes.size - (place + (more + 1))) (by omega) stays fits rfl
        rw [sink.taken_take_append fits] at rest
        rw [wrote]
        exact rest
      · obtain ⟨most, same, full⟩ := enough
        rw [refused, keep_append_of_enough ⟨most, same, full⟩, keep_of_fits keeps.fits]
        refine .inr ⟨fault, sink, rfl, ⟨most, same, ?_⟩, rfl⟩
        rw [ByteArray.size_append]
        exact Nat.le_add_right_of_le full

/-- Of chunks that are delivered to it, a sink takes the bytes that are kept. -/
theorem taken_deliver (keeps : sink.Keeps kept) (written : Nat) (chunks : List ByteArray) :
    (Backbeat.deliver sink written chunks).2.taken = keep kept (sink.taken ++ joined chunks) := by
  induction chunks generalizing sink written with
  | nil =>
    rw [joined_nil, ByteArray.append_empty, keep_of_fits keeps.fits]
    exact sink.taken_deliver_nil written
  | cons chunk rest ih =>
    rw [joined_cons, ← ByteArray.append_assoc, Backbeat.deliver, writeAll]
    rcases keeps.writeFrom (Nat.zero_le chunk.size) with
      ⟨after, wrote, stays, taken⟩ | ⟨fault, after, failed, enough, taken⟩
    · rw [ByteArray.extract_zero_size] at taken
      rw [wrote, ← taken]
      exact ih stays (written + chunk.size)
    · rw [ByteArray.extract_zero_size] at enough taken
      rw [failed, keep_append_of_enough enough]
      exact taken

end Keeps

end BoundedSink

theorem pipeSink_keeps (requested : Nat) (kept : Option Nat) :
    (pipeSink requested kept).Keeps kept where
  limited := ⟨hungUp, rfl⟩
  some_at_once := by
    intro none
    exact absurd (Option.some.inj none) (Nat.ne_of_gt (effectiveChunkSize_pos requested))
  fits most _ := Nat.zero_le most

/-- A pipe with room for its chunks yields what its reader keeps of the bytes of its source. -/
theorem openPipe_of_le {requested : Nat} (fits : effectiveChunkSize requested ≤ Text.maxSigned64)
    {source : ByteStream} (few : source.yielded.size ≤ Text.max64) (kept : Option Nat) :
    openPipe requested source kept = .ok (keep kept source.yielded) := by
  rw [← ByteStream.readable_withoutEmpty] at few
  have taken : (copy requested source.withoutEmpty (pipeSink requested kept)).2.taken =
      keep kept source.yielded := by
    rw [copy, (pipeSink_keeps requested kept).taken_deliver,
      joined_reads (effectiveChunkSize_pos requested), ByteStream.readable_withoutEmpty]
    exact congrArg (keep kept) ByteArray.empty_append
  rw [openPipe, allocate_of_le fits, runCopy_of_le fits few, ← taken]
  rfl

end Backbeat
