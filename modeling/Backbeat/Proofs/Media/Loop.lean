import Backbeat.Media.Source
import Backbeat.Proofs.Media.Copying

/-!
# The copy as a loop

A copy reads a chunk and writes it before it reads the next one.  As a loop this makes sense for
every source, also for one that never ends; then the loop may come to no outcome.  The main
statement is that for a stream its only outcome is that of the copy.
-/

namespace Backbeat

variable {ρ σ : Type} [Source ρ] [Sink σ] {size written : Nat} {source after : ρ} {sink : σ}
  {outcome : Except CopyError Nat × σ}

/-- What is left to do when there is nothing more to read. -/
def finish (fault : Option StreamFault) (sink : σ) (written : Nat) : Except CopyError Nat × σ :=
  let (delivered, after) := deliver sink written []
  (copyResult fault delivered, after)

theorem finish_of_flush {after : σ} (flushed : Sink.flush sink = (.ok (), after))
    (fault : Option StreamFault) (written : Nat) :
    finish fault sink written = (copyResult fault (.ok written), after) := by
  rw [finish, deliver, flushed]

theorem finish_of_flushFault {broken : StreamFault} {after : σ}
    (flushed : Sink.flush sink = (.error broken, after)) (fault : Option StreamFault)
    (written : Nat) :
    finish fault sink written = (.error (.write broken written), after) := by
  rw [finish, deliver, flushed]
  cases fault <;> rfl

/-- The loop, from when `written` bytes have been copied, comes to an outcome. -/
inductive CopyLoop (size : Nat) : ρ → σ → Nat → Except CopyError Nat × σ → Prop
  | readEnd {source after : ρ} {sink : σ} {written : Nat} {chunk : ByteArray}
      (got : Source.read source size = (.ok chunk, after)) (no_bytes : chunk.isEmpty = true) :
      CopyLoop size source sink written (finish none sink written)
  | readFault {source after : ρ} {sink : σ} {written : Nat} {fault : StreamFault}
      (got : Source.read source size = (.error fault, after)) :
      CopyLoop size source sink written (finish (some fault) sink written)
  | copied {source rest : ρ} {sink after : σ} {written : Nat} {chunk : ByteArray}
      {outcome : Except CopyError Nat × σ}
      (got : Source.read source size = (.ok chunk, rest)) (some_bytes : chunk.isEmpty = false)
      (wrote : writeAll sink chunk = (.ok (), after))
      (later : CopyLoop size rest after (written + chunk.size) outcome) :
      CopyLoop size source sink written outcome
  | writeFault {source rest : ρ} {sink after : σ} {written : Nat} {chunk : ByteArray}
      {fault : StreamFault} (got : Source.read source size = (.ok chunk, rest))
      (some_bytes : chunk.isEmpty = false) (wrote : writeAll sink chunk = (.error fault, after)) :
      CopyLoop size source sink written (.error (.write fault written), after)

/-- Chunks are written one after the other, and if none of them fails it goes on from there. -/
def WriteThen (go : σ → Nat → Except CopyError Nat × σ → Prop) :
    List ByteArray → σ → Nat → Except CopyError Nat × σ → Prop
  | [], sink, written, outcome => go sink written outcome
  | chunk :: rest, sink, written, outcome =>
    match writeAll sink chunk with
    | (.ok (), after) => WriteThen go rest after (written + chunk.size) outcome
    | (.error fault, after) => outcome = (.error (.write fault written), after)

theorem writeThen_append (go : σ → Nat → Except CopyError Nat × σ → Prop)
    (first second : List ByteArray) :
    WriteThen go (first ++ second) = WriteThen (WriteThen go second) first := by
  funext sink written outcome
  induction first generalizing sink written with
  | nil => rfl
  | cons chunk rest ih =>
    rw [List.cons_append, WriteThen, WriteThen]
    split
    · exact ih _ _
    · rfl

/-- One turn of the loop: what is read decides how it goes on. -/
theorem copyLoop_iff :
    CopyLoop size source sink written outcome ↔
      match Source.read source size with
      | (.error fault, _) => outcome = finish (some fault) sink written
      | (.ok chunk, after) =>
        if chunk.isEmpty then outcome = finish none sink written
        else WriteThen (CopyLoop size after) [chunk] sink written outcome := by
  constructor
  · intro loop
    cases loop with
    | readEnd got no_bytes => rw [got]; exact (if_pos no_bytes).mpr rfl
    | readFault got => rw [got]
    | copied got some_bytes wrote later => simpa [got, some_bytes, WriteThen, wrote] using later
    | writeFault got some_bytes wrote => simp [got, some_bytes, WriteThen, wrote]
  · split
    · next got =>
      rintro rfl
      exact .readFault got
    · next got =>
      split
      · next no_bytes =>
        rintro rfl
        exact .readEnd got no_bytes
      · next some_bytes =>
        rw [Bool.not_eq_true] at some_bytes
        rw [WriteThen]
        split
        · next wrote =>
          intro later
          exact .copied got some_bytes wrote later
        · next wrote =>
          rintro rfl
          exact .writeFault got some_bytes wrote

theorem copyLoop_readEnd {chunk : ByteArray} (got : Source.read source size = (.ok chunk, after))
    (no_bytes : chunk.isEmpty = true) :
    CopyLoop size source =
      fun (sink : σ) written outcome => outcome = finish none sink written := by
  funext sink written outcome
  rw [copyLoop_iff, got]
  simp only [no_bytes, if_true]

theorem copyLoop_readFault {fault : StreamFault}
    (got : Source.read source size = (.error fault, after)) :
    CopyLoop size source =
      fun (sink : σ) written outcome => outcome = finish (some fault) sink written := by
  funext sink written outcome
  rw [copyLoop_iff, got]

theorem copyLoop_read {chunk : ByteArray} (got : Source.read source size = (.ok chunk, after))
    (some_bytes : chunk.isEmpty = false) :
    (CopyLoop size source : σ → Nat → Except CopyError Nat × σ → Prop) =
      WriteThen (CopyLoop size after) [chunk] := by
  funext sink written outcome
  rw [copyLoop_iff, got]
  simp only [some_bytes, Bool.false_eq_true, if_false]

/-! ## Streams -/

/-- The copy of what is read, from when `written` bytes have been copied. -/
def copyReading (reading : Reading) (sink : σ) (written : Nat) : Except CopyError Nat × σ :=
  let (delivered, after) := deliver sink written reading.chunks
  (copyResult reading.fault delivered, after)

/-- A chunk that is read comes before what is read afterwards. -/
theorem copyLoop_of_read {chunk : ByteArray} (reading : Reading)
    (got : Source.read source size = (.ok chunk, after)) (some_bytes : chunk.isEmpty = false)
    (later : ∀ (sink : σ) (written : Nat) (outcome : Except CopyError Nat × σ),
      CopyLoop size after sink written outcome ↔ outcome = copyReading reading sink written) :
    CopyLoop size source sink written outcome ↔
      outcome = copyReading ⟨chunk :: reading.chunks, reading.fault⟩ sink written := by
  rw [copyLoop_read got some_bytes, copyReading, deliver, WriteThen]
  rcases writeAll sink chunk with ⟨broken | _, after⟩
  · cases reading.fault <;> exact Iff.rfl
  · exact later after (written + chunk.size) outcome

/-- A piece of a stream is copied slice by slice before the pieces behind it. -/
theorem copyLoop_data (positive : 0 < size) {rest : ByteStream}
    (later : ∀ (sink : σ) (written : Nat) (outcome : Except CopyError Nat × σ),
      CopyLoop size rest sink written outcome ↔
        outcome = copyReading (rest.reads size) sink written)
    {bytes : ByteArray} (some_bytes : 0 < bytes.size) (sink : σ) (written : Nat)
    (outcome : Except CopyError Nat × σ) :
    CopyLoop size (.data bytes :: rest : ByteStream) sink written outcome ↔
      outcome = copyReading
        ⟨slices size bytes ++ (rest.reads size).chunks, (rest.reads size).fault⟩ sink written := by
  -- Each read leaves less of the piece.
  induction left : bytes.size using Nat.strongRecOn generalizing bytes sink written outcome with
  | ind left ih =>
    by_cases fits : bytes.size ≤ size
    · have got : Source.read (.data bytes :: rest : ByteStream) size = (.ok bytes, rest) :=
        if_pos fits
      rw [slices_of_size_le some_bytes fits]
      exact copyLoop_of_read (rest.reads size) got (isEmpty_eq_false_iff.mpr some_bytes) later
    · have got : Source.read (.data bytes :: rest : ByteStream) size =
          (.ok (bytes.extract 0 size), .data (bytes.extract size bytes.size) :: rest) :=
        if_neg fits
      have first : 0 < (bytes.extract 0 size).size := by
        rw [ByteArray.size_extract]
        omega
      have others : (bytes.extract size bytes.size).size = bytes.size - size := by
        rw [ByteArray.size_extract]
        omega
      rw [slices_of_lt_size positive (Nat.lt_of_not_le fits)]
      refine copyLoop_of_read ⟨slices size (bytes.extract size bytes.size) ++
        (rest.reads size).chunks, (rest.reads size).fault⟩ got (isEmpty_eq_false_iff.mpr first) ?_
      intro sink written outcome
      exact ih (bytes.size - size) (by omega) (by omega) sink written outcome others

/-- The only outcome of the loop for a stream is that of the copy. -/
theorem copyLoop_stream (positive : 0 < size) (stream : ByteStream) (sink : σ) (written : Nat)
    (outcome : Except CopyError Nat × σ) :
    CopyLoop size stream sink written outcome ↔
      outcome = copyReading (stream.reads size) sink written := by
  induction stream generalizing sink written outcome with
  | nil =>
    have got : Source.read ([] : ByteStream) size = (.ok ByteArray.empty, []) := rfl
    rw [copyLoop_readEnd got rfl]
    exact Iff.rfl
  | cons piece rest ih =>
    cases piece with
    | fault fault =>
      have got : Source.read (.fault fault :: rest : ByteStream) size = (.error fault, rest) := rfl
      rw [copyLoop_readFault got]
      exact Iff.rfl
    | data bytes =>
      rw [ByteStream.reads]
      split
      · next no_bytes =>
        have got : Source.read (.data bytes :: rest : ByteStream) size = (.ok bytes, rest) := by
          refine if_pos ?_
          rw [ByteStream.eq_empty_of_isEmpty no_bytes]
          exact Nat.zero_le size
        rw [copyLoop_readEnd got no_bytes]
        exact Iff.rfl
      · next some_bytes =>
        rw [Bool.not_eq_true, isEmpty_eq_false_iff] at some_bytes
        exact copyLoop_data positive ih some_bytes sink written outcome

end Backbeat
