import Backbeat.Media.Copy.Stages
import Backbeat.Media.Pipe
import Backbeat.Proofs.Media.Loop

/-!
# The two stages of a copy in any order

What is still due in a copy under way is what the loop would do after the chunks in flight: those
that the consumer, the channel and the producer hold.  No step of either stage changes it.  Hence
however the stages take turns, a copy that ends has done what the loop does, to the last call to
its sink.  The main statement adds that the producer is never far ahead, that it stops with the
first read after a cancellation, and that the stages never wait for each other.
-/

namespace Backbeat

open Rehearsal (ListedSink)

variable {ρ σ : Type}

/-- The chunk that a producer has in its hands. -/
@[simp]
def Producer.held : Producer → List ByteArray
  | .offering chunk => [chunk]
  | _ => []

/-- The number of chunks that a consumer has not written whole. -/
@[simp]
def Consumer.held : Consumer → Nat
  | .writing .. => 1
  | .failed _ => 1
  | _ => 0

/-- A consumer that has told the producer of a failed write, or one whose flush has failed. -/
@[simp]
def Consumer.Stopped : Consumer → Prop
  | .leaving _ => True
  | .ended (.error _) => True
  | _ => False

namespace TwoStage

variable {copy next : TwoStage ρ σ} {outcome : Except CopyError Nat × σ}

def flight (copy : TwoStage ρ σ) : List ByteArray :=
  copy.channel.toList ++ copy.producer.held

/-- The chunks that were read but not written whole, unless some were dropped. -/
def held (copy : TwoStage ρ σ) : Nat :=
  copy.consumer.held + copy.flight.length

theorem held_le (copy : TwoStage ρ σ) : copy.held ≤ 3 := by
  have writing : copy.consumer.held ≤ 1 := by
    cases copy.consumer <;> simp
  have waiting : copy.channel.toList.length ≤ 1 := by
    cases copy.channel <;> simp
  have offering : copy.producer.held.length ≤ 1 := by
    cases copy.producer <;> simp
  rw [held, flight, List.length_append]
  omega

/-! ## What always holds -/

structure Sane (copy : TwoStage ρ σ) : Prop where
  stopped : copy.cancelled = true → copy.consumer.Stopped
  cancelled : ∀ fault, copy.consumer = .leaving fault → copy.cancelled = true
  finished : copy.cancelled = false → ∀ delivered, copy.consumer = .ended delivered →
    ∃ fault, copy.producer = .ended fault
  counted : copy.cancelled = false → copy.chunksRead = copy.chunksWritten + copy.held

namespace Sane

theorem start (source : ρ) (sink : σ) : ({ source, sink } : TwoStage ρ σ).Sane where
  stopped := nofun
  cancelled := nofun
  finished := nofun
  counted _ := rfl

theorem running (sane : copy.Sane) (going : ¬ copy.consumer.Stopped) : copy.cancelled = false :=
  Bool.not_eq_true _ ▸ fun cancelled => going (sane.stopped cancelled)

/-- While nothing is cancelled, a consumer that has ended leaves no producer behind. -/
theorem unended (sane : copy.Sane) (running : copy.cancelled = false)
    (unfinished : ∀ fault, copy.producer ≠ .ended fault)
    (delivered : Except (StreamFault × Nat) Nat) :
    copy.consumer ≠ .ended delivered := by
  intro ended
  obtain ⟨fault, finished⟩ := sane.finished running delivered ended
  exact unfinished fault finished

/-- The producer goes on while nothing is cancelled. -/
theorem of_produced (sane : copy.Sane) (consumer : next.consumer = copy.consumer)
    (cancelled : next.cancelled = copy.cancelled)
    (written : next.chunksWritten = copy.chunksWritten)
    (unfinished : ∀ fault, copy.producer ≠ .ended fault) (running : copy.cancelled = false)
    (counted : next.chunksRead + copy.held = copy.chunksRead + next.held) : next.Sane where
  stopped := by
    rw [cancelled, running]
    nofun
  cancelled := by
    rw [consumer, cancelled]
    exact sane.cancelled
  finished := by
    intro _ delivered ended
    exact absurd (consumer ▸ ended) (sane.unended running unfinished delivered)
  counted := by
    intro _
    have before := sane.counted running
    omega

/-- The consumer goes on while nothing is cancelled. -/
theorem of_consumed (sane : copy.Sane) (cancelled : next.cancelled = copy.cancelled)
    (read : next.chunksRead = copy.chunksRead) (going : ¬ copy.consumer.Stopped)
    (goes_on : ∀ fault, next.consumer ≠ .leaving fault)
    (finished : ∀ delivered, next.consumer = .ended delivered →
      ∃ fault, next.producer = .ended fault)
    (counted : next.chunksWritten + next.held = copy.chunksWritten + copy.held) : next.Sane where
  stopped := by
    rw [cancelled, sane.running going]
    nofun
  cancelled fault leaving := absurd leaving (goes_on fault)
  finished _ := finished
  counted := by
    intro _
    have before := sane.counted (sane.running going)
    omega

variable [Source ρ] [Sink σ] {size : Nat}

theorem step (sane : copy.Sane) (step : Step size copy next) : next.Sane := by
  cases step with
  | halt going cancelled =>
    constructor
    case stopped => exact sane.stopped
    case cancelled => exact sane.cancelled
    case finished => exact fun running => absurd (cancelled.symm.trans running) nofun
    case counted => exact fun running => absurd (cancelled.symm.trans running) nofun
  | read place going =>
    refine sane.of_produced rfl rfl rfl (by simp [place]) going ?_
    simp [held, flight, place]
    omega
  | readEnd place going =>
    exact sane.of_produced rfl rfl rfl (by simp [place]) going
      (by simp [held, flight, place])
  | readFault place going =>
    exact sane.of_produced rfl rfl rfl (by simp [place]) going
      (by simp [held, flight, place])
  | handOver place going there room =>
    exact sane.of_produced rfl rfl rfl (by simp [place]) going
      (by simp [held, flight, place, room])
  | turnedAway place going gone =>
    exact absurd gone (sane.unended going (by simp [place]) _)
  | receive place waiting =>
    refine sane.of_consumed rfl rfl (by simp [place]) nofun nofun ?_
    simp [held, flight, place, waiting]
    omega
  | write place =>
    exact sane.of_consumed rfl rfl (by simp [place]) nofun nofun
      (by simp [held, flight, place])
  | writeNothing place =>
    exact sane.of_consumed rfl rfl (by simp [place]) nofun nofun
      (by simp [held, flight, place])
  | writeFault place =>
    exact sane.of_consumed rfl rfl (by simp [place]) nofun nofun
      (by simp [held, flight, place])
  | wroteAll place =>
    refine sane.of_consumed rfl rfl (by simp [place]) nofun nofun ?_
    simp [held, flight, place]
    omega
  | cancel place =>
    -- From here on chunks are dropped that were read, so nothing is counted any more.
    constructor
    case stopped => exact fun _ => trivial
    case cancelled => exact fun _ _ => rfl
    case finished => nofun
    case counted => nofun
  | leave place =>
    have cancelled := sane.cancelled _ place
    constructor
    case stopped => exact fun _ => trivial
    case cancelled => nofun
    case finished => exact fun running => absurd (cancelled.symm.trans running) nofun
    case counted => exact fun running => absurd (cancelled.symm.trans running) nofun
  | flush place drained closed =>
    exact sane.of_consumed rfl rfl (by simp [place]) nofun
      (fun _ _ => ⟨_, closed⟩) (by simp [held, flight, place])
  | flushFault place drained closed =>
    exact sane.of_consumed rfl rfl (by simp [place]) nofun
      (fun _ _ => ⟨_, closed⟩) (by simp [held, flight, place])

end Sane

/-! ## What is due stays the same -/

variable [Source ρ] [Sink σ] {size : Nat}

/-- What is to come after the chunks in flight. -/
def later (size : Nat) (copy : TwoStage ρ σ) : σ → Nat → Except CopyError Nat × σ → Prop :=
  match copy.producer with
  | .ended fault => fun sink written outcome => outcome = finish fault sink written
  | _ => CopyLoop size copy.source

/-- The outcome is one that the loop would come to from here. -/
def Due (size : Nat) (copy : TwoStage ρ σ) (outcome : Except CopyError Nat × σ) : Prop :=
  match copy.consumer with
  | .receiving => WriteThen (copy.later size) copy.flight copy.sink copy.written outcome
  | .writing chunk place =>
    match writeFrom copy.sink chunk place with
    | (.ok (), after) =>
      WriteThen (copy.later size) copy.flight after (copy.written + chunk.size) outcome
    | (.error fault, after) => outcome = (.error (.write fault copy.written), after)
  | .failed fault => outcome = (.error (.write fault copy.written), copy.sink)
  | .leaving fault => outcome = (.error (.write fault copy.written), copy.sink)
  | .ended (.error (fault, copied)) => outcome = (.error (.write fault copied), copy.sink)
  | .ended (.ok count) =>
    ∃ fault, copy.producer = .ended fault ∧ outcome = (copyResult fault (.ok count), copy.sink)

/-- Between a cancellation and the end, the producer does not matter. -/
theorem due_of_stopped (stopped : copy.consumer.Stopped) (consumer : next.consumer = copy.consumer)
    (sink : next.sink = copy.sink) (written : next.written = copy.written) :
    copy.Due size outcome ↔ next.Due size outcome := by
  rw [Due, Due, consumer, sink, written]
  cases place : copy.consumer with
  | failed fault => exact Iff.rfl
  | leaving fault => exact Iff.rfl
  | ended delivered =>
    cases delivered with
    | error failure => exact Iff.rfl
    | ok count =>
      rw [place] at stopped
      exact stopped.elim
  | _ =>
    rw [place] at stopped
    exact stopped.elim

/-- The producer may do what leaves the rest of the copy as it is. -/
theorem due_of_pending (consumer : next.consumer = copy.consumer) (sink : next.sink = copy.sink)
    (written : next.written = copy.written)
    (going : ∀ count, copy.consumer ≠ .ended (.ok count))
    (pending : WriteThen (copy.later size) copy.flight = WriteThen (next.later size) next.flight) :
    copy.Due size outcome ↔ next.Due size outcome := by
  rw [Due, Due, consumer, sink, written, pending]
  cases place : copy.consumer with
  | ended delivered =>
    cases delivered with
    | error failure => exact Iff.rfl
    | ok count => exact absurd place (going count)
  | _ => exact Iff.rfl

theorem due_of_step (sane : copy.Sane) (step : Step size copy next) :
    copy.Due size outcome ↔ next.Due size outcome := by
  cases step with
  | halt going cancelled => exact due_of_stopped (sane.stopped cancelled) rfl rfl rfl
  | read place going got some_bytes =>
    refine due_of_pending rfl rfl rfl (fun _ => sane.unended going (by simp [place]) _) ?_
    simp only [later, flight, place, Producer.held, List.append_nil, writeThen_append,
      copyLoop_read got some_bytes]
  | readEnd place going got no_bytes =>
    refine due_of_pending rfl rfl rfl (fun _ => sane.unended going (by simp [place]) _) ?_
    simp only [later, flight, place, Producer.held, copyLoop_readEnd got no_bytes]
  | readFault place going got =>
    refine due_of_pending rfl rfl rfl (fun _ => sane.unended going (by simp [place]) _) ?_
    simp only [later, flight, place, Producer.held, copyLoop_readFault got]
  | handOver place going there room =>
    -- The chunk stays between the stages.
    refine due_of_pending rfl rfl rfl (fun _ => there _) ?_
    simp only [later, flight, place, room, Producer.held, Option.toList, List.nil_append,
      List.append_nil]
  | turnedAway place going gone =>
    -- A consumer only leaves before the producer when it has cancelled the copy.
    exact absurd gone (sane.unended going (by simp [place]) _)
  | receive place waiting =>
    simp only [Due, place, flight, waiting, Option.toList, List.cons_append, List.nil_append,
      WriteThen, writeAll]
    exact Iff.rfl
  | write place inside wrote =>
    simp only [Due, place]
    rw [writeFrom, if_neg (Nat.not_le.mpr inside), wrote]
    exact Iff.rfl
  | writeNothing place inside wrote =>
    simp only [Due, place]
    rw [writeFrom, if_neg (Nat.not_le.mpr inside), wrote]
  | writeFault place inside wrote =>
    simp only [Due, place]
    rw [writeFrom, if_neg (Nat.not_le.mpr inside), wrote]
  | wroteAll place past =>
    simp only [Due, place]
    rw [writeFrom, if_pos past]
    exact Iff.rfl
  | cancel place =>
    simp only [Due, place]
  | leave place =>
    simp only [Due, place]
  | @flush fault sink place drained closed flushed =>
    simp only [Due, place, flight, later, drained, closed, Producer.held, Option.toList, WriteThen,
      List.append_nil, finish_of_flush flushed]
    constructor
    · intro ends
      exact ⟨fault, rfl, ends⟩
    · rintro ⟨_, ⟨⟩, ends⟩
      exact ends
  | flushFault place drained closed flushed =>
    simp only [Due, place, flight, later, drained, closed, Producer.held, Option.toList, WriteThen,
      List.append_nil, finish_of_flushFault flushed]

/-! ## Nobody waits for ever -/

/-- A producer that is to read always finds something to do. -/
theorem exists_step_of_reading (copy : TwoStage ρ σ) (size : Nat)
    (place : copy.producer = .reading) : ∃ next, Step size copy next := by
  cases going : copy.cancelled with
  | true => exact ⟨_, .halt (by simp [place]) going⟩
  | false =>
    rcases got : Source.read copy.source size with ⟨fault | chunk, source⟩
    · exact ⟨_, .readFault place going got⟩
    · cases no_bytes : chunk.isEmpty with
      | true => exact ⟨_, .readEnd place going got no_bytes⟩
      | false => exact ⟨_, .read place going got no_bytes⟩

theorem exists_step_of_writing (copy : TwoStage ρ σ) (size : Nat) {chunk : ByteArray} {start : Nat}
    (place : copy.consumer = .writing chunk start) : ∃ next, Step size copy next := by
  by_cases past : chunk.size ≤ start
  · exact ⟨_, .wroteAll place past⟩
  · have inside := Nat.lt_of_not_le past
    rcases wrote : Sink.write copy.sink chunk start with ⟨fault | _ | more, sink⟩
    · exact ⟨_, .writeFault place inside wrote⟩
    · exact ⟨_, .writeNothing place inside wrote⟩
    · exact ⟨_, .write place inside wrote⟩

/-- As long as one stage has not ended, one of the two can go on. -/
theorem exists_step (copy : TwoStage ρ σ) (size : Nat) (unfinished : copy.result? = none) :
    ∃ next, Step size copy next := by
  cases place : copy.consumer with
  | receiving =>
    cases waiting : copy.channel with
    | some chunk => exact ⟨_, .receive place waiting⟩
    | none =>
      cases produced : copy.producer with
      | reading => exact exists_step_of_reading copy size produced
      | offering chunk =>
        cases going : copy.cancelled with
        | true => exact ⟨_, .halt (by simp [produced]) going⟩
        | false => exact ⟨_, .handOver produced going (by simp [place]) waiting⟩
      | ended fault =>
        rcases flushed : Sink.flush copy.sink with ⟨broken | _, sink⟩
        · exact ⟨_, .flushFault place waiting produced flushed⟩
        · exact ⟨_, .flush place waiting produced flushed⟩
  | writing chunk start => exact exists_step_of_writing copy size place
  | failed fault => exact ⟨_, .cancel place⟩
  | leaving fault => exact ⟨_, .leave place⟩
  | ended delivered =>
    cases produced : copy.producer with
    | reading => exact exists_step_of_reading copy size produced
    | offering chunk =>
      cases going : copy.cancelled with
      | true => exact ⟨_, .halt (by simp [produced]) going⟩
      | false => exact ⟨_, .turnedAway produced going place⟩
    | ended fault =>
      rw [result?, produced, place] at unfinished
      cases unfinished

theorem result?_eq_none_of_step (step : Step size copy next) : copy.result? = none := by
  cases step with
  | halt going =>
    cases produced : copy.producer with
    | ended fault => exact absurd produced (going fault)
    | _ => rw [result?, produced]
  | _ => simp [result?, *]

/-! ## Every order of steps -/

/-- After the cancellation nothing more is read. -/
theorem source_of_cancelled (cancelled : copy.cancelled = true) (reached : Reaches size copy next) :
    next.cancelled = true ∧ next.source = copy.source ∧ next.chunksRead = copy.chunksRead := by
  induction reached with
  | refl => exact ⟨cancelled, rfl, rfl⟩
  | tail _ step ih =>
    obtain ⟨still, source, read⟩ := ih
    cases step with
    | read place going => cases still.symm.trans going
    | readEnd place going => cases still.symm.trans going
    | readFault place going => cases still.symm.trans going
    | cancel place => exact ⟨rfl, source, read⟩
    | _ => exact ⟨still, source, read⟩

theorem chunksRead_le_of_step (step : Step size copy next) (sane : next.Sane)
    (near : copy.chunksRead ≤ copy.chunksWritten + 3) :
    next.chunksRead ≤ next.chunksWritten + 3 := by
  cases running : next.cancelled with
  | false =>
    rw [sane.counted running]
    exact Nat.add_le_add_left next.held_le _
  | true =>
    cases step with
    | read place going => cases going.symm.trans running
    | wroteAll place => exact Nat.le_trans near (by simp)
    | _ => exact near

/-- Wherever a copy has come to, what is due is what the loop comes to. -/
theorem due_of_reaches {source : ρ} {sink : σ} (reached : Reaches size { source, sink } copy) :
    copy.Sane ∧ copy.chunksRead ≤ copy.chunksWritten + 3 ∧
      ∀ outcome, CopyLoop size source sink 0 outcome ↔ copy.Due size outcome := by
  induction reached with
  | refl => exact ⟨Sane.start source sink, Nat.zero_le _, fun _ => Iff.rfl⟩
  | tail _ step ih =>
    obtain ⟨sane, near, due⟩ := ih
    have after := sane.step step
    refine ⟨after, chunksRead_le_of_step step after near, ?_⟩
    intro outcome
    exact (due outcome).trans (due_of_step sane step)

/-- What a copy that has ended has done is all that was due. -/
theorem due_iff_of_result {result : Except CopyError Nat} (ended : copy.result? = some result) :
    copy.Due size outcome ↔ outcome = (result, copy.sink) := by
  rw [result?] at ended
  split at ended
  · next fault delivered produced consumed =>
    cases ended
    rw [Due, consumed]
    cases delivered with
    | error failure => cases fault <;> exact Iff.rfl
    | ok count =>
      constructor
      · rintro ⟨_, same, ends⟩
        cases produced.symm.trans same
        exact ends
      · intro ends
        exact ⟨fault, produced, ends⟩
  · cases ended

/-- Whichever stage has its turn when: a copy that has ended has the outcome of the loop, with the
same calls to its sink, and for a stream that is the outcome of the copy.  No more than three
chunks are read ahead, nothing is read after the cancellation, and until both stages have ended one
of them can go on. -/
theorem reaches_loop (size : Nat) (source : ρ) (sink : σ) {copy : TwoStage ρ (ListedSink σ)}
    (reached : Reaches size { source, sink := ⟨sink, []⟩ } copy) :
    (∀ result, copy.result? = some result → ∀ outcome,
      CopyLoop size source (⟨sink, []⟩ : ListedSink σ) 0 outcome ↔ outcome = (result, copy.sink)) ∧
    (∀ (requested : Nat) (stream : ByteStream) (outcome : Except CopyError Nat × ListedSink σ),
      CopyLoop (effectiveChunkSize requested) stream ⟨sink, []⟩ 0 outcome ↔
        outcome = Backbeat.copy requested stream ⟨sink, []⟩) ∧
    copy.chunksRead ≤ copy.chunksWritten + 3 ∧
    (copy.cancelled = true → ∀ next, Reaches size copy next →
      next.source = copy.source ∧ next.chunksRead = copy.chunksRead) ∧
    (copy.result? = none ↔ ∃ next, Step size copy next) := by
  obtain ⟨sane, near, due⟩ := due_of_reaches reached
  refine ⟨?_, ?_, near, ?_, ?_⟩
  · intro result ended outcome
    exact (due outcome).trans (due_iff_of_result ended)
  · intro requested stream outcome
    exact copyLoop_stream (effectiveChunkSize_pos requested) stream ⟨sink, []⟩ 0 outcome
  · intro cancelled next later
    exact (source_of_cancelled cancelled later).2
  · constructor
    · exact copy.exists_step size
    · rintro ⟨next, step⟩
      exact result?_eq_none_of_step step

/-- A copy of two chunks to a pipe whose reader has hung up. -/
def hopeless : TwoStage ByteStream (ListedSink BoundedSink) where
  source := [.data ⟨#[1]⟩, .data ⟨#[2]⟩]
  sink := ⟨{ inAll := some (0, .fault hungUp) }, []⟩

/-- The first write fails when both chunks have been read already. -/
theorem reaches_loop_hopeless :
    ∃ copy : TwoStage ByteStream (ListedSink BoundedSink), Reaches 1 hopeless copy ∧
      copy.chunksRead = 2 ∧ copy.result? = some (.error (.write hungUp 0)) ∧
      ∀ outcome, CopyLoop 1 hopeless.source hopeless.sink 0 outcome ↔
        outcome = (.error (.write hungUp 0), copy.sink) := by
  have received : Reaches 1 hopeless
      { hopeless with
        source := [.data ⟨#[2]⟩], consumer := .writing ⟨#[1]⟩ 0, chunksRead := 1 } :=
    ((Reaches.refl.tail (.read rfl rfl rfl rfl)).tail
      (.handOver rfl rfl (by simp [hopeless]) rfl)).tail (.receive rfl rfl)
  have failed := (received.tail (.read rfl rfl rfl rfl)).tail (.writeFault rfl (by decide) rfl)
  have ended := ((failed.tail (.cancel rfl)).tail (.halt (by simp) rfl)).tail (.leave rfl)
  exact ⟨_, ended, rfl, rfl, (reaches_loop _ _ _ ended).1 _ rfl⟩

end TwoStage

end Backbeat
