import Backbeat.Media.Pipe.Stages
import Backbeat.Proofs.Media.Stages

/-!
# What the reader of a pipe gets

As long as the reader does not hang up, no byte is lost: what the reader has got, what the duplex
holds and what the stages still have to write make up the bytes of the source, in this order.  No
step of a stage or of the reader changes that.  Every step lowers a measure, and as long as not all
are done somebody can go on: a consumer that waits for room leaves the reader something to take.
The main statement is that the reader gets the bytes of the source, or the first of them if only
these are kept, whoever has its turn when.
-/

namespace Backbeat

/-! ## Reading a stream -/

namespace ByteStream

variable {stream after : ByteStream} {space : Nat} {bytes : ByteArray}

theorem readable_of_read (got : stream.read space = (.ok bytes, after))
    (some_bytes : bytes.isEmpty = false) : bytes ++ after.readable = stream.readable := by
  have nonempty := isEmpty_eq_false_iff.mp some_bytes
  cases stream with
  | nil =>
    cases got
    cases nonempty
  | cons piece rest =>
    cases piece with
    | fault fault => cases got
    | data piece =>
      rw [read] at got
      split at got
      · cases got
        rw [readable, some_bytes]
        rfl
      · next more =>
        -- The rest of the piece is not empty, so it is not read as the end.
        cases got
        have whole : piece.isEmpty = false := isEmpty_eq_false_iff.mpr (by omega)
        have left : (piece.extract space piece.size).isEmpty = false := by
          rw [isEmpty_eq_false_iff, ByteArray.size_extract]
          omega
        rw [readable, readable, whole, left, if_neg Bool.false_ne_true, if_neg Bool.false_ne_true,
          ← ByteArray.append_assoc, ← ByteArray.extract_eq_extract_append_extract space
            (Nat.zero_le _) (by omega), ByteArray.extract_zero_size]

theorem readable_of_readEnd (positive : 0 < space) (got : stream.read space = (.ok bytes, after))
    (no_bytes : bytes.isEmpty = true) : stream.readable = ByteArray.empty := by
  cases stream with
  | nil => rfl
  | cons piece rest =>
    cases piece with
    | fault fault => rfl
    | data piece =>
      rw [read] at got
      split at got
      · cases got
        rw [readable, no_bytes]
        rfl
      · next more =>
        cases got
        have some_bytes : (piece.extract 0 space).isEmpty = false := by
          rw [isEmpty_eq_false_iff, ByteArray.size_extract]
          omega
        cases some_bytes.symm.trans no_bytes

theorem readable_of_readFault {fault : StreamFault}
    (got : stream.read space = (.error fault, after)) : stream.readable = ByteArray.empty := by
  cases stream with
  | nil => cases got
  | cons piece rest =>
    cases piece with
    | fault fault => rfl
    | data piece =>
      rw [read] at got
      split at got <;> cases got

end ByteStream

/-! ## Writing to a duplex -/

namespace Duplex

variable {duplex after : Duplex} {bytes : ByteArray} {place count : Nat}

theorem write_ok (wrote : Sink.write duplex bytes place = (.ok count, after)) :
    duplex.hungUp = false ∧ count = duplex.room (bytes.size - place) ∧
      after = { duplex with buffer := duplex.buffer ++ bytes.extract place (place + count) } := by
  change duplex.write bytes place = _ at wrote
  rw [write] at wrote
  split at wrote
  · cases wrote
  · next going =>
    cases wrote
    exact ⟨eq_false_of_ne_true going, rfl, rfl⟩

theorem write_error {fault : StreamFault}
    (wrote : Sink.write duplex bytes place = (.error fault, after)) :
    duplex.hungUp = true ∧ after = duplex := by
  change duplex.write bytes place = _ at wrote
  rw [write] at wrote
  split at wrote
  · next gone =>
    cases wrote
    exact ⟨gone, rfl⟩
  · cases wrote

/-- A duplex that takes nothing of what it is offered is full. -/
theorem full_of_room_eq_zero (going : duplex.hungUp = false) {offered : Nat}
    (some_left : 0 < offered) (nothing : 0 = duplex.room offered) : duplex.Full := by
  rw [room] at nothing
  exact ⟨going, by omega⟩

end Duplex

/-- For a copy to be sane, its sink does not matter. -/
theorem TwoStage.Sane.of_sink {ρ σ : Type} {copy : TwoStage ρ σ} (sane : copy.Sane) (sink : σ) :
    { copy with sink }.Sane :=
  ⟨sane.stopped, sane.cancelled, sane.finished, sane.counted⟩

/-! ## No byte is lost -/

/-- What a consumer has still to write of its chunk. -/
@[simp]
def Consumer.rest : Consumer → ByteArray
  | .writing chunk place => chunk.extract place chunk.size
  | _ => ByteArray.empty

/-- A consumer none of whose writes has failed. -/
@[simp]
def Consumer.Unharmed : Consumer → Prop
  | .receiving => True
  | .writing .. => True
  | .ended (.ok _) => True
  | _ => False

theorem Consumer.Unharmed.going {consumer : Consumer} (unharmed : consumer.Unharmed) :
    ¬ consumer.Stopped := by
  cases consumer with
  | ended delivered => cases delivered <;> simp_all
  | _ => simp_all

namespace Piping

variable {copy next : TwoStage ByteStream Duplex} {size : Nat} {left : ByteArray}

/-- What a copy under way will still read. -/
def unread (copy : TwoStage ByteStream Duplex) : ByteArray :=
  match copy.producer with
  | .ended _ => ByteArray.empty
  | _ => copy.source.readable

/-- What a copy under way has not yet written. -/
def pending (copy : TwoStage ByteStream Duplex) : ByteArray :=
  copy.consumer.rest ++ (joined copy.flight ++ unread copy)

/-- The bytes that are left for the reader of a pipe are on their way, all in order. -/
structure Flowing (left : ByteArray) (copy : TwoStage ByteStream Duplex) : Prop where
  unharmed : copy.consumer.Unharmed
  drained : ∀ delivered, copy.consumer = .ended delivered → copy.channel = none
  balance : copy.sink.buffer ++ pending copy = left

namespace Flowing

/-- The producer may do what leaves the bytes between it and the consumer as they are. -/
theorem of_produced (flowing : Flowing left copy) (consumer : next.consumer = copy.consumer)
    (sink : next.sink = copy.sink)
    (drained : ∀ delivered, copy.consumer = .ended delivered → next.channel = none)
    (same : joined next.flight ++ unread next = joined copy.flight ++ unread copy) :
    Flowing left next where
  unharmed := by
    rw [consumer]
    exact flowing.unharmed
  drained := by
    rw [consumer]
    exact drained
  balance := by
    rw [pending, consumer, sink, same]
    exact flowing.balance

/-- The copy goes on without a loss as long as the reader is there, and a write into a full duplex
waits. -/
theorem step (positive : 0 < size) (sane : copy.Sane) (going : copy.sink.hungUp = false)
    (flowing : Flowing left copy) (step : TwoStage.Step size copy next)
    (free : Waits copy → next.consumer = copy.consumer) : Flowing left next := by
  have running := sane.running flowing.unharmed.going
  have unharmed := flowing.unharmed
  have balance := flowing.balance
  rw [pending, TwoStage.flight, unread] at balance
  cases step with
  | halt _ cancelled => cases running.symm.trans cancelled
  | read place _ got some_bytes =>
    refine flowing.of_produced rfl rfl flowing.drained ?_
    rw [TwoStage.flight, TwoStage.flight, joined_append, joined_append, unread, unread, place,
      ByteArray.append_assoc, ByteArray.append_assoc, ← ByteStream.readable_of_read got some_bytes]
    simp
  | readEnd place _ got no_bytes =>
    refine flowing.of_produced rfl rfl flowing.drained ?_
    rw [TwoStage.flight, TwoStage.flight, unread, unread, place,
      ByteStream.readable_of_readEnd positive got no_bytes]
    rfl
  | readFault place _ got =>
    refine flowing.of_produced rfl rfl flowing.drained ?_
    rw [TwoStage.flight, TwoStage.flight, unread, unread, place,
      ByteStream.readable_of_readFault got]
    rfl
  | handOver place _ there room =>
    refine flowing.of_produced rfl rfl (fun _ ended => absurd ended (there _)) ?_
    simp only [TwoStage.flight, unread, place, room, Producer.held, Option.toList, List.nil_append,
      List.append_nil]
  | turnedAway place _ gone => exact absurd gone (sane.unended running (by simp [place]) _)
  | receive place waiting =>
    refine ⟨trivial, by simp, ?_⟩
    rw [← balance, pending, TwoStage.flight, place, waiting]
    simp [unread, ByteArray.append_assoc]
  | @write chunk start more _ place inside wrote =>
    obtain ⟨-, counted, rfl⟩ := Duplex.write_ok wrote
    have fits : start + (more + 1) ≤ chunk.size := by
      rw [Duplex.room] at counted
      omega
    refine ⟨trivial, by simp, ?_⟩
    rw [place] at balance
    rw [← balance, pending, Consumer.rest, Consumer.rest, ByteArray.append_assoc,
      ← ByteArray.append_assoc (a := chunk.extract start _),
      ← ByteArray.extract_eq_extract_append_extract _ (Nat.le_add_right _ _) fits]
    rfl
  | @writeNothing chunk start _ place inside wrote =>
    -- Then there is no room, so that the consumer would have waited.
    obtain ⟨-, nothing, rfl⟩ := Duplex.write_ok wrote
    have full := Duplex.full_of_room_eq_zero going (Nat.sub_pos_of_lt inside) nothing
    cases (free ⟨chunk, start, place, inside, full⟩).trans place
  | writeFault place _ wrote => cases going.symm.trans (Duplex.write_error wrote).1
  | wroteAll place past =>
    have none_left : copy.consumer.rest = ByteArray.empty := by
      rw [place, Consumer.rest, ByteArray.extract_eq_empty_iff]
      omega
    refine ⟨trivial, by simp, ?_⟩
    rw [← balance, pending, none_left]
    rfl
  | cancel place =>
    rw [place] at unharmed
    cases unharmed
  | leave place =>
    rw [place] at unharmed
    cases unharmed
  | flush place drained closed flushed =>
    cases flushed
    refine ⟨trivial, fun _ _ => drained, ?_⟩
    rw [← balance, pending, place]
    rfl
  | flushFault _ _ _ flushed => cases flushed

/-- When the copy has ended and the duplex is empty, nothing is left. -/
theorem eq_empty (flowing : Flowing left copy) (sane : copy.Sane)
    {delivered : Except (StreamFault × Nat) Nat} (closed : copy.consumer = .ended delivered)
    (drained : copy.sink.buffer = ByteArray.empty) : left = ByteArray.empty := by
  obtain ⟨fault, ended⟩ :=
    sane.finished (sane.running flowing.unharmed.going) delivered closed
  rw [← flowing.balance, pending, TwoStage.flight, unread, drained, closed, ended,
    flowing.drained delivered closed]
  simp

/-- The reader takes the first bytes out of the duplex. -/
theorem take (flowing : Flowing left copy) {count : Nat} (there : count ≤ copy.sink.buffer.size) :
    ∃ rest, copy.sink.buffer.extract 0 count ++ rest = left ∧
      Flowing rest
        { copy with sink.buffer := copy.sink.buffer.extract count copy.sink.buffer.size } := by
  refine ⟨_, ?_, flowing.unharmed, flowing.drained, rfl⟩
  rw [← ByteArray.append_assoc, ← ByteArray.extract_eq_extract_append_extract count
    (Nat.zero_le _) there, ByteArray.extract_zero_size]
  exact flowing.balance

end Flowing

/-! ## What always holds -/

variable {requested : Nat} {kept : Option Nat} {source : ByteStream} {total : ByteArray}
  {piping after : Piping}

/-- What the reader has got. -/
def received (piping : Piping) : ByteArray :=
  joined piping.delivered

theorem size_received (piping : Piping) : piping.received.size = piping.got :=
  size_joined piping.delivered

/-- The reader of a pipe that yields `total` misses nothing unless it has hung up. -/
structure Sound (total : ByteArray) (kept : Option Nat) (piping : Piping) : Prop where
  sane : piping.copy.Sane
  roomy : 0 < piping.copy.sink.capacity
  flowing : piping.copy.sink.hungUp = false →
    ∃ left, piping.received ++ left = total ∧ Flowing left piping.copy
  begins : Begins piping.received total
  hungUp : piping.copy.sink.hungUp = true → Enough kept piping.received
  ended : piping.ended = true →
    piping.received = total ∧ ∃ delivered, piping.copy.consumer = .ended delivered

/-- A copy leaves the duplex as it is but for what it writes to it. -/
theorem sink_of_step (step : TwoStage.Step size copy next) :
    next.sink.hungUp = copy.sink.hungUp ∧ next.sink.capacity = copy.sink.capacity := by
  cases step with
  | write _ _ wrote =>
    obtain ⟨-, -, rfl⟩ := Duplex.write_ok wrote
    exact ⟨rfl, rfl⟩
  | writeNothing _ _ wrote =>
    obtain ⟨-, -, rfl⟩ := Duplex.write_ok wrote
    exact ⟨rfl, rfl⟩
  | writeFault _ _ wrote =>
    obtain ⟨-, rfl⟩ := Duplex.write_error wrote
    exact ⟨rfl, rfl⟩
  | flush _ _ _ flushed =>
    cases flushed
    exact ⟨rfl, rfl⟩
  | flushFault _ _ _ flushed => cases flushed
  | _ => exact ⟨rfl, rfl⟩

/-- A consumer that has ended does nothing more. -/
theorem ended_of_step {delivered : Except (StreamFault × Nat) Nat}
    (ended : copy.consumer = .ended delivered) (step : TwoStage.Step size copy next) :
    next.consumer = .ended delivered := by
  cases step with
  | halt => exact ended
  | read => exact ended
  | readEnd => exact ended
  | readFault => exact ended
  | handOver => exact ended
  | turnedAway => exact ended
  | _ place => cases ended.symm.trans place

namespace Sound

theorem start (requested : Nat) (source : ByteStream) (kept : Option Nat) :
    (Piping.start requested source).Sound source.yielded kept where
  sane := .start _ _
  roomy := effectiveChunkSize_pos requested
  flowing := by
    intro _
    refine ⟨source.yielded, ByteArray.empty_append, trivial, nofun, ?_⟩
    rw [pending, unread]
    simp [Piping.start, TwoStage.flight, ByteStream.readable_withoutEmpty]
  begins := ⟨source.yielded, ByteArray.empty_append⟩
  hungUp := nofun
  ended := nofun

theorem step (positive : 0 < size) (sound : piping.Sound total kept)
    (step : Step size kept piping after) : after.Sound total kept := by
  cases step with
  | copy step free =>
    obtain ⟨same, roomy⟩ := sink_of_step step
    constructor
    case sane => exact sound.sane.step step
    case roomy => exact roomy ▸ sound.roomy
    case begins => exact sound.begins
    case flowing =>
      intro going
      obtain ⟨left, whole, flowing⟩ := sound.flowing (same ▸ going)
      exact ⟨left, whole, flowing.step positive sound.sane (same ▸ going) step free⟩
    case hungUp =>
      intro gone
      exact sound.hungUp (same ▸ gone)
    case ended =>
      intro ended
      obtain ⟨all, delivered, closed⟩ := sound.ended ended
      exact ⟨all, delivered, ended_of_step closed step⟩
  | @receive count reading _ _ there =>
    obtain ⟨left, whole, flowing⟩ := sound.flowing reading.2
    obtain ⟨rest, split, flows⟩ := flowing.take there
    have received : joined (piping.delivered ++ [piping.copy.sink.buffer.extract 0 count]) ++ rest =
        total := by
      rw [joined_append, joined_singleton, ByteArray.append_assoc,
        split]
      exact whole
    constructor
    case sane => exact sound.sane.of_sink _
    case roomy => exact sound.roomy
    case flowing => exact fun _ => ⟨rest, received, flows⟩
    case begins => exact ⟨rest, received⟩
    case hungUp => exact fun gone => absurd (reading.2.symm.trans gone) nofun
    case ended => exact fun ended => absurd (reading.1.symm.trans ended) nofun
  | receiveEnd reading drained closed =>
    obtain ⟨left, whole, flowing⟩ := sound.flowing reading.2
    constructor
    case sane => exact sound.sane
    case roomy => exact sound.roomy
    case flowing => exact sound.flowing
    case begins => exact sound.begins
    case hungUp => exact sound.hungUp
    case ended =>
      intro _
      rw [flowing.eq_empty sound.sane closed drained, ByteArray.append_empty] at whole
      exact ⟨whole, _, closed⟩
  | hangUp reading keeps enough =>
    constructor
    case sane => exact sound.sane.of_sink _
    case roomy => exact sound.roomy
    case flowing => nofun
    case begins => exact sound.begins
    case hungUp => exact fun _ => ⟨_, keeps, piping.size_received ▸ enough⟩
    case ended => exact fun ended => absurd (reading.1.symm.trans ended) nofun

/-- A reader that is done has all bytes that it keeps. -/
theorem keep_received (sound : piping.Sound total kept) (done : ¬ piping.Reading) :
    keep kept piping.received = keep kept total := by
  cases ended : piping.ended with
  | true => rw [(sound.ended ended).1]
  | false =>
    have gone := eq_true_of_ne_false fun going => done ⟨ended, going⟩
    obtain ⟨rest, rfl⟩ := sound.begins
    exact (keep_append_of_enough (sound.hungUp gone) rest).symm

/-- A reader that keeps everything is only done at the end. -/
theorem ended_of_none (sound : piping.Sound total none) (done : ¬ piping.Reading) :
    piping.ended = true := by
  refine eq_true_of_ne_false fun unended => done ⟨unended, ?_⟩
  refine eq_false_of_ne_true fun gone => ?_
  obtain ⟨_, ⟨⟩, _⟩ := sound.hungUp gone

end Sound

/-! ## Nobody waits for ever -/

theorem exists_receive (positive : 0 < size) (reading : piping.Reading)
    (some_bytes : 0 < piping.copy.sink.buffer.size) : ∃ after, Step size kept piping after :=
  ⟨_, .receive reading Nat.one_pos positive some_bytes⟩

/-- As long as not all are done, a stage or the reader can go on. -/
theorem Sound.exists_step (positive : 0 < size) (sound : piping.Sound total kept)
    (unfinished : ¬ piping.Finished) : ∃ after, Step size kept piping after := by
  by_cases waits : Waits piping.copy
  · -- The reader can take something out of a full duplex.
    obtain ⟨chunk, place, writing, -, going, full⟩ := waits
    have unended : piping.ended = false := by
      refine eq_false_of_ne_true fun ended => ?_
      obtain ⟨-, delivered, closed⟩ := sound.ended ended
      cases writing.symm.trans closed
    exact exists_receive positive ⟨unended, going⟩ (Nat.lt_of_lt_of_le sound.roomy full)
  · cases result : piping.copy.result? with
    | none =>
      obtain ⟨next, step⟩ := piping.copy.exists_step size result
      exact ⟨_, .copy step fun waiting => absurd waiting waits⟩
    | some outcome =>
      have reading : piping.Reading := Classical.byContradiction fun done =>
        unfinished ⟨by rw [result, Option.isSome_some], done⟩
      rcases Nat.eq_zero_or_pos piping.copy.sink.buffer.size with none_left | some_bytes
      · rw [TwoStage.result?] at result
        split at result
        · next closed =>
          exact ⟨_, .receiveEnd reading (ByteArray.size_eq_zero_iff.mp none_left) closed⟩
        · cases result
      · exact exists_receive positive reading some_bytes

theorem not_finished_of_step (step : Step size kept piping after) : ¬ piping.Finished := by
  rintro ⟨result, done⟩
  cases step with
  | copy step =>
    rw [TwoStage.result?_eq_none_of_step step] at result
    cases result
  | receive reading => exact done reading
  | receiveEnd reading => exact done reading
  | hangUp reading => exact done reading

/-! ## The number of steps -/

/-- How many steps are due at most for what a producer still reads and what it holds. -/
@[simp]
def producerDue (source : ByteStream) : Producer → Nat
  | .reading => 6 * source.readable.size + 1
  | .offering chunk => 6 * source.readable.size + 1 + (2 * chunk.size + 3)
  | .ended _ => 0

@[simp]
def channelDue : Option ByteArray → Nat
  | none => 0
  | some chunk => 2 * chunk.size + 2

/-- The bytes that a consumer still writes count twice, as the reader has to take them. -/
@[simp]
def consumerDue : Consumer → Nat
  | .receiving => 1
  | .writing chunk place => 2 * (chunk.size - place) + 2
  | .failed _ => 2
  | .leaving _ => 1
  | .ended _ => 0

def copyDue (copy : TwoStage ByteStream Duplex) : Nat :=
  producerDue copy.source copy.producer + channelDue copy.channel + consumerDue copy.consumer +
    copy.sink.buffer.size

/-- How many steps are due at most before all are done. -/
def due (piping : Piping) : Nat :=
  copyDue piping.copy + if piping.ended || piping.copy.sink.hungUp then 0 else 1

theorem copyDue_lt_of_step (step : TwoStage.Step size copy next) : copyDue next < copyDue copy := by
  cases step with
  | halt going =>
    cases place : copy.producer with
    | ended fault => exact absurd place (going fault)
    | _ =>
      simp only [copyDue, place, producerDue]
      omega
  | @read chunk source place _ got some_bytes =>
    have nonempty := isEmpty_eq_false_iff.mp some_bytes
    have fewer := congrArg ByteArray.size (ByteStream.readable_of_read got some_bytes)
    rw [ByteArray.size_append] at fewer
    simp only [copyDue, place, producerDue]
    omega
  | readEnd place => simp [copyDue, place]
  | readFault place => simp [copyDue, place]
  | handOver place _ _ room =>
    simp only [copyDue, place, room, producerDue, channelDue]
    omega
  | turnedAway place =>
    simp only [copyDue, place, producerDue]
    omega
  | receive place waiting =>
    simp only [copyDue, place, waiting, channelDue, consumerDue]
    omega
  | write place inside wrote =>
    obtain ⟨-, counted, rfl⟩ := Duplex.write_ok wrote
    rw [Duplex.room] at counted
    simp only [copyDue, place, consumerDue, ByteArray.size_append, ByteArray.size_extract]
    omega
  | writeNothing place inside wrote =>
    obtain ⟨-, -, rfl⟩ := Duplex.write_ok wrote
    simp only [copyDue, place, consumerDue, ByteArray.size_append, ByteArray.size_extract]
    omega
  | writeFault place inside wrote =>
    obtain ⟨-, rfl⟩ := Duplex.write_error wrote
    simp only [copyDue, place, consumerDue]
    omega
  | wroteAll place =>
    simp only [copyDue, place, consumerDue]
    omega
  | cancel place => simp [copyDue, place]
  | leave place =>
    simp only [copyDue, place, channelDue, consumerDue]
    omega
  | flush place _ _ flushed =>
    cases flushed
    simp [copyDue, place]
  | flushFault _ _ _ flushed => cases flushed

theorem due_of_reading (reading : piping.Reading) : piping.due = copyDue piping.copy + 1 := by
  rw [due, reading.1, reading.2]
  rfl

theorem due_lt_of_step (step : Step size kept piping after) : after.due < piping.due := by
  cases step with
  | copy step =>
    rw [due, due, (sink_of_step step).1]
    exact Nat.add_lt_add_right (copyDue_lt_of_step step) _
  | receive reading some_bytes _ there =>
    rw [due_of_reading reading]
    refine Nat.lt_of_le_of_lt (Nat.le_of_eq (due_of_reading ⟨reading.1, reading.2⟩)) ?_
    simp only [copyDue, ByteArray.size_extract]
    omega
  | receiveEnd reading =>
    rw [due_of_reading reading]
    exact Nat.lt_succ_self _
  | hangUp reading =>
    rw [due_of_reading reading, due, Bool.or_true, if_pos rfl]
    exact Nat.lt_succ_self _

theorem due_start (requested : Nat) (source : ByteStream) :
    (start requested source).due = 6 * source.yielded.size + 3 := by
  rw [← ByteStream.readable_withoutEmpty]
  rfl

/-! ## Every order of steps -/

theorem Reaches.sound_due {steps : Nat}
    (reached : Reaches (effectiveChunkSize requested) kept (start requested source) steps piping) :
    piping.Sound source.yielded kept ∧ steps + piping.due ≤ 6 * source.yielded.size + 3 := by
  induction reached with
  | refl =>
    refine ⟨.start requested source kept, Nat.le_of_eq ?_⟩
    rw [due_start, Nat.zero_add]
  | tail _ step ih =>
    obtain ⟨sound, bounded⟩ := ih
    have less := due_lt_of_step step
    exact ⟨sound.step (effectiveChunkSize_pos requested) step, by omega⟩

theorem Reaches.head {steps : Nat} {finished : Piping} (step : Step size kept piping after)
    (reached : Reaches size kept after steps finished) :
    Reaches size kept piping (steps + 1) finished := by
  induction reached with
  | refl => exact .tail .refl step
  | tail _ last ih => exact .tail ih last

/-- From wherever a pipe has come to, it comes to an end. -/
theorem Sound.exists_finished (positive : 0 < size) (sound : piping.Sound total kept) :
    ∃ more finished, Reaches size kept piping more finished ∧ finished.Finished := by
  induction measure : piping.due using Nat.strongRecOn generalizing piping with
  | ind measure ih =>
    by_cases finished : piping.Finished
    · exact ⟨0, piping, .refl, finished⟩
    · obtain ⟨after, step⟩ := sound.exists_step positive finished
      obtain ⟨more, last, reached, done⟩ :=
        ih after.due (measure ▸ due_lt_of_step step) (sound.step positive step) rfl
      exact ⟨more + 1, last, reached.head step, done⟩

/-- Whoever has its turn when: all are done after a number of steps that the bytes of the source
bound, and the reader has then got these bytes to the end, without a fault, or the first of them
that it keeps.  So a pipe that is opened and read from yields them, as long as there is room for its
chunks and the bytes can be counted.  How the source is cut and how large the chunks are makes no
difference, and chunks that are too large for any memory are a trap. -/
theorem delivers_yielded (requested : Nat) (source : ByteStream) (kept : Option Nat)
    (few : source.yielded.size ≤ Text.max64) :
    (effectiveChunkSize requested ≤ Text.maxSigned64 →
      openPipe requested source kept = .ok (keep kept source.yielded) ∧
      ∀ otherRequested other, effectiveChunkSize otherRequested ≤ Text.maxSigned64 →
        ByteStream.yielded other = source.yielded →
        openPipe otherRequested other kept = openPipe requested source kept) ∧
    (Text.maxSigned64 < effectiveChunkSize requested →
      openPipe requested source kept = .error .capacityOverflow) ∧
    ∀ steps piping,
      Reaches (effectiveChunkSize requested) kept (start requested source) steps piping →
      steps ≤ 6 * source.yielded.size + 3 ∧
      (piping.Finished ↔ ¬ ∃ next, Step (effectiveChunkSize requested) kept piping next) ∧
      (∃ more finished, Reaches (effectiveChunkSize requested) kept piping more finished ∧
        finished.Finished) ∧
      ∃ received, (ByteStream.ofChunks piping.delivered).collect = .ok received ∧
        Begins received source.yielded ∧
        (piping.ended = true → received = source.yielded) ∧
        (piping.Finished →
          keep kept received = keep kept source.yielded ∧
          (kept = none → piping.ended = true)) := by
  have positive := effectiveChunkSize_pos requested
  refine ⟨?_, fun beyond => openPipe_of_lt beyond source kept, ?_⟩
  · intro fits
    refine ⟨openPipe_of_le fits few kept, ?_⟩
    intro otherRequested other other_fits same
    rw [openPipe_of_le fits few, openPipe_of_le other_fits (same ▸ few), same]
  · intro steps piping reached
    obtain ⟨sound, bounded⟩ := reached.sound_due
    refine ⟨by omega, ?_, sound.exists_finished positive, piping.received,
      ByteStream.collect_ofChunks _, sound.begins, fun ended => (sound.ended ended).1, ?_⟩
    · constructor
      · rintro finished ⟨next, step⟩
        exact not_finished_of_step step finished
      · intro stuck
        exact Classical.byContradiction fun unfinished =>
          stuck (sound.exists_step positive unfinished)
    · intro finished
      refine ⟨sound.keep_received finished.2, ?_⟩
      rintro rfl
      exact sound.ended_of_none finished.2

/-- A source that breaks after an empty piece and one of two bytes. -/
def breaking : ByteStream :=
  [.data ByteArray.empty, .data ⟨#[1, 2]⟩, .fault hungUp, .data ⟨#[3]⟩]

/-- A reader that stays gets both bytes, and one that hangs up after the first has got that one. -/
theorem delivers_yielded_breaking :
    (∃ piping, Reaches 2 none (start 2 breaking) 9 piping ∧ piping.Finished ∧
      (ByteStream.ofChunks piping.delivered).collect = .ok ⟨#[1, 2]⟩ ∧
      openPipe 2 breaking none = .ok ⟨#[1, 2]⟩) ∧
    ∃ piping, Reaches 2 (some 1) (start 2 breaking) 9 piping ∧ piping.Finished ∧
      (∃ received, (ByteStream.ofChunks piping.delivered).collect = .ok received ∧
        received.extract 0 1 = ⟨#[1]⟩) ∧
      openPipe 2 breaking (some 1) = .ok ⟨#[1]⟩ := by
  have opened (kept : Option Nat) : Reaches 2 kept (start 2 breaking) 0
      { copy :=
          { source := [.data ⟨#[1, 2]⟩, .fault hungUp, .data ⟨#[3]⟩]
            sink := { capacity := 2 } } } := .refl
  have handed (kept : Option Nat) : Reaches 2 kept (start 2 breaking) 2
      { copy :=
          { source := [.fault hungUp, .data ⟨#[3]⟩]
            sink := { capacity := 2 }
            channel := some ⟨#[1, 2]⟩
            chunksRead := 1 } } :=
    ((opened kept).tail (.copy (.read rfl rfl rfl rfl) fun _ => rfl)).tail
      (.copy (.handOver rfl rfl nofun rfl) fun _ => rfl)
  have written (kept : Option Nat) : Reaches 2 kept (start 2 breaking) 4
      { copy :=
          { source := [.fault hungUp, .data ⟨#[3]⟩]
            sink := { capacity := 2, buffer := ⟨#[1, 2]⟩ }
            consumer := .writing ⟨#[1, 2]⟩ (0 + (1 + 1))
            chunksRead := 1 } } :=
    ((handed kept).tail (.copy (.receive rfl rfl) nofun)).tail
      (.copy (.write rfl Nat.two_pos rfl) nofun)
  have drained (kept : Option Nat) : Reaches 2 kept (start 2 breaking) 6
      { copy :=
          { source := [.data ⟨#[3]⟩]
            sink := { capacity := 2, buffer := ⟨#[1, 2]⟩ }
            producer := .ended (some hungUp)
            written := 2
            chunksRead := 1
            chunksWritten := 1 } } :=
    ((written kept).tail (.copy (.wroteAll rfl (Nat.le_refl 2)) nofun)).tail
      (.copy (.readFault rfl rfl rfl) fun _ => rfl)
  have copied (kept : Option Nat) := (drained kept).tail (.copy (.flush rfl rfl rfl rfl) nofun)
  have stays := ((copied none).tail
    (.receive ⟨rfl, rfl⟩ Nat.two_pos (Nat.le_refl 2) (Nat.le_refl 2))).tail
    (.receiveEnd ⟨rfl, rfl⟩ rfl rfl)
  have hangs := ((copied (some 1)).tail
    (.receive ⟨rfl, rfl⟩ Nat.one_pos (Nat.le_succ 1) (Nat.le_succ 1))).tail
    (.hangUp ⟨rfl, rfl⟩ rfl (Nat.le_refl 1))
  have two : breaking.yielded = ⟨#[1, 2]⟩ := rfl
  obtain ⟨roomy, -, whole⟩ := delivers_yielded 2 breaking none (by decide)
  obtain ⟨roomy_part, -, first⟩ := delivers_yielded 2 breaking (some 1) (by decide)
  obtain ⟨-, -, -, both, collected, -, to_end, -⟩ := whole 9 _ stays
  obtain ⟨-, -, -, part, collected_part, -, -, keeps⟩ := first 9 _ hangs
  refine ⟨⟨_, stays, ⟨rfl, nofun⟩, ?_, (roomy (by decide)).1⟩, _, hangs, ⟨rfl, nofun⟩,
    ⟨part, collected_part, (keeps ⟨rfl, nofun⟩).1⟩, (roomy_part (by decide)).1⟩
  rw [collected, to_end rfl, two]

/-- There is no room for chunks of so many bytes, although the source yields all of its five. -/
theorem pipe_traps_beyond_capacity :
    openPipe 0x8000_0000_0000_0000 fiveBytes none = .error .capacityOverflow ∧
    fiveBytes.yielded = ⟨#[49, 50, 51, 52, 53]⟩ :=
  ⟨rfl, rfl⟩

end Piping

end Backbeat
