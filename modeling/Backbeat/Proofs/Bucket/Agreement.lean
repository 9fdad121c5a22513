import Backbeat.Proofs.Bucket.Service
import Backbeat.Proofs.Bucket.Standard
import Backbeat.Proofs.Media.Delivery
import Backbeat.Proofs.Media.Intake
import Backbeat.Rehearsal.Bucket
import Backbeat.Rehearsal.Visits

/-!
# The two object stores

A store in memory and one in a bucket that begin empty cannot be told apart by what they are visited
for, as long as nothing exceeds the limits of the service: puts report the same sizes, and what is
opened is the same or refused in the same way.  After each visit the bucket has the objects that the
store in memory has, and this carries the induction.
-/

namespace Backbeat

open Bucket (Host)
open Rehearsal

namespace ByteRange

/-- The ranges that callers can come by. -/
inductive IsMade : ByteRange → Prop where
  | closed {start stop : Nat} {range : ByteRange} (made : closed start stop = .ok range) :
    IsMade range
  | fromStart (start : Nat) : IsMade (fromStart start)
  | ofHeader {header : Option String} {range : ByteRange}
    (parsed : ofHeader? header = .ok (some range)) : IsMade range

theorem IsMade.ordered {range : ByteRange} (made : range.IsMade) : range.Ordered := by
  cases made with
  | closed made => exact ordered_of_closed made
  | fromStart start => nofun
  | ofHeader parsed => exact ordered_of_ofHeader? parsed

/-- Within an object that it starts in, a range resolves to a span of that object. -/
theorem IsMade.resolves {range : ByteRange} (made : range.IsMade) {size : Nat}
    (starts : range.start < size) :
    ∃ span, range.resolve size = .ok span ∧ span.start ≤ span.stop ∧ span.stop < size :=
  ⟨_, resolve_of_start_lt starts, made.ordered.start_le_lastIn starts, lastIn_lt starts⟩

end ByteRange

/-- An object that both stores can keep and tell of: its type is a plain one, and its size is a
signed number of sixty-four bits. -/
def StoredObject.IsPlain (object : StoredObject) : Prop :=
  IsPlainType object.contentType ∧ object.data.size ≤ Text.maxSigned64

namespace Rehearsal.Visit

/-- A visit for plain keys, objects and ranges, within the limits of a service that gets bodies in
parts of a size. -/
def IsPlain (limits : ServiceLimits) (partSize : Nat) : Visit → Prop
  | .put key contentType chunks =>
    limits.TakesKey key ∧ limits.TakesType contentType ∧
      limits.TakesBody partSize (.ofChunks chunks)
  | .opening key range => limits.TakesKey key ∧ ∀ asked, range = some asked → asked.IsMade

/-- What a plain visit may come to: a put reports its size, and what is opened is delivered, or
missing, or too short for the range. -/
def MayEnd : Visit → Outcome → Prop
  | .put _ _ chunks, .put size => size = .ok (joined chunks).size
  | .opening key _, .opening delivery =>
    (∃ delivered bytes, delivery = .ok delivered ∧ delivered.bytes = .ok bytes) ∨
      delivery = .error (.notFound key) ∨ ∃ fault, delivery = .error (.invalidRange fault)
  | _, _ => False

end Rehearsal.Visit

/-- A bucket in good order has exactly the objects of a store in memory, and they are plain. -/
structure Matches {σ : Type} (view : BucketView σ) (memory : MemoryStore) (service : σ) :
    Prop where
  sound : view.Sound service
  objects : view.object? service = memory.object?
  plain : ∀ key object, memory.object? key = some object → object.IsPlain

namespace Matches

variable {σ : Type} {view : BucketView σ} {memory : MemoryStore} {service after : σ}

theorem of_keeps (held : Matches view memory service) (keeps : view.Keeps service after) :
    Matches view memory after :=
  ⟨keeps.1, keeps.2.trans held.objects, held.plain⟩

/-- When both have taken an object, the bucket has again the objects of the store in memory. -/
theorem of_puts (held : Matches view memory service) {key : String} {object : StoredObject}
    (plain : object.IsPlain) (puts : view.Puts key object service after) :
    Matches view (({ memory with puts := memory.puts + 1 }).insert key object) after where
  sound := puts.1
  objects := by
    rw [puts.2, held.objects]
    funext other
    rw [MemoryStore.object?_insert, Function.update_apply]
    simp only [eq_comm]
    rfl
  plain other found present := by
    rw [MemoryStore.object?_insert] at present
    split at present
    · cases present
      exact plain
    · exact held.plain other found present

end Matches

/-! ## What a visit comes to -/

section Making

variable {σ : Type} [ObjectStore σ] {store after : σ} {key contentType : String}
  {range : Option ByteRange}

theorem run_put_visit {chunks : List ByteArray} {receipt : PutReceipt}
    (ran : (ObjectStore.put key contentType (.ofChunks chunks)).run store =
      .ok (.ok receipt, after)) :
    (Visit.put key contentType chunks).make.run store =
      .ok (.ok (.put (.ok receipt.size)), after) :=
  Action.run_bind_of_ok (Action.run_attempt ran)

theorem run_opening_of_ok {media : OpenedMedia} {bytes : ByteArray}
    (ran : (MediaService.openMedia key range : Action σ _ _).run store = .ok (.ok media, after))
    (collected : media.stream.collect = .ok bytes) :
    (Visit.opening key range).make.run store =
      .ok (.ok (.opening (.ok ⟨media.contentType, media.total, media.span, .ok bytes⟩)),
        after) := by
  rw [← collected]
  exact Action.run_bind_of_ok (Action.run_attempt ran)

theorem run_opening_of_error {error : MediaError}
    (ran : (MediaService.openMedia key range : Action σ _ _).run store =
      .ok (.error error, after)) :
    (Visit.opening key range).make.run store = .ok (.ok (.opening (.error error)), after) :=
  Action.run_bind_of_ok (Action.run_attempt ran)

theorem run_openMedia_of_error {error : MediaError}
    (ran : (ObjectStore.stat key).run store = .ok (.error error, after)) :
    (MediaService.openMedia key range : Action σ _ _).run store = .ok (.error error, after) :=
  Action.run_bind_of_error ran

end Making

theorem ByteStream.collect_data (data : ByteArray) : collect [.data data] = .ok data := by
  rw [collect, collectInto, ByteArray.empty_append, collectInto]

/-! ## One visit to both stores -/

section Visiting

variable {σ : Type} [Host σ] {view : BucketView σ} {memory : MemoryStore} {store : BucketStore σ}
  {key contentType : String}

/-- A visit comes to the same in both stores, and the bucket then has the objects of the store in
memory. -/
structure Together (view : BucketView σ) (visit : Visit) (memory : MemoryStore)
    (store : BucketStore σ) (outcome : Outcome) (remembered : MemoryStore) (after : σ) : Prop where
  in_memory : visit.make.run memory = .ok (.ok outcome, remembered)
  in_bucket : visit.make.run store = .ok (.ok outcome, { store with service := after })
  may_end : visit.MayEnd outcome
  held : Matches view remembered after

variable {limits : ServiceLimits} (law : view.Lawful limits store.endpoint store.bucket)
  (held : Matches view memory store.service) (plain : limits.TakesKey key)

include law held plain

theorem together_put (fits : store.partSize ≤ Text.maxSigned64) {chunks : List ByteArray}
    (typed : limits.TakesType contentType)
    (takes : limits.TakesBody store.partSize (.ofChunks chunks)) :
    ∃ outcome remembered after,
      Together view (.put key contentType chunks) memory store outcome remembered after := by
  have small : (joined chunks).size ≤ Text.maxSigned64 := by
    rw [← ByteStream.yielded_ofChunks]
    exact Nat.le_trans takes.object limits.objectBytes_le
  have ran := MemoryStore.run_put memory key contentType (.ofChunks chunks)
  rw [MemoryStore.put_of_collected (ByteStream.collect_ofChunks chunks)] at ran
  obtain ⟨etag, after, stored, puts⟩ := law.run_put held.sound fits plain typed takes
  exact ⟨.put (.ok (joined chunks).size), _, after, run_put_visit ran, run_put_visit stored, rfl,
    held.of_puts ⟨typed.1, small⟩ puts⟩

theorem together_opening_missing (missing : memory.object? key = none)
    (range : Option ByteRange) :
    ∃ outcome remembered after,
      Together view (.opening key range) memory store outcome remembered after := by
  have absent : view.object? store.service key = none := by rw [held.objects, missing]
  obtain ⟨after, refused, told⟩ := law.run_stat_missing store held.sound plain absent
  have forgotten := MemoryStore.run_stat_missing missing
  exact ⟨_, _, after, run_opening_of_error (run_openMedia_of_error forgotten),
    run_opening_of_error (run_openMedia_of_error refused), .inr (.inl rfl), held.of_keeps told⟩

section Present

variable {object : StoredObject} (present : memory.object? key = some object)

include present

theorem together_opening_whole :
    ∃ outcome remembered after,
      Together view (.opening key none) memory store outcome remembered after := by
  obtain ⟨typed, small⟩ := held.plain key object present
  have found : view.object? store.service key = some object := by rw [held.objects, present]
  obtain ⟨middle, sized, told⟩ := law.run_stat_found store held.sound plain found small typed
  have between := held.of_keeps told
  have still : view.object? middle key = some object := by rw [between.objects, present]
  obtain ⟨after, fetched, given⟩ :=
    law.run_getRange_none { store with service := middle } between.sound plain still
  have remembered := MediaService.run_openMedia_none (MemoryStore.run_stat present)
    (MemoryStore.run_getRange_none present)
  have stored := MediaService.run_openMedia_none sized fetched
  exact ⟨.opening (.ok ⟨object.contentType, object.data.size, none, .ok object.data⟩), _, after,
    run_opening_of_ok remembered (MemoryStore.collect_streamOf _),
    run_opening_of_ok stored (ByteStream.collect_data _), .inl ⟨_, _, rfl, rfl⟩,
    between.of_keeps given⟩

theorem together_opening_range {range : ByteRange} (made : range.IsMade) :
    ∃ outcome remembered after,
      Together view (.opening key (some range)) memory store outcome remembered after := by
  obtain ⟨typed, small⟩ := held.plain key object present
  have found : view.object? store.service key = some object := by rw [held.objects, present]
  obtain ⟨middle, sized, told⟩ := law.run_stat_found store held.sound plain found small typed
  have between := held.of_keeps told
  rcases Nat.lt_or_ge range.start object.data.size with starts | beyond
  · have still : view.object? middle key = some object := by rw [between.objects, present]
    obtain ⟨span, resolved, ordered, inside⟩ := made.resolves starts
    obtain ⟨after, fetched, given⟩ :=
      law.run_getRange_some { store with service := middle } between.sound plain still ordered
        inside
    have remembered := MediaService.run_openMedia_some (MemoryStore.run_stat present) resolved
      (MemoryStore.run_getRange_some present inside ordered)
    have stored := MediaService.run_openMedia_some sized resolved fetched
    exact ⟨.opening (.ok ⟨object.contentType, object.data.size, some span,
        .ok (object.data.extract span.start (span.stop + 1))⟩), _, after,
      run_opening_of_ok remembered (MemoryStore.collect_streamOf _),
      run_opening_of_ok stored (ByteStream.collect_data _), .inl ⟨_, _, rfl, rfl⟩,
      between.of_keeps given⟩
  · have refused := ByteRange.resolve_of_size_le beyond
    have remembered := MediaService.run_openMedia_beyond (MemoryStore.run_stat present) refused
    have stored := MediaService.run_openMedia_beyond sized refused
    exact ⟨_, _, middle, run_opening_of_error remembered, run_opening_of_error stored,
      .inr (.inr ⟨_, rfl⟩), between⟩

end Present

omit plain in
/-- Any plain visit comes to the same in both stores. -/
theorem together (fits : store.partSize ≤ Text.maxSigned64) {visit : Visit}
    (ordinary : visit.IsPlain limits store.partSize) :
    ∃ outcome remembered after, Together view visit memory store outcome remembered after := by
  cases visit with
  | put key contentType chunks =>
    exact together_put law held ordinary.1 fits ordinary.2.1 ordinary.2.2
  | opening key range =>
    cases stored : memory.object? key with
    | none => exact together_opening_missing law held ordinary.1 stored range
    | some object =>
      cases range with
      | none => exact together_opening_whole law held ordinary.1 stored
      | some range => exact together_opening_range law held ordinary.1 stored (ordinary.2 range rfl)

end Visiting

/-! ## Runs of visits -/

theorem Action.run_each_cons {σ ε α β : Type} {step : α → Action σ ε β} {value : α}
    {later : List α} {result : β} {results : List β} {first middle last : σ}
    (ran : (step value).run first = .ok (.ok result, middle))
    (others : (each step later).run middle = .ok (.ok results, last)) :
    (each step (value :: later)).run first = .ok (.ok (result :: results), last) :=
  (run_bind_of_ok ran).trans (run_bind_of_ok others)

/-- Visits that go on from matching stores come to the same one after the other. -/
theorem visits_agree_of_matches {σ : Type} [Host σ] {view : BucketView σ} {limits : ServiceLimits}
    {memory : MemoryStore} {store : BucketStore σ}
    (law : view.Lawful limits store.endpoint store.bucket)
    (held : Matches view memory store.service) (fits : store.partSize ≤ Text.maxSigned64)
    {visits : List Visit} (ordinary : ∀ visit ∈ visits, visit.IsPlain limits store.partSize) :
    ∃ outcomes remembered after,
      (Action.each Visit.make visits).run memory = .ok (.ok outcomes, remembered) ∧
      (Action.each Visit.make visits).run store =
        .ok (.ok outcomes, { store with service := after }) ∧
      List.Forall₂ Visit.MayEnd visits outcomes := by
  induction visits generalizing memory store with
  | nil => exact ⟨[], memory, store.service, rfl, rfl, .nil⟩
  | cons visit later ih =>
    obtain ⟨outcome, remembered, after, first⟩ :=
      together law held fits (ordinary visit List.mem_cons_self)
    obtain ⟨outcomes, last, left, in_memory, in_bucket, may_end⟩ :=
      @ih remembered { store with service := after } law first.held fits fun visit behind =>
        ordinary visit (List.mem_cons_of_mem _ behind)
    exact ⟨outcome :: outcomes, last, left, Action.run_each_cons first.in_memory in_memory,
      Action.run_each_cons first.in_bucket in_bucket, .cons first.may_end may_end⟩

/-- A store in memory and one in an empty bucket that S3 keeps in order agree: plain visits within
the limits of the service come to the same in both, one after the other, if there can be room for a
part. -/
theorem memory_and_bucket_agree {σ : Type} [Host σ] (view : BucketView σ) (limits : ServiceLimits)
    (store : BucketStore σ) (law : view.Lawful limits store.endpoint store.bucket)
    (sound : view.Sound store.service) (empty : ∀ key, view.object? store.service key = none)
    (fits : store.partSize ≤ Text.maxSigned64) (visits : List Visit)
    (plain : ∀ visit ∈ visits, visit.IsPlain limits store.partSize) :
    ∃ outcomes remembered after,
      (Action.each Visit.make visits).run MemoryStore.empty = .ok (.ok outcomes, remembered) ∧
      (Action.each Visit.make visits).run store = .ok (.ok outcomes, after) ∧
      List.Forall₂ Visit.MayEnd visits outcomes := by
  have held : Matches view MemoryStore.empty store.service := by
    refine ⟨sound, funext empty, ?_⟩
    nofun
  obtain ⟨outcomes, remembered, after, in_memory, in_bucket, may_end⟩ :=
    visits_agree_of_matches law held fits plain
  exact ⟨outcomes, remembered, _, in_memory, in_bucket, may_end⟩

namespace Rehearsal.Sample

theorem joined_bulk_tail : joined [bulk, tail] = bulk ++ tail := by
  rw [joined_cons, joined_singleton]

theorem size_bulk_tail : (bulk ++ tail).size = leastPartSize + 2 := by
  rw [ByteArray.size_append, size_bulk]
  rfl

/-- The bytes behind those of the first part are the tail. -/
theorem extract_bulk_tail :
    (bulk ++ tail).extract leastPartSize (leastPartSize + 1 + 1) = tail := by
  refine ByteArray.extract_append_eq_right size_bulk.symm ?_
  rw [size_bulk]
  rfl

theorem isPlain_visits : ∀ visit ∈ visits, visit.IsPlain ServiceLimits.s3 leastPartSize := by
  have type_y : ServiceLimits.s3.TakesType "x/y" :=
    ⟨⟨by decide, by decide, by decide⟩, by decide⟩
  have type_z : ServiceLimits.s3.TakesType "x/z" :=
    ⟨⟨by decide, by decide, by decide⟩, by decide⟩
  have key_k : ServiceLimits.s3.TakesKey "k" := ⟨⟨by decide, by decide⟩, by decide⟩
  have key_m : ServiceLimits.s3.TakesKey "m" := ⟨⟨by decide, by decide⟩, by decide⟩
  have small : ServiceLimits.s3.TakesBody leastPartSize
      (.ofChunks [[1].toByteArray, [2].toByteArray]) := by
    have cut : (ByteStream.ofChunks [[1].toByteArray, [2].toByteArray]).parts leastPartSize =
        ⟨[], [1, 2].toByteArray, none⟩ := rfl
    refine ⟨by decide, ?_, ?_⟩
    · rw [cut]
      decide
    · rw [cut]
      decide
  have large : ServiceLimits.s3.TakesBody leastPartSize (.ofChunks [bulk, tail]) := by
    refine ⟨?_, ?_, ?_⟩
    · rw [ByteStream.yielded_ofChunks, joined_bulk_tail, size_bulk_tail]
      decide
    · rw [parts_bulk_tail, pieces_bulk_tail]
      simp only [List.forall_mem_cons, size_bulk]
      decide
    · rw [parts_bulk_tail, pieces_bulk_tail]
      decide
  simp only [visits, List.forall_mem_cons]
  refine ⟨⟨key_k, type_y, small⟩, ⟨key_k, type_z, large⟩, ⟨key_k, ?_⟩, ⟨key_m, nofun⟩, nofun⟩
  intro asked same
  cases same
  exact .fromStart leastPartSize

end Rehearsal.Sample

/-- What is put in memory is kept in chunks that are put together. -/
theorem MemoryStore.run_put_ofChunks (store : MemoryStore) (key contentType : String)
    (chunks : List ByteArray) :
    ∃ after : MemoryStore,
      (Visit.put key contentType chunks).make.run store =
        .ok (.ok (.put (.ok (joined chunks).size)), after) ∧
      ∀ other, after.object? other =
        if key = other then some ⟨contentType, joined chunks⟩ else store.object? other := by
  have ran := run_put store key contentType (.ofChunks chunks)
  rw [put_of_collected (ByteStream.collect_ofChunks chunks)] at ran
  exact ⟨_, run_put_visit ran, fun other => object?_insert _ key other _⟩

/-- What the visits to a store in memory come to. -/
theorem Rehearsal.Sample.run_visits :
    ∃ remembered, (Action.each Visit.make visits).run MemoryStore.empty =
      .ok (.ok outcomes, remembered) := by
  obtain ⟨one, first, had⟩ :=
    MemoryStore.run_put_ofChunks .empty "k" "x/y" [[1].toByteArray, [2].toByteArray]
  obtain ⟨two, second, held⟩ := MemoryStore.run_put_ofChunks one "k" "x/z" [bulk, tail]
  rw [joined_bulk_tail, size_bulk_tail] at second
  simp only [joined_bulk_tail] at held
  have present : two.object? "k" = some ⟨"x/z", bulk ++ tail⟩ := (held "k").trans (if_pos rfl)
  have missing : two.object? "m" = none :=
    (held "m").trans ((if_neg (by decide)).trans ((had "m").trans (if_neg (by decide))))
  have sized := MemoryStore.run_stat present
  have fetched := @MemoryStore.run_getRange_some two "k" _ present
    ⟨leastPartSize, leastPartSize + 1, leastPartSize + 2⟩
  simp only [size_bulk_tail, extract_bulk_tail] at sized fetched
  have resolved : (ByteRange.fromStart leastPartSize).resolve (leastPartSize + 2) =
      .ok ⟨leastPartSize, leastPartSize + 1, leastPartSize + 2⟩ := rfl
  have opened := MediaService.run_openMedia_some sized resolved
    (fetched (by decide) (by decide))
  have third := run_opening_of_ok opened (MemoryStore.collect_streamOf tail)
  have refused : (MediaService.openMedia "m" none : Action MemoryStore _ _).run two = _ :=
    run_openMedia_of_error (MemoryStore.run_stat_missing missing)
  have fourth := run_opening_of_error refused
  exact ⟨two, Action.run_each_cons first (Action.run_each_cons second
    (Action.run_each_cons third (Action.run_each_cons fourth rfl)))⟩

theorem memory_and_bucket_agree_sample :
    ∃ remembered after,
      (Action.each Visit.make Sample.visits).run MemoryStore.empty =
        .ok (.ok Sample.outcomes, remembered) ∧
      (Action.each Visit.make Sample.visits).run (Sample.bucketStore []).unlisted =
        .ok (.ok Sample.outcomes, after) := by
  have law := Bucket.Service.lawful .s3 (Sample.bucketStore []).endpoint "beats"
  obtain ⟨outcomes, remembered, after, in_memory, in_bucket, -⟩ :=
    memory_and_bucket_agree _ .s3 (Sample.bucketStore []).unlisted law ⟨rfl, rfl, nofun⟩
      (fun _ => rfl) (show leastPartSize ≤ _ by decide) Sample.visits Sample.isPlain_visits
  obtain ⟨_, known⟩ := Sample.run_visits
  cases in_memory.symm.trans known
  exact ⟨_, after, known, in_bucket⟩

/-- A content type that begins with a blank arrives in a bucket without it, and is told so. -/
theorem memory_and_bucket_differ_on_blank :
    Text.isHeaderText " x/y" = true ∧
    ∃ left right remembered after,
      (Action.each Visit.make [.put "k" " x/y" [Sample.tail], .opening "k" none]).run
          MemoryStore.empty =
        .ok (.ok [.put (.ok 2), .opening (.ok left)], remembered) ∧
      (Action.each Visit.make [.put "k" " x/y" [Sample.tail], .opening "k" none]).run
          (Sample.bucketStore []).unlisted =
        .ok (.ok [.put (.ok 2), .opening (.ok right)], after) ∧
      left.contentType ≠ right.contentType := by
  refine ⟨by decide, ⟨" x/y", 2, none, .ok Sample.tail⟩, ⟨"x/y", 2, none, .ok Sample.tail⟩, _, _,
    rfl, rfl, by decide⟩

end Backbeat
