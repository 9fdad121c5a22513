import Backbeat.Media.Service.Steps
import Backbeat.Proofs.Media.Delivery
import Backbeat.Proofs.Media.Intake
import Backbeat.Rehearsal.Sample

/-!
# Objects that are replaced while they are opened

Between the two steps of opening an object, others may replace it by a longer or a shorter one, but
they cannot take it away.  A range is resolved against the old size.  The span either lies in the
new object, and then the bytes of it are as many as announced, or it is refused.  Only without a
range does the announcement rest on the old object and the stream on the new one.
-/

namespace Backbeat

open Text

namespace ByteRange

/-- In an object that it starts in, a range has a byte just when it does not end before its
start. -/
theorem start_le_lastIn_iff {range : ByteRange} {size : Nat} (inside : range.start < size) :
    range.start ≤ range.lastIn size ↔ range.Ordered := by
  constructor
  · intro reached stop last
    rw [lastIn, last, Option.getD_some] at reached
    omega
  · intro ordered
    exact ordered.start_le_lastIn inside

end ByteRange

namespace Span

variable {span : Span} {size : Nat}

/-- A span that was cut out has a length unless it ends before it starts, and the length is that of
what was cut out. -/
theorem length_eq_ok_iff (inside : span.stop < size) (addressable : size ≤ max64) :
    span.length = .ok (span.stop + 1 - span.start) ↔ span.start ≤ span.stop := by
  constructor
  · intro computed
    refine Nat.le_of_not_lt fun reversed => ?_
    rw [length, if_pos reversed] at computed
    cases computed
  · intro ordered
    rw [length_of_le ordered inside addressable]
    congr 1
    omega

end Span

namespace MemoryStore

variable {store : MemoryStore} {key : String} {stored : StoredObject}

/-- The store after a body was offered to it. -/
def afterOffer (store : MemoryStore) (offer : Offer) : MemoryStore :=
  (store.put offer.key offer.contentType offer.body).2

def afterOffers (store : MemoryStore) (offers : List Offer) : MemoryStore :=
  offers.foldl afterOffer store

theorem run_make (offer : Offer) :
    (offer.make : Action MemoryStore MediaError Unit).run store =
      .ok (.ok (), store.afterOffer offer) :=
  Action.run_regardless (run_put store offer.key offer.contentType offer.body)

theorem run_makeAll (offers : List Offer) (store : MemoryStore) :
    (Offer.makeAll offers : Action MemoryStore MediaError Unit).run store =
      .ok (.ok (), store.afterOffers offers) := by
  induction offers generalizing store with
  | nil => rfl
  | cons offer later ih =>
    rw [Offer.makeAll, Action.run_bind_of_ok (run_make offer)]
    exact ih (store.afterOffer offer)

/-- An offer may replace an object, but it takes none away. -/
theorem object?_afterOffer (present : store.object? key = some stored) (offer : Offer) :
    ∃ kept, (store.afterOffer offer).object? key = some kept := by
  rw [afterOffer]
  cases collected : offer.body.collect with
  | error fault =>
    rw [put_of_broken collected]
    exact ⟨stored, present⟩
  | ok data =>
    rw [put_of_collected collected, object?_insert]
    by_cases same : offer.key = key
    · exact ⟨_, if_pos same⟩
    · exact ⟨stored, (if_neg same).trans present⟩

theorem object?_afterOffers (present : store.object? key = some stored) (offers : List Offer) :
    ∃ kept, (store.afterOffers offers).object? key = some kept := by
  induction offers generalizing store stored with
  | nil => exact ⟨stored, present⟩
  | cons offer later ih =>
    obtain ⟨kept, stays⟩ := object?_afterOffer present offer
    exact ih stays

theorem run_getRange_cut (present : store.object? key = some stored) (span : Span) :
    (ObjectStore.getRange key (some span) : Action MemoryStore MediaError _).run store =
      (cut stored.data span).map fun data => (data.map streamOf, store) := by
  show (store.getRange key (some span)).map _ = _
  unfold getRange
  rw [object_of_object? present]
  show ((cut stored.data span).map _).map _ = _
  cases cut stored.data span with
  | error trap => rfl
  | ok data => rfl

theorem cut_eq_ok {data bytes : ByteArray} {span : Span} (made : cut data span = .ok (.ok bytes)) :
    span.stop < data.size ∧ bytes.size = span.stop + 1 - span.start := by
  rw [cut] at made
  split at made
  · cases made
  · next inside =>
    split at made
    · cases made
    · cases made
      refine ⟨Nat.lt_of_not_le inside, ?_⟩
      rw [ByteArray.size_extract]
      omega

theorem cut_ne_trap {data : ByteArray} {span : Span} (ordered : span.start ≤ span.stop)
    (trap : Trap) : cut data span ≠ .error trap := by
  intro trapped
  rw [cut, if_neg (by omega : ¬span.stop + 1 < span.start)] at trapped
  split at trapped <;> cases trapped

end MemoryStore

namespace MediaService

variable {store after : MemoryStore} {key : String} {range : Option ByteRange} {old : StoredObject}
  {media : OpenedMedia}

theorem run_openAmid (present : store.object? key = some old) (offers : List Offer) :
    (openAmid offers key range : Action MemoryStore MediaError _).run store =
      (fetch key range ⟨old.data.size, old.contentType⟩).run (store.afterOffers offers) := by
  rw [openAmid, Action.run_bind_of_ok (MemoryStore.run_stat present),
    Action.run_bind_of_ok (MemoryStore.run_makeAll offers store)]

theorem run_openAmid_missing (missing : store.object? key = none) (offers : List Offer) :
    (openAmid offers key range : Action MemoryStore MediaError _).run store =
      .ok (.error (.notFound key), store) :=
  Action.run_bind_of_error (MemoryStore.run_stat_missing missing)

/-- What is opened of a range is what is cut out of the new object by the span in the old one. -/
theorem opened_of_run_fetch {head : ObjectHead} {new : StoredObject} {asked : ByteRange}
    (present : store.object? key = some new)
    (opened : (fetch key (some asked) head : Action MemoryStore MediaError _).run store =
      .ok (.ok media, after)) :
    asked.start < head.size ∧ after = store ∧
      ∃ bytes, MemoryStore.cut new.data ⟨asked.start, asked.lastIn head.size, head.size⟩ =
          .ok (.ok bytes) ∧
        media = ⟨MemoryStore.streamOf bytes, head.contentType, head.size,
          some ⟨asked.start, asked.lastIn head.size, head.size⟩⟩ := by
  by_cases inside : asked.start < head.size
  · rw [run_fetch_some (ByteRange.resolve_of_start_lt inside), Action.run_bind,
      MemoryStore.run_getRange_cut present] at opened
    cases made : MemoryStore.cut new.data ⟨asked.start, asked.lastIn head.size, head.size⟩ with
    | error trap =>
      rw [made] at opened
      cases opened
    | ok result =>
      rw [made] at opened
      cases result with
      | error refusal => cases opened
      | ok bytes =>
        cases opened
        exact ⟨inside, rfl, bytes, rfl, rfl⟩
  · rw [run_fetch_beyond (ByteRange.resolve_of_size_le (Nat.le_of_not_lt inside))] at opened
    cases opened

/-- Asking for a range that does not end before it starts never traps. -/
theorem run_fetch_ends {head : ObjectHead} {new : StoredObject}
    (present : store.object? key = some new)
    (ordered : ∀ asked, range = some asked → asked.Ordered) :
    ∃ result after, (fetch key range head : Action MemoryStore MediaError _).run store =
      .ok (result, after) := by
  cases range with
  | none => exact ⟨_, _, run_fetch_none (MemoryStore.run_getRange_none present)⟩
  | some asked =>
    by_cases inside : asked.start < head.size
    · rw [run_fetch_some (ByteRange.resolve_of_start_lt inside), Action.run_bind,
        MemoryStore.run_getRange_cut present]
      have reached := (ordered asked rfl).start_le_lastIn inside
      cases made : MemoryStore.cut new.data ⟨asked.start, asked.lastIn head.size, head.size⟩ with
      | error trap => exact absurd made (MemoryStore.cut_ne_trap reached trap)
      | ok result =>
        cases result with
        | error refusal => exact ⟨_, _, rfl⟩
        | ok bytes => exact ⟨_, _, rfl⟩
    · exact ⟨_, _, run_fetch_beyond (ByteRange.resolve_of_size_le (Nat.le_of_not_lt inside))⟩

/-- A whole object is streamed as it is, and announced with the size that it had. -/
theorem announced_of_run_fetch_none {head : ObjectHead} {new : StoredObject}
    (present : store.object? key = some new)
    (opened : (fetch key none head : Action MemoryStore MediaError _).run store =
      .ok (.ok media, after)) :
    after = store ∧ media.stream.collect = .ok new.data ∧ media.length = .ok head.size := by
  rw [run_fetch_none (MemoryStore.run_getRange_none present)] at opened
  cases opened
  exact ⟨rfl, MemoryStore.collect_streamOf new.data, rfl⟩

/-- A part of an object is streamed with as many bytes as are announced, unless the range ends
before it starts. -/
theorem announced_of_run_fetch_some {head : ObjectHead} {new : StoredObject} {asked : ByteRange}
    (present : store.object? key = some new) (addressable : head.size ≤ max64)
    (opened : (fetch key (some asked) head : Action MemoryStore MediaError _).run store =
      .ok (.ok media, after)) :
    after = store ∧ ∃ bytes, media.stream.collect = .ok bytes ∧
      (media.length = .ok bytes.size ↔ asked.Ordered) := by
  obtain ⟨inside, rfl, bytes, made, rfl⟩ := opened_of_run_fetch present opened
  obtain ⟨-, size⟩ := MemoryStore.cut_eq_ok made
  refine ⟨rfl, bytes, MemoryStore.collect_streamOf bytes, ?_⟩
  rw [size]
  exact (Span.length_eq_ok_iff (ByteRange.lastIn_lt inside) addressable).trans
    (ByteRange.start_le_lastIn_iff inside)

/-- Whoever puts whatever between the two steps, opening an object ends, if its range does not end
before it starts.  When it ends well, the stream yields as many bytes as are announced just when a
range was asked for, or the object has the size that it had. -/
theorem announced_exactly_iff (offers : List Offer) (key : String) (range : Option ByteRange)
    (store : MemoryStore)
    (addressable : ∀ object, store.object? key = some object → object.data.size ≤ max64) :
    ((∀ asked, range = some asked → asked.Ordered) →
      ∃ result after, (openAmid offers key range).run store = .ok (result, after)) ∧
    ∀ media after, (openAmid offers key range).run store = .ok (.ok media, after) →
      ∃ old new bytes, store.object? key = some old ∧ after.object? key = some new ∧
        media.stream.collect = .ok bytes ∧
        (media.length = .ok bytes.size ↔
          (range = none → new.data.size = old.data.size) ∧
            ∀ asked, range = some asked → asked.Ordered) := by
  cases present : store.object? key with
  | none =>
    have missing : (openAmid offers key range).run store = .ok (.error (.notFound key), store) :=
      run_openAmid_missing present offers
    refine ⟨fun _ => ⟨_, _, missing⟩, ?_⟩
    intro media after opened
    rw [missing] at opened
    cases opened
  | some old =>
    obtain ⟨new, kept⟩ := MemoryStore.object?_afterOffers present offers
    have fetched : (openAmid offers key range).run store =
        (fetch key range ⟨old.data.size, old.contentType⟩).run (store.afterOffers offers) :=
      run_openAmid present offers
    refine ⟨fun ordered => fetched ▸ run_fetch_ends kept ordered, ?_⟩
    intro media after opened
    rw [fetched] at opened
    cases range with
    | none =>
      obtain ⟨rfl, streamed, announced⟩ := announced_of_run_fetch_none kept opened
      refine ⟨old, new, new.data, rfl, kept, streamed, ?_⟩
      simp [announced, eq_comm]
    | some asked =>
      obtain ⟨rfl, bytes, streamed, announced⟩ :=
        announced_of_run_fetch_some kept (addressable old present) opened
      refine ⟨old, new, bytes, rfl, kept, streamed, ?_⟩
      simp [announced]

end MediaService

namespace Rehearsal.Sample

/-- Somebody puts a short recording in place of the audio. -/
def shorterAudio : Offer where
  key := "night.mp3"
  contentType := "audio/mpeg"
  body := [.data [60, 70, 80].toByteArray]

end Rehearsal.Sample

open Rehearsal in
/-- Two bytes are announced and two are streamed, although the object has become shorter. -/
theorem announced_exactly_of_replaced_part :
    ∃ media, (MediaService.openAmid [Sample.shorterAudio] "night.mp3" (some ⟨1, some 2⟩)).run
        Sample.app.store = .ok (.ok media, Sample.app.store.afterOffers [Sample.shorterAudio]) ∧
      ∃ bytes, media.stream.collect = .ok bytes ∧ media.length = .ok bytes.size := by
  have addressable : ∀ object, Sample.app.store.object? "night.mp3" = some object →
      object.data.size ≤ max64 := by
    intro object present
    cases present
    decide
  obtain ⟨-, exactly⟩ := MediaService.announced_exactly_iff [Sample.shorterAudio] "night.mp3"
    (some ⟨1, some 2⟩) Sample.app.store addressable
  refine ⟨_, rfl, ?_⟩
  obtain ⟨old, new, bytes, -, -, streamed, announced⟩ := exactly _ _ rfl
  refine ⟨bytes, streamed, announced.mpr ⟨nofun, ?_⟩⟩
  rintro asked ⟨⟩ stop ⟨⟩
  decide

open Rehearsal in
/-- Five bytes are announced and three are streamed, as the object has been replaced in between. -/
theorem announced_beyond_stream :
    ∃ media, (MediaService.openAmid [Sample.shorterAudio] "night.mp3" none).run Sample.app.store =
        .ok (.ok media, Sample.app.store.afterOffers [Sample.shorterAudio]) ∧
      media.length = .ok 5 ∧ media.stream.collect = .ok [60, 70, 80].toByteArray :=
  ⟨_, rfl, rfl, rfl⟩

end Backbeat
