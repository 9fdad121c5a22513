import Backbeat.Media.Service
import Backbeat.Media.Store.Memory
import Backbeat.Rehearsal.Sample

/-!
# Accepting uploads

An upload is allowed exactly when its time is not over, its URL is the one that the signer builds
for what it states, and its declared length is within the limit.  One that is not allowed is the
client's doing and leaves the store alone; one that is allowed is a single put.

What is kept is the body, whatever length was declared for it.  So the limit binds what is stored
as far as bodies keep to their declared lengths, and no further.
-/

namespace Backbeat

/-- A refusal that tells the client of its own mistake. -/
def MediaError.IsClientFault (error : MediaError) : Prop :=
  error.failureKind = .badRequest

namespace SizeLimits

theorem check_eq_ok_iff (limits : SizeLimits) (kind : MediaKind) (declared : Int) :
    limits.check kind declared = .ok () ↔ declared ≤ limits.of kind := by
  rw [check]
  split
  · next above =>
    constructor
    · nofun
    · intro within
      exact absurd above.2 (Int.not_lt.mpr within)
  · next within =>
    constructor
    · intro _
      omega
    · intro _
      rfl

theorem check_error {limits : SizeLimits} {kind : MediaKind} {declared : Int} {error : MediaError}
    (refused : limits.check kind declared = .error error) : error.IsClientFault := by
  rw [check] at refused
  split at refused <;> cases refused
  rfl

end SizeLimits

namespace Signer

theorem verify_eq_ok_iff (signer : Signer) (received : String) (upload : Upload) (now : Int) :
    signer.verify received upload now = .ok () ↔
      now < upload.expiry ∧
        received = (signer.build upload.name upload.kind upload.expiry).toString := by
  rw [verify]
  split
  · next late =>
    constructor
    · nofun
    · rintro ⟨in_time, -⟩
      exact absurd in_time (Int.not_lt.mpr late)
  · next in_time =>
    split
    · next same =>
      constructor
      · intro _
        exact ⟨Int.not_le.mp in_time, same.symm⟩
      · intro _
        rfl
    · next different =>
      constructor
      · nofun
      · rintro ⟨-, same⟩
        exact absurd same.symm different

theorem verify_error {signer : Signer} {received : String} {upload : Upload} {now : Int}
    {error : MediaError} (refused : signer.verify received upload now = .error error) :
    error.IsClientFault := by
  rw [verify] at refused
  split at refused
  · cases refused
    rfl
  · split at refused <;> cases refused
    rfl

end Signer

namespace MediaService

/-- An upload is allowed when it is in time, exactly signed, and declared to be small enough. -/
theorem allow_eq_ok_iff (service : MediaService) (upload : Upload) (now : Int) :
    service.allow upload now = .ok () ↔
      now < upload.expiry ∧
        upload.url = (service.signer.build upload.name upload.kind upload.expiry).toString ∧
        upload.declaredLength ≤ service.settings.limits.of upload.kind := by
  rw [← SizeLimits.check_eq_ok_iff, ← and_assoc, ← Signer.verify_eq_ok_iff]
  rw [allow]
  cases service.signer.verify upload.url upload now with
  | error error =>
    constructor
    · nofun
    · rintro ⟨verified, -⟩
      cases verified
  | ok _ =>
    constructor
    · intro checked
      exact ⟨rfl, checked⟩
    · rintro ⟨-, checked⟩
      exact checked

theorem allow_error {service : MediaService} {upload : Upload} {now : Int} {error : MediaError}
    (refused : service.allow upload now = .error error) : error.IsClientFault := by
  rw [allow] at refused
  cases verified : service.signer.verify upload.url upload now with
  | error fault =>
    rw [verified] at refused
    cases refused
    exact Signer.verify_error verified
  | ok _ =>
    rw [verified] at refused
    exact SizeLimits.check_error refused

variable {σ : Type} [ObjectStore σ] {service : MediaService} {upload : Upload} {now : Int}

/-- An upload that is not allowed leaves the store alone. -/
theorem run_upload_of_refused {error : MediaError}
    (refused : service.allow upload now = .error error)
    (body : ByteStream) (store : σ) :
    (service.upload upload body now).run store = .ok (.error error, store) :=
  Action.run_bind_ofExcept_of_error refused

/-- An upload that is allowed is a put. -/
theorem run_upload_of_allowed (allowed : service.allow upload now = .ok ()) (body : ByteStream)
    (store : σ) :
    (service.upload upload body now).run store =
      (ObjectStore.put upload.name upload.contentType body).run store :=
  Action.run_bind_ofExcept_of_ok allowed

end MediaService

namespace MemoryStore

variable {store : MemoryStore} {key contentType : String} {body : ByteStream}

theorem object?_insert (store : MemoryStore) (key other : String) (object : StoredObject) :
    (store.insert key object).object? other =
      if key = other then some object else store.object? other :=
  Table.get?_insert store.objects key other object

/-- A body that can be read to its end is kept. -/
theorem put_of_collected {data : ByteArray} (collected : body.collect = .ok data) :
    store.put key contentType body =
      (.ok ⟨none, data.size⟩,
        ({ store with puts := store.puts + 1 }).insert key { contentType, data }) := by
  rw [put, collected]

/-- A body that breaks is not kept, but counted. -/
theorem put_of_broken {fault : StreamFault} (broken : body.collect = .error fault) :
    store.put key contentType body =
      (.error (.stream fault), { store with puts := store.puts + 1 }) := by
  rw [put, broken]

theorem run_put (store : MemoryStore) (key contentType : String) (body : ByteStream) :
    (ObjectStore.put key contentType body : Action MemoryStore MediaError _).run store =
      .ok (store.put key contentType body) := rfl

end MemoryStore

namespace MediaService

/-- An accepted upload was allowed, and its body is what is kept. -/
theorem kept_of_run_upload {service : MediaService} {upload : Upload} {body : ByteStream}
    {now : Int} {store after : MemoryStore} {receipt : PutReceipt}
    (accepted : (service.upload upload body now).run store = .ok (.ok receipt, after)) :
    service.allow upload now = .ok () ∧
      ∃ data : ByteArray, body.collect = .ok data ∧ receipt.size = data.size ∧
        after.object? upload.name = some ⟨upload.contentType, data⟩ := by
  cases allowed : service.allow upload now with
  | error error =>
    rw [run_upload_of_refused allowed] at accepted
    cases accepted
  | ok _ =>
    rw [run_upload_of_allowed allowed, MemoryStore.run_put] at accepted
    refine ⟨rfl, ?_⟩
    cases collected : body.collect with
    | error fault =>
      rw [MemoryStore.put_of_broken collected] at accepted
      cases accepted
    | ok data =>
      rw [MemoryStore.put_of_collected collected] at accepted
      cases accepted
      refine ⟨data, rfl, rfl, ?_⟩
      rw [MemoryStore.object?_insert, if_pos rfl]

/-- An accepted upload is kept whole whatever length was declared for it.  The limit of its kind
binds the declared length, and so it binds what is kept when the body is not longer than declared.
-/
theorem upload_within_limit (service : MediaService) (upload : Upload) (body : ByteStream)
    (now : Int) (store after : MemoryStore) (receipt : PutReceipt)
    (accepted : (service.upload upload body now).run store = .ok (.ok receipt, after)) :
    upload.declaredLength ≤ service.settings.limits.of upload.kind ∧
      ∃ object : StoredObject, after.object? upload.name = some object ∧
        body.collect = .ok object.data ∧ receipt.size = object.data.size ∧
        (object.data.size ≤ upload.declaredLength →
          object.data.size ≤ service.settings.limits.of upload.kind) := by
  rcases kept_of_run_upload accepted with ⟨allowed, data, collected, size, kept⟩
  have declared := ((allow_eq_ok_iff service upload now).mp allowed).2.2
  refine ⟨declared, ⟨upload.contentType, data⟩, kept, collected, size, ?_⟩
  intro honest
  exact Int.ofNat_le.mp (Int.le_trans honest declared)

end MediaService

namespace Rehearsal.Sample

/-- A service that accepts images of up to eight bytes. -/
def strictService : MediaService where
  signer := signer
  settings := { limits := { image := 8 } }

/-- The signed upload of an image that is declared to have so many bytes. -/
def coverUpload (declared : Int) : Upload where
  kind := .image
  contentType := "image/png"
  declaredLength := declared
  name := "cover"
  expiry := 2000
  url := (signer.build "cover" .image 2000).toString

/-- An image of so many bytes. -/
def coverBody (size : Nat) : ByteStream :=
  [.data (List.replicate size 7).toByteArray]

/-- The store after the image was put. -/
def coverKept (size : Nat) : MemoryStore :=
  ({ puts := 1 } : MemoryStore).insert "cover" ⟨"image/png", (List.replicate size 7).toByteArray⟩

end Rehearsal.Sample

open Rehearsal in
theorem upload_within_limit_sample :
    ∃ object : StoredObject, (Sample.coverKept 8).object? "cover" = some object ∧
      object.data.size ≤ 8 := by
  have allowed : Sample.strictService.allow (Sample.coverUpload 8) 1000 = .ok () :=
    (MediaService.allow_eq_ok_iff _ _ _).mpr ⟨by decide, rfl, by decide⟩
  have accepted : (Sample.strictService.upload (Sample.coverUpload 8) (Sample.coverBody 8) 1000).run
      MemoryStore.empty = .ok (.ok ⟨none, 8⟩, Sample.coverKept 8) :=
    MediaService.run_upload_of_allowed allowed _ _
  obtain ⟨-, object, kept, -, size, within⟩ :=
    MediaService.upload_within_limit _ _ _ _ _ _ _ accepted
  exact ⟨object, kept, within (size ▸ by decide)⟩

open Rehearsal in
/-- The limit does not bind a body that is longer than declared. -/
theorem upload_above_limit :
    ¬∀ (service : MediaService) (upload : Upload) (body : ByteStream) (now : Int)
        (store after : MemoryStore) (receipt : PutReceipt),
      (service.upload upload body now).run store = .ok (.ok receipt, after) →
        ∃ object : StoredObject, after.object? upload.name = some object ∧
          object.data.size ≤ service.settings.limits.of upload.kind ∧
          receipt.size ≤ service.settings.limits.of upload.kind := by
  intro bound
  have allowed : Sample.strictService.allow (Sample.coverUpload 1) 1000 = .ok () :=
    (MediaService.allow_eq_ok_iff _ _ _).mpr ⟨by decide, rfl, by decide⟩
  have accepted : (Sample.strictService.upload (Sample.coverUpload 1) (Sample.coverBody 9) 1000).run
      MemoryStore.empty = .ok (.ok ⟨none, 9⟩, Sample.coverKept 9) :=
    MediaService.run_upload_of_allowed allowed _ _
  rcases bound _ _ _ _ _ _ _ accepted with ⟨object, -, -, reported⟩
  exact absurd reported (by decide)

end Backbeat
