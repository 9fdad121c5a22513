import Backbeat.Bucket.Service
import Backbeat.Proofs.Bucket.Laws

/-!
# The service in memory as a host

The service in memory keeps to what is asked of hosts.
-/

namespace Backbeat

open Bucket (Host Request Reply Refusal)

namespace Bucket

namespace Service

/-- What the answers of a service to looks depend on: where it is, what it keeps, and what is yet to
disturb it. -/
def shown (service : Service) :
    String × Table (String × String) KeptObject × List Disturbance × Nat × Nat :=
  (service.address, service.objects, service.disturbances, service.count "HeadObject",
    service.count "GetObject")

theorem shown_fulfil {request : Request} (uncommitted : request.commits = false)
    (service : Service) : shown (service.fulfil request).2 = shown service := by
  cases request with
  | headBucket bucket =>
    rw [fulfil]
    split <;> rfl
  | createBucket bucket => rfl
  | headObject bucket key =>
    rw [fulfil]
    split <;> rfl
  | getObject bucket key range =>
    rw [fulfil]
    split <;> rfl
  | putObject bucket key contentType data => cases uncommitted
  | createUpload bucket key contentType => rfl
  | uploadPart bucket key upload number data =>
    rw [fulfil]
    split <;> rfl
  | completeUpload bucket key upload listed => cases uncommitted
  | abortUpload bucket key upload => rfl

/-- The service with a request in its list, whatever then becomes of that. -/
def listing (service : Service) (request : Request) : Service :=
  { service with log := request :: service.log }

theorem shown_serve {request : Request} (uncommitted : request.commits = false)
    (service : Service) : shown (service.serve request).2 = shown (service.listing request) := by
  rw [serve]
  split
  · rfl
  · exact shown_fulfil uncommitted (service.listing request)

theorem answer_serve (service : Service) (request : Request) :
    (service.serve request).1 =
      match refusal? ((service.listing request).effects request) with
      | some refusal => .error refusal
      | none => ((service.listing request).fulfil request).1.map
          (trimReply ((service.listing request).effects request)) := by
  rw [serve]
  show (match refusal? ((service.listing request).effects request) with
    | some refusal => _
    | none => _ : Except Refusal Reply × Service).1 = _
  split <;> rfl

/-- A request that does not look at objects is not counted as one that does. -/
theorem shown_listing {request : Request} (unlooked : request.looks = false)
    (service : Service) : shown (service.listing request) = shown service := by
  cases request with
  | headObject bucket key => cases unlooked
  | getObject bucket key range => cases unlooked
  | headBucket bucket => rfl
  | createBucket bucket => rfl
  | putObject bucket key contentType data => rfl
  | createUpload bucket key contentType => rfl
  | uploadPart bucket key upload number data => rfl
  | completeUpload bucket key upload listed => rfl
  | abortUpload bucket key upload => rfl

section Looking

variable {request : Request} {service other : Service}

theorem count_listing (service : Service) (request : Request) (name : String) :
    (service.listing request).count name =
      if request.name == name then service.count name + 1 else service.count name := by
  rw [listing, count, List.filter_cons]
  split <;> rfl

theorem shown_listing_congr (same : shown service = shown other) (request : Request) :
    shown (service.listing request) = shown (other.listing request) := by
  simp only [shown, Prod.mk.injEq] at same
  obtain ⟨address, objects, disturbances, heads, gets⟩ := same
  simp only [shown, count_listing, heads, gets, Prod.mk.injEq, and_true]
  exact ⟨address, objects, disturbances⟩

theorem effects_congr (looking : request.looks = true) (same : shown service = shown other) :
    service.effects request = other.effects request := by
  simp only [shown, Prod.mk.injEq] at same
  obtain ⟨-, -, disturbances, heads, gets⟩ := same
  cases request with
  | headObject bucket key => simp only [effects, disturbances, Request.name, heads]
  | getObject bucket key range => simp only [effects, disturbances, Request.name, gets]
  | _ => cases looking

theorem answer_fulfil_congr (looking : request.looks = true) (same : shown service = shown other) :
    (service.fulfil request).1 = (other.fulfil request).1 := by
  simp only [shown, Prod.mk.injEq] at same
  obtain ⟨-, objects, -⟩ := same
  cases request with
  | headObject bucket key =>
    rw [fulfil, fulfil, object?, object?, objects]
    split <;> rfl
  | getObject bucket key range =>
    rw [fulfil, fulfil, object?, object?, objects]
    split <;> rfl
  | _ => cases looking

theorem answer_serve_congr (looking : request.looks = true) (same : shown service = shown other) :
    (service.serve request).1 = (other.serve request).1 := by
  have listed := shown_listing_congr same request
  rw [answer_serve, answer_serve, effects_congr looking listed, answer_fulfil_congr looking listed]

end Looking

theorem commits_of_looks {request : Request} (looking : request.looks = true) :
    request.commits = false := by
  cases request <;> first | rfl | cases looking

theorem serve_of_reached {endpoint : String} {service : Service}
    (reached : endpoint = service.address) (request : Request) :
    Host.serve endpoint request service = service.serve request :=
  if_pos reached

theorem serve_of_missed {endpoint : String} {service : Service}
    (missed : endpoint ≠ service.address) (request : Request) :
    Host.serve endpoint request service = (.error .unreachable, service) :=
  if_neg missed

/-- An object of the service shows when it is put or its upload is completed, and not before. -/
theorem shownBy (endpoint : String) : ShownBy endpoint shown where
  looked request looking service other same := by
    have address : service.address = other.address := (Prod.mk.inj same).1
    by_cases reached : endpoint = service.address
    · rw [serve_of_reached reached, serve_of_reached (reached.trans address)]
      refine ⟨answer_serve_congr looking same, ?_⟩
      have uncommitted := commits_of_looks looking
      show shown (service.serve request).2 = shown (other.serve request).2
      rw [shown_serve uncommitted, shown_serve uncommitted, shown_listing_congr same]
    · rw [serve_of_missed reached, serve_of_missed (address ▸ reached)]
      exact ⟨rfl, same⟩
  kept request service unlooked uncommitted := by
    by_cases reached : endpoint = service.address
    · rw [serve_of_reached reached, shown_serve uncommitted, shown_listing unlooked]
    · rw [serve_of_missed reached]

end Service

/-! ## Undisturbed -/

/-- An unfinished upload as one that takes parts: every part is there with its tag. -/
def PendingUpload.opened (pending : PendingUpload) : OpenUpload where
  key := pending.key
  contentType := pending.contentType
  parts number :=
    (pending.parts.get? number).map fun data => (data, Service.partTag number data.size)

theorem PendingUpload.opened_insert (pending : PendingUpload) (number : Nat) (data : ByteArray) :
    opened { pending with parts := pending.parts.insert number data } =
      pending.opened.grow number data (Service.partTag number data.size) := by
  have parts : (opened { pending with parts := pending.parts.insert number data }).parts =
      Function.update pending.opened.parts number
        (some (data, Service.partTag number data.size)) := by
    funext other
    show ((pending.parts.insert number data).get? other).map _ = _
    rw [Table.get?_insert, Function.update_apply]
    rcases eq_or_ne number other with rfl | distinct
    · rw [if_pos rfl, if_pos rfl]
      rfl
    · rw [if_neg distinct, if_neg distinct.symm]
      rfl
  rw [OpenUpload.grow, ← parts]
  rfl

namespace Service

/-- The bucket of a service that can be reached, is not disturbed, and tells all of its objects as
they are. -/
def view (endpoint bucket : String) : BucketView Service where
  Sound service := service.address = endpoint ∧ service.disturbances = [] ∧
    ∀ key kept, service.object? bucket key = some kept →
      ∃ contentType, kept = { data := kept.data, contentType := some contentType }
  object? service key := (service.object? bucket key).map fun kept =>
    ⟨kept.contentType.getD "", kept.data⟩
  upload? service upload := (service.uploads.get? upload).bind fun pending =>
    if pending.bucket = bucket then some pending.opened else none

section Undisturbed

variable {endpoint bucket key : String} {service : Service}

theorem trimReply_nil (reply : Reply) : trimReply [] reply = reply := by
  cases reply <;> simp [trimReply]

/-- Nothing comes between a request and its answer. -/
theorem serve_of_sound (sound : (view endpoint bucket).Sound service) (request : Request) :
    Host.serve endpoint request service = (service.listing request).fulfil request := by
  obtain ⟨address, undisturbed, -⟩ := sound
  have unaffected : (service.listing request).effects request = [] := by
    simp [effects, listing, undisturbed]
  rw [serve_of_reached address.symm]
  show (match refusal? ((service.listing request).effects request) with
    | some refusal => (Except.error refusal, service.listing request)
    | none => (((service.listing request).fulfil request).1.map
        (trimReply ((service.listing request).effects request)),
        ((service.listing request).fulfil request).2)) = _
  rw [unaffected]
  have same : ((service.listing request).fulfil request).1.map (trimReply []) =
      ((service.listing request).fulfil request).1 := by
    cases ((service.listing request).fulfil request).1 with
    | error refusal => rfl
    | ok reply => exact congrArg Except.ok (trimReply_nil reply)
  exact Prod.ext same rfl

theorem keeps_listing (sound : (view endpoint bucket).Sound service) (request : Request) :
    (view endpoint bucket).Keeps service (service.listing request) :=
  ⟨sound, rfl⟩

/-- An object of the bucket is kept as it is told. -/
theorem object?_of_view (sound : (view endpoint bucket).Sound service) {object : StoredObject}
    (found : (view endpoint bucket).object? service key = some object) :
    service.object? bucket key =
      some { data := object.data, contentType := some object.contentType } := by
  obtain ⟨kept, present, told⟩ := Option.map_eq_some_iff.mp found
  obtain ⟨contentType, plain⟩ := sound.2.2 key kept present
  rw [present, ← told, plain]
  rfl

/-- An object that is taken is told from then on. -/
theorem puts_insert (sound : (view endpoint bucket).Sound service) (key contentType : String)
    (data : ByteArray) :
    (view endpoint bucket).Puts key ⟨contentType, data⟩ service
      (service.insert bucket key { data, contentType := some contentType }) := by
  have kept (other : String) :
      (service.insert bucket key { data, contentType := some contentType }).object? bucket other =
        if key = other then some { data, contentType := some contentType }
        else service.object? bucket other := by
    show (service.objects.insert (bucket, key) _).get? (bucket, other) = _
    rw [Table.get?_insert]
    simp only [Prod.mk.injEq, true_and]
    rfl
  refine ⟨⟨sound.1, sound.2.1, ?_⟩, ?_⟩
  · intro other object present
    rw [kept] at present
    split at present
    · cases present
      exact ⟨contentType, rfl⟩
    · exact sound.2.2 other object present
  · funext other
    show ((service.insert bucket key _).object? bucket other).map _ = _
    rw [kept, Function.update_apply]
    rcases eq_or_ne key other with rfl | distinct
    · rw [if_pos rfl, if_pos rfl]
      rfl
    · rw [if_neg distinct, if_neg distinct.symm]
      rfl

/-- An upload that is told is one that goes on. -/
theorem pending_of_view {upload : String} {opened : OpenUpload}
    (known : (view endpoint bucket).upload? service upload = some opened) :
    ∃ pending, pending.bucket = bucket ∧ pending.opened = opened ∧
      service.pending bucket pending.key upload = .ok pending := by
  obtain ⟨pending, found, told⟩ := Option.bind_eq_some_iff.mp known
  split at told
  · next same =>
    refine ⟨pending, same, Option.some.inj told, ?_⟩
    rw [Service.pending, found]
    exact if_pos ⟨same, rfl⟩
  · cases told

theorem upload?_insert (uploads : Table String PendingUpload) (upload : String)
    {pending : PendingUpload} (same : pending.bucket = bucket) :
    (view endpoint bucket).upload?
        { service with uploads := uploads.insert upload pending } upload = some pending.opened := by
  show ((uploads.insert upload pending).get? upload).bind _ = _
  rw [Table.get?_insert_self]
  exact if_pos same

theorem foldl_append (start : ByteArray) (pieces : List ByteArray) :
    pieces.foldl (· ++ ·) start = start ++ joined pieces := by
  induction pieces generalizing start with
  | nil => rw [List.foldl_nil, joined_nil, ByteArray.append_empty]
  | cons piece later ih => rw [List.foldl_cons, ih, joined_cons, ByteArray.append_assoc]

/-- Parts that are there are put together. -/
theorem assemble_of_has {pending : PendingUpload} {listed : List (Nat × Option String)}
    {pieces : List ByteArray} (have_them : List.Forall₂ pending.opened.Has listed pieces) :
    assemble pending listed = .ok (joined pieces) := by
  have found : (listed.mapM fun part => pending.parts.get? part.1) = some pieces := by
    induction have_them with
    | nil => rfl
    | @cons part data later others has _ ih =>
      obtain ⟨tag, -, present⟩ := has
      obtain ⟨_, there, same⟩ := Option.map_eq_some_iff.mp present
      cases same
      rw [List.mapM_cons, there, ih]
      rfl
  rw [assemble, found]
  exact congrArg Except.ok ((foldl_append ByteArray.empty pieces).trans ByteArray.empty_append)

theorem fulfil_uploadPart {upload : String} {pending : PendingUpload}
    (goes_on : service.pending bucket key upload = .ok pending) (number : Nat) (data : ByteArray) :
    service.fulfil (.uploadPart bucket key upload number data) =
      (.ok (.tagged (some (partTag number data.size))),
        { service with
          uploads := service.uploads.insert upload
            { pending with parts := pending.parts.insert number data } }) := by
  rw [fulfil, goes_on]

theorem fulfil_completeUpload {upload : String} {pending : PendingUpload}
    {listed : List (Nat × Option String)} {data : ByteArray}
    (goes_on : service.pending bucket key upload = .ok pending)
    (put_together : assemble pending listed = .ok data) :
    service.fulfil (.completeUpload bucket key upload listed) =
      (.ok (.tagged (some (uploadTag listed.length))),
        ({ service with uploads := service.uploads.erase upload }).insert bucket key
          { data, contentType := some pending.contentType }) := by
  rw [fulfil, goes_on]
  simp only [put_together]

end Undisturbed

/-- The service in memory makes of requests what S3 makes of them, and has no limits of its own. -/
theorem lawful (limits : ServiceLimits) (endpoint bucket : String) :
    (view endpoint bucket).Lawful limits endpoint bucket where
  head_missing {service key} sound plain missing := by
    have absent : (service.listing (.headObject bucket key)).object? bucket key = none :=
      Option.map_eq_none_iff.mp missing
    refine ⟨.refused 404 "NotFound", _, ?_, rfl, keeps_listing sound (.headObject bucket key)⟩
    rw [serve_of_sound sound, fulfil, absent]
  head_found {service key object} sound plain found := by
    have present : (service.listing (.headObject bucket key)).object? bucket key = some _ :=
      object?_of_view sound found
    refine ⟨_, ?_, keeps_listing sound (.headObject bucket key)⟩
    rw [serve_of_sound sound, fulfil, present]
    rfl
  get_whole {service key object} sound plain found := by
    have present : (service.listing (.getObject bucket key none)).object? bucket key = some _ :=
      object?_of_view sound found
    refine ⟨_, ?_, keeps_listing sound (.getObject bucket key none)⟩
    rw [serve_of_sound sound, fulfil, present]
    rfl
  get_range {service key object start stop} sound plain found ordered inside := by
    have present : (service.listing (.getObject bucket key (some (start, stop)))).object? bucket
        key = some _ := object?_of_view sound found
    refine ⟨_, ?_, keeps_listing sound (.getObject bucket key (some (start, stop)))⟩
    rw [serve_of_sound sound, fulfil, present]
    simp only [cut, if_neg (Nat.not_lt_of_le ordered),
      if_neg (Nat.not_le_of_lt (Nat.lt_of_le_of_lt ordered inside))]
    rfl
  put {service key contentType data} sound plain typed small := by
    refine ⟨_, _, serve_of_sound sound _, ?_⟩
    exact puts_insert ⟨sound.1, sound.2.1, sound.2.2⟩ key contentType data
  create {service key contentType} sound plain typed := by
    refine ⟨uploadName, _, serve_of_sound sound _, ⟨sound, rfl⟩, ?_⟩
    exact upload?_insert _ _ rfl
  part {service upload opened number data} sound known positive early small := by
    obtain ⟨pending, same, rfl, goes_on⟩ := pending_of_view known
    have still : (service.listing (.uploadPart bucket pending.key upload number data)).pending
        bucket pending.key upload = .ok pending := goes_on
    refine ⟨partTag number data.size, _,
      (serve_of_sound sound _).trans (fulfil_uploadPart still number data), ⟨sound, rfl⟩, ?_⟩
    rw [← PendingUpload.opened_insert]
    exact upload?_insert _ _ same
  complete {service upload opened listed pieces} sound known completed few small := by
    obtain ⟨pending, same, rfl, goes_on⟩ := pending_of_view known
    have still : (service.listing (.completeUpload bucket pending.key upload listed)).pending
        bucket pending.key upload = .ok pending := goes_on
    have together := assemble_of_has completed.have_them
    refine ⟨_, _, (serve_of_sound sound _).trans (fulfil_completeUpload still together), ?_⟩
    exact puts_insert ⟨sound.1, sound.2.1, sound.2.2⟩ pending.key pending.contentType
      (joined pieces)

end Service

end Bucket

end Backbeat
