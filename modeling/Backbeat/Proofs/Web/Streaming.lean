import Backbeat.Proofs.Media.Delivery
import Backbeat.Proofs.Media.Pipe
import Backbeat.Proofs.Web.Answering
import Backbeat.Rehearsal.Sample

/-!
# Streaming is exact to the byte

The audio of a beat goes from the store through a pipe into a response, and is cut anew on the
way: into slices by the store, into chunks by the copy, and into what the pipe takes at once.
The main statement says that none of this shows.  Without a range the response carries the object,
with a range that starts in the object it carries the bytes at the places asked for, and what it
announces agrees with what it carries.  Any other range is refused before a byte is fetched.  Only
chunks that no pipe has room for are a trap.
-/

namespace Backbeat.Web

open Backbeat.Rehearsal

/-- The text of the range header of a request. -/
def Request.rangeText? (request : Request) : Option String :=
  (request.header? "range").bind Text.plainText?

/-- The range header of a request is plain text, if there is one. -/
def Request.RangeIsText (request : Request) : Prop :=
  ∀ octets, request.header? "range" = some octets → octets.all Text.isPlainOctet = true

/-- The range header of a request is missing or blank. -/
def Request.AsksForAll (request : Request) : Prop :=
  ∀ text, request.rangeText? = some text → Text.trim text.toList = []

/-- The request has a range header that asks for a range. -/
def Request.AsksFor (request : Request) (range : ByteRange) : Prop :=
  ByteRange.ofHeader? request.rangeText? = .ok (some range)

namespace Response

/-- The response carries a whole object. -/
structure CarriesAll (response : Response) (data : ByteArray) : Prop where
  status : response.status = 200
  unranged : response.header? "content-range" = none
  length : response.header? "content-length" = some (Text.Utf8.encode (toString data.size))
  body : response.body = data

/-- The response carries the bytes of an object from one place to another, both included. -/
structure CarriesPart (response : Response) (data : ByteArray) (start stop : Nat) : Prop where
  status : response.status = 206
  range : response.header? "content-range" =
    some (Text.Utf8.encode s!"bytes {start}-{stop}/{data.size}")
  length : response.header? "content-length" =
    some (Text.Utf8.encode (toString response.body.size))
  body : response.body = data.extract start (stop + 1)

/-- The response tells a client that the range is a bad one. -/
structure RefusesRange (response : Response) : Prop where
  status : response.status = 400
  told : ∃ failure : Failure, failure.reason = some "InvalidRange" ∧
    response.body = failure.toJson.render.toUTF8

variable {response : Response} {data : ByteArray} {start stop : Nat}

theorem CarriesAll.named (carries : response.CarriesAll data) (moment : Moment)
    (request : Request) : (response.named moment request).CarriesAll data where
  status := carries.status
  unranged := by
    rw [header?_named response moment request (by decide)]
    exact carries.unranged
  length := by
    rw [header?_named response moment request (by decide)]
    exact carries.length
  body := carries.body

theorem CarriesPart.named (carries : response.CarriesPart data start stop) (moment : Moment)
    (request : Request) : (response.named moment request).CarriesPart data start stop where
  status := carries.status
  range := by
    rw [header?_named response moment request (by decide)]
    exact carries.range
  length := by
    rw [header?_named response moment request (by decide)]
    exact carries.length
  body := carries.body

theorem refusesRange (fault : RangeFault) (moment : Moment) (request : Request) :
    ((WebError.media (.invalidRange fault)).response.named moment request).RefusesRange where
  status := rfl
  told := ⟨(MediaError.invalidRange fault).failure, rfl, rfl⟩

end Response

/-- What a request asks for is what the text of its header asks for. -/
theorem readRange_eq {request : Request} (readable : request.RangeIsText) :
    readRange request =
      (ByteRange.ofHeader? request.rangeText?).mapError fun fault =>
        .media (.invalidRange fault) := by
  rw [readRange, Request.rangeText?]
  cases header : request.header? "range" with
  | none => rfl
  | some octets =>
    have plain : Text.plainText? octets =
        some (String.ofList (octets.map fun octet => Char.ofNat octet.toNat)) :=
      if_pos (readable octets header)
    simp only [Option.bind_some, plain]
    rfl

theorem header?_announced_length (status : Nat) (contentType : String) (length : Nat)
    (body : ByteArray) :
    (announced status contentType length body).header? "content-length" =
      some (Text.Utf8.encode (toString length)) := by
  rw [announced, Response.header?_withHeader_of_ne _ _ (by decide)]
  apply Response.header?_withHeader _ _ (by decide)
  exact Response.header?_withHeader_of_ne _ _ (by decide)

theorem header?_announced_range (status : Nat) (contentType : String) (length : Nat)
    (body : ByteArray) :
    (announced status contentType length body).header? "content-range" = none := by
  rw [announced, Response.header?_withHeader_of_ne _ _ (by decide),
    Response.header?_withHeader_of_ne _ _ (by decide),
    Response.header?_withHeader_of_ne _ _ (by decide)]
  rfl

theorem mediaResponse_all (media : OpenedMedia) (data : ByteArray)
    (sendable : Text.isHeaderText media.contentType = true) (whole : media.span = none) :
    ∃ response : Response, mediaResponse media data.size data = .ok response ∧
      response.CarriesAll data := by
  rw [mediaResponse, if_pos sendable, whole]
  exact
    ⟨_, rfl,
      { status := rfl
        unranged := header?_announced_range _ _ _ _
        length := header?_announced_length _ _ _ _
        body := rfl }⟩

theorem mediaResponse_part (media : OpenedMedia) {data : ByteArray} {start stop : Nat}
    (sendable : Text.isHeaderText media.contentType = true)
    (part : media.span = some ⟨start, stop, data.size⟩) :
    ∃ response : Response,
      mediaResponse media (data.extract start (stop + 1)).size (data.extract start (stop + 1)) =
        .ok response ∧
      response.CarriesPart data start stop := by
  rw [mediaResponse, if_pos sendable, part]
  refine ⟨_, rfl, ?_⟩
  constructor
  case status => rfl
  case range =>
    exact Response.header?_withHeader _ _ (by decide) (header?_announced_range _ _ _ _)
  case length =>
    rw [Response.header?_withHeader_of_ne _ _ (by decide)]
    exact header?_announced_length _ _ _ _
  case body => rfl

namespace Site

variable {σ μ ρ : Type} [ObjectStore σ] {site : Site} {beat : Beat} {request : Request}
  {app : App σ μ ρ} {range : Option ByteRange} {after : σ}

/-- A range that cannot be read is refused before the store is asked for anything. -/
theorem run_audio_of_unreadable {error : WebError} (unreadable : readRange request = .error error) :
    (site.audio beat request : Handler σ μ ρ Response).run app = .ok (.error error, app) :=
  Action.run_bind_ofExcept_of_error unreadable

/-- What the store refuses to open is not served. -/
theorem run_audio_of_error {error : MediaError} (read : readRange request = .ok range)
    (refused : (MediaService.openMedia beat.filePath range : Action σ MediaError _).run app.store =
      .ok (.error error, after)) :
    (site.audio beat request : Handler σ μ ρ Response).run app =
      .ok (.error (.media error), { app with store := after }) := by
  rw [audio, Action.run_bind_ofExcept_of_ok read]
  exact Action.run_bind_of_error (Handler.run_onStore refused)

/-- The audio of a beat was opened for the bytes `carried`. -/
structure Opened (app : App σ μ ρ) (beat : Beat) (range : Option ByteRange) (media : OpenedMedia)
    (carried : ByteArray) (after : σ) : Prop where
  opened : (MediaService.openMedia beat.filePath range : Action σ MediaError _).run app.store =
    .ok (.ok media, after)
  measured : media.length = .ok carried.size
  yields : media.stream.yielded = carried

section Piping

variable {media : OpenedMedia} {carried : ByteArray}

/-- What was opened is served, given room for the chunks of the pipe. -/
theorem Opened.run_audio {response : Response} (opens : Opened app beat range media carried after)
    (roomy : effectiveChunkSize site.media.settings.chunkSize ≤ Text.maxSigned64)
    (few : carried.size ≤ Text.max64) (read : readRange request = .ok range)
    (made : mediaResponse media carried.size carried = .ok response) :
    (site.audio beat request : Handler σ μ ρ Response).run app =
      .ok (.ok response, { app with store := after }) := by
  have piped := openPipe_of_le roomy (opens.yields ▸ few) none
  rw [opens.yields] at piped
  rw [audio]
  rw [Action.run_bind_ofExcept_of_ok read, Action.run_bind_of_ok (Handler.run_onStore opens.opened),
    Action.run_bind_ofChecked_of_ok opens.measured, Action.run_bind_ofChecked_of_ok piped]
  show (Action.ofExcept (mediaResponse media carried.size carried)).run _ = _
  rw [made]
  rfl

theorem Opened.run_audio_of_trap (opens : Opened app beat range media carried after)
    (beyond : Text.maxSigned64 < effectiveChunkSize site.media.settings.chunkSize)
    (read : readRange request = .ok range) :
    (site.audio beat request : Handler σ μ ρ Response).run app = .error .capacityOverflow := by
  rw [audio]
  rw [Action.run_bind_ofExcept_of_ok read, Action.run_bind_of_ok (Handler.run_onStore opens.opened),
    Action.run_bind_ofChecked_of_ok opens.measured]
  exact Action.run_bind_ofChecked_of_trap (openPipe_of_lt beyond media.stream none)

end Piping

/-- Streaming a beat whose audio is uploaded is serving that audio. -/
theorem run_stream {app : App σ μ MemoryCatalog} {segment : String} {id : Uuid}
    (named : readId segment = .ok id) (listed : app.feed.repository.getById id = .ok beat)
    (uploaded : beat.fileUploaded = true) :
    (site.stream segment request : Handler σ μ MemoryCatalog Response).run app =
      (site.audio beat request : Handler σ μ MemoryCatalog Response).run app := by
  rw [stream]
  rw [Action.run_bind_ofExcept_of_ok named, Action.run_bind_of_ok (Handler.run_namedBeat listed)]
  exact Action.run_bind_ofExcept_of_ok (if_pos uploaded)

end Site

/-- The application with the calls to its store listed. -/
def App.listed {σ μ ρ : Type} (app : App σ μ ρ) : App (ListedStore σ) μ ρ :=
  { store := { kept := app.store }, feed := app.feed }

namespace Site

variable {μ ρ : Type} (site : Site) {beat : Beat} {request : Request}
  {app : App MemoryStore μ ρ} {object : StoredObject}

/-- Without a range, the audio is opened for all of its bytes. -/
theorem opened_all (app : App MemoryStore μ ρ)
    (stored : app.store.object? beat.filePath = some object) :
    Opened app beat none
      ⟨MemoryStore.streamOf object.data, object.contentType, object.data.size, none⟩
      object.data app.store where
  opened :=
    MediaService.run_openMedia_none (MemoryStore.run_stat stored)
      (MemoryStore.run_getRange_none stored)
  measured := rfl
  yields := MemoryStore.yielded_streamOf object.data

/-- With a range that starts in the object, the audio is opened for the bytes at the places asked
for. -/
theorem opened_part (app : App MemoryStore μ ρ)
    (stored : app.store.object? beat.filePath = some object)
    (addressable : object.data.size ≤ Text.max64) {range : ByteRange} (ordered : range.Ordered)
    (inside : range.start < object.data.size) :
    Opened app beat (some range)
      ⟨MemoryStore.streamOf
          (object.data.extract range.start (range.lastIn object.data.size + 1)),
        object.contentType, object.data.size,
        some ⟨range.start, range.lastIn object.data.size, object.data.size⟩⟩
      (object.data.extract range.start (range.lastIn object.data.size + 1)) app.store := by
  have last := ByteRange.lastIn_lt inside
  have span_ordered := ordered.start_le_lastIn inside
  constructor
  case opened =>
    exact MediaService.run_openMedia_some (MemoryStore.run_stat stored)
      (ByteRange.resolve_of_start_lt inside)
      (MemoryStore.run_getRange_some stored last span_ordered)
  case measured =>
    show (Span.mk range.start (range.lastIn object.data.size) object.data.size).length = _
    rw [Span.length_of_le span_ordered last addressable, ByteArray.size_extract]
    congr 1
    simp only
    omega
  case yields => exact MemoryStore.yielded_streamOf _

/-- A range that starts behind the object is refused by any store that knows the object's size. -/
theorem run_audio_beyond {σ : Type} [ObjectStore σ] {app : App σ μ ρ} {after : σ}
    {head : ObjectHead} {range : ByteRange}
    (sized : (ObjectStore.stat beat.filePath : Action σ MediaError _).run app.store =
      .ok (.ok head, after))
    (read : readRange request = .ok (some range)) (beyond : head.size ≤ range.start) :
    (site.audio beat request : Handler σ μ ρ Response).run app =
      .ok (.error (.media (.invalidRange (.beyond range.start head.size))),
        { app with store := after }) :=
  run_audio_of_error read
    (MediaService.run_openMedia_beyond sized (ByteRange.resolve_of_size_le beyond))

end Site

section Answers

variable {μ : Type} [SeenHistory μ] (site : Site) (moment : Moment) {request : Request}
  {segment : String} {id : Uuid} {beat : Beat} (fetched : request.method = .get)
  (routed : request.target.segments = (Route.stream segment).segments)
  (named : readId segment = .ok id) (uploaded : beat.fileUploaded = true)

include fetched routed named uploaded

/-- What serving the audio of a beat ends with is the answer. -/
theorem respond_stream_of_run {σ : Type} [ObjectStore σ] {app after : App σ μ MemoryCatalog}
    (listed : app.feed.repository.getById id = .ok beat) {result : Except WebError Response}
    (ran : (site.audio beat request : Handler σ μ MemoryCatalog Response).run app =
      .ok (result, after)) :
    site.respond moment request app =
      .ok ((match result with
        | .ok response => response
        | .error error => error.response).named moment request, after) :=
  Site.respond_of_run routed fetched ((Site.run_stream named listed uploaded).trans ran)

theorem respond_stream_of_trap {σ : Type} [ObjectStore σ] {app : App σ μ MemoryCatalog}
    (listed : app.feed.repository.getById id = .ok beat) {trap : Trap}
    (trapped : (site.audio beat request : Handler σ μ MemoryCatalog Response).run app =
      .error trap) :
    site.respond moment request app = .error trap :=
  Site.respond_of_trap routed fetched ((Site.run_stream named listed uploaded).trans trapped)

variable {app : App MemoryStore μ MemoryCatalog} {object : StoredObject}
  (listed : app.feed.repository.getById id = .ok beat)

include listed

/-- A header that asks for no readable range is refused before the store is called. -/
theorem respond_stream_unreadable {fault : RangeFault}
    (read : readRange request = .error (.media (.invalidRange fault))) :
    ∃ response : Response, response.RefusesRange ∧
      site.respond moment request app = .ok (response, app) ∧
      site.respond moment request app.listed = .ok (response, app.listed) :=
  ⟨_, Response.refusesRange fault moment request,
    respond_stream_of_run site moment fetched routed named uploaded listed
      (Site.run_audio_of_unreadable read),
    respond_stream_of_run site moment fetched routed named uploaded
      (show app.listed.feed.repository.getById id = .ok beat from listed)
      (Site.run_audio_of_unreadable read)⟩

variable (stored : app.store.object? beat.filePath = some object)

include stored

/-- A range that starts behind the object is refused once the size of the object is known. -/
theorem respond_stream_beyond {range : ByteRange} (read : readRange request = .ok (some range))
    (beyond : object.data.size ≤ range.start) :
    ∃ response : Response, response.RefusesRange ∧
      site.respond moment request app = .ok (response, app) ∧
      site.respond moment request app.listed =
        .ok (response, { app.listed with store := ⟨app.store, [.stat beat.filePath]⟩ }) := by
  have sized := MemoryStore.run_stat stored
  have sized_listed : (ObjectStore.stat beat.filePath : Action (ListedStore MemoryStore)
      MediaError _).run app.listed.store =
        .ok (.ok ⟨object.data.size, object.contentType⟩, ⟨app.store, [.stat beat.filePath]⟩) :=
    ListedStore.run_call sized
  exact ⟨_, Response.refusesRange _ moment request,
    respond_stream_of_run site moment fetched routed named uploaded listed
      (Site.run_audio_beyond site sized read beyond),
    respond_stream_of_run site moment fetched routed named uploaded
      (show app.listed.feed.repository.getById id = .ok beat from listed)
      (Site.run_audio_beyond site sized_listed read beyond)⟩

variable (addressable : object.data.size ≤ Text.max64)

include addressable

/-- Chunks that no pipe has room for are a trap, whichever bytes are to be carried. -/
theorem respond_stream_trapped
    (beyond : Text.maxSigned64 < effectiveChunkSize site.media.settings.chunkSize) :
    (readRange request = .ok none →
      site.respond moment request app = .error .capacityOverflow) ∧
    ∀ range : ByteRange, readRange request = .ok (some range) → range.Ordered →
      range.start < object.data.size →
      site.respond moment request app = .error .capacityOverflow := by
  constructor
  · intro read
    exact respond_stream_of_trap site moment fetched routed named uploaded listed
      ((Site.opened_all app stored).run_audio_of_trap beyond read)
  · intro range read ordered inside
    exact respond_stream_of_trap site moment fetched routed named uploaded listed
      ((Site.opened_part app stored addressable ordered inside).run_audio_of_trap beyond read)

variable (sendable : Text.isHeaderText object.contentType = true)
  (roomy : effectiveChunkSize site.media.settings.chunkSize ≤ Text.maxSigned64)

include sendable roomy

/-- Without a range the whole object is carried. -/
theorem respond_stream_all (read : readRange request = .ok none) :
    ∃ response : Response, response.CarriesAll object.data ∧
      site.respond moment request app = .ok (response, app) := by
  have opens := Site.opened_all app stored
  obtain ⟨response, made, carries⟩ := mediaResponse_all ⟨_, _, _, _⟩ object.data sendable rfl
  exact ⟨_, carries.named moment request,
    respond_stream_of_run site moment fetched routed named uploaded listed
      (opens.run_audio roomy addressable read made)⟩

/-- With a range that starts in the object, the part asked for is carried. -/
theorem respond_stream_part {range : ByteRange} (read : readRange request = .ok (some range))
    (ordered : range.Ordered) (inside : range.start < object.data.size) :
    ∃ response : Response,
      response.CarriesPart object.data range.start (range.lastIn object.data.size) ∧
      site.respond moment request app = .ok (response, app) := by
  have opens := Site.opened_part app stored addressable ordered inside
  have few : (object.data.extract range.start (range.lastIn object.data.size + 1)).size ≤
      Text.max64 := by
    rw [ByteArray.size_extract]
    omega
  obtain ⟨response, made, carries⟩ := mediaResponse_part ⟨_, _, _, _⟩ sendable rfl
  exact ⟨_, carries.named moment request,
    respond_stream_of_run site moment fetched routed named uploaded listed
      (opens.run_audio roomy few read made)⟩

end Answers

/-- Streaming is exact to the byte.  The audio of an uploaded beat is carried whole without a
range, and in the part asked for with a range that starts in it, as long as a pipe has room for
chunks of the configured size; chunks that are too large for any memory are a trap.  With any other
range header the request is refused without a byte being fetched, whatever the chunk size.  Sizes
of stored objects are numbers of sixty-four bits, as in every store. -/
theorem respond_stream {μ : Type} [SeenHistory μ] (site : Site) (moment : Moment)
    (request : Request) (app : App MemoryStore μ MemoryCatalog) {segment : String} {id : Uuid}
    {beat : Beat} {object : StoredObject} (fetched : request.method = .get)
    (routed : request.target.segments = (Route.stream segment).segments)
    (named : readId segment = .ok id) (listed : app.feed.repository.getById id = .ok beat)
    (uploaded : beat.fileUploaded = true)
    (stored : app.store.object? beat.filePath = some object)
    (sendable : Text.isHeaderText object.contentType = true)
    (addressable : object.data.size ≤ Text.max64) (readable : request.RangeIsText) :
    (request.AsksForAll →
      (effectiveChunkSize site.media.settings.chunkSize ≤ Text.maxSigned64 →
        ∃ response : Response, response.CarriesAll object.data ∧
          site.respond moment request app = .ok (response, app)) ∧
      (Text.maxSigned64 < effectiveChunkSize site.media.settings.chunkSize →
        site.respond moment request app = .error .capacityOverflow)) ∧
    (∀ range : ByteRange, request.AsksFor range → range.start < object.data.size →
      (effectiveChunkSize site.media.settings.chunkSize ≤ Text.maxSigned64 →
        ∃ response : Response,
          response.CarriesPart object.data range.start
            (min (range.stop.getD (object.data.size - 1)) (object.data.size - 1)) ∧
          site.respond moment request app = .ok (response, app)) ∧
      (Text.maxSigned64 < effectiveChunkSize site.media.settings.chunkSize →
        site.respond moment request app = .error .capacityOverflow)) ∧
    (¬request.AsksForAll →
      (∀ range : ByteRange, request.AsksFor range → object.data.size ≤ range.start) →
      ∃ response : Response, response.RefusesRange ∧
        site.respond moment request app = .ok (response, app) ∧
        ∃ after : App (ListedStore MemoryStore) μ MemoryCatalog,
          site.respond moment request app.listed = .ok (response, after) ∧
            ∀ key span, .getRange key span ∉ after.store.calls) := by
  have nothing := ByteRange.ofHeader?_eq_none_iff request.rangeText?
  have read := readRange_eq readable
  have trapped := respond_stream_trapped site moment fetched routed named uploaded listed stored
    addressable
  refine ⟨?_, ?_, ?_⟩
  · intro all
    rw [nothing.mpr all] at read
    exact ⟨fun roomy => respond_stream_all site moment fetched routed named uploaded listed stored
        addressable sendable roomy read,
      fun beyond => (trapped beyond).1 read⟩
  · intro range asked inside
    have ordered := ByteRange.ordered_of_ofHeader? asked
    rw [asked] at read
    exact ⟨fun roomy => respond_stream_part site moment fetched routed named uploaded listed stored
        addressable sendable roomy read ordered inside,
      fun beyond => (trapped beyond).2 range read ordered inside⟩
  · intro some_asked all_beyond
    cases asked : ByteRange.ofHeader? request.rangeText? with
    | error fault =>
      rw [asked] at read
      obtain ⟨response, refuses, answered, listed_answer⟩ :=
        respond_stream_unreadable site moment fetched routed named uploaded listed read
      exact ⟨response, refuses, answered, app.listed, listed_answer, by simp [App.listed]⟩
    | ok range =>
      rw [asked] at read
      cases range with
      | none => exact absurd (nothing.mp asked) some_asked
      | some range =>
        obtain ⟨response, refuses, answered, listed_answer⟩ :=
          respond_stream_beyond site moment fetched routed named uploaded listed stored read
            (all_beyond range asked)
        exact ⟨response, refuses, answered, _, listed_answer, by simp⟩

theorem respond_stream_sample :
    ∃ response : Response,
      Sample.site.respond Sample.moment (Sample.streamRequest "bytes=1-99") Sample.app =
        .ok (response, Sample.app) ∧
      response.CarriesPart Sample.audio.data 1 4 := by
  have readable : (Sample.streamRequest "bytes=1-99").RangeIsText := by
    intro octets found
    cases found
    decide
  have named : readId "8d1c0f5e-6a0f-4ab8-9b9c-0c6f7a3c2b11" = .ok Sample.beat.id := rfl
  have listed : Sample.app.feed.repository.getById Sample.beat.id = .ok Sample.beat := rfl
  have stored : Sample.app.store.object? Sample.beat.filePath = some Sample.audio := rfl
  obtain ⟨-, part, -⟩ :=
    respond_stream Sample.site Sample.moment (Sample.streamRequest "bytes=1-99") Sample.app rfl rfl
      named listed rfl stored (by decide) (by decide) readable
  obtain ⟨response, carries, answered⟩ := (part ⟨1, some 99⟩ rfl (by decide)).1 (by decide)
  exact ⟨response, answered, carries⟩

/-- The small site with chunks that no pipe has room for. -/
def roomlessSite : Site where
  media := { Sample.site.media with settings := { chunkSize := 0x8000_0000_0000_0000 } }

/-- There the request that is served in small chunks is not answered. -/
theorem respond_stream_traps_beyond_capacity :
    roomlessSite.respond Sample.moment (Sample.streamRequest "bytes=1-99") Sample.app =
      .error .capacityOverflow := by
  have named : readId "8d1c0f5e-6a0f-4ab8-9b9c-0c6f7a3c2b11" = .ok Sample.beat.id := rfl
  have stored : Sample.app.store.object? Sample.beat.filePath = some Sample.audio := rfl
  have asked : readRange (Sample.streamRequest "bytes=1-99") = .ok (some ⟨1, some 99⟩) := rfl
  have ordered : (⟨1, some 99⟩ : ByteRange).Ordered := by
    rintro _ ⟨⟩
    decide
  exact (respond_stream_trapped roomlessSite Sample.moment rfl rfl named rfl rfl stored (by decide)
    (by decide)).2 _ asked ordered (by decide)

end Backbeat.Web
