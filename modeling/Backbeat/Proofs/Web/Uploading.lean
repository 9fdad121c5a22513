import Backbeat.Proofs.Data.Outcomes
import Backbeat.Proofs.Media.Intake
import Backbeat.Proofs.Web.Answering
import Backbeat.Rehearsal.Sample

/-!
# Uploads reach the store only when signed

What an upload says of itself is read from the decoded query, but what was signed is the URL as it
was received.  Both meet when the URL is built again from what was read: whichever way a query
spells its parameters, repeats them or adds to them, only the one spelling that the signer writes
is accepted.

The main statement says what a request to upload can do.  Either the store is asked to put one
object, and then the URL is exactly a signed one that is still good and the declared length is
within the limit; or the request is refused as a mistake of the client, and the store is left as
it was.
-/

namespace Backbeat

/-! ## Reading what an upload says of itself -/

namespace Upload

theorem failsOnly_parameter (query : Query) (name : String) :
    FailsOnly MediaError.IsClientFault (parameter query name) := by
  rw [parameter]
  split
  · exact .error rfl
  · split
    · exact .error rfl
    · exact .ok _

theorem failsOnly_readKind (name : String) :
    FailsOnly MediaError.IsClientFault (readKind name) := by
  rw [readKind]
  split
  · exact .ok _
  · exact .error rfl

theorem failsOnly_readExpiry (text : String) :
    FailsOnly MediaError.IsClientFault (readExpiry text) := by
  rw [readExpiry]
  split
  · exact .ok _
  · exact .error rfl

/-- A query that describes no upload is the client's mistake. -/
theorem failsOnly_ofQuery (query : Query) (contentType : String) (declared : Int) (url : String) :
    FailsOnly MediaError.IsClientFault (ofQuery query contentType declared url) := by
  rw [ofQuery]
  refine .bind (failsOnly_parameter query "name") fun name => ?_
  refine .bind (failsOnly_parameter query "type") fun kindName => ?_
  refine .bind (failsOnly_readKind kindName) fun kind => ?_
  refine .bind (failsOnly_parameter query "exp") fun expiryText => ?_
  refine .bind (failsOnly_readExpiry expiryText) fun expiry => ?_
  exact .bind (failsOnly_parameter query "hash") fun _ => .ok _

/-- What does not stand in the query is taken over as it is. -/
theorem of_ofQuery_eq_ok {query : Query} {contentType : String} {declared : Int} {url : String}
    {upload : Upload} (read : ofQuery query contentType declared url = .ok upload) :
    upload.contentType = contentType ∧ upload.declaredLength = declared ∧ upload.url = url := by
  rw [ofQuery] at read
  simp only [bind_eq_ok_iff] at read
  rcases read with ⟨name, -, kindName, -, kind, -, expiryText, -, expiry, -, hash, -, made⟩
  cases made
  exact ⟨rfl, rfl, rfl⟩

end Upload

namespace Web

open Backbeat.Rehearsal

/-- A refusal that is answered as a mistake of the client. -/
def WebError.IsClientFault (error : WebError) : Prop :=
  400 ≤ error.response.status ∧ error.response.status < 500

/-- A refusal of media that is the client's fault is answered as such. -/
theorem isClientFault_media {error : MediaError} (fault : error.IsClientFault) :
    (WebError.media error).IsClientFault := by
  have answered : (WebError.media error).response.status = 400 := by
    rw [MediaError.IsClientFault] at fault
    show (WebError.media error).report.shown.kind.code = 400
    simp [WebError.report, MediaError.report, fault, FailureKind.isInternal, Report.shown,
      Report.firstFailure?, Report.links, Report.ofFailure, Failure.sanitized, MediaError.failure,
      FailureKind.code]
  rw [WebError.IsClientFault]
  omega

theorem failsOnly_readLength (request : Request) :
    FailsOnly WebError.IsClientFault (readLength request) := by
  have noLength : WebError.noLength.IsClientFault := ⟨by decide, by decide⟩
  have badLength : WebError.badLength.IsClientFault := ⟨by decide, by decide⟩
  rw [readLength]
  split
  · exact .error noLength
  · split
    · exact .error badLength
    · split
      · exact .error badLength
      · split
        · exact .error badLength
        · exact .ok _

/-- A declared length is never negative. -/
theorem readLength_nonneg {request : Request} {length : Int}
    (read : readLength request = .ok length) : 0 ≤ length := by
  rw [readLength] at read
  grind

/-- A request that describes no upload is the client's mistake. -/
theorem failsOnly_readUpload (request : Request) :
    FailsOnly WebError.IsClientFault (readUpload request) :=
  .bind (failsOnly_readLength request) fun _ =>
    .mapError (Upload.failsOnly_ofQuery _ _ _ _) fun _ => isClientFault_media

/-- What a request describes is an upload to the very URL of the request. -/
theorem of_readUpload_eq_ok {request : Request} {upload : Upload}
    (read : readUpload request = .ok upload) :
    readLength request = .ok upload.declaredLength ∧ upload.url = request.target.url ∧
      upload.contentType = readContentType request := by
  rw [readUpload] at read
  rcases bind_eq_ok_iff.mp read with ⟨length, declared, described⟩
  rcases Upload.of_ofQuery_eq_ok (mapError_eq_ok_iff.mp described) with ⟨contentType, same, url⟩
  exact ⟨same ▸ declared, url, contentType⟩

/-! ## Uploading -/

namespace Site

variable {μ ρ : Type} {site : Site} {moment : Moment} {request : Request}
  {app : App MemoryStore μ ρ} {upload : Upload}

theorem run_upload_of_unreadable {error : WebError}
    (unreadable : readUpload request = .error error) :
    (site.upload moment request : Handler MemoryStore μ ρ Response).run app =
      .ok (.error error, app) :=
  Action.run_bind_ofExcept_of_error unreadable

theorem run_upload_of_refused {error : MediaError} (read : readUpload request = .ok upload)
    (refused : site.media.allow upload moment.now = .error error) :
    (site.upload moment request : Handler MemoryStore μ ρ Response).run app =
      .ok (.error (.media error), app) := by
  rw [Site.upload, Action.run_bind_ofExcept_of_ok read]
  exact Action.run_bind_of_error
    (Handler.run_onStore (MediaService.run_upload_of_refused refused request.body app.store))

/-- An upload that is allowed ends as the put that it comes down to. -/
theorem run_upload_of_allowed (read : readUpload request = .ok upload)
    (allowed : site.media.allow upload moment.now = .ok ()) :
    (site.upload moment request : Handler MemoryStore μ ρ Response).run app =
      .ok
        (((app.store.put upload.name upload.contentType request.body).1.mapError .media).map
          fun receipt => .ofJson 200 (confirmation upload receipt),
        { app with store := (app.store.put upload.name upload.contentType request.body).2 }) := by
  have ran := (MediaService.run_upload_of_allowed allowed request.body app.store).trans
    (MemoryStore.run_put app.store upload.name upload.contentType request.body)
  rw [Site.upload, Action.run_bind_ofExcept_of_ok read]
  cases outcome : app.store.put upload.name upload.contentType request.body with
  | mk result after =>
    rw [outcome] at ran
    cases result with
    | error error => exact Action.run_bind_of_error (Handler.run_onStore ran)
    | ok receipt => exact Action.run_bind_of_ok (Handler.run_onStore ran)

end Site

/-- The request goes to the URL that is signed for an object of this name and kind until `expiry`;
the URL is still good, and the length declared for the body is within the limit. -/
structure Request.IsSignedUpload (request : Request) (media : MediaService) (now : Int)
    (name : String) (kind : MediaKind) (expiry : Int) : Prop where
  url : request.target.url =
    s!"{media.signer.basePath}?name={name}&type={kind.name}&exp={expiry}" ++
      "&hash=" ++ media.signer.sign
        s!"{media.signer.basePath}?name={name}&type={kind.name}&exp={expiry}"
  in_time : now < expiry
  declared : ∃ length : Int, readLength request = .ok length ∧ 0 ≤ length ∧
    length ≤ media.settings.limits.of kind

theorem isSignedUpload_of_allowed {media : MediaService} {now : Int} {request : Request}
    {upload : Upload} (read : readUpload request = .ok upload)
    (allowed : media.allow upload now = .ok ()) :
    request.IsSignedUpload media now upload.name upload.kind upload.expiry := by
  rcases of_readUpload_eq_ok read with ⟨length, url, -⟩
  rcases (MediaService.allow_eq_ok_iff media upload now).mp allowed with ⟨in_time, signed, within⟩
  refine ⟨?_, in_time, upload.declaredLength, length, readLength_nonneg length, within⟩
  rw [← url, signed]
  rfl

/-- What an upload under a name leaves when it succeeds, and when its body breaks. -/
structure PutsOnly (request : Request) (name : String) (before after : MemoryStore)
    (response : Response) : Prop where
  counted : after.puts = before.puts + 1
  kept : response.status = 200 → ∃ data : ByteArray, request.body.collect = .ok data ∧
    after.object? name = some
      { contentType :=
          ((request.header? "content-type").bind Text.plainText?).getD "application/octet-stream"
        data } ∧
    ∀ other, other ≠ name → after.object? other = before.object? other
  otherwise : response.status ≠ 200 → ∀ key, after.object? key = before.object? key

theorem respond_upload_of_allowed {μ ρ : Type} [SeenHistory μ] [Repository ρ] (site : Site)
    (moment : Moment) {request : Request} (app : App MemoryStore μ ρ) {upload : Upload}
    (put : request.method = .put) (routed : request.target.segments = Route.upload.segments)
    (read : readUpload request = .ok upload)
    (allowed : site.media.allow upload moment.now = .ok ()) :
    ∃ (response : Response) (after : App MemoryStore μ ρ),
      site.respond moment request app = .ok (response, after) ∧
        PutsOnly request upload.name app.store after.store response := by
  have ran : (site.upload moment request : Handler MemoryStore μ ρ Response).run app = _ :=
    Site.run_upload_of_allowed read allowed
  rcases of_readUpload_eq_ok read with ⟨-, -, contentType⟩
  cases collected : request.body.collect with
  | error fault =>
    rw [MemoryStore.put_of_broken collected] at ran
    refine ⟨_, _, Site.respond_of_error routed put ran, rfl, ?_, fun _ _ => rfl⟩
    intro succeeded
    cases succeeded
  | ok data =>
    rw [MemoryStore.put_of_collected collected] at ran
    refine ⟨_, _, Site.respond_of_ok routed put ran, rfl,
      fun _ => ⟨data, collected, ?_, ?_⟩, ?_⟩
    · rw [MemoryStore.object?_insert, if_pos rfl, contentType]
      rfl
    · intro other different
      rw [MemoryStore.object?_insert, if_neg (Ne.symm different)]
      rfl
    · intro failed
      exact absurd rfl failed

theorem respond_upload_of_refused {μ ρ : Type} [SeenHistory μ] [Repository ρ] (site : Site)
    (moment : Moment) {request : Request} (app : App MemoryStore μ ρ) {error : WebError}
    (put : request.method = .put) (routed : request.target.segments = Route.upload.segments)
    (fault : error.IsClientFault)
    (ran : (site.upload moment request : Handler MemoryStore μ ρ Response).run app =
      .ok (.error error, app)) :
    ∃ response : Response, site.respond moment request app = .ok (response, app) ∧
      400 ≤ response.status ∧ response.status < 500 :=
  ⟨_, Site.respond_of_error routed put ran, fault⟩

/-- A request to upload either has the store put one object, and then its URL is exactly a signed
one that is still good and its declared length is within the limit; or it is refused as a mistake
of the client, and the store is left as it was. -/
theorem respond_upload {μ ρ : Type} [SeenHistory μ] [Repository ρ] (site : Site) (moment : Moment)
    (request : Request) (app : App MemoryStore μ ρ) (put : request.method = .put)
    (routed : request.target.segments = Route.upload.segments) :
    ∃ (response : Response) (after : App MemoryStore μ ρ),
      site.respond moment request app = .ok (response, after) ∧
      (after.store.puts ≠ app.store.puts → ∃ (name : String) (kind : MediaKind) (expiry : Int),
        request.IsSignedUpload site.media moment.now name kind expiry ∧
          PutsOnly request name app.store after.store response) ∧
      (after.store.puts = app.store.puts →
        400 ≤ response.status ∧ response.status < 500 ∧ after.store = app.store) := by
  cases read : readUpload request with
  | error error =>
    obtain ⟨response, answered, fault⟩ :=
      respond_upload_of_refused site moment app put routed (failsOnly_readUpload request error read)
        (Site.run_upload_of_unreadable read)
    exact ⟨response, app, answered, fun more => absurd rfl more, fun _ => ⟨fault.1, fault.2, rfl⟩⟩
  | ok upload =>
    cases allowed : site.media.allow upload moment.now with
    | error error =>
      obtain ⟨response, answered, fault⟩ :=
        respond_upload_of_refused site moment app put routed
          (isClientFault_media (MediaService.allow_error allowed))
          (Site.run_upload_of_refused read allowed)
      exact ⟨response, app, answered, fun more => absurd rfl more,
        fun _ => ⟨fault.1, fault.2, rfl⟩⟩
    | ok _ =>
      obtain ⟨response, after, answered, puts⟩ :=
        respond_upload_of_allowed site moment app put routed read allowed
      have signed := isSignedUpload_of_allowed read allowed
      refine ⟨response, after, answered,
        fun _ => ⟨upload.name, upload.kind, upload.expiry, signed, puts⟩, ?_⟩
      intro same
      have counted := puts.counted
      omega

theorem respond_upload_sample :
    ∃ (response : Response) (after : App MemoryStore MemoryHistory MemoryCatalog),
      Sample.site.respond Sample.moment Sample.uploadRequest Sample.app = .ok (response, after) ∧
      ∃ (name : String) (kind : MediaKind) (expiry : Int),
        Sample.uploadRequest.IsSignedUpload Sample.site.media Sample.moment.now name kind expiry ∧
          PutsOnly Sample.uploadRequest name Sample.app.store after.store response := by
  obtain ⟨response, after, answered, signed, -⟩ :=
    respond_upload Sample.site Sample.moment Sample.uploadRequest Sample.app rfl rfl
  have puts : (Sample.site.respond Sample.moment Sample.uploadRequest Sample.app).toOption.map
      (fun outcome => outcome.2.store.puts) = some 1 := by decide +kernel
  rw [answered] at puts
  have counted : after.store.puts = 1 := Option.some.inj puts
  exact ⟨response, after, answered, signed (counted ▸ by decide)⟩

end Web

end Backbeat
