import Backbeat.Proofs.Catalog.Candidates
import Backbeat.Proofs.Data.Turns
import Backbeat.Proofs.Web.Answering
import Backbeat.Rehearsal.Sample
import Backbeat.Web.Archive.Steps

/-!
# The first to claim an archive has it

When nobody comes between the steps of a request for an archive, they are what serving the request
does.  Otherwise two users may both find that a beat has no owner and both claim it.  The claim then
says who has won, and that is compared.

The main statement is that the first to claim a beat is its owner for good, whatever the order of
the steps: this user is granted the archive and everyone else is turned away.
-/

namespace Backbeat

namespace MemoryCatalog

variable (catalog : MemoryCatalog) (id : Uuid) (user : String)

/-- Recording an owner leaves the owners there are. -/
theorem get?_saveOwner (other : Uuid) :
    (catalog.saveOwner id user).2.owners.get? other =
      (catalog.owners.get? other).or (if id = other then some user else none) := by
  rw [saveOwner]
  split
  · next owner recorded =>
    split
    · next same => rw [← same, recorded, Option.some_or]
    · rw [Option.or_none]
  · next unowned =>
    show (catalog.owners.insert id user).get? other = _
    rw [Table.get?_insert]
    split
    · next same => rw [← same, unowned, Option.none_or]
    · rw [Option.or_none]

/-- Recording an owner tells who the owner is then. -/
theorem get?_saveOwner_self :
    (catalog.saveOwner id user).2.owners.get? id = some (catalog.saveOwner id user).1 := by
  rw [saveOwner]
  split
  · assumption
  · exact Table.get?_insert_self _ _ _

variable {catalog id} in
theorem id_of_getById {beat : Beat} (listed : catalog.getById id = .ok beat) : beat.id = id := by
  rw [getById] at listed
  split at listed
  · next present =>
    cases listed
    exact catalog.keyed present
  · cases listed

end MemoryCatalog

namespace Web

/-! ## The steps in a row -/

theorem ownerOrNone_ownerOf (catalog : MemoryCatalog) (id : Uuid) :
    ownerOrNone (catalog.ownerOf id) = .ok (catalog.owners.get? id) := by
  rw [MemoryCatalog.ownerOf]
  cases catalog.owners.get? id <;> rfl

/-- Looking for an owner first makes no difference when nobody comes in between. -/
theorem run_ownerFor (catalog : MemoryCatalog) (id : Uuid) (user : String) :
    (ownerFor id user : Action MemoryCatalog RepositoryError String).run catalog =
      .ok (.ok (catalog.saveOwner id user).1, (catalog.saveOwner id user).2) := by
  have looked : ((Repository.ownerOf id).attempt :
      Action MemoryCatalog RepositoryError _).run catalog =
        .ok (.ok (catalog.ownerOf id), catalog) :=
    rfl
  rw [ownerFor, Action.run_bind_of_ok looked,
    Action.run_bind_ofExcept_of_ok (ownerOrNone_ownerOf catalog id)]
  cases recorded : catalog.owners.get? id with
  | some owner =>
    rw [MemoryCatalog.saveOwner, recorded]
    rfl
  | none => rfl

namespace ArchiveRequest

variable (link : Beat → String) (request : ArchiveRequest) (beat : Beat) (catalog : MemoryCatalog)

theorem run_conclude (owner : String) :
    (request.conclude link beat owner).whole.run catalog =
      .ok ((requireOwner owner request.user).map fun _ => .ofJson 200 (linkJson (link beat)),
        catalog) := by
  rw [conclude, Process.whole_bind, Acquisition.compare, Process.whole_atomic, requireOwner]
  split <;> rfl

theorem run_settle :
    (request.settle link beat).whole.run catalog =
      (request.conclude link beat (catalog.saveOwner beat.id request.user).1).whole.run
        (catalog.saveOwner beat.id request.user).2 := by
  have looked : (Acquisition.checkOwner beat.id).whole.run catalog =
      .ok (.ok (catalog.owners.get? beat.id), catalog) := by
    rw [Acquisition.checkOwner, Process.whole_atomic]
    show Except.ok
      ((ownerOrNone (catalog.ownerOf beat.id)).mapError WebError.repository, catalog) = _
    rw [ownerOrNone_ownerOf]
    rfl
  rw [settle, Process.whole_bind, Action.run_bind_of_ok looked]
  cases recorded : catalog.owners.get? beat.id with
  | some owner => rw [MemoryCatalog.saveOwner, recorded]
  | none =>
    rw [claim, Process.whole_bind]
    exact Action.run_bind_of_ok rfl

theorem run_steps :
    (request.steps link).whole.run catalog =
      match request.find catalog with
      | .error error => .ok (.error error, catalog)
      | .ok beat => (request.settle link beat).whole.run catalog := by
  rw [steps, Process.whole_bind, Process.whole_atomic]
  cases found : request.find catalog with
  | error error =>
    apply Action.run_bind_of_error
    exact congrArg (fun result => Except.ok (result, catalog)) found
  | ok beat =>
    apply Action.run_bind_of_ok
    exact congrArg (fun result => Except.ok (result, catalog)) found

end ArchiveRequest

namespace Site

variable {σ μ : Type}

/-- The application with another catalog. -/
def withCatalog (catalog : MemoryCatalog) (app : App σ μ MemoryCatalog) : App σ μ MemoryCatalog :=
  { app with feed := { app.feed with repository := catalog } }

theorem run_acquire (id : Uuid) (user : String) (app : App σ μ MemoryCatalog) :
    (acquire id user : Handler σ μ MemoryCatalog Unit).run app =
      .ok (requireOwner (app.feed.repository.saveOwner id user).1 user,
        withCatalog (app.feed.repository.saveOwner id user).2 app) :=
  Action.run_bind_of_ok (Handler.run_onRepository (run_ownerFor app.feed.repository id user))

variable [ObjectStore σ]

theorem run_link {site : Site} {key url : String} (app : App σ μ MemoryCatalog)
    (signed : (site.media.downloadUrl key : Action σ MediaError String).run app.store =
      .ok (.ok url, app.store)) :
    (Handler.onStore (site.media.downloadUrl key) >>= fun url =>
      pure (.ofJson 200 (linkJson url)) : Handler σ μ MemoryCatalog Response).run app =
        .ok (.ok (.ofJson 200 (linkJson url)), app) :=
  Action.run_bind_of_ok (Handler.run_onStore signed)

/-- Once the beat is known, what is left of the steps is what is left of serving. -/
theorem run_grant {site : Site} {link : Beat → String} (request : ArchiveRequest) (beat : Beat)
    (app : App σ μ MemoryCatalog)
    (signed : (site.media.downloadUrl beat.archivePath : Action σ MediaError String).run app.store =
      .ok (.ok (link beat), app.store)) :
    (acquire beat.id request.user >>= fun _ =>
      Handler.onStore (site.media.downloadUrl beat.archivePath) >>= fun url =>
        pure (.ofJson 200 (linkJson url)) : Handler σ μ MemoryCatalog Response).run app =
      (Action.onPart (fun app => app.feed.repository) withCatalog
        (request.settle link beat).whole).run app := by
  have acquired := run_acquire beat.id request.user app
  rw [Action.run_onPart_eq, ArchiveRequest.run_settle, ArchiveRequest.run_conclude]
  cases granted : requireOwner (app.feed.repository.saveOwner beat.id request.user).1
      request.user with
  | error error =>
    rw [granted] at acquired
    exact Action.run_bind_of_error acquired
  | ok _ =>
    rw [granted] at acquired
    exact (Action.run_bind_of_ok acquired).trans (run_link (withCatalog _ app) signed)

/-- The steps of a request in a row are what serving it does, as long as links can be signed. -/
theorem run_archive {site : Site} {link : Beat → String} {segment : String} {message : Request}
    {request : ArchiveRequest} {app : App σ μ MemoryCatalog}
    (asked : readUser message = .ok request.user) (named : readId segment = .ok request.beat)
    (signed : ∀ beat : Beat,
      (site.media.downloadUrl beat.archivePath : Action σ MediaError String).run app.store =
        .ok (.ok (link beat), app.store)) :
    (site.archive segment message : Handler σ μ MemoryCatalog Response).run app =
      (Action.onPart (fun app => app.feed.repository) withCatalog
        (request.steps link).whole).run app := by
  rw [archive, Action.run_bind_ofExcept_of_ok asked, Action.run_bind_ofExcept_of_ok named,
    Action.run_onPart_eq, ArchiveRequest.run_steps, Handler.namedBeat]
  have looked : (Repository.getById request.beat : Action MemoryCatalog RepositoryError Beat).run
      app.feed.repository =
        .ok (app.feed.repository.getById request.beat, app.feed.repository) := rfl
  have answered : (Handler.onRepository (Repository.getById request.beat) :
      Handler σ μ MemoryCatalog Beat).run app =
        .ok ((app.feed.repository.getById request.beat).mapError .repository, app) :=
    Handler.run_onRepository looked
  cases listed : app.feed.repository.getById request.beat with
  | error error =>
    have failed : request.find app.feed.repository = .error (.repository error) := by
      rw [ArchiveRequest.find, listed]
      rfl
    rw [listed] at answered
    rw [failed]
    exact Action.run_bind_of_error answered
  | ok beat =>
    rw [listed] at answered
    rw [Action.run_bind_of_ok answered]
    have found : request.find app.feed.repository =
        (requireUploaded beat.archiveUploaded "archive" beat).map fun _ => beat := by
      rw [ArchiveRequest.find, listed]
      rfl
    rw [found]
    cases requireUploaded beat.archiveUploaded "archive" beat with
    | error error => rfl
    | ok _ =>
      exact (Action.run_bind_ofExcept_of_ok rfl).trans (run_grant request beat app (signed beat))

end Site

/-! ## The steps among those of others -/

/-- What is answered to a request, however it has ended. -/
def answerTo : Except WebError Response → Response
  | .ok response => response
  | .error error => error.response

theorem WebError.status_eq (error : WebError) :
    error.response.status = error.report.shown.kind.code := by
  cases error <;> rfl

/-- A refusal is never taken for a success. -/
theorem WebError.status_ne (error : WebError) : error.response.status ≠ 200 := by
  rw [status_eq]
  cases error.report.shown.kind <;> decide

/-- The response tells a user that the archive is someone else's. -/
structure Response.RefusesOwner (response : Response) : Prop where
  status : response.status = 403
  told : ∃ failure : Failure, failure.reason = some "InvalidOwner" ∧
    response.body = failure.toJson.render.toUTF8

theorem Response.refusesOwner : WebError.foreignOwner.response.RefusesOwner where
  status := rfl
  told := ⟨WebError.foreignOwner.report.shown, rfl, rfl⟩

theorem requireUploaded_eq_ok_iff {uploaded : Bool} {medium : String} {beat : Beat} :
    requireUploaded uploaded medium beat = .ok () ↔ uploaded = true := by
  cases uploaded <;> simp [requireUploaded]

namespace ArchiveRequest

variable {κ : Type} {link : Beat → String} {request : ArchiveRequest} {beat : Beat}
  {start catalog after : MemoryCatalog}

theorem find_congr (request : ArchiveRequest) (same : catalog.beats = start.beats) :
    request.find catalog = request.find start := by
  rw [find, find, MemoryCatalog.getById, MemoryCatalog.getById, same]

theorem find_eq_ok_iff :
    request.find catalog = .ok beat ↔
      catalog.getById request.beat = .ok beat ∧ beat.archiveUploaded = true := by
  constructor
  · intro found
    rcases bind_eq_ok_iff.mp found with ⟨listed, named, rest⟩
    rcases bind_eq_ok_iff.mp rest with ⟨_, uploaded, same⟩
    cases same
    exact ⟨mapError_eq_ok_iff.mp named, requireUploaded_eq_ok_iff.mp uploaded⟩
  · rintro ⟨named, uploaded⟩
    apply bind_eq_ok_iff.mpr
    refine ⟨beat, mapError_eq_ok_iff.mpr named, ?_⟩
    apply bind_eq_ok_iff.mpr
    exact ⟨(), requireUploaded_eq_ok_iff.mpr uploaded, rfl⟩

theorem id_of_find (found : request.find catalog = .ok beat) : beat.id = request.beat :=
  MemoryCatalog.id_of_getById (find_eq_ok_iff.mp found).1

/-- The catalog as the claims so far have left it: it lists the beats of the start, the first claim
of a beat without an owner counts, and there are claims only of archives that have been uploaded. -/
structure Settled (start catalog : MemoryCatalog) (log : List (κ × ArchiveRequest)) : Prop where
  beats : catalog.beats = start.beats
  owner_eq : ∀ id, catalog.owners.get? id =
    (start.owners.get? id).or ((log.find? (·.2.beat = id)).map (·.2.user))
  uploaded : ∀ entry ∈ log, ∃ beat, start.getById entry.2.beat = .ok beat ∧
    beat.archiveUploaded = true

/-- Every owner there is stays. -/
def Remembers (catalog after : MemoryCatalog) : Prop :=
  ∀ id owner, catalog.owners.get? id = some owner → after.owners.get? id = some owner

/-- How far a request can be.  What it knows of the beat was so at the start and has not changed;
what it knows of the owner is still so. -/
inductive Stage (link : Beat → String) (start : MemoryCatalog) (request : ArchiveRequest)
    (catalog : MemoryCatalog) : Acquisition Response → Prop where
  | fresh : Stage link start request catalog (request.steps link)
  | missing {error : WebError} (failed : request.find start = .error error) :
      Stage link start request catalog (.ended (.error error))
  | found {beat : Beat} (listed : request.find start = .ok beat) :
      Stage link start request catalog (request.settle link beat)
  | unowned {beat : Beat} (listed : request.find start = .ok beat) :
      Stage link start request catalog (request.claim link beat)
  | told {beat : Beat} {owner : String} (listed : request.find start = .ok beat)
      (recorded : catalog.owners.get? request.beat = some owner) :
      Stage link start request catalog (request.conclude link beat owner)
  | granted {beat : Beat} (listed : request.find start = .ok beat)
      (recorded : catalog.owners.get? request.beat = some request.user) :
      Stage link start request catalog (.ended (.ok (.ofJson 200 (linkJson (link beat)))))
  | foreign {beat : Beat} {owner : String} (listed : request.find start = .ok beat)
      (recorded : catalog.owners.get? request.beat = some owner) (other : owner ≠ request.user) :
      Stage link start request catalog (.ended (.error .foreignOwner))

theorem Stage.later {process : Acquisition Response}
    (stage : Stage link start request catalog process) (remembers : Remembers catalog after) :
    Stage link start request after process := by
  cases stage with
  | fresh => exact .fresh
  | missing failed => exact .missing failed
  | found listed => exact .found listed
  | unowned listed => exact .unowned listed
  | told listed recorded => exact .told listed (remembers _ _ recorded)
  | granted listed recorded => exact .granted listed (remembers _ _ recorded)
  | foreign listed recorded other => exact .foreign listed (remembers _ _ recorded) other

theorem Remembers.saveOwner (catalog : MemoryCatalog) (id : Uuid) (user : String) :
    Remembers catalog (catalog.saveOwner id user).2 := by
  intro other owner recorded
  rw [MemoryCatalog.get?_saveOwner, recorded, Option.some_or]

/-- A claim of an archive that has been uploaded is added to those before. -/
theorem Settled.claim {log : List (κ × ArchiveRequest)} (settled : Settled start catalog log)
    (listed : request.find start = .ok beat) (caller : κ) :
    Settled start (catalog.saveOwner beat.id request.user).2
      (log ++ [(caller, ⟨beat.id, request.user⟩)]) where
  beats := (MemoryCatalog.beats_saveOwner _ _ _).trans settled.beats
  owner_eq := by
    intro id
    rw [MemoryCatalog.get?_saveOwner, settled.owner_eq, List.find?_append, Option.map_or,
      Option.or_assoc]
    by_cases same : beat.id = id <;> simp [same]
  uploaded := by
    intro entry member
    rcases List.mem_append.mp member with earlier | last
    · exact settled.uploaded entry earlier
    · cases List.mem_singleton.mp last
      refine ⟨beat, ?_⟩
      rw [id_of_find listed]
      exact find_eq_ok_iff.mp listed

theorem Settled.deserved {log : List (κ × ArchiveRequest)} {id : Uuid} {owner : String}
    (settled : Settled start catalog log) (recorded : catalog.owners.get? id = some owner) :
    start.owners.get? id = some owner ∨
      ∃ beat, start.getById id = .ok beat ∧ beat.archiveUploaded = true := by
  rw [settled.owner_eq] at recorded
  rcases Option.or_eq_some_iff.mp recorded with before | ⟨-, claimed⟩
  · exact .inl before
  · rcases Option.map_eq_some_iff.mp claimed with ⟨entry, first, -⟩
    have same : entry.2.beat = id := by simpa using List.find?_some first
    rw [← same]
    exact .inr (settled.uploaded entry (List.mem_of_find?_eq_some first))

/-- What a turn of a request leaves. -/
theorem Stage.turn {log : List (κ × ArchiveRequest)} {process : Acquisition Response} (caller : κ)
    (settled : Settled start catalog log) (stage : Stage link start request catalog process) :
    Settled start (process.turn catalog).service
        (log ++ (process.turn catalog).event.toList.map (caller, ·)) ∧
      Remembers catalog (process.turn catalog).service ∧
      Stage link start request (process.turn catalog).service (process.turn catalog).rest := by
  have unchanged : Settled start catalog (log ++ []) ∧ Remembers catalog catalog := by
    rw [List.append_nil]
    exact ⟨settled, fun _ _ recorded => recorded⟩
  cases stage with
  | fresh =>
    rw [steps, Process.turn_atomic]
    refine ⟨unchanged.1, unchanged.2, ?_⟩
    cases found : request.find start with
    | error error =>
      rw [find_congr request settled.beats, found]
      exact .missing found
    | ok beat =>
      rw [find_congr request settled.beats, found]
      exact .found found
  | missing failed => exact ⟨unchanged.1, unchanged.2, .missing failed⟩
  | found listed =>
    rw [settle, Acquisition.checkOwner, Process.turn_atomic]
    refine ⟨unchanged.1, unchanged.2, ?_⟩
    rw [ownerOrNone_ownerOf, id_of_find listed]
    cases recorded : catalog.owners.get? request.beat with
    | none => exact .unowned listed
    | some owner => exact .told listed recorded
  | unowned listed =>
    rw [claim, Acquisition.claim, Process.turn_atomic]
    -- Someone may have been faster since the owner was looked up, but the claim says who.
    refine ⟨settled.claim listed caller, .saveOwner _ _ _, ?_⟩
    apply Stage.told listed
    rw [← id_of_find listed]
    exact MemoryCatalog.get?_saveOwner_self _ _ _
  | @told beat owner listed recorded =>
    rw [conclude, Acquisition.compare, Process.turn_atomic]
    refine ⟨unchanged.1, unchanged.2, ?_⟩
    by_cases own : owner = request.user
    · subst own
      rw [requireOwner, if_pos rfl]
      exact .granted listed recorded
    · rw [requireOwner, if_neg own]
      exact .foreign listed recorded own
  | granted listed recorded => exact ⟨unchanged.1, unchanged.2, .granted listed recorded⟩
  | foreign listed recorded other =>
    exact ⟨unchanged.1, unchanged.2, .foreign listed recorded other⟩

/-- Who is answered with a success is the owner. -/
theorem Stage.owner_of_success {result : Except WebError Response}
    (stage : Stage link start request catalog (.ended result))
    (success : (answerTo result).status = 200) :
    catalog.owners.get? request.beat = some request.user := by
  generalize ended : Process.ended result = process at stage
  cases stage with
  | fresh => cases ended
  | @missing error _ =>
    cases ended
    exact absurd success error.status_ne
  | found _ => cases ended
  | unowned _ => cases ended
  | told _ _ => cases ended
  | granted _ recorded => exact recorded
  | foreign _ _ _ =>
    cases ended
    exact absurd success WebError.foreignOwner.status_ne

/-- Who has ended has been told whether it is the owner, if there is an archive to be had. -/
theorem Stage.decided {result : Except WebError Response}
    (stage : Stage link start request catalog (.ended result))
    (listed : request.find start = .ok beat) :
    ∃ owner, catalog.owners.get? request.beat = some owner ∧
      (owner = request.user → answerTo result = .ofJson 200 (linkJson (link beat))) ∧
      (owner ≠ request.user → (answerTo result).RefusesOwner) := by
  generalize ended : Process.ended result = process at stage
  cases stage with
  | fresh => cases ended
  | missing failed =>
    rw [listed] at failed
    cases failed
  | found _ => cases ended
  | unowned _ => cases ended
  | told _ _ => cases ended
  | granted found recorded =>
    cases ended
    rw [listed] at found
    cases found
    exact ⟨request.user, recorded, fun _ => rfl, fun other => absurd rfl other⟩
  | @foreign _ owner _ recorded other =>
    cases ended
    exact ⟨owner, recorded, fun own => absurd own other, fun _ => Response.refusesOwner⟩

/-- A request has come to its end after four turns. -/
theorem endsWithin_steps (link : Beat → String) (request : ArchiveRequest) :
    (request.steps link).EndsWithin 4 := by
  have conclude (beat : Beat) (owner : String) : (request.conclude link beat owner).EndsWithin 1 :=
    .atomic fun _ => .ended 0 _
  have conclude' (beat : Beat) (owner : String) : (request.conclude link beat owner).EndsWithin 2 :=
    .atomic fun _ => .ended 1 _
  have claim (beat : Beat) : (request.claim link beat).EndsWithin 2 :=
    .atomic fun owner => conclude beat owner
  have settle (beat : Beat) : (request.settle link beat).EndsWithin 3 := by
    apply Process.EndsWithin.atomic
    intro owner
    cases owner with
    | none => exact claim beat
    | some owner => exact conclude' beat owner
  exact .atomic fun beat => settle beat

/-- How requests get along on one catalog. -/
def accord (link : Beat → String) (requests : κ → ArchiveRequest) (start : MemoryCatalog) :
    Accord κ MemoryCatalog ArchiveRequest WebError Response where
  holds := Settled start
  grows := Remembers
  stage caller := Stage link start (requests caller)
  grows_refl _ _ _ recorded := recorded
  grows_trans first second id owner recorded := second id owner (first id owner recorded)
  stage_of_grows remembers stage := stage.later remembers
  turn settled stage := stage.turn _ settled

theorem abides_crowd (link : Beat → String) (requests : κ → ArchiveRequest)
    (start : MemoryCatalog) : (crowd link requests start).Abides (accord link requests start) where
  holds :=
    { beats := rfl
      owner_eq := fun _ => Option.or_none.symm
      uploaded := nofun }
  stage _ := .fresh

/-- How the first to claim an archive wins among requests that take these turns. -/
structure FirstClaimantWins [DecidableEq κ] (link : Beat → String) (requests : κ → ArchiveRequest)
    (start : MemoryCatalog) (turns : List κ) : Prop where
  /-- The owner of a beat is the one at the start, or else the user of the first claim. -/
  owner_eq : ∀ id, ((crowd link requests start).run turns).service.owners.get? id =
    (start.owners.get? id).or
      ((((crowd link requests start).run turns).log.find? (·.2.beat = id)).map (·.2.user))
  /-- Whoever has been the owner of a beat at any time is so for good. -/
  lasting : ∀ early late, turns = early ++ late →
    Remembers ((crowd link requests start).run early).service
      ((crowd link requests start).run turns).service
  /-- There are new owners only of beats that are listed and whose archives have been uploaded. -/
  deserved : ∀ id owner,
    ((crowd link requests start).run turns).service.owners.get? id = some owner →
      start.owners.get? id = some owner ∨
        ∃ beat, start.getById id = .ok beat ∧ beat.archiveUploaded = true
  /-- Two successes for one beat are for one user. -/
  exclusive : ∀ first second result other,
    ((crowd link requests start).run turns).resultOf? first = some result →
    ((crowd link requests start).run turns).resultOf? second = some other →
    (answerTo result).status = 200 → (answerTo other).status = 200 →
    (requests first).beat = (requests second).beat → (requests first).user = (requests second).user
  /-- A request for an archive that has been uploaded succeeds if its user is the owner, and is
  refused as someone else's otherwise. -/
  decided : ∀ caller beat result, start.getById (requests caller).beat = .ok beat →
    beat.archiveUploaded = true →
    ((crowd link requests start).run turns).resultOf? caller = some result →
      ∃ owner, ((crowd link requests start).run turns).service.owners.get?
          (requests caller).beat = some owner ∧
        (owner = (requests caller).user → answerTo result = .ofJson 200 (linkJson (link beat))) ∧
        (owner ≠ (requests caller).user → (answerTo result).RefusesOwner)
  /-- A request that has had four turns has been answered. -/
  answered : ∀ caller, 4 ≤ turns.count caller →
    ∃ result, ((crowd link requests start).run turns).resultOf? caller = some result

/-- Whatever the order of their steps, of all who ask for the archive of a beat without an owner the
first to claim it is its owner from then on, and the only one to be granted it. -/
theorem first_claimant_wins [DecidableEq κ] (link : Beat → String)
    (requests : κ → ArchiveRequest) (start : MemoryCatalog) (turns : List κ) :
    FirstClaimantWins link requests start turns := by
  have abides := (abides_crowd link requests start).run turns
  have settled : Settled start _ _ := abides.holds
  constructor
  · exact settled.owner_eq
  · rintro early late rfl
    rw [Crowd.run_append]
    exact ((abides_crowd link requests start).run early).grows_run late
  · intro id owner recorded
    exact settled.deserved recorded
  · intro first second result other ended ended' success success' same
    have owner := (abides.stage_of_result ended).owner_of_success success
    have owner' := (abides.stage_of_result ended').owner_of_success success'
    rw [same, owner'] at owner
    exact (Option.some.inj owner).symm
  · intro caller beat result listed uploaded ended
    exact (abides.stage_of_result ended).decided (find_eq_ok_iff.mpr ⟨listed, uploaded⟩)
  · intro caller enough
    exact Crowd.ended_of_turns (endsWithin_steps link (requests caller)) enough

open Rehearsal in
/-- Two users both see that there is no owner, and the second of them is the first to claim. -/
example :
    let request (ann : Bool) : ArchiveRequest := ⟨Sample.beat.id, if ann then "ann" else "bob"⟩
    let catalog := MemoryCatalog.ofBeats [{ Sample.beat with archiveUploaded := true }]
    ((crowd Beat.archivePath request catalog).run
      [true, false, true, false, false, true]).service.owners.get? Sample.beat.id = some "bob" := by
  decide

end ArchiveRequest

end Web

end Backbeat
