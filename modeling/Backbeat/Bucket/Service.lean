import Backbeat.Bucket.Host
import Backbeat.Data.Table
import Backbeat.Text.Integer

/-!
# An object service in memory

The service keeps objects in buckets and lists every request it gets.  An object appears when it
is put or when its upload is completed, and not before: the parts of an unfinished upload are kept
apart, under their numbers, and completing it puts together the parts that are listed then.

For rehearsals, a service can be given disturbances: requests to refuse, and replies from which
something is to be left out.
-/

namespace Backbeat.Bucket

/-- An object as the service keeps it.  A declared length is told in place of the real one. -/
structure KeptObject where
  data : ByteArray
  contentType : Option String
  declaredLength : Option String := none

/-- The length that is told of an object. -/
def KeptObject.length (object : KeptObject) : String :=
  object.declaredLength.getD (toString object.data.size)

/-- An unfinished upload: the object that it is for, and the parts that have come in. -/
structure PendingUpload where
  bucket : String
  key : String
  contentType : String
  parts : Table Nat ByteArray := .empty

/-- What happens to a request or to its reply. -/
inductive Effect where
  | refuse (status : Nat) (code : String)
  | dropTag
  | dropUpload
deriving DecidableEq

/-- A disturbance of the requests of a name, or of the one that comes in a certain place. -/
structure Disturbance where
  request : String
  nth : Option Nat
  effect : Effect

structure Service where
  address : String := "http://127.0.0.1:9000"
  buckets : List String := []
  objects : Table (String × String) KeptObject := .empty
  uploads : Table String PendingUpload := .empty
  log : List Request := []
  disturbances : List Disturbance := []

namespace Service

/-- The name that uploads are known by. -/
def uploadName : String := "up-1"

def putTag (size : Nat) : String := s!"\"put-{size}\""

def partTag (number size : Nat) : String := s!"\"part-{number}-{size}\""

def uploadTag (parts : Nat) : String := s!"\"multi-{parts}\""

def object? (service : Service) (bucket key : String) : Option KeptObject :=
  service.objects.get? (bucket, key)

def insert (service : Service) (bucket key : String) (object : KeptObject) : Service :=
  { service with objects := service.objects.insert (bucket, key) object }

/-- The bytes of a range of an object: an end beyond the object is drawn back, a range that ends
before it starts is none, and one that starts beyond the object cannot be had. -/
def cut (data : ByteArray) : Option (Nat × Nat) → Except Refusal ByteArray
  | none => .ok data
  | some (start, stop) =>
    if stop < start then .ok data
    else if data.size ≤ start then .error (.refused 416 "InvalidRange")
    else .ok (data.extract start (stop + 1))

/-- The unfinished upload of an object under a name. -/
def pending (service : Service) (bucket key upload : String) : Except Refusal PendingUpload :=
  match service.uploads.get? upload with
  | none => .error (.refused 404 "NoSuchUpload")
  | some pending =>
    if pending.bucket = bucket ∧ pending.key = key then .ok pending
    else .error (.refused 404 "NoSuchUpload")

/-- The bytes of the parts that are listed, one after the other. -/
def assemble (pending : PendingUpload) (listed : List (Nat × Option String)) :
    Except Refusal ByteArray :=
  match listed.mapM fun part => pending.parts.get? part.1 with
  | none => .error (.refused 400 "InvalidPart")
  | some pieces => .ok (pieces.foldl (· ++ ·) ByteArray.empty)

def fulfil (service : Service) (request : Request) : Except Refusal Reply × Service :=
  match request with
  | .headBucket bucket =>
    if bucket ∈ service.buckets then (.ok .done, service)
    else (.error (.refused 404 "NotFound"), service)
  | .createBucket bucket =>
    (.ok .done, { service with buckets := bucket :: service.buckets })
  | .headObject bucket key =>
    match service.object? bucket key with
    | none => (.error (.refused 404 "NotFound"), service)
    | some object => (.ok (.head object.length object.contentType), service)
  | .getObject bucket key range =>
    match service.object? bucket key with
    | none => (.error (.refused 404 "NoSuchKey"), service)
    | some object => ((cut object.data range).map .content, service)
  | .putObject bucket key contentType data =>
    (.ok (.tagged (some (putTag data.size))),
      service.insert bucket key { data, contentType := some contentType })
  | .createUpload bucket key contentType =>
    (.ok (.created (some uploadName)),
      { service with uploads := service.uploads.insert uploadName { bucket, key, contentType } })
  | .uploadPart bucket key upload number data =>
    match service.pending bucket key upload with
    | .error refusal => (.error refusal, service)
    | .ok pending =>
      let grown := { pending with parts := pending.parts.insert number data }
      (.ok (.tagged (some (partTag number data.size))),
        { service with uploads := service.uploads.insert upload grown })
  | .completeUpload bucket key upload listed =>
    match service.pending bucket key upload with
    | .error refusal => (.error refusal, service)
    | .ok pending =>
      match assemble pending listed with
      | .error refusal => (.error refusal, service)
      | .ok data =>
        let finished := { service with uploads := service.uploads.erase upload }
        (.ok (.tagged (some (uploadTag listed.length))),
          finished.insert bucket key { data, contentType := some pending.contentType })
  | .abortUpload _ _ upload =>
    (.ok .done, { service with uploads := service.uploads.erase upload })

/-- The reply without what the effects leave out of it. -/
def trimReply (effects : List Effect) : Reply → Reply
  | .tagged etag => .tagged (if Effect.dropTag ∈ effects then none else etag)
  | .created upload => .created (if Effect.dropUpload ∈ effects then none else upload)
  | reply => reply

def count (service : Service) (name : String) : Nat :=
  (service.log.filter fun request => request.name == name).length

/-- What happens to a request that was just listed. -/
def effects (service : Service) (request : Request) : List Effect :=
  let place := service.count request.name
  (service.disturbances.filter fun disturbance =>
    disturbance.request == request.name && disturbance.nth.all (place == ·)).map Disturbance.effect

def refusal? (effects : List Effect) : Option Refusal :=
  effects.findSome? fun effect =>
    match effect with
    | .refuse status code => some (.refused status code)
    | _ => none

def serve (service : Service) (request : Request) : Except Refusal Reply × Service :=
  let listed := { service with log := request :: service.log }
  let effects := listed.effects request
  match refusal? effects with
  | some refusal => (.error refusal, listed)
  | none =>
    let (reply, after) := listed.fulfil request
    (reply.map (trimReply effects), after)

instance : Host Service where
  serve endpoint request service :=
    if endpoint = service.address then service.serve request else (.error .unreachable, service)

end Service

end Backbeat.Bucket
