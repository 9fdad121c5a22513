import Backbeat.Bucket.Store
import Backbeat.Proofs.Data.Agreement
import Backbeat.Rehearsal.Exchanges

/-!
# Stores on hosts that answer alike

Two hosts answer a request alike when, in related states, they give the same answer and are left in
related states.  What stores on them do then agrees: looking at objects, if the requests that look
at them are answered alike, and putting objects, if all requests are.

A host that lists its exchanges answers every request as the host that it keeps.  So putting does on
either of them what it does on the other, and the list tells what is said to the host kept.
-/

namespace Backbeat

open Bucket (Host Request Reply Refusal)
open Rehearsal (ListedHost)

variable {σ τ : Type}

/-- In related states, two hosts give the same answer to a request. -/
def AnsweredAlike [Host σ] [Host τ] (related : σ → τ → Prop) (endpoint : String)
    (request : Request) : Prop :=
  ∀ service other, related service other →
    (Host.serve endpoint request service).1 = (Host.serve endpoint request other).1 ∧
      related (Host.serve endpoint request service).2 (Host.serve endpoint request other).2

namespace BucketStore

/-- Two stores that differ in nothing but the states of their hosts, which are related. -/
structure Alike (related : σ → τ → Prop) (endpoint : String) (left : BucketStore σ)
    (right : BucketStore τ) : Prop where
  service : related left.service right.service
  left_endpoint : left.endpoint = endpoint
  right_endpoint : right.endpoint = endpoint
  bucket : left.bucket = right.bucket
  key : left.key = right.key
  partSize : left.partSize = right.partSize

section Agreement

variable {related : σ → τ → Prop} {endpoint : String}

theorem agrees_look_bucket {ε : Type} :
    Agrees (Alike related endpoint) (Action.look BucketStore.bucket : Action _ ε _)
      (Action.look BucketStore.bucket) :=
  .look fun _ _ same => same.bucket

variable [Host σ] [Host τ]

theorem agrees_send {request : Request}
    (alike : AnsweredAlike related endpoint request.arriving) :
    Agrees (Alike related endpoint) (send request) (send request) := by
  refine .answer ?_
  intro left right same
  obtain ⟨held, rfl, other_endpoint, bucket, key, partSize⟩ := same
  cases isSendable request with
  | false => exact ⟨rfl, held, rfl, other_endpoint, bucket, key, partSize⟩
  | true =>
    have answered := alike left.service right.service held
    rw [← other_endpoint] at answered ⊢
    exact ⟨answered.1, answered.2, rfl, rfl, bucket, key, partSize⟩

theorem agrees_demand {request : Request}
    (alike : AnsweredAlike related endpoint request.arriving) :
    Agrees (Alike related endpoint) (demand request) (demand request) :=
  (agrees_send alike).mapError _

/-- Sizes are told alike if the requests for them are answered alike. -/
theorem agrees_stat {key : String}
    (alike : ∀ bucket, AnsweredAlike related endpoint (.headObject bucket key)) :
    Agrees (Alike related endpoint) (stat key) (stat key) := by
  refine agrees_look_bucket.bind fun bucket => ?_
  refine ((agrees_send (alike bucket)).mapError _).bind fun reply => ?_
  cases reply with
  | head length contentType =>
    exact (Agrees.ofExcept (readLength length)).bind fun size => .pure _
  | done => exact .pure _
  | content data => exact .pure _
  | tagged etag => exact .pure _
  | created upload => exact .pure _

/-- Bytes are given alike if the requests for them are answered alike. -/
theorem agrees_getRange {key : String} {span : Option Span}
    (alike : ∀ bucket range, AnsweredAlike related endpoint (.getObject bucket key range)) :
    Agrees (Alike related endpoint) (getRange key span) (getRange key span) := by
  refine agrees_look_bucket.bind fun bucket => ?_
  refine ((agrees_send (alike bucket _)).mapError _).bind fun reply => ?_
  cases reply with
  | content data => exact .pure _
  | done => exact .pure _
  | head length contentType => exact .pure _
  | tagged etag => exact .pure _
  | created upload => exact .pure _

variable (alike : ∀ request, AnsweredAlike related endpoint request)

include alike

theorem agrees_uploadParts (bucket key upload : String) (number sent : Nat)
    (parts : List ByteArray) :
    Agrees (Alike related endpoint) (uploadParts bucket key upload number sent parts)
      (uploadParts bucket key upload number sent parts) := by
  induction parts generalizing number sent with
  | nil => exact .pure []
  | cons data rest ih =>
    exact (Agrees.ofChecked _).bind fun _ =>
      (agrees_demand (alike _)).bind fun reply =>
        (ih (number + 1) (sent + data.size)).bind fun later => .pure _

theorem agrees_uploadBody (bucket key upload : String) (parts : Parts) :
    Agrees (Alike related endpoint) (uploadBody bucket key upload parts)
      (uploadBody bucket key upload parts) := by
  refine (agrees_uploadParts alike bucket key upload 1 0 parts.pieces).bind fun listed => ?_
  cases parts.fault with
  | some fault => exact .fail _
  | none => exact .pure _

theorem agrees_fillUpload (bucket key upload : String) (parts : Parts) :
    Agrees (Alike related endpoint) (fillUpload bucket key upload parts)
      (fillUpload bucket key upload parts) := by
  refine (agrees_uploadBody alike bucket key upload parts).attempt.bind fun result => ?_
  cases result with
  | ok listed => exact (agrees_demand (alike _)).bind fun reply => .pure _
  | error error => exact (agrees_send (alike _)).regardless.bind fun _ => .fail _

theorem agrees_putCut (bucket key contentType : String) (parts : Parts) :
    Agrees (Alike related endpoint) (putCut bucket key contentType parts)
      (putCut bucket key contentType parts) := by
  rw [putCut, putCut]
  split
  · cases parts.fault with
    | some fault => exact .fail _
    | none => exact (agrees_demand (alike _)).bind fun reply => .pure _
  · exact (agrees_demand (alike _)).bind fun reply =>
      (Agrees.ofExcept (uploadOf reply)).bind fun upload =>
        agrees_fillUpload alike bucket key upload parts

/-- Bodies are put alike on hosts that answer everything alike. -/
theorem agrees_put (key contentType : String) (body : ByteStream) :
    Agrees (Alike related endpoint) (put key contentType body) (put key contentType body) :=
  agrees_look_bucket.bind fun bucket =>
    (Agrees.look fun _ _ same => same.partSize).bind fun size =>
      (Agrees.ofChecked (allocate size)).bind fun _ =>
        agrees_putCut alike bucket key contentType (body.parts size)

end Agreement

/-! ## Hosts that list their exchanges -/

/-- The store on the host that a listing one keeps. -/
def unlisted (store : BucketStore (ListedHost σ)) : BucketStore σ where
  service := store.service.kept
  endpoint := store.endpoint
  bucket := store.bucket
  key := store.key
  partSize := store.partSize
  leastPartSize_le := store.leastPartSize_le

/-- A store is the one on the host kept if it differs in nothing but its host. -/
theorem Alike.unlisted_eq {endpoint : String} {listed : BucketStore (ListedHost σ)}
    {store : BucketStore σ}
    (same : Alike (fun (listed : ListedHost σ) (host : σ) => listed.kept = host) endpoint listed
      store) :
    listed.unlisted = store := by
  cases store
  obtain ⟨rfl, rfl, rfl, rfl, rfl, rfl⟩ := same
  rfl

variable [Host σ]

theorem answeredAlike_kept (endpoint : String) (request : Request) :
    AnsweredAlike (fun (listed : ListedHost σ) (host : σ) => listed.kept = host) endpoint
      request := by
  rintro listed _ rfl
  exact ⟨rfl, rfl⟩

/-- Listing the exchanges of a put makes no difference to it. -/
theorem run_put_unlisted {store after : BucketStore (ListedHost σ)} {key contentType : String}
    {body : ByteStream} {result : Except MediaError PutReceipt}
    (ran : (put key contentType body).run store = .ok (result, after)) :
    (put key contentType body).run store.unlisted = .ok (result, after.unlisted) := by
  have same : Alike (fun (listed : ListedHost σ) (host : σ) => listed.kept = host) store.endpoint
      store store.unlisted := ⟨rfl, rfl, rfl, rfl, rfl, rfl⟩
  obtain ⟨other, otherRan, kept⟩ :=
    (agrees_put (answeredAlike_kept store.endpoint) key contentType body).run_ok same ran
  rw [otherRan, kept.unlisted_eq]

end BucketStore

end Backbeat
