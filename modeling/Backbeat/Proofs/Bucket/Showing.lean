import Backbeat.Proofs.Bucket.Laws
import Backbeat.Proofs.Bucket.Service
import Backbeat.Proofs.Bucket.Uploading
import Backbeat.Proofs.Media.Intake
import Backbeat.Rehearsal.Looks

/-!
# Puts that fail

A put that fails does not change what a later look at any object shows.  In memory nothing is kept
of a body that breaks.  In a bucket the parts that came in are never made an object: no request
that could make one is sent.
-/

namespace Backbeat

open Bucket (Host Request Reply Refusal Service)
open Rehearsal

/-! ## Looks that agree -/

section Agreement

variable {σ τ : Type} [ObjectStore σ] [ObjectStore τ] {related : σ → τ → Prop}

/-- Related stores show the same when they tell sizes and give bytes alike. -/
theorem seen_eq_of_related
    (stat : ∀ key, Agrees related (ObjectStore.stat key) (ObjectStore.stat key))
    (getRange : ∀ key span,
      Agrees related (ObjectStore.getRange key span) (ObjectStore.getRange key span))
    {store : σ} {other : τ} (held : related store other) (looks : List Look) :
    seen looks store = seen looks other := by
  refine (Agrees.each (fun look => ?_) looks).run_fst held
  cases look with
  | stat key => exact (stat key).attempt.bind fun found => .pure _
  | getRange key span => exact (getRange key span).attempt.bind fun found => .pure _

end Agreement

namespace MemoryStore

theorem object_congr {left right : MemoryStore} (same : left.objects = right.objects)
    (key : String) : left.object key = right.object key := by
  rw [object, object, object?, object?, same]

theorem stat_congr {left right : MemoryStore} (same : left.objects = right.objects)
    (key : String) : left.stat key = right.stat key := by
  rw [stat, stat, object_congr same]

theorem getRange_congr {left right : MemoryStore} (same : left.objects = right.objects)
    (key : String) (span : Option Span) : left.getRange key span = right.getRange key span := by
  unfold getRange
  rw [object_congr same]

theorem agrees_getRange (key : String) (span : Option Span) :
    Agrees (fun left right : MemoryStore => left.objects = right.objects)
      (ObjectStore.getRange key span) (ObjectStore.getRange key span) := by
  intro left right same
  show AlikeEnd _ ((left.getRange key span).map fun result => (result, left))
    ((right.getRange key span).map fun result => (result, right))
  rw [getRange_congr same key span]
  cases right.getRange key span with
  | error trap => exact .trap trap
  | ok result => exact .ends result same

/-- Stores in memory that keep the same objects show the same. -/
theorem seen_congr {left right : MemoryStore} (same : left.objects = right.objects)
    (looks : List Look) : seen looks left = seen looks right := by
  refine seen_eq_of_related (fun key => .answer ?_) agrees_getRange same looks
  intro left right same
  exact ⟨stat_congr same key, same⟩

end MemoryStore

/-! ## Hosts that show what was put -/

namespace ShownBy

variable {σ φ : Type} [Host σ] {endpoint : String} {shown : σ → φ}

/-- A host that lists its exchanges shows what the host shows that it keeps. -/
theorem listed (law : ShownBy endpoint shown) :
    ShownBy endpoint fun host : ListedHost σ => shown host.kept where
  looked request looking _ _ same := law.looked request looking _ _ same
  kept request service unlooked uncommitted := law.kept request service.kept unlooked uncommitted

/-- Stores whose hosts show the same objects show the same. -/
theorem seen_congr (law : ShownBy endpoint shown) {left right : BucketStore σ}
    (same : BucketStore.Alike (fun service other => shown service = shown other) endpoint left
      right)
    (looks : List Look) : seen looks left = seen looks right := by
  refine seen_eq_of_related ?_ ?_ same looks
  · exact fun key => BucketStore.agrees_stat fun bucket => law.looked _ rfl
  · exact fun key span => BucketStore.agrees_getRange fun bucket range => law.looked _ rfl

/-- A conversation in which nothing is looked at and nothing committed changes nothing. -/
theorem conversation (law : ShownBy endpoint shown) {first last : σ} {exchanges : List Exchange}
    (said : Conversation endpoint first exchanges last)
    (quiet : ∀ exchange ∈ exchanges,
      exchange.request.looks = false ∧ exchange.request.commits = false) :
    shown last = shown first := by
  induction said with
  | nil service => rfl
  | @cons first middle last request answer later served continued ih =>
    obtain ⟨unlooked, uncommitted⟩ := quiet _ List.mem_cons_self
    have once := law.kept request first unlooked uncommitted
    rw [served] at once
    exact (ih fun exchange behind => quiet exchange (List.mem_cons_of_mem _ behind)).trans once

end ShownBy

/-! ## Puts in a bucket that fail -/

namespace BucketStore

/-- Some part of an upload is refused. -/
def RefusesPart (exchanges : List Exchange) : Prop :=
  ∃ bucket key upload number data refusal,
    ⟨.uploadPart bucket key upload number data, .error refusal⟩ ∈ exchanges

section Failing

variable {bucket key contentType : String} {parts : Parts} {result : Except MediaError PutReceipt}
  {exchanges : List Exchange}

theorem quiet_of_mem_created {upload : String} {taken : List (ByteArray × Reply)}
    {exchange : Exchange} (listed : exchange ∈ uploadSoFar bucket key contentType upload taken) :
    exchange.request.looks = false ∧ exchange.request.commits = false := by
  rcases List.mem_cons.mp listed with rfl | part
  · exact ⟨rfl, rfl⟩
  · obtain ⟨_, _, same⟩ := request_of_mem_partsTaken part
    rw [same]
    exact ⟨rfl, rfl⟩

/-- A body that breaks, or a part that is refused, ends the put before it commits anything. -/
theorem PutTalk.quiet (talk : PutTalk bucket key contentType parts result exchanges)
    (stopped : parts.fault ≠ none ∨ RefusesPart exchanges) :
    (∃ error, result = .error error) ∧
      ∀ exchange ∈ exchanges,
        exchange.request.looks = false ∧ exchange.request.commits = false := by
  cases talk with
  | broken => exact ⟨⟨_, rfl⟩, nofun⟩
  | unsent => exact ⟨⟨_, rfl⟩, nofun⟩
  | createRefused => exact ⟨⟨_, rfl⟩, by simp [Request.looks, Request.commits]⟩
  | unnamed => exact ⟨⟨_, rfl⟩, by simp [Request.looks, Request.commits]⟩
  | partRefused =>
    refine ⟨⟨_, rfl⟩, List.forall_mem_append.mpr ⟨fun exchange => quiet_of_mem_created, ?_⟩⟩
    simp [Request.looks, Request.commits]
  | brokenLater =>
    refine ⟨⟨_, rfl⟩, List.forall_mem_append.mpr ⟨fun exchange => quiet_of_mem_created, ?_⟩⟩
    simp [Request.looks, Request.commits]
  | wholeRefused small unbroken =>
    obtain ⟨_, _, _, _, _, _, refused⟩ := stopped.resolve_left (absurd unbroken)
    cases List.mem_singleton.mp refused
  | whole small unbroken =>
    obtain ⟨_, _, _, _, _, _, refused⟩ := stopped.resolve_left (absurd unbroken)
    cases List.mem_singleton.mp refused
  | completeRefused large unbroken all =>
    obtain ⟨_, _, _, _, _, _, refused⟩ := stopped.resolve_left (absurd unbroken)
    cases List.mem_singleton.mp (mem_of_refused refused)
  | completed large unbroken all =>
    obtain ⟨_, _, _, _, _, _, refused⟩ := stopped.resolve_left (absurd unbroken)
    cases List.mem_singleton.mp (mem_of_refused refused)

/-- Whatever request other than an abort is refused, that is the result, and so is it that an upload
was created without a name. -/
structure ReportsRefusals (result : Except MediaError PutReceipt) (exchanges : List Exchange) :
    Prop where
  refused : ∀ request refusal, ⟨request, .error refusal⟩ ∈ exchanges →
    (∀ bucket key upload, request ≠ .abortUpload bucket key upload) →
      result = .error (.backend refusal.message)
  unnamed : ∀ bucket key contentType reply,
    ⟨.createUpload bucket key contentType, .ok reply⟩ ∈ exchanges →
      (∀ upload, reply ≠ .created (some upload)) → result = .error (.invalid .noUploadId)

theorem PutTalk.reportsRefusals (talk : PutTalk bucket key contentType parts result exchanges) :
    ReportsRefusals result exchanges := by
  constructor
  case refused =>
    intro request refusal refused unaborted
    cases talk with
    | broken => cases refused
    | unsent => cases refused
    | createRefused =>
      cases List.mem_singleton.mp refused
      rfl
    | unnamed => cases List.mem_singleton.mp refused
    | wholeRefused =>
      cases List.mem_singleton.mp refused
      rfl
    | whole => cases List.mem_singleton.mp refused
    | brokenLater =>
      cases List.mem_singleton.mp (mem_of_refused refused)
      exact absurd rfl (unaborted _ _ _)
    | completeRefused =>
      cases List.mem_singleton.mp (mem_of_refused refused)
      rfl
    | completed => cases List.mem_singleton.mp (mem_of_refused refused)
    | partRefused =>
      rcases List.mem_cons.mp (mem_of_refused refused) with same | behind
      · cases same
        rfl
      · cases List.mem_singleton.mp behind
        exact absurd rfl (unaborted _ _ _)
  case unnamed =>
    intro _ _ _ reply created nameless
    have named {name : String} : reply ≠ .created (some name) := nameless name
    cases talk with
    | broken => cases created
    | unsent => cases created
    | createRefused => cases List.mem_singleton.mp created
    | unnamed => rfl
    | wholeRefused => cases List.mem_singleton.mp created
    | whole => cases List.mem_singleton.mp created
    | brokenLater => exact absurd (reply_of_created created (by simp)) named
    | completeRefused => exact absurd (reply_of_created created (by simp)) named
    | completed => exact absurd (reply_of_created created (by simp)) named
    | partRefused => exact absurd (reply_of_created created (by simp)) named

/-- What is reported of a body that breaks.  Before a part is full that is how it breaks, and then
nothing is requested.  A full part calls for an upload, and if that cannot be requested then this is
reported.  Otherwise it is how the body breaks, unless something else failed before. -/
structure ReportsBreak (bucket key contentType : String) (full : Prop) (fault : StreamFault)
    (result : Except MediaError PutReceipt) (exchanges : List Exchange) : Prop where
  early : ¬full → exchanges = [] ∧ result = .error (.stream fault)
  unsendable : full → key.isEmpty = true ∨ Text.isHeaderText contentType = false →
    exchanges = [] ∧ result = .error (.backend Refusal.unsendable.message)
  late : full → key.isEmpty = false → Text.isHeaderText contentType = true →
    (∀ exchange ∈ exchanges,
      (∀ bucket key upload, exchange.request ≠ .abortUpload bucket key upload) →
        exchange.Succeeds) →
    (∃ upload, ⟨.createUpload bucket key (Text.headerValue contentType),
      .ok (.created (some upload))⟩ ∈ exchanges) ∧ result = .error (.stream fault)

theorem isSendable_createUpload_iff (bucket key contentType : String) :
    isSendable (.createUpload bucket key contentType) = true ↔
      key.isEmpty = false ∧ Text.isHeaderText contentType = true := by
  simp [isSendable, Request.key?, Request.contentType?]

/-- When a full part is there and the upload could be requested, how the body breaks is reported
unless something else failed. -/
theorem ReportsBreak.of_sent {fault : StreamFault} (large : parts.full ≠ [])
    (sendable : isSendable (.createUpload bucket key contentType) = true)
    (late : (∀ exchange ∈ exchanges,
      (∀ bucket key upload, exchange.request ≠ .abortUpload bucket key upload) →
        exchange.Succeeds) →
      (∃ upload, ⟨.createUpload bucket key (Text.headerValue contentType),
        .ok (.created (some upload))⟩ ∈ exchanges) ∧ result = .error (.stream fault)) :
    ReportsBreak bucket key contentType (parts.full ≠ []) fault result exchanges where
  early small := absurd large small
  unsendable _ unable := by
    obtain ⟨keyed, typed⟩ := (isSendable_createUpload_iff bucket key contentType).mp sendable
    rcases unable with keyless | untyped
    · cases keyed.symm.trans keyless
    · cases typed.symm.trans untyped
  late _ _ _ := late

theorem PutTalk.reportsBreak (talk : PutTalk bucket key contentType parts result exchanges)
    {fault : StreamFault} (broke : parts.fault = some fault) :
    ReportsBreak bucket key contentType (parts.full ≠ []) fault result exchanges := by
  cases talk with
  | broken small otherwise =>
    cases broke.symm.trans otherwise
    exact ⟨fun _ => ⟨rfl, rfl⟩, fun large => absurd small large, fun large => absurd small large⟩
  | unsent whole unsendable =>
    constructor
    case early =>
      intro small
      cases broke.symm.trans (whole (Classical.not_not.mp small))
    case unsendable => exact fun _ _ => ⟨rfl, rfl⟩
    case late =>
      intro _ keyed typed
      cases (isSendable_createUpload keyed typed bucket).symm.trans unsendable
  | wholeRefused _ unbroken => cases broke.symm.trans unbroken
  | whole _ unbroken => cases broke.symm.trans unbroken
  | completeRefused _ unbroken => cases broke.symm.trans unbroken
  | completed _ unbroken => cases broke.symm.trans unbroken
  | createRefused large sendable =>
    refine .of_sent large sendable fun succeed => ?_
    exact absurd (succeed _ List.mem_cons_self nofun) (Exchange.not_succeeds rfl)
  | unnamed large nameless sendable =>
    refine .of_sent large sendable fun succeed => ?_
    obtain ⟨_, granted, named⟩ := succeed _ List.mem_cons_self nofun
    cases granted
    obtain ⟨upload, same⟩ := named _ _ _ rfl
    exact absurd same (nameless upload)
  | partRefused large early sendable =>
    refine .of_sent large sendable fun succeed => ?_
    have last := succeed _ (List.mem_append_right _ List.mem_cons_self) nofun
    exact absurd last (Exchange.not_succeeds rfl)
  | brokenLater large otherwise all sendable =>
    cases broke.symm.trans otherwise
    exact .of_sent large sendable fun _ =>
      ⟨⟨_, List.mem_append_left _ List.mem_cons_self⟩, rfl⟩

end Failing

/-- A put that is stopped by its body or by a part shows in no store.  In memory the result is how
the body breaks.  In a bucket it is that or how a request was refused, unless a full part calls for
an upload that cannot be requested or comes without a name.  A put in a bucket ends if there is
room for the body. -/
theorem stopped_put_changes_nothing {σ φ : Type} [Host σ] {shown : σ → φ} (memory : MemoryStore)
    (store : BucketStore (ListedHost σ)) (law : ShownBy store.endpoint shown)
    (key contentType : String) (body : ByteStream) :
    (∀ fault, body.collect = .error fault →
      ∃ after, (ObjectStore.put key contentType body).run memory =
          .ok (.error (.stream fault), after) ∧
        ∀ looks, seen looks after = seen looks memory) ∧
    (store.HasRoom body →
      ∃ result after, (put key contentType body).run store = .ok (result, after)) ∧
    ∀ result after, (put key contentType body).run store = .ok (result, after) →
      ∃ exchanges,
        (put key contentType body).run store.unlisted = .ok (result, after.unlisted) ∧
        after.service.exchanges = store.service.exchanges ++ exchanges ∧
        ((∃ fault, body.collect = .error fault) ∨ RefusesPart exchanges →
          (∃ error, result = .error error) ∧
          (∀ exchange ∈ exchanges, exchange.request.commits = false) ∧
          ∀ looks, seen looks after.unlisted = seen looks store.unlisted) ∧
        (∀ fault, body.collect = .error fault →
          ReportsBreak store.bucket key contentType (store.partSize ≤ body.yielded.size) fault
            result exchanges) ∧
        ReportsRefusals result exchanges := by
  refine ⟨?_, fun room => run_put_of_hasRoom room key contentType, ?_⟩
  · intro fault broke
    have ran := MemoryStore.run_put memory key contentType body
    rw [MemoryStore.put_of_broken broke] at ran
    exact ⟨_, ran, MemoryStore.seen_congr rfl⟩
  intro result after ran
  obtain ⟨exchanges, service, rfl, talked, talk⟩ := talked_put_of_run ran
  refine ⟨exchanges, run_put_unlisted ran, talked.said.exchanges_eq, ?_, ?_, talk.reportsRefusals⟩
  · intro stopped
    have broken_or_refused : (body.parts store.partSize).fault ≠ none ∨ RefusesPart exchanges := by
      refine stopped.imp_left ?_
      rintro ⟨fault, broke⟩
      rw [(ByteStream.fault_parts_eq_some_iff _ body fault).mpr broke]
      exact Option.some_ne_none fault
    obtain ⟨failed, quiet⟩ := talk.quiet broken_or_refused
    -- Nothing that was said to the host looks or commits, so that it shows what it showed.
    have same : Alike (fun service other => shown service = shown other) store.endpoint
        (unlisted { store with service }) store.unlisted :=
      ⟨law.listed.conversation talked.said quiet, rfl, rfl, rfl, rfl, rfl⟩
    exact ⟨failed, fun exchange listed => (quiet exchange listed).2, law.seen_congr same⟩
  · intro fault broke
    have full : store.partSize ≤ body.yielded.size ↔ (body.parts store.partSize).full ≠ [] := by
      rw [Ne, ByteStream.full_parts_eq_nil_iff store.partSize_pos body, Nat.not_lt]
    rw [full]
    exact talk.reportsBreak ((ByteStream.fault_parts_eq_some_iff _ body fault).mpr broke)

/-- A body that breaks when its full part was uploaded. -/
theorem exchanges_put_brokenBody :
    ((put "k" "x/y" Sample.brokenBody).run (Sample.bucketStore [])).map
        (fun ended => ended.2.service.exchanges) =
      .ok [⟨.createUpload "beats" "k" "x/y", .ok (.created (some "up-1"))⟩,
        ⟨.uploadPart "beats" "k" "up-1" 1 Sample.bulk,
          .ok (.tagged (some (Service.partTag 1 Sample.bulk.size)))⟩,
        ⟨.abortUpload "beats" "k" "up-1", .ok .done⟩] := by
  have cut := run_put_of_parts (Sample.bucketStore []) "k" "x/y" (by decide)
    Sample.parts_brokenBody
  have sent : 0 + Sample.bulk.size = leastPartSize := (Nat.zero_add _).trans Sample.size_bulk
  have few : 0 + Sample.bulk.size ≤ Text.max64 := Nat.le_trans (Nat.le_of_eq sent) (by decide)
  have first : 1 ≤ Text.maxSigned32 := by decide
  simp only [cut, putCut, putInParts, fillUpload, uploadBody, Sample.pieces_brokenBody,
    uploadParts_cons first few]
  rfl

/-- What the body yields is one part. -/
theorem yielded_brokenBody : Sample.brokenBody.yielded = Sample.bulk := by
  rw [Sample.brokenBody, ByteStream.yielded, ByteStream.yielded, ByteArray.append_empty]

theorem hasRoom_brokenBody : (Sample.bucketStore []).HasRoom Sample.brokenBody where
  part := show leastPartSize ≤ Text.maxSigned64 by decide
  parts := by
    show (Sample.brokenBody.parts leastPartSize).pieces.length ≤ _
    rw [Sample.parts_brokenBody, Sample.pieces_brokenBody]
    decide
  bytes := by
    rw [yielded_brokenBody, Sample.size_bulk]
    decide

theorem stopped_put_changes_nothing_sample :
    ∃ after,
      (put "k" "x/y" Sample.brokenBody).run (Sample.bucketStore []) =
        .ok (.error (.stream ⟨.other, "client gone"⟩), after) ∧
      ∀ looks, seen looks after.unlisted = seen looks (Sample.bucketStore []).unlisted := by
  have broke : Sample.brokenBody.collect = .error ⟨.other, "client gone"⟩ := rfl
  obtain ⟨-, ends, told⟩ :=
    stopped_put_changes_nothing .empty (Sample.bucketStore []) (Service.shownBy _) "k" "x/y"
      Sample.brokenBody
  obtain ⟨result, after, ran⟩ := ends hasRoom_brokenBody
  obtain ⟨exchanges, -, listed, unchanged, broken, -⟩ := told result after ran
  have ended := exchanges_put_brokenBody
  rw [ran] at ended
  obtain rfl := listed.symm.trans (Except.ok.inj ended)
  have full : leastPartSize ≤ Sample.brokenBody.yielded.size := by
    rw [yielded_brokenBody, Sample.size_bulk]
  obtain ⟨-, rfl⟩ := (broken _ broke).late full (by decide) (by decide) (by
    simp only [List.forall_mem_cons]
    refine ⟨fun _ => Exchange.succeeds_of_ok fun _ _ _ _ => ⟨"up-1", rfl⟩,
      fun _ => Exchange.succeeds_of_ok nofun, fun _ => Exchange.succeeds_of_ok nofun, nofun⟩)
  exact ⟨after, ran, (unchanged (.inl ⟨_, broke⟩)).2.2⟩

/-- Without a key no upload can be created, and that is reported in place of how the body breaks.
Without room for a part nothing is reported at all. -/
theorem broken_put_of_empty_key :
    Sample.brokenBody.collect = .error ⟨.other, "client gone"⟩ ∧
    (∃ error after,
      (put "" "x/y" Sample.brokenBody).run (Sample.bucketStore []) = .ok (.error error, after) ∧
      error ≠ .stream ⟨.other, "client gone"⟩) ∧
    (put "k" "x/y" Sample.brokenBody).run
        ((Sample.bucketStore []).withPartSize 0x8000_0000_0000_0000) =
      .error .capacityOverflow := by
  refine ⟨rfl, ⟨.backend Refusal.unsendable.message, Sample.bucketStore [], ?_, nofun⟩, rfl⟩
  have cut := run_put_of_parts (Sample.bucketStore []) "" "x/y" (by decide) Sample.parts_brokenBody
  rw [cut]
  rfl

end BucketStore

end Backbeat
