import Backbeat.Proofs.Bucket.Conversation
import Backbeat.Proofs.Bucket.Likeness
import Backbeat.Rehearsal.Bucket

/-!
# Bodies in a bucket

What a put asks of its host is read off the conversations that it can have.  When the host grants
everything, the body arrives as it is: in one piece if it is smaller than a part, and otherwise in
numbered parts that make it up, of which only the last may be small.

When a put fails after an upload was created, the upload is aborted, and the failure reported is the
one that came first.  There is one exception: an upload whose completion is refused is left open.
-/

namespace Backbeat

open Bucket (Host Request Reply Refusal Service)
open Rehearsal

namespace Rehearsal.Exchange

/-- The request was granted, and if it was to create an upload then that has a name. -/
def Succeeds (exchange : Exchange) : Prop :=
  ∃ reply, exchange.answer = .ok reply ∧
    ∀ bucket key contentType, exchange.request = .createUpload bucket key contentType →
      ∃ upload, reply = .created (some upload)

theorem not_succeeds {exchange : Exchange} {refusal : Refusal}
    (refused : exchange.answer = .error refusal) : ¬exchange.Succeeds := by
  rintro ⟨reply, granted, -⟩
  cases refused.symm.trans granted

/-- A grant is a success, unless it is that of an upload without a name. -/
theorem succeeds_of_ok {request : Request} {reply : Reply}
    (named : ∀ bucket key contentType, request = .createUpload bucket key contentType →
      ∃ upload, reply = .created (some upload)) :
    Succeeds ⟨request, .ok reply⟩ :=
  ⟨reply, rfl, named⟩

end Rehearsal.Exchange

namespace BucketStore

/-- The one exchange of a body that is put in one piece. -/
def PutsWhole (bucket key contentType : String) (body : ByteArray) (exchanges : List Exchange) :
    Prop :=
  ∃ reply, exchanges = [⟨.putObject bucket key contentType body, .ok reply⟩]

/-- The exchanges of a body that is uploaded in parts of at least a size: an upload is created, the
parts that make up the body are taken one after the other, and it is completed with all of them. -/
def PutsInParts (bucket key contentType : String) (partSize : Nat) (body : ByteArray)
    (exchanges : List Exchange) : Prop :=
  ∃ upload taken reply,
    exchanges = uploadSoFar bucket key contentType upload taken ++
      [⟨.completeUpload bucket key upload (listing 1 taken), .ok reply⟩] ∧
    joined (taken.map Prod.fst) = body ∧
    (∀ part ∈ taken.map Prod.fst, 0 < part.size) ∧
    ∀ part ∈ (taken.map Prod.fst).dropLast, partSize ≤ part.size

theorem partSize_pos {σ : Type} (store : BucketStore σ) : 0 < store.partSize :=
  Nat.lt_of_lt_of_le (by decide) store.leastPartSize_le

/-- When every exchange succeeds and the body does not break, it arrives as it is. -/
theorem PutTalk.faithful {bucket key contentType : String} {partSize : Nat} {body : ByteStream}
    {data : ByteArray} {result : Except MediaError PutReceipt} {exchanges : List Exchange}
    (talk : PutTalk bucket key contentType (body.parts partSize) result exchanges)
    (sendable : isSendable (.createUpload bucket key contentType) = true)
    (positive : 0 < partSize) (collected : body.collect = .ok data)
    (succeed : ∀ exchange ∈ exchanges, exchange.Succeeds) :
    (∃ etag, result = .ok ⟨etag, data.size⟩) ∧
      (data.size < partSize →
        PutsWhole bucket key (Text.headerValue contentType) data exchanges) ∧
      (partSize ≤ data.size →
        PutsInParts bucket key (Text.headerValue contentType) partSize data exchanges) := by
  have unbroken := ByteStream.fault_parts_of_collect collected partSize
  obtain rfl := ByteStream.yielded_of_collect collected
  have few := ByteStream.full_parts_eq_nil_iff positive body
  have made := ByteStream.joined_parts partSize body
  cases talk with
  | broken small broke => cases unbroken.symm.trans broke
  | unsent whole unsendable => cases sendable.symm.trans unsendable
  | wholeRefused small _ =>
    exact absurd (succeed _ List.mem_cons_self) (Exchange.not_succeeds rfl)
  | createRefused large =>
    exact absurd (succeed _ List.mem_cons_self) (Exchange.not_succeeds rfl)
  | @whole reply small _ =>
    rw [small, joined_nil, ByteArray.empty_append] at made
    rw [made]
    refine ⟨⟨_, rfl⟩, fun _ => ⟨reply, rfl⟩, ?_⟩
    intro many
    exact absurd (few.mp small) (Nat.not_lt_of_le many)
  | @unnamed reply large nameless =>
    obtain ⟨_, granted, named⟩ := succeed _ List.mem_cons_self
    cases granted
    obtain ⟨upload, same⟩ := named _ _ _ rfl
    exact absurd same (nameless upload)
  | partRefused large early =>
    have last := succeed _ (List.mem_append_right _ List.mem_cons_self)
    exact absurd last (Exchange.not_succeeds rfl)
  | brokenLater large broke all => cases unbroken.symm.trans broke
  | completeRefused large _ all =>
    have last := succeed _ (List.mem_append_right _ List.mem_cons_self)
    exact absurd last (Exchange.not_succeeds rfl)
  | @completed upload taken reply large _ all =>
    rw [ByteStream.size_parts]
    refine ⟨⟨_, rfl⟩, ?_, fun _ => ⟨upload, taken, reply, rfl, ?_⟩⟩
    · intro small
      exact absurd (few.mpr small) large
    · rw [all]
      exact ⟨(Parts.joined_pieces unbroken).trans made,
        fun part => ByteStream.size_pos_of_mem_pieces positive,
        fun part => ByteStream.size_le_of_mem_dropLast⟩

variable {σ : Type} [Host σ]

/-- On a host that lists its exchanges, a put that ends has added one of the conversations of its
parts to the list, and the listing makes no difference to it. -/
theorem listed_put_of_run {store after : BucketStore (ListedHost σ)} {key contentType : String}
    {body : ByteStream} {result : Except MediaError PutReceipt}
    (ran : (put key contentType body).run store = .ok (result, after)) :
    ∃ exchanges,
      (put key contentType body).run store.unlisted = .ok (result, after.unlisted) ∧
      after.service.exchanges = store.service.exchanges ++ exchanges ∧
      PutTalk store.bucket key contentType (body.parts store.partSize) result exchanges := by
  obtain ⟨exchanges, service, rfl, talked, talk⟩ := talked_put_of_run ran
  exact ⟨exchanges, run_put_unlisted ran, talked.said.exchanges_eq, talk⟩

/-- A put ends if there is room for the body. -/
theorem run_put_of_hasRoom {store : BucketStore σ} {body : ByteStream} (room : store.HasRoom body)
    (key contentType : String) :
    ∃ result after, (put key contentType body).run store = .ok (result, after) := by
  obtain ⟨result, exchanges, after, talked, -⟩ := talked_put_of_hasRoom room key contentType
  exact ⟨result, _, talked.ran⟩

/-- When the host grants every request, a body that does not break is put as it is: with one request
if it is smaller than a part, and otherwise in numbered parts.  There must be room for the body, a
key, and a content type that is a header value. -/
theorem put_splits_faithfully (store : BucketStore (ListedHost σ)) (key contentType : String)
    (chunks : List ByteArray) (room : store.HasRoom (.ofChunks chunks))
    (keyed : key.isEmpty = false) (typed : Text.isHeaderText contentType = true) :
    ∃ result after exchanges,
      (put key contentType (.ofChunks chunks)).run store = .ok (result, after) ∧
      (put key contentType (.ofChunks chunks)).run store.unlisted =
        .ok (result, after.unlisted) ∧
      after.service.exchanges = store.service.exchanges ++ exchanges ∧
      ((∀ exchange ∈ exchanges, exchange.Succeeds) →
        (∃ etag, result = .ok ⟨etag, (joined chunks).size⟩) ∧
        ((joined chunks).size < store.partSize →
          PutsWhole store.bucket key (Text.headerValue contentType) (joined chunks) exchanges) ∧
        (store.partSize ≤ (joined chunks).size →
          PutsInParts store.bucket key (Text.headerValue contentType) store.partSize (joined chunks)
            exchanges)) := by
  obtain ⟨result, after, ran⟩ := run_put_of_hasRoom room key contentType
  obtain ⟨exchanges, unlisted, listed, talk⟩ := listed_put_of_run ran
  refine ⟨result, after, exchanges, ran, unlisted, listed, ?_⟩
  exact talk.faithful (isSendable_createUpload keyed typed store.bucket) store.partSize_pos
    (ByteStream.collect_ofChunks chunks)

/-- A put of a body whose parts are known puts these. -/
theorem run_put_of_parts (store : BucketStore σ) (key contentType : String) {body : ByteStream}
    {parts : Parts} (fits : store.partSize ≤ Text.maxSigned64)
    (cut : body.parts store.partSize = parts) :
    (put key contentType body).run store =
      (putCut store.bucket key contentType parts).run store := by
  subst cut
  exact Action.run_bind_ofChecked_of_ok (allocate_of_le fits)

/-- A part that can be counted is uploaded, and then the later ones. -/
theorem uploadParts_cons {number sent : Nat} {data : ByteArray} (early : number ≤ Text.maxSigned32)
    (few : sent + data.size ≤ Text.max64) (bucket key upload : String) (rest : List ByteArray) :
    (uploadParts bucket key upload number sent (data :: rest) : Action (BucketStore σ) _ _) =
      (do
        let reply ← demand (.uploadPart bucket key upload number data)
        let later ← uploadParts bucket key upload (number + 1) (sent + data.size) rest
        return (number, tagOf reply) :: later) := by
  rw [uploadParts, countPart_of_le early few]
  rfl

/-- The two parts are uploaded, whatever the host. -/
theorem uploadParts_bulk_tail (bucket key upload : String) :
    (uploadParts bucket key upload 1 0 [Sample.bulk, Sample.tail] :
      Action (BucketStore σ) _ _) =
      (do
        let first ← demand (.uploadPart bucket key upload 1 Sample.bulk)
        let later ← demand (.uploadPart bucket key upload 2 Sample.tail) >>= fun second =>
          pure [(2, tagOf second)]
        return (1, tagOf first) :: later) := by
  have sent : 0 + Sample.bulk.size = leastPartSize := (Nat.zero_add _).trans Sample.size_bulk
  have few : 0 + Sample.bulk.size ≤ Text.max64 := Nat.le_trans (Nat.le_of_eq sent) (by decide)
  have more : 0 + Sample.bulk.size + Sample.tail.size ≤ Text.max64 := by
    rw [sent]
    decide
  have first : 1 ≤ Text.maxSigned32 := by decide
  have second : 2 ≤ Text.maxSigned32 := by decide
  simp only [uploadParts_cons first few, uploadParts_cons second more]
  rfl

/-- An upload in two parts of which nothing is refused. -/
theorem exchanges_put_bulk_tail :
    ((put "k" "x/y" (.ofChunks [Sample.bulk, Sample.tail])).run (Sample.bucketStore [])).map
        (fun ended => ended.2.service.exchanges) =
      .ok [⟨.createUpload "beats" "k" "x/y", .ok (.created (some "up-1"))⟩,
        ⟨.uploadPart "beats" "k" "up-1" 1 Sample.bulk,
          .ok (.tagged (some (Service.partTag 1 Sample.bulk.size)))⟩,
        ⟨.uploadPart "beats" "k" "up-1" 2 Sample.tail,
          .ok (.tagged (some (Service.partTag 2 2)))⟩,
        ⟨.completeUpload "beats" "k" "up-1"
            [(1, some (Service.partTag 1 Sample.bulk.size)), (2, some (Service.partTag 2 2))],
          .ok (.tagged (some (Service.uploadTag 2)))⟩] := by
  have cut := run_put_of_parts (Sample.bucketStore []) "k" "x/y" (by decide) Sample.parts_bulk_tail
  simp only [cut, putCut, putInParts, fillUpload, uploadBody, Sample.pieces_bulk_tail,
    uploadParts_bulk_tail]
  rfl

theorem hasRoom_bulk_tail (disturbances : List Bucket.Disturbance) :
    (Sample.bucketStore disturbances).HasRoom (.ofChunks [Sample.bulk, Sample.tail]) where
  part := show leastPartSize ≤ Text.maxSigned64 by decide
  parts := by
    show ((ByteStream.ofChunks [Sample.bulk, Sample.tail]).parts leastPartSize).pieces.length ≤ _
    rw [Sample.parts_bulk_tail, Sample.pieces_bulk_tail]
    decide
  bytes := by
    rw [ByteStream.yielded_of_collect (ByteStream.collect_ofChunks _), joined_cons,
      ByteArray.size_append, Sample.size_bulk]
    decide

theorem put_splits_faithfully_sample :
    ∃ result after exchanges,
      (put "k" "x/y" (.ofChunks [Sample.bulk, Sample.tail])).run (Sample.bucketStore []) =
        .ok (result, after) ∧
      (∃ etag, result = .ok ⟨etag, (joined [Sample.bulk, Sample.tail]).size⟩) ∧
      PutsInParts "beats" "k" "x/y" leastPartSize (joined [Sample.bulk, Sample.tail])
        exchanges := by
  obtain ⟨result, after, exchanges, ran, -, listed, faithful⟩ :=
    put_splits_faithfully (Sample.bucketStore []) "k" "x/y" [Sample.bulk, Sample.tail]
      (hasRoom_bulk_tail []) (by decide) (by decide)
  have ended := exchanges_put_bulk_tail
  rw [ran] at ended
  obtain rfl := listed.symm.trans (Except.ok.inj ended)
  have large : leastPartSize ≤ (joined [Sample.bulk, Sample.tail]).size := by
    rw [joined_cons, ByteArray.size_append, Sample.size_bulk]
    exact Nat.le_add_right _ _
  obtain ⟨sized, -, inParts⟩ := faithful (by
    simp only [List.forall_mem_cons]
    refine ⟨Exchange.succeeds_of_ok fun _ _ _ _ => ⟨"up-1", rfl⟩, Exchange.succeeds_of_ok nofun,
      Exchange.succeeds_of_ok nofun, Exchange.succeeds_of_ok nofun, nofun⟩)
  exact ⟨result, after, _, ran, sized, inParts large⟩

/-- Nothing is sent without a key or with a content type that is no header value, and there is no
room for parts of so many bytes. -/
theorem put_of_unsendable_or_roomless :
    (put "" "x/y" (.ofChunks [Sample.tail])).run (Sample.bucketStore []) =
      .ok (.error (.backend Refusal.unsendable.message), Sample.bucketStore []) ∧
    (put "k" "x\n" (.ofChunks [Sample.tail])).run (Sample.bucketStore []) =
      .ok (.error (.backend Refusal.unsendable.message), Sample.bucketStore []) ∧
    (put "k" "x/y" (.ofChunks [Sample.tail])).run
        ((Sample.bucketStore []).withPartSize 0x8000_0000_0000_0000) =
      .error .capacityOverflow :=
  ⟨rfl, rfl, rfl⟩

/-! ## Uploads left behind -/

/-- What a put reports when it has aborted an upload: how the body broke off, or how the last part
was refused, and nothing was refused before. -/
def IsFirstFailure (bucket key upload : String) (body : ByteStream) (earlier : List Exchange)
    (error : MediaError) : Prop :=
  (∃ fault, body.collect = .error fault ∧ error = .stream fault ∧
    ∀ exchange ∈ earlier, ∃ reply, exchange.answer = .ok reply) ∨
  ∃ granted number data refusal,
    earlier = granted ++ [⟨.uploadPart bucket key upload number data, .error refusal⟩] ∧
      error = .backend refusal.message ∧ ∀ exchange ∈ granted, ∃ reply, exchange.answer = .ok reply

/-- The upload is aborted in the end, whatever the answer to that is. -/
def Aborts (bucket key upload : String) (body : ByteStream) (exchanges : List Exchange)
    (error : MediaError) : Prop :=
  ∃ earlier aborted,
    exchanges = earlier ++ [⟨.abortUpload bucket key upload, aborted⟩] ∧
      IsFirstFailure bucket key upload body earlier error

/-- The completion of the upload is refused. -/
def CompletionRefused (bucket key upload : String) (exchanges : List Exchange) : Prop :=
  ∃ listed refusal, ⟨.completeUpload bucket key upload listed, .error refusal⟩ ∈ exchanges

/-- Everything but the completion of the upload is granted, and the upload is not aborted. -/
def LeavesOpen (bucket key upload : String) (exchanges : List Exchange) (error : MediaError) :
    Prop :=
  ∃ earlier listed refusal,
    exchanges = earlier ++ [⟨.completeUpload bucket key upload listed, .error refusal⟩] ∧
      error = .backend refusal.message ∧
      (∀ exchange ∈ earlier, ∃ reply, exchange.answer = .ok reply) ∧
      ∀ exchange ∈ exchanges, ∀ bucket key upload, exchange.request ≠ .abortUpload bucket key upload

theorem LeavesOpen.not_aborts {bucket key upload : String} {body : ByteStream}
    {exchanges : List Exchange} {error : MediaError}
    (left : LeavesOpen bucket key upload exchanges error) :
    ¬Aborts bucket key upload body exchanges error := by
  rintro ⟨earlier, aborted, rfl, -⟩
  obtain ⟨-, -, -, -, -, -, unaborted⟩ := left
  exact unaborted _ (List.mem_append_right _ List.mem_cons_self) _ _ _ rfl

section Leftovers

variable {bucket key contentType upload named : String} {taken : List (ByteArray × Reply)}
  {later : List Exchange}

/-- Up to the last part that was taken, everything was granted. -/
theorem answer_of_mem_created {exchange : Exchange}
    (listed : exchange ∈
      uploadSoFar bucket key contentType named taken) :
    ∃ reply, exchange.answer = .ok reply := by
  rcases List.mem_cons.mp listed with rfl | part
  · exact ⟨_, rfl⟩
  · exact answer_of_mem_partsTaken part

/-- What is refused in the course of an upload comes behind the parts that were taken. -/
theorem mem_of_refused {request : Request} {refusal : Refusal}
    (refused : ⟨request, .error refusal⟩ ∈
      uploadSoFar bucket key contentType named taken ++ later) :
    ⟨request, .error refusal⟩ ∈ later := by
  rcases List.mem_append.mp refused with early | behind
  · obtain ⟨_, granted⟩ := answer_of_mem_created early
    cases granted
  · exact behind

/-- What creates an upload in the course of one is its first exchange, which names it. -/
theorem reply_of_created {bucket key contentType otherBucket otherKey otherType : String}
    {reply : Reply}
    (created : ⟨.createUpload otherBucket otherKey otherType, .ok reply⟩ ∈
      uploadSoFar bucket key contentType named taken ++ later)
    (others : ∀ exchange ∈ later, ∀ bucket key contentType,
      exchange.request ≠ .createUpload bucket key contentType) :
    reply = .created (some named) := by
  rw [uploadSoFar, List.cons_append] at created
  rcases List.mem_cons.mp created with same | behind
  · cases same
    rfl
  · rcases List.mem_append.mp behind with part | after
    · obtain ⟨_, _, same⟩ := request_of_mem_partsTaken part
      cases same
    · exact absurd rfl (others _ after _ _ _)

/-- When a put that created an upload fails, it has aborted it, unless its completion is what was
refused. -/
theorem PutTalk.aborts_or_leavesOpen {partSize : Nat} {body : ByteStream} {error : MediaError}
    {exchanges : List Exchange}
    (talk : PutTalk bucket key contentType (body.parts partSize) (.error error) exchanges)
    (created : ⟨.createUpload bucket key (Text.headerValue contentType),
      .ok (.created (some upload))⟩ ∈ exchanges) :
    Aborts bucket key upload body exchanges error ∧
        ¬CompletionRefused bucket key upload exchanges ∨
      LeavesOpen bucket key upload exchanges error ∧
        CompletionRefused bucket key upload exchanges := by
  cases talk with
  | broken => cases created
  | unsent => cases created
  | wholeRefused => cases List.mem_singleton.mp created
  | createRefused => cases List.mem_singleton.mp created
  | unnamed large nameless =>
    cases List.mem_singleton.mp created
    exact absurd rfl (nameless upload)
  | @partRefused named taken data refusal aborted large early =>
    cases reply_of_created created (by simp)
    refine .inl ⟨⟨_, aborted, (List.append_assoc _ [_] [_]).symm,
      .inr ⟨_, _, data, refusal, rfl, rfl, fun exchange => answer_of_mem_created⟩⟩, ?_⟩
    rintro ⟨listed, other, refused⟩
    simpa using mem_of_refused refused
  | @brokenLater named taken fault aborted large broke all =>
    cases reply_of_created created (by simp)
    rw [ByteStream.fault_parts_eq_some_iff] at broke
    refine .inl ⟨⟨_, aborted, rfl,
      .inl ⟨fault, broke, rfl, fun exchange => answer_of_mem_created⟩⟩, ?_⟩
    rintro ⟨listed, other, refused⟩
    simpa using mem_of_refused refused
  | @completeRefused named taken refusal large unbroken all =>
    cases reply_of_created created (by simp)
    refine .inr ⟨⟨_, _, refusal, rfl, rfl, fun exchange => answer_of_mem_created, ?_⟩,
      _, refusal, List.mem_append_right _ List.mem_cons_self⟩
    intro exchange listed bucket key upload
    rcases List.mem_append.mp listed with early | last
    · rcases List.mem_cons.mp early with rfl | part
      · nofun
      · obtain ⟨_, _, same⟩ := request_of_mem_partsTaken part
        rw [same]
        nofun
    · rw [List.mem_singleton.mp last]
      nofun

end Leftovers

/-- A put that fails when it has created an upload aborts the upload and reports the first failure,
except when the completion of the upload is refused: then the upload is left open.  A put ends if
there is room for the body. -/
theorem put_aborts_unless_completing (store : BucketStore (ListedHost σ))
    (key contentType : String) (body : ByteStream) :
    (store.HasRoom body →
      ∃ result after, (put key contentType body).run store = .ok (result, after)) ∧
    ∀ result after, (put key contentType body).run store = .ok (result, after) →
      ∃ exchanges,
        (put key contentType body).run store.unlisted = .ok (result, after.unlisted) ∧
        after.service.exchanges = store.service.exchanges ++ exchanges ∧
        ∀ error upload, result = .error error →
          ⟨.createUpload store.bucket key (Text.headerValue contentType),
            .ok (.created (some upload))⟩ ∈ exchanges →
          (Aborts store.bucket key upload body exchanges error ↔
            ¬CompletionRefused store.bucket key upload exchanges) ∧
          (CompletionRefused store.bucket key upload exchanges →
            LeavesOpen store.bucket key upload exchanges error) := by
  refine ⟨fun room => run_put_of_hasRoom room key contentType, ?_⟩
  intro result after ran
  obtain ⟨exchanges, unlisted, listed, talk⟩ := listed_put_of_run ran
  refine ⟨exchanges, unlisted, listed, ?_⟩
  rintro error upload rfl created
  rcases talk.aborts_or_leavesOpen created with ⟨aborts, unrefused⟩ | ⟨left, refused⟩
  · exact ⟨iff_of_true aborts unrefused, fun refused => absurd refused unrefused⟩
  · exact ⟨iff_of_false left.not_aborts (not_not_intro refused), fun _ => left⟩

/-- A service that refuses to complete an upload. -/
def refusesCompletion : List Bucket.Disturbance :=
  [⟨"CompleteMultipartUpload", none, .refuse 403 "AccessDenied"⟩]

/-- An upload in two parts of which the completion is refused. -/
theorem run_put_refused :
    ∃ after,
      (put "k" "x/y" (.ofChunks [Sample.bulk, Sample.tail])).run
          (Sample.bucketStore refusesCompletion) =
        .ok (.error (.backend (Refusal.refused 403 "AccessDenied").message), after) ∧
      after.service.exchanges =
        [⟨.createUpload "beats" "k" "x/y", .ok (.created (some "up-1"))⟩,
          ⟨.uploadPart "beats" "k" "up-1" 1 Sample.bulk,
            .ok (.tagged (some (Service.partTag 1 Sample.bulk.size)))⟩,
          ⟨.uploadPart "beats" "k" "up-1" 2 Sample.tail,
            .ok (.tagged (some (Service.partTag 2 2)))⟩,
          ⟨.completeUpload "beats" "k" "up-1"
              [(1, some (Service.partTag 1 Sample.bulk.size)), (2, some (Service.partTag 2 2))],
            .error (.refused 403 "AccessDenied")⟩] := by
  have cut := run_put_of_parts (Sample.bucketStore refusesCompletion) "k" "x/y" (by decide)
    Sample.parts_bulk_tail
  simp only [cut, putCut, putInParts, fillUpload, uploadBody, Sample.pieces_bulk_tail,
    uploadParts_bulk_tail]
  exact ⟨_, rfl, rfl⟩

/-- A refused completion leaves an upload without its abort. -/
theorem put_leaves_upload_open :
    ∃ error after,
      (put "k" "x/y" (.ofChunks [Sample.bulk, Sample.tail])).run
          (Sample.bucketStore refusesCompletion) = .ok (.error error, after) ∧
      ⟨.createUpload "beats" "k" "x/y", .ok (.created (some "up-1"))⟩ ∈ after.service.exchanges ∧
      ∀ exchange ∈ after.service.exchanges,
        exchange.request ≠ .abortUpload "beats" "k" "up-1" := by
  obtain ⟨after, ran, known⟩ := run_put_refused
  refine ⟨_, after, ran, ?_, ?_⟩
  · rw [known]
    exact List.mem_cons_self
  · rw [known]
    simp

end BucketStore

end Backbeat
