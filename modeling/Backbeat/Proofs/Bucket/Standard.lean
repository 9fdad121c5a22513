import Backbeat.Proofs.Bucket.Conversation
import Backbeat.Proofs.Bucket.Laws
import Backbeat.Proofs.Text.Decimal
import Backbeat.Proofs.Text.Trimming

/-!
# Stores in a bucket in good order

On a host that makes of every request what S3 makes of it, a store tells of an object what was put,
and a put within the limits of the host succeeds: the bucket then has the body under the key,
whether it was sent whole or in parts. -/

namespace Backbeat

open Bucket (Host Request Reply Refusal)
open Rehearsal (Exchange)

/-- The length of an object is read back from the text that tells it. -/
theorem BucketStore.readLength_toString {size : Nat} (small : size ≤ Text.maxSigned64) :
    readLength (toString size) = .ok size := by
  rw [readLength]
  have read : Text.readSigned64 (toString size).toList = .ok (size : Int) := by
    have same : toString size = toString (size : Int) := rfl
    rw [same]
    exact Text.readSigned64_toString (by omega) (by omega)
  rw [read]
  rfl

/-- A body that a service takes has room in a store whose parts have. -/
theorem ServiceLimits.TakesBody.hasRoom {limits : ServiceLimits} {σ : Type} {store : BucketStore σ}
    {body : ByteStream} (taken : limits.TakesBody store.partSize body)
    (fits : store.partSize ≤ Text.maxSigned64) : store.HasRoom body where
  part := fits
  parts := Nat.le_trans taken.parts limits.parts_le
  bytes := Nat.le_trans taken.object (Nat.le_trans limits.objectBytes_le (by decide))

/-- What is left of a whole body behind its full parts is taken in one request. -/
theorem ServiceLimits.TakesBody.rest {limits : ServiceLimits} {partSize : Nat} {body : ByteStream}
    (taken : limits.TakesBody partSize body) (unbroken : (body.parts partSize).fault = none) :
    (body.parts partSize).rest.size ≤ limits.requestBytes := by
  cases empty : (body.parts partSize).rest.isEmpty with
  | true =>
    rw [ByteStream.eq_empty_of_isEmpty empty]
    exact Nat.zero_le _
  | false =>
    refine taken.requests _ (List.mem_append_right _ ?_)
    simp [Parts.last, unbroken, empty]

namespace BucketView.Lawful

variable {σ : Type} [Host σ] {view : BucketView σ} {limits : ServiceLimits}
  {store : BucketStore σ} {key : String}
  {object : StoredObject}

open BucketStore

section Looking

variable (store) (law : view.Lawful limits store.endpoint store.bucket)
  (sound : view.Sound store.service) (plain : limits.TakesKey key)

include law sound plain

/-- An object that is not there is not found. -/
theorem run_stat_missing (missing : view.object? store.service key = none) :
    ∃ after, (ObjectStore.stat key : Action (BucketStore σ) MediaError _).run store =
        .ok (.error (.notFound key), { store with service := after }) ∧
      view.Keeps store.service after := by
  obtain ⟨refusal, after, served, notFound, keeps⟩ := law.head_missing sound plain missing
  have sendable : isSendable (.headObject store.bucket key) = true :=
    isSendable_of_key rfl rfl plain.1.1
  have sent := talked_send_of_served sendable served
  refine ⟨after, ?_, keeps⟩
  show (BucketStore.stat key).run store = _
  rw [BucketStore.stat, Action.run_bind_of_ok (Action.run_look _ store),
    Action.run_bind_of_error (Action.run_mapError _ sent.ran), if_pos notFound]

/-- The size and the type of an object are told. -/
theorem run_stat_found (found : view.object? store.service key = some object)
    (small : object.data.size ≤ Text.maxSigned64) (typed : IsPlainType object.contentType) :
    ∃ after, (ObjectStore.stat key : Action (BucketStore σ) MediaError _).run store =
        .ok (.ok ⟨object.data.size, object.contentType⟩, { store with service := after }) ∧
      view.Keeps store.service after := by
  obtain ⟨after, served, keeps⟩ := law.head_found sound plain found
  have sendable : isSendable (.headObject store.bucket key) = true :=
    isSendable_of_key rfl rfl plain.1.1
  have sent := talked_send_of_served sendable served
  refine ⟨after, ?_, keeps⟩
  show (BucketStore.stat key).run store = _
  rw [BucketStore.stat, Action.run_bind_of_ok (Action.run_look _ store),
    Action.run_bind_of_ok (Action.run_mapError _ sent.ran),
    Action.run_bind_ofExcept_of_ok (readLength_toString small), Option.map_some, typed.2.2]
  rfl

/-- All bytes of an object are given in one piece. -/
theorem run_getRange_none (found : view.object? store.service key = some object) :
    ∃ after, (ObjectStore.getRange key none : Action (BucketStore σ) MediaError _).run store =
        .ok (.ok [.data object.data], { store with service := after }) ∧
      view.Keeps store.service after := by
  obtain ⟨after, served, keeps⟩ := law.get_whole sound plain found
  have sendable : isSendable (.getObject store.bucket key none) = true :=
    isSendable_of_key rfl rfl plain.1.1
  have sent := talked_send_of_served sendable served
  refine ⟨after, ?_, keeps⟩
  show (BucketStore.getRange key none).run store = _
  rw [BucketStore.getRange, Action.run_bind_of_ok (Action.run_look _ store)]
  exact Action.run_bind_of_ok (Action.run_mapError _ sent.ran)

/-- The bytes of a span of an object are given in one piece. -/
theorem run_getRange_some (found : view.object? store.service key = some object) {span : Span}
    (ordered : span.start ≤ span.stop) (inside : span.stop < object.data.size) :
    ∃ after,
      (ObjectStore.getRange key (some span) : Action (BucketStore σ) MediaError _).run store =
        .ok (.ok [.data (object.data.extract span.start (span.stop + 1))],
          { store with service := after }) ∧
      view.Keeps store.service after := by
  obtain ⟨after, served, keeps⟩ := law.get_range sound plain found ordered inside
  have sendable :
      isSendable (.getObject store.bucket key (some (span.start, span.stop))) = true :=
    isSendable_of_key rfl rfl plain.1.1
  have sent := talked_send_of_served sendable served
  refine ⟨after, ?_, keeps⟩
  show (BucketStore.getRange key (some span)).run store = _
  rw [BucketStore.getRange, Action.run_bind_of_ok (Action.run_look _ store)]
  exact Action.run_bind_of_ok (Action.run_mapError _ sent.ran)

end Looking

/-! ## Putting objects -/

section Putting

variable {endpoint bucket contentType upload : String} {first last service after : σ}

/-- An upload that is open stays so while it takes parts, and has them then. -/
theorem parts_taken (law : view.Lawful limits endpoint bucket) {opened : OpenUpload} {number : Nat}
    {taken : List (ByteArray × Reply)} (sound : view.Sound first)
    (known : view.upload? first upload = some opened) (positive : 0 < number)
    (early : number + taken.length ≤ limits.parts + 1)
    (small : ∀ data ∈ taken.map Prod.fst, data.size ≤ limits.requestBytes)
    (said : Conversation endpoint first (partsTaken bucket opened.key upload number taken) last) :
    view.Keeps first last ∧ ∃ parts,
      view.upload? last upload = some { opened with parts } ∧
        (∀ earlier < number, parts earlier = opened.parts earlier) ∧
        List.Forall₂ (OpenUpload.Has { opened with parts }) (listing number taken)
          (taken.map Prod.fst) := by
  -- The parts are numbered on, so that none of them takes the place of an earlier one.
  induction taken generalizing opened number first with
  | nil =>
    cases said
    exact ⟨⟨sound, rfl⟩, opened.parts, known, fun _ _ => rfl, .nil⟩
  | cons part rest ih =>
    obtain ⟨data, reply⟩ := part
    rw [List.length_cons] at early
    rw [List.map_cons, List.forall_mem_cons] at small
    rw [partsTaken_cons] at said
    cases said with
    | cons served continued =>
      obtain ⟨tag, middle, granted, keeps, grown⟩ :=
        law.part sound known positive (by omega) small.1
      cases served.symm.trans granted
      obtain ⟨later, parts, left, before, have_them⟩ :=
        ih keeps.1 grown (Nat.succ_pos number) (by omega) small.2 continued
      refine ⟨⟨later.1, later.2.trans keeps.2⟩, parts, left, ?_, ?_⟩
      · intro earlier less
        rw [before earlier (Nat.lt_succ_of_lt less)]
        exact Function.update_of_ne (Nat.ne_of_lt less) _ _
      · refine .cons ⟨tag, rfl, ?_⟩ have_them
        show parts number = _
        rw [before number (Nat.lt_succ_self number)]
        exact Function.update_self _ _ _

/-- A created upload that took some parts of a body has them, and the bucket is as it was. -/
theorem created_taken (law : view.Lawful limits endpoint bucket) {body : ByteStream}
    {partSize : Nat} {taken : List (ByteArray × Reply)} {later : List Exchange}
    (sound : view.Sound service) (plain : limits.TakesKey key)
    (typed : limits.TakesType contentType) (takes : limits.TakesBody partSize body)
    (begun : taken.map Prod.fst <+: (body.parts partSize).pieces)
    (said : Conversation endpoint service
      (uploadSoFar bucket key contentType upload taken ++ later) after) :
    ∃ middle parts, view.Keeps service middle ∧
      view.upload? middle upload = some ⟨key, contentType, parts⟩ ∧
      List.Forall₂ (OpenUpload.Has ⟨key, contentType, parts⟩) (listing 1 taken)
        (taken.map Prod.fst) ∧
      Conversation endpoint middle later after := by
  have few : 1 + taken.length ≤ limits.parts + 1 := by
    have shorter := begun.length_le
    rw [List.length_map] at shorter
    have enough := takes.parts
    omega
  have small : ∀ data ∈ taken.map Prod.fst, data.size ≤ limits.requestBytes :=
    fun data listed => takes.requests data (begun.subset listed)
  obtain ⟨middle, said_first, ended⟩ := said.of_append
  cases said_first with
  | cons served continued =>
    obtain ⟨named, created, granted, keeps, known⟩ := law.create sound plain typed
    cases served.symm.trans granted
    obtain ⟨kept, parts, left, -, have_them⟩ :=
      law.parts_taken keeps.1 known Nat.one_pos few small continued
    exact ⟨middle, parts, ⟨kept.1, kept.2.trans keeps.2⟩, left, have_them, ended⟩

/-- The list of all parts of a body completes an upload that has them. -/
theorem completedBy_listing {opened : OpenUpload} {taken : List (ByteArray × Reply)}
    {body : ByteStream} {partSize : Nat} (enough : leastPartSize ≤ partSize)
    (large : (body.parts partSize).full ≠ [])
    (all : taken.map Prod.fst = (body.parts partSize).pieces)
    (have_them : List.Forall₂ opened.Has (listing 1 taken) (taken.map Prod.fst)) :
    opened.CompletedBy (listing 1 taken) (taken.map Prod.fst) where
  some_part none_listed := by
    rw [none_listed, all, Parts.pieces] at have_them
    have none_full := List.append_eq_nil_iff.mp (List.forall₂_nil_left_iff.mp have_them)
    exact large none_full.1
  ascending := by
    rw [map_fst_listing]
    exact List.pairwise_lt_range'
  have_them := have_them
  large data early := by
    rw [all] at early
    exact Nat.le_trans enough (ByteStream.size_le_of_mem_dropLast early)

/-- An upload that took all parts of a body is completed to the body. -/
theorem completed_taken (law : view.Lawful limits endpoint bucket) {body : ByteStream}
    {partSize : Nat} {taken : List (ByteArray × Reply)} (sound : view.Sound service)
    (plain : limits.TakesKey key) (typed : limits.TakesType contentType)
    (takes : limits.TakesBody partSize body) (enough : leastPartSize ≤ partSize)
    (large : (body.parts partSize).full ≠ []) (unbroken : (body.parts partSize).fault = none)
    (all : taken.map Prod.fst = (body.parts partSize).pieces) {answer : Except Refusal Reply}
    (said : Conversation endpoint service
      (uploadSoFar bucket key contentType upload taken ++
        [⟨.completeUpload bucket key upload (listing 1 taken), answer⟩]) after) :
    (∃ reply, answer = .ok reply) ∧ view.Puts key ⟨contentType, body.yielded⟩ service after := by
  have made := (Parts.joined_pieces unbroken).trans (ByteStream.joined_parts partSize body)
  obtain ⟨middle, parts, keeps, known, have_them, ended⟩ :=
    law.created_taken sound plain typed takes (all ▸ List.prefix_rfl) said
  have few : (listing 1 taken).length ≤ limits.parts := by
    have same := congrArg List.length (map_fst_listing 1 taken)
    rw [List.length_map, List.length_range'] at same
    rw [same, ← List.length_map Prod.fst, all]
    exact takes.parts
  have small : (joined (taken.map Prod.fst)).size ≤ limits.objectBytes := by
    rw [all, made]
    exact takes.object
  cases ended with
  | cons served ended =>
    obtain ⟨reply, next, granted, puts⟩ :=
      law.complete keeps.1 known (completedBy_listing enough large all have_them) few small
    cases served.symm.trans granted
    cases ended
    rw [all, made] at puts
    exact ⟨⟨reply, rfl⟩, keeps.puts puts⟩

/-- Whatever a put says, it succeeds, and the bucket then has the body. -/
theorem puts_of_putTalk (law : view.Lawful limits endpoint bucket) {body : ByteStream}
    {data : ByteArray} {partSize : Nat} {result : Except MediaError PutReceipt}
    {exchanges : List Exchange} (sound : view.Sound service) (plain : limits.TakesKey key)
    (typed : limits.TakesType contentType) (takes : limits.TakesBody partSize body)
    (enough : leastPartSize ≤ partSize) (collected : body.collect = .ok data)
    (talk : PutTalk bucket key contentType (body.parts partSize) result exchanges)
    (said : Conversation endpoint service exchanges after) :
    (∃ etag, result = .ok ⟨etag, data.size⟩) ∧
      view.Puts key ⟨contentType, data⟩ service after := by
  have unbroken := ByteStream.fault_parts_of_collect collected partSize
  obtain rfl := ByteStream.yielded_of_collect collected
  have arrives := Text.headerValue_of_trimmed typed.1.2.2
  have made := ByteStream.joined_parts partSize body
  -- A refusal in the conversation is none that the host would give, which leaves the two ways in
  -- which a put succeeds.
  cases talk with
  | broken small broke => cases unbroken.symm.trans broke
  | brokenLater large broke all => cases unbroken.symm.trans broke
  | unsent whole unsendable =>
    cases (isSendable_createUpload plain.1.1 typed.1.2.1 bucket).symm.trans unsendable
  | wholeRefused =>
    rw [arrives] at said
    cases said with
    | cons served _ =>
      obtain ⟨reply, next, granted, -⟩ := law.put sound plain typed (takes.rest unbroken)
      cases served.symm.trans granted
  | whole small =>
    rw [arrives] at said
    rw [small, joined_nil, ByteArray.empty_append] at made
    cases said with
    | cons served ended =>
      obtain ⟨reply, next, granted, puts⟩ := law.put sound plain typed (takes.rest unbroken)
      cases served.symm.trans granted
      cases ended
      rw [made] at puts ⊢
      exact ⟨⟨_, rfl⟩, puts⟩
  | createRefused large =>
    rw [arrives] at said
    cases said with
    | cons served _ =>
      obtain ⟨upload, next, granted, -⟩ := law.create sound plain typed
      cases served.symm.trans granted
  | unnamed large nameless =>
    rw [arrives] at said
    cases said with
    | cons served _ =>
      obtain ⟨upload, next, granted, -⟩ := law.create sound plain typed
      cases served.symm.trans granted
      exact absurd rfl (nameless upload)
  | @partRefused upload taken data refusal aborted large early =>
    rw [arrives] at said
    have begun := (List.prefix_append (taken.map Prod.fst) [data]).trans early
    obtain ⟨middle, parts, keeps, known, -, ended⟩ :=
      law.created_taken sound plain typed takes begun said
    have small := takes.requests data
      (early.subset (List.mem_append_right _ (List.mem_singleton.mpr rfl)))
    have numbered : 1 + taken.length ≤ limits.parts := by
      have shorter := early.length_le
      rw [List.length_append, List.length_map, List.length_singleton] at shorter
      have few := takes.parts
      omega
    cases ended with
    | cons served _ =>
      obtain ⟨tag, next, granted, -⟩ :=
        law.part keeps.1 known (Nat.add_pos_left Nat.one_pos _) numbered small
      cases served.symm.trans granted
  | completeRefused large _ all =>
    rw [arrives] at said
    obtain ⟨⟨reply, granted⟩, -⟩ :=
      law.completed_taken sound plain typed takes enough large unbroken all said
    cases granted
  | completed large _ all =>
    rw [arrives] at said
    rw [ByteStream.size_parts]
    exact ⟨⟨_, rfl⟩,
      (law.completed_taken sound plain typed takes enough large unbroken all said).2⟩

end Putting

/-- A put of a body that does not break succeeds, and the bucket then has it under the key. -/
theorem run_put {contentType : String} (law : view.Lawful limits store.endpoint store.bucket)
    (sound : view.Sound store.service) (fits : store.partSize ≤ Text.maxSigned64)
    (plain : limits.TakesKey key) (typed : limits.TakesType contentType) {chunks : List ByteArray}
    (takes : limits.TakesBody store.partSize (.ofChunks chunks)) :
    ∃ etag after, (ObjectStore.put key contentType (.ofChunks chunks)).run store =
        .ok (.ok ⟨etag, (joined chunks).size⟩, { store with service := after }) ∧
      view.Puts key ⟨contentType, joined chunks⟩ store.service after := by
  obtain ⟨result, exchanges, after, talked, talk⟩ :=
    talked_put_of_hasRoom (takes.hasRoom fits) key contentType
  obtain ⟨⟨etag, rfl⟩, puts⟩ := law.puts_of_putTalk sound plain typed takes
    store.leastPartSize_le (ByteStream.collect_ofChunks chunks) talk talked.said
  exact ⟨etag, after, talked.ran, puts⟩

end BucketView.Lawful

end Backbeat
