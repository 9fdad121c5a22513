import Backbeat.Bucket.Store
import Backbeat.Proofs.Bucket.Parts
import Backbeat.Rehearsal.Exchanges

/-!
# What a put says to the host

All that a store does to its host is to send requests, so an action is known by the exchanges that
it has with the host: which requests it sends in which order, and what they are answered.

The main definition, `PutTalk`, lists all conversations that putting a body can lead to, whatever
the host answers, and with what result each of them ends.  The main statement is that every put is
one of them, on every host, unless it traps, and that it only traps on a body whose parts cannot be
held, numbered or counted.
-/

namespace Backbeat

open Bucket (Host Request Reply Refusal)
open Rehearsal (Exchange ListedHost)

/-- A host in a first state has exchanges, one after the other, and is left in a last state. -/
inductive Conversation {σ : Type} [Host σ] (endpoint : String) : σ → List Exchange → σ → Prop where
  | nil (service : σ) : Conversation endpoint service [] service
  | cons {first middle last : σ} {request : Request} {answer : Except Refusal Reply}
      {later : List Exchange} (served : Host.serve endpoint request first = (answer, middle))
      (continued : Conversation endpoint middle later last) :
      Conversation endpoint first (⟨request, answer⟩ :: later) last

namespace Conversation

variable {σ : Type} [Host σ] {endpoint : String} {first middle last : σ}
  {exchanges later : List Exchange}

theorem one {request : Request} {answer : Except Refusal Reply}
    (served : Host.serve endpoint request first = (answer, last)) :
    Conversation endpoint first [⟨request, answer⟩] last :=
  .cons served (.nil last)

theorem append (said : Conversation endpoint first exchanges middle)
    (continued : Conversation endpoint middle later last) :
    Conversation endpoint first (exchanges ++ later) last := by
  induction said with
  | nil _ => exact continued
  | cons served _ ih => exact .cons served (ih continued)

theorem of_append (said : Conversation endpoint first (exchanges ++ later) last) :
    ∃ middle, Conversation endpoint first exchanges middle ∧
      Conversation endpoint middle later last := by
  induction exchanges generalizing first with
  | nil => exact ⟨first, .nil first, said⟩
  | cons exchange rest ih =>
    cases said with
    | cons served continued =>
      obtain ⟨middle, begun, ended⟩ := ih continued
      exact ⟨middle, .cons served begun, ended⟩

/-- A host that lists its exchanges lists those of a conversation. -/
theorem exchanges_eq {first last : ListedHost σ}
    (said : Conversation endpoint first exchanges last) :
    last.exchanges = first.exchanges ++ exchanges := by
  induction said with
  | nil host => exact (List.append_nil host.exchanges).symm
  | cons served _ ih =>
    cases served
    rw [ih, List.append_assoc]
    rfl

end Conversation

namespace BucketStore

section Trapping

variable {σ ε δ α β : Type} {store : BucketStore σ}

/-- Run on a store, an action traps. -/
def Traps (action : Action (BucketStore σ) ε α) (store : BucketStore σ) : Prop :=
  ∃ trap, action.run store = .error trap

namespace Traps

variable {action : Action (BucketStore σ) ε α} {next : α → Action (BucketStore σ) ε β}

theorem bind (traps : Traps action store) : Traps (action >>= next) store := by
  obtain ⟨trap, ran⟩ := traps
  exact ⟨trap, Action.run_bind_of_trap ran⟩

theorem look_bind {view : BucketStore σ → α} (traps : Traps (next (view store)) store) :
    Traps (Action.look view >>= next) store := by
  obtain ⟨trap, ran⟩ := traps
  exact ⟨trap, (Action.run_bind_of_ok (Action.run_look view store)).trans ran⟩

theorem ofChecked_bind {computation : Checked α} {value : α} (computed : computation = .ok value)
    (traps : Traps (next value) store) : Traps (Action.ofChecked computation >>= next) store := by
  obtain ⟨trap, ran⟩ := traps
  exact ⟨trap, (Action.run_bind_ofChecked_of_ok computed).trans ran⟩

theorem of_trap {computation : Checked α} {trap : Trap} (trapped : computation = .error trap) :
    Traps (Action.ofChecked computation >>= next) store :=
  ⟨trap, Action.run_bind_ofChecked_of_trap trapped⟩

theorem attempt (traps : Traps action store) :
    Traps (action.attempt : Action (BucketStore σ) δ _) store := by
  obtain ⟨trap, ran⟩ := traps
  refine ⟨trap, ?_⟩
  rw [Action.run_attempt_eq, ran]

end Traps

end Trapping

section Talking

variable {σ ε δ α β : Type} [Host σ] {store : BucketStore σ}

/-- Run on a store, an action ends with a result after exchanges that leave the host in a state. -/
structure Talked (action : Action (BucketStore σ) ε α) (store : BucketStore σ)
    (result : Except ε α) (exchanges : List Exchange) (after : σ) : Prop where
  ran : action.run store = .ok (result, { store with service := after })
  said : Conversation store.endpoint store.service exchanges after

namespace Talked

variable {action : Action (BucketStore σ) ε α} {next : α → Action (BucketStore σ) ε β}
  {result : Except ε β} {exchanges later : List Exchange} {middle after : σ}

theorem pure (value : α) :
    Talked (Pure.pure value : Action (BucketStore σ) ε α) store (.ok value) [] store.service :=
  ⟨rfl, .nil _⟩

theorem fail (fault : ε) :
    Talked (Action.fail fault : Action (BucketStore σ) ε α) store (.error fault) [] store.service :=
  ⟨rfl, .nil _⟩

theorem ofExcept {result : Except ε α} {expected : Except ε α} (same : result = expected) :
    Talked (Action.ofExcept result : Action (BucketStore σ) ε α) store expected [] store.service :=
  ⟨same ▸ rfl, .nil _⟩

theorem bind_ok {value : α} (first : Talked action store (.ok value) exchanges middle)
    (second : Talked (next value) { store with service := middle } result later after) :
    Talked (action >>= next) store result (exchanges ++ later) after :=
  ⟨(Action.run_bind_of_ok first.ran).trans second.ran, first.said.append second.said⟩

theorem bind_error {fault : ε} (first : Talked action store (.error fault) exchanges after) :
    Talked (action >>= next) store (.error fault) exchanges after :=
  ⟨Action.run_bind_of_error first.ran, first.said⟩

theorem bind_traps {value : α} (first : Talked action store (.ok value) exchanges middle)
    (second : Traps (next value) { store with service := middle }) :
    Traps (action >>= next) store := by
  obtain ⟨trap, ran⟩ := second
  exact ⟨trap, (Action.run_bind_of_ok first.ran).trans ran⟩

theorem ofChecked_bind {computation : Checked α} {value : α} (computed : computation = .ok value)
    (second : Talked (next value) store result exchanges after) :
    Talked (Action.ofChecked computation >>= next) store result exchanges after :=
  ⟨(Action.run_bind_ofChecked_of_ok computed).trans second.ran, second.said⟩

theorem look_bind {view : BucketStore σ → α}
    (second : Talked (next (view store)) store result exchanges after) :
    Talked (Action.look view >>= next) store result exchanges after :=
  ⟨(Action.run_bind_of_ok (Action.run_look view store)).trans second.ran, second.said⟩

theorem attempt {result : Except ε α} (talked : Talked action store result exchanges after) :
    Talked (action.attempt : Action (BucketStore σ) δ _) store (.ok result) exchanges after :=
  ⟨Action.run_attempt talked.ran, talked.said⟩

theorem mapError {result : Except ε α} (reword : ε → δ)
    (talked : Talked action store result exchanges after) :
    Talked (action.mapError reword) store (result.mapError reword) exchanges after :=
  ⟨Action.run_mapError reword talked.ran, talked.said⟩

theorem regardless {result : Except ε α} (talked : Talked action store result exchanges after) :
    Talked (action.regardless : Action (BucketStore σ) δ Unit) store (.ok ()) exchanges after :=
  ⟨Action.run_regardless talked.ran, talked.said⟩

end Talked

/-- A request about a key that brings no content type can be sent. -/
theorem isSendable_of_key {request : Request} {key : String} (named : request.key? = some key)
    (untyped : request.contentType? = none) (keyed : key.isEmpty = false) :
    isSendable request = true := by
  simp [isSendable, named, untyped, keyed]

/-- What a host answers to a request that can be sent is the result. -/
theorem talked_send_of_served {request : Request} {answer : Except Refusal Reply} {after : σ}
    (sendable : isSendable request = true)
    (served : Host.serve store.endpoint request.arriving store.service = (answer, after)) :
    Talked (send request) store answer [⟨request.arriving, answer⟩] after := by
  refine ⟨?_, .one served⟩
  show Except.ok (if isSendable request then _ else _) = _
  rw [if_pos sendable, served]

/-- A request that can be sent is one exchange. -/
theorem talked_send {request : Request} (sendable : isSendable request = true)
    (store : BucketStore σ) :
    ∃ answer after, Talked (send request) store answer [⟨request.arriving, answer⟩] after :=
  ⟨_, _, talked_send_of_served sendable rfl⟩

/-- A request that cannot be sent is none. -/
theorem talked_send_of_unsendable {request : Request} (unsendable : isSendable request = false)
    (store : BucketStore σ) :
    Talked (send request) store (.error .unsendable) [] store.service := by
  refine ⟨?_, .nil _⟩
  show Except.ok (if isSendable request then _ else _) = _
  rw [unsendable]
  rfl

/-- What is demanded is granted or refused. -/
theorem talked_demand {request : Request} (sendable : isSendable request = true)
    (store : BucketStore σ) :
    (∃ reply after, Talked (demand request) store (.ok reply)
      [⟨request.arriving, .ok reply⟩] after) ∨
    ∃ refusal after, Talked (demand request) store (.error (.backend refusal.message))
      [⟨request.arriving, .error refusal⟩] after := by
  obtain ⟨answer, after, talked⟩ := talked_send sendable store
  cases answer with
  | ok reply => exact .inl ⟨reply, after, talked.mapError _⟩
  | error refusal => exact .inr ⟨refusal, after, talked.mapError _⟩

theorem talked_demand_of_unsendable {request : Request} (unsendable : isSendable request = false)
    (store : BucketStore σ) :
    Talked (demand request) store (.error (.backend Refusal.unsendable.message)) []
      store.service :=
  (talked_send_of_unsendable unsendable store).mapError _

end Talking

/-! ## Uploading parts -/

/-- The exchanges of parts that were taken, numbered on from a number. -/
def partsTaken (bucket key upload : String) (number : Nat) (taken : List (ByteArray × Reply)) :
    List Exchange :=
  (taken.zipIdx number).map fun ((data, reply), number) =>
    ⟨.uploadPart bucket key upload number data, .ok reply⟩

/-- How parts that were taken are listed: by their numbers, with the tags that came in reply. -/
def listing (number : Nat) (taken : List (ByteArray × Reply)) : List (Nat × Option String) :=
  (taken.zipIdx number).map fun ((_, reply), number) => (number, tagOf reply)

theorem partsTaken_cons (bucket key upload : String) (number : Nat) (data : ByteArray)
    (reply : Reply) (taken : List (ByteArray × Reply)) :
    partsTaken bucket key upload number ((data, reply) :: taken) =
      ⟨.uploadPart bucket key upload number data, .ok reply⟩ ::
        partsTaken bucket key upload (number + 1) taken := rfl

/-- Parts are listed under consecutive numbers. -/
theorem map_fst_listing (number : Nat) (taken : List (ByteArray × Reply)) :
    (listing number taken).map Prod.fst = List.range' number taken.length := by
  rw [listing, List.map_map, ← List.zipIdx_map_snd number taken]
  rfl

theorem request_of_mem_partsTaken {bucket key upload : String} {number : Nat}
    {taken : List (ByteArray × Reply)} {exchange : Exchange}
    (listed : exchange ∈ partsTaken bucket key upload number taken) :
    ∃ number data, exchange.request = .uploadPart bucket key upload number data := by
  obtain ⟨⟨⟨data, reply⟩, place⟩, -, rfl⟩ := List.mem_map.mp listed
  exact ⟨place, data, rfl⟩

theorem answer_of_mem_partsTaken {bucket key upload : String} {number : Nat}
    {taken : List (ByteArray × Reply)} {exchange : Exchange}
    (listed : exchange ∈ partsTaken bucket key upload number taken) :
    ∃ reply, exchange.answer = .ok reply := by
  obtain ⟨⟨⟨data, reply⟩, place⟩, -, rfl⟩ := List.mem_map.mp listed
  exact ⟨reply, rfl⟩

/-! ## Counting parts -/

/-- The last number of so many parts, numbered on from a number, and all their bytes are in range.
-/
def CountedFrom (number sent : Nat) (parts : List ByteArray) : Prop :=
  number + parts.length ≤ Text.maxSigned32 + 1 ∧ sent + (joined parts).size ≤ Text.max64

theorem countPart_of_le {number sent : Nat} (early : number ≤ Text.maxSigned32)
    (few : sent ≤ Text.max64) : countPart number sent = .ok () := by
  rw [countPart, if_pos early, countBytes_of_le few]

theorem countPart_of_not_le {number sent : Nat}
    (beyond : ¬(number ≤ Text.maxSigned32 ∧ sent ≤ Text.max64)) :
    countPart number sent = .error .addOverflow := by
  rw [countPart]
  split
  · next early => exact if_neg fun few => beyond ⟨early, few⟩
  · rfl

theorem CountedFrom.head {number sent : Nat} {data : ByteArray} {rest : List ByteArray}
    (counted : CountedFrom number sent (data :: rest)) :
    number ≤ Text.maxSigned32 ∧ sent + data.size ≤ Text.max64 := by
  obtain ⟨numbered, few⟩ := counted
  rw [List.length_cons] at numbered
  rw [joined_cons, ByteArray.size_append] at few
  omega

theorem CountedFrom.tail {number sent : Nat} {data : ByteArray} {rest : List ByteArray}
    (counted : CountedFrom number sent (data :: rest)) :
    CountedFrom (number + 1) (sent + data.size) rest := by
  obtain ⟨numbered, few⟩ := counted
  rw [List.length_cons] at numbered
  rw [joined_cons, ByteArray.size_append] at few
  constructor <;> omega

section Parts

variable {σ : Type} [Host σ] {bucket key upload : String}

/-- Either all parts are taken, or the first ones are and the next one is refused, or there are too
many of them to be counted. -/
theorem talked_uploadParts (keyed : key.isEmpty = false) (number sent : Nat)
    (parts : List ByteArray) (store : BucketStore σ) :
    (∃ taken after, taken.map Prod.fst = parts ∧
      Talked (uploadParts bucket key upload number sent parts) store (.ok (listing number taken))
        (partsTaken bucket key upload number taken) after) ∨
    (∃ taken data refusal after, taken.map Prod.fst ++ [data] <+: parts ∧
      Talked (uploadParts bucket key upload number sent parts) store
        (.error (.backend refusal.message))
        (partsTaken bucket key upload number taken ++
          [⟨.uploadPart bucket key upload (number + taken.length) data, .error refusal⟩])
        after) ∨
    ¬CountedFrom number sent parts ∧
      Traps (uploadParts bucket key upload number sent parts) store := by
  induction parts generalizing number sent store with
  | nil => exact .inl ⟨[], store.service, rfl, .pure []⟩
  | cons data rest ih =>
    have sendable : isSendable (.uploadPart bucket key upload number data) = true :=
      isSendable_of_key rfl rfl keyed
    by_cases counts : number ≤ Text.maxSigned32 ∧ sent + data.size ≤ Text.max64
    · have counted := countPart_of_le counts.1 counts.2
      rcases talked_demand sendable store with
        ⟨reply, middle, granted⟩ | ⟨refusal, after, refused⟩
      · rcases ih (number + 1) (sent + data.size) { store with service := middle } with
          ⟨taken, after, all, later⟩ | ⟨taken, next, refusal, after, early, later⟩ |
          ⟨uncounted, later⟩
        · refine .inl ⟨(data, reply) :: taken, after, by rw [List.map_cons, all], ?_⟩
          have ended :
              Talked (uploadParts bucket key upload number sent (data :: rest)) store _ _ after :=
            .ofChecked_bind counted (granted.bind_ok (later.bind_ok (.pure _)))
          rwa [List.append_nil] at ended
        · refine .inr (.inl ⟨(data, reply) :: taken, next, refusal, after, ?_, ?_⟩)
          · exact (List.cons_prefix_cons.mpr ⟨rfl, early⟩)
          · have ended :
                Talked (uploadParts bucket key upload number sent (data :: rest)) store _ _ after :=
              .ofChecked_bind counted (granted.bind_ok later.bind_error)
            rwa [Nat.add_right_comm] at ended
        · refine .inr (.inr ⟨fun all => uncounted all.tail, ?_⟩)
          exact .ofChecked_bind counted (granted.bind_traps later.bind)
      · refine .inr (.inl ⟨[], data, refusal, after, List.prefix_append [data] rest, ?_⟩)
        exact .ofChecked_bind counted refused.bind_error
    · refine .inr (.inr ⟨fun all => counts all.head, ?_⟩)
      exact .of_trap (countPart_of_not_le counts)

end Parts

/-! ## All conversations of a put -/

/-- The exchanges of an upload that was created and then took parts. -/
def uploadSoFar (bucket key contentType upload : String) (taken : List (ByteArray × Reply)) :
    List Exchange :=
  ⟨.createUpload bucket key contentType, .ok (.created (some upload))⟩ ::
    partsTaken bucket key upload 1 taken

/-- What putting a body in parts can say to the host, and with what result it ends.  That any
request was sent shows that the first one could be. -/
inductive PutTalk (bucket key contentType : String) (parts : Parts) :
    Except MediaError PutReceipt → List Exchange → Prop where
  /-- The body breaks before a part is full. -/
  | broken {fault : StreamFault} (small : parts.full = []) (broke : parts.fault = some fault) :
    PutTalk bucket key contentType parts (.error (.stream fault)) []
  /-- The first request cannot be sent. -/
  | unsent (whole : parts.full = [] → parts.fault = none)
      (unsendable : isSendable (.createUpload bucket key contentType) = false) :
    PutTalk bucket key contentType parts (.error (.backend Refusal.unsendable.message)) []
  | wholeRefused {refusal : Refusal} (small : parts.full = []) (unbroken : parts.fault = none)
      (sendable : isSendable (.createUpload bucket key contentType) = true) :
    PutTalk bucket key contentType parts (.error (.backend refusal.message))
      [⟨.putObject bucket key (Text.headerValue contentType) parts.rest, .error refusal⟩]
  | whole {reply : Reply} (small : parts.full = []) (unbroken : parts.fault = none)
      (sendable : isSendable (.createUpload bucket key contentType) = true) :
    PutTalk bucket key contentType parts (.ok ⟨tagOf reply, parts.rest.size⟩)
      [⟨.putObject bucket key (Text.headerValue contentType) parts.rest, .ok reply⟩]
  | createRefused {refusal : Refusal} (large : parts.full ≠ [])
      (sendable : isSendable (.createUpload bucket key contentType) = true) :
    PutTalk bucket key contentType parts (.error (.backend refusal.message))
      [⟨.createUpload bucket key (Text.headerValue contentType), .error refusal⟩]
  /-- The host creates an upload but does not tell its name. -/
  | unnamed {reply : Reply} (large : parts.full ≠ [])
      (nameless : ∀ upload, reply ≠ .created (some upload))
      (sendable : isSendable (.createUpload bucket key contentType) = true) :
    PutTalk bucket key contentType parts (.error (.invalid .noUploadId))
      [⟨.createUpload bucket key (Text.headerValue contentType), .ok reply⟩]
  /-- A part is refused, and the upload is aborted. -/
  | partRefused {upload : String} {taken : List (ByteArray × Reply)} {data : ByteArray}
      {refusal : Refusal} {aborted : Except Refusal Reply} (large : parts.full ≠ [])
      (early : taken.map Prod.fst ++ [data] <+: parts.pieces)
      (sendable : isSendable (.createUpload bucket key contentType) = true) :
    PutTalk bucket key contentType parts (.error (.backend refusal.message))
      (uploadSoFar bucket key (Text.headerValue contentType) upload taken ++
        [⟨.uploadPart bucket key upload (1 + taken.length) data, .error refusal⟩,
          ⟨.abortUpload bucket key upload, aborted⟩])
  /-- The body breaks when its full parts are uploaded, and the upload is aborted. -/
  | brokenLater {upload : String} {taken : List (ByteArray × Reply)} {fault : StreamFault}
      {aborted : Except Refusal Reply} (large : parts.full ≠ [])
      (broke : parts.fault = some fault) (all : taken.map Prod.fst = parts.pieces)
      (sendable : isSendable (.createUpload bucket key contentType) = true) :
    PutTalk bucket key contentType parts (.error (.stream fault))
      (uploadSoFar bucket key (Text.headerValue contentType) upload taken ++
        [⟨.abortUpload bucket key upload, aborted⟩])
  | completeRefused {upload : String} {taken : List (ByteArray × Reply)} {refusal : Refusal}
      (large : parts.full ≠ []) (unbroken : parts.fault = none)
      (all : taken.map Prod.fst = parts.pieces)
      (sendable : isSendable (.createUpload bucket key contentType) = true) :
    PutTalk bucket key contentType parts (.error (.backend refusal.message))
      (uploadSoFar bucket key (Text.headerValue contentType) upload taken ++
        [⟨.completeUpload bucket key upload (listing 1 taken), .error refusal⟩])
  | completed {upload : String} {taken : List (ByteArray × Reply)} {reply : Reply}
      (large : parts.full ≠ []) (unbroken : parts.fault = none)
      (all : taken.map Prod.fst = parts.pieces)
      (sendable : isSendable (.createUpload bucket key contentType) = true) :
    PutTalk bucket key contentType parts (.ok ⟨tagOf reply, parts.size⟩)
      (uploadSoFar bucket key (Text.headerValue contentType) upload taken ++
        [⟨.completeUpload bucket key upload (listing 1 taken), .ok reply⟩])

section Putting

variable {σ : Type} [Host σ] {bucket key contentType : String} {parts : Parts}

/-- A put that starts with a request for the key can be sent if another one can. -/
theorem isSendable_putObject (bucket key contentType : String) (data : ByteArray) :
    isSendable (.putObject bucket key contentType data) =
      isSendable (.createUpload bucket key contentType) := rfl

theorem isSendable_createUpload (keyed : key.isEmpty = false)
    (typed : Text.isHeaderText contentType = true) (bucket : String) :
    isSendable (.createUpload bucket key contentType) = true := by
  simp [isSendable, Request.key?, Request.contentType?, keyed, typed]

theorem isEmpty_of_isSendable
    (sendable : isSendable (.createUpload bucket key contentType) = true) :
    key.isEmpty = false := by
  simp only [isSendable, Request.key?, Option.all_some, Bool.and_eq_true,
    Bool.not_eq_true'] at sendable
  exact sendable.1

theorem talked_putWhole (small : parts.full = []) (unbroken : parts.fault = none)
    (store : BucketStore σ) :
    ∃ result exchanges after,
      Talked (putWhole bucket key contentType parts.rest) store result exchanges after ∧
      PutTalk bucket key contentType parts result exchanges := by
  cases sendable : isSendable (.createUpload bucket key contentType) with
  | false =>
    rw [← isSendable_putObject bucket key contentType parts.rest] at sendable
    exact ⟨_, _, _, (talked_demand_of_unsendable sendable store).bind_error,
      .unsent (fun _ => unbroken) sendable⟩
  | true =>
    rw [← isSendable_putObject bucket key contentType parts.rest] at sendable
    rcases talked_demand sendable store with
      ⟨reply, after, granted⟩ | ⟨refusal, after, refused⟩
    · exact ⟨_, _, after, granted.bind_ok (.pure _), .whole small unbroken sendable⟩
    · exact ⟨_, _, after, refused.bind_error, .wholeRefused small unbroken sendable⟩

/-- The parts of a body are all taken and the body is whole, or the first failure ends it, or there
are too many parts. -/
theorem talked_uploadBody (keyed : key.isEmpty = false) (upload : String) (parts : Parts)
    (store : BucketStore σ) :
    (∃ taken after, parts.fault = none ∧ taken.map Prod.fst = parts.pieces ∧
      Talked (uploadBody bucket key upload parts) store (.ok (listing 1 taken))
        (partsTaken bucket key upload 1 taken) after) ∨
    (∃ taken fault after, parts.fault = some fault ∧ taken.map Prod.fst = parts.pieces ∧
      Talked (uploadBody bucket key upload parts) store (.error (.stream fault))
        (partsTaken bucket key upload 1 taken) after) ∨
    (∃ taken data refusal after, taken.map Prod.fst ++ [data] <+: parts.pieces ∧
      Talked (uploadBody bucket key upload parts) store (.error (.backend refusal.message))
        (partsTaken bucket key upload 1 taken ++
          [⟨.uploadPart bucket key upload (1 + taken.length) data, .error refusal⟩]) after) ∨
    ¬CountedFrom 1 0 parts.pieces ∧ Traps (uploadBody bucket key upload parts) store := by
  rcases talked_uploadParts keyed 1 0 parts.pieces store with
    ⟨taken, after, all, talked⟩ | ⟨taken, data, refusal, after, early, talked⟩ |
    ⟨uncounted, traps⟩
  · cases broke : parts.fault with
    | none =>
      have ended : Talked (uploadBody bucket key upload parts) store _ _ after :=
        talked.bind_ok (by rw [broke]; exact .pure _)
      rw [List.append_nil] at ended
      exact .inl ⟨taken, after, rfl, all, ended⟩
    | some fault =>
      have ended : Talked (uploadBody bucket key upload parts) store _ _ after :=
        talked.bind_ok (by rw [broke]; exact .fail _)
      rw [List.append_nil] at ended
      exact .inr (.inl ⟨taken, fault, after, rfl, all, ended⟩)
  · exact .inr (.inr (.inl ⟨taken, data, refusal, after, early, talked.bind_error⟩))
  · exact .inr (.inr (.inr ⟨uncounted, traps.bind⟩))

/-- A body that fails to be uploaded aborts the upload, and its failure is the result. -/
theorem Talked.fillUpload_of_error {upload : String} {error : MediaError}
    {exchanges : List Exchange} {middle : σ} {store : BucketStore σ}
    (keyed : key.isEmpty = false)
    (failed : Talked (uploadBody bucket key upload parts) store (.error error) exchanges middle) :
    ∃ aborted after, Talked (fillUpload bucket key upload parts) store (.error error)
      (exchanges ++ [⟨.abortUpload bucket key upload, aborted⟩]) after := by
  have sendable : isSendable (.abortUpload bucket key upload) = true :=
    isSendable_of_key rfl rfl keyed
  obtain ⟨aborted, after, sent⟩ := talked_send sendable { store with service := middle }
  refine ⟨aborted, after, ?_⟩
  exact failed.attempt.bind_ok (sent.regardless.bind_ok (.fail error))

/-- A body whose parts were all taken is completed, unless the host refuses that. -/
theorem Talked.fillUpload_of_ok {upload : String} {listed : List (Nat × Option String)}
    {exchanges : List Exchange} {middle : σ} {store : BucketStore σ}
    (keyed : key.isEmpty = false)
    (filled : Talked (uploadBody bucket key upload parts) store (.ok listed) exchanges middle) :
    (∃ reply after, Talked (fillUpload bucket key upload parts) store
      (.ok ⟨tagOf reply, parts.size⟩)
      (exchanges ++ [⟨.completeUpload bucket key upload listed, .ok reply⟩]) after) ∨
    ∃ refusal after, Talked (fillUpload bucket key upload parts) store
      (.error (.backend refusal.message))
      (exchanges ++ [⟨.completeUpload bucket key upload listed, .error refusal⟩]) after := by
  have sendable : isSendable (.completeUpload bucket key upload listed) = true :=
    isSendable_of_key rfl rfl keyed
  rcases talked_demand sendable { store with service := middle } with
    ⟨reply, after, granted⟩ | ⟨refusal, after, refused⟩
  · exact .inl ⟨reply, after, filled.attempt.bind_ok (granted.bind_ok (.pure _))⟩
  · exact .inr ⟨refusal, after, filled.attempt.bind_ok refused.bind_error⟩

theorem uploadOf_eq_error {reply : Reply} (nameless : ∀ upload, reply ≠ .created (some upload)) :
    uploadOf reply = .error (.invalid .noUploadId) := by
  rw [uploadOf]
  exact nameless

/-- Whatever becomes of a created upload is one of the conversations of a put, if its parts are not
too many. -/
theorem talked_fillUpload
    (sendable : isSendable (.createUpload bucket key contentType) = true)
    (large : parts.full ≠ []) (upload : String) (store : BucketStore σ) :
    (∃ result exchanges after,
      Talked (fillUpload bucket key upload parts) store result exchanges after ∧
      PutTalk bucket key contentType parts result
        (⟨.createUpload bucket key (Text.headerValue contentType), .ok (.created (some upload))⟩ ::
          exchanges)) ∨
    ¬CountedFrom 1 0 parts.pieces ∧ Traps (fillUpload bucket key upload parts) store := by
  have keyed := isEmpty_of_isSendable sendable
  rcases talked_uploadBody keyed upload parts store with
    ⟨taken, middle, unbroken, all, uploaded⟩ | ⟨taken, fault, middle, broke, all, uploaded⟩ |
    ⟨taken, data, refusal, middle, early, uploaded⟩ | ⟨uncounted, traps⟩
  · rcases uploaded.fillUpload_of_ok keyed with ⟨reply, after, filled⟩ | ⟨refusal, after, filled⟩
    · exact .inl ⟨_, _, after, filled, .completed large unbroken all sendable⟩
    · exact .inl ⟨_, _, after, filled, .completeRefused large unbroken all sendable⟩
  · obtain ⟨aborted, after, filled⟩ := uploaded.fillUpload_of_error keyed
    exact .inl ⟨_, _, after, filled, .brokenLater large broke all sendable⟩
  · obtain ⟨aborted, after, filled⟩ := uploaded.fillUpload_of_error keyed
    rw [List.append_assoc] at filled
    exact .inl ⟨_, _, after, filled, .partRefused large early sendable⟩
  · exact .inr ⟨uncounted, traps.attempt.bind⟩

theorem talked_putInParts (large : parts.full ≠ []) (store : BucketStore σ) :
    (∃ result exchanges after,
      Talked (putInParts bucket key contentType parts) store result exchanges after ∧
      PutTalk bucket key contentType parts result exchanges) ∨
    ¬CountedFrom 1 0 parts.pieces ∧ Traps (putInParts bucket key contentType parts) store := by
  cases sendable : isSendable (.createUpload bucket key contentType) with
  | false =>
    exact .inl ⟨_, _, _, (talked_demand_of_unsendable sendable store).bind_error,
      .unsent (fun small => absurd small large) sendable⟩
  | true =>
    rcases talked_demand sendable store with ⟨reply, named, created⟩ | ⟨refusal, after, refused⟩
    · by_cases nameless : ∀ upload, reply ≠ .created (some upload)
      · exact .inl ⟨_, _, _,
          created.bind_ok (Talked.ofExcept (uploadOf_eq_error nameless)).bind_error,
          .unnamed large nameless sendable⟩
      · obtain ⟨upload, rfl⟩ : ∃ upload, reply = .created (some upload) := by simpa using nameless
        have tells : Talked (Action.ofExcept (uploadOf (.created (some upload))))
            { store with service := named } (.ok upload) [] named := .ofExcept rfl
        rcases talked_fillUpload sendable large upload { store with service := named } with
          ⟨result, exchanges, after, filled, talk⟩ | ⟨uncounted, traps⟩
        · exact .inl ⟨_, _, after, created.bind_ok (tells.bind_ok filled), talk⟩
        · exact .inr ⟨uncounted, created.bind_traps (tells.bind_traps traps)⟩
    · exact .inl ⟨_, _, after, refused.bind_error, .createRefused large sendable⟩

theorem talked_putCut (bucket key contentType : String) (parts : Parts) (store : BucketStore σ) :
    (∃ result exchanges after,
      Talked (putCut bucket key contentType parts) store result exchanges after ∧
      PutTalk bucket key contentType parts result exchanges) ∨
    ¬CountedFrom 1 0 parts.pieces ∧ Traps (putCut bucket key contentType parts) store := by
  rw [putCut]
  split
  · next small =>
    rw [List.isEmpty_iff] at small
    split
    · next fault broke => exact .inl ⟨_, _, _, .fail _, .broken small broke⟩
    · next unbroken => exact .inl (talked_putWhole small unbroken store)
  · next large =>
    rw [List.isEmpty_iff] at large
    exact talked_putInParts large store

end Putting

/-! ## Room for a body -/

/-- What it takes to put a body: there can be room for a part, and the parts can be numbered and
their bytes counted. -/
structure HasRoom {σ : Type} (store : BucketStore σ) (body : ByteStream) : Prop where
  part : store.partSize ≤ Text.maxSigned64
  parts : (body.parts store.partSize).pieces.length ≤ Text.maxSigned32
  bytes : body.yielded.size ≤ Text.max64

theorem HasRoom.counted {σ : Type} {store : BucketStore σ} {body : ByteStream}
    (room : store.HasRoom body) : CountedFrom 1 0 (body.parts store.partSize).pieces := by
  have few := Parts.size_joined_pieces_le (body.parts store.partSize)
  rw [ByteStream.size_parts] at few
  have numbered := room.parts
  have counted := room.bytes
  constructor <;> omega

section Putting

variable {σ : Type} [Host σ] {store : BucketStore σ} {key contentType : String} {body : ByteStream}

/-- Every put is one of the conversations of the parts that its body is cut into, or it traps for
want of room. -/
theorem talked_put (key contentType : String) (body : ByteStream) (store : BucketStore σ) :
    (∃ result exchanges after, Talked (put key contentType body) store result exchanges after ∧
      PutTalk store.bucket key contentType (body.parts store.partSize) result exchanges) ∨
    ¬store.HasRoom body ∧ Traps (put key contentType body) store := by
  rcases Nat.lt_or_ge Text.maxSigned64 store.partSize with beyond | fits
  · refine .inr ⟨fun room => absurd room.part (Nat.not_le_of_lt beyond), ?_⟩
    exact .look_bind (.look_bind (.of_trap (allocate_of_lt beyond)))
  · have room := allocate_of_le fits
    rcases talked_putCut store.bucket key contentType (body.parts store.partSize) store with
      ⟨result, exchanges, after, talked, talk⟩ | ⟨uncounted, traps⟩
    · exact .inl ⟨result, exchanges, after, .look_bind (.look_bind (.ofChecked_bind room talked)),
        talk⟩
    · exact .inr ⟨fun room => uncounted room.counted,
        .look_bind (.look_bind (.ofChecked_bind room traps))⟩

theorem talked_put_of_hasRoom (room : store.HasRoom body) (key contentType : String) :
    ∃ result exchanges after, Talked (put key contentType body) store result exchanges after ∧
      PutTalk store.bucket key contentType (body.parts store.partSize) result exchanges :=
  (talked_put key contentType body store).resolve_right fun ⟨roomless, _⟩ => roomless room

/-- A put that ends was one of the conversations, even if there was no room for the whole body. -/
theorem talked_put_of_run {result : Except MediaError PutReceipt} {ended : BucketStore σ}
    (ran : (put key contentType body).run store = .ok (result, ended)) :
    ∃ exchanges after, ended = { store with service := after } ∧
      Talked (put key contentType body) store result exchanges after ∧
      PutTalk store.bucket key contentType (body.parts store.partSize) result exchanges := by
  rcases talked_put key contentType body store with
    ⟨result, exchanges, after, talked, talk⟩ | ⟨-, trap, trapped⟩
  · cases ran.symm.trans talked.ran
    exact ⟨exchanges, after, rfl, talked, talk⟩
  · cases ran.symm.trans trapped

end Putting

end BucketStore

end Backbeat
