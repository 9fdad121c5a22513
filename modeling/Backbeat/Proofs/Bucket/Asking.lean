import Backbeat.Bucket.Request.Json
import Backbeat.Proofs.Bucket.Agreement
import Backbeat.Proofs.Bucket.Conversation
import Backbeat.Proofs.Media.Range.Grammar
import Backbeat.Proofs.Media.Range.Places
import Backbeat.Rehearsal.Bucket

/-!
# Asking a bucket for a part of an object

To get the bytes of an object, a store sends one request, whose header asks for the span that is
wanted.  The main statement is that range headers are read by their grammar, and that the header
which a store sends is one that reads back as the span.
-/

namespace Backbeat

open Bucket (Host Request Reply Refusal)
open Rehearsal (Exchange Sample.bucketStore)

namespace BucketStore

variable {σ : Type} [Host σ] {bucket key : String}

/-- The request for the bytes of an object, all of them or a span. -/
def bytesRequest (bucket key : String) (span : Option Span) : Request :=
  .getObject bucket key (span.map fun span => (span.start, span.stop))

/-- Bytes are asked for in one exchange, unless there is no key to ask for. -/
theorem talked_getRange (key : String) (span : Option Span) (store : BucketStore σ) :
    ∃ result exchanges after, Talked (getRange key span) store result exchanges after ∧
      (key.isEmpty = false → exchanges ≠ []) ∧
      ∀ exchange ∈ exchanges, exchange.request = bytesRequest store.bucket key span := by
  cases keyed : key.isEmpty with
  | true =>
    have unsendable : isSendable (bytesRequest store.bucket key span) = false := by
      simp [isSendable, bytesRequest, Request.key?, keyed]
    have talked := talked_send_of_unsendable unsendable store
    refine ⟨_, [], _, .look_bind (talked.mapError _).bind_error, ?_, List.forall_mem_nil _⟩
    intro filled
    cases filled
  | false =>
    have sendable : isSendable (bytesRequest store.bucket key span) = true :=
      isSendable_of_key rfl rfl keyed
    obtain ⟨answer, after, talked⟩ := talked_send sendable store
    have one : ∀ exchange ∈ [(⟨bytesRequest store.bucket key span, answer⟩ : Exchange)],
        exchange.request = bytesRequest store.bucket key span := by
      intro exchange listed
      rw [List.mem_singleton.mp listed]
    have asked := List.cons_ne_nil (⟨bytesRequest store.bucket key span, answer⟩ : Exchange) []
    cases answer with
    | error refusal =>
      exact ⟨_, _, after, .look_bind (talked.mapError _).bind_error, fun _ => asked, one⟩
    | ok reply =>
      cases reply with
      | content data =>
        exact ⟨_, _, after, .look_bind ((talked.mapError _).bind_ok (.pure _)), fun _ => asked, one⟩
      | _ =>
        exact ⟨_, _, after, .look_bind ((talked.mapError _).bind_ok (.pure _)), fun _ => asked, one⟩

/-- The request for a span tells the header that asks for it. -/
theorem ownMembers_bytesRequest (bucket key : String) (span : Span) :
    (bytesRequest bucket key (some span)).ownMembers = [("range", .str span.header)] := rfl

end BucketStore

namespace ByteRange

open Text

/-- A header is read as its grammar says, and what is written for a range is read back as this
range.  A store in a bucket asks for what a range comes to in an object by a header that comes to
the same again. -/
theorem read_by_grammar :
    (∀ header : String,
      (ofHeader header = .ok none ↔ trim header.toList = []) ∧
      (∀ range, ofHeader header = .ok (some range) ↔ Asks (trim header.toList) range) ∧
      ((∃ fault, ofHeader header = .error fault) ↔
        trim header.toList ≠ [] ∧ ∀ range, ¬ Asks (trim header.toList) range)) ∧
    (∀ start stop, start ≤ stop → stop < 2 ^ 64 →
      ofHeader s!"bytes={start}-{stop}" = .ok (some ⟨start, some stop⟩)) ∧
    (∀ start, start < 2 ^ 64 → ofHeader s!"bytes={start}-" = .ok (some ⟨start, none⟩)) ∧
    ∀ {σ : Type} [Host σ] (store : BucketStore σ) (key : String) (range : ByteRange) (span : Span)
      (size : Nat), range.IsMade → size < 2 ^ 64 → range.resolve size = .ok span →
      ∃ result exchanges after,
        BucketStore.Talked (BucketStore.getRange key (some span)) store result exchanges after ∧
        (key.isEmpty = false → exchanges ≠ []) ∧
        ∀ exchange ∈ exchanges,
          exchange.request.ownMembers = [("range", .str s!"bytes={span.start}-{span.stop}")] ∧
          ∃ again, ofHeader s!"bytes={span.start}-{span.stop}" = .ok (some again) ∧
            again.resolve size = .ok span := by
  refine ⟨?_, ?_, ?_, ?_⟩
  · intro header
    exact ⟨ofHeader_eq_none_iff, fun range => ofHeader_eq_some_iff, ofHeader_eq_error_iff⟩
  · intro start stop ordered small
    show ofHeader (toHeader ⟨start, some stop⟩) = _
    apply ofHeader_toHeader
    · rintro _ ⟨⟩
      exact ordered
    · exact Nat.lt_of_le_of_lt ordered small
    · rintro _ ⟨⟩
      exact small
  · intro start small
    show ofHeader (toHeader ⟨start, none⟩) = _
    exact ofHeader_toHeader nofun small nofun
  · intro σ _ store key range span size made addressable resolved
    obtain ⟨result, exchanges, after, talked, asked, each⟩ :=
      BucketStore.talked_getRange key (some span) store
    refine ⟨result, exchanges, after, talked, asked, ?_⟩
    intro exchange listed
    obtain ⟨reached, inside, rfl⟩ := made.ordered.within resolved
    refine ⟨?_, ⟨span.start, some span.stop⟩, ?_, resolve_span reached inside⟩
    · rw [each exchange listed, BucketStore.ownMembers_bytesRequest]
      rfl
    · exact ofHeader_header reached (Nat.lt_trans inside addressable)

/-- A range that outlasts an object of ten bytes is asked for by a header of what the object has. -/
theorem read_by_grammar_sample :
    ofHeader s!"bytes={5}-{99}" = .ok (some ⟨5, some 99⟩) ∧
    ∃ result exchanges after,
      BucketStore.Talked (BucketStore.getRange "k" (some ⟨5, 9, 10⟩)) (Sample.bucketStore [])
        result exchanges after ∧
      exchanges ≠ [] ∧
      ∀ exchange ∈ exchanges,
        exchange.request.ownMembers = [("range", .str s!"bytes={5}-{9}")] ∧
        ∃ again, ofHeader s!"bytes={5}-{9}" = .ok (some again) ∧
          again.resolve 10 = .ok ⟨5, 9, 10⟩ := by
  obtain ⟨-, read, -, asked⟩ := read_by_grammar
  have parsed := read 5 99 (by decide) (by decide)
  have made : closed 5 99 = .ok ⟨5, some 99⟩ := rfl
  obtain ⟨result, exchanges, after, talked, some, each⟩ :=
    asked (Sample.bucketStore []) "k" ⟨5, some 99⟩ ⟨5, 9, 10⟩ 10 (.closed made) (by decide)
      rfl
  exact ⟨parsed, result, exchanges, after, talked, some (by decide), each⟩

end ByteRange

end Backbeat
