import Backbeat.Digest.Base64Url
import Backbeat.Digest.Hmac
import Backbeat.Media.Upload
import Backbeat.Text.Quoted

/-!
# Signed upload URLs

An upload URL states an object name, a kind and an expiry, and ends in a tag over all of that.
To verify one, the URL of the stated values is built again and must be equal to the received one
in every byte, so that nothing can be added, left out or moved.
-/

namespace Backbeat

def defaultBasePath : String := "/v1/beat"

structure SignedUrl where
  basePath : String
  name : String
  kind : MediaKind
  expiry : Int
  signature : String
deriving DecidableEq

/-- The part of an upload URL that its tag covers. -/
def canonicalUrl (basePath name : String) (kind : MediaKind) (expiry : Int) : String :=
  s!"{basePath}?name={name}&type={kind.name}&exp={expiry}"

namespace SignedUrl

/-- The part of the URL that the tag covers. -/
def canonical (url : SignedUrl) : String :=
  canonicalUrl url.basePath url.name url.kind url.expiry

def toString (url : SignedUrl) : String :=
  s!"{url.canonical}&hash={url.signature}"

end SignedUrl

/-- One who signs upload URLs: a rule for tags, and the path that the URLs begin with. -/
structure Signer where
  tag : ByteArray → ByteArray
  basePath : String := defaultBasePath

namespace Signer

/-- The signer with a secret, which must not be empty. -/
def ofSecret (secret : ByteArray) : Except MediaError Signer :=
  if secret.isEmpty then .error (.invalid .emptySecret)
  else .ok { tag := Digest.hmacSha256 secret }

/-- The signer as it may be shown: its secret stays hidden. -/
def shown (signer : Signer) : String :=
  "MediaUrlSigner \x7b secret: \"<redacted>\", base_path: " ++
    Text.quoted signer.basePath ++ " \x7d"

def sign (signer : Signer) (text : String) : String :=
  String.ofList (Digest.Base64Url.encode (signer.tag text.toUTF8).data.toList)

/-- The signed URL of an object name, a kind and an expiry. -/
def build (signer : Signer) (name : String) (kind : MediaKind) (expiry : Int) : SignedUrl where
  basePath := signer.basePath
  name := name
  kind := kind
  expiry := expiry
  signature := signer.sign (canonicalUrl signer.basePath name kind expiry)

/-- Check an upload against the URL it came on.  A URL is good only before its expiry, and that
is looked at first. -/
def verify (signer : Signer) (received : String) (upload : Upload) (now : Int) :
    Except MediaError Unit :=
  if upload.expiry ≤ now then .error (.urlExpired upload.expiry now)
  else if (signer.build upload.name upload.kind upload.expiry).toString = received then .ok ()
  else .error .invalidSignature

end Signer

end Backbeat
