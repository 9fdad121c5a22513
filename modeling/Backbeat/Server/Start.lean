import Backbeat.Bucket.Store
import Backbeat.Catalog.Memory
import Backbeat.History.Redis
import Backbeat.Server.Settings
import Backbeat.Web.App

/-!
# Starting a server

A server is started from its settings: the bucket is looked for, the signer made, the histories
reached and the catalog read, in this order.  The first of these that fails is reported in the
context of what was being done.
-/

namespace Backbeat

namespace Settings

variable {σ ρ : Type}

/-- The store in the bucket of a host that the settings name. -/
def bucketStore (settings : Settings) (service : σ) : BucketStore σ where
  service := service
  endpoint := settings.bucket.endpoint
  bucket := settings.bucket.bucket
  key := settings.bucket.key

def site (settings : Settings) (signer : Signer) : Web.Site where
  media := { signer, settings := settings.media }
  historyBound := settings.historyLength

def signer (settings : Settings) : Except Report Signer :=
  (Signer.ofSecret settings.secret.toUTF8).mapError fun error => .ofText error.message

/-- The histories in the Redis host that the settings name. -/
def history [Redis.Host ρ] (settings : Settings) (server : ρ) : Except Report (RedisHistory ρ) :=
  match RedisHistory.connect server settings.redisUrl with
  | .ok history => .ok { history with retryBudget := settings.historyRetries }
  | .error error => .error ((Report.ofText error.message).inContext "connecting to redis")

/-- The catalog in the file that the settings name; where they name none it is empty.  What is
not said of a beat's time of creation is `now`. -/
def catalog (settings : Settings) (files : String → Option String) (now : Calendar.Instant) :
    Except Report MemoryCatalog :=
  match settings.catalogPath with
  | none => .ok .empty
  | some path =>
    match files path with
    | none =>
      .error ((Report.ofText "the file cannot be read").inContext s!"reading beat catalog {path}")
    | some text =>
      (MemoryCatalog.ofText now text).mapError fun error =>
        (Report.ofText error.message).inContext s!"parsing beat catalog {path}"

/-- Start a server on the store that its settings name. -/
def start [Bucket.Host σ] [Redis.Host ρ] (settings : Settings) (redis : ρ)
    (files : String → Option String) (now : Calendar.Instant) :
    Action (BucketStore σ) Report (Web.Site × Feed (RedisHistory ρ) MemoryCatalog) := do
  BucketStore.connect.mapError fun error =>
    (Report.ofText error.message).inContext "connecting to object storage"
  let signer ← Action.ofExcept settings.signer
  let history ← Action.ofExcept (settings.history redis)
  let repository ← Action.ofExcept (settings.catalog files now)
  return (settings.site signer, { history, repository })

end Settings

end Backbeat
