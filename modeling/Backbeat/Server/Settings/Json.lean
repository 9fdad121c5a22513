import Backbeat.Media.Json
import Backbeat.Server.Settings

/-!
# Settings in JSON

The object of all settings, secrets included, for whoever has to check what a server would run
with.
-/

namespace Backbeat

def BucketSettings.toJson (settings : BucketSettings) : Json :=
  .obj
    [("endpoint_url", .str settings.endpoint), ("region", .str settings.region),
      ("access_key_id", .str settings.keyId), ("secret_access_key", .str settings.key),
      ("bucket", .str settings.bucket)]

def Settings.toJson (settings : Settings) : Json :=
  .obj
    [("host", .str settings.host), ("port", .nat settings.port),
      ("bind", .str settings.bindAddress), ("secret", .str settings.secret),
      ("url_ttl_secs", .nat settings.media.urlSeconds), ("limits", settings.media.limits.toJson),
      ("chunk_size", .nat settings.media.chunkSize), ("s3", settings.bucket.toJson),
      ("redis_url", .str settings.redisUrl), ("history_length", .nat settings.historyLength),
      ("history_retries", .nat settings.historyRetries),
      ("catalog_path", .orNull .str settings.catalogPath)]

end Backbeat
