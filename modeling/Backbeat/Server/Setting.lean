import Backbeat.Config
import Backbeat.Feed.Bounds
import Backbeat.Media.Settings
import Backbeat.Text.Blank

/-!
# What can be set

Each setting has a variable of the environment, a key of the configuration and perhaps a
fallback.  An environment that says something about a setting overrides the configuration, which
overrides the fallback; a blank variable says nothing.
-/

namespace Backbeat

inductive Setting where
  | host
  | port
  | secret
  | urlMinutes
  | fileLimit
  | archiveLimit
  | imageLimit
  | chunkSize
  | bucketEndpoint
  | bucketRegion
  | bucketKeyId
  | bucketKey
  | bucketName
  | redisUrl
  | historyLength
  | historyRetries
  | catalogPath
deriving DecidableEq

namespace Setting

def all : List Setting :=
  [.host, .port, .secret, .urlMinutes, .fileLimit, .archiveLimit, .imageLimit, .chunkSize,
    .bucketEndpoint, .bucketRegion, .bucketKeyId, .bucketKey, .bucketName, .redisUrl,
    .historyLength, .historyRetries, .catalogPath]

theorem mem_all (setting : Setting) : setting ∈ all := by
  cases setting <;> decide

def variableName : Setting → String
  | .host => "HTTP_HOST"
  | .port => "HTTP_PORT"
  | .secret => "VERIFICATION_SECRET"
  | .urlMinutes => "URL_TTL_MINUTES"
  | .fileLimit => "FILE_SIZE_LIMIT"
  | .archiveLimit => "ARCHIVE_SIZE_LIMIT"
  | .imageLimit => "IMAGE_SIZE_LIMIT"
  | .chunkSize => "STREAM_CHUNK_SIZE"
  | .bucketEndpoint => "S3_ENDPOINT_URL"
  | .bucketRegion => "S3_REGION"
  | .bucketKeyId => "S3_ACCESS_KEY_ID"
  | .bucketKey => "S3_SECRET_ACCESS_KEY"
  | .bucketName => "S3_BUCKET"
  | .redisUrl => "REDIS_URL"
  | .historyLength => "FEED_HISTORY_LENGTH"
  | .historyRetries => "FEED_HISTORY_RETRIES"
  | .catalogPath => "BEAT_CATALOG_PATH"

def key : Setting → String
  | .host => "http.host"
  | .port => "http.port"
  | .secret => "media.secret"
  | .urlMinutes => "media.url_ttl_minutes"
  | .fileLimit => "media.limit.file"
  | .archiveLimit => "media.limit.archive"
  | .imageLimit => "media.limit.image"
  | .chunkSize => "stream.chunk_size"
  | .bucketEndpoint => "s3.endpoint_url"
  | .bucketRegion => "s3.region"
  | .bucketKeyId => "s3.access_key_id"
  | .bucketKey => "s3.secret_access_key"
  | .bucketName => "s3.bucket"
  | .redisUrl => "redis.url"
  | .historyLength => "feed.history_length"
  | .historyRetries => "feed.history_retries"
  | .catalogPath => "catalog.path"

def fallback? : Setting → Option String
  | .host => some "127.0.0.1"
  | .port => some "8080"
  | .urlMinutes => some "15"
  | .fileLimit => some (toString (50 * mebibyte))
  | .archiveLimit => some (toString (500 * mebibyte))
  | .imageLimit => some (toString (5 * mebibyte))
  | .chunkSize => some (toString defaultChunkSize)
  | .bucketRegion => some "us-east-1"
  | .bucketName => some "beats"
  | .redisUrl => some "redis://127.0.0.1/"
  | .historyLength => some (toString defaultHistoryLength)
  | .historyRetries => some (toString defaultRetryBudget)
  | _ => none

end Setting

namespace Config

/-- What an environment says about a setting, if it says anything. -/
def said? (environment : String → Option String) (setting : Setting) : Option String :=
  (environment setting.variableName).bind fun text =>
    (Text.trimmed? text.toList).map String.ofList

/-- The configuration with one setting taken from the environment or its fallback. -/
def fill (environment : String → Option String) (config : Config) (setting : Setting) : Config :=
  match said? environment setting with
  | some text => config.set setting.key text
  | none =>
    match setting.fallback? with
    | some text => config.setDefault setting.key text
    | none => config

/-- The configuration with all settings taken from the environment or their fallbacks. -/
def configure (environment : String → Option String) (config : Config) : Config :=
  Setting.all.foldl (fill environment) config

end Config

end Backbeat
