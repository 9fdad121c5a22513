import Backbeat.Data.Action
import Backbeat.Failure.Report
import Backbeat.Server.Setting
import Backbeat.Text.Integer

/-!
# The settings of a server

The texts of a configuration become typed settings, or the first one that is missing or does not
fit is reported.  The lifetime of URLs is set in minutes and kept in seconds.
-/

namespace Backbeat

structure BucketSettings where
  endpoint : String
  region : String
  keyId : String
  key : String
  bucket : String

structure Settings where
  host : String
  port : Nat
  secret : String
  media : MediaSettings
  bucket : BucketSettings
  redisUrl : String
  historyLength : Nat
  historyRetries : Nat
  catalogPath : Option String

inductive SettingsError where
  | missing (setting : Setting)
  | noNumber (setting : Setting) (raw : String) (fault : Text.IntegerFault)
  | noHistory

def SettingsError.report : SettingsError → Report
  | .missing setting => .ofText ("missing required config `" ++ setting.key ++ "`")
  | .noNumber setting raw fault =>
    (Report.ofText fault.message).inContext
      ("config `" ++ setting.key ++ "` must be a number, got `" ++ raw ++ "`")
  | .noHistory => .ofText (Setting.historyLength.key ++ " must be at least 1")

namespace Settings

def bindAddress (settings : Settings) : String :=
  s!"{settings.host}:{settings.port}"

/-- The text of a setting that must be there. -/
def required (config : Config) (setting : Setting) : ExceptT SettingsError (Except Trap) String :=
  match config.get? setting.key with
  | some text => pure text
  | none => throw (.missing setting)

/-- The number of a setting, of at most `limit`. -/
def number (config : Config) (limit : Nat) (setting : Setting) :
    ExceptT SettingsError (Except Trap) Nat := do
  let raw ← required config setting
  match Text.readNat limit (Text.trim raw.toList) with
  | .ok value => pure value
  | .error fault => throw (.noNumber setting raw fault)

def secondsOf (minutes : Nat) : Checked Nat :=
  if minutes * 60 ≤ Text.max64 then .ok (minutes * 60) else .error .multiplyOverflow

def ofConfig (config : Config) : ExceptT SettingsError (Except Trap) Settings := do
  let historyLength ← number config Text.max64 .historyLength
  if historyLength = 0 then
    throw .noHistory
  let host ← required config .host
  let port ← number config Text.max16 .port
  let secret ← required config .secret
  let minutes ← number config Text.max64 .urlMinutes
  let urlSeconds ← ExceptT.lift (secondsOf minutes)
  let file ← number config Text.max64 .fileLimit
  let archive ← number config Text.max64 .archiveLimit
  let image ← number config Text.max64 .imageLimit
  let chunkSize ← number config Text.max64 .chunkSize
  let endpoint ← required config .bucketEndpoint
  let region ← required config .bucketRegion
  let keyId ← required config .bucketKeyId
  let key ← required config .bucketKey
  let bucket ← required config .bucketName
  let redisUrl ← required config .redisUrl
  let historyRetries ← number config Text.max32 .historyRetries
  return {
    host, port, secret
    media := { urlSeconds, chunkSize, limits := { file, archive, image } }
    bucket := { endpoint, region, keyId, key, bucket }
    redisUrl, historyLength, historyRetries
    catalogPath := config.get? Setting.catalogPath.key }

def ofEnvironment (environment : String → Option String) :
    ExceptT SettingsError (Except Trap) Settings :=
  ofConfig (Config.empty.configure environment)

end Settings

end Backbeat
