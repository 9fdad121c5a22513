import Backbeat.Proofs.Server.Settings
import Backbeat.Proofs.Text.Decimal
import Backbeat.Proofs.Text.Trimming
import Mathlib.Data.List.Nodup

/-!
# Which text counts for a setting

What an environment says of a setting comes before what a preset does, and this before the fallback.
A setting is filled in under a key of its own, so that one can be filled in after the other: each
ends up with the text that counts for it, no other key is written, and filling in all of them once
more finds nothing to do.

The main statement adds when settings are read from these texts: nothing that is required may be
missing, numbers are to be numbers of their ranges, and a history holds something.
-/

namespace Backbeat

open Text

namespace Setting

variable {setting : Setting}

theorem nodup_key : (all.map key).Nodup := by
  decide

/-- No two settings share a key. -/
theorem key_injective {left right : Setting} (same : left.key = right.key) : left = right :=
  List.inj_on_of_nodup_map nodup_key (mem_all left) (mem_all right) same

/-- The variables, keys and fallbacks that users are told of, in the order of the settings. -/
def table : List (String × String × Option String) :=
  [("HTTP_HOST", "http.host", some "127.0.0.1"),
    ("HTTP_PORT", "http.port", some "8080"),
    ("VERIFICATION_SECRET", "media.secret", none),
    ("URL_TTL_MINUTES", "media.url_ttl_minutes", some "15"),
    ("FILE_SIZE_LIMIT", "media.limit.file", some "52428800"),
    ("ARCHIVE_SIZE_LIMIT", "media.limit.archive", some "524288000"),
    ("IMAGE_SIZE_LIMIT", "media.limit.image", some "5242880"),
    ("STREAM_CHUNK_SIZE", "stream.chunk_size", some "32768"),
    ("S3_ENDPOINT_URL", "s3.endpoint_url", none),
    ("S3_REGION", "s3.region", some "us-east-1"),
    ("S3_ACCESS_KEY_ID", "s3.access_key_id", none),
    ("S3_SECRET_ACCESS_KEY", "s3.secret_access_key", none),
    ("S3_BUCKET", "s3.bucket", some "beats"),
    ("REDIS_URL", "redis.url", some "redis://127.0.0.1/"),
    ("FEED_HISTORY_LENGTH", "feed.history_length", some "50"),
    ("FEED_HISTORY_RETRIES", "feed.history_retries", some "7"),
    ("BEAT_CATALOG_PATH", "catalog.path", none)]

theorem map_all_eq_table :
    all.map (fun setting => (setting.variableName, setting.key, setting.fallback?)) = table :=
  rfl

/-- The largest number that a setting may be, if it is to be a number. -/
def limit? : Setting → Option Nat
  | .port => some max16
  | .urlMinutes => some max64
  | .fileLimit => some max64
  | .archiveLimit => some max64
  | .imageLimit => some max64
  | .chunkSize => some max64
  | .historyLength => some max64
  | .historyRetries => some max32
  | _ => none

/-- A server cannot do without these settings, and there is no fallback for them. -/
def isRequired : Setting → Bool
  | .secret => true
  | .bucketEndpoint => true
  | .bucketKeyId => true
  | .bucketKey => true
  | _ => false

theorem isRequired_or_fallback (needed : setting ≠ .catalogPath) :
    setting.isRequired = true ∨ ∃ text, setting.fallback? = some text := by
  cases setting with
  | catalogPath => exact absurd rfl needed
  | secret | bucketEndpoint | bucketKeyId | bucketKey => exact Or.inl rfl
  | _ => exact Or.inr ⟨_, rfl⟩

end Setting

namespace Config

variable {environment : String → Option String} {config preset : Config} {setting : Setting}
  {settings : List Setting} {key : String}

/-- The text that counts for a setting: the trimmed one of its variable, if there is more to it than
blanks, or else that of the preset, or else its fallback. -/
def effective? (preset : Config) (environment : String → Option String) (setting : Setting) :
    Option String :=
  (((environment setting.variableName).map trimText).filter (· ≠ "")).or
    ((preset.get? setting.key).or setting.fallback?)

theorem said?_eq (environment : String → Option String) (setting : Setting) :
    said? environment setting =
      ((environment setting.variableName).map trimText).filter (· ≠ "") := by
  rw [said?]
  cases environment setting.variableName with
  | none => rfl
  | some text =>
    rw [Option.map_some, Option.bind_some, trimText, trimmed?]
    cases trim text.toList with
    | nil => rfl
    | cons character rest =>
      have something : String.ofList (character :: rest) ≠ "" := by simp
      exact (if_pos (decide_eq_true something)).symm

theorem effective?_eq (preset : Config) (environment : String → Option String) (setting : Setting) :
    preset.effective? environment setting =
      (said? environment setting).or ((preset.get? setting.key).or setting.fallback?) := by
  rw [said?_eq, effective?]

theorem effective?_congr (same : config.get? setting.key = preset.get? setting.key) :
    config.effective? environment setting = preset.effective? environment setting := by
  rw [effective?, effective?, same]

/-- Where there is a fallback, some text counts. -/
theorem exists_effective? {fallback : String} (falls : setting.fallback? = some fallback)
    (preset : Config) (environment : String → Option String) :
    ∃ text, preset.effective? environment setting = some text := by
  rw [effective?, falls, Option.or_some, Option.or_some]
  exact ⟨_, rfl⟩

/-- Filling in one setting writes the text that counts for it, and nothing else. -/
theorem get?_fill (environment : String → Option String) (config : Config) (setting : Setting)
    (key : String) :
    (fill environment config setting).get? key =
      if setting.key = key then config.effective? environment setting else config.get? key := by
  rw [fill, effective?_eq]
  cases said? environment setting with
  | some text => exact get?_set config setting.key key text
  | none =>
    rw [Option.none_or]
    cases setting.fallback? with
    | some text =>
      rw [Option.or_some]
      exact get?_setDefault config setting.key key text
    | none =>
      show config.get? key = _
      rw [Option.or_none]
      split
      · next same => rw [same]
      · rfl

/-- A setting for which its text stands already is left as it is. -/
theorem fill_eq_self (settled : config.get? setting.key = config.effective? environment setting) :
    fill environment config setting = config := by
  rw [effective?_eq] at settled
  rw [fill]
  cases said : said? environment setting with
  | some text =>
    rw [said] at settled
    exact set_eq_self settled
  | none =>
    cases fallback : setting.fallback? with
    | none => rfl
    | some text =>
      rw [said, fallback, Option.none_or, Option.or_some] at settled
      exact setDefault_eq_self (Option.isSome_of_eq_some settled) text

theorem get?_foldl_fill_of_ne (elsewhere : ∀ setting ∈ settings, setting.key ≠ key)
    (preset : Config) :
    (settings.foldl (fill environment) preset).get? key = preset.get? key := by
  induction settings generalizing preset with
  | nil => rfl
  | cons first rest ih =>
    obtain ⟨first_ne, rest_ne⟩ := List.forall_mem_cons.mp elsewhere
    rw [List.foldl_cons, ih rest_ne, get?_fill, if_neg first_ne]

theorem get?_foldl_fill_of_mem (distinct : settings.Nodup) (listed : setting ∈ settings)
    (preset : Config) :
    (settings.foldl (fill environment) preset).get? setting.key =
      preset.effective? environment setting := by
  induction settings generalizing preset with
  | nil => cases listed
  | cons first rest ih =>
    obtain ⟨absent, distinct⟩ := List.nodup_cons.mp distinct
    rw [List.foldl_cons]
    -- Settings have keys of their own, so the text of one outlives the filling in of the others.
    rcases List.mem_cons.mp listed with rfl | later
    · have elsewhere : ∀ other ∈ rest, other.key ≠ setting.key :=
        fun other member same => absent (Setting.key_injective same ▸ member)
      rw [get?_foldl_fill_of_ne elsewhere, get?_fill, if_pos rfl]
    · have different : first.key ≠ setting.key :=
        fun same => absent (Setting.key_injective same ▸ later)
      have kept : (fill environment preset first).get? setting.key = preset.get? setting.key := by
        rw [get?_fill, if_neg different]
      rw [ih distinct later, effective?_congr kept]

/-- Each setting ends up with the text that counts for it. -/
theorem get?_configure (preset : Config) (environment : String → Option String)
    (setting : Setting) :
    (preset.configure environment).get? setting.key = preset.effective? environment setting :=
  get?_foldl_fill_of_mem (List.Nodup.of_map _ Setting.nodup_key) (Setting.mem_all setting) preset

theorem get?_configure_of_ne (elsewhere : ∀ setting : Setting, setting.key ≠ key)
    (preset : Config) (environment : String → Option String) :
    (preset.configure environment).get? key = preset.get? key :=
  get?_foldl_fill_of_ne (fun setting _ => elsewhere setting) preset

/-- What counted for a setting counts for it again. -/
theorem effective?_configure (preset : Config) (environment : String → Option String)
    (setting : Setting) :
    (preset.configure environment).effective? environment setting =
      preset.effective? environment setting := by
  rw [effective?_eq, get?_configure, effective?_eq]
  generalize said? environment setting = said, preset.get? setting.key = given,
    setting.fallback? = fallback
  calc
    said.or ((said.or (given.or fallback)).or fallback) =
        (said.or said).or (given.or (fallback.or fallback)) := by simp only [Option.or_assoc]
    _ = said.or (given.or fallback) := by rw [Option.or_self, Option.or_self]

theorem configure_configure (preset : Config) (environment : String → Option String) :
    (preset.configure environment).configure environment = preset.configure environment := by
  refine List.foldl_fixed' (fun setting => fill_eq_self ?_) Setting.all
  rw [effective?_configure, get?_configure]

/-- Exactly the numerals of a number of the range are read as it. -/
theorem isNumber_iff {limit value : Nat} :
    config.IsNumber limit setting value ↔
      ∃ text, config.get? setting.key = some text ∧ IsNumeral (trim text.toList) value ∧
        value ≤ limit := by
  simp only [IsNumber, readNat_eq_ok_iff]

end Config

namespace Settings

variable {config : Config} {settings : Settings} {setting : Setting} {limit : Nat}

/-- Texts of which settings can be made. -/
structure Acceptable (text? : Setting → Option String) : Prop where
  present : ∀ setting, setting.isRequired = true → ∃ text, text? setting = some text
  numeric : ∀ setting limit, setting.limit? = some limit →
    ∃ text, text? setting = some text ∧
      ∃ value, IsNumeral (trim text.toList) value ∧ value ≤ limit
  remembering : ∀ text, text? .historyLength = some text → ¬IsNumeral (trim text.toList) 0

theorem ReadFrom.exists_text (read : ReadFrom config settings)
    (required : setting.isRequired = true) : ∃ text, config.get? setting.key = some text := by
  cases setting with
  | secret => exact ⟨_, read.secret⟩
  | bucketEndpoint => exact ⟨_, read.endpoint⟩
  | bucketKeyId => exact ⟨_, read.keyId⟩
  | bucketKey => exact ⟨_, read.key⟩
  | _ => cases required

theorem ReadFrom.exists_number (read : ReadFrom config settings)
    (numeric : setting.limit? = some limit) : ∃ value, config.IsNumber limit setting value := by
  cases setting with
  | port =>
    cases numeric
    exact ⟨_, read.port⟩
  | urlMinutes =>
    cases numeric
    obtain ⟨minutes, isMinutes, -⟩ := read.lifetime
    exact ⟨minutes, isMinutes⟩
  | fileLimit =>
    cases numeric
    exact ⟨_, read.file⟩
  | archiveLimit =>
    cases numeric
    exact ⟨_, read.archive⟩
  | imageLimit =>
    cases numeric
    exact ⟨_, read.image⟩
  | chunkSize =>
    cases numeric
    exact ⟨_, read.chunkSize⟩
  | historyLength =>
    cases numeric
    exact ⟨_, read.historyLength⟩
  | historyRetries =>
    cases numeric
    exact ⟨_, read.historyRetries⟩
  | _ => cases numeric

/-- Settings are made of any texts, numbers of their ranges among them. -/
theorem exists_readFrom
    (present : ∀ setting : Setting, setting ≠ .catalogPath →
      ∃ text, config.get? setting.key = some text)
    (numeric : ∀ (setting : Setting) (limit : Nat), setting.limit? = some limit →
      ∃ value, config.IsNumber limit setting value)
    (remembering : ¬config.IsNumber max64 .historyLength 0)
    (lasting : ∀ minutes, config.IsNumber max64 .urlMinutes minutes → minutes ≤ max64 / 60) :
    ∃ settings, ReadFrom config settings := by
  choose text isText using present
  choose number isNumber using numeric
  have few := lasting _ (isNumber .urlMinutes max64 rfl)
  refine ⟨
    { host := text .host nofun
      port := number .port max16 rfl
      secret := text .secret nofun
      media :=
        { urlSeconds := number .urlMinutes max64 rfl * 60
          chunkSize := number .chunkSize max64 rfl
          limits :=
            { file := number .fileLimit max64 rfl
              archive := number .archiveLimit max64 rfl
              image := number .imageLimit max64 rfl } }
      bucket :=
        { endpoint := text .bucketEndpoint nofun
          region := text .bucketRegion nofun
          keyId := text .bucketKeyId nofun
          key := text .bucketKey nofun
          bucket := text .bucketName nofun }
      redisUrl := text .redisUrl nofun
      historyLength := number .historyLength max64 rfl
      historyRetries := number .historyRetries max32 rfl
      catalogPath := config.get? Setting.catalogPath.key }, ?_⟩
  exact
    { historyLength := isNumber .historyLength max64 rfl
      remembering := fun zero => remembering (zero ▸ isNumber .historyLength max64 rfl)
      host := isText .host nofun
      port := isNumber .port max16 rfl
      secret := isText .secret nofun
      lifetime := ⟨_, isNumber .urlMinutes max64 rfl, by omega, rfl⟩
      file := isNumber .fileLimit max64 rfl
      archive := isNumber .archiveLimit max64 rfl
      image := isNumber .imageLimit max64 rfl
      chunkSize := isNumber .chunkSize max64 rfl
      endpoint := isText .bucketEndpoint nofun
      region := isText .bucketRegion nofun
      keyId := isText .bucketKeyId nofun
      key := isText .bucketKey nofun
      bucket := isText .bucketName nofun
      redisUrl := isText .redisUrl nofun
      historyRetries := isNumber .historyRetries max32 rfl
      catalogPath := rfl }

/-- Settings are read from texts that are acceptable, and from no others. -/
theorem exists_readFrom_iff
    (standing : ∀ (setting : Setting) (fallback : String), setting.fallback? = some fallback →
      ∃ text, config.get? setting.key = some text)
    (lasting : ∀ minutes, config.IsNumber max64 .urlMinutes minutes → minutes ≤ max64 / 60) :
    (∃ settings, ReadFrom config settings) ↔ Acceptable fun setting => config.get? setting.key := by
  constructor
  · rintro ⟨settings, read⟩
    refine ⟨fun setting required => read.exists_text required, ?_, ?_⟩
    · intro setting limit numeric
      obtain ⟨value, isNumber⟩ := read.exists_number numeric
      obtain ⟨text, found, reads⟩ := Config.isNumber_iff.mp isNumber
      exact ⟨text, found, value, reads⟩
    · intro text found zero
      obtain ⟨raw, stands, numeral, -⟩ := Config.isNumber_iff.mp read.historyLength
      cases found.symm.trans stands
      exact read.remembering (numeral.unique zero)
  · intro acceptable
    refine exists_readFrom ?_ ?_ ?_ lasting
    · intro setting needed
      rcases Setting.isRequired_or_fallback needed with required | ⟨fallback, falls⟩
      · exact acceptable.present setting required
      · exact standing setting fallback falls
    · intro setting limit numeric
      obtain ⟨text, found, value, reads⟩ := acceptable.numeric setting limit numeric
      exact ⟨value, Config.isNumber_iff.mpr ⟨text, found, reads⟩⟩
    · intro isNumber
      obtain ⟨text, found, zero, -⟩ := Config.isNumber_iff.mp isNumber
      exact acceptable.remembering text found zero

/-- Reading settings ends with settings or an error, if their minutes are not too many. -/
theorem exists_run_ofConfig
    (lasting : ∀ minutes, config.IsNumber max64 .urlMinutes minutes → minutes ≤ max64 / 60) :
    ∃ result, (ofConfig config).run = .ok result := by
  cases ran : (ofConfig config).run with
  | error trap =>
    obtain ⟨-, outgrown⟩ := (run_ofConfig_eq_trap_iff trap).mp ran
    obtain ⟨minutes, isMinutes, beyond⟩ := outgrown.minutes
    have := lasting minutes isMinutes
    omega
  | ok result => exact ⟨result, rfl⟩

/-- Settings have the variables, keys and fallbacks of their table.  The text of each one is the
trimmed one of the environment unless that is blank, or else the one of the preset, or else the
fallback; all other keys stay as they are, and configuring once more changes nothing.  If the
minutes that URLs live are few enough to be counted in seconds, settings are read just when these
texts are acceptable, and an error is reported when they are not; what is read are the texts that
count, each for its own setting. -/
theorem read_by_precedence (environment : String → Option String) (preset : Config) :
    Setting.all.map (fun setting => (setting.variableName, setting.key, setting.fallback?)) =
      Setting.table ∧
    (∀ setting : Setting, (preset.configure environment).get? setting.key =
      preset.effective? environment setting) ∧
    (∀ key, (∀ setting : Setting, setting.key ≠ key) →
      (preset.configure environment).get? key = preset.get? key) ∧
    (preset.configure environment).configure environment = preset.configure environment ∧
    ((∀ minutes, (preset.configure environment).IsNumber max64 .urlMinutes minutes →
        minutes ≤ max64 / 60) →
      ∃ result, (ofConfig (preset.configure environment)).run = .ok result ∧
        ((∃ settings, result = .ok settings) ↔ Acceptable (preset.effective? environment))) ∧
    ∀ settings, (ofConfig (preset.configure environment)).run = .ok (.ok settings) ↔
      ReadFrom (preset.configure environment) settings := by
  have filled : (fun setting : Setting => (preset.configure environment).get? setting.key) =
      preset.effective? environment :=
    funext (Config.get?_configure preset environment)
  refine ⟨Setting.map_all_eq_table, Config.get?_configure preset environment,
    fun key elsewhere => Config.get?_configure_of_ne elsewhere preset environment,
    Config.configure_configure preset environment, ?_, fun settings => run_ofConfig_eq_ok_iff⟩
  intro lasting
  obtain ⟨result, ran⟩ := exists_run_ofConfig lasting
  refine ⟨result, ran, ?_⟩
  rw [← filled, ← exists_readFrom_iff ?_ lasting]
  · refine exists_congr fun settings => ?_
    rw [← run_ofConfig_eq_ok_iff, ran, Except.ok.injEq]
  · intro setting fallback falls
    rw [Config.get?_configure]
    exact Config.exists_effective? falls preset environment

end Settings

namespace Rehearsal.Sample

/-- An environment with a blank text, a padded one, and a number with a sign. -/
def layeredEnvironment : String → Option String
  | "HTTP_PORT" => some " "
  | "VERIFICATION_SECRET" => some " s3cret "
  | "FILE_SIZE_LIMIT" => some "1"
  | "ARCHIVE_SIZE_LIMIT" => some "2"
  | "IMAGE_SIZE_LIMIT" => some "3"
  | "STREAM_CHUNK_SIZE" => some "4"
  | "S3_ENDPOINT_URL" => some "http://bucket"
  | "S3_ACCESS_KEY_ID" => some "id"
  | "FEED_HISTORY_LENGTH" => some "+10 "
  | "BEAT_CATALOG_PATH" => some "beats.json"
  | _ => none

/-- A preset that is overridden once, has its say otherwise, and holds something else. -/
def layeredPreset : Config where
  values := .ofList
    [("feed.history_length", "0"), ("http.host", "0.0.0.0"), ("http.port", " 9000 "),
      ("media.url_ttl_minutes", "5"), ("s3.region", "eu"), ("s3.secret_access_key", "key"),
      ("s3.bucket", "takes"), ("unknown", "kept")]

def layeredSettings : Settings where
  host := "0.0.0.0"
  port := 9000
  secret := "s3cret"
  media := { urlSeconds := 300, chunkSize := 4, limits := { file := 1, archive := 2, image := 3 } }
  bucket :=
    { endpoint := "http://bucket", region := "eu", keyId := "id", key := "key", bucket := "takes" }
  redisUrl := "redis://127.0.0.1/"
  historyLength := 10
  historyRetries := defaultRetryBudget
  catalogPath := some "beats.json"

end Rehearsal.Sample

open Rehearsal.Sample in
theorem read_by_precedence_layered :
    (∀ minutes, (layeredPreset.configure layeredEnvironment).IsNumber max64 .urlMinutes minutes →
      minutes ≤ max64 / 60) ∧
    (layeredPreset.configure layeredEnvironment).get? "http.port" = some " 9000 " ∧
    (layeredPreset.configure layeredEnvironment).get? "unknown" = some "kept" ∧
    (layeredPreset.configure layeredEnvironment).configure layeredEnvironment =
      layeredPreset.configure layeredEnvironment ∧
    Settings.Acceptable (layeredPreset.effective? layeredEnvironment) ∧
    Settings.ReadFrom (layeredPreset.configure layeredEnvironment) layeredSettings := by
  obtain ⟨-, stands, elsewhere, again, accepted, read⟩ :=
    Settings.read_by_precedence layeredEnvironment layeredPreset
  have lasting : ∀ minutes,
      (layeredPreset.configure layeredEnvironment).IsNumber max64 .urlMinutes minutes →
        minutes ≤ max64 / 60 := by
    rintro minutes ⟨text, found, isMinutes⟩
    cases (stands .urlMinutes).symm.trans found
    cases isMinutes
    decide
  have unknown : ∀ setting : Setting, setting.key ≠ "unknown" := by
    intro setting
    cases setting <;> decide
  have ran : (Settings.ofConfig (layeredPreset.configure layeredEnvironment)).run =
    .ok (.ok layeredSettings) := rfl
  obtain ⟨result, ended, acceptable⟩ := accepted lasting
  cases ran.symm.trans ended
  exact ⟨lasting, stands .port, elsewhere "unknown" unknown, again,
    acceptable.mp ⟨layeredSettings, rfl⟩, (read layeredSettings).mp ran⟩

end Backbeat
