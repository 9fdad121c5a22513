import Backbeat.Server.Settings

/-!
# What settings are read from

Reading the settings takes one text after the other from a configuration.  Each of these steps ends
with a value or with an error that names the setting, and none of them traps.  Only the change of
minutes into seconds can, so that a configuration can be told apart by what it holds: the settings
are read from it, or an error is reported, or the minutes have outgrown their range.
-/

namespace Backbeat

open Text

namespace Settings

section Steps

variable {ε α β : Type}

theorem run_bind_eq_ok_iff (action : ExceptT ε (Except Trap) α)
    (next : α → ExceptT ε (Except Trap) β) (result : β) :
    (action >>= next).run = .ok (.ok result) ↔
      ∃ value, action.run = .ok (.ok value) ∧ (next value).run = .ok (.ok result) := by
  rw [ExceptT.run_bind]
  rcases action.run with trap | fault | value
  · simp [bind, Except.bind]
  · simp [bind, Except.bind, pure, Except.pure]
  · simp [bind, Except.bind]

/-- A trap is that of the first step or, if this one ends well, of what follows it. -/
theorem run_bind_eq_trap_iff (action : ExceptT ε (Except Trap) α)
    (next : α → ExceptT ε (Except Trap) β) (trap : Trap) :
    (action >>= next).run = .error trap ↔
      action.run = .error trap ∨
        ∃ value, action.run = .ok (.ok value) ∧ (next value).run = .error trap := by
  rw [ExceptT.run_bind]
  rcases action.run with other | fault | value
  · simp [bind, Except.bind]
  · simp [bind, Except.bind, pure, Except.pure]
  · simp [bind, Except.bind]

theorem run_pure_eq_ok_iff (value result : α) :
    (pure value : ExceptT ε (Except Trap) α).run = .ok (.ok result) ↔ value = result := by
  change Except.ok (Except.ok value) = Except.ok (Except.ok result) ↔ value = result
  rw [Except.ok.injEq, Except.ok.injEq]

theorem run_pure_ne_trap (value : α) (trap : Trap) :
    (pure value : ExceptT ε (Except Trap) α).run ≠ .error trap := nofun

theorem run_lift_eq_ok_iff (computation : Checked α) (result : α) :
    (ExceptT.lift computation : ExceptT ε (Except Trap) α).run = .ok (.ok result) ↔
      computation = .ok result := by
  cases computation with
  | error trap => exact ⟨nofun, nofun⟩
  | ok value => exact (run_pure_eq_ok_iff value result).trans (by rw [Except.ok.injEq])

theorem run_lift_eq_trap_iff (computation : Checked α) (trap : Trap) :
    (ExceptT.lift computation : ExceptT ε (Except Trap) α).run = .error trap ↔
      computation = .error trap := by
  cases computation with
  | error other =>
    change Except.error other = Except.error trap ↔ _
    rw [Except.error.injEq, Except.error.injEq]
  | ok value => exact ⟨nofun, nofun⟩

/-- What follows a test is reached when the test does not stop it. -/
theorem run_unless_eq_ok_iff (stop : Prop) [Decidable stop] (fault : ε)
    (next : ExceptT ε (Except Trap) α) (result : α) :
    (if stop then (throw fault : ExceptT ε (Except Trap) PUnit) >>= fun _ => next else next).run =
        .ok (.ok result) ↔
      ¬stop ∧ next.run = .ok (.ok result) := by
  by_cases stopped : stop
  · rw [if_pos stopped]
    exact ⟨nofun, fun reached => absurd stopped reached.1⟩
  · rw [if_neg stopped]
    simp [stopped]

theorem run_unless_eq_trap_iff (stop : Prop) [Decidable stop] (fault : ε)
    (next : ExceptT ε (Except Trap) α) (trap : Trap) :
    (if stop then (throw fault : ExceptT ε (Except Trap) PUnit) >>= fun _ => next else next).run =
        .error trap ↔
      ¬stop ∧ next.run = .error trap := by
  by_cases stopped : stop
  · rw [if_pos stopped]
    exact ⟨nofun, fun reached => absurd stopped reached.1⟩
  · rw [if_neg stopped]
    simp [stopped]

end Steps

end Settings

/-- What a configuration holds for a setting is a number of at most `limit`. -/
def Config.IsNumber (config : Config) (limit : Nat) (setting : Setting) (value : Nat) : Prop :=
  ∃ raw, config.get? setting.key = some raw ∧ readNat limit (trim raw.toList) = .ok value

namespace Settings

variable {config : Config} {settings : Settings} {limit : Nat} {setting : Setting}

theorem run_required_eq_ok_iff (text : String) :
    (required config setting).run = .ok (.ok text) ↔ config.get? setting.key = some text := by
  rw [required]
  cases config.get? setting.key with
  | none => exact ⟨nofun, nofun⟩
  | some found => exact (run_pure_eq_ok_iff found text).trans (by rw [Option.some_inj])

theorem run_required_ne_trap (trap : Trap) : (required config setting).run ≠ .error trap := by
  rw [required]
  cases config.get? setting.key with
  | none => nofun
  | some found => nofun

theorem run_number_eq_ok_iff (value : Nat) :
    (number config limit setting).run = .ok (.ok value) ↔ config.IsNumber limit setting value := by
  rw [number, run_bind_eq_ok_iff, Config.IsNumber]
  refine exists_congr fun raw => and_congr (run_required_eq_ok_iff raw) ?_
  cases readNat limit (trim raw.toList) with
  | error fault => exact ⟨nofun, nofun⟩
  | ok read => exact (run_pure_eq_ok_iff read value).trans (by rw [Except.ok.injEq])

theorem run_number_ne_trap (trap : Trap) : (number config limit setting).run ≠ .error trap := by
  rw [number, ne_eq, run_bind_eq_trap_iff]
  rintro (trapped | ⟨raw, -, trapped⟩)
  · exact run_required_ne_trap trap trapped
  · cases read : readNat limit (trim raw.toList) with
    | error fault =>
      rw [read] at trapped
      cases trapped
    | ok value =>
      rw [read] at trapped
      cases trapped

theorem secondsOf_eq_ok_iff (minutes seconds : Nat) :
    secondsOf minutes = .ok seconds ↔ minutes * 60 ≤ max64 ∧ seconds = minutes * 60 := by
  rw [secondsOf]
  split
  · next fits => simp [fits, eq_comm]
  · next outgrown => simp [outgrown]

theorem secondsOf_eq_trap_iff (minutes : Nat) (trap : Trap) :
    secondsOf minutes = .error trap ↔ max64 < minutes * 60 ∧ trap = .multiplyOverflow := by
  rw [secondsOf]
  split
  · next fits => simp [Nat.not_lt.mpr fits]
  · next outgrown => simp [Nat.not_le.mp outgrown, eq_comm]

/-- Settings that a configuration gives: each field is what is held for its own setting. -/
structure ReadFrom (config : Config) (settings : Settings) : Prop where
  historyLength : config.IsNumber max64 .historyLength settings.historyLength
  remembering : settings.historyLength ≠ 0
  host : config.get? Setting.host.key = some settings.host
  port : config.IsNumber max16 .port settings.port
  secret : config.get? Setting.secret.key = some settings.secret
  lifetime : ∃ minutes, config.IsNumber max64 .urlMinutes minutes ∧ minutes * 60 ≤ max64 ∧
    settings.media.urlSeconds = minutes * 60
  file : config.IsNumber max64 .fileLimit settings.media.limits.file
  archive : config.IsNumber max64 .archiveLimit settings.media.limits.archive
  image : config.IsNumber max64 .imageLimit settings.media.limits.image
  chunkSize : config.IsNumber max64 .chunkSize settings.media.chunkSize
  endpoint : config.get? Setting.bucketEndpoint.key = some settings.bucket.endpoint
  region : config.get? Setting.bucketRegion.key = some settings.bucket.region
  keyId : config.get? Setting.bucketKeyId.key = some settings.bucket.keyId
  key : config.get? Setting.bucketKey.key = some settings.bucket.key
  bucket : config.get? Setting.bucketName.key = some settings.bucket.bucket
  redisUrl : config.get? Setting.redisUrl.key = some settings.redisUrl
  historyRetries : config.IsNumber max32 .historyRetries settings.historyRetries
  catalogPath : config.get? Setting.catalogPath.key = settings.catalogPath

/-- The minutes of a configuration are a number, but their seconds are not one of sixty-four bits;
and all that is read before them is in order. -/
structure Outgrown (config : Config) : Prop where
  historyLength : ∃ length, config.IsNumber max64 .historyLength length ∧ length ≠ 0
  host : ∃ host, config.get? Setting.host.key = some host
  port : ∃ port, config.IsNumber max16 .port port
  secret : ∃ secret, config.get? Setting.secret.key = some secret
  minutes : ∃ minutes, config.IsNumber max64 .urlMinutes minutes ∧ max64 < minutes * 60

/-- Exactly these are the settings that are accepted. -/
theorem run_ofConfig_eq_ok_iff :
    (ofConfig config).run = .ok (.ok settings) ↔ ReadFrom config settings := by
  rw [ofConfig]
  simp only [run_bind_eq_ok_iff, run_unless_eq_ok_iff, run_number_eq_ok_iff, run_required_eq_ok_iff,
    run_lift_eq_ok_iff, run_pure_eq_ok_iff, secondsOf_eq_ok_iff]
  constructor
  · rintro ⟨length, historyLength, remembering, host, isHost, port, isPort, secret, isSecret,
      minutes, isMinutes, seconds, ⟨fits, rfl⟩, file, isFile, archive, isArchive, image, isImage,
      chunkSize, isChunkSize, endpoint, isEndpoint, region, isRegion, keyId, isKeyId, key, isKey,
      bucket, isBucket, redisUrl, isRedisUrl, retries, isRetries, rfl⟩
    exact
      { historyLength, remembering, host := isHost, port := isPort, secret := isSecret
        lifetime := ⟨minutes, isMinutes, fits, rfl⟩, file := isFile, archive := isArchive
        image := isImage, chunkSize := isChunkSize, endpoint := isEndpoint, region := isRegion
        keyId := isKeyId, key := isKey, bucket := isBucket, redisUrl := isRedisUrl
        historyRetries := isRetries, catalogPath := rfl }
  · intro read
    obtain ⟨minutes, isMinutes, fits, seconds⟩ := read.lifetime
    refine ⟨_, read.historyLength, read.remembering, _, read.host, _, read.port, _, read.secret,
      minutes, isMinutes, _, ⟨fits, seconds⟩, _, read.file, _, read.archive, _, read.image, _,
      read.chunkSize, _, read.endpoint, _, read.region, _, read.keyId, _, read.key, _, read.bucket,
      _, read.redisUrl, _, read.historyRetries, ?_⟩
    rw [read.catalogPath]

/-- Reading settings traps for one reason only. -/
theorem run_ofConfig_eq_trap_iff (trap : Trap) :
    (ofConfig config).run = .error trap ↔ trap = .multiplyOverflow ∧ Outgrown config := by
  rw [ofConfig]
  simp only [run_bind_eq_trap_iff, run_unless_eq_trap_iff, run_number_eq_ok_iff,
    run_required_eq_ok_iff, run_lift_eq_ok_iff, run_lift_eq_trap_iff, secondsOf_eq_trap_iff,
    run_number_ne_trap, run_required_ne_trap, run_pure_ne_trap, false_or, and_false, exists_false,
    or_false]
  constructor
  · rintro ⟨length, historyLength, remembering, host, isHost, port, isPort, secret, isSecret,
      minutes, isMinutes, outgrown, rfl⟩
    exact ⟨rfl, ⟨length, historyLength, remembering⟩, ⟨host, isHost⟩, ⟨port, isPort⟩,
      ⟨secret, isSecret⟩, ⟨minutes, isMinutes, outgrown⟩⟩
  · rintro ⟨rfl, ⟨length, historyLength, remembering⟩, ⟨host, isHost⟩, ⟨port, isPort⟩,
      ⟨secret, isSecret⟩, ⟨minutes, isMinutes, outgrown⟩⟩
    exact ⟨length, historyLength, remembering, host, isHost, port, isPort, secret, isSecret,
      minutes, isMinutes, outgrown, rfl⟩

end Settings

end Backbeat
