import Backbeat.Proofs.Server.Settings
import Backbeat.Proofs.Web.Issuing
import Mathlib.Algebra.Ring.Int.Defs

/-!
# The lifetime of issued URLs

The lifetime is written in minutes, kept in seconds as a number of sixty-four bits, and added to the
clock as a signed number of as many bits.  A lifetime of up to `maxSigned64` seconds less the time
passes through all three ranges unchanged.  A longer one traps on its way, or wraps around and
gives a URL that has expired long ago.
-/

namespace Backbeat

open Text

/-! ## Seconds as signed numbers -/

/-- From half of the range on, a number of seconds turns negative. -/
theorem signedSeconds_of_lt {seconds : Nat} (beyond : maxSigned64 < seconds)
    (wide : seconds ≤ max64) : signedSeconds seconds = seconds - 2 ^ 64 := by
  unfold maxSigned64 at beyond
  unfold max64 at wide
  have shifted : (seconds : Int) = (seconds - 2 ^ 64 : Int) + ((max64 + 1 : Nat) : Int) := by
    unfold max64
    omega
  rw [signedSeconds, shifted, Int.add_bmod_right]
  unfold max64
  rw [Int.bmod_eq_of_le (by omega) (by omega)]
  omega

section Sums

variable {now : Int} {seconds : Nat}

theorem expiryAt_of_overflow (fits : seconds ≤ maxSigned64) (late : maxSigned64 < now + seconds) :
    expiryAt now seconds = .error .addOverflow := by
  rw [expiryAt, signedSeconds_of_le fits]
  exact if_neg fun within => absurd within.2 (by omega)

theorem expiryAt_of_wrapped (nonneg : 0 ≤ now) (early : now < 2 ^ 40)
    (beyond : maxSigned64 < seconds) (wide : seconds ≤ max64) :
    expiryAt now seconds = .ok (now + (seconds - 2 ^ 64)) := by
  rw [expiryAt, signedSeconds_of_lt beyond wide]
  unfold maxSigned64 at beyond ⊢
  unfold max64 at wide
  exact if_pos ⟨by omega, by omega⟩

/-- A time that comes out of the sum is exact, or lies in the past. -/
theorem expiryAt_exact_or_past (nonneg : 0 ≤ now) (early : now < 2 ^ 40) (wide : seconds ≤ max64)
    {expiry : Int} (computed : expiryAt now seconds = .ok expiry) :
    now + seconds ≤ maxSigned64 ∧ expiry = now + seconds ∨
      maxSigned64 < now + seconds ∧ expiry < now := by
  by_cases fits : now + seconds ≤ maxSigned64
  · rw [expiryAt_eq nonneg fits] at computed
    exact Or.inl ⟨fits, (Except.ok.inj computed).symm⟩
  · right
    by_cases signed : seconds ≤ maxSigned64
    · rw [expiryAt_of_overflow signed (by omega)] at computed
      cases computed
    · rw [expiryAt_of_wrapped nonneg early (by omega) wide] at computed
      have wrapped := Except.ok.inj computed
      unfold max64 at wide
      exact ⟨by omega, by omega⟩

end Sums

namespace MediaService

variable {service : MediaService} {name : String} {kind : MediaKind} {now : Int}
  {issued : IssuedUpload}

theorem uploadUrlFor_eq_ok_iff :
    service.uploadUrlFor name kind now = .ok issued ↔
      ∃ expiry, expiryAt now service.settings.urlSeconds = .ok expiry ∧
        issued = ⟨name, kind, expiry, (service.signer.build name kind expiry).toString⟩ := by
  rw [uploadUrlFor]
  cases expiryAt now service.settings.urlSeconds with
  | error trap => simp [Except.map]
  | ok expiry => simp [Except.map, eq_comm]

/-- A URL is issued with its exact expiry just when that is in range. -/
theorem expiry_exact_iff (nonneg : 0 ≤ now) (early : now < 2 ^ 40)
    (wide : service.settings.urlSeconds ≤ max64) :
    (∃ issued, service.uploadUrlFor name kind now = .ok issued ∧
        issued.expiry = now + service.settings.urlSeconds) ↔
      now + service.settings.urlSeconds ≤ maxSigned64 := by
  constructor
  · rintro ⟨issued, made, unchanged⟩
    obtain ⟨expiry, computed, rfl⟩ := uploadUrlFor_eq_ok_iff.mp made
    rcases expiryAt_exact_or_past nonneg early wide computed with ⟨fits, -⟩ | ⟨-, past⟩
    · exact fits
    · simp only at unchanged
      omega
  · intro fits
    exact ⟨_, uploadUrlFor_eq nonneg fits name kind, rfl⟩

/-- An issued URL is good for its upload at once, if it lives for a second at least and its expiry
is exact. -/
theorem verify_issued_iff (nonneg : 0 ≤ now) (early : now < 2 ^ 40)
    (wide : service.settings.urlSeconds ≤ max64)
    (made : service.uploadUrlFor name kind now = .ok issued) {upload : Upload}
    (named : upload.name = name) (same : upload.kind = kind)
    (kept : upload.expiry = issued.expiry) :
    service.signer.verify issued.url upload now = .ok () ↔
      1 ≤ service.settings.urlSeconds ∧ now + service.settings.urlSeconds ≤ maxSigned64 := by
  obtain ⟨expiry, computed, rfl⟩ := uploadUrlFor_eq_ok_iff.mp made
  subst named same
  simp only at kept
  subst kept
  rw [Signer.verify_eq_ok_iff]
  rcases expiryAt_exact_or_past nonneg early wide computed with ⟨fits, exactly⟩ | ⟨beyond, past⟩
  · constructor
    · rintro ⟨inTime, -⟩
      exact ⟨by omega, fits⟩
    · rintro ⟨lasting, -⟩
      exact ⟨by omega, rfl⟩
  · constructor
    · rintro ⟨inTime, -⟩
      omega
    · rintro ⟨-, fits⟩
      omega

end MediaService

/-! ## From minutes to expiries -/

namespace Settings

theorem ReadFrom.urlSeconds_le {config : Config} {settings : Settings}
    (read : ReadFrom config settings) : settings.media.urlSeconds ≤ max64 := by
  obtain ⟨minutes, -, fits, seconds⟩ := read.lifetime
  rw [seconds]
  exact fits

/-- Whatever an environment and a preset say, reading the settings traps just when the seconds of
the lifetime have outgrown their range.  Where settings are read, the lifetime is that of the
minutes, and each URL is issued with its exact expiry just when that is in range; what is issued is
good for its upload at once, provided that it is exact and lives for at least a second. -/
theorem lifetime_exact_iff (environment : String → Option String) (preset : Config) :
    (∀ trap, (ofConfig (preset.configure environment)).run = .error trap ↔
      trap = .multiplyOverflow ∧ Outgrown (preset.configure environment)) ∧
    ∀ settings, (ofConfig (preset.configure environment)).run = .ok (.ok settings) →
      (∃ minutes, (preset.configure environment).IsNumber max64 .urlMinutes minutes ∧
        settings.media.urlSeconds = minutes * 60) ∧
      ∀ (service : MediaService) (name : String) (kind : MediaKind) (now : Int),
        service.settings.urlSeconds = settings.media.urlSeconds → 0 ≤ now → now < 2 ^ 40 →
          ((∃ issued, service.uploadUrlFor name kind now = .ok issued ∧
              issued.expiry = now + settings.media.urlSeconds) ↔
            now + settings.media.urlSeconds ≤ maxSigned64) ∧
          ∀ issued, service.uploadUrlFor name kind now = .ok issued →
            ∀ upload : Upload, upload.name = name → upload.kind = kind →
              upload.expiry = issued.expiry →
              (service.signer.verify issued.url upload now = .ok () ↔
                1 ≤ settings.media.urlSeconds ∧
                  now + settings.media.urlSeconds ≤ maxSigned64) := by
  refine ⟨run_ofConfig_eq_trap_iff, ?_⟩
  intro settings accepted
  have read := run_ofConfig_eq_ok_iff.mp accepted
  refine ⟨?_, ?_⟩
  · obtain ⟨minutes, isMinutes, -, seconds⟩ := read.lifetime
    exact ⟨minutes, isMinutes, seconds⟩
  · intro service name kind now configured nonneg early
    have wide : service.settings.urlSeconds ≤ max64 := configured ▸ read.urlSeconds_le
    rw [← configured]
    refine ⟨MediaService.expiry_exact_iff nonneg early wide, ?_⟩
    intro issued made upload named same kept
    exact MediaService.verify_issued_iff nonneg early wide made named same kept

end Settings

namespace Rehearsal.Sample

/-- An environment that says what must be said, and how many minutes URLs live. -/
def environment (minutes : String) : String → Option String
  | "VERIFICATION_SECRET" => some "s3cret"
  | "S3_ENDPOINT_URL" => some "http://bucket"
  | "S3_ACCESS_KEY_ID" => some "id"
  | "S3_SECRET_ACCESS_KEY" => some "key"
  | "URL_TTL_MINUTES" => some minutes
  | _ => none

/-- The settings that are read from such an environment, for a number of seconds. -/
def timedSettings (urlSeconds : Nat) : Settings where
  host := "127.0.0.1"
  port := 8080
  secret := "s3cret"
  media := { urlSeconds }
  bucket :=
    { endpoint := "http://bucket", region := "us-east-1", keyId := "id", key := "key"
      bucket := "beats" }
  redisUrl := "redis://127.0.0.1/"
  historyLength := defaultHistoryLength
  historyRetries := defaultRetryBudget
  catalogPath := none

/-- A service that issues URLs for a number of seconds. -/
def timedService (urlSeconds : Nat) : MediaService where
  signer := signer
  settings := { urlSeconds }

end Rehearsal.Sample

open Rehearsal in
theorem lifetime_exact_of_two_minutes :
    ∃ issued, (Sample.timedService 120).uploadUrlFor "cover" .image 1000 = .ok issued ∧
      issued.expiry = 1120 ∧
      Sample.signer.verify issued.url { Sample.coverUpload 1 with expiry := 1120 } 1000 =
        .ok () := by
  have accepted : (Settings.ofConfig (Config.empty.configure (Sample.environment " 2 "))).run =
    .ok (.ok (Sample.timedSettings 120)) := rfl
  obtain ⟨-, timed⟩ := Settings.lifetime_exact_iff (Sample.environment " 2 ") .empty
  obtain ⟨-, served⟩ := timed _ accepted
  obtain ⟨exactly, good⟩ :=
    served (Sample.timedService 120) "cover" .image 1000 rfl (by decide) (by decide)
  obtain ⟨issued, made, expiry⟩ := exactly.mpr (by decide)
  exact ⟨issued, made, expiry,
    (good issued made { Sample.coverUpload 1 with expiry := 1120 } rfl rfl expiry.symm).mpr
      ⟨by decide, by decide⟩⟩

open Rehearsal in
/-- A lifetime can be too long to be read, and one that is read can end before it begins. -/
theorem lifetime_overflows :
    (Settings.ofEnvironment (Sample.environment "18446744073709551615")).run =
        .error .multiplyOverflow ∧
      (Settings.ofEnvironment (Sample.environment "153722867280912931")).run =
        .ok (.ok (Sample.timedSettings 9223372036854775860)) ∧
      ((Sample.timedService 9223372036854775860).uploadUrlFor "cover" .image 1000).map (·.expiry) =
        .ok (-9223372036854774756) := by
  refine ⟨rfl, rfl, ?_⟩
  rw [MediaService.uploadUrlFor, Sample.timedService,
    expiryAt_of_wrapped (by decide) (by decide) (by decide) (by decide)]
  rfl

end Backbeat
