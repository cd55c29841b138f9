/-
Reading the settings of an installation.

A setting is taken from the values a caller gives, else from an environment variable named
`ONBOARD_` and the setting's name, else from its default; letter case in names does not matter and
names that are no setting are ignored.  Every refused value is reported, not only the first.
-/
import Enrollment.Settings.BaseUrl
import Enrollment.Settings.Basic
import Enrollment.Settings.Coercion

namespace Enrollment.Settings

/-- A refused setting. -/
structure Problem where
  field : String
  fault : Fault
deriving DecidableEq

/-- The environment variables and the values that settings are read from. -/
structure Source where
  environment : List (String × String) := []
  values : List (String × Json) := []

/-- What the names of environment variables start with. -/
def variablePrefix : String := "onboard_"

/-- A text with its ASCII capitals made small. -/
def folded (s : String) : String := String.ofList (s.toList.map Char.toLower)

/-- The value given for a setting, if any; of two for one setting the later counts. -/
def Source.value? (src : Source) (field : String) : Option Json :=
  match src.values.reverse.find? fun v => folded v.1 = field with
  | some v => some v.2
  | none =>
    (src.environment.reverse.find? fun v => folded v.1 = variablePrefix ++ field).map fun v =>
      Json.str v.2

/-- A setting, or its default together with a note of the problem. -/
def Source.take {α : Type} (src : Source) (field : String) (read : Json → Except Fault α)
    (default : α) : StateM (List Problem) α :=
  match src.value? field with
  | none => pure default
  | some j =>
    match read j with
    | .ok a => pure a
    | .error fault => do
      modify (· ++ [⟨field, fault⟩])
      pure default

/-- All settings, with notes of all problems. -/
def Source.readAll (src : Source) : StateM (List Problem) Settings := do
  let d : Settings := {}
  return {
    appName := ← src.take "app_name" text d.appName
    appVersion := ← src.take "app_version" text d.appVersion
    environment := ← src.take "environment" (choice Environment.name Environment.all) d.environment
    databaseUrl := ← src.take "database_url" text d.databaseUrl
    poolSize := ← src.take "db_pool_size" whole d.poolSize
    poolOverflow := ← src.take "db_max_overflow" whole d.poolOverflow
    poolTimeout := ← src.take "db_pool_timeout" whole d.poolTimeout
    poolRecycle := ← src.take "db_pool_recycle" whole d.poolRecycle
    databaseEcho := ← src.take "db_echo" flag d.databaseEcho
    logLevel := ← src.take "log_level" (choice LogLevel.name LogLevel.all) d.logLevel
    logFormat := ← src.take "log_format" (choice LogFormat.name LogFormat.all) d.logFormat
    baseUrl := normaliseBaseUrl (← src.take "base_url" text d.baseUrl)
    verifyEmail := ← src.take "email_verification_required" flag d.verifyEmail
    selfRegistration := ← src.take "self_registration_enabled" flag d.selfRegistration
    minLoginLength := ← src.take "min_login_length" (wholeFrom leastLoginLength) d.minLoginLength
    passwordLength :=
      ← src.take "random_password_length" (wholeFrom leastPasswordLength) d.passwordLength
    defaultGroup := ← src.take "default_group_id" optionalText d.defaultGroup
    defaultLanguage := ← src.take "default_language_id" whole d.defaultLanguage
    defaultTimezone := ← src.take "default_timezone" text d.defaultTimezone
    delivery := ← src.take "email_provider" (choice Delivery.name Delivery.all) d.delivery
    mailFrom := ← src.take "mail_from" text d.mailFrom
    mailFromName := ← src.take "mail_from_name" text d.mailFromName
    smtpHost := ← src.take "smtp_host" optionalText d.smtpHost
    smtpPort := ← src.take "smtp_port" whole d.smtpPort
    smtpUsername := ← src.take "smtp_username" optionalText d.smtpUsername
    smtpPassword := ← src.take "smtp_password" optionalText d.smtpPassword
    smtpUseTls := ← src.take "smtp_use_tls" flag d.smtpUseTls
    smtpUseSsl := ← src.take "smtp_use_ssl" flag d.smtpUseSsl
    smtpTimeout := ← src.take "smtp_timeout" whole d.smtpTimeout }

/-- The settings, or everything that is wrong with them. -/
def read (src : Source) : Except (List Problem) Settings :=
  match src.readAll.run [] with
  | (settings, []) => .ok settings
  | (_, problems) => .error problems

/-- The report of refused settings: one item each, in alphabetical order. -/
def report (problems : List Problem) : String :=
  "; ".intercalate
    ((problems.map fun p => p.field ++ ":" ++ p.fault.code).mergeSort fun a b => a ≤ b)

end Enrollment.Settings

namespace Enrollment

/-- The settings by their names, as they are shown. -/
def Settings.toJson (s : Settings) : Json := .obj [
  ("app_name", .str s.appName),
  ("app_version", .str s.appVersion),
  ("environment", .str s.environment.name),
  ("database_url", .str s.databaseUrl),
  ("db_pool_size", .int s.poolSize),
  ("db_max_overflow", .int s.poolOverflow),
  ("db_pool_timeout", .int s.poolTimeout),
  ("db_pool_recycle", .int s.poolRecycle),
  ("db_echo", .bool s.databaseEcho),
  ("log_level", .str s.logLevel.name),
  ("log_format", .str s.logFormat.name),
  ("base_url", .str s.baseUrl),
  ("email_verification_required", .bool s.verifyEmail),
  ("self_registration_enabled", .bool s.selfRegistration),
  ("min_login_length", .int s.minLoginLength),
  ("random_password_length", .int s.passwordLength),
  ("default_group_id", .ofText? s.defaultGroup),
  ("default_language_id", .int s.defaultLanguage),
  ("default_timezone", .str s.defaultTimezone),
  ("email_provider", .str s.delivery.name),
  ("mail_from", .str s.mailFrom),
  ("mail_from_name", .str s.mailFromName),
  ("smtp_host", .ofText? s.smtpHost),
  ("smtp_port", .int s.smtpPort),
  ("smtp_username", .ofText? s.smtpUsername),
  ("smtp_password", .ofText? s.smtpPassword),
  ("smtp_use_tls", .bool s.smtpUseTls),
  ("smtp_use_ssl", .bool s.smtpUseSsl),
  ("smtp_timeout", .int s.smtpTimeout),
  ("is_production", .bool (s.environment = .production)),
  ("is_development", .bool (s.environment = .development)),
  ("is_testing", .bool (s.environment = .testing))]

end Enrollment
