/-
The settings of an installation, with the values they have when nothing is said.
-/
namespace Enrollment

/-- Where the program runs. -/
inductive Environment where
  | development
  | production
  | testing
deriving DecidableEq

/-- The name of an environment. -/
def Environment.name : Environment → String
  | .development => "development"
  | .production => "production"
  | .testing => "testing"

/-- All environments. -/
def Environment.all : List Environment := [.development, .production, .testing]

/-- How grave a log line is. -/
inductive LogLevel where
  | debug
  | info
  | warning
  | error
  | critical
deriving DecidableEq

/-- The name of a level in the settings. -/
def LogLevel.name : LogLevel → String
  | .debug => "DEBUG"
  | .info => "INFO"
  | .warning => "WARNING"
  | .error => "ERROR"
  | .critical => "CRITICAL"

/-- All levels, the least grave first. -/
def LogLevel.all : List LogLevel := [.debug, .info, .warning, .error, .critical]

/-- The place of a level among all levels. -/
def LogLevel.rank : LogLevel → Nat
  | .debug => 0
  | .info => 1
  | .warning => 2
  | .error => 3
  | .critical => 4

/-- How log lines are written. -/
inductive LogFormat where
  | json
  | console
deriving DecidableEq

/-- The name of a log format. -/
def LogFormat.name : LogFormat → String
  | .json => "json"
  | .console => "console"

/-- All log formats. -/
def LogFormat.all : List LogFormat := [.json, .console]

/-- How email leaves the program. -/
inductive Delivery where
  | log
  | smtp
deriving DecidableEq

/-- The name of a way of delivery. -/
def Delivery.name : Delivery → String
  | .log => "log"
  | .smtp => "smtp"

/-- All ways of delivery. -/
def Delivery.all : List Delivery := [.log, .smtp]

/-- The least value that may be set as the minimum length of a login. -/
def leastLoginLength : Int := 1

/-- The least length of a password that nobody is to know. -/
def leastPasswordLength : Int := 16

/-- The settings of an installation. -/
structure Settings where
  appName : String := "Onboard"
  appVersion : String := "0.1.0"
  environment : Environment := .development
  databaseUrl : String := "sqlite+aiosqlite:///./data/onboard.db"
  poolSize : Int := 5
  poolOverflow : Int := 10
  poolTimeout : Int := 30
  poolRecycle : Int := 3600
  databaseEcho : Bool := false
  logLevel : LogLevel := .info
  logFormat : LogFormat := .json
  baseUrl : String := ""
  verifyEmail : Bool := false
  selfRegistration : Bool := false
  minLoginLength : Int := 4
  passwordLength : Int := 25
  defaultGroup : Option String := none
  defaultLanguage : Int := 1
  defaultTimezone : String := "UTC"
  delivery : Delivery := .log
  mailFrom : String := "noreply@localhost"
  mailFromName : String := "Onboard"
  smtpHost : Option String := none
  smtpPort : Int := 587
  smtpUsername : Option String := none
  smtpPassword : Option String := none
  smtpUseTls : Bool := true
  smtpUseSsl : Bool := false
  smtpTimeout : Int := 10
deriving DecidableEq

/-- What reading settings guarantees of them: the two lengths keep their least values. -/
def Settings.Valid (s : Settings) : Prop :=
  leastLoginLength ≤ s.minLoginLength ∧ leastPasswordLength ≤ s.passwordLength

end Enrollment
