/-
Log events and the lines they are written as.

An event has a grade, a text and fields.  A line carries in addition what is bound at the time;
a field of the event itself covers a bound one.  Four members of a line are the logger's own and
cover fields of those names: grade, logger, text and time.
-/
import Enrollment.Log.Context
import Enrollment.Settings.Basic

namespace Enrollment.Log

/-- Something worth a log line. -/
structure Event where
  level : LogLevel
  text : String
  fields : Context := {}

/-- The event with the bound fields added to its own. -/
def Event.within (bound : Context) (e : Event) : Event :=
  { e with fields := bound.override e.fields }

/-- An event of everyday business. -/
def info (text : String) (fields : List (String × Json) := []) : Event := ⟨.info, text, ⟨fields⟩⟩

/-- An event that somebody should look at. -/
def warning (text : String) (fields : List (String × Json) := []) : Event :=
  ⟨.warning, text, ⟨fields⟩⟩

/-- An event that something failed. -/
def error (text : String) (fields : List (String × Json) := []) : Event :=
  ⟨.error, text, ⟨fields⟩⟩

/-- The name of a grade in a log line. -/
def levelName : LogLevel → String
  | .debug => "debug"
  | .info => "info"
  | .warning => "warning"
  | .error => "error"
  | .critical => "critical"

/-- The grade that a logger's method stands for. -/
def levelOfMethod? (method : String) : Option LogLevel :=
  if method = "warn" then some .warning
  else if method = "exception" then some .error
  else LogLevel.all.find? (levelName · = method)

/-- The name under which the program logs. -/
def loggerName : String := "onboard"

/-- Fields that are addressed to the logger and not written. -/
def unwritten : List String := ["exc_info", "stack_info"]

/-- A log line: for programs, or for people. -/
inductive Line where
  | object (j : Json)
  | console (e : Event)

/-- Whether lines are written for people. -/
def forPeople (s : Settings) : Bool := s.environment = .development || s.logFormat = .console

/-- The members of the line of an event at the given time. -/
def Event.members (time : String) (e : Event) : Context :=
  (e.fields.unbind unwritten).override ⟨[
    ("level", .str (levelName e.level)), ("logger", .str loggerName), ("message", .str e.text),
    ("timestamp", .str time)]⟩

/-- The line of an event, unless the event is less grave than what is logged. -/
def Event.line? (s : Settings) (time : String) (e : Event) : Option Line :=
  if e.level.rank < s.logLevel.rank then none
  else if forPeople s then some (.console e)
  else some (.object (.obj (e.members time).fields))

end Enrollment.Log
