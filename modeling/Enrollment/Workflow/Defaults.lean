/-
What both workflows take from the configuration for a new account: the locale it falls back to and
the group it joins.
-/
import Enrollment.Locale.Resolver
import Enrollment.Policy.Reading

namespace Enrollment

/-- What an installation is set up with. -/
structure Installation where
  settings : Settings := {}
  catalog : Locale.Catalog := Locale.Catalog.standard

namespace Installation

/-- The resolver with the configured default language and time zone. -/
def resolver (site : Installation) (bound : Log.Context) : Program Locale.Resolver := do
  let language ← Policy.defaultLanguage site.settings bound
  let timezone ← Policy.defaultTimezone site.settings
  return ⟨site.catalog, language, timezone⟩

/-- The failure of a default group that is configured and does not exist. -/
def groupMissing (id : String) : Failure :=
  .collaborator ("Configured default group '" ++ id ++ "' does not exist")

/-- The group that new accounts join, if one is configured. -/
def defaultGroup (site : Installation) : Program (Option Group) := do
  match ← Policy.defaultGroup site.settings with
  | none => return none
  | some id =>
    match ← Program.group id with
    | none => .fail (groupMissing id)
    | some g => return some g

end Installation

/-- A draft that joins a group, if there is one to join. -/
def Draft.join (d : Draft) : Option Group → Draft
  | none => d
  | some g => d.addGroup g

end Enrollment
