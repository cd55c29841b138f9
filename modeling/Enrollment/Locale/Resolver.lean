/-
Resolution of what a form or an identity provider says about locale into the ids stored on an
account.  It never fails: what cannot be resolved falls back to the defaults it is given.
-/
import Enrollment.Locale.Language
import Enrollment.Locale.TimezoneNames
import Enrollment.Text.Case

namespace Enrollment.Locale

open Enrollment.Text

/-- The known time zones, each under its name in small letters. -/
def timezoneIndex : List (String × String) := timezoneNames.map fun n => (lower n, n)

/-- The canonical spelling of a time zone name, letter case and blanks around it ignored. -/
def timezone? (name : String) : Option String :=
  (timezoneIndex.find? (·.1 = lower (strip name))).map (·.2)

/-- The canonical spelling of a time zone name, `fallback` where it is missing or unknown. -/
def timezoneOr (fallback : String) (name : Option String) : String :=
  match name with
  | none => fallback
  | some n => if n = "" then fallback else (timezone? n).getD fallback

/-- The catalog and the defaults that locale input is resolved against. -/
structure Resolver where
  catalog : Catalog
  language : Int
  timezone : String

/-- The locale settings of an account. -/
structure Resolved where
  timezone : String
  language : Int
deriving DecidableEq

/-- A language id that is missing, zero or unknown becomes the default. -/
def Resolver.languageId (r : Resolver) (id : Option Int) : Int :=
  match id with
  | none => r.language
  | some n => if n = 0 then r.language else if r.catalog.knows n then n else r.language

/-- The locale settings for a requested time zone and language id. -/
def Resolver.resolve (r : Resolver) (timezone : Option String) (language : Option Int) : Resolved :=
  ⟨timezoneOr r.timezone timezone, r.languageId language⟩

/-- The language id and the region of a locale tag; nothing for a tag that is missing or
malformed, so that the caller keeps what it has. -/
def Resolver.resolveTag? (r : Resolver) (tag : Option String) : Option (Int × Option String) :=
  (tag.bind Tag.parse?).map fun t => (r.catalog.matchId t r.language, t.region)

end Enrollment.Locale
