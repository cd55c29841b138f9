/-
The catalog of interface languages.

A catalog is a list; where two entries have one id, the later stands for it.  A tag is matched by
language code alone, and among the entries of that code the same region is preferred to an entry
without a region, and that to any other (`bestMatch`), earlier entries first.
-/
import Enrollment.Locale.Tag

namespace Enrollment.Locale

/-- An interface language; accounts store its id. -/
structure Language where
  id : Int
  code : String
  name : String
  region : Option String := none
deriving DecidableEq

/-- The languages on offer. -/
abbrev Catalog := List Language

/-- The language code, followed by the region if there is one. -/
def Language.tag (l : Language) : String :=
  match l.region with
  | none => l.code
  | some r => if r = "" then l.code else l.code ++ "-" ++ r

/-- The languages shipped. -/
def Catalog.standard : Catalog := [
  ⟨1, "en", "English", none⟩,
  ⟨2, "de", "Deutsch", none⟩,
  ⟨3, "fr", "Français", none⟩,
  ⟨4, "it", "Italiano", none⟩,
  ⟨5, "pt", "Português", none⟩,
  ⟨6, "pt", "Português Brasil", some "BR"⟩,
  ⟨7, "es", "Español", none⟩,
  ⟨8, "ru", "Русский", none⟩,
  ⟨9, "sv", "Svenska", none⟩,
  ⟨10, "zh", "简体中文", some "CN"⟩,
  ⟨11, "zh", "繁體中文", some "TW"⟩,
  ⟨12, "ko", "한국어", none⟩,
  ⟨13, "ar", "العربية", none⟩,
  ⟨14, "ja", "日本語", none⟩,
  ⟨15, "id", "Bahasa Indonesia", none⟩,
  ⟨16, "hu", "Magyar", none⟩,
  ⟨17, "tr", "Türkçe", none⟩,
  ⟨18, "uk", "Українська", none⟩,
  ⟨19, "th", "ไทย", none⟩,
  ⟨20, "fa", "فارسی", none⟩,
  ⟨21, "cs", "Čeština", none⟩,
  ⟨22, "gl", "Galego", none⟩,
  ⟨23, "fi", "Suomi", none⟩,
  ⟨24, "pl", "Polski", none⟩,
  ⟨25, "el", "Ελληνικά", none⟩,
  ⟨26, "nl", "Nederlands", none⟩,
  ⟨27, "he", "עברית", none⟩,
  ⟨28, "ca", "Català", none⟩,
  ⟨29, "bg", "Български", none⟩,
  ⟨30, "da", "Dansk", none⟩,
  ⟨31, "sk", "Slovenčina", none⟩]

/-- The entry that stands for an id. -/
def Catalog.byId? (c : Catalog) (id : Int) : Option Language := c.reverse.find? (·.id = id)

/-- Whether an entry has that id. -/
def Catalog.knows (c : Catalog) (id : Int) : Bool := (c.byId? id).isSome

/-- The language code of an id, `fallback` where the id is missing or unknown. -/
def Catalog.codeOf (c : Catalog) (id : Option Int) (fallback : String) : String :=
  ((id.bind c.byId?).map (·.code)).getD fallback

/-- The entries of a language code. -/
def Catalog.ofCode (c : Catalog) (code : String) : Catalog := c.filter (·.code = code)

/-- The entry with the region of the tag, if the tag has one. -/
def Catalog.sameRegion? (c : Catalog) (region : Option String) : Option Language :=
  match region with
  | none => none
  | some r => if r = "" then none else c.find? (·.region = some r)

/-- The entry closest to a tag: same region, else no region, else any entry of its language. -/
def Catalog.bestMatch? (c : Catalog) (t : Tag) : Option Language :=
  let same := c.ofCode t.language
  (same.sameRegion? t.region).or ((same.find? (·.region = none)).or same.head?)

/-- The id of the entry closest to a tag, `fallback` where no entry has its language. -/
def Catalog.matchId (c : Catalog) (t : Tag) (fallback : Int) : Int :=
  ((c.bestMatch? t).map (·.id)).getD fallback

end Enrollment.Locale
