/-
Snapshots: everything that is stored, as one JSON value, and the reading of such a value.

A snapshot that breaks the rule of an account, or lacks what a row must have, is not read.
-/
import Enrollment.Directory.Tables
import Enrollment.Json.Basic

namespace Enrollment.Directory

/-! ### Writing -/

/-- A point in time, if there is one. -/
def timeJson (t : Option Timestamp) : Json := .ofText? (t.map Timestamp.text)

/-- A row as a value. -/
def Row.toJson (r : Row) : Json := .obj [
  ("id", .str r.id),
  ("login", .str r.fields.login),
  ("type", .str r.fields.type.name),
  ("domain_id", .ofText? r.fields.domain),
  ("external_type", .ofText? r.fields.externalType),
  ("password_hash", .ofText? r.fields.passwordHash),
  ("activation_token", .ofText? r.fields.activationToken),
  ("first_name", .ofText? r.fields.firstName),
  ("last_name", .ofText? r.fields.lastName),
  ("email", .ofText? r.fields.email),
  ("country", .ofText? r.fields.country),
  ("language_id", (r.fields.languageId.map Json.int).getD .null),
  ("timezone_id", .ofText? r.fields.timezone),
  ("picture_uri", .ofText? r.fields.picture),
  ("show_contact_data_to_contacts", .bool r.fields.showContactData),
  ("rights", .arr (r.fields.rights.toList.map fun x => .str x.name)),
  ("last_login", timeJson r.fields.lastLogin),
  ("created_at", timeJson r.fields.createdAt),
  ("updated_at", timeJson r.fields.updatedAt),
  ("updated_by", .ofText? r.fields.updatedBy),
  ("deleted", .bool r.fields.deleted)]

/-- Everything that is stored, as a value. -/
def Tables.toJson (t : Tables) : Json := .obj [
  ("users", .arr (t.users.map Row.toJson)),
  ("groups", .arr (t.groups.map fun g => .obj [
    ("id", .str g.id), ("name", .str g.name), ("description", .ofText? g.description)])),
  ("users_groups", .arr (t.members.map fun m => .arr [.str m.account, .str m.group])),
  ("configurations", .arr (t.configuration.map fun e => .obj [
    ("key", .str e.key), ("value", .ofText? e.value), ("description", .ofText? e.description)]))]

/-! ### Reading -/

/-- The point in time of a member, if there is one. -/
def time? (j : Json) (name : String) : Option Timestamp :=
  (j.field name).text?.bind Timestamp.parse?

/-- The row of a value. -/
def Row.ofJson? (j : Json) : Option Row := do
  let text (name : String) : Option String := (j.field name).text?
  let fields : Draft := {
    login := ← text "login"
    type := ← (text "type").bind UserType.ofName?
    domain := text "domain_id"
    externalType := text "external_type"
    passwordHash := text "password_hash"
    activationToken := text "activation_token"
    firstName := text "first_name"
    lastName := text "last_name"
    email := text "email"
    country := text "country"
    languageId := (j.field "language_id").int?
    timezone := text "timezone_id"
    picture := text "picture_uri"
    showContactData := ← (j.field "show_contact_data_to_contacts").bool?
    rights := .ofList (← (j.field "rights").items.mapM fun x => x.text?.bind Right.ofName?)
    lastLogin := time? j "last_login"
    createdAt := time? j "created_at"
    updatedAt := time? j "updated_at"
    updatedBy := text "updated_by"
    deleted := ← (j.field "deleted").bool? }
  if h : fields.Valid then some ⟨← text "id", fields, h⟩ else none

/-- The group of a value. -/
def groupOfJson? (j : Json) : Option Group := do
  return ⟨← (j.field "id").text?, ← (j.field "name").text?, (j.field "description").text?⟩

/-- The membership of a value. -/
def memberOfJson? (j : Json) : Option Member :=
  match j.items with
  | [.str account, .str group] => some ⟨account, group⟩
  | _ => none

/-- The configuration entry of a value. -/
def entryOfJson? (j : Json) : Option Policy.Entry := do
  return ⟨← (j.field "key").text?, (j.field "value").text?, (j.field "description").text?⟩

/-- What is stored according to a value. -/
def Tables.ofJson? (j : Json) : Option Tables := do
  return {
    users := ← (j.field "users").items.mapM Row.ofJson?
    groups := ← (j.field "groups").items.mapM groupOfJson?
    members := ← (j.field "users_groups").items.mapM memberOfJson?
    configuration := ← (j.field "configurations").items.mapM entryOfJson? }

end Enrollment.Directory
