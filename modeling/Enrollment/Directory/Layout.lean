/-
The layout of the database: its tables, the columns of each, and the indexes.

`Layout.current` is the layout that the directory needs.  `Migration.step` leads a database to it
and back again; a database that was ever migrated keeps the table that records how far it got.
-/
import Enrollment.Account.Failure

namespace Enrollment.Directory

/-- The types of columns. -/
inductive ColumnType where
  | varchar (length : Nat)
  | text
  | integer
  | boolean
  | json
  | datetime
deriving DecidableEq

/-- The name of a type. -/
def ColumnType.name : ColumnType → String
  | .varchar n => "VARCHAR(" ++ toString n ++ ")"
  | .text => "TEXT"
  | .integer => "INTEGER"
  | .boolean => "BOOLEAN"
  | .json => "JSON"
  | .datetime => "DATETIME"

/-- A column. -/
structure Column where
  name : String
  type : ColumnType
  nullable : Bool
deriving DecidableEq

/-- Columns that point to the rows of another table and go when those go. -/
structure Reference where
  columns : List String
  table : String
deriving DecidableEq

/-- What becomes of a row when the row it points to is removed. -/
def Reference.onDelete : String := "CASCADE"

/-- A table. -/
structure Table where
  name : String
  columns : List Column
  key : List String
  references : List Reference := []
deriving DecidableEq

/-- An index. -/
structure Index where
  name : String
  table : String
  /-- Whether no two rows may agree on it. -/
  unique : Bool := false
  /-- Whether it covers some rows only. -/
  partly : Bool := false
deriving DecidableEq

/-- The layout of a database. -/
structure Layout where
  tables : List Table := []
  indexes : List Index := []
deriving DecidableEq

namespace Layout

/-- A column that always has a value. -/
def filledColumn (name : String) (type : ColumnType) : Column := ⟨name, type, false⟩

/-- A column that may be empty. -/
def column (name : String) (type : ColumnType) : Column := ⟨name, type, true⟩

/-- The table of configuration entries. -/
def configurations : Table where
  name := "configurations"
  columns := [
    filledColumn "key" (.varchar 255), column "value" .text, column "description" (.varchar 500),
    filledColumn "updated_at" .datetime]
  key := ["key"]

/-- The table of groups. -/
def groups : Table where
  name := "groups"
  columns := [
    filledColumn "id" (.varchar 36), filledColumn "name" (.varchar 100),
    column "description" (.varchar 500), filledColumn "created_at" .datetime]
  key := ["id"]

/-- The table of accounts. -/
def users : Table where
  name := "users"
  columns := [
    filledColumn "id" (.varchar 36), filledColumn "login" (.varchar 255),
    filledColumn "type" (.varchar 20), filledColumn "domain_id" (.varchar 100),
    column "external_type" (.varchar 100), column "password_hash" (.varchar 255),
    column "activation_token" (.varchar 255), column "first_name" (.varchar 255),
    column "last_name" (.varchar 255), column "email" (.varchar 255), column "country" (.varchar 8),
    column "language_id" .integer, column "timezone_id" (.varchar 64),
    column "picture_uri" (.varchar 2048), filledColumn "show_contact_data_to_contacts" .boolean,
    filledColumn "rights" .json, column "last_login" .datetime, filledColumn "created_at" .datetime,
    filledColumn "updated_at" .datetime, column "updated_by" (.varchar 36),
    filledColumn "deleted" .boolean]
  key := ["id"]

/-- The table of memberships. -/
def usersGroups : Table where
  name := "users_groups"
  columns := [
    filledColumn "id" .integer, filledColumn "user_id" (.varchar 36),
    filledColumn "group_id" (.varchar 36)]
  key := ["id"]
  references := [⟨["group_id"], "groups"⟩, ⟨["user_id"], "users"⟩]

/-- The layout that the directory needs. -/
def current : Layout where
  tables := [configurations, groups, users, usersGroups]
  indexes := [
    { name := "ix_users_activation_token", table := "users" },
    { name := "ix_users_email", table := "users" },
    { name := "ix_users_groups_user_id", table := "users_groups" },
    { name := "uq_users_email_type_domain_active", table := "users", unique := true, partly := true },
    { name := "uq_users_login_type_domain_active", table := "users", unique := true, partly := true }]

end Layout

/-! ### Preparing a database -/

/-- Where a database is kept. -/
inductive Place where
  | file
  /-- In memory, so that closing it loses everything. -/
  | memory
  /-- Nowhere: something else has the name of its file. -/
  | blocked
deriving DecidableEq

/-- Whether preparing a database leaves a file behind. -/
def Place.leavesFile : Place → Bool
  | .file => true
  | _ => false

/-- The layout of a database that was prepared, closed and opened again. -/
def Place.reopened : Place → Except Failure Layout
  | .file => .ok .current
  | .memory => .ok {}
  | .blocked => .error .storageUnreachable

/-! ### Migration -/

namespace Migration

/-- A step of migration. -/
inductive Direction where
  | upgrade
  | downgrade
deriving DecidableEq

/-- The table that records how far a database was migrated. -/
def history : Table where
  name := "alembic_version"
  columns := [Layout.filledColumn "version_num" (.varchar 32)]
  key := ["version_num"]

/-- The layout after a step to the newest version, or back before the first. -/
def step : Direction → Layout
  | .upgrade => { Layout.current with tables := history :: Layout.current.tables }
  | .downgrade => { tables := [history] }

end Migration
end Enrollment.Directory
