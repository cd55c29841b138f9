/-
What can go wrong in the course of a run, and how each failure reads.

Business decisions are not failures: a login that is taken or too short is an `Outcome`.  A failure
is either a broken rule of the domain, a refusal of the storage, or whatever a collaborator reports
(`foreign`, which carries the collaborator's own name for the kind of failure; a kind always has
one).  `collaborator` is the form in which a workflow passes a failure on; `caused` keeps the failure
behind it.
-/
import Enrollment.Text.Ascii

namespace Enrollment

/-- A rule of the storage that a write can break. -/
inductive Constraint where
  | emailTaken
  | loginTaken
  | accountId
  | membershipTwice
  | groupMissing
  | groupId
  | groupName
deriving DecidableEq

/-- How the storage reports a broken rule. -/
def Constraint.message : Constraint → String
  | .emailTaken => "UNIQUE constraint failed: index 'uq_users_email_type_domain_active'"
  | .loginTaken => "UNIQUE constraint failed: users.login, users.type, users.domain_id"
  | .accountId => "UNIQUE constraint failed: users.id"
  | .membershipTwice => "UNIQUE constraint failed: users_groups.user_id, users_groups.group_id"
  | .groupMissing => "FOREIGN KEY constraint failed"
  | .groupId => "UNIQUE constraint failed: groups.id"
  | .groupName => "UNIQUE constraint failed: groups.name"

/-- Which of an account's two keys a refused write collided on; every rule but the one on emails
counts towards the login. -/
def Constraint.field : Constraint → String
  | .emailTaken => "email"
  | _ => "login"

/-- A kind of failure that only a collaborator knows, by its name. -/
structure FailureKind where
  name : String
  named : name ≠ ""
deriving DecidableEq

namespace FailureKind

/-- The kind of that name; a failure of no kind in particular is an exception. -/
def ofName (name : String) : FailureKind :=
  if h : name = "" then ⟨"Exception", by decide⟩ else ⟨name, h⟩

instance : Coe String FailureKind := ⟨ofName⟩

instance : Coe FailureKind String := ⟨name⟩

end FailureKind

/-- Something went wrong. -/
inductive Failure where
  /-- An account of an identity provider names no provider. -/
  | domainRequired
  /-- A group has no id. -/
  | groupIdRequired
  /-- A group has no name. -/
  | groupNameRequired
  /-- A name is not one of a closed set of names. -/
  | unknownName (set name : String)
  /-- A text is not a point in time. -/
  | notATimestamp (text : String)
  /-- An update names an account that does not exist. -/
  | accountMissing (id : String)
  /-- The directory stored an account and gave nothing back. -/
  | accountLost
  /-- A whole number does not fit the column it is written to. -/
  | integerTooLarge
  /-- More than one account answers where one was expected. -/
  | ambiguous
  /-- The storage refused a write. -/
  | refused (rule : Constraint)
  /-- The storage cannot be reached. -/
  | storageClosed
  /-- No connection to the storage can be made. -/
  | storageUnreachable
  /-- A text that has to be ASCII is not. -/
  | notAscii (run : Text.NotAscii)
  /-- A text is not a password hash. -/
  | notAHash
  /-- A password without characters is asked for. -/
  | passwordLengthNotPositive
  /-- The value of a header goes on in a second line. -/
  | headerNotOneLine
  /-- An address holds a line end. -/
  | addressNotOneLine
  /-- Mail is to be sent, and no server is named. -/
  | mailServerMissing
  /-- A write lost to another account with the same key. -/
  | duplicate (field message : String)
  /-- A collaborator failed, for no reason given. -/
  | collaborator (message : String)
  /-- A collaborator failed because of another failure. -/
  | caused (message : String) (cause : Failure)
  /-- A failure of a kind that only the collaborator knows. -/
  | foreign (kind : FailureKind) (message : String)
deriving DecidableEq

namespace Failure

/-- A lost write, in the words used when none are given. -/
def duplicateOf (field : String) : Failure := .duplicate field ("Duplicate " ++ field)

/-- How a failure reads. -/
def message : Failure → String
  | .domainRequired => "OAuth users require a domain_id"
  | .groupIdRequired => "Group ID is required"
  | .groupNameRequired => "Group name is required"
  | .unknownName set name => Text.quoted name ++ " is not a valid " ++ set
  | .notATimestamp text => "Invalid isoformat string: " ++ Text.quoted text
  | .accountMissing id => "User '" ++ id ++ "' not found"
  | .accountLost => "'NoneType' object has no attribute 'id'"
  | .integerTooLarge => "Python int too large to convert to SQLite INTEGER"
  | .ambiguous => "Multiple rows were found when one or none was required"
  | .refused rule => rule.message
  | .storageClosed => "unable to open database file"
  | .storageUnreachable => "Failed to connect to database"
  | .notAscii e => e.message
  | .notAHash => ""
  | .passwordLengthNotPositive => "Password length must be positive"
  | .headerNotOneLine => "Header values may not contain linefeed or carriage return characters"
  | .addressNotOneLine => "invalid arguments; address parts cannot contain CR or LF"
  | .mailServerMissing => "ONBOARD_SMTP_HOST is required when email_provider is 'smtp'"
  | .duplicate _ message => message
  | .collaborator message => message
  | .caused message _ => message
  | .foreign _ message => message

/-- How a failure reads inside another message.  The storage puts its own name before it; the
reference to its manual that it adds on a line of its own is left out. -/
def report : Failure → String
  | .storageClosed => "(sqlite3.OperationalError) " ++ message .storageClosed
  | e => e.message

/-- Whether a workflow has already put the failure into its own words. -/
def isCollaborator : Failure → Bool
  | .collaborator _ => true
  | .caused _ _ => true
  | _ => false

/-- What a failure is called when it has nothing to say. -/
def label : Failure → String
  | .duplicate _ _ => "UniquenessViolationError"
  | .collaborator _ => "CollaboratorError"
  | .caused _ _ => "CollaboratorError"
  | .foreign kind _ => kind
  | .notAHash => "InvalidHashError"
  | e => e.message

/-- How a failure reads where an empty text would not be noticed. -/
def description (e : Failure) : String := if e.report = "" then e.label else e.report

end Failure
end Enrollment
