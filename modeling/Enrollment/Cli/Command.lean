/-
The commands, and how each is written on a command line.
-/
import Enrollment.Account.Assertion
import Enrollment.Cli.Grammar
import Enrollment.Workflow.Registration

namespace Enrollment.Cli

/-- A command. -/
inductive Command where
  /-- Prepares the database; `force` does so even in production. -/
  | prepare (force : Bool)
  /-- Stores a text under a configuration key. -/
  | configure (key value : String)
  /-- Removes a configuration key. -/
  | unset (key : String)
  /-- Adds a group, and makes it the one that new accounts join if so desired. -/
  | createGroup (name : String) (description : Option String) (makeDefault : Bool)
  /-- Registers an account. -/
  | register (form : Registration.Form)
  /-- Links an identity to its account. -/
  | link (assertion : Assertion) (provider : String)
  /-- Shows the settings. -/
  | info
deriving DecidableEq

/-- A word that names a command, what may follow it, and the command that comes of it. -/
structure Verb where
  name : String
  grammar : Grammar := {}
  command : Values → Except UsageError Command

/-- The verb `init-db`. -/
def prepareVerb : Verb where
  name := "init-db"
  grammar := { options := [{ name := "--force", takes := .nothing }] }
  command vs := .ok (.prepare (vs.isSet "--force"))

/-- The verb `config-set`. -/
def configureVerb : Verb where
  name := "config-set"
  grammar := {
    options := [{ name := "--unset", takes := .nothing }]
    operands := [{ name := "KEY" }, { name := "VALUE", required := false }] }
  command vs :=
    if vs.isSet "--unset" then .ok (.unset (vs.text "KEY"))
    else match vs.text? "VALUE" with
      | none => .error .nothingToStore
      | some value => .ok (.configure (vs.text "KEY") value)

/-- The verb `create-group`. -/
def groupVerb : Verb where
  name := "create-group"
  grammar := {
    options := [{ name := "--description" }, { name := "--default", takes := .nothing }]
    operands := [{ name := "NAME" }] }
  command vs := .ok (.createGroup (vs.text "NAME") (vs.text? "--description") (vs.isSet "--default"))

/-- The verb `register`. -/
def registerVerb : Verb where
  name := "register"
  grammar := {
    options := [
      { name := "--login", required := true }, { name := "--password", secret := some "Password" },
      { name := "--email" }, { name := "--first-name" }, { name := "--last-name" },
      { name := "--country" }, { name := "--language-id", takes := .whole },
      { name := "--timezone" }] }
  command vs := .ok (.register {
    login := vs.text "--login"
    password := vs.text? "--password"
    lastName := vs.text? "--last-name"
    firstName := vs.text? "--first-name"
    email := vs.text? "--email"
    country := vs.text? "--country"
    languageId := vs.whole? "--language-id"
    timezone := vs.text? "--timezone" })

/-- The verb `link`. -/
def linkVerb : Verb where
  name := "link"
  grammar := {
    options := [
      { name := "--provider", required := true }, { name := "--uid", required := true },
      { name := "--email" }, { name := "--first-name" }, { name := "--last-name" },
      { name := "--locale" }, { name := "--picture" }] }
  command vs := .ok (.link {
    uid := vs.text "--uid"
    email := vs.text? "--email"
    firstName := vs.text? "--first-name"
    lastName := vs.text? "--last-name"
    locale := vs.text? "--locale"
    picture := vs.text? "--picture" } (vs.text "--provider"))

/-- The verb `info`. -/
def infoVerb : Verb where
  name := "info"
  command _ := .ok .info

/-- All verbs. -/
def verbs : List Verb :=
  [prepareVerb, configureVerb, groupVerb, registerVerb, linkVerb, infoVerb]

/-- The verb of a name. -/
def verb? (name : String) : Option Verb := verbs.find? (·.name = name)

/-- What may stand in front of the verb. -/
def mainGrammar : Grammar where
  options := [
    { name := versionOption, takes := .nothing },
    { name := "--log-level", takes := .oneOf (LogLevel.all.map LogLevel.name) }]
  mixed := false

/-- Reads the words in front of the verb: the log level that is asked for, if any, the verb, and
the words that follow it. -/
def readVerb (words : List String) : Reading (Option LogLevel × Verb × List String) := do
  if words.isEmpty then throw (.help false)
  let (vs, left) ← mainGrammar.read words
  let level := (vs.text? "--log-level").bind fun s => LogLevel.all.find? (·.name = s)
  match left with
  | [] => throw (.refused .commandMissing)
  | name :: rest =>
    match verb? name with
    | none => throw (.refused (.unknownCommand name))
    | some v => return (level, v, rest)

/-- Reads the words that follow a verb. -/
def Verb.read (v : Verb) (words : List String) : Reading Command := do
  let (vs, left) ← v.grammar.read words
  if !left.isEmpty then throw (.refused (.superfluous left))
  match v.command vs with
  | .ok c => return c
  | .error e => throw (.refused e)

end Enrollment.Cli
