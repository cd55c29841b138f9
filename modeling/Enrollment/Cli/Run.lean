/-
The running of commands, and what the caller sees of it: two streams of text and an exit status.

A command has a session of its own, and what it does not commit is dropped at its end.  The status
is zero exactly when the command did what it says: for `register` and `link`, when an account was
stored.
-/
import Enrollment.Cli.Command
import Enrollment.Directory.Layout
import Enrollment.Mail.Server
import Enrollment.Service

namespace Enrollment.Cli

/-- A failure that no command puts into words of its own. -/
inductive Escape where
  | settings (problems : List Settings.Problem)
  | failure (e : Failure)
deriving DecidableEq

/-- How a command ended. -/
structure Ended where
  status : Nat := 0
  out : String := ""
  err : String := ""
  escaped : Option Escape := none
  /-- Whether it ended because the input did while something was asked for. -/
  asking : Bool := false
  /-- What was logged meanwhile, as far as it is grave enough. -/
  log : List Log.Event := []

namespace Ended

/-- The command did what it says. -/
def success (out : String) (err : String := "") : Ended := { out, err }

/-- The command did not do what it says, for a reason that is shown. -/
def failed (err : String) (out : String := "") : Ended := { status := 1, out, err }

/-- The command was ended by a failure. -/
def escape (e : Escape) (err : String := "") : Ended := { status := 1, err, escaped := some e }

/-- What is shown as help. -/
def usage : String := "Usage: onboard [OPTIONS] COMMAND [ARGS]...\n"

/-- The reading of the command line ended without a command. -/
def ofStop : Stop → Ended
  | .refused e => { status := 2, err := "Error: " ++ e.message ++ "\n" }
  | .aborted => { status := 1, err := "Aborted!\n", asking := true }
  | .help true => success usage
  | .help false => { status := 2, err := usage }
  | .version => success "Onboard, version 0.1.0\n"

end Ended

/-- A command at work: it may fail, and changes the world all the same. -/
abbrev Work := ExceptT Failure (StateM World)

/-- Runs a command in a session of its own. -/
def inSession (work : Work Ended) (w : World) : Ended × World :=
  match work w with
  | (.ok e, w) => (e, w.rollback)
  | (.error e, w) => (.escape (.failure e), w.rollback)

/-! ### Texts -/

/-- A truth value as shown. -/
def shownFlag (b : Bool) : String := if b then "True" else "False"

/-- An account as shown. -/
def shownUser (u : User) : String :=
  "User ID:   " ++ u.id.getD "None" ++ "\nLogin:     " ++ u.login ++ "\nType:      " ++
    u.type.name ++ "\nCan login: " ++ shownFlag u.canLogin ++ "\n"

/-- The settings as shown. -/
def shownSettings (s : Settings) : String :=
  "\nOnboard v" ++ s.appVersion ++ "\n" ++ String.ofList (List.replicate 40 '=') ++
    "\n\nEnvironment:    " ++ s.environment.name ++
    "\nDatabase:       " ++ s.databaseUrl ++
    "\nBase URL:       " ++ (if s.baseUrl = "" then "(not set)" else s.baseUrl) ++
    "\nSelf register:  " ++ shownFlag s.selfRegistration ++
    "\nVerify email:   " ++ shownFlag s.verifyEmail ++
    "\nEmail provider: " ++ s.delivery.name ++
    "\nLog level:      " ++ s.logLevel.name ++ "\n\n"

/-- The outcome of a workflow as shown. -/
def Ended.ofOutcome : Option Outcome → Ended
  | none => .failed "Error: registration failed, see log for details\n"
  | some o =>
    let shown := (o.user.map shownUser).getD ""
    let warning := match o.notificationError.filter (· ≠ "") with
      | some e => "Warning: email not sent: " ++ e ++ "\n"
      | none => ""
    match o.rejection with
    | none => .success shown warning
    | some .pendingConfirmation =>
      .success (shown ++ "Account created; email confirmation pending.\n") warning
    | some r => .failed (warning ++ "Rejected: " ++ r.code ++ "\n") shown

/-! ### The commands -/

/-- What is shown when the database is not prepared because the program runs in production. -/
def productionRefusal : String :=
  "ERROR: Running in production mode. Use migrations instead of init-db.\n"

/-- Prepares the database. -/
def prepare (s : Settings) (force : Bool) (w : World) : Ended × World :=
  if s.environment = .production ∧ force = false then (.failed productionRefusal, w)
  else (.success "Database initialized successfully.\n", { w with isOpen := true })

/-- The warning about a key that no policy is stored under. -/
def keyWarning (key : String) : String :=
  if (Policy.Key.ofName? key).isSome then ""
  else "Warning: '" ++ key ++ "' is not a known configuration key\n"

/-- A step of the session. -/
def stepped {α : Type} (change : Directory.Session → Except Failure α × Directory.Session) :
    Work α := fun w => w.step change

/-- Makes the writes of the session lasting. -/
def committed : Work Unit := fun w => w.commit

/-- Stores a text under a key. -/
def configure (key value : String) : Work Ended := do
  let description := (Policy.Key.ofName? key).map (·.description)
  let _ ← stepped fun s => s.configure key (some value) description
  committed
  return .success (key ++ " = " ++ value ++ "\n")

/-- Removes a key. -/
def unset (key : String) : Work Ended := do
  let removed ← stepped fun s => s.unset key
  committed
  return .success (if removed then "Removed " ++ key ++ ".\n" else key ++ " was not set.\n")

/-- A command that comes with a warning, however it ends. -/
def warned (warning : String) (e : Ended) : Ended := { e with err := warning ++ e.err }

/-- A fresh id. -/
def freshId (sv : Service) : Work String :=
  fun w => (.ok (sv.around.freshId w.ids), { w with ids := w.ids + 1 })

/-- Adds a group. -/
def createGroup (sv : Service) (name : String) (description : Option String)
    (makeDefault : Bool) : Work Ended := do
  let known ← (fun w => w.ask fun t => .ok (t.groupNamed? name) : Work (Option Group))
  if known.isSome then
    return .failed ("Error: group '" ++ name ++ "' already exists\n")
  else
    let id ← freshId sv
    let group ← (Group.make id name description : Except Failure Group)
    let group ← stepped fun s => s.createGroup group
    if makeDefault then
      let key := Policy.Key.defaultGroup
      let _ ← stepped fun s => s.configure key.name (some group.id) (some key.description)
    committed
    return .success ("Group ID: " ++ group.id ++ "\n")

/-- Registers an account. -/
def register (sv : Service) (form : Registration.Form) : Work Ended := do
  let _ ← (Mail.Carrier.ofSettings sv.site.settings : Except Failure Mail.Carrier)
  return .ofOutcome (← sv.run (Registration.register sv.site {} form))

/-- Links an identity to its account; a failure of a collaborator is shown. -/
def link (sv : Service) (a : Assertion) (provider : String) : Work Ended := fun w =>
  match sv.run (Linking.linkOrCreate sv.site {} a provider) w with
  | (.ok o, w) => (.ok (.ofOutcome (some o)), w)
  | (.error e, w) =>
    if e.isCollaborator then (.ok (.failed ("Error: " ++ e.message ++ "\n")), w)
    else (.error e, w)

/-- Runs a command. -/
def Command.run (sv : Service) (w : World) : Command → Ended × World
  | .prepare force => Cli.prepare sv.site.settings force w
  | .configure key value =>
    let (e, w) := inSession (Cli.configure key value) w
    (warned (keyWarning key) e, w)
  | .unset key =>
    let (e, w) := inSession (Cli.unset key) w
    (warned (keyWarning key) e, w)
  | .createGroup name description makeDefault =>
    inSession (Cli.createGroup sv name description makeDefault) w
  | .register form => inSession (Cli.register sv form) w
  | .link a provider => inSession (Cli.link sv a provider) w
  | .info => (.success (shownSettings sv.site.settings), w)

/-- What was shown before a command ran. -/
def prompted (shown : String) (e : Ended) : Ended := { e with out := shown ++ e.out }

/-- What a run added to the log, from a level upwards. -/
def logged (level : LogLevel) (before after : World) : List Log.Event :=
  (after.log.drop before.log.length).filter fun e => level.rank ≤ e.level.rank

/-- Runs a command line.  The words in front of the verb and the verb itself are read first, then
the settings, then the words behind the verb. -/
def run (environment : List (String × String)) (around : Surroundings) (words : List String)
    (input : String) (w : World) : Ended × World :=
  match readVerb words (.ofInput input) with
  | (.error stop, _) => (.ofStop stop, w)
  | (.ok (level, verb, rest), d) =>
    match Settings.read { environment } with
    | .error problems => (.escape (.settings problems), w)
    | .ok settings =>
      match verb.read rest d with
      | (.error stop, d) => (prompted d.shown (.ofStop stop), w)
      | (.ok command, d) =>
        let (e, after) := command.run { site := { settings }, around } w
        let e := { e with log := logged (level.getD settings.logLevel) w after }
        (prompted d.shown e, after)

end Enrollment.Cli
