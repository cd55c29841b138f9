/-
The program: runs the command that its arguments spell, on the database that the settings name.

The database is a file that holds a snapshot; it exists once it was prepared.  Entries that a
command asks for are read line by line, and the command is taken up again with each.
-/
import Enrollment.Cli.Run
import Enrollment.Cli.Supply
import Enrollment.Directory.Snapshot
import Enrollment.Json.Reader
import Enrollment.Json.Writer
import Std.Time.DateTime.Timestamp

namespace Enrollment.Cli

/-- The environment variables that settings are read from. -/
def environment : IO (List (String × String)) :=
  (Settings.toJson {}).members.filterMapM fun (name, _) => do
    let key := "ONBOARD_" ++ name.toUpper
    return (← IO.getEnv key).map (key, ·)

/-- The file that a database URL names: what follows the last three slashes in a row. -/
def fileOf (url : String) : String := ((url.splitOn ":///").getLast?).getD url

/-- The folder of a file. -/
def folderOf (file : String) : String := "/".intercalate (file.splitOn "/").dropLast

/-- What a run is supplied with. -/
def supply : IO Supply := do
  let time ← Std.Time.Timestamp.now
  let bytes ← IO.getRandomBytes (USize.ofNat Supply.enough)
  return ⟨bytes.data, .ofEpoch (time.toNanosecondsSinceUnixEpoch.val.toNat / 1000)⟩

/-- The world with the database of a file; closed where there is no such file. -/
def load (file : String) : IO World := do
  match ← (IO.FS.readFile file).toBaseIO with
  | .error _ => return { isOpen := false }
  | .ok text =>
    match (Json.parse? text).bind Directory.Tables.ofJson? with
    | none => throw (IO.userError (file ++ " is not a database"))
    | some tables => return { session := { lasting := tables } }

/-- Writes the database of a world to its file, if it was prepared. -/
def save (file : String) (w : World) : IO Unit := do
  if w.isOpen then
    if folderOf file ≠ "" then IO.FS.createDirAll (folderOf file)
    IO.FS.writeFile file w.session.lasting.toJson.render

/-- Runs a command line; `lines` were entered so far and `shown` characters of output written. -/
partial def converse (env : List (String × String)) (around : Surroundings) (words : List String)
    (w : World) (lines : List String) (shown : Nat) : IO (Ended × World) := do
  let (e, after) := run env around words (String.join lines) w
  if !e.asking then
    IO.print (e.out.drop shown)
    return (e, after)
  let asked := (e.out.dropEnd 1).toString
  IO.print (asked.drop shown)
  (← IO.getStdout).flush
  let line ← (← IO.getStdin).getLine
  if line.isEmpty then
    IO.println ""
    return (e, after)
  converse env around words w (lines ++ [line]) asked.length

/-- The text of a failure that no command puts into words. -/
def Escape.message : Escape → String
  | .settings problems => Settings.report problems
  | .failure e => e.message

/-- A log line as text. -/
def lineText (settings : Settings) (time : String) (e : Log.Event) : String :=
  match e.line? { settings with logLevel := .debug } time with
  | some (.object j) => j.render
  | _ => time ++ " [" ++ Log.levelName e.level ++ "] " ++ e.text

/-- Writes what a command logged and what it has to say, and gives its status. -/
def report (settings : Settings) (time : Timestamp) (e : Ended) : IO UInt32 := do
  for event in e.log do
    IO.println (lineText settings time.text event)
  IO.eprint e.err
  if let some escaped := e.escaped then
    IO.eprintln ("Error: " ++ escaped.message)
  return UInt32.ofNat e.status

/-- Runs the command that words spell, and gives its status. -/
def program (words : List String) : IO UInt32 := do
  let env ← environment
  let given ← supply
  let settings := (Settings.read { environment := env }).toOption.getD {}
  let file := fileOf settings.databaseUrl
  let (e, after) ← converse env given.surroundings words (← load file) [] 0
  save file after
  report settings given.now e

end Enrollment.Cli

/-- Runs the command that the arguments spell. -/
def main (words : List String) : IO UInt32 := Enrollment.Cli.program words
