/-
Mail servers, and the conversation in which a message is handed to one.

The message is made ready before the server is called, so a message that cannot travel costs no
connection.  A connection that was opened is closed, however the conversation ends.
-/
import Enrollment.Mail.Mime
import Enrollment.Settings.Reader

namespace Enrollment.Mail

/-- A mail server and how it is reached. -/
structure Server where
  host : String
  port : Int := 587
  username : Option String := none
  password : Option String := none
  /-- Whether a plain connection is made secure once it stands. -/
  useTls : Bool := true
  /-- Whether the connection is secure from its first byte; this wins over `useTls`. -/
  useSsl : Bool := false
  timeout : Int := 10
deriving DecidableEq

namespace Server

/-- Whether the connection is secure from its first byte. -/
def implicitTls (s : Server) : Bool := s.useSsl

/-- Whether the connection is made secure once it stands. -/
def startTls (s : Server) : Bool := s.useTls && !s.useSsl

/-- A server from named values. -/
def read (values : List (String × Json)) : Except (List Settings.Problem) Server :=
  let src : Settings.Source := { values }
  let d : Server := { host := "" }
  let (server, problems) := StateT.run (m := Id) (s := []) do
    return {
      host := ← src.take "host" Settings.text d.host
      port := ← src.take "port" Settings.whole d.port
      username := ← src.take "username" Settings.optionalText d.username
      password := ← src.take "password" Settings.optionalText d.password
      useTls := ← src.take "use_tls" Settings.flag d.useTls
      useSsl := ← src.take "use_ssl" Settings.flag d.useSsl
      timeout := ← src.take "timeout" Settings.whole d.timeout }
  if problems.isEmpty then .ok server else .error problems

/-- The server that the settings name; a name is needed. -/
def ofSettings (s : Settings) : Except Failure Server :=
  match s.smtpHost.filter (· ≠ "") with
  | none => .error .mailServerMissing
  | some host => .ok {
      host
      port := s.smtpPort
      username := s.smtpUsername
      password := s.smtpPassword
      useTls := s.smtpUseTls
      useSsl := s.smtpUseSsl
      timeout := s.smtpTimeout }

end Server

/-- Where messages go: into the log, or to a mail server. -/
inductive Carrier where
  | log
  | server (s : Server)
deriving DecidableEq

/-- The carrier that the settings choose. -/
def Carrier.ofSettings (s : Settings) : Except Failure Carrier :=
  match s.delivery with
  | .log => .ok .log
  | .smtp => (Server.ofSettings s).map .server

/-! ### Handing over -/

/-- What the program says to a server. -/
inductive Exchange where
  | connect (s : Server)
  | login (username password : String)
  | send (m : Mime)
  | close
deriving DecidableEq

/-- Where the conversation breaks, if it does. -/
structure Breaks where
  connect : Option Failure := none
  login : Option Failure := none
  send : Option Failure := none

/-- One exchange, after those that went before. -/
def exchange (breaks : Option Failure) (e : Exchange) : StateM (List Exchange) (Except Failure Unit) :=
  fun said => (match breaks with
    | some f => .error f
    | none => .ok (), said ++ [e])

/-- The conversation over a connection that stands. -/
def Server.converse (s : Server) (breaks : Breaks) (m : Mime) :
    StateM (List Exchange) (Except Failure Unit) := do
  let greeted ← match s.username.filter (· ≠ "") with
    | none => pure (.ok ())
    | some user => exchange breaks.login (.login user (s.password.getD ""))
  match greeted with
  | .error f => return .error f
  | .ok () => exchange breaks.send (.send m)

/-- Hands a message to the server: whether it was accepted, and what was said. -/
def Server.deliver (s : Server) (breaks : Breaks) (m : Message) :
    Except Failure Bool × List Exchange :=
  match m.mime with
  | .error f => (.error f, [])
  | .ok mime => StateT.run (m := Id) (s := []) do
    match ← exchange breaks.connect (.connect s) with
    | .error f => return .error f
    | .ok () =>
      let ended ← s.converse breaks mime
      modify (· ++ [.close])
      return ended.map fun _ => true

end Enrollment.Mail
