/-
What one run of the program draws on: random bytes and the time at which it began.
-/
import Enrollment.Credential.Password
import Enrollment.Service

namespace Enrollment

/-- The point in time a number of microseconds after the start of 1970, at Greenwich. -/
def Timestamp.ofEpoch (microseconds : Nat) : Timestamp :=
  let seconds := microseconds / 1000000
  -- Years are counted from a March, so that the day a leap year adds comes last.
  let days := seconds / 86400 + 719468
  let dayOfEra := days % 146097
  let yearOfEra := (dayOfEra - dayOfEra / 1460 + dayOfEra / 36524 - dayOfEra / 146096) / 365
  let dayOfYear := dayOfEra - (365 * yearOfEra + yearOfEra / 4 - yearOfEra / 100)
  let monthFromMarch := (5 * dayOfYear + 2) / 153
  let month := if monthFromMarch < 10 then monthFromMarch + 3 else monthFromMarch - 9
  { year := days / 146097 * 400 + yearOfEra + (if month ≤ 2 then 1 else 0)
    month
    day := dayOfYear - (153 * monthFromMarch + 2) / 5 + 1
    hour := seconds / 3600 % 24
    minute := seconds / 60 % 60
    second := seconds % 60
    microsecond := microseconds % 1000000
    offset := some 0 }

namespace Cli

/-- Random bytes and a point in time. -/
structure Supply where
  bytes : Array UInt8
  now : Timestamp

namespace Supply

/-- How many random bytes a run is supplied with. -/
def enough : Nat := 65536

/-- The number of the first byte that passwords are drawn from. -/
def passwordBytes : Nat := 4096

/-- `n` bytes from a place on; behind the last byte follows the first. -/
def slice (s : Supply) (start n : Nat) : List UInt8 :=
  (List.range n).map fun i => s.bytes.getD ((start + i) % s.bytes.size) 0

/-- Bytes in small hexadecimal digits. -/
def hex (bytes : List UInt8) : String :=
  String.ofList (bytes.flatMap fun b => Text.hexDigits 2 b.toNat)

/-- Sixteen random bytes as the text of an id, marked as a random one. -/
def idText (bytes : List UInt8) : String :=
  let marked := bytes.mapIdx fun i b =>
    if i = 6 then b % 16 + 64 else if i = 8 then b % 64 + 128 else b
  "-".intercalate [hex (marked.take 4), hex ((marked.drop 4).take 2), hex ((marked.drop 6).take 2),
    hex ((marked.drop 8).take 2), hex (marked.drop 10)]

/-- What the workflows draw on. -/
def surroundings (s : Supply) : Surroundings where
  freshId n := idText (s.slice (64 * n) 16)
  token n := idText (s.slice (64 * n + 16) 16)
  runId n := "wf_" ++ hex (s.slice (64 * n + 32) 6)
  now := s.now
  hash password := .ok (Credential.hash Credential.argon2 (s.slice 48 Credential.saltLength) password)
  randomPassword := Credential.random fun n =>
    (Credential.wordOf (s.slice (passwordBytes + 4 * n) 4)).toNat

end Supply
end Cli
end Enrollment
