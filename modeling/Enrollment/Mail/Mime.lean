/-
Messages as they travel: headers, and the two bodies as alternatives of one content.

Every line of a body ends in a line feed, and the transfer encoding is chosen by the body: plain
while its lines are short, else the shorter of quoted-printable and base64, judged by the first ten
lines.
-/
import Enrollment.Mail.Header
import Enrollment.Mail.Message
import Enrollment.Text.QuotedPrintable

namespace Enrollment.Mail

open Enrollment.Text

/-- How the bytes of a body are written. -/
inductive TransferEncoding where
  | sevenBit
  | eightBit
  | quotedPrintable
  | base64
deriving DecidableEq

/-- The name of a transfer encoding in a header. -/
def TransferEncoding.name : TransferEncoding → String
  | .sevenBit => "7bit"
  | .eightBit => "8bit"
  | .quotedPrintable => "quoted-printable"
  | .base64 => "base64"

/-- The longest line, in bytes, that is sent as it is. -/
def longestLine : Nat := 78

/-- Whether base64 is the shorter way to write some lines. -/
def prefersBase64 (lines : List (List UInt8)) : Bool :=
  Base64.encodedLength (lines.foldl (fun n line => n + line.length + 1) 0) + 1 <
    (QuotedPrintable.encode lines).length

/-- The transfer encoding of a body with the given lines. -/
def TransferEncoding.choose (lines : List (List UInt8)) : TransferEncoding :=
  if lines.all (·.length ≤ longestLine) then
    if lines.all (·.all (· < 128)) then .sevenBit else .eightBit
  else if prefersBase64 (lines.take 10) then .base64
  else .quotedPrintable

/-- One of the alternatives of a message. -/
structure Part where
  type : String
  encoding : TransferEncoding
  content : String
deriving DecidableEq

/-- The character set of every part. -/
def Part.charset : String := "utf-8"

/-- A body as a part. -/
def Part.ofBody (type body : String) : Part :=
  let lines := (bodyLines body.toList).map String.ofList
  { type
    encoding := .choose (lines.map utf8Bytes)
    content := if lines.isEmpty then "\n" else String.join (lines.map (· ++ "\n")) }

/-- A message as it travels. -/
structure Mime where
  headers : List (String × String)
  parts : List Part
deriving DecidableEq

/-- A message made ready to travel.  Its headers are checked in the order in which they stand. -/
def Message.mime (m : Message) : Except Failure Mime := do
  let subject ← headerLine m.subject
  let from' ← sender m.fromEmail m.fromName
  let from' ← headerLine from' >>= shownAddresses
  let recipient ← headerLine m.recipient >>= shownAddresses
  let replyTo ← match m.replyTo.filter (· ≠ "") with
    | none => pure []
    | some r => do pure [("Reply-To", ← headerLine r >>= shownAddresses)]
  return {
    headers := [("Subject", shownText subject), ("From", from'), ("To", recipient)] ++ replyTo ++
      [("MIME-Version", "1.0"), ("Content-Type", "multipart/alternative")]
    parts := [.ofBody "text/plain" m.text, .ofBody "text/html" m.html] }

end Enrollment.Mail
