/-
The values of a message's headers, as a mail program shows them.

A value is one line.  Running text is shown with its encoded words decoded (`shownText`), and the
blanks between two encoded words belong to neither.  A list of addresses is shown address by
address (`shownAddresses`).
-/
import Enrollment.Account.Failure
import Enrollment.Mail.Address

namespace Enrollment.Mail

open Enrollment.Text

/-- A header value, which must not go on in a second line. -/
def headerLine (s : String) : Except Failure String :=
  if hasSecondLine s.toList then .error .headerNotOneLine else .ok s

/-! ### Running text -/

/-- A stretch of running text. -/
inductive Stretch where
  | plain (s : List Char)
  | blank (s : List Char)
  | decoded (s : List Char)

/-- The characters of a stretch. -/
def Stretch.chars : Stretch → List Char
  | .plain s => s
  | .blank s => s
  | .decoded s => s

/-- Whether a text goes on with the mark that ends an encoded word. -/
def hasEndMark : List Char → Bool
  | '?' :: '=' :: _ => true
  | _ :: rest => hasEndMark rest
  | [] => false

/-- Whether a text begins in the form of an encoded word, be it valid or not. -/
def startsEncoded : List Char → Bool
  | '=' :: '?' :: rest =>
    match (cutAt '?' rest).2 with
    | some (m :: '?' :: more) => m.toLower ∈ ['q', 'b'] && hasEndMark more
    | _ => false
  | _ => false

/-- Whether something in the form of an encoded word stands anywhere in a text. -/
def holdsEncoded : List Char → Bool
  | [] => false
  | c :: rest => startsEncoded (c :: rest) || holdsEncoded rest

/-- What stands in front of the first mark that begins an encoded word. -/
def beforeMark : List Char → List Char
  | '=' :: '?' :: _ => []
  | c :: rest => c :: beforeMark rest
  | [] => []

/-- The plain text in front: a whole word, unless an encoded word begins inside it. -/
def plainWord (cs : List Char) : List Char :=
  let word := cs.takeWhile (!isHeaderBlank ·)
  match word with
  | '=' :: '?' :: _ => word
  | _ => if holdsEncoded word then beforeMark word else word

/-- The stretches of running text; `fuel` bounds their number. -/
def stretches : (fuel : Nat) → List Char → List Stretch
  | 0, _ => []
  | _, [] => []
  | fuel + 1, c :: rest =>
    let cs := c :: rest
    if isHeaderBlank c then
      .blank (cs.takeWhile isBlank) :: stretches fuel (cs.dropWhile isBlank)
    else
      match takeEncoded? cs with
      | some (s, after) => .decoded s :: stretches fuel after
      | none =>
        let word := plainWord cs
        .plain word :: stretches fuel (cs.drop word.length)

/-- Stretches without the blanks between two encoded words. -/
def joinDecoded : List Stretch → List Stretch
  | .decoded a :: .blank _ :: .decoded b :: rest => .decoded a :: joinDecoded (.decoded b :: rest)
  | s :: rest => s :: joinDecoded rest
  | [] => []

/-- Running text as shown. -/
def shownText (s : String) : String :=
  String.ofList ((joinDecoded (stretches s.length s.toList)).flatMap Stretch.chars)

/-! ### Addresses -/

/-- The mailboxes of an entry. -/
def Recipient.mailboxes : Recipient → List Mailbox
  | .mailbox m => [m]
  | .group _ members => members

/-- Whether a line end has found its way into an address. -/
def Mailbox.isBroken (m : Mailbox) : Bool :=
  (m.name ++ m.localPart ++ m.domain).toList.any fun c => c = '\r' || c = '\n'

/-- A list of addresses as shown. -/
def shownAddresses (s : String) : Except Failure String :=
  let list := recipients s
  if (list.flatMap Recipient.mailboxes).any Mailbox.isBroken then .error .addressNotOneLine
  else .ok (", ".intercalate (list.map Recipient.shown))

end Enrollment.Mail
